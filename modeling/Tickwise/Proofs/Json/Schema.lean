import Mathlib
import Tickwise.Json.Schema

/-!
# Numbers, lists and records are read as they are written

A natural number below a limit is read back under that limit, and an integer that fits in some
bits with a sign is read back in those bits.  A list is read back where its items are.  A record
whose fields have different names is read back by these names, whether or not it may hold others.
-/

namespace Tickwise.Json

/-! ## Numbers and texts -/

theorem toNat?_ofNat {limit n : ℕ} (h : n < limit) : (ofNat n).toNat? limit = some n := if_pos h

theorem toInt?_ofInt {bits : ℕ} {n : ℤ} (h : FitsSigned bits n) :
    (ofInt n).toInt? bits = some n := by
  obtain ⟨hlow, hhigh⟩ := h
  by_cases hn : n < 0
  · have habs : (n.natAbs : ℤ) = -n := Int.ofNat_natAbs_of_nonpos hn.le
    have hfits : 0 < n.natAbs ∧ n.natAbs ≤ pow2 (bits - 1) := by omega
    rw [ofInt, decide_eq_true hn, toInt?, if_pos hfits, habs, neg_neg]
  · have habs : (n.natAbs : ℤ) = n := Int.natAbs_of_nonneg (not_lt.mp hn)
    have hfits : n.natAbs < pow2 (bits - 1) := by omega
    rw [ofInt, decide_eq_false hn, toInt?, if_pos hfits, habs]

theorem toText?_ofString (s : String) : (ofString s).toText? = some s := rfl

/-! ## Lists -/

/-- What is read item by item, is read as the list of what the items are read as. -/
theorem mapM_map_eq_some {α β γ : Type} {read? : β → Option γ} {write : α → β} (value : α → γ)
    {items : List α} (h : ∀ item ∈ items, read? (write item) = some (value item)) :
    (items.map write).mapM read? = some (items.map value) := by
  induction items with
  | nil => rfl
  | cons item items ih =>
    have hitem := h item (by simp)
    have hitems := ih fun other hother => h other (by simp [hother])
    simp [List.mapM_cons, hitem, hitems]

theorem toList?_array_map {α : Type} {read? : Json → Option α} {write : α → Json} {items : List α}
    (h : ∀ item ∈ items, read? (write item) = some item) :
    (array (items.map write)).toList? read? = some items := by
  have hitems := mapM_map_eq_some id h
  rwa [List.map_id] at hitems

/-! ## Records -/

section Records

variable {fields : List (String × Json)} {field : String × Json}

/-- A field of a record is the only one of its name. -/
theorem filter_name_eq_singleton (hnames : (fields.map Prod.fst).Nodup) (h : field ∈ fields) :
    fields.filter (fun other => other.1 == field.1) = [field] := by
  induction fields with
  | nil => simp at h
  | cons first fields ih =>
    obtain ⟨hfirst, hothers⟩ := List.nodup_cons.mp hnames
    -- the field is the first one, or its name is not the first one's
    rcases List.mem_cons.mp h with rfl | hmem
    · have hnone : fields.filter (fun other => other.1 == field.1) = [] := by
        apply List.filter_eq_nil_iff.mpr
        intro other hother heq
        exact hfirst (beq_iff_eq.mp heq ▸ List.mem_map_of_mem hother)
      simp [hnone]
    · have hne : ¬ (first.1 == field.1) = true := by
        intro heq
        exact hfirst (beq_iff_eq.mp heq ▸ List.mem_map_of_mem hmem)
      simpa [List.filter_cons, hne] using ih hothers hmem

theorem only?_record (hnames : (fields.map Prod.fst).Nodup) (h : field ∈ fields) :
    only? (fields.map fun field => (some field.1, field.2)) field.1 = some field.2 := by
  have hfilter : (fields.map fun field => (some field.1, field.2)).filter
      (fun other => other.1 == some field.1) = [(some field.1, field.2)] := by
    rw [List.filter_map]
    show (fields.filter fun other => other.1 == field.1).map _ = _
    rw [filter_name_eq_singleton hnames h]
    rfl
  rw [only?, hfilter]

/-- **A record whose fields have different names is read back by these names.** -/
theorem record?_record (extras : Extras) (hnames : (fields.map Prod.fst).Nodup) :
    (record fields).record? extras (fields.map Prod.fst) = some (fields.map Prod.snd) := by
  have hvalues := mapM_map_eq_some Prod.snd fun (field : String × Json) hfield =>
    only?_record hnames hfield
  rw [record, record?, if_pos]
  · exact hvalues
  · simp only [List.all_map, List.all_eq_true, Function.comp_apply, Bool.or_eq_true,
      List.contains_iff_mem]
    intro field hfield
    exact .inr (List.mem_map_of_mem hfield)

end Records

end Tickwise.Json
