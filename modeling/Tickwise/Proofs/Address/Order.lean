import Mathlib
import Tickwise.Address

/-!
# The order of addresses is that of their bytes and of their digits

Addresses are ordered as numbers.  Bytes and lower-case digits are written most significant first
and in a fixed count, and a greater digit is written as a greater character, so comparing two
addresses byte by byte or digit by digit comes to the same.  The digits are read in any case.

* `append_singleton_lt_iff` — lists of one length are compared by what stands before the last entry;
* `Positional.write_lt_iff` — digits of a fixed count are ordered as the numbers they stand for;
* `Address.bytes_lt_iff`, `Address.digitText_lt_iff` — addresses by their bytes, and by the text of
  their digits;
* `Address.SpelledBy`, `Address.ofHex?_eq_some_iff` — the spellings of an address, in any case.
-/

namespace Tickwise

/-! ## Digits of a fixed count -/

section Lists

variable {α : Type} [LT α]

/-- Lists of one length are compared by what stands before the last entry, and then by that. -/
theorem append_singleton_lt_iff {xs ys : List α} (h : xs.length = ys.length) (a b : α) :
    xs ++ [a] < ys ++ [b] ↔ xs < ys ∨ xs = ys ∧ a < b := by
  induction xs generalizing ys with
  | nil =>
    cases ys with
    | nil => simp [List.cons_lt_cons_iff]
    | cons y ys => simp at h
  | cons x xs ih =>
    cases ys with
    | nil => simp at h
    | cons y ys =>
      have hlength : xs.length = ys.length := by simpa using h
      simp only [List.cons_append, List.cons_lt_cons_iff, ih hlength, List.cons.injEq]
      tauto

/-- Numbers are compared by what stands before the last digit, and then by that. -/
theorem lt_iff_div_mod (base m n : ℕ) :
    m < n ↔ m / base < n / base ∨ m / base = n / base ∧ m % base < n % base := by
  have hm := Nat.div_add_mod m base
  have hn := Nat.div_add_mod n base
  rcases lt_trichotomy (m / base) (n / base) with hlt | heq | hgt
  · have : m < n := Nat.lt_of_div_lt_div hlt
    simp [hlt, this]
  · rw [heq] at hm
    simp only [heq, lt_irrefl, false_or, true_and]
    omega
  · have : n < m := Nat.lt_of_div_lt_div hgt
    simp [hgt.not_gt, hgt.ne', this.not_gt]

/-- A way to write a fixed count of digits, most significant first, each as an entry that is
ordered as the digit is. -/
structure Positional (base : ℕ) (entry : ℕ → α) (write : ℕ → ℕ → List α) : Prop where
  write_zero : ∀ n, write 0 n = []
  write_succ : ∀ width n, write (width + 1) n = write width (n / base) ++ [entry (n % base)]
  entry_lt_iff : ∀ i < base, ∀ j < base, entry i < entry j ↔ i < j

namespace Positional

variable {base : ℕ} {entry : ℕ → α} {write : ℕ → ℕ → List α}

theorem length_write (h : Positional base entry write) (width n : ℕ) :
    (write width n).length = width := by
  induction width generalizing n with
  | zero => simp [h.write_zero]
  | succ width ih => simp [h.write_succ, ih]

/-- **Digits of a fixed count are ordered as the numbers that they stand for.** -/
theorem write_lt_iff [Std.Irrefl (α := α) (· < ·)] (h : Positional base entry write)
    (hb : 0 < base) {width m n : ℕ} (hm : m < base ^ width) (hn : n < base ^ width) :
    write width m < write width n ↔ m < n := by
  induction width generalizing m n with
  | zero =>
    rw [pow_zero, Nat.lt_one_iff] at hm hn
    simp [hm, hn, h.write_zero]
  | succ width ih =>
    have hm' : m / base < base ^ width := Nat.div_lt_of_lt_mul (by rwa [mul_comm, ← pow_succ])
    have hn' : n / base < base ^ width := Nat.div_lt_of_lt_mul (by rwa [mul_comm, ← pow_succ])
    have hlength := (h.length_write width (m / base)).trans (h.length_write width (n / base)).symm
    -- the higher digits of two numbers are the same only where neither number is less
    have hinj : write width (m / base) = write width (n / base) ↔ m / base = n / base := by
      refine ⟨fun heq => ?_, fun heq => by rw [heq]⟩
      apply le_antisymm
      · exact not_lt.1 fun hlt => List.lt_irrefl _ (heq ▸ (ih hn' hm').2 hlt)
      · exact not_lt.1 fun hlt => List.lt_irrefl _ (heq ▸ (ih hm' hn').2 hlt)
    rw [h.write_succ, h.write_succ, append_singleton_lt_iff hlength, ih hm' hn', hinj,
      h.entry_lt_iff _ (Nat.mod_lt _ hb) _ (Nat.mod_lt _ hb), ← lt_iff_div_mod]

end Positional

end Lists

theorem positional_digits : Positional 16 Nat.digitChar Hex.digits where
  write_zero _ := rfl
  write_succ _ _ := rfl
  entry_lt_iff := by decide

theorem positional_bytes : Positional 256 UInt8.ofNat Bytes.ofNat where
  write_zero _ := rfl
  write_succ _ _ := rfl
  entry_lt_iff i hi j hj := by
    rw [UInt8.lt_iff_toNat_lt, UInt8.toNat_ofNat_of_lt' hi, UInt8.toNat_ofNat_of_lt' hj]

namespace Address

/-! ## Two addresses -/

variable {a b : Address}

/-- Addresses are ordered as their bytes. -/
theorem bytes_lt_iff : a.bytes < b.bytes ↔ a < b :=
  positional_bytes.write_lt_iff (by decide) a.isLt b.isLt

/-- Addresses are ordered as the texts of their digits. -/
theorem digitText_lt_iff : String.ofList a.digits < String.ofList b.digits ↔ a < b := by
  rw [String.lt_iff, String.toList_ofList, String.toList_ofList]
  exact positional_digits.write_lt_iff (by decide) a.isLt b.isLt

end Address

/-! ## Spellings -/

namespace Hex

theorem toNat_lt_of_value? {c : Char} (h : value? c ≠ none) : c.toNat < 128 := by
  by_contra hc
  have h9 : ¬ c ≤ '9' := fun hle => by
    have : c.toNat ≤ 57 := hle
    omega
  have hf : ¬ c ≤ 'f' := fun hle => by
    have : c.toNat ≤ 102 := hle
    omega
  have hF : ¬ c ≤ 'F' := fun hle => by
    have : c.toNat ≤ 70 := hle
    omega
  simp [value?, h9, hf, hF] at h

/-- A digit in lower case is the one that its value is written as. -/
theorem toLower_of_value? {c : Char} {n : ℕ} (h : value? c = some n) :
    n < 16 ∧ c.toLower = Nat.digitChar n := by
  have all : ∀ k : Fin 128, ∀ m ∈ value? (Char.ofNat k),
      m < 16 ∧ (Char.ofNat k).toLower = Nat.digitChar m := by decide
  have hc : c.toNat < 128 := toNat_lt_of_value? (by simp [h])
  have hm := all ⟨c.toNat, hc⟩ n
  rw [Char.ofNat_toNat] at hm
  exact hm h

/-- The case of a character does not change its value as a digit. -/
theorem value?_toLower (c : Char) : value? c.toLower = value? c := by
  cases h : value? c with
  | some n =>
    obtain ⟨hn, hlower⟩ := toLower_of_value? h
    rw [hlower, value?_digitChar hn]
  | none =>
    by_cases hupper : c.isUpper = true
    · have hc : c.toNat < 128 := by
        simp only [Char.isUpper, decide_eq_true_eq] at hupper
        have : c.toNat ≤ 90 := hupper.2
        omega
      have all : ∀ k : Fin 128, value? (Char.ofNat k) = none →
          value? (Char.ofNat k).toLower = none := by decide
      have hk := all ⟨c.toNat, hc⟩
      rw [Char.ofNat_toNat] at hk
      exact hk h
    · rw [Char.toLower_eq_of_not_isUpper hupper, h]

theorem ofDigits?_map_toLower (text : List Char) :
    ofDigits? (text.map Char.toLower) = ofDigits? text := by
  simp [ofDigits?, List.foldlM_map, value?_toLower]

/-- Digits that are read as a number are the number's own digits but for their case. -/
theorem map_toLower_of_ofDigits? {text : List Char} {n : ℕ} (h : ofDigits? text = some n) :
    n < 16 ^ text.length ∧ text.map Char.toLower = digits text.length n := by
  induction text using List.reverseRecOn generalizing n with
  | nil =>
    have hn : 0 = n := by simpa [ofDigits?] using h
    simp [← hn, digits]
  | append_singleton text c ih =>
    rw [ofDigits?_append_digit, Option.bind_eq_some_iff] at h
    obtain ⟨high, hhigh, hlast⟩ := h
    obtain ⟨low, hlow, rfl⟩ := Option.map_eq_some_iff.1 hlast
    obtain ⟨hlt, htext⟩ := ih hhigh
    obtain ⟨hlow16, hc⟩ := toLower_of_value? hlow
    have hdiv : (16 * high + low) / 16 = high := by omega
    have hmod : (16 * high + low) % 16 = low := by omega
    rw [List.length_append, List.length_singleton, List.map_append, List.map_singleton, digits,
      hdiv, hmod, htext, hc, pow_succ]
    exact ⟨by omega, rfl⟩

end Hex

namespace Address

variable {a : Address} {text : List Char}

/-- A text spells an address if its digits are those of the address but for their case. -/
def SpelledBy (a : Address) (text : List Char) : Prop :=
  (Hex.unmarked text).map Char.toLower = a.digits

instance (a : Address) (text : List Char) : Decidable (a.SpelledBy text) :=
  inferInstanceAs (Decidable (_ = _))

/-- **An address is read from its spellings and from nothing else.** -/
theorem ofHex?_eq_some_iff : ofHex? text = some a ↔ a.SpelledBy text := by
  rw [ofHex?, SpelledBy]
  constructor
  · intro h
    split at h
    · rename_i hlength
      obtain ⟨n, hn, rfl⟩ := Option.map_eq_some_iff.1 h
      obtain ⟨hlt, htext⟩ := Hex.map_toLower_of_ofDigits? hn
      rw [hlength] at hlt htext
      have hmod : n % pow2 160 = n := Nat.mod_eq_of_lt hlt
      rw [htext, digits, toNat_ofNat, hmod]
    · cases h
  · intro h
    have hlength : (Hex.unmarked text).length = 40 := by
      rw [← List.length_map (f := Char.toLower), h, length_addressDigits]
    rw [if_pos hlength, ← Hex.ofDigits?_map_toLower, h, digits, Hex.ofDigits?_digits,
      Nat.mod_eq_of_lt a.isLt, Option.map_some, ofNat_toNat]

end Address

end Tickwise
