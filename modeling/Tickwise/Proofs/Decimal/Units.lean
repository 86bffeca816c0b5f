import Tickwise.Proofs.Decimal.BaseUnits
import Tickwise.Proofs.Decimal.Text

/-!
# Printed amounts are read back

The text of an amount in display units has no blanks, and is read as a decimal of the value that was
printed.  Its places are those of the token, so the base units come back exactly.

* `Printable` — the characters of a printed decimal, none of which is a blank;
* `toUnits_written` — the base units of what is read of display units;
* `Token.parseUnits_text_formatUnits` — the base units of their text.
-/

namespace Tickwise

namespace Text

variable {text : List Char}

theorem dropWhile_isBlank_eq_self (h : ∀ c ∈ text, isBlank c = false) :
    text.dropWhile isBlank = text := by
  cases text with
  | nil => rfl
  | cons c rest =>
    have hc : isBlank c = false := h c (by simp)
    rw [List.dropWhile_cons, hc]
    rfl

/-- Text without blanks stays as it is. -/
theorem trim_eq_self (h : ∀ c ∈ text, isBlank c = false) : trim text = text := by
  have hreverse : ∀ c ∈ text.reverse, isBlank c = false := fun c hc => h c (List.mem_reverse.1 hc)
  rw [trim, trimStart, trimEnd, dropWhile_isBlank_eq_self h, dropWhile_isBlank_eq_self hreverse,
    List.reverse_reverse]

end Text

namespace Decimal

/-! ## The characters of a text -/

/-- A character that decimals are printed with. -/
def Printable (c : Char) : Prop := c.isDigit = true ∨ c ∈ ['-', '+', '.', 'e', 'E']

theorem isBlank_of_printable {c : Char} (h : Printable c) : Text.isBlank c = false := by
  rcases h with hdigit | hother
  · have hrange : 0x30 ≤ c.toNat ∧ c.toNat ≤ 0x39 := by
      simp only [Char.isDigit, Bool.and_eq_true, decide_eq_true_eq] at hdigit
      exact hdigit
    simp only [Text.isBlank, Bool.or_eq_false_iff, Bool.and_eq_false_iff, beq_eq_false_iff_ne,
      decide_eq_false_iff_not]
    omega
  · simp only [List.mem_cons, List.not_mem_nil, or_false] at hother
    rcases hother with rfl | rfl | rfl | rfl | rfl <;> decide

theorem printable_of_mem_toDigits {n : ℕ} {c : Char} (h : c ∈ Nat.toDigits 10 n) : Printable c :=
  .inl (numeral_toDigits n |>.2 c h)

theorem printable_of_mem_toString {e : ℤ} {c : Char} (h : c ∈ (toString e).toList) :
    Printable c := by
  rw [Int.toString_eq_repr, Int.repr_eq_if] at h
  split at h
  · rw [Nat.toList_repr] at h
    exact printable_of_mem_toDigits h
  · rw [String.toList_append, Nat.toList_repr] at h
    rcases List.mem_append.1 h with hsign | hdigit
    · refine .inr ?_
      have hminus : c = '-' := by simpa using hsign
      simp [hminus]
    · exact printable_of_mem_toDigits hdigit

theorem printable_of_mem_replicate {n : ℕ} {c : Char} (h : c ∈ List.replicate n '0') :
    Printable c := by
  rw [List.eq_of_mem_replicate h]
  exact .inl rfl

theorem printable_magnitudeText (n : ℕ) (scale : ℤ) :
    ∀ c ∈ magnitudeText (Nat.toDigits 10 n) scale, Printable c := by
  have hdigits : ∀ c ∈ Nat.toDigits 10 n, Printable c := fun c => printable_of_mem_toDigits
  have htake : ∀ k, ∀ c ∈ (Nat.toDigits 10 n).take k, Printable c := fun k c hc =>
    hdigits c (List.mem_of_mem_take hc)
  have hdrop : ∀ k, ∀ c ∈ (Nat.toDigits 10 n).drop k, Printable c := fun k c hc =>
    hdigits c (List.mem_of_mem_drop hc)
  have hother : ∀ c ∈ ['-', '+', '.', 'e', 'E'], Printable c := fun c => .inr
  unfold magnitudeText
  dsimp only
  split_ifs
  · simp only [List.forall_mem_append, List.forall_mem_cons]
    refine ⟨⟨htake 1, ?_⟩, hother 'E' (by decide), fun c => printable_of_mem_toString⟩
    split
    · exact nofun
    · exact List.forall_mem_cons.2 ⟨hother '.' (by decide), hdrop 1⟩
  · simp only [List.forall_mem_append, List.forall_mem_cons]
    exact ⟨hdigits, hother 'e' (by decide), hother '+' (by decide),
      fun c => printable_of_mem_toString⟩
  · exact List.forall_mem_append.2 ⟨hdigits, fun c => printable_of_mem_replicate⟩
  · simp only [List.forall_mem_append, List.forall_mem_cons]
    exact ⟨htake _, hother '.' (by decide), hdrop _⟩
  · simp only [List.forall_mem_append, List.forall_mem_cons]
    exact ⟨⟨.inl rfl, hother '.' (by decide), fun c => printable_of_mem_replicate⟩, hdigits⟩

/-- A printed decimal has no blanks. -/
theorem isBlank_of_mem_chars {d : Decimal} {c : Char} (h : c ∈ d.chars) :
    Text.isBlank c = false := by
  apply isBlank_of_printable
  unfold chars at h
  split at h
  · rw [List.mem_singleton.1 h]
    exact .inl rfl
  · rcases mem_signed h with rfl | hmem
    · exact .inr (by decide)
    · exact printable_magnitudeText _ _ _ hmem

/-! ## Base units of display units -/

/-- A decimal with places is not padded, so its digits come back as they are. -/
theorem coefficient_written {d : Decimal} (h : 0 ≤ d.scale) :
    d.written.coefficient = d.coefficient := by
  unfold written
  split
  · rename_i hzero
    exact hzero.symm
  split
  · rename_i hscale
    have hnone : (-d.scale).toNat = 0 := Int.toNat_of_nonpos (by omega)
    rw [hnone, pow_zero, mul_one]
  · rfl

/-- What is read of a decimal with as many places as the token has its coefficient as base units. -/
theorem toUnits_written {n decimals : ℕ} (h : n < wordLimit) :
    (⟨n, decimals⟩ : Decimal).written.toUnits decimals = .ok n := by
  have hcoefficient : (⟨n, decimals⟩ : Decimal).written.coefficient = n :=
    coefficient_written (Int.natCast_nonneg decimals)
  have hunits : (⟨n, decimals⟩ : Decimal).written.unitsAt decimals = n := by
    rw [unitsAt_congr (value_written _), unitsAt, sub_self, zpow_zero, mul_one, Int.cast_natCast]
  have hdigits : (⟨n, decimals⟩ : Decimal).written.digitCount ≤ wordDigits := by
    rw [digitCount, hcoefficient, Int.natAbs_natCast]
    exact (digitCount_le_iff (by decide)).2 (h.trans (by decide))
  apply (toUnits_eq_ok_iff (hdigits.trans_lt (by decide))).2
  exact ⟨coefficient_nonneg_of_unitsAt_eq hunits, hunits, h⟩

end Decimal

/-- **Base units that are printed in display units are read back exactly.** -/
theorem Token.parseUnits_text_formatUnits (token : Token) (hdecimals : token.decimals < 2 ^ 8)
    {n : ℕ} (h : n < wordLimit) : token.parseUnits (token.formatUnits n).text = .ok n := by
  have hfits : FitsSigned 64 (token.formatUnits n).scale := by
    show -(9223372036854775808 : ℤ) ≤ token.decimals ∧ (token.decimals : ℤ) < 9223372036854775808
    omega
  have hread : Decimal.ofText? (Text.trim (token.formatUnits n).text.toList) =
      some (token.formatUnits n).written := by
    rw [Decimal.text, String.toList_ofList, Text.trim_eq_self fun c => Decimal.isBlank_of_mem_chars,
      Decimal.ofText?_chars hfits]
  simp only [parseUnits, hread]
  rw [formatUnits, Decimal.toUnits_written h]
  rfl

end Tickwise
