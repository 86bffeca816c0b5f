import Mathlib
import Tickwise.Proofs.Decimal.Units

/-!
# The forms of display units

Base units are printed with the places of their token.  A token without places leaves the digits
as they are; otherwise the point stands among the digits, or before them with up to five zeros
between, or, where it would take more zeros, behind the first digit with an exponent.  Whichever
form it is, the text is read back as the same base units.

* `DisplayForm` — the forms in which digits are printed with so many places;
* `displayForm_magnitudeText` — every number of places has one of them;
* `Token.parseUnits_formatUnits` — and all of them are read back.
-/

namespace Tickwise

namespace Decimal

/-- The forms in which digits are printed with so many places. -/
inductive DisplayForm (digits : List Char) (places : ℕ) : List Char → Prop
  | whole : places = 0 → DisplayForm digits places digits
  | pointed (before after : List Char) : digits = before ++ after → before ≠ [] → 0 < places →
      after.length = places → DisplayForm digits places (before ++ '.' :: after)
  | padded (zeros : ℕ) : zeros ≤ leadingZeroLimit → digits.length + zeros = places →
      DisplayForm digits places ('0' :: '.' :: List.replicate zeros '0' ++ digits)
  | scientific (first : Char) (after : List Char) (exponent : ℕ) : digits = first :: after →
      digits.length + leadingZeroLimit < places → after.length + exponent = places →
      DisplayForm digits places (first :: (if after = [] then [] else '.' :: after) ++
        'E' :: '-' :: Nat.toDigits 10 exponent)

theorem toList_toString_neg {n : ℕ} (h : 0 < n) :
    (toString (-(n : ℤ))).toList = '-' :: Nat.toDigits 10 n := by
  rw [Int.toString_eq_repr, Int.repr_eq_if, if_neg (by omega), neg_neg, Int.toNat_natCast,
    String.toList_append, Nat.toList_repr]
  rfl

/-- Digits with a count of places are printed in one of the forms. -/
theorem displayForm_magnitudeText {digits : List Char} (hdigits : digits ≠ []) (places : ℕ) :
    DisplayForm digits places (magnitudeText digits places) := by
  have hlength : 0 < digits.length := List.length_pos_iff.2 hdigits
  unfold magnitudeText
  dsimp only
  split_ifs with hscientific hexponent hwhole hinside
  · obtain ⟨first, after, rfl⟩ := List.exists_cons_of_ne_nil hdigits
    rw [List.length_cons] at hscientific ⊢
    have hfar : after.length + 1 + leadingZeroLimit < places := by omega
    have hneg : ((after.length + 1 : ℕ) : ℤ) - 1 - places = -((places - after.length : ℕ) : ℤ) := by
      omega
    rw [hneg, toList_toString_neg (by omega)]
    have hplaces : after.length + (places - after.length) = places := by omega
    cases after with
    | nil => exact .scientific first [] _ rfl hfar hplaces
    | cons second others => exact .scientific first (second :: others) _ rfl hfar hplaces
  · exact absurd hexponent (by unfold trailingZeroLimit; omega)
  · obtain rfl : places = 0 := by omega
    have hnone : List.replicate (-((0 : ℕ) : ℤ)).toNat '0' = [] := rfl
    rw [hnone, List.append_nil]
    exact .whole rfl
  · refine .pointed _ _ (List.take_append_drop _ digits).symm ?_ (by omega) ?_
    · rw [← List.length_pos_iff, List.length_take]
      omega
    · rw [List.length_drop]
      omega
  · exact .padded _ (by omega) (by omega)

end Decimal

/-- **Base units that are printed in display units are read back exactly, whatever the form.**
Nothing is printed as a bare zero, and all else in the form that its digits and places ask for. -/
theorem Token.parseUnits_formatUnits (token : Token) (hdecimals : token.decimals < 2 ^ 8)
    {units : ℕ} (h : units < wordLimit) :
    token.parseUnits (token.formatUnits units).text = .ok units ∧
      (units = 0 → (token.formatUnits units).text = "0") ∧
      (0 < units → Decimal.DisplayForm (Nat.toDigits 10 units) token.decimals
        (token.formatUnits units).text.toList) := by
  refine ⟨token.parseUnits_text_formatUnits hdecimals h, ?_, fun hpos => ?_⟩
  · rintro rfl
    rfl
  · have hne : ¬ (token.formatUnits units).coefficient = 0 := Int.natCast_ne_zero.2 hpos.ne'
    have hsign : ¬ (token.formatUnits units).coefficient < 0 := not_lt.2 (Int.natCast_nonneg units)
    have hchars : (token.formatUnits units).chars =
        Decimal.magnitudeText (Nat.toDigits 10 units) token.decimals := by
      rw [Decimal.chars, if_neg hne, if_neg hsign]
      rfl
    rw [Decimal.text, String.toList_ofList, hchars]
    exact Decimal.displayForm_magnitudeText Nat.toDigits_ne_nil _

/-- One form after the other, up to the most places that a token can have. -/
theorem Token.parseUnits_formatUnits_of_each_form :
    (18 < 2 ^ 8 ∧ 6 < 2 ^ 8 ∧ 255 < 2 ^ 8) ∧
      (1500000000000000000 < wordLimit ∧ 25 < wordLimit ∧ 15 < wordLimit) ∧
      (⟨.zero, 18, "AAA", "AAA"⟩ : Token).parseUnits "1.500000000000000000" =
        .ok 1500000000000000000 ∧
      (⟨.zero, 6, "BBB", "BBB"⟩ : Token).parseUnits "0.000025" = .ok 25 ∧
      (⟨.zero, 255, "CCC", "CCC"⟩ : Token).parseUnits "1.5E-254" = .ok 15 := by
  have hread : ∀ {token : Token} {units : ℕ} {text : String}, token.decimals < 2 ^ 8 →
      units < wordLimit → (token.formatUnits units).text = text →
      token.parseUnits text = .ok units := by
    rintro token units _ hdecimals hunits rfl
    exact (token.parseUnits_formatUnits hdecimals hunits).1
  have hpointed : (1500000000000000000 : ℕ) < wordLimit := by decide
  have hpadded : 25 < wordLimit := by decide
  have hscientific : 15 < wordLimit := by decide
  refine ⟨by decide, ⟨hpointed, hpadded, hscientific⟩, ?_, ?_, ?_⟩
  · exact hread (by decide) hpointed (by decide +kernel)
  · exact hread (by decide) hpadded (by decide +kernel)
  · exact hread (by decide) hscientific (by decide +kernel)

end Tickwise
