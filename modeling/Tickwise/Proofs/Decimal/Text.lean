import Mathlib
import Tickwise.Decimal.Printer
import Tickwise.Decimal.Reader
import Tickwise.Proofs.Decimal.Value
import Tickwise.Text.Blank

/-!
# Printed decimals are read back

Each of the three notations is read as it was printed: the digits on both sides of the point give
the coefficient, and the places less the exponent give the scale.  Only the zeros that a whole number
is padded with come back as digits, and a zero comes back without a scale; the value is the same.

* `Numeral` — a run of digits, and how the reader takes it;
* `Exponent` — what may follow the base, and the exponent it stands for;
* `ofText?_append` — a base and an exponent, read together;
* `ofText?_chars` — a printed decimal is read as it was written;
* `value_written` — which is a decimal of the same value.
-/

namespace Tickwise.Decimal

/-! ## Digits -/

/-- A non-empty run of digits. -/
def Numeral (text : List Char) : Prop := text ≠ [] ∧ ∀ c ∈ text, c.isDigit = true

/-- A digit is none of the other characters of a decimal. -/
theorem ne_of_isDigit {c d : Char} (h : c.isDigit = true) (hd : d.isDigit = false) : c ≠ d := by
  rintro rfl
  rw [h] at hd
  cases hd

theorem isExponentMark_of_isDigit {c : Char} (h : c.isDigit = true) : isExponentMark c = false := by
  have he : c ≠ 'e' := ne_of_isDigit h (by decide)
  have hE : c ≠ 'E' := ne_of_isDigit h (by decide)
  simp [isExponentMark, he, hE]

theorem numeral_toDigits (n : ℕ) : Numeral (Nat.toDigits 10 n) :=
  ⟨Nat.toDigits_ne_nil, fun _ hc => Nat.isDigit_of_mem_toDigits (by decide) (by decide) hc⟩

section Numerals

variable {text : List Char}

/-- Digits are not grouped. -/
theorem filter_eq_of_digits (h : ∀ c ∈ text, c.isDigit = true) :
    text.filter (· ≠ '_') = text := by
  refine List.filter_eq_self.2 fun c hc => ?_
  simpa using ne_of_isDigit (h c hc) (by decide : ('_').isDigit = false)

theorem Numeral.grouped?_eq (h : Numeral text) :
    grouped? text = some (Nat.ofDigitChars 10 text 0) := by
  have hhead : text.head? ≠ some '_' := by
    intro hhead
    exact ne_of_isDigit (h.2 _ (List.mem_of_mem_head? hhead)) (by decide) rfl
  have hall : text.all (fun c => c.isDigit || c == '_') = true := by
    simp only [List.all_eq_true, Bool.or_eq_true]
    exact fun c hc => .inl (h.2 c hc)
  rw [grouped?, if_pos ⟨h.1, hhead, hall⟩, filter_eq_of_digits h.2]

theorem Numeral.plain?_eq (h : Numeral text) : plain? text = some (Nat.ofDigitChars 10 text 0) :=
  if_pos ⟨h.1, List.all_eq_true.2 h.2⟩

/-- Digits without a sign are neither of the signed forms. -/
theorem Numeral.not_signed (h : Numeral text) (sign : Char) (hsign : sign.isDigit = false) :
    ∀ rest, text ≠ sign :: rest := by
  rintro rest rfl
  exact ne_of_isDigit (h.2 sign (by simp)) hsign rfl

theorem Numeral.coefficient?_eq (h : Numeral text) :
    coefficient? text = some (Nat.ofDigitChars 10 text 0 : ℤ) := by
  rw [coefficient?.eq_3 text (h.not_signed '-' (by decide)) (h.not_signed '+' (by decide)),
    h.grouped?_eq]
  rfl

theorem Numeral.coefficient?_neg (h : Numeral text) :
    coefficient? ('-' :: text) = some (-(Nat.ofDigitChars 10 text 0 : ℤ)) := by
  rw [coefficient?, h.grouped?_eq]
  rfl

theorem Numeral.signed?_eq (h : Numeral text) :
    signed? text = some (Nat.ofDigitChars 10 text 0 : ℤ) := by
  rw [signed?.eq_3 text (h.not_signed '-' (by decide)) (h.not_signed '+' (by decide)), h.plain?_eq]
  rfl

end Numerals

/-! ## Exponents -/

/-- An exponent is read as it was printed. -/
theorem signed?_toString (e : ℤ) : signed? (toString e).toList = some e := by
  rw [Int.toString_eq_repr, Int.repr_eq_if]
  by_cases he : 0 ≤ e
  · rw [if_pos he, Nat.toList_repr, (numeral_toDigits _).signed?_eq, Nat.ofDigitChars_ten_toDigits,
      Int.toNat_of_nonneg he]
  · have hneg : (-e).toNat = -e := Int.toNat_of_nonneg (by omega)
    rw [if_neg he, String.toList_append, Nat.toList_repr]
    show signed? ('-' :: Nat.toDigits 10 (-e).toNat) = some e
    rw [signed?, (numeral_toDigits _).plain?_eq, Nat.ofDigitChars_ten_toDigits]
    show some (-((-e).toNat : ℤ)) = some e
    rw [hneg, neg_neg]

theorem exponent?_toString {e : ℤ} (h : FitsSigned 128 e) :
    exponent? (toString e).toList = some e := by
  rw [exponent?, signed?_toString, Option.bind_some, if_pos h]

/-- A plus sign before an exponent does not change it. -/
theorem exponent?_plus_toString {e : ℤ} (hpos : 0 ≤ e) (h : FitsSigned 128 e) :
    exponent? ('+' :: (toString e).toList) = some e := by
  have hdigits : (toString e).toList = Nat.toDigits 10 e.toNat := by
    rw [Int.toString_eq_repr, Int.repr_eq_if, if_pos hpos, Nat.toList_repr]
  have hsigned : signed? ('+' :: (toString e).toList) = some e := by
    rw [hdigits, signed?, (numeral_toDigits _).plain?_eq, Nat.ofDigitChars_ten_toDigits]
    show some (e.toNat : ℤ) = some e
    rw [Int.toNat_of_nonneg hpos]
  rw [exponent?, hsigned, Option.bind_some, if_pos h]

/-- What may follow a base, and the exponent it stands for. -/
inductive Exponent : List Char → ℤ → Prop
  | absent : Exponent [] 0
  | marked (mark : Char) {text : List Char} {e : ℤ} :
      isExponentMark mark = true → exponent? text = some e → Exponent (mark :: text) e

/-! ## Bases -/

theorem splitPoint_of_not_mem {base : List Char} (h : '.' ∉ base) : splitPoint base = (base, 0) := by
  have hall : ∀ c ∈ base, decide (c ≠ '.') = true := by
    rintro c hc
    exact decide_eq_true fun heq => h (heq ▸ hc)
  rw [splitPoint, List.takeWhile_eq_self_iff.2 hall, List.dropWhile_eq_nil_iff.2 hall]
  simp

theorem splitPoint_append {whole places : List Char} (h : '.' ∉ whole)
    (hplaces : places.filter (· ≠ '_') = places) :
    splitPoint (whole ++ '.' :: places) = (whole ++ places, places.length) := by
  have hall : ∀ c ∈ whole, decide (c ≠ '.') = true := by
    rintro c hc
    exact decide_eq_true fun heq => h (heq ▸ hc)
  rw [splitPoint, List.takeWhile_append_of_pos hall, List.dropWhile_append_of_pos hall]
  simp only [List.takeWhile_cons, List.dropWhile_cons, ne_eq, not_true_eq_false, decide_false,
    Bool.false_eq_true, if_false, List.append_nil, List.drop_one, List.tail_cons]
  rw [show places.filter (fun c => decide ¬c = '_') = places from hplaces]

/-- A base and its exponent, read together. -/
theorem ofText?_append {base tail digits : List Char} {places : ℕ} {c e : ℤ}
    (hbase : ∀ ch ∈ base, isExponentMark ch = false) (htail : Exponent tail e)
    (hsplit : splitPoint base = (digits, places)) (hdigits : coefficient? digits = some c)
    (hfits : FitsSigned 64 (places - e)) :
    ofText? (base ++ tail) = some ⟨c, places - e⟩ := by
  have hall : ∀ ch ∈ base, (!isExponentMark ch) = true := by
    intro ch hch
    rw [hbase ch hch]
    rfl
  have htake : (base ++ tail).takeWhile (!isExponentMark ·) = base := by
    rw [List.takeWhile_append_of_pos hall]
    cases htail with
    | absent => simp
    | marked _ hmark _ => simp [hmark]
  have hdrop : (base ++ tail).dropWhile (!isExponentMark ·) = tail := by
    rw [List.dropWhile_append_of_pos hall]
    cases htail with
    | absent => rfl
    | marked _ hmark _ => simp [hmark]
  unfold ofText?
  dsimp only
  rw [htake, hdrop, hsplit]
  cases htail with
  | absent =>
    rw [if_pos rfl]
    refine Option.bind_eq_some_iff.2 ⟨0, rfl, (if_pos hfits).trans ?_⟩
    rw [hdigits, Option.map_some]
  | marked _ _ hread =>
    rw [if_neg (List.cons_ne_nil _ _)]
    refine Option.bind_eq_some_iff.2 ⟨e, hread, (if_pos hfits).trans ?_⟩
    rw [hdigits, Option.map_some]

/-! ## The three notations -/

/-- Digits behind the sign of a coefficient. -/
def signed (c : ℤ) (digits : List Char) : List Char := (if c < 0 then ['-'] else []) ++ digits

theorem signed_append (c : ℤ) (a b : List Char) : signed c (a ++ b) = signed c a ++ b :=
  (List.append_assoc _ a b).symm

theorem mem_signed {c : ℤ} {digits : List Char} {ch : Char} (h : ch ∈ signed c digits) :
    ch = '-' ∨ ch ∈ digits := by
  unfold signed at h
  split at h
  · simpa using h
  · exact .inr h

/-- Digits that stand for a multiple of the coefficient, read with its sign. -/
theorem coefficient?_signed {c : ℤ} {digits : List Char} {k : ℕ} (h : Numeral digits)
    (hvalue : Nat.ofDigitChars 10 digits 0 = c.natAbs * k) :
    coefficient? (signed c digits) = some (c * k) := by
  unfold signed
  by_cases hneg : c < 0
  · rw [if_pos hneg, List.singleton_append, h.coefficient?_neg, hvalue, Nat.cast_mul,
      Int.ofNat_natAbs_of_nonpos hneg.le, neg_mul, neg_neg]
  · rw [if_neg hneg, List.nil_append, h.coefficient?_eq, hvalue, Nat.cast_mul,
      Int.natAbs_of_nonneg (not_lt.1 hneg)]

section Notations

variable {c e : ℤ} {tail : List Char}

/-- Digits without a point, and an exponent. -/
theorem ofText?_whole {digits : List Char} {k : ℕ} (hdigits : Numeral digits)
    (hvalue : Nat.ofDigitChars 10 digits 0 = c.natAbs * k) (htail : Exponent tail e)
    (hfits : FitsSigned 64 (-e)) : ofText? (signed c digits ++ tail) = some ⟨c * k, -e⟩ := by
  have hbase : ∀ ch ∈ signed c digits, isExponentMark ch = false := by
    intro ch hch
    rcases mem_signed hch with rfl | hdigit
    · rfl
    · exact isExponentMark_of_isDigit (hdigits.2 ch hdigit)
  have hpoint : '.' ∉ signed c digits := by
    intro hmem
    rcases mem_signed hmem with heq | hdigit
    · cases heq
    · cases hdigits.2 _ hdigit
  have hread := ofText?_append hbase htail (splitPoint_of_not_mem hpoint)
    (coefficient?_signed hdigits hvalue) (by rwa [Nat.cast_zero, zero_sub])
  rwa [Nat.cast_zero, zero_sub] at hread

/-- Digits on both sides of a point, and an exponent. -/
theorem ofText?_point (whole : List Char) {places : List Char} (hdigits : Numeral (whole ++ places))
    (hvalue : Nat.ofDigitChars 10 (whole ++ places) 0 = c.natAbs) (htail : Exponent tail e)
    (hfits : FitsSigned 64 (places.length - e)) :
    ofText? (signed c (whole ++ '.' :: places) ++ tail) = some ⟨c, places.length - e⟩ := by
  have hwhole : ∀ ch ∈ whole, ch.isDigit = true := fun ch hch =>
    hdigits.2 ch (List.mem_append_left _ hch)
  have hplaces : ∀ ch ∈ places, ch.isDigit = true := fun ch hch =>
    hdigits.2 ch (List.mem_append_right _ hch)
  have hbase : ∀ ch ∈ signed c (whole ++ '.' :: places), isExponentMark ch = false := by
    intro ch hch
    rcases mem_signed hch with rfl | hmem
    · rfl
    rcases List.mem_append.1 hmem with hmem | hmem
    · exact isExponentMark_of_isDigit (hwhole ch hmem)
    rcases List.mem_cons.1 hmem with rfl | hmem
    · rfl
    · exact isExponentMark_of_isDigit (hplaces ch hmem)
  have hpoint : '.' ∉ signed c whole := by
    intro hmem
    rcases mem_signed hmem with heq | hdigit
    · cases heq
    · cases hwhole _ hdigit
  have hfilter : places.filter (· ≠ '_') = places := filter_eq_of_digits hplaces
  have hsplit : splitPoint (signed c (whole ++ '.' :: places)) =
      (signed c (whole ++ places), places.length) := by
    rw [signed_append, signed_append]
    exact splitPoint_append hpoint hfilter
  have hcoefficient : coefficient? (signed c (whole ++ places)) = some c := by
    rw [coefficient?_signed hdigits (k := 1) (by rw [hvalue, Nat.mul_one]), Nat.cast_one, mul_one]
  exact ofText?_append hbase htail hsplit hcoefficient hfits

end Notations

/-- A decimal as its text is read: zero has no scale, and the zeros that a whole number is padded
with are digits. -/
def written (d : Decimal) : Decimal :=
  if d.coefficient = 0 then ⟨0, 0⟩
  else if -trailingZeroLimit ≤ d.scale ∧ d.scale ≤ 0 then
    ⟨d.coefficient * 10 ^ (-d.scale).toNat, 0⟩
  else d

/-- Zeros before a number do not count, and zeros behind it multiply it. -/
theorem ofDigitChars_padded (digits : List Char) (before behind : ℕ) :
    Nat.ofDigitChars 10 (List.replicate before '0' ++ digits ++ List.replicate behind '0') 0 =
      Nat.ofDigitChars 10 digits 0 * 10 ^ behind := by
  rw [Nat.ofDigitChars_append, Nat.ofDigitChars_append, Nat.ofDigitChars_replicate_zero,
    Nat.ofDigitChars_replicate_zero, Nat.mul_zero, Nat.mul_comm]

theorem Numeral.padded {digits : List Char} (h : Numeral digits) (before behind : ℕ) :
    Numeral (List.replicate before '0' ++ digits ++ List.replicate behind '0') := by
  refine ⟨by simp [h.1], fun c hc => ?_⟩
  simp only [List.mem_append] at hc
  rcases hc with (hc | hc) | hc
  · rw [List.eq_of_mem_replicate hc]
    rfl
  · exact h.2 c hc
  · rw [List.eq_of_mem_replicate hc]
    rfl

section Magnitudes

variable {c scale : ℤ} {digits : List Char} (hdigits : Numeral digits)
  (hvalue : Nat.ofDigitChars 10 digits 0 = c.natAbs)
include hdigits hvalue

/-- The scientific form: one digit, a fraction of the others, and an exponent. -/
theorem ofText?_scientific (hfits : FitsSigned 64 scale)
    (hscale : (digits.length + leadingZeroLimit : ℤ) < scale) :
    ofText? (signed c (magnitudeText digits scale)) = some ⟨c, scale⟩ := by
  have hlow : -9223372036854775808 ≤ scale := hfits.1
  have hhigh : scale < 9223372036854775808 := hfits.2
  have hexponent : FitsSigned 128 ((digits.length : ℤ) - 1 - scale) := by
    show -(170141183460469231731687303715884105728 : ℤ) ≤ _ ∧
      _ < (170141183460469231731687303715884105728 : ℤ)
    unfold leadingZeroLimit at hscale
    omega
  have htail := Exponent.marked 'E' rfl (exponent?_toString hexponent)
  obtain ⟨first, rest, rfl⟩ := List.exists_cons_of_ne_nil hdigits.1
  rw [magnitudeText, if_pos hscale]
  cases rest with
  | nil =>
    have hplaces : -((([first] : List Char).length : ℤ) - 1 - scale) = scale := by simp
    have hread := ofText?_whole (c := c) (k := 1) hdigits (by rw [hvalue, Nat.mul_one]) htail
      (by rwa [hplaces])
    rw [hplaces, Nat.cast_one, mul_one] at hread
    rw [← hread, ← signed_append]
    rfl
  | cons second others =>
    have hplaces : (((second :: others).length : ℕ) : ℤ) -
        (((first :: second :: others).length : ℕ) - 1 - scale) = scale := by
      simp only [List.length_cons]
      omega
    have hread := ofText?_point [first] hdigits hvalue htail (by rwa [hplaces])
    rw [hplaces] at hread
    rw [← hread, ← signed_append]
    rfl

/-- The bare exponent that takes the place of many zeros. -/
theorem ofText?_exponent (hfits : FitsSigned 64 scale) (hscale : scale < -trailingZeroLimit) :
    ofText? (signed c (magnitudeText digits scale)) = some ⟨c, scale⟩ := by
  have hlow : -9223372036854775808 ≤ scale := hfits.1
  have hneg : scale < 0 := by
    unfold trailingZeroLimit at hscale
    omega
  have hexponent : FitsSigned 128 (-scale) := by
    show -(170141183460469231731687303715884105728 : ℤ) ≤ _ ∧
      _ < (170141183460469231731687303715884105728 : ℤ)
    omega
  have htail := Exponent.marked 'e' rfl (exponent?_plus_toString (by omega) hexponent)
  have hread := ofText?_whole (c := c) (k := 1) hdigits (by rw [hvalue, Nat.mul_one]) htail
    (by rwa [neg_neg])
  rw [neg_neg, Nat.cast_one, mul_one] at hread
  have hnot : ¬ (digits.length + leadingZeroLimit : ℤ) < scale := by omega
  rw [magnitudeText, if_neg hnot, if_pos hscale, signed_append, hread]

/-- A whole number, padded with its zeros. -/
theorem ofText?_padded (hscale : -trailingZeroLimit ≤ scale) (hwhole : scale ≤ 0) :
    ofText? (signed c (magnitudeText digits scale)) = some ⟨c * 10 ^ (-scale).toNat, 0⟩ := by
  have hpadded : Nat.ofDigitChars 10 (List.replicate 0 '0' ++ digits ++
      List.replicate (-scale).toNat '0') 0 = c.natAbs * 10 ^ (-scale).toNat := by
    rw [ofDigitChars_padded, hvalue]
  have hread := ofText?_whole (hdigits.padded 0 (-scale).toNat) hpadded Exponent.absent (by decide)
  have hnot : ¬ (digits.length + leadingZeroLimit : ℤ) < scale := by omega
  rw [magnitudeText, if_neg hnot, if_neg (not_lt.2 hscale), if_pos hwhole]
  simpa using hread

/-- Digits around a point. -/
theorem ofText?_fraction (hfits : FitsSigned 64 scale)
    (hscale : scale ≤ digits.length + leadingZeroLimit) (hpos : 0 < scale) :
    ofText? (signed c (magnitudeText digits scale)) = some ⟨c, scale⟩ := by
  have hexponent : ¬ scale < -trailingZeroLimit := by omega
  rw [magnitudeText, if_neg (not_lt.2 hscale), if_neg hexponent, if_neg (not_le.2 hpos)]
  by_cases hinside : scale < digits.length
  · -- the point stands among the digits
    have hsplit := List.take_append_drop (digits.length - scale).toNat digits
    have hplaces : ((digits.drop (digits.length - scale).toNat).length : ℤ) - 0 = scale := by
      rw [List.length_drop]
      omega
    have hread := ofText?_point (c := c) _ (hsplit.symm ▸ hdigits) (by rw [hsplit, hvalue])
      Exponent.absent (by rwa [hplaces])
    rw [hplaces, List.append_nil] at hread
    rw [if_pos hinside, hread]
  · -- the point stands before them, with zeros between
    have hcons : ['0'] ++ (List.replicate (scale - digits.length).toNat '0' ++ digits) =
        List.replicate ((scale - digits.length).toNat + 1) '0' ++ digits ++
          List.replicate 0 '0' := by
      simp [List.replicate_succ]
    have hplaces : ((List.replicate (scale - digits.length).toNat '0' ++ digits).length : ℤ) - 0 =
        scale := by
      rw [List.length_append, List.length_replicate]
      omega
    have hread := ofText?_point (c := c) _ (hcons ▸ hdigits.padded _ 0)
      (by rw [hcons, ofDigitChars_padded, hvalue, pow_zero, Nat.mul_one]) Exponent.absent
      (by rwa [hplaces])
    rw [hplaces, List.append_nil] at hread
    rw [if_neg hinside, ← hread]
    rfl

end Magnitudes

/-- **A printed decimal is read as it was written**, if its scale fits. -/
theorem ofText?_chars {d : Decimal} (hfits : FitsSigned 64 d.scale) :
    ofText? d.chars = some d.written := by
  by_cases hzero : d.coefficient = 0
  · rw [chars, written, if_pos hzero, if_pos hzero]
    decide
  have hchars : d.chars =
      signed d.coefficient (magnitudeText (Nat.toDigits 10 d.coefficient.natAbs) d.scale) := by
    rw [chars, if_neg hzero]
    rfl
  have hdigits := numeral_toDigits d.coefficient.natAbs
  have hvalue : Nat.ofDigitChars 10 (Nat.toDigits 10 d.coefficient.natAbs) 0 =
      d.coefficient.natAbs := Nat.ofDigitChars_ten_toDigits
  rw [hchars, written, if_neg hzero]
  generalize Nat.toDigits 10 d.coefficient.natAbs = digits at hdigits hvalue ⊢
  by_cases hscientific : (digits.length + leadingZeroLimit : ℤ) < d.scale
  · have hpos : ¬ (-(trailingZeroLimit : ℤ) ≤ d.scale ∧ d.scale ≤ 0) := by omega
    rw [if_neg hpos, ofText?_scientific hdigits hvalue hfits hscientific]
  by_cases hexponent : d.scale < -trailingZeroLimit
  · have hfar : ¬ (-(trailingZeroLimit : ℤ) ≤ d.scale ∧ d.scale ≤ 0) := by omega
    rw [if_neg hfar, ofText?_exponent hdigits hvalue hfits hexponent]
  by_cases hwhole : d.scale ≤ 0
  · rw [if_pos ⟨not_lt.1 hexponent, hwhole⟩,
      ofText?_padded hdigits hvalue (not_lt.1 hexponent) hwhole]
  · rw [if_neg fun h => hwhole h.2,
      ofText?_fraction hdigits hvalue hfits (not_lt.1 hscientific) (not_le.1 hwhole)]

/-- What is read back has the value that was printed. -/
theorem value_written (d : Decimal) : d.written.value = d.value := by
  unfold written
  split
  · rename_i hzero
    rw [value_eq_zero_iff.2 hzero]
    exact value_eq_zero_iff.2 rfl
  split
  · rename_i hscale
    have hpow : ((-d.scale).toNat : ℤ) = -d.scale := Int.toNat_of_nonneg (by omega)
    simp only [value, neg_zero, zpow_zero, mul_one]
    push_cast
    rw [← zpow_natCast, hpow]
  · rfl

end Tickwise.Decimal
