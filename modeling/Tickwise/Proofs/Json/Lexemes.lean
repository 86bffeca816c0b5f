import Mathlib
import Tickwise.Json.Lexer
import Tickwise.Json
import Tickwise.Proofs.Decimal.Text

/-!
# Strings and numbers are read as they are written

A string is written with its quotes, backslashes and controls escaped, and read by code units.
Each character is read from its own spelling alone, so a string is read character by character,
and no character of a text is half of a surrogate pair.  A number is written in decimal without a
zero before it; what is read as a number ends where no digit, point or exponent follows.

* `Json.lexeme_stringChars` — a string is read as it is written;
* `Json.lexeme_numberChars` — a number is, before what may follow it.
-/

namespace Tickwise.Json

/-! ## Strings -/

/-- A character is no half of a surrogate pair. -/
theorem isSurrogate_toNat (c : Char) : isSurrogate c.toNat = false := by
  have hvalid : c.toNat < 0xD800 ∨ 0xDFFF < c.toNat ∧ c.toNat < 0x110000 := c.valid
  simp only [isSurrogate, Bool.and_eq_false_iff, decide_eq_false_iff_not]
  omega

/-- The text of the code points of characters is the characters. -/
theorem textOfUnits?_map_toNat (text : List Char) :
    textOfUnits? (text.map Char.toNat) = some text := by
  induction text with
  | nil => rfl
  | cons c text ih =>
    have hc := isSurrogate_toNat c
    have hhigh : ¬ (0xD800 ≤ c.toNat ∧ c.toNat < 0xDC00) := by
      simp only [isSurrogate, Bool.and_eq_false_iff, decide_eq_false_iff_not] at hc
      omega
    cases text with
    | nil => simp [textOfUnits?, hc, Char.ofNat_toNat]
    | cons d text =>
      rw [List.map_cons] at ih
      simp [textOfUnits?, hhigh, hc, ih, Char.ofNat_toNat]

/-- A short escape is read as its code unit. -/
theorem stringUnits_shortEscape {c : Char} {unit : ℕ} (h : shortEscape? c = some unit)
    (text : List Char) :
    stringUnits ('\\' :: c :: text) =
      (stringUnits text).map fun (units, rest) => (unit :: units, rest) := by
  have hc : c ≠ 'u' := by
    rintro rfl
    simp [shortEscape?] at h
  rw [stringUnits.eq_3 c text (fun _ _ _ _ _ hu _ => hc hu), h]
  cases stringUnits text <;> rfl

/-- A character that needs no escape is read as its code point. -/
theorem stringUnits_plain {c : Char} (hquote : c ≠ '"') (hslash : c ≠ '\\') (h : ¬ c.toNat < 0x20)
    (text : List Char) :
    stringUnits (c :: text) =
      (stringUnits text).map fun (units, rest) => (c.toNat :: units, rest) := by
  rw [stringUnits.eq_4 c text hquote (fun _ _ _ _ _ hc _ => hslash hc) fun _ _ hc _ => hslash hc,
    if_neg (by simp [h, hslash])]

/-- A control character is read from its four digits. -/
theorem stringUnits_control {n : ℕ} (h : n < 0x20) (text : List Char) :
    stringUnits ('\\' :: 'u' :: '0' :: '0' :: Nat.digitChar (n / 16) :: Nat.digitChar (n % 16) ::
        text) = (stringUnits text).map fun (units, rest) => (n :: units, rest) := by
  have hdigits : Hex.ofDigits? ['0', '0', Nat.digitChar (n / 16), Nat.digitChar (n % 16)] =
      some n := by
    have all : ∀ k : Fin 32, Hex.ofDigits?
        ['0', '0', Nat.digitChar (k / 16), Nat.digitChar (k % 16)] = some k.val := by decide
    exact all ⟨n, h⟩
  rw [stringUnits, hdigits]
  cases stringUnits text <;> rfl

/-- **A character is read as its code point from the way it is written.** -/
theorem stringUnits_escape (c : Char) (text : List Char) :
    stringUnits (escape c ++ text) =
      (stringUnits text).map fun (units, rest) => (c.toNat :: units, rest) := by
  unfold escape
  split
  -- the last case of `escape` has no escape of its own; all the others are short
  case h_8 hquote hslash _ _ _ _ _ =>
    split
    · rename_i hcontrol
      exact stringUnits_control hcontrol text
    · rename_i hplain
      exact stringUnits_plain hquote hslash hplain text
  all_goals exact stringUnits_shortEscape rfl text

theorem stringUnits_flatMap_escape (text rest : List Char) :
    stringUnits (text.flatMap escape ++ '"' :: rest) = some (text.map Char.toNat, rest) := by
  induction text with
  | nil => simp [stringUnits]
  | cons c text ih => simp [List.flatMap_cons, List.append_assoc, stringUnits_escape, ih]

/-- **A string is read as it is written**, whether it is a text or not. -/
theorem lexeme_stringChars (value : Option String) (rest : List Char) :
    lexeme (stringChars value ++ rest) = some (.string value, rest) := by
  cases value with
  | some s =>
    show (stringUnits (s.toList.flatMap escape ++ ['"'] ++ rest)).map _ = _
    rw [List.append_assoc, List.singleton_append, stringUnits_flatMap_escape]
    simp [textOfUnits?_map_toNat]
  | none => rfl

/-! ## Numbers -/

open Decimal (Numeral numeral_toDigits ne_of_isDigit)

/-- What may follow a number: no character that the number would go on with. -/
def EndsNumber (rest : List Char) : Prop :=
  ∀ c ∈ rest.head?, c.isDigit = false ∧ c ≠ '.' ∧ c ≠ 'e' ∧ c ≠ 'E'

theorem endsNumber_nil : EndsNumber [] := by
  intro c hc
  simp at hc

section Numbers

variable {digits rest : List Char}

/-- A run of digits and what follows it begin with no other character. -/
theorem numeral_append_ne (h : Numeral digits) {c : Char} (hc : c.isDigit = false) :
    ∀ tail, digits ++ rest ≠ c :: tail := by
  intro tail heq
  cases digits with
  | nil => exact h.1 rfl
  | cons d digits =>
    rw [List.cons_append, List.cons.injEq] at heq
    exact ne_of_isDigit (h.2 d (by simp)) hc heq.1

/-- Digits are read up to what is no digit. -/
theorem digitRun_append (h : Numeral digits) (hrest : ∀ c ∈ rest.head?, c.isDigit = false) :
    digitRun (digits ++ rest) = some (digits, rest) := by
  have htake : rest.takeWhile Char.isDigit = [] := by
    cases rest with
    | nil => rfl
    | cons c rest => simp [hrest c (by simp)]
  have hdrop : rest.dropWhile Char.isDigit = rest := by
    cases rest with
    | nil => rfl
    | cons c rest => simp [hrest c (by simp)]
  rw [digitRun, List.takeWhile_append_of_pos h.2, List.dropWhile_append_of_pos h.2, htake, hdrop,
    List.append_nil]
  simp [h.1]

/-- A number other than zero is written without a zero before it. -/
theorem toDigits_ne_zero_cons {n : ℕ} (hn : 0 < n) : ∀ tail, Nat.toDigits 10 n ≠ '0' :: tail := by
  induction n using Nat.strong_induction_on with
  | _ n ih =>
    intro tail heq
    by_cases hsmall : n < 10
    · rw [Nat.toDigits_of_lt_base hsmall] at heq
      have all : ∀ k : Fin 10, 0 < k.val → Nat.digitChar k ≠ '0' := by decide
      exact all ⟨n, hsmall⟩ hn (List.cons.inj heq).1
    · -- the first digit is that of the number without its last digit
      rw [Nat.toDigits_of_base_le (by decide) (by omega)] at heq
      cases hhigh : Nat.toDigits 10 (n / 10) with
      | nil => exact Nat.toDigits_ne_nil hhigh
      | cons d high =>
        rw [hhigh, List.cons_append, List.cons.injEq] at heq
        obtain ⟨rfl, -⟩ := heq
        exact ih (n / 10) (by omega) (by omega) high hhigh

theorem wholeDigits_toDigits (n : ℕ) (hrest : ∀ c ∈ rest.head?, c.isDigit = false) :
    wholeDigits (Nat.toDigits 10 n ++ rest) = some (Nat.toDigits 10 n, rest) := by
  rcases Nat.eq_zero_or_pos n with rfl | hn
  · rfl
  · rw [wholeDigits.eq_2, digitRun_append (numeral_toDigits n) hrest]
    intro tail heq
    cases hdigits : Nat.toDigits 10 n with
    | nil => exact Nat.toDigits_ne_nil hdigits
    | cons d high =>
      rw [hdigits, List.cons_append, List.cons.injEq] at heq
      obtain ⟨rfl, -⟩ := heq
      exact toDigits_ne_zero_cons hn high hdigits

/-- An exponent is read as it is written. -/
theorem signedExponent_toString (e : ℤ) (hrest : ∀ c ∈ rest.head?, c.isDigit = false) :
    signedExponent ((toString e).toList ++ rest) = some (e, rest) := by
  rw [Int.toString_eq_repr, Int.repr_eq_if]
  by_cases he : 0 ≤ e
  · have hdigits := numeral_toDigits e.toNat
    rw [if_pos he, Nat.toList_repr, signedExponent.eq_3 _ (numeral_append_ne hdigits (by decide))
      (numeral_append_ne hdigits (by decide)), digitRun_append hdigits hrest]
    simp [Int.toNat_of_nonneg he]
  · have hneg : (-e).toNat = -e := Int.toNat_of_nonneg (by omega)
    rw [if_neg he, String.toList_append, Nat.toList_repr]
    show (digitRun (Nat.toDigits 10 (-e).toNat ++ rest)).map _ = some (e, rest)
    rw [digitRun_append (numeral_toDigits _) hrest]
    simp [hneg]

/-- A number without its sign is read as it is written. -/
theorem magnitude_numberChars (negative : Bool) (n : ℕ) (exponent : Option ℤ)
    (h : EndsNumber rest) :
    magnitude negative (numberChars false n exponent ++ rest) =
      some (.number negative n exponent, rest) := by
  cases exponent with
  | none =>
    have hpoint : ∀ tail, rest ≠ '.' :: tail := by
      rintro tail rfl
      exact (h '.' rfl).2.1 rfl
    have he : ∀ tail, rest ≠ 'e' :: tail := by
      rintro tail rfl
      exact (h 'e' rfl).2.2.1 rfl
    have hE : ∀ tail, rest ≠ 'E' :: tail := by
      rintro tail rfl
      exact (h 'E' rfl).2.2.2 rfl
    have hwhole := wholeDigits_toDigits n fun c hc => (h c hc).1
    simp [magnitude, numberChars, hwhole, fractionDigits.eq_2 rest hpoint,
      exponentPart.eq_3 rest he hE]
  | some e =>
    have hexponent := signedExponent_toString e fun c hc => (h c hc).1
    have hchars : numberChars false n (some e) ++ rest =
        Nat.toDigits 10 n ++ 'e' :: ((toString e).toList ++ rest) := by simp [numberChars]
    rw [hchars]
    generalize (toString e).toList ++ rest = tail at hexponent ⊢
    have hwhole : wholeDigits (Nat.toDigits 10 n ++ 'e' :: tail) =
        some (Nat.toDigits 10 n, 'e' :: tail) := wholeDigits_toDigits n (by simp)
    simp [magnitude, hwhole, fractionDigits, exponentPart, hexponent]

/-- A digit begins a number. -/
theorem lexeme_of_isDigit {c : Char} (hc : c.isDigit = true) (text : List Char) :
    lexeme (c :: text) = magnitude false (c :: text) := by
  have hne : ∀ d : Char, d.isDigit = false → ∀ tail, c :: text ≠ d :: tail := by
    intro d hd tail heq
    exact ne_of_isDigit hc hd (List.cons.inj heq).1
  apply lexeme.eq_12
  all_goals
    intro tail heq
    exact hne _ (by decide) _ heq

/-- **A number is read as it is written**, up to what may follow it. -/
theorem lexeme_numberChars (negative : Bool) (n : ℕ) (exponent : Option ℤ) (h : EndsNumber rest) :
    lexeme (numberChars negative n exponent ++ rest) =
      some (.number negative n exponent, rest) := by
  cases negative with
  | true => exact magnitude_numberChars true n exponent h
  | false =>
    obtain ⟨hne, hdigits⟩ := numeral_toDigits n
    cases hn : Nat.toDigits 10 n with
    | nil => exact absurd hn hne
    | cons c digits =>
      have hc : c.isDigit = true := hdigits c (by simp [hn])
      rw [← magnitude_numberChars false n exponent h]
      simp [numberChars, hn, lexeme_of_isDigit hc]

end Numbers

end Tickwise.Json
