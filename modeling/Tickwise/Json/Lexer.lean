import Tickwise.Text.Hex

/-!
# The lexemes of JSON texts

A JSON text is a run of lexemes with white space between them: brackets, commas and colons,
the three words, numbers and strings. No other spelling is accepted.
-/

namespace Tickwise.Json

/-- A lexeme. -/
inductive Lexeme where
  | openArray
  | closeArray
  | openObject
  | closeObject
  | comma
  | colon
  | null
  | bool (value : Bool)
  | number (negative : Bool) (digits : Nat) (exponent : Option Int)
  | string (value : Option String)
deriving DecidableEq

/-! ## Strings -/

/-- Whether a code unit is the first or the second half of a surrogate pair. -/
def isSurrogate (unit : Nat) : Bool := 0xD800 ≤ unit && unit < 0xE000

/-- The text of code units, of which those of surrogates must stand in pairs. -/
def textOfUnits? : List Nat → Option (List Char)
  | [] => some []
  | high :: low :: rest =>
    if 0xD800 ≤ high ∧ high < 0xDC00 then
      if 0xDC00 ≤ low ∧ low < 0xE000 then
        let n := (high - 0xD800) * 0x400 + (low - 0xDC00) + 0x10000
        (textOfUnits? rest).map (Char.ofNat n :: ·)
      else none
    else if isSurrogate high then none
    else (textOfUnits? (low :: rest)).map (Char.ofNat high :: ·)
  | [unit] => if isSurrogate unit then none else some [Char.ofNat unit]

/-- The code unit of a short escape. -/
def shortEscape? : Char → Option Nat
  | '"' => some 0x22
  | '\\' => some 0x5C
  | '/' => some 0x2F
  | 'b' => some 0x08
  | 'f' => some 0x0C
  | 'n' => some 0x0A
  | 'r' => some 0x0D
  | 't' => some 0x09
  | _ => none

/-- The code units of a string up to its closing quote, and what follows that. -/
def stringUnits : List Char → Option (List Nat × List Char)
  | '"' :: rest => some ([], rest)
  | '\\' :: 'u' :: a :: b :: c :: d :: rest => do
    let unit ← Hex.ofDigits? [a, b, c, d]
    let (units, rest) ← stringUnits rest
    pure (unit :: units, rest)
  | '\\' :: c :: rest => do
    let unit ← shortEscape? c
    let (units, rest) ← stringUnits rest
    pure (unit :: units, rest)
  | c :: rest =>
    if c.toNat < 0x20 ∨ c = '\\' then none
    else (stringUnits rest).map fun (units, rest) => (c.toNat :: units, rest)
  | [] => none

/-! ## Numbers -/

/-- A non-empty run of digits and what follows it. -/
def digitRun (text : List Char) : Option (List Char × List Char) :=
  let digits := text.takeWhile Char.isDigit
  if digits = [] then none else some (digits, text.dropWhile Char.isDigit)

/-- The whole part of a number: a zero alone, or digits that begin with no zero. -/
def wholeDigits : List Char → Option (List Char × List Char)
  | '0' :: rest => some (['0'], rest)
  | text => digitRun text

/-- The places after a point, if there is one. -/
def fractionDigits : List Char → Option (Option (List Char) × List Char)
  | '.' :: rest => (digitRun rest).map fun (digits, rest) => (some digits, rest)
  | text => some (none, text)

/-- The number after an exponent's mark. -/
def signedExponent : List Char → Option (Int × List Char)
  | '-' :: rest =>
    (digitRun rest).map fun (digits, rest) => (-(Nat.ofDigitChars 10 digits 0 : Int), rest)
  | '+' :: rest =>
    (digitRun rest).map fun (digits, rest) => ((Nat.ofDigitChars 10 digits 0 : Int), rest)
  | text => (digitRun text).map fun (digits, rest) => ((Nat.ofDigitChars 10 digits 0 : Int), rest)

/-- The exponent of a number, if there is one. -/
def exponentPart : List Char → Option (Option Int × List Char)
  | 'e' :: rest => (signedExponent rest).map fun (e, rest) => (some e, rest)
  | 'E' :: rest => (signedExponent rest).map fun (e, rest) => (some e, rest)
  | text => some (none, text)

/-- A number without its sign. -/
def magnitude (negative : Bool) (text : List Char) : Option (Lexeme × List Char) := do
  let (whole, rest) ← wholeDigits text
  let (fraction, rest) ← fractionDigits rest
  let (exponent, rest) ← exponentPart rest
  let places := fraction.getD []
  let digits := Nat.ofDigitChars 10 (whole ++ places) 0
  if fraction.isNone ∧ exponent.isNone then pure (.number negative digits none, rest)
  else pure (.number negative digits (some (exponent.getD 0 - places.length)), rest)

/-! ## Lexemes -/

/-- The first lexeme of a text that begins with one, and what follows it. -/
def lexeme : List Char → Option (Lexeme × List Char)
  | '[' :: rest => some (.openArray, rest)
  | ']' :: rest => some (.closeArray, rest)
  | '\x7b' :: rest => some (.openObject, rest)
  | '\x7d' :: rest => some (.closeObject, rest)
  | ',' :: rest => some (.comma, rest)
  | ':' :: rest => some (.colon, rest)
  | 'n' :: 'u' :: 'l' :: 'l' :: rest => some (.null, rest)
  | 't' :: 'r' :: 'u' :: 'e' :: rest => some (.bool true, rest)
  | 'f' :: 'a' :: 'l' :: 's' :: 'e' :: rest => some (.bool false, rest)
  | '"' :: rest =>
    (stringUnits rest).map fun (units, rest) =>
      (.string ((textOfUnits? units).map String.ofList), rest)
  | '-' :: rest => magnitude true rest
  | text => magnitude false text

/-- The white space of JSON. -/
def isSpace (c : Char) : Bool := c == ' ' || c == '\t' || c == '\n' || c == '\r'

/-- The lexemes of a text; each takes at least one character, so that `fuel` characters are
read to their end. -/
def lexemesUpTo : (fuel : Nat) → List Char → Option (List Lexeme)
  | 0, text => if text.all isSpace then some [] else none
  | fuel + 1, text =>
    match text.dropWhile isSpace with
    | [] => some []
    | text => do
      let (first, rest) ← lexeme text
      let others ← lexemesUpTo fuel rest
      pure (first :: others)

/-- The lexemes of a text. -/
def lexemes (text : List Char) : Option (List Lexeme) := lexemesUpTo text.length text

end Tickwise.Json
