import Tickwise.Power

/-!
# JSON values

The values of JSON texts and their compact spelling. Numbers are kept as the literal states
them, exactly; a string whose escapes leave half of a surrogate pair is no text, and keeps
only its place.

* `Json.text` — the compact spelling;
* `Json.depth` — how deep arrays and objects nest;
* `Json.isSound` — whether every string is a text and every number finite.
-/

namespace Tickwise

/-- A JSON value. -/
inductive Json where
  | null
  | bool (value : Bool)
  /-- A number literal stands for `± digits * 10 ^ exponent`; an integer literal has no
  exponent. -/
  | number (negative : Bool) (digits : Nat) (exponent : Option Int)
  /-- A string, absent if it is no text. -/
  | string (value : Option String)
  | array (items : List Json)
  /-- The fields in order, with their repetitions. -/
  | object (fields : List (Option String × Json))

namespace Json

/-! ## Making values -/

/-- A string of a text. -/
def ofString (s : String) : Json := .string (some s)

/-- A natural number. -/
def ofNat (n : Nat) : Json := .number false n none

/-- An integer. -/
def ofInt (n : Int) : Json := .number (n < 0) n.natAbs none

/-- An object of named fields. -/
def record (fields : List (String × Json)) : Json :=
  .object (fields.map fun field => (some field.1, field.2))

/-! ## The compact spelling -/

/-- A character of a string: quotes, backslashes and controls are escaped. -/
def escape (c : Char) : List Char :=
  match c with
  | '"' => ['\\', '"']
  | '\\' => ['\\', '\\']
  | '\x08' => ['\\', 'b']
  | '\x0c' => ['\\', 'f']
  | '\n' => ['\\', 'n']
  | '\r' => ['\\', 'r']
  | '\t' => ['\\', 't']
  | c =>
    if c.toNat < 0x20 then
      ['\\', 'u', '0', '0', Nat.digitChar (c.toNat / 16), Nat.digitChar (c.toNat % 16)]
    else [c]

/-- The spelling of a string; one that is no text is spelled as half of a surrogate pair. -/
def stringChars : Option String → List Char
  | some s => '"' :: s.toList.flatMap escape ++ ['"']
  | none => "\"\\ud800\"".toList

/-- The spelling of a number. -/
def numberChars (negative : Bool) (digits : Nat) (exponent : Option Int) : List Char :=
  (if negative then ['-'] else []) ++ Nat.toDigits 10 digits ++
    match exponent with
    | none => []
    | some e => 'e' :: (toString e).toList

mutual

/-- The spelling of a value. -/
def chars : Json → List Char
  | .null => "null".toList
  | .bool true => "true".toList
  | .bool false => "false".toList
  | .number negative digits exponent => numberChars negative digits exponent
  | .string value => stringChars value
  | .array items => '[' :: itemChars items ++ [']']
  | .object fields => '\x7b' :: fieldChars fields ++ ['\x7d']

/-- The spelling of array items. -/
def itemChars : List Json → List Char
  | [] => []
  | [item] => chars item
  | item :: items => chars item ++ ',' :: itemChars items

/-- The spelling of object fields. -/
def fieldChars : List (Option String × Json) → List Char
  | [] => []
  | [(key, value)] => stringChars key ++ ':' :: chars value
  | (key, value) :: fields => stringChars key ++ ':' :: chars value ++ ',' :: fieldChars fields

end

/-- The compact text of a value. -/
def text (json : Json) : String := String.ofList json.chars

/-! ## Depth -/

mutual

/-- How deep arrays and objects nest. -/
def depth : Json → Nat
  | .array items => itemsDepth items + 1
  | .object fields => fieldsDepth fields + 1
  | _ => 0

/-- The greatest depth among array items. -/
def itemsDepth : List Json → Nat
  | [] => 0
  | item :: items => max (depth item) (itemsDepth items)

/-- The greatest depth among field values. -/
def fieldsDepth : List (Option String × Json) → Nat
  | [] => 0
  | (_, value) :: fields => max (depth value) (fieldsDepth fields)

end

/-! ## Soundness -/

/-- Whether a number rounds to a finite floating-point number of 64 bits. -/
def isFinite (digits : Nat) (exponent : Int) : Bool :=
  let size : Int := (Nat.toDigits 10 digits).length + exponent
  let limit := pow2 1024 - pow2 970
  digits == 0 || size ≤ 308 ||
    (size ≤ 309 &&
      if 0 ≤ exponent then decide (digits * pow10 exponent.toNat < limit)
      else decide (digits < limit * pow10 (-exponent).toNat))

mutual

/-- Whether every string is a text and every number finite. -/
def isSound : Json → Bool
  | .number _ digits exponent => isFinite digits (exponent.getD 0)
  | .string value => value.isSome
  | .array items => itemsSound items
  | .object fields => fieldsSound fields
  | _ => true

/-- Whether all array items are sound. -/
def itemsSound : List Json → Bool
  | [] => true
  | item :: items => isSound item && itemsSound items

/-- Whether all keys and field values are sound. -/
def fieldsSound : List (Option String × Json) → Bool
  | [] => true
  | (key, value) :: fields => key.isSome && isSound value && fieldsSound fields

end

end Json

end Tickwise
