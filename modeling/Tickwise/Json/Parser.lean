import Tickwise.Json
import Tickwise.Json.Lexer

/-!
# Reading JSON texts

A text is one value and nothing else. Arrays and objects hold their parts between commas, with
none left over.
-/

namespace Tickwise.Json

mutual

/-- The value that begins a run of lexemes, and what follows it. -/
def parseValue : (fuel : Nat) → List Lexeme → Option (Json × List Lexeme)
  | 0, _ => none
  | fuel + 1, lexemes =>
    match lexemes with
    | .null :: rest => some (.null, rest)
    | .bool value :: rest => some (.bool value, rest)
    | .number negative digits exponent :: rest => some (.number negative digits exponent, rest)
    | .string value :: rest => some (.string value, rest)
    | .openArray :: .closeArray :: rest => some (.array [], rest)
    | .openArray :: rest => (parseItems fuel rest).map fun (items, rest) => (.array items, rest)
    | .openObject :: .closeObject :: rest => some (.object [], rest)
    | .openObject :: rest =>
      (parseFields fuel rest).map fun (fields, rest) => (.object fields, rest)
    | _ => none

/-- The items of an array, at least one, up to its closing bracket. -/
def parseItems : (fuel : Nat) → List Lexeme → Option (List Json × List Lexeme)
  | 0, _ => none
  | fuel + 1, lexemes => do
    let (item, rest) ← parseValue fuel lexemes
    match rest with
    | .closeArray :: rest => pure ([item], rest)
    | .comma :: rest =>
      let (items, rest) ← parseItems fuel rest
      pure (item :: items, rest)
    | _ => none

/-- The fields of an object, at least one, up to its closing bracket. -/
def parseFields : (fuel : Nat) → List Lexeme → Option (List (Option String × Json) × List Lexeme)
  | 0, _ => none
  | fuel + 1, .string key :: .colon :: lexemes => do
    let (value, rest) ← parseValue fuel lexemes
    match rest with
    | .closeObject :: rest => pure ([(key, value)], rest)
    | .comma :: rest =>
      let (fields, rest) ← parseFields fuel rest
      pure ((key, value) :: fields, rest)
    | _ => none
  | _, _ => none

end

/-- The value of a text. -/
def parse? (text : String) : Option Json := do
  let lexemes ← lexemes text.toList
  match parseValue (2 * lexemes.length) lexemes with
  | some (json, []) => pure json
  | _ => none

end Tickwise.Json
