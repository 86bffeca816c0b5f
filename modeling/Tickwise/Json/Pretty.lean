import Tickwise.Json

/-!
# JSON for reading

The spelling of a value over several lines: each item and each field on a line of its own, two
spaces further in than what holds it.
-/

namespace Tickwise.Json

/-- The start of a line at some depth. -/
def lineStart (level : Nat) : List Char := '\n' :: List.replicate (2 * level) ' '

mutual

/-- The spelling of a value at some depth. -/
def prettyChars (level : Nat) : Json → List Char
  | .array (item :: items) =>
    '[' :: prettyItems (level + 1) (item :: items) ++ lineStart level ++ [']']
  | .object (field :: fields) =>
    '\x7b' :: prettyFields (level + 1) (field :: fields) ++ lineStart level ++ ['\x7d']
  | json => chars json

/-- The spelling of array items. -/
def prettyItems (level : Nat) : List Json → List Char
  | [] => []
  | item :: items =>
    lineStart level ++ prettyChars level item ++ (if items.isEmpty then [] else [',']) ++
      prettyItems level items

/-- The spelling of object fields. -/
def prettyFields (level : Nat) : List (Option String × Json) → List Char
  | [] => []
  | (key, value) :: fields =>
    lineStart level ++ stringChars key ++ ':' :: ' ' :: prettyChars level value ++
      (if fields.isEmpty then [] else [',']) ++ prettyFields level fields

end

/-- The text of a value over several lines. -/
def pretty (json : Json) : String := String.ofList (json.prettyChars 0)

end Tickwise.Json
