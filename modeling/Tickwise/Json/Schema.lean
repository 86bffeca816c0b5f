import Tickwise.Json

/-!
# Reading typed values from JSON

What a value must look like to be read as a number of some range, a text, a list or a record.
A record is an object with each of its fields once, or an array of the fields in order.
-/

namespace Tickwise.Json

/-- A natural number below `limit`, from an integer literal. -/
def toNat? (limit : Nat) : Json → Option Nat
  | .number false n none => if n < limit then some n else none
  | _ => none

/-- An integer of `bits` bits with a sign, from an integer literal; `-0` is none. -/
def toInt? (bits : Nat) : Json → Option Int
  | .number false n none => if n < pow2 (bits - 1) then some n else none
  | .number true n none => if 0 < n ∧ n ≤ pow2 (bits - 1) then some (-n) else none
  | _ => none

/-- A text. -/
def toText? : Json → Option String
  | .string value => value
  | _ => none

/-- A list of values that are read alike. -/
def toList? {α : Type} (item : Json → Option α) : Json → Option (List α)
  | .array items => items.mapM item
  | _ => none

/-- The one value of a key. -/
def only? (fields : List (Option String × Json)) (name : String) : Option Json :=
  match fields.filter fun field => field.1 == some name with
  | [(_, value)] => some value
  | _ => none

/-- Whether a record may hold fields that it does not know. -/
inductive Extras where
  | ignored
  | refused
deriving DecidableEq

/-- The values of a record's fields, in the order of their names. -/
def record? (extras : Extras) (names : List String) : Json → Option (List Json)
  | .array items => if items.length = names.length then some items else none
  | .object fields =>
    if fields.all fun field => match field.1 with
      | some key => extras == .ignored || names.contains key
      | none => false
    then names.mapM (only? fields)
    else none
  | _ => none

/-- The entries of a map, the last of each key, with the keys in the order of their first
entries. -/
def entries? {κ α : Type} [BEq κ] (key : String → Option κ) (value : Json → Option α) :
    Json → Option (List (κ × α))
  | .object fields => do
    let entries ← fields.mapM fun field => do
      let k ← key (← field.1)
      let v ← value field.2
      pure (k, v)
    pure (entries.foldl (fun known entry =>
      if known.any fun other => other.1 == entry.1 then
        known.map fun other => if other.1 == entry.1 then (other.1, entry.2) else other
      else known ++ [entry]) [])
  | _ => none

end Tickwise.Json
