/-!
# Tables

A table is a list of entries with at most one for each key, in the order in which the keys
were first put.

* `Table.get?` — the value of a key;
* `Table.put` — a value for a key, in place of the one it had;
* `Table.get?_put_self`, `Table.get?_put_of_ne` — what is found after that.
-/

namespace Tickwise

/-- Values by key. -/
abbrev Table (κ α : Type) := List (κ × α)

namespace Table

variable {κ α : Type} [DecidableEq κ]

/-- The value of a key. -/
def get? (key : κ) : Table κ α → Option α
  | [] => none
  | (k, a) :: rest => if k = key then some a else get? key rest

/-- The table with a value for a key, in the place that the key has or else at the end. -/
def put (key : κ) (value : α) : Table κ α → Table κ α
  | [] => [(key, value)]
  | (k, a) :: rest => if k = key then (k, value) :: rest else (k, a) :: put key value rest

/-! ## Laws -/

@[simp] theorem get?_put_self (key : κ) (value : α) (table : Table κ α) :
    get? key (put key value table) = some value := by
  induction table with
  | nil => simp [put, get?]
  | cons entry rest ih =>
    by_cases h : entry.1 = key
    · simp [put, get?, h]
    · simp [put, get?, h, ih]

/-- A value that is put is found under its own key only. -/
theorem get?_put_of_ne {key other : κ} (h : other ≠ key) (value : α) (table : Table κ α) :
    get? other (put key value table) = get? other table := by
  induction table with
  | nil => simp [put, get?, Ne.symm h]
  | cons entry rest ih =>
    by_cases hk : entry.1 = key
    · simp [put, get?, hk, Ne.symm h]
    · simp only [put, get?, hk, if_false, ih]

/-- A new key is put at the end; the others keep their places. -/
theorem keys_put (key : κ) (value : α) (table : Table κ α) :
    (put key value table).map Prod.fst =
      if key ∈ table.map Prod.fst then table.map Prod.fst
      else table.map Prod.fst ++ [key] := by
  induction table with
  | nil => simp [put]
  | cons entry rest ih =>
    by_cases h : entry.1 = key
    · simp [put, h]
    · by_cases hm : key ∈ rest.map Prod.fst
      · simp [put, h, ih, hm]
      · simp [put, h, ih, hm, Ne.symm h]

/-- Putting the value that a key has changes nothing. -/
theorem put_of_get? {key : κ} {value : α} {table : Table κ α} (h : get? key table = some value) :
    put key value table = table := by
  induction table with
  | nil => simp [get?] at h
  | cons entry rest ih =>
    by_cases hk : entry.1 = key
    · simp only [get?, hk, if_true, Option.some.injEq] at h
      simp [put, ← h, ← hk]
    · simp only [get?, hk, if_false] at h
      simp [put, hk, ih h]

end Table

end Tickwise
