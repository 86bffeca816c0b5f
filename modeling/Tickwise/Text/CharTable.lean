import Tickwise.Text.Hex

/-!
# Tables of characters

Sets of characters, and replacements of characters by texts, written down in rows of text.
Numbers of characters stand in base sixteen: `41` is one character, `41-5a` all from a first to
a last, and `100-12e/2` every second of them.

* `CharSet` — a set, as in `"300-36f 483-489"`;
* `CharMap` — replacements, as in `"41-5a=61 e6=61.65 ad="`.
-/

namespace Tickwise.Text

/-! ## Runs -/

/-- Characters at equal distances, by number. -/
structure CharRun where
  /-- The least number. -/
  first : Nat
  /-- A bound on the numbers. -/
  last : Nat
  /-- The distance from one number to the next. -/
  step : Nat

namespace CharRun

/-- Whether a character is in the run. -/
def contains (run : CharRun) (c : Char) : Bool :=
  run.first ≤ c.toNat && c.toNat ≤ run.last && (c.toNat - run.first) % run.step == 0

/-- The run that a text stands for. -/
def ofText? (text : List Char) : Option CharRun := do
  let (ends, step) ← match text.splitOn '/' with
    | [ends] => some (ends, 1)
    | [ends, step] => (Hex.ofDigits? step).map (ends, ·)
    | _ => none
  match ← (ends.splitOn '-').mapM Hex.ofDigits? with
  | [only] => some ⟨only, only, step⟩
  | [first, last] => some ⟨first, last, step⟩
  | _ => none

end CharRun

/-- The entries of a table, which blanks part. -/
def entries (rows : List String) : List (List Char) := rows.flatMap (·.toList.splitOn ' ')

/-! ## Sets -/

/-- A set of characters. -/
structure CharSet where
  /-- The runs that make up the set. -/
  runs : List CharRun

namespace CharSet

/-- Whether a character is in the set. -/
def contains (set : CharSet) (c : Char) : Bool := set.runs.any (·.contains c)

/-- The set that the rows of a table stand for. -/
def ofRows (rows : List String) : CharSet := ⟨(entries rows).filterMap CharRun.ofText?⟩

end CharSet

/-! ## Replacements -/

/-- The text for the characters of a run. -/
structure Replacement where
  /-- The characters that are replaced. -/
  run : CharRun
  /-- The numbers of the text for the first of them; they rise along the run. -/
  target : List Nat

namespace Replacement

/-- The text for a character of the run. -/
def apply (replacement : Replacement) (c : Char) : List Char :=
  replacement.target.map fun n => Char.ofNat (n + (c.toNat - replacement.run.first))

/-- The replacement that a text stands for. -/
def ofText? (text : List Char) : Option Replacement := do
  match text.splitOn '=' with
  | [run, []] => return ⟨← CharRun.ofText? run, []⟩
  | [run, target] => return ⟨← CharRun.ofText? run, ← (target.splitOn '.').mapM Hex.ofDigits?⟩
  | _ => none

end Replacement

/-- Replacements of characters. -/
structure CharMap where
  /-- The replacements, of which the first for a character counts. -/
  replacements : List Replacement

namespace CharMap

/-- The text for a character, if the map replaces it. -/
def find? (map : CharMap) (c : Char) : Option (List Char) :=
  (map.replacements.find? (·.run.contains c)).map (·.apply c)

/-- The first character of a run whose text is the given one. -/
def findSource? (map : CharMap) (text : List Char) : Option Char :=
  (map.replacements.find? (·.target == text.map Char.toNat)).map (Char.ofNat ·.run.first)

/-- The map that the rows of a table stand for. -/
def ofRows (rows : List String) : CharMap := ⟨(entries rows).filterMap Replacement.ofText?⟩

end CharMap

end Tickwise.Text
