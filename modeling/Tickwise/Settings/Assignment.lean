import Tickwise.Table
import Tickwise.Text.Blank

/-!
# Assignments of variables

A file of settings assigns variables, one on a line. A value may be quoted, weakly or strongly,
and may name other variables; what follows a blank outside quotes must be a comment.

* `Assignment.ofLine?` — the assignment of a line;
* `Assignment.ofText` — the assignments of a file, up to the first line that is malformed;
* `Assignment.perform` — the environment after assignments, which leave a set variable alone.
-/

namespace Tickwise

/-- A piece of a value. -/
inductive ValuePiece where
  | text (cs : List Char)
  /-- The value of a variable. -/
  | variable (name : List Char)
deriving DecidableEq

/-- A variable and the value it is to have. -/
structure Assignment where
  variableName : String
  value : List ValuePiece
deriving DecidableEq

namespace Assignment

/-! ## Values -/

/-- What a character of a value is part of. -/
inductive Context where
  /-- Text outside quotes. -/
  | bare
  /-- Text in quotes that keep every character but themselves. -/
  | strong
  /-- Text in quotes that keep escapes and variables. -/
  | weak
  /-- An escape, in weak quotes or outside quotes. -/
  | escape (weak : Bool)
  /-- The name of a variable, ended by whatever is neither letter nor digit. -/
  | name (weak : Bool) (read : List Char)
  /-- The name of a variable, ended by a brace. -/
  | braced (weak : Bool) (read : List Char)
  /-- Blanks behind a value. -/
  | ended

/-- Text in weak quotes or outside quotes. -/
def Context.unquoted (weak : Bool) : Context := if weak then .weak else .bare

/-- What an escaped character stands for. -/
def escaped? (c : Char) : Option Char :=
  if c = 'n' then some '\n' else if c ∈ ['\\', '\'', '"', '$', ' '] then some c else none

/-- A value with a character before it. -/
def before (c : Char) (value : Option (List ValuePiece)) : Option (List ValuePiece) :=
  value.map (.text [c] :: ·)

/-- The pieces of a value, from within a context. -/
def valueFrom : Context → List Char → Option (List ValuePiece)
  | .bare, [] | .ended, [] | .escape false, [] => some []
  | .name false read, [] => some [.variable read]
  | .strong, [] | .weak, [] | .escape true, [] | .name true _, [] | .braced .., [] => none
  | .ended, c :: rest =>
    if c = '#' then some []
    else if c = ' ' ∨ c = '\t' then valueFrom .ended rest
    else none
  | .escape weak, c :: rest =>
    (escaped? c).bind fun d => before d (valueFrom (.unquoted weak) rest)
  | .strong, c :: rest =>
    if c = '\'' then valueFrom .bare rest else before c (valueFrom .strong rest)
  | .name weak read, c :: rest =>
    if c.isAlphanum then valueFrom (.name weak (read ++ [c])) rest
    else if c = '\x7b' ∧ read = [] then valueFrom (.braced weak []) rest
    else (.variable read :: ·) <$>
      if c = '$' then valueFrom (.name weak []) rest
      else before c (valueFrom (.unquoted weak) rest)
  | .braced weak read, c :: rest =>
    if c = '\x7d' then (.variable read :: ·) <$> valueFrom (.unquoted weak) rest
    else valueFrom (.braced weak (read ++ [c])) rest
  | .weak, c :: rest =>
    if c = '$' then valueFrom (.name true []) rest
    else if c = '"' then valueFrom .bare rest
    else if c = '\\' then valueFrom (.escape true) rest
    else before c (valueFrom .weak rest)
  | .bare, c :: rest =>
    if c = '$' then valueFrom (.name false []) rest
    else if c = '\'' then valueFrom .strong rest
    else if c = '"' then valueFrom .weak rest
    else if c = '\\' then valueFrom (.escape false) rest
    else if c = ' ' ∨ c = '\t' then valueFrom .ended rest
    else before c (valueFrom .bare rest)

/-! ## Lines -/

/-- Whether a line says nothing more. -/
def isComment (line : List Char) : Bool := line.head?.all (· == '#')

/-- Whether a character can begin the name of a variable. -/
def beginsName (c : Char) : Bool := c.isAlpha || c == '_'

/-- Whether a character can stand in the name of a variable. -/
def isInName (c : Char) : Bool := c.isAlphanum || c == '_' || c == '.'

/-- A name, and what follows it without the blanks before. -/
def nameAndRest? (line : List Char) : Option (List Char × List Char) :=
  if line.head?.any beginsName then
    some (line.takeWhile isInName, Text.trimStart (line.dropWhile isInName))
  else none

/-- What follows the sign between a name and its value, without the blanks before. -/
def afterSign? : List Char → Option (List Char)
  | '=' :: rest => some (Text.trimStart rest)
  | _ => none

/-- The name that a line assigns to, and the text of the value. The word `export` may stand
before the name. -/
def split? (line : List Char) : Option (List Char × List Char) := do
  let (name, rest) ← nameAndRest? line
  match afterSign? rest with
  | some value => pure (name, value)
  | none =>
    guard (name = "export".toList)
    let (name, rest) ← nameAndRest? rest
    pure (name, ← afterSign? rest)

/-- The assignment of a line that is not a comment. -/
def ofLine? (line : List Char) : Option Assignment := do
  let (name, value) ← split? line
  let pieces ← if isComment value then some [] else valueFrom .bare value
  pure ⟨String.ofList name, pieces⟩

/-! ## Files -/

/-- The assignments of lines, up to the first that is malformed. -/
def ofLines : List (List Char) → List Assignment
  | [] => []
  | line :: rest =>
    if isComment line then ofLines rest
    else match ofLine? line with
      | some assignment => assignment :: ofLines rest
      | none => []

/-- The assignments of a text. -/
def ofText (text : String) : List Assignment :=
  ofLines ((text.toList.splitOn '\n').map Text.trim)

/-! ## Performing assignments -/

/-- The value of a piece; a variable that is not set has none. -/
def ValuePiece.value (environment : Table String String) : ValuePiece → String
  | .text cs => String.ofList cs
  | .variable name => (Table.get? (String.ofList name) environment).getD ""

/-- The environment after an assignment. A variable that is set already keeps its value. -/
def performOne (environment : Table String String) (a : Assignment) : Table String String :=
  match Table.get? a.variableName environment with
  | some _ => environment
  | none =>
    let value := String.join (a.value.map (ValuePiece.value environment))
    Table.put a.variableName value environment

/-- The environment after assignments. -/
def perform (assignments : List Assignment) (environment : Table String String) :
    Table String String :=
  assignments.foldl performOne environment

/-- The variables that an assignment asks for. -/
def names (a : Assignment) : List String :=
  a.variableName :: a.value.filterMap fun
    | .text _ => none
    | .variable name => some (String.ofList name)

end Assignment

end Tickwise
