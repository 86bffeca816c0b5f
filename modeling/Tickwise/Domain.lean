import Tickwise.Domain.Direction
import Tickwise.Domain.Joining
import Tickwise.Domain.Mapping
import Tickwise.Domain.Punycode

/-!
# Domains

A domain is a row of labels between points, in any script. A label in another script than ASCII
may hide behind `xn--`, and no two domains may look the same.

* `ofText?` — the domain that a text names.
-/

namespace Tickwise.Domain

open Text

/-! ## Labels -/

/-- Whether a character is in ASCII. -/
def isAscii (c : Char) : Bool := c.toNat < 0x80

/-- Whether a character cannot stand in a domain. -/
def isForbidden (c : Char) : Bool :=
  isControl c || c ∈ " #%/:<>?@[\\]^|".toList

/-- The label that a text hides; it has to be in the form that it would be given itself. -/
def reveal? (hidden : List Char) : Option (List Char) := do
  guard (hidden ≠ [] && hidden.all isAscii && hidden.getLast? ≠ some '-' && hidden.length ≤ 2000)
  let label ← Punycode.decode? hidden
  guard (mapText? label = some label && !label.any isForbidden && '.' ∉ label)
  pure label

/-- The label that is read where a label is written. -/
def readLabel? : List Char → Option (List Char)
  | 'x' :: 'n' :: '-' :: '-' :: hidden => reveal? hidden
  | label => if label.all isAscii || label.length ≤ 1000 then some label else none

/-- Whether a label begins with a character of its own and has its joiners in place. -/
def isLabel (label : List Char) : Bool := !label.head?.any isMark && hasJoinersInPlace label

/-! ## Domains -/

/-- Whether the labels of a domain run one way each, if any of them runs to the left. -/
def areDirected (labels : List (List Char)) : Bool :=
  !labels.any (·.any fun c => (Direction.of c).isLeftward) || labels.all runsOneWay

/-- The domain that a text names. -/
def ofText? (text : List Char) : Option (List Char) := do
  let domain ← mapText? text
  guard (!domain.any isForbidden)
  let labels ← (domain.splitOn '.').mapM readLabel?
  guard (labels.all isLabel && areDirected labels)
  pure domain

end Tickwise.Domain
