import Tickwise.Text.CombiningClass
import Tickwise.Text.Mark

/-!
# Joined letters in domains

In some scripts a letter takes another form where it is joined to the one before it or after
it. Two characters without a glyph say whether to join, and they may stand only where that
changes the form of a letter.

* `joiningNext`, `joiningLast` — the letters that can be joined to the next one or to the last one;
* `hasJoinersInPlace` — whether each joiner of a label changes the form of a letter.

A table may hold numbers of characters that no domain has.
-/

namespace Tickwise.Domain

open Text

/-! ## Letters -/

/-- The letters that can be joined to the next one. -/
def joiningNext : CharSet := .ofRows
  ["620 626 628 62a-62e 633-63f 641-647 649-64a 66e-66f 679-687 69a-6bf 6c1-6c2 6cc 6ce 6d0-6d1",
   "6fa-6fc 6ff 712-714 71a-71d 71f-727 729 72b 72d-72e 74e-758 75c-76a 76d-770 772 775-777",
   "77a-77f 7ca-7ea 841-845 848 84a-853 855 860 862-865 868 886 889-88d 8a0-8a9 8af-8b0 8b3-8b8",
   "8ba-8c8 1807 1820-1878 1887-18a8 18aa a840-a872 10ac0-10ac4 10acd 10ad3-10adc 10ade-10ae0",
   "10aeb-10aee 10b80 10b82 10b86-10b88 10b8a-10b8b 10b8d 10b90 10bad-10bae 10d00-10d21 10d23",
   "10f30-10f32 10f34-10f44 10f51-10f53 10f70-10f73 10f76-10f81 10fb0 10fb2-10fb3 10fb8",
   "10fbb-10fbc 10fbe-10fbf 10fc1 10fc4 10fca-10fcb 1e922-1e943"]

/-- The letters that can be joined to the last one. -/
def joiningLast : CharSet := .ofRows
  ["620 622-63f 641-64a 66e-66f 671-673 679-6d3 6d5 6ee-6ef 6fa-6fc 6ff 710 712-72f 74d-77f",
   "7ca-7ea 840-858 860 862-865 867-882 886 889-88e 8a0-8ac 8ae-8c8 1807 1820-1878 1887-18a8 18aa",
   "a840-a871 10ac0-10ac5 10ac7 10ac9-10aca 10ace-10ad6 10ad8-10ae1 10ae4 10aeb-10aef 10b80-10b91",
   "10ba9-10bae 10d01-10d23 10f30-10f44 10f51-10f54 10f70-10f81 10fb0 10fb2-10fb6 10fb8-10fbf",
   "10fc1-10fc4 10fc9-10fca 1e922-1e943"]

/-- The characters with room of their own that letters are joined across. -/
def transparentLetters : CharSet := .ofRows
  ["1171e 1e94b"]

/-- Whether letters are joined across a character. -/
def isTransparent (c : Char) : Bool := isNonspacingMark c || transparentLetters.contains c

/-- Whether the first of these characters that letters are not joined across is in a set. -/
def meets (set : CharSet) (text : List Char) : Bool :=
  (text.find? (!isTransparent ·)).any set.contains

/-! ## Joiners -/

/-- Whether a character is in place between others, of which those before it stand in reverse.
A joiner is in place after a virama, and the one that keeps letters apart also between two
letters that would be joined. -/
def isInPlace (before : List Char) (c : Char) (after : List Char) : Bool :=
  let behindVirama := before.head?.any isVirama
  if c = '\u200c' then behindVirama || (meets joiningNext before && meets joiningLast after)
  else if c = '\u200d' then behindVirama
  else true

/-- Whether all characters of a text are in place behind others, which stand in reverse. -/
def areInPlace : (before : List Char) → List Char → Bool
  | _, [] => true
  | before, c :: after => isInPlace before c after && areInPlace (c :: before) after

/-- Whether each joiner of a label changes the form of a letter. -/
def hasJoinersInPlace (label : List Char) : Bool := areInPlace [] label

end Tickwise.Domain
