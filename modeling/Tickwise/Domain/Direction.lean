import Tickwise.Text.Mark

/-!
# Directions in domains

Letters run from left to right or from right to left, and digits and other characters go along.
Once a letter of a domain runs to the left, each label has to run one way from end to end, so
that no two domains look the same.

* `Direction.of` — the direction of a character;
* `runsOneWay` — whether a label runs one way from end to end.

A table may hold numbers of characters that no domain has.
-/

namespace Tickwise.Domain

open Text

/-- The direction of a character. -/
inductive Direction where
  /-- A letter that runs to the right. -/
  | rightward
  /-- A letter that runs to the left. -/
  | leftward
  /-- A digit of numbers among letters that run to the right. -/
  | number
  /-- A digit of numbers among letters that run to the left. -/
  | arabicNumber
  /-- A character that goes along with those beside it. -/
  | neutral
  /-- A mark, which goes along with the character before it. -/
  | mark
deriving DecidableEq

namespace Direction

/-- The letters that run to the left. -/
def leftwards : CharSet := .ofRows
  ["5be 5c0 5c3 5c6 5d0-5f4 608 60b 60d 61b-64a 66d-66f 671-6d5 6e5-6e6 6ee-6ef 6fa-710 712-72f",
   "74d-7a5 7b1-7ea 7f4-7f5 7fa 7fe-815 81a 824 828 830-858 85e-88e 8a0-8c9 fbb2-fbc2 fe73",
   "10800-1091b 10920-10a00 10a10-10a35 10a40-10ae4 10aeb-10b35 10b40-10d23 10e80-10ea9",
   "10ead-10eb1 10f00-10f45 10f51-10f81 10f86-10ff6 1e800-1e8cf 1e922-1e943 1e94b-1ed3d"]

/-- The digits of numbers among letters that run to the right. -/
def numbers : CharSet := .ofRows
  ["30-39 6f0-6f9 102e1-102fb"]

/-- The digits of numbers among letters that run to the left. -/
def arabicNumbers : CharSet := .ofRows
  ["660-669 66b-66c 10d30-10e7e"]

/-- The characters that go along with those beside them. -/
def neutrals : CharSet := .ofRows
  ["21-2e 3b-60 7b-d7 f7 2b9-2ba 2c2-2cf 2d2-2ed 2ef-2ff 375 3f6 58a-58f 606-607 609-60a 60c",
   "60e-60f 66a 6de 6e9 7f6-7f9 9f2-9f3 9fb af1 bf3-bfa c78-c7e e3f f3a-f3d 1390-1399 1400",
   "169b-169c 17db 17f0-180a 1940-1945 19de-19ff 200c-20c0 2104-214d 218a-2335 237b-2394",
   "2396-26ab 26ad-27ff 2900-2bff 2ce5-2cea 2cf9-2cff 2e00-3004 3008-3020 3030 3037 303d-303f",
   "30a0 30fb 31c0-31e3 4dc0-4dff a490-a4c6 a60d-a60f a673 a67e-a67f a700-a721 a788 a828-a82b",
   "a838-a839 a874-a877 ab6a-ab6b fd3e-fdff fe45-fe46 10101 10140-1018c 10190-101a0 1091f",
   "10b39-10b3f 11052-11065 11660-1166c 11fd5-11ff1 16fe2 1d1e9-1d241 1d245 1d300-1d356 1e2ff",
   "1eef0-1f12f 1f16d-1f16f 1f1ad 1f260-1fbca"]

/-- The marks of no room of their own that run to the right like a letter. -/
def rightwardMarks : CharSet := .ofRows
  ["cbf cc6 11a07-11a08 11c3f"]

/-- The marks beside a character that go along with it all the same. -/
def neutralMarks : CharSet := .ofRows
  ["1171e"]

/-- The direction of a character, which runs to the right unless a table says otherwise. -/
def of (c : Char) : Direction :=
  if leftwards.contains c then .leftward
  else if numbers.contains c then .number
  else if arabicNumbers.contains c then .arabicNumber
  else if neutrals.contains c then .neutral
  else if (isNonspacingMark c && !rightwardMarks.contains c) || neutralMarks.contains c then .mark
  else .rightward

/-- Whether a character makes the domain run to the left in part. -/
def isLeftward (direction : Direction) : Bool :=
  direction = .leftward || direction = .arabicNumber

/-- Whether a label of these directions, without marks at its end, runs to the right: it begins
with a letter, ends with a letter or a digit, and holds nothing that runs to the left. -/
def runRight (directions : List Direction) : Bool :=
  directions.head? = some .rightward &&
    directions.getLast?.any (fun last => last = .rightward || last = .number) &&
    directions.all (!isLeftward ·)

/-- Whether a label of these directions, without marks at its end, runs to the left: it begins
with a letter, ends with a letter or a digit, holds nothing that runs to the right, and has
digits of one kind. -/
def runLeft (directions : List Direction) : Bool :=
  directions.head? = some .leftward &&
    directions.getLast?.any (fun last => isLeftward last || last = .number) &&
    directions.all (· ≠ .rightward) &&
    !(directions.contains .number && directions.contains .arabicNumber)

end Direction

/-- Whether a label runs one way from end to end; an empty one does. -/
def runsOneWay (label : List Char) : Bool :=
  let directions := ((label.map Direction.of).reverse.dropWhile (· = .mark)).reverse
  label = [] || Direction.runRight directions || Direction.runLeft directions

end Tickwise.Domain
