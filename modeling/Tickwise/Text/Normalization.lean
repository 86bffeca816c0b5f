import Tickwise.Text.CombiningClass
import Tickwise.Text.Decomposition

/-!
# Normal form of text

Texts that read the same may differ in whether a letter and its marks are one character, and in
the order of the marks. The normal form of a text takes all characters apart, orders the marks,
and puts together what can be.

* `decomposed` — a text taken apart, with its marks in order;
* `composed` — a text put together, without taking anything apart;
* `normalize` — the normal form of a text.
-/

namespace Tickwise.Text

/-- A text in parts, with its marks in order. -/
def decomposed (text : List Char) : List Char := reorder (text.flatMap decompose)

/-- Whether nothing stands between a starting character and a later one: no mark at all, or
none of the later one's class or a higher one. -/
def isUnblocked (marks : List Char) (c : Char) : Bool :=
  marks.getLast?.all fun last => combiningClass last < combiningClass c

/-- A text put together behind a starting character and the marks that stay apart from it. -/
def composedAfter (start : Char) (marks : List Char) : List Char → List Char
  | [] => start :: marks
  | c :: rest =>
    match if isUnblocked marks c then join? start c else none with
    | some joined => composedAfter joined marks rest
    | none =>
      if combiningClass c = 0 then start :: marks ++ composedAfter c [] rest
      else composedAfter start (marks ++ [c]) rest

/-- A text with each character joined to the marks and parts after it that it can be joined to. -/
def composed : List Char → List Char
  | [] => []
  | c :: rest => composedAfter c [] rest

/-- The normal form of a text. -/
def normalize (text : List Char) : List Char := composed (decomposed text)

end Tickwise.Text
