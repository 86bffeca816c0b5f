import Tickwise.Power

/-!
# Punycode

A label in any script, written in ASCII. First stand its ASCII characters and a hyphen, if it
has any; behind these stands where the others belong. Each of them is written as the count of
steps from the one before it, where a step goes one place on in the label and, at its end, to
the next character and back to the start.

* `decode?` — the label that a text stands for.
-/

namespace Tickwise.Domain.Punycode

/-! ## Digits -/

/-- The value of a digit in base 36, letters first. -/
def digit? (c : Char) : Option Nat :=
  if 'a' ≤ c ∧ c ≤ 'z' then some (c.toNat - 'a'.toNat)
  else if 'A' ≤ c ∧ c ≤ 'Z' then some (c.toNat - 'A'.toNat)
  else if '0' ≤ c ∧ c ≤ '9' then some (c.toNat - '0'.toNat + 26)
  else none

/-- The least value with which a digit is not the last one of its number. It grows by 36 for
each digit, past a bias, and stays between 1 and 26. -/
def threshold (bias place : Nat) : Nat := min 26 (max 1 (36 * place - bias))

/-- Divides a number by 35 until it is at most 455, and counts 36 for each division. -/
def shrink (n : Nat) : Nat × Nat :=
  if 455 < n then
    let (shrunk, count) := shrink (n / 35)
    (shrunk, count + 36)
  else (n, 0)
termination_by n
decreasing_by exact Nat.div_lt_self (by omega) (by omega)

/-- The bias for the next number, after one for a label of some length. -/
def adapt (n length : Nat) (isFirst : Bool) : Nat :=
  let scaled := if isFirst then n / 700 else n / 2
  let (shrunk, count) := shrink (scaled + scaled / length)
  count + 36 * shrunk / (shrunk + 38)

/-- Adds the number that a text begins with to another one, and gives what follows it. Digits
weigh more from place to place; a number or a weight of more than 32 bits is refused. -/
def addNumber? (bias : Nat) : (place weight sum : Nat) → List Char → Option (Nat × List Char)
  | _, _, _, [] => none
  | place, weight, sum, c :: rest =>
    let threshold := threshold bias place
    match digit? c with
    | none => none
    | some digit =>
      if pow2 32 ≤ sum + digit * weight then none
      else if digit < threshold then some (sum + digit * weight, rest)
      else if pow2 32 ≤ weight * (36 - threshold) then none
      else addNumber? bias (place + 1) (weight * (36 - threshold)) (sum + digit * weight) rest

/-- A number is at least one digit. -/
theorem length_lt_of_addNumber? {bias place weight sum total : Nat} {text rest : List Char}
    (h : addNumber? bias place weight sum text = some (total, rest)) :
    rest.length < text.length := by
  induction text generalizing place weight sum with
  | nil => simp [addNumber?] at h
  | cons c text ih =>
    rw [addNumber?] at h
    split at h
    · contradiction
    · split at h
      · contradiction
      · split at h
        · cases h
          exact Nat.lt_succ_self _
        · split at h
          · contradiction
          · exact Nat.lt_succ_of_lt (ih h)

/-! ## Labels -/

/-- The character of a number, if there is one. -/
def char? (n : Nat) : Option Char := if n.isValidChar then some (Char.ofNat n) else none

/-- Puts the characters that a text stands for into a label. The last one was put before
`place`, and no later one has a lower number than `code`. -/
def insertAll? (bias code place : Nat) (label text : List Char) : Option (List Char) :=
  if text = [] then some label
  else
    match _h : addNumber? bias 1 1 place text with
    | none => none
    | some (sum, rest) => do
      let length := label.length + 1
      let code := code + sum / length
      let c ← char? code
      insertAll? (adapt (sum - place) length (place = 0)) code (sum % length + 1)
        (label.insertIdx (sum % length) c) rest
termination_by text.length
decreasing_by exact length_lt_of_addNumber? _h

/-- The text before the last hyphen, and the text after it; without a hyphen there is none
before it. A hyphen at the start is no such mark. -/
def split (text : List Char) : List Char × List Char :=
  let tail := (text.reverse.takeWhile (· ≠ '-')).reverse
  match text.take (text.length - tail.length) with
  | [] | ['-'] => ([], text)
  | head => (head.dropLast, tail)

/-- The label that a text stands for. -/
def decode? (text : List Char) : Option (List Char) :=
  let (label, rest) := split text
  insertAll? 72 0x80 0 label rest

end Tickwise.Domain.Punycode
