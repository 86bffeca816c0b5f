import Tickwise.Address
import Tickwise.Bytes

/-!
# Call data

How values are laid out in what a contract is called with, and read from what it answers.
Everything is made of words of 32 bytes. A value of fixed size stands where it belongs; in the
place of any other stands the distance to it, and it follows behind.

* `Abi.Value`, `Abi.encode` — values, and their bytes;
* `Abi.wordAt?`, `Abi.bytesAt?` — what is read from the bytes, whatever else they hold;
* `Abi.text?` — a text from bytes that hold it and nothing else.
-/

namespace Tickwise.Abi

/-! ## Words -/

/-- The count of bytes in a word. -/
def wordSize : Nat := 32

/-- The bytes of a word. -/
def word (n : Nat) : List UInt8 := Bytes.ofNat wordSize n

/-- The word of a signed number. -/
def signed (n : Int) : Nat := (n % pow2 256).toNat

/-- The lowest bits of a word, as a number without a sign. -/
def low (bits n : Nat) : Nat := n % pow2 bits

/-- The word of a number that has to fit in 24 bits with a sign. -/
def int24? (n : Int) : Option Nat :=
  if FitsSigned 24 n then some (signed n) else none

/-! ## Values -/

/-- A value in call data. -/
inductive Value where
  /-- A number, an address or a truth value. -/
  | word (n : Nat)
  /-- Any count of bytes. -/
  | bytes (data : List UInt8)
  /-- Values of kinds that the interface fixes. -/
  | tuple (items : List Value)
  /-- Any count of values of one kind. -/
  | array (items : List Value)

namespace Value

/-- The value of an address. -/
def address (a : Address) : Value := .word a.toNat

/-- The value of a truth value. -/
def flag (b : Bool) : Value := .word b.toNat

end Value

/-- A value in its place: its own bytes, or the distance to them. -/
inductive Part where
  | inPlace (data : List UInt8)
  | behind (data : List UInt8)

namespace Part

/-- The bytes that a part takes in its place. -/
def size : Part → Nat
  | inPlace data => data.length
  | behind _ => wordSize

/-- The bytes that parts take in their places. -/
def sizes : List Part → Nat
  | [] => 0
  | first :: rest => first.size + sizes rest

/-- Whether the part stands in its place. -/
def isInPlace : Part → Bool
  | inPlace _ => true
  | behind _ => false

/-- The places of parts, when what follows behind begins at a distance. -/
def places : (distance : Nat) → List Part → List UInt8
  | _, [] => []
  | distance, inPlace data :: rest => data ++ places distance rest
  | distance, behind data :: rest => word distance ++ places (distance + data.length) rest

/-- What follows behind parts. -/
def follow : List Part → List UInt8
  | [] => []
  | inPlace _ :: rest => follow rest
  | behind data :: rest => data ++ follow rest

/-- The bytes of parts. -/
def layOut (parts : List Part) : List UInt8 :=
  places (sizes parts) parts ++ follow parts

end Part

/-- Bytes filled up with zeros to whole words. -/
def padded (data : List UInt8) : List UInt8 :=
  data ++ List.replicate ((wordSize - data.length % wordSize) % wordSize) 0

mutual

/-- The bytes of a value, as a part of others. -/
def part : Value → Part
  | .word n => .inPlace (word n)
  | .bytes data => .behind (word data.length ++ padded data)
  | .tuple items =>
    let parts := partList items
    let data := Part.layOut parts
    if parts.all Part.isInPlace then .inPlace data else .behind data
  | .array items => .behind (word items.length ++ Part.layOut (partList items))

/-- The parts of values. -/
def partList : List Value → List Part
  | [] => []
  | item :: rest => part item :: partList rest

end

/-- The bytes of values. -/
def encode (values : List Value) : List UInt8 := Part.layOut (partList values)

/-! ## Reading -/

/-- The word at an offset. -/
def wordAt? (offset : Nat) (data : List UInt8) : Option Nat :=
  let bytes := (data.drop offset).take wordSize
  if bytes.length = wordSize then some (Bytes.toNat bytes) else none

@[simp] theorem length_word (n : Nat) : (word n).length = wordSize := Bytes.length_ofNat _ _

/-- A word is read back, whatever follows it. -/
theorem wordAt?_word_append (n : Nat) (rest : List UInt8) :
    wordAt? 0 (word n ++ rest) = some (n % pow2 256) := by
  have h : (word n ++ rest).take wordSize = word n := by
    rw [← length_word n, List.take_left]
  simp only [wordAt?, List.drop_zero, h, length_word, if_true]
  rw [word, Bytes.toNat_ofNat]
  rfl

/-- What stands before an offset does not matter. -/
theorem wordAt?_length_add (before rest : List UInt8) (offset : Nat) :
    wordAt? (before.length + offset) (before ++ rest) = wordAt? offset rest := by
  rw [wordAt?, wordAt?, List.drop_length_add_append]

/-- What begins at the distance that stands at an offset. A distance counts by its lowest 64
bits. -/
def behindAt? (offset : Nat) (data : List UInt8) : Option (List UInt8) := do
  let distance := low 64 (← wordAt? offset data)
  if distance ≤ data.length then some (data.drop distance) else none

/-- The bytes behind an offset. -/
def bytesAt? (offset : Nat) (data : List UInt8) : Option (List UInt8) := do
  let counted ← behindAt? offset data
  let count := low 64 (← wordAt? 0 counted)
  let bytes := counted.drop wordSize
  if count ≤ bytes.length then some (bytes.take count) else none

/-- The values behind an offset, each read by `item?` at its own offset among them. Each takes
one word in its place. -/
def arrayAt? {α : Type} (item? : Nat → List UInt8 → Option α) (offset : Nat)
    (data : List UInt8) : Option (List α) := do
  let counted ← behindAt? offset data
  let count := low 64 (← wordAt? 0 counted)
  let items := counted.drop wordSize
  if count * wordSize ≤ items.length then
    (List.range count).mapM fun i => item? (i * wordSize) items
  else none

/-- The text of bytes that are its encoding and nothing more. -/
def text? (data : List UInt8) : Option String := do
  let bytes ← bytesAt? 0 data
  if encode [.bytes bytes] = data then String.fromUTF8? bytes.toByteArray else none

/-- The number of bytes that are one word and nothing more. -/
def number? (data : List UInt8) : Option Nat :=
  if data.length = wordSize then some (Bytes.toNat data) else none

end Tickwise.Abi
