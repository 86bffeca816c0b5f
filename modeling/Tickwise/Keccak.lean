/-!
# The Keccak-256 hash

The sponge over twenty-five 64-bit lanes with a rate of 136 bytes, padded with `0x01 … 0x80`.
Addresses take the letter case of their checksummed spelling from it.
-/

namespace Tickwise.Keccak

/-- The constants mixed into the first lane, one a round. -/
def roundConstants : List UInt64 :=
  [0x0000000000000001, 0x0000000000008082, 0x800000000000808A, 0x8000000080008000,
   0x000000000000808B, 0x0000000080000001, 0x8000000080008081, 0x8000000000008009,
   0x000000000000008A, 0x0000000000000088, 0x0000000080008009, 0x000000008000000A,
   0x000000008000808B, 0x800000000000008B, 0x8000000000008089, 0x8000000000008003,
   0x8000000000008002, 0x8000000000000080, 0x000000000000800A, 0x800000008000000A,
   0x8000000080008081, 0x8000000000008080, 0x0000000080000001, 0x8000000080008008]

/-- How far the lane at `x + 5 * y` is rotated. -/
def rotations : Array UInt64 :=
  #[0, 1, 62, 28, 27, 36, 44, 6, 55, 20, 3, 10, 43, 25, 39, 41, 45, 15, 21, 8, 18, 2, 61, 56, 14]

/-- The lanes of a state; lane `(x, y)` stands at `x + 5 * y`. -/
abbrev Lanes := Array UInt64

/-- The lane at an index, zero outside the state. -/
def Lanes.at (s : Lanes) (i : Nat) : UInt64 := s.getD i 0

/-- The lane rotated left by `k` bits. -/
def rotl (w k : UInt64) : UInt64 := if k = 0 then w else (w <<< k) ||| (w >>> (64 - k))

/-- A state given by its lane at each index. -/
def build (f : Nat → UInt64) : Lanes := ((List.range 25).map f).toArray

/-- Each lane takes the parities of two neighbouring columns. -/
def theta (s : Lanes) : Lanes :=
  let column := ((List.range 5).map fun x =>
    s.at x ^^^ s.at (x + 5) ^^^ s.at (x + 10) ^^^ s.at (x + 15) ^^^ s.at (x + 20)).toArray
  build fun i =>
    s.at i ^^^ column.getD ((i + 4) % 5) 0 ^^^ rotl (column.getD ((i + 1) % 5) 0) 1

/-- Lanes are rotated and moved: lane `(x, y)` goes to `(y, 2 * x + 3 * y)`. -/
def rhoPi (s : Lanes) : Lanes :=
  build fun i =>
    let x := i % 5
    let y := i / 5
    let source := (x + 3 * y) % 5 + 5 * x
    rotl (s.at source) (rotations.getD source 0)

/-- Each lane is combined with the next two of its row. -/
def chi (s : Lanes) : Lanes :=
  build fun i =>
    let row := i - i % 5
    s.at i ^^^ (~~~(s.at (row + (i + 1) % 5)) &&& s.at (row + (i + 2) % 5))

/-- One round. -/
def round (s : Lanes) (c : UInt64) : Lanes :=
  let t := chi (rhoPi (theta s))
  t.setIfInBounds 0 (t.at 0 ^^^ c)

/-- The permutation of twenty-four rounds. -/
def permute (s : Lanes) : Lanes := roundConstants.foldl round s

/-! ## The sponge -/

/-- The count of bytes absorbed between two permutations. -/
def rate : Nat := 136

/-- Eight bytes as a lane, least significant first. -/
def lane (bytes : List UInt8) : UInt64 :=
  bytes.foldr (fun b w => (w <<< 8) ||| b.toUInt64) 0

/-- The message filled up to a whole number of blocks. -/
def pad (message : List UInt8) : List UInt8 :=
  let short := rate - message.length % rate
  if short = 1 then message ++ [0x81]
  else message ++ 0x01 :: List.replicate (short - 2) 0 ++ [0x80]

/-- The first `count` blocks of `bytes` are mixed into the state. -/
def absorb : (count : Nat) → List UInt8 → Lanes → Lanes
  | 0, _, s => s
  | count + 1, bytes, s =>
    absorb count (bytes.drop rate)
      (permute (build fun i => s.at i ^^^ if i < 17 then lane ((bytes.drop (8 * i)).take 8) else 0))

/-- The 32 bytes of the hash. -/
def hash (message : List UInt8) : List UInt8 :=
  let padded := pad message
  let s := absorb (padded.length / rate) padded (Array.replicate 25 0)
  (List.range 32).map fun i => (s.at (i / 8) >>> (UInt64.ofNat (8 * (i % 8)))).toUInt8

end Tickwise.Keccak
