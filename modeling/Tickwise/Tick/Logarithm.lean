import Tickwise.Tick.SqrtRatio

/-!
# The tick at a square-root price

The tick is the logarithm of the price. Its base-2 logarithm is taken on words to fourteen
fractional bits by repeated squaring and scaled to the base of ticks; the error bounds of that
leave two candidates, and the price at the higher one decides.

* `LogState.step` — one more bit of the logarithm;
* `log2Word` — the logarithm of a price, with 64 fractional bits;
* `tickAtSqrtRatio` — the greatest tick whose price is at most the given one.
-/

namespace Tickwise

/-! ## The base-2 logarithm -/

/-- A logarithm in progress. -/
structure LogState where
  /-- What is left of the number, between `2 ^ 127` and `2 ^ 128`. -/
  r : Word
  /-- The logarithm so far, in two's complement with 64 fractional bits. -/
  log : Word

/-- Squares what is left: when that doubles its size, the bit at `position` is set and the
square halved. -/
def LogState.step (s : LogState) (position : Nat) : LogState :=
  let square := (s.r * s.r) >>> 127
  let bit := square >>> 128
  ⟨square >>> bit.toNat, s.log ||| (bit <<< position)⟩

/-- The number scaled to one bit below `2 ^ 128`, and the whole part of its logarithm. -/
def LogState.start (ratio : Nat) : LogState :=
  let msb := ratio.log2
  let word := BitVec.ofNat 256 ratio
  ⟨if 128 ≤ msb then word >>> (msb - 127) else word <<< (127 - msb),
   BitVec.ofInt 256 ((msb : Int) - 128) <<< 64⟩

/-- The positions of the fractional bits that are computed, highest first. -/
def logPositions : List Nat := (List.range 14).map (63 - ·)

/-- The base-2 logarithm of a ratio with 128 fractional bits. -/
def log2Word (ratio : Nat) : Word := (logPositions.foldl LogState.step (.start ratio)).log

/-! ## From the logarithm to the tick -/

/-- The logarithm of two to the base of the square-root prices. -/
def logScale : Word := 0x3627a301d71055774c85

/-- What is taken from the scaled logarithm for the lower candidate. -/
def lowerError : Word := 0x28f6481ab7f045a5af012a19d003aaa

/-- What is added to the scaled logarithm for the higher candidate. -/
def upperError : Word := 0xdb2df09e81959a81455e260799a0632f

/-- The whole part of a word with 128 fractional bits, as a signed number of 32 bits. -/
def wholePart (w : Word) : Int := ((w.sshiftRight 128).setWidth 32).toInt

/-- The lower candidate for the tick of a price. -/
def tickLowCandidate (price : Nat) : Int :=
  wholePart (log2Word (price * pow2 32) * logScale - lowerError)

/-- The higher candidate for the tick of a price. -/
def tickHighCandidate (price : Nat) : Int :=
  wholePart (log2Word (price * pow2 32) * logScale + upperError)

/-- The greatest tick whose square-root price is at most `price`. -/
def tickAtSqrtRatio (price : Nat) : Except Fault Int := do
  if ¬ IsInitializable price then throw (.priceOutOfBounds price)
  let low := tickLowCandidate price
  let high := tickHighCandidate price
  if low = high then return low
  return if (← sqrtRatioAtTick high) ≤ price then high else low

end Tickwise
