import Tickwise.Fixed
import Tickwise.Tick.Bounds

/-!
# The square-root price at a tick

The square root of `1.0001 ^ (-n)` is a product of the roots of `1.0001 ^ (-2 ^ i)` over the
bits of `n`. The factors are held with 128 fractional bits and each product is cut back to as
many; a positive tick takes the reciprocal. The price is then rounded up to 96 bits, so that
the tick can be found again from it.
-/

namespace Tickwise

/-- A machine word of 256 bits. -/
abbrev Word := BitVec 256

/-- The square root of `1.0001 ^ (-2 ^ i)` for `i` from 0, with 128 fractional bits. -/
def rootFactors : List Word :=
  [0xfffcb933bd6fad37aa2d162d1a594001, 0xfff97272373d413259a46990580e213a,
   0xfff2e50f5f656932ef12357cf3c7fdcc, 0xffe5caca7e10e4e61c3624eaa0941cd0,
   0xffcb9843d60f6159c9db58835c926644, 0xff973b41fa98c081472e6896dfb254c0,
   0xff2ea16466c96a3843ec78b326b52861, 0xfe5dee046a99a2a811c461f1969c3053,
   0xfcbe86c7900a88aedcffc83b479aa3a4, 0xf987a7253ac413176f2b074cf7815e54,
   0xf3392b0822b70005940c7a398e4b70f3, 0xe7159475a2c29b7443b29c7fa6e889d9,
   0xd097f3bdfd2022b8845ad8f792aa5825, 0xa9f746462d870fdf8a65dc1f90e061e5,
   0x70d869a156d2a1b890bb3df62baf32f7, 0x31be135f97d08fd981231505542fcfa6,
   0x9aa508b5b7a84e1c677de54f3e99bc9, 0x5d6af8dedb81196699c329225ee604,
   0x2216e584f5fa1ea926041bedfe98, 0x48a170391f7dc42444e8fa2]

/-- A ratio multiplied by the factor of each bit that is set, lowest bit first. -/
def applyFactors : List Word → (bits : Nat) → (ratio : Word) → Word
  | [], _, ratio => ratio
  | factor :: rest, bits, ratio =>
    applyFactors rest (bits / 2) (if bits % 2 = 1 then (ratio * factor) >>> 128 else ratio)

/-- The square root of `1.0001 ^ (-n)` with 128 fractional bits. -/
def inverseRatio (n : Nat) : Word := applyFactors rootFactors n (BitVec.ofNat 256 (pow2 128))

/-- The square-root price at a tick. -/
def sqrtRatioAtTick (tick : Int) : Except Fault Nat :=
  if tick.natAbs ≤ maxTick.natAbs then
    let inverse := (inverseRatio tick.natAbs).toNat
    let ratio := if 0 < tick then maxWord / inverse else inverse
    .ok (ceilDiv ratio (pow2 32))
  else .error (.tickOutOfBounds tick)

end Tickwise
