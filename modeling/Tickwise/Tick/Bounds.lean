/-!
# The bounds of ticks and prices

A tick stands for the price `1.0001 ^ tick`. Ticks and the square-root prices that belong to
them are bounded, alike in both directions.
-/

namespace Tickwise

/-- The lowest tick. -/
def minTick : Int := -887272

/-- The highest tick. -/
def maxTick : Int := 887272

/-- The square-root price at `minTick`. -/
def minSqrtRatio : Nat := 4295128739

/-- The square-root price at `maxTick`; no pool reaches it. -/
def maxSqrtRatio : Nat := 1461446703485210103287273052203988822378723970342

/-- Whether a tick is within the bounds. -/
def InTickBounds (tick : Int) : Prop := minTick ≤ tick ∧ tick ≤ maxTick

instance (tick : Int) : Decidable (InTickBounds tick) :=
  inferInstanceAs (Decidable (_ ∧ _))

/-- Whether a pool can start at a square-root price. -/
def IsInitializable (price : Nat) : Prop := minSqrtRatio ≤ price ∧ price < maxSqrtRatio

instance (price : Nat) : Decidable (IsInitializable price) :=
  inferInstanceAs (Decidable (_ ∧ _))

end Tickwise
