import Tickwise.Fee
import Tickwise.Tick.Bounds

/-!
# Pools

The state of a pool as read from the chain. The fee is kept as read; it becomes a tier before
anything is calculated from it.
-/

namespace Tickwise

/-- The state of a pool. -/
structure Pool where
  address : Address
  tick : Int
  tickSpacing : Int
  fee : Nat
  sqrtPrice : Nat
  liquidity : Nat
deriving DecidableEq

namespace Pool

/-- The tier of the pool's fee. -/
def feeTier (pool : Pool) : Except Fault FeeTier := FeeTier.ofFee pool.fee

/-- The tier of a pool that a position can be sized against: the spacing is positive and the
tick within the bounds. -/
def validate (pool : Pool) : Except Fault FeeTier := do
  let tier ← pool.feeTier
  if pool.tickSpacing ≤ 0 then throw (.invalidTickSpacing pool.tickSpacing)
  if ¬ InTickBounds pool.tick then throw (.tickOutOfBounds pool.tick)
  return tier

/-- A pool is sound when it has the fee of a tier, a positive spacing and a tick within the
bounds. -/
theorem validate_eq_ok_iff {pool : Pool} {tier : FeeTier} :
    pool.validate = .ok tier ↔
      tier.fee = pool.fee ∧ 0 < pool.tickSpacing ∧ InTickBounds pool.tick := by
  rw [← FeeTier.ofFee_eq_ok_iff, validate, feeTier]
  cases FeeTier.ofFee pool.fee with
  | error fault => simp [bind, Except.bind]
  | ok read =>
    by_cases hspacing : pool.tickSpacing ≤ 0
    · simp [hspacing, Int.not_lt.2 hspacing, throw, throwThe, MonadExceptOf.throw, bind,
        Except.bind]
    by_cases htick : InTickBounds pool.tick
    · simp [hspacing, htick, Int.not_le.1 hspacing, pure, Except.pure, bind, Except.bind]
    · simp [hspacing, htick, throw, throwThe, MonadExceptOf.throw, bind, Except.bind]

/-- Whether the pool has been given a price. -/
def isInitialized (pool : Pool) : Bool := pool.sqrtPrice ≠ 0

theorem isInitialized_iff {pool : Pool} : pool.isInitialized ↔ pool.sqrtPrice ≠ 0 :=
  decide_eq_true_iff

end Pool

end Tickwise
