import Tickwise.Proofs.Chain.Exchange
import Tickwise.Proofs.Position.FixedSide

/-!
# Consistent pools

A pool that came to be by calls is what it stands under: its tokens are sorted, it has the fee and
the spacing of its tier, and its price belongs to its tick once it has one.  No call changes that,
whatever is asked and however it ends.

* `Pool.Consistent`, `Ledger.Consistent` — what is kept;
* `Consistent.priced` — a pool that is given its price keeps it;
* `Linked.consistent`, `Linked.numbered` — what calls keep, one after the other.
-/

namespace Tickwise

/-- What a table holds after a value was put into it. -/
theorem Table.mem_put {κ α : Type} [DecidableEq κ] {key : κ} {a : α} {table : Table κ α}
    {entry : κ × α} (h : entry ∈ put key a table) : entry = (key, a) ∨ entry ∈ table := by
  induction table with
  | nil => exact .inl (List.mem_singleton.1 h)
  | cons first rest ih =>
    by_cases hkey : first.1 = key
    · rw [put, if_pos hkey, hkey] at h
      exact (List.mem_cons.1 h).imp_right (List.mem_cons_of_mem _)
    · rw [put, if_neg hkey] at h
      rcases List.mem_cons.1 h with rfl | hrest
      · exact .inr List.mem_cons_self
      · exact (ih hrest).imp_right (List.mem_cons_of_mem _)

/-- Whether a pool is what its key says, and has a price that belongs to its tick if it has any. -/
structure Pool.Consistent (key : PoolKey) (pool : Pool) : Prop where
  sorted : key.token0 < key.token1
  fee : pool.fee = key.fee.fee
  tickSpacing : pool.tickSpacing = key.fee.tickSpacing
  price : (pool.sqrtPrice = 0 ∧ pool.tick = 0) ∨ pool.PriceMatchesTick

theorem Pool.Consistent.priceMatchesTick {key : PoolKey} {pool : Pool} (h : pool.Consistent key)
    (hprice : pool.sqrtPrice ≠ 0) : pool.PriceMatchesTick :=
  h.price.resolve_left fun hunpriced => hprice hunpriced.1

namespace Ledger

/-- Whether every pool of a ledger is what its key says. -/
def Consistent (ledger : Ledger) : Prop := ∀ entry ∈ ledger.pools, entry.2.Consistent entry.1

variable {ledger after : Ledger} {key : PoolKey} {pool : Pool} {tick : ℤ} {sqrtPrice : ℕ}

theorem Consistent.of_pools_eq (h : ledger.Consistent) (hsame : after.pools = ledger.pools) :
    after.Consistent := by
  unfold Consistent
  rw [hsame]
  exact h

theorem Consistent.of_get? (h : ledger.Consistent)
    (hget : Table.get? key ledger.pools = some pool) : pool.Consistent key :=
  h (key, pool) (Table.mem_of_get? hget)

theorem Consistent.setPool (h : ledger.Consistent) (hpool : pool.Consistent key) :
    (ledger.setPool key pool).Consistent := by
  intro entry hentry
  rcases Table.mem_put hentry with rfl | hold
  · exact hpool
  · exact h entry hold

/-- A pool without a price is consistent with its sorted key. -/
theorem consistent_unpricedPool (hsorted : key.token0 < key.token1) :
    (ledger.unpricedPool key.fee).Consistent key :=
  ⟨hsorted, rfl, rfl, .inl ⟨rfl, rfl⟩⟩

theorem Consistent.createdPool (h : ledger.Consistent) (hsorted : key.token0 < key.token1) :
    (ledger.createdPool key).Consistent key := by
  unfold Ledger.createdPool
  cases hget : Table.get? key ledger.pools with
  | none => exact consistent_unpricedPool hsorted
  | some entry => exact h.of_get? hget

/-- The tick that a price is stored with is the one that the price belongs to. -/
theorem Consistent.pricedPool (h : ledger.Consistent) (hsorted : key.token0 < key.token1)
    (htick : tickAtSqrtRatio sqrtPrice = .ok tick) :
    (ledger.pricedPool key tick sqrtPrice).Consistent key := by
  have hcreated := h.createdPool hsorted
  unfold Ledger.pricedPool
  split
  · exact hcreated
  · obtain ⟨-, hmin, hmax, hle, hlt⟩ := tickAtSqrtRatio_eq_ok_iff.1 htick
    refine ⟨hsorted, hcreated.fee, hcreated.tickSpacing, .inr ?_⟩
    exact ⟨priceAtTick tick, priceAtTick (tick + 1),
      sqrtRatioAtTick_of_inTickBounds ⟨hmin, hmax.le⟩,
      sqrtRatioAtTick_of_inTickBounds ⟨hmin.trans (Int.le_add_one le_rfl), hmax⟩, hle, hlt⟩

theorem Consistent.priced (h : ledger.Consistent) (hsorted : key.token0 < key.token1)
    (htick : tickAtSqrtRatio sqrtPrice = .ok tick) :
    (ledger.priced key tick sqrtPrice).Consistent :=
  h.setPool (h.pricedPool hsorted htick)

end Ledger

/-! ## What calls keep -/

theorem Exchange.Held.consistent {e : Exchange} (h : e.Held) (hbefore : e.before.Consistent) :
    e.after.Consistent := by
  cases h.does with
  | nothing _ _ hafter => exact hbefore.of_pools_eq (by rw [hafter]; rfl)
  | creation hsorted _ _ hafter =>
    rw [hafter]
    exact hbefore.setPool (hbefore.createdPool hsorted)
  | pricing hsorted htick _ _ hafter =>
    rw [hafter]
    exact hbefore.priced hsorted htick
  | approval _ _ hafter => exact hbefore.of_pools_eq (by rw [hafter]; rfl)
  | mint _ _ hafter => exact hbefore.of_pools_eq (by rw [hafter]; rfl)

theorem Exchange.Held.numbered {e : Exchange} (h : e.Held) (hbefore : e.before.Numbered) :
    e.after.Numbered := by
  cases h.does with
  | nothing _ _ hafter => exact hbefore.of_pools_eq (by rw [hafter]; rfl)
  | creation _ _ _ hafter => exact (hbefore.setPool rfl).of_pools_eq (by rw [hafter]; rfl)
  | pricing _ _ _ _ hafter => exact (hbefore.priced _ _ _).of_pools_eq (by rw [hafter]; rfl)
  | approval _ _ hafter => exact hbefore.of_pools_eq (by rw [hafter]; rfl)
  | mint _ _ hafter => exact hbefore.of_pools_eq (by rw [hafter]; rfl)

namespace Linked

variable {first last : Ledger} {exchanges : List Exchange}

theorem consistent (h : Linked first exchanges last) (hfirst : first.Consistent) :
    last.Consistent := by
  induction h with
  | nil => exact hfirst
  | cons hheld _ ih => exact ih (hheld.consistent hfirst)

theorem numbered (h : Linked first exchanges last) (hfirst : first.Numbered) :
    last.Numbered := by
  induction h with
  | nil => exact hfirst
  | cons hheld _ ih => exact ih (hheld.numbered hfirst)

end Linked

end Tickwise
