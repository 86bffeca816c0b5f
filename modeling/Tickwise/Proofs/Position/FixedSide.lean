import Tickwise.Proofs.Amount.Exact
import Tickwise.Proofs.Position.Sized
import Tickwise.Proofs.Tick.Inverse
import Tickwise.Proofs.Tick.Range

/-!
# The fixed side of a position

A position is sized from the amount of one token.  When the price of the pool belongs to its tick,
the price lies strictly inside the range, so the amount is spent on one side of it alone, and a
mint takes as much of it as whole units of liquidity can use, and no more.

* `Pool.PriceMatchesTick` — the price of a pool belongs to its tick;
* `range_bounds` — the price lies inside the range;
* `sizePosition_fixed_side` — what a mint takes of the token whose amount is given.
-/

namespace Tickwise

/-- Whether the price of a pool is between the prices at its tick and at the next one. -/
def Pool.PriceMatchesTick (pool : Pool) : Prop :=
  ∃ lower upper, sqrtRatioAtTick pool.tick = .ok lower ∧
    sqrtRatioAtTick (pool.tick + 1) = .ok upper ∧ lower ≤ pool.sqrtPrice ∧ pool.sqrtPrice < upper

variable {pool : Pool} {range : PriceRange} {width : TickWidth}

theorem range_eq_ok (h : pool.range width = .ok range) :
    tickRange pool.tick pool.tickSpacing width = .ok (range.tickLower, range.tickUpper) ∧
      sqrtRatioAtTick range.tickLower = .ok range.sqrtLower ∧
      sqrtRatioAtTick range.tickUpper = .ok range.sqrtUpper := by
  obtain ⟨⟨tickLower, tickUpper⟩, hticks, h⟩ := Except.bind_eq_ok_iff.1 h
  obtain ⟨sqrtLower, hlower, h⟩ := Except.bind_eq_ok_iff.1 h
  obtain ⟨sqrtUpper, hupper, h⟩ := Except.bind_eq_ok_iff.1 h
  cases h
  exact ⟨hticks, hlower, hupper⟩

theorem priceAtTick_pos {tick : ℤ} (h : InTickBounds tick) : 0 < priceAtTick tick := by
  have hmin := priceAtTick_le_priceAtTick (by decide) h h.1
  rw [priceAtTick_minTick] at hmin
  exact lt_of_lt_of_le (by decide) hmin

/-- A price that belongs to the tick lies strictly inside the range around it. -/
theorem range_bounds (hmatch : pool.PriceMatchesTick) (h : pool.range width = .ok range) :
    (range.tickLower < pool.tick ∧ pool.tick < range.tickUpper) ∧
      0 < range.sqrtLower ∧ range.sqrtLower < pool.sqrtPrice ∧
      pool.sqrtPrice < range.sqrtUpper := by
  obtain ⟨hticks, hlower, hupper⟩ := range_eq_ok h
  obtain ⟨hbelow, habove⟩ := tickRange_lt hticks
  obtain ⟨p, q, hp, hq, hle, hlt⟩ := hmatch
  obtain ⟨htick, rfl⟩ := sqrtRatioAtTick_eq_ok_iff.1 hp
  obtain ⟨hnext, rfl⟩ := sqrtRatioAtTick_eq_ok_iff.1 hq
  obtain ⟨hinLower, hsqrtLower⟩ := sqrtRatioAtTick_eq_ok_iff.1 hlower
  obtain ⟨hinUpper, hsqrtUpper⟩ := sqrtRatioAtTick_eq_ok_iff.1 hupper
  refine ⟨⟨hbelow, habove⟩, ?_, ?_, ?_⟩
  · rw [← hsqrtLower]
    exact priceAtTick_pos hinLower
  · rw [← hsqrtLower]
    exact (priceAtTick_lt_priceAtTick hinLower htick hbelow).trans_le hle
  · rw [← hsqrtUpper]
    exact hlt.trans_le (priceAtTick_le_priceAtTick hnext hinUpper habove)

/-! ## The two sides -/

/-- The exact amount of the given token that a liquidity holds: token0 from the price up, token1
from the price down. -/
def exactFixed (side : Side) (range : PriceRange) (sqrtPrice liquidity : ℕ) : ℚ :=
  match side with
  | .first => exactAmount0 sqrtPrice range.sqrtUpper liquidity
  | .second => exactAmount1 range.sqrtLower sqrtPrice liquidity

/-- The amount of a token by its place. -/
def MintAmounts.side (amounts : MintAmounts) : Side → ℕ
  | .first => amounts.amount0
  | .second => amounts.amount1

/-- With the price inside the range, a mint takes of each token what its side of the price holds. -/
theorem mintAmounts_inside {liquidity : ℕ} {amounts : MintAmounts}
    (hbelow : range.tickLower < pool.tick) (habove : pool.tick < range.tickUpper)
    (h : mintAmounts pool range liquidity = .ok amounts) :
    amount0Delta pool.sqrtPrice range.sqrtUpper liquidity .up = .ok amounts.amount0 ∧
      amount1Delta range.sqrtLower pool.sqrtPrice liquidity .up = .ok amounts.amount1 := by
  rw [mintAmounts, if_neg (not_lt.2 hbelow.le), if_pos habove] at h
  obtain ⟨amount0, h0, h⟩ := Except.bind_eq_ok_iff.1 h
  obtain ⟨amount1, h1, h⟩ := Except.bind_eq_ok_iff.1 h
  cases h
  exact ⟨h0, h1⟩

/-- What a mint takes of the token whose amount is given, on either side of the price. -/
theorem fixed_bounds {side : Side} {symbol : String} {amount liquidity : ℕ} {amounts : MintAmounts}
    (hmatch : pool.PriceMatchesTick) (hrange : pool.range width = .ok range)
    (hliquidity : liquidityFor pool range side symbol amount = .ok liquidity)
    (hamounts : mintAmounts pool range liquidity = .ok amounts) :
    amounts.side side ≤ amount ∧
      (amount : ℚ) < exactFixed side range pool.sqrtPrice (liquidity + 1) ∧
      (exactFixed side range pool.sqrtPrice 1 ≤ 1 → amounts.side side = amount) := by
  obtain ⟨⟨hbelow, habove⟩, hpos, hlower, hupper⟩ := range_bounds hmatch hrange
  obtain ⟨h0, h1⟩ := mintAmounts_inside hbelow habove hamounts
  cases side with
  | first =>
    rw [liquidityFor, if_neg (not_le.2 habove), max_eq_left hlower.le] at hliquidity
    exact amount0_of_liquidityForAmount0 (hpos.trans hlower) hupper hliquidity h0
  | second =>
    rw [liquidityFor, if_neg (not_lt.2 hbelow.le), min_eq_left hupper.le] at hliquidity
    exact amount1_of_liquidityForAmount1 hlower hliquidity h1

/-- The given token stands on its side of the pair, and the amount of that side is its own. -/
theorem input_of_sideOf {request : SizingRequest} {fee : FeeTier} {pair : OrderedPair Token}
    {side : Side} {liquidity : ℕ} {amounts : MintAmounts}
    (hpair : OrderedPair.of request.input.address request.input request.other.address
      request.other = .ok pair)
    (hside : pair.sideOf request.input.address = .ok side) :
    (pair.side side).payload = request.input ∧
      (request.position fee pair range liquidity amounts).amountOf request.input.address =
        .ok (amounts.side side) := by
  have hsorted := pair.sorted
  rcases pair_of_sideOf hpair hside with ⟨rfl, hfirst, hsecond⟩ | ⟨rfl, hfirst, hsecond⟩
  · refine ⟨by rw [OrderedPair.side, hfirst], if_pos ?_⟩
    exact congrArg (fun s => s.payload.address) hfirst.symm
  · rw [hfirst, hsecond] at hsorted
    refine ⟨by rw [OrderedPair.side, hsecond], ?_⟩
    rw [Position.amountOf, if_neg, if_pos]
    · rfl
    · exact congrArg (fun s => s.payload.address) hsecond.symm
    · intro heq
      have hother : request.input.address = request.other.address :=
        heq.trans (congrArg (fun s => s.payload.address) hfirst)
      rw [hother] at hsorted
      exact Address.lt_irrefl _ hsorted

/-- A mint takes no more of the given token than the amount that is given. -/
theorem amountOf_le {request : SizingRequest} {position : Position}
    (hmatch : request.pool.PriceMatchesTick) (h : sizePosition request = .ok position) :
    ∃ amount fixed, request.input.parseUnits request.amount = .ok amount ∧
      position.amountOf request.input.address = .ok fixed ∧ fixed ≤ amount := by
  obtain ⟨fee, pair, side, range, amount, liquidity, amounts, -, hpair, hside, hrange, hamount,
    hliquidity, -, hamounts, rfl⟩ := sizePosition_eq_ok_iff.1 h
  obtain ⟨hinput, hfixed⟩ := input_of_sideOf hpair hside
  rw [hinput] at hamount
  exact ⟨amount, _, hamount, hfixed, (fixed_bounds hmatch hrange hliquidity hamounts).1⟩

/-- **A mint never takes more than the given amount, and as much of it as it can.**  `fixed` is
what it takes of the token that `amount` is of; another unit of liquidity would need more than
`amount`; and nothing is left over when a unit of liquidity needs at most one unit of the token. -/
theorem sizePosition_fixed_side {request : SizingRequest} {position : Position}
    (hmatch : request.pool.PriceMatchesTick) (h : sizePosition request = .ok position) :
    ∃ (side : Side) (range : PriceRange) (amount fixed : ℕ),
      side = (if request.input.address < request.other.address then .first else .second) ∧
      request.pool.range request.width = .ok range ∧
      position.tickLower = range.tickLower ∧ position.tickUpper = range.tickUpper ∧
      request.input.parseUnits request.amount = .ok amount ∧
      position.amountOf request.input.address = .ok fixed ∧
      fixed ≤ amount ∧
      (amount : ℚ) < exactFixed side range request.pool.sqrtPrice (position.liquidity + 1) ∧
      (exactFixed side range request.pool.sqrtPrice 1 ≤ 1 → fixed = amount) := by
  obtain ⟨fee, pair, side, range, amount, liquidity, amounts, -, hpair, hside, hrange, hamount,
    hliquidity, -, hamounts, rfl⟩ := sizePosition_eq_ok_iff.1 h
  obtain ⟨hle, hnext, hall⟩ := fixed_bounds hmatch hrange hliquidity hamounts
  have hsorted := pair.sorted
  rcases pair_of_sideOf hpair hside with ⟨rfl, hfirst, hsecond⟩ | ⟨rfl, hfirst, hsecond⟩
  · rw [hfirst, hsecond] at hsorted
    rw [OrderedPair.side, hfirst] at hamount
    refine ⟨.first, range, amount, amounts.amount0, (if_pos hsorted).symm, hrange, rfl, rfl,
      hamount, ?_, hle, hnext, hall⟩
    rw [Position.amountOf, if_pos]
    · rfl
    · exact congrArg (fun s => s.payload.address) hfirst.symm
  · rw [hfirst, hsecond] at hsorted
    rw [OrderedPair.side, hsecond] at hamount
    refine ⟨.second, range, amount, amounts.amount1, (if_neg (Address.lt_asymm hsorted)).symm,
      hrange, rfl, rfl, hamount, ?_, hle, hnext, hall⟩
    rw [Position.amountOf, if_neg, if_pos]
    · rfl
    · exact congrArg (fun s => s.payload.address) hsecond.symm
    · intro heq
      have hother : request.input.address = request.other.address :=
        heq.trans (congrArg (fun s => s.payload.address) hfirst)
      rw [hother] at hsorted
      exact Address.lt_irrefl _ hsorted

/-- Two and a half units of a token of six decimals, in a pool at the price one. -/
def requestAtOne : SizingRequest where
  chainId := 1
  pool :=
    { address := .ofNat 0xBB, tick := 0, tickSpacing := 10, fee := 500, sqrtPrice := q96,
      liquidity := 0 }
  input := { address := .ofNat 2, decimals := 6, symbol := "B", name := "Token B" }
  other := { address := .ofNat 1, decimals := 18, symbol := "A", name := "Token A" }
  amount := "2.5"
  width := ⟨1, by decide⟩

theorem sizePosition_fixed_side_at_one :
    requestAtOne.pool.PriceMatchesTick ∧
      ∃ position, sizePosition requestAtOne = .ok position ∧ position.liquidity = 5001500099 ∧
        ∃ amount fixed, requestAtOne.input.parseUnits requestAtOne.amount = .ok amount ∧
          position.amountOf requestAtOne.input.address = .ok fixed ∧ fixed ≤ amount := by
  have hmatch : requestAtOne.pool.PriceMatchesTick :=
    ⟨q96, 79232123823359799118286999568, by decide +kernel, by decide +kernel, le_rfl, by decide⟩
  have hsized : sizePosition requestAtOne =
      .ok ⟨1, .ofNat 0xBB, .low, requestAtOne.other, requestAtOne.input, -10, 10, 5001500099,
        ⟨2500000, 2500000⟩⟩ := by decide +kernel
  obtain ⟨-, -, amount, fixed, -, -, -, -, hamount, hfixed, hle, -⟩ :=
    sizePosition_fixed_side hmatch hsized
  exact ⟨hmatch, _, hsized, rfl, amount, fixed, hamount, hfixed, hle⟩

end Tickwise
