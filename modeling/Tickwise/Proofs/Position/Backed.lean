import Tickwise.Proofs.Position.FirstFault

/-!
# What an amount backs inside a range

With the price inside its range, each token is held on one side of it, so much of it for each unit of
liquidity.  An amount backs the greatest liquidity that it covers, and a liquidity takes the least
amount that covers it, so the two are adjoint on either side.

* `unitAmount` — how much of a token a unit of liquidity holds;
* `PriceRange.backed` — the liquidity that an amount backs;
* `le_backed_iff`, `side_le_iff` — both against what a unit holds, and what follows for the two;
* `sizePosition_of_backed`, `exists_backed_of_sizePosition` — a sizing in these words.
-/

namespace Tickwise

/-! ## A unit of liquidity -/

/-- How much of a token a unit of liquidity holds on its side of the price. -/
def unitAmount (side : Side) (range : PriceRange) (sqrtPrice : ℕ) : ℚ :=
  exactFixed side range sqrtPrice 1

/-- The greatest liquidity that an amount backs on its side of the price. -/
def PriceRange.backed (range : PriceRange) (sqrtPrice : ℕ) (side : Side) (amount : ℕ) : ℕ :=
  match side with
  | .first => exactLiquidity0 sqrtPrice range.sqrtUpper amount
  | .second => exactLiquidity1 range.sqrtLower sqrtPrice amount

/-- A price strictly inside a range. -/
structure PriceRange.Around (range : PriceRange) (sqrtPrice : ℕ) : Prop where
  lower_pos : 0 < range.sqrtLower
  lower_lt : range.sqrtLower < sqrtPrice
  lt_upper : sqrtPrice < range.sqrtUpper
  upper_lt : range.sqrtUpper < 2 ^ 160

section Around

variable {range : PriceRange} {sqrtPrice : ℕ}

theorem PriceRange.Around.pos (h : range.Around sqrtPrice) : 0 < sqrtPrice :=
  h.lower_pos.trans h.lower_lt

theorem unitAmount_first (h : range.Around sqrtPrice) :
    unitAmount .first range sqrtPrice =
      (q96 * (range.sqrtUpper - sqrtPrice) : ℕ) / (sqrtPrice * range.sqrtUpper : ℕ) := by
  rw [unitAmount, exactFixed, exactAmount0, Nat.cast_mul, Nat.cast_mul, Nat.cast_sub h.lt_upper.le,
    Nat.cast_one, one_mul]

theorem unitAmount_second (h : range.Around sqrtPrice) :
    unitAmount .second range sqrtPrice = (sqrtPrice - range.sqrtLower : ℕ) / (q96 : ℕ) := by
  rw [unitAmount, exactFixed, exactAmount1, Nat.cast_sub h.lower_lt.le, Nat.cast_one, one_mul]

theorem unitAmount_pos (h : range.Around sqrtPrice) (side : Side) :
    0 < unitAmount side range sqrtPrice := by
  have hq : 0 < q96 := by decide
  cases side with
  | first =>
    rw [unitAmount_first h]
    refine div_pos ?_ ?_
    · exact_mod_cast Nat.mul_pos hq (Nat.sub_pos_of_lt h.lt_upper)
    · exact_mod_cast Nat.mul_pos h.pos (h.pos.trans h.lt_upper)
  | second =>
    rw [unitAmount_second h]
    exact div_pos (by exact_mod_cast Nat.sub_pos_of_lt h.lower_lt) (by exact_mod_cast hq)

/-- An amount backs the liquidities that it covers. -/
theorem le_backed_iff (h : range.Around sqrtPrice) (side : Side) (liquidity amount : ℕ) :
    liquidity ≤ range.backed sqrtPrice side amount ↔
      liquidity * unitAmount side range sqrtPrice ≤ amount := by
  cases side with
  | first =>
    have hunit : (0 : ℚ) < (sqrtPrice * range.sqrtUpper : ℕ) := by
      exact_mod_cast Nat.mul_pos h.pos (h.pos.trans h.lt_upper)
    have hwidth : 0 < q96 * (range.sqrtUpper - sqrtPrice) :=
      Nat.mul_pos (by decide) (Nat.sub_pos_of_lt h.lt_upper)
    rw [PriceRange.backed, exactLiquidity0_eq_div h.lt_upper, Nat.le_div_iff_mul_le hwidth,
      unitAmount_first h, ← mul_div_assoc, div_le_iff₀ hunit, Nat.mul_assoc amount]
    exact_mod_cast Iff.rfl
  | second =>
    have hunit : (0 : ℚ) < q96 := by exact_mod_cast (by decide : 0 < q96)
    rw [PriceRange.backed, exactLiquidity1_eq_div h.lower_lt,
      Nat.le_div_iff_mul_le (Nat.sub_pos_of_lt h.lower_lt), unitAmount_second h, ← mul_div_assoc,
      div_le_iff₀ hunit]
    exact_mod_cast Iff.rfl

/-- A larger amount backs at least as much. -/
theorem backed_mono (h : range.Around sqrtPrice) (side : Side) {amount amount' : ℕ}
    (hle : amount ≤ amount') :
    range.backed sqrtPrice side amount ≤ range.backed sqrtPrice side amount' := by
  rw [le_backed_iff h]
  exact ((le_backed_iff h side _ amount).1 le_rfl).trans (by exact_mod_cast hle)

end Around

/-! ## What a mint takes -/

section Mint

variable {pool : Pool} {range : PriceRange} {width : TickWidth} {liquidity liquidity' : ℕ}
  {amounts amounts' : MintAmounts}

theorem around_of_range (hmatch : pool.PriceMatchesTick) (hrange : pool.range width = .ok range) :
    range.Around pool.sqrtPrice := by
  obtain ⟨-, hpos, hlower, hupper⟩ := range_bounds hmatch hrange
  exact ⟨hpos, hlower, hupper, sqrtUpper_lt_two_pow hrange⟩

/-- Inside a range the liquidity of an amount is the one it backs, when that is a word. -/
theorem liquidityFor_eq_ok_iff (hmatch : pool.PriceMatchesTick)
    (hrange : pool.range width = .ok range) (side : Side) (symbol : String) (amount : ℕ) :
    liquidityFor pool range side symbol amount = .ok liquidity ↔
      range.backed pool.sqrtPrice side amount < wordLimit ∧
        range.backed pool.sqrtPrice side amount = liquidity := by
  rw [liquidityFor_eq_narrow hmatch hrange]
  cases side <;> exact narrow_eq_ok_iff

/-- A liquidity takes the least amount that covers it. -/
theorem side_le_iff (hmatch : pool.PriceMatchesTick) (hrange : pool.range width = .ok range)
    (hamounts : mintAmounts pool range liquidity = .ok amounts) (side : Side) (n : ℕ) :
    amounts.side side ≤ n ↔ liquidity * unitAmount side range pool.sqrtPrice ≤ n := by
  obtain ⟨⟨hbelow, habove⟩, -⟩ := range_bounds hmatch hrange
  have haround := around_of_range hmatch hrange
  obtain ⟨h0, h1⟩ := mintAmounts_inside hbelow habove hamounts
  rw [← le_backed_iff haround]
  cases side with
  | first => exact amount0Delta_up_le_iff_le_exactLiquidity0 haround.pos haround.lt_upper h0 n
  | second => exact amount1Delta_up_le_iff_le_exactLiquidity1 haround.lower_lt h1 n

/-- What a mint takes of a token backs its liquidity. -/
theorem le_backed_side (hmatch : pool.PriceMatchesTick) (hrange : pool.range width = .ok range)
    (hamounts : mintAmounts pool range liquidity = .ok amounts) (side : Side) :
    liquidity ≤ range.backed pool.sqrtPrice side (amounts.side side) :=
  (le_backed_iff (around_of_range hmatch hrange) side _ _).2
    ((side_le_iff hmatch hrange hamounts side _).1 le_rfl)

/-- A liquidity that an amount backs takes no more than that. -/
theorem side_le_of_backed {side : Side} {amount : ℕ} (hmatch : pool.PriceMatchesTick)
    (hrange : pool.range width = .ok range)
    (hbacked : liquidity ≤ range.backed pool.sqrtPrice side amount)
    (hamounts : mintAmounts pool range liquidity = .ok amounts) : amounts.side side ≤ amount :=
  (side_le_iff hmatch hrange hamounts side _).2
    ((le_backed_iff (around_of_range hmatch hrange) side _ _).1 hbacked)

/-- More liquidity takes at least as much of either token. -/
theorem side_mono (hmatch : pool.PriceMatchesTick) (hrange : pool.range width = .ok range)
    (hamounts : mintAmounts pool range liquidity = .ok amounts)
    (hamounts' : mintAmounts pool range liquidity' = .ok amounts') (hle : liquidity ≤ liquidity')
    (side : Side) : amounts.side side ≤ amounts'.side side := by
  have hunit := unitAmount_pos (around_of_range hmatch hrange) side
  have hle' : (liquidity : ℚ) ≤ liquidity' := by exact_mod_cast hle
  rw [side_le_iff hmatch hrange hamounts]
  exact (mul_le_mul_of_nonneg_right hle' hunit.le).trans
    ((side_le_iff hmatch hrange hamounts' side _).1 le_rfl)

/-- What a mint takes of a token is less than a unit above the exact amount. -/
theorem side_lt_add_one (hmatch : pool.PriceMatchesTick) (hrange : pool.range width = .ok range)
    (hamounts : mintAmounts pool range liquidity = .ok amounts) (side : Side) :
    (amounts.side side : ℚ) < liquidity * unitAmount side range pool.sqrtPrice + 1 := by
  by_contra hnot
  have hunit := unitAmount_pos (around_of_range hmatch hrange) side
  have hpos : 0 < amounts.side side := by
    have : (0 : ℚ) < amounts.side side :=
      lt_of_lt_of_le (by positivity) (not_lt.1 hnot)
    exact_mod_cast this
  have hless : amounts.side side ≤ amounts.side side - 1 := by
    rw [side_le_iff hmatch hrange hamounts, Nat.cast_pred hpos]
    linarith
  omega

/-- Where a unit of liquidity holds at least a unit of a token, what a mint takes of it backs no more
than the liquidity of the mint. -/
theorem backed_side_of_one_le (hmatch : pool.PriceMatchesTick)
    (hrange : pool.range width = .ok range)
    (hamounts : mintAmounts pool range liquidity = .ok amounts) {side : Side}
    (hunit : 1 ≤ unitAmount side range pool.sqrtPrice) :
    range.backed pool.sqrtPrice side (amounts.side side) = liquidity := by
  refine le_antisymm (Nat.le_of_lt_succ ?_) (le_backed_side hmatch hrange hamounts side)
  by_contra hnot
  have hmore := (le_backed_iff (around_of_range hmatch hrange) side _ _).1 (not_lt.1 hnot)
  have hless := side_lt_add_one hmatch hrange hamounts side
  push_cast at hmore
  linarith

end Mint

/-! ## A sizing -/

section Sizing

variable {position : Position} {pair : OrderedPair Token} {fee : FeeTier} {range : PriceRange}
  {amount liquidity : ℕ} {amounts : MintAmounts} (request : SizingRequest)

/-- The given token of a request in its pair. -/
theorem sideOf_input (hpair : OrderedPair.of request.input.address request.input
      request.other.address request.other = .ok pair) :
    pair.sideOf request.input.address = .ok request.side ∧
      (pair.side request.side).payload = request.input := by
  have hne : request.input.address ≠ request.other.address := by
    intro heq
    rw [heq, OrderedPair.of_self] at hpair
    cases hpair
  obtain ⟨found, hfound, hside, hpayload⟩ := exists_pair_of_ne request hne
  cases hfound.symm.trans hpair
  exact ⟨hside, hpayload⟩

/-- What a position takes of the token whose amount is given. -/
theorem amountOf_input (hpair : OrderedPair.of request.input.address request.input
      request.other.address request.other = .ok pair) :
    (request.position fee pair range liquidity amounts).amountOf request.input.address =
      .ok (amounts.side request.side) :=
  (input_of_sideOf hpair (sideOf_input request hpair).1).2

/-- A request is sized to the liquidity that its amount backs, when that fits. -/
theorem sizePosition_of_backed (hmatch : request.pool.PriceMatchesTick)
    (hfee : request.pool.validate = .ok fee)
    (hpair : OrderedPair.of request.input.address request.input request.other.address
      request.other = .ok pair)
    (hrange : request.pool.range request.width = .ok range)
    (hamount : request.input.parseUnits request.amount = .ok amount)
    (hbacked : range.backed request.pool.sqrtPrice request.side amount = liquidity)
    (hlimit : liquidity < liquidityLimit)
    (hamounts : mintAmounts request.pool range liquidity = .ok amounts) :
    sizePosition request = .ok (request.position fee pair range liquidity amounts) := by
  obtain ⟨hside, hpayload⟩ := sideOf_input request hpair
  have hword : liquidity < wordLimit := hlimit.trans (by decide)
  rw [← hpayload] at hamount
  refine sizePosition_eq_ok_iff.2 ⟨fee, pair, request.side, range, amount, liquidity, amounts, hfee,
    hpair, hside, hrange, hamount, ?_, hlimit, hamounts, rfl⟩
  rw [liquidityFor_eq_ok_iff hmatch hrange, hbacked]
  exact ⟨hword, rfl⟩

/-- **What a sized position is made of**, inside its range. -/
theorem exists_backed_of_sizePosition {request : SizingRequest} (hmatch : request.pool.PriceMatchesTick)
    (h : sizePosition request = .ok position) :
    ∃ fee pair range amount liquidity amounts,
      request.pool.validate = .ok fee ∧
      OrderedPair.of request.input.address request.input request.other.address request.other =
        .ok pair ∧
      request.pool.range request.width = .ok range ∧
      request.input.parseUnits request.amount = .ok amount ∧
      range.backed request.pool.sqrtPrice request.side amount = liquidity ∧
      liquidity < liquidityLimit ∧
      mintAmounts request.pool range liquidity = .ok amounts ∧
      position = request.position fee pair range liquidity amounts := by
  obtain ⟨fee, pair, side, range, amount, liquidity, amounts, hfee, hpair, hside, hrange, hamount,
    hliquidity, hlimit, hamounts, rfl⟩ := sizePosition_eq_ok_iff.1 h
  obtain ⟨hinput, hpayload⟩ := sideOf_input request hpair
  cases hinput.symm.trans hside
  rw [hpayload] at hamount
  obtain ⟨-, hbacked⟩ := (liquidityFor_eq_ok_iff hmatch hrange _ _ _).1 hliquidity
  exact ⟨fee, pair, range, amount, liquidity, amounts, hfee, hpair, hrange, hamount, hbacked, hlimit,
    hamounts, rfl⟩

end Sizing

/-! ## At the price one -/

theorem requestAtOne_priceMatchesTick : requestAtOne.pool.PriceMatchesTick :=
  ⟨q96, 79232123823359799118286999568, by decide +kernel, by decide +kernel, le_rfl, by decide⟩

theorem sizePosition_requestAtOne : sizePosition requestAtOne =
    .ok ⟨1, .ofNat 0xBB, .low, requestAtOne.other, requestAtOne.input, -10, 10, 5001500099,
      ⟨2500000, 2500000⟩⟩ := by decide +kernel

end Tickwise
