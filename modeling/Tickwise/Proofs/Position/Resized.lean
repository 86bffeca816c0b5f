import Tickwise.Proofs.Decimal.Units
import Tickwise.Proofs.Position.Backed

/-!
# Sizing from the amounts of a position

What a position takes of a token can be written down and given to another sizing.  From the token
whose amount was given, that sizing finds the same position.  From the other token it finds the same
range and the same amount of that token, but possibly more liquidity, unless a unit of liquidity
holds at least a unit of it.

* `liquidityForAmounts_of_mint` — what the amounts of a position back is found;
* `sizePosition_idempotent` — sizing from the given token again;
* `SizingRequest.relabelled`, `sizePosition_relabelled` — sizing from the other token.
-/

namespace Tickwise

/-! ## The liquidity of the amounts -/

section Amounts

variable {pool : Pool} {range : PriceRange} {width : TickWidth} {liquidity : ℕ}
  {amounts : MintAmounts}

/-- A unit of liquidity never holds much less than a unit of either token. -/
theorem one_le_unitAmount_mul {sqrtPrice : ℕ} (h : range.Around sqrtPrice) (side : Side) :
    1 ≤ unitAmount side range sqrtPrice * 2 ^ 224 := by
  cases side with
  | first =>
    have hunit : (0 : ℚ) < (sqrtPrice * range.sqrtUpper : ℕ) := by
      exact_mod_cast Nat.mul_pos h.pos (h.pos.trans h.lt_upper)
    have hprices : sqrtPrice * range.sqrtUpper ≤ q96 * (range.sqrtUpper - sqrtPrice) * 2 ^ 224 :=
      calc sqrtPrice * range.sqrtUpper ≤ 2 ^ 160 * 2 ^ 160 :=
            Nat.mul_le_mul (h.lt_upper.trans h.upper_lt).le h.upper_lt.le
        _ = q96 * 1 * 2 ^ 224 := by decide
        _ ≤ q96 * (range.sqrtUpper - sqrtPrice) * 2 ^ 224 :=
          Nat.mul_le_mul_right _ (Nat.mul_le_mul_left _ (Nat.sub_pos_of_lt h.lt_upper))
    rw [unitAmount_first h, div_mul_eq_mul_div, le_div_iff₀ hunit, one_mul]
    exact_mod_cast hprices
  | second =>
    have hunit : (0 : ℚ) < (q96 : ℕ) := by exact_mod_cast (by decide : 0 < q96)
    have hprices : q96 ≤ (sqrtPrice - range.sqrtLower) * 2 ^ 224 :=
      calc q96 ≤ 1 * 2 ^ 224 := by decide
        _ ≤ (sqrtPrice - range.sqrtLower) * 2 ^ 224 :=
          Nat.mul_le_mul_right _ (Nat.sub_pos_of_lt h.lower_lt)
    rw [unitAmount_second h, div_mul_eq_mul_div, le_div_iff₀ hunit, one_mul]
    exact_mod_cast hprices

/-- The liquidity that an amount of a position backs is a word. -/
theorem backed_side_lt_wordLimit (hmatch : pool.PriceMatchesTick)
    (hrange : pool.range width = .ok range) (hliquidity : liquidity < liquidityLimit)
    (hamounts : mintAmounts pool range liquidity = .ok amounts) (side : Side) :
    range.backed pool.sqrtPrice side (amounts.side side) < wordLimit := by
  have haround := around_of_range hmatch hrange
  have hunit := unitAmount_pos haround side
  have hcoarse := one_le_unitAmount_mul haround side
  have hless := side_lt_add_one hmatch hrange hamounts side
  by_contra hnot
  have hmore := (le_backed_iff haround side _ _).1 (not_lt.1 hnot)
  have hword : (wordLimit : ℚ) = 2 ^ 256 := by exact_mod_cast (by decide : wordLimit = 2 ^ 256)
  have hlimit : (liquidity : ℚ) ≤ 2 ^ 128 := by
    have : liquidity ≤ 2 ^ 128 := hliquidity.le
    exact_mod_cast this
  rw [hword] at hmore
  have hpart : (liquidity : ℚ) * unitAmount side range pool.sqrtPrice ≤
      2 ^ 128 * unitAmount side range pool.sqrtPrice :=
    mul_le_mul_of_nonneg_right hlimit hunit.le
  linarith

/-- What each amount of a position backs is found, and is no less than its liquidity. -/
theorem liquidityForAmounts_of_mint (hmatch : pool.PriceMatchesTick)
    (hrange : pool.range width = .ok range) (hliquidity : liquidity < liquidityLimit)
    (hamounts : mintAmounts pool range liquidity = .ok amounts) :
    liquidityForAmount0 pool.sqrtPrice range.sqrtUpper amounts.amount0 =
        .ok (range.backed pool.sqrtPrice .first amounts.amount0) ∧
      liquidityForAmount1 range.sqrtLower pool.sqrtPrice amounts.amount1 =
        .ok (range.backed pool.sqrtPrice .second amounts.amount1) := by
  have haround := around_of_range hmatch hrange
  have hword := backed_side_lt_wordLimit hmatch hrange hliquidity hamounts
  rw [liquidityForAmount0_eq_narrow haround.lt_upper haround.upper_lt,
    liquidityForAmount1_eq_narrow haround.lower_lt]
  exact ⟨if_pos (hword .first), if_pos (hword .second)⟩

end Amounts

/-! ## The given token again -/

section Given

variable {pool : Pool} {range : PriceRange} {width : TickWidth} {amount liquidity : ℕ}
  {amounts : MintAmounts} {side : Side}

/-- What is minted from an amount backs the same liquidity as the amount. -/
theorem backed_side_of_backed (hmatch : pool.PriceMatchesTick)
    (hrange : pool.range width = .ok range)
    (hbacked : range.backed pool.sqrtPrice side amount = liquidity)
    (hamounts : mintAmounts pool range liquidity = .ok amounts) :
    range.backed pool.sqrtPrice side (amounts.side side) = liquidity := by
  apply le_antisymm
  · rw [← hbacked]
    exact backed_mono (around_of_range hmatch hrange) side
      (side_le_of_backed hmatch hrange hbacked.ge hamounts)
  · exact le_backed_side hmatch hrange hamounts side

/-- The smaller of the two liquidities is that of the given token. -/
theorem min_backed_of_backed (hmatch : pool.PriceMatchesTick)
    (hrange : pool.range width = .ok range)
    (hbacked : range.backed pool.sqrtPrice side amount = liquidity)
    (hamounts : mintAmounts pool range liquidity = .ok amounts) :
    min (range.backed pool.sqrtPrice .first amounts.amount0)
        (range.backed pool.sqrtPrice .second amounts.amount1) = liquidity := by
  have hgiven := backed_side_of_backed hmatch hrange hbacked hamounts
  have hfirst := le_backed_side hmatch hrange hamounts .first
  have hsecond := le_backed_side hmatch hrange hamounts .second
  cases side with
  | first => exact (min_eq_left (hgiven.le.trans hsecond)).trans hgiven
  | second => exact (min_eq_right (hgiven.le.trans hfirst)).trans hgiven

end Given

/-- The text of an amount of a position is read as that amount. -/
theorem parseUnits_text_side {pool : Pool} {range : PriceRange} {liquidity : ℕ}
    {amounts : MintAmounts} (token : Token) (hdecimals : token.decimals < 2 ^ 8)
    (hamounts : mintAmounts pool range liquidity = .ok amounts) (side : Side) :
    token.parseUnits (token.formatUnits (amounts.side side)).text = .ok (amounts.side side) := by
  obtain ⟨h0, h1⟩ := mintAmounts_le_maxWord hamounts
  have hword : ∀ n ≤ maxWord, n < wordLimit := fun n hn => lt_of_le_of_lt hn (by decide)
  refine token.parseUnits_text_formatUnits hdecimals (hword _ ?_)
  cases side with
  | first => exact h0
  | second => exact h1

/-- **Sizing from what a position takes of the given token finds the position again.**  Its liquidity
is the smaller of the two that its amounts back. -/
theorem sizePosition_idempotent {request : SizingRequest} {position : Position}
    (hmatch : request.pool.PriceMatchesTick) (hdecimals : request.input.decimals < 2 ^ 8)
    (h : sizePosition request = .ok position) :
    ∃ fixed sqrtLower sqrtUpper liquidity0 liquidity1,
      position.amountOf request.input.address = .ok fixed ∧
      sizePosition { request with amount := (request.input.formatUnits fixed).text } =
        .ok position ∧
      sqrtRatioAtTick position.tickLower = .ok sqrtLower ∧
      sqrtRatioAtTick position.tickUpper = .ok sqrtUpper ∧
      liquidityForAmount0 request.pool.sqrtPrice sqrtUpper position.amounts.amount0 =
        .ok liquidity0 ∧
      liquidityForAmount1 sqrtLower request.pool.sqrtPrice position.amounts.amount1 =
        .ok liquidity1 ∧
      min liquidity0 liquidity1 = position.liquidity := by
  obtain ⟨fee, pair, range, amount, liquidity, amounts, hfee, hpair, hrange, -, hbacked, hlimit,
    hamounts, rfl⟩ := exists_backed_of_sizePosition hmatch h
  obtain ⟨-, hlower, hupper⟩ := range_eq_ok hrange
  obtain ⟨hliquidity0, hliquidity1⟩ := liquidityForAmounts_of_mint hmatch hrange hlimit hamounts
  have hagain := backed_side_of_backed hmatch hrange hbacked hamounts
  have hmin := min_backed_of_backed hmatch hrange hbacked hamounts
  have hread := parseUnits_text_side request.input hdecimals hamounts request.side
  refine ⟨_, range.sqrtLower, range.sqrtUpper, _, _, amountOf_input request hpair, ?_, hlower,
    hupper, hliquidity0, hliquidity1, hmin⟩
  generalize (request.input.formatUnits (amounts.side request.side)).text = text at hread ⊢
  exact sizePosition_of_backed { request with amount := text } hmatch hfee hpair hrange hread hagain
    hlimit hamounts

theorem sizePosition_idempotent_at_one :
    requestAtOne.pool.PriceMatchesTick ∧ requestAtOne.input.decimals < 2 ^ 8 ∧
      ∃ position, sizePosition requestAtOne = .ok position ∧
        ∃ fixed, position.amountOf requestAtOne.input.address = .ok fixed ∧
          sizePosition { requestAtOne with amount := (requestAtOne.input.formatUnits fixed).text } =
            .ok position := by
  have hdecimals : requestAtOne.input.decimals < 2 ^ 8 := by decide
  obtain ⟨fixed, -, -, -, -, hfixed, hagain, -⟩ :=
    sizePosition_idempotent requestAtOne_priceMatchesTick hdecimals sizePosition_requestAtOne
  exact ⟨requestAtOne_priceMatchesTick, hdecimals, _, sizePosition_requestAtOne, fixed, hfixed,
    hagain⟩

/-! ## The other token -/

/-- The same sizing from an amount of the other token. -/
def SizingRequest.relabelled (request : SizingRequest) (amount : String) : SizingRequest :=
  { request with input := request.other, other := request.input, amount }

/-- Two positions in one pool and over one range. -/
structure Position.SameRange (p q : Position) : Prop where
  chainId : p.chainId = q.chainId
  pool : p.pool = q.pool
  fee : p.fee = q.fee
  token0 : p.token0 = q.token0
  token1 : p.token1 = q.token1
  tickLower : p.tickLower = q.tickLower
  tickUpper : p.tickUpper = q.tickUpper

section Relabelled

variable {request : SizingRequest} {text : String} {q : Position} {fee : FeeTier}
  {pair : OrderedPair Token} {range : PriceRange} {liquidity : ℕ} {amounts : MintAmounts}

/-- The pair of a request, as the relabelled one makes it. -/
theorem pair_relabelled (hpair : OrderedPair.of request.input.address request.input
      request.other.address request.other = .ok pair) :
    OrderedPair.of (request.relabelled text).input.address (request.relabelled text).input
      (request.relabelled text).other.address (request.relabelled text).other = .ok pair :=
  (OrderedPair.of_comm _ _ _ _).trans hpair

/-- What a position takes of the token whose amount was not given. -/
theorem amountOf_other (text : String) (hpair : OrderedPair.of request.input.address request.input
      request.other.address request.other = .ok pair) :
    (request.position fee pair range liquidity amounts).amountOf request.other.address =
      .ok (amounts.side (request.relabelled text).side) :=
  amountOf_input (request.relabelled text) (pair_relabelled hpair)

/-- A sizing from what a position takes of the other token finds the same range, at least the
liquidity, and as much of that token. -/
theorem le_of_relabelled (text : String) (hmatch : request.pool.PriceMatchesTick)
    (hfee : request.pool.validate = .ok fee)
    (hpair : OrderedPair.of request.input.address request.input request.other.address
      request.other = .ok pair)
    (hrange : request.pool.range request.width = .ok range)
    (hamounts : mintAmounts request.pool range liquidity = .ok amounts)
    (hread : request.other.parseUnits text = .ok (amounts.side (request.relabelled text).side))
    (hq : sizePosition (request.relabelled text) = .ok q) :
    (request.position fee pair range liquidity amounts).SameRange q ∧ liquidity ≤ q.liquidity ∧
      q.amountOf request.other.address = .ok (amounts.side (request.relabelled text).side) ∧
      ∃ spent, q.amountOf request.input.address = .ok spent ∧
        amounts.side request.side ≤ spent := by
  have hmatch' : (request.relabelled text).pool.PriceMatchesTick := hmatch
  obtain ⟨fee', pair', range', amount, liquidity', amounts', hfee', hpair', hrange', hamount,
    hbacked, -, hamounts', rfl⟩ :=
    exists_backed_of_sizePosition hmatch' hq
  cases hfee.symm.trans hfee'
  cases (pair_relabelled hpair).symm.trans hpair'
  cases hrange.symm.trans hrange'
  cases hread.symm.trans hamount
  have hle : liquidity ≤ liquidity' := by
    rw [← hbacked]
    exact le_backed_side hmatch hrange hamounts _
  have hsame : amounts'.side (request.relabelled text).side =
      amounts.side (request.relabelled text).side := by
    apply le_antisymm
    · exact side_le_of_backed hmatch hrange hbacked.ge hamounts'
    · exact side_mono hmatch hrange hamounts hamounts' hle _
  refine ⟨⟨rfl, rfl, rfl, rfl, rfl, rfl, rfl⟩, hle, ?_, _, amountOf_input request hpair,
    side_mono hmatch hrange hamounts hamounts' hle _⟩
  rw [← hsame]
  exact amountOf_other text hpair

end Relabelled

/-- **Sizing from what a position takes of the other token finds the same range and the same amount
of that token.**  The liquidity and the amount of the first token can only grow; and where a unit of
liquidity holds at least a unit of the other token, the position itself is found. -/
theorem sizePosition_relabelled {request : SizingRequest} {p : Position}
    (hmatch : request.pool.PriceMatchesTick) (hdecimals : request.other.decimals < 2 ^ 8)
    (h : sizePosition request = .ok p) :
    ∃ range given spent again, request.pool.range request.width = .ok range ∧
      p.amountOf request.other.address = .ok given ∧
      p.amountOf request.input.address = .ok spent ∧
      again = request.relabelled (request.other.formatUnits given).text ∧
      (∀ q, sizePosition again = .ok q → p.SameRange q ∧ p.liquidity ≤ q.liquidity ∧
        q.amountOf request.other.address = .ok given ∧
        ∃ spent', q.amountOf request.input.address = .ok spent' ∧ spent ≤ spent') ∧
      (1 ≤ unitAmount again.side range request.pool.sqrtPrice →
        sizePosition again = .ok p) := by
  obtain ⟨fee, pair, range, -, liquidity, amounts, hfee, hpair, hrange, -, -, hlimit, hamounts,
    rfl⟩ := exists_backed_of_sizePosition hmatch h
  have hread := parseUnits_text_side request.other hdecimals hamounts (request.relabelled "").side
  refine ⟨range, _, _, _, hrange, amountOf_other "" hpair, amountOf_input request hpair, rfl, ?_⟩
  generalize (request.other.formatUnits (amounts.side (request.relabelled "").side)).text = text
    at hread ⊢
  constructor
  · intro q hq
    exact le_of_relabelled text hmatch hfee hpair hrange hamounts hread hq
  · intro hunit
    exact sizePosition_of_backed (request.relabelled text) hmatch hfee (pair_relabelled hpair) hrange
      hread
      (backed_side_of_one_le hmatch hrange hamounts hunit) hlimit hamounts

/-- Two and a half units of the second token far below the price one, where a unit of liquidity holds
many units of the first. -/
def requestBelowOne : SizingRequest :=
  { requestAtOne with
    pool := { requestAtOne.pool with tick := -100000, sqrtPrice := 533968626430936354154228408 }
    width := ⟨1000, by decide⟩ }

theorem sizePosition_relabelled_below_one :
    requestBelowOne.pool.PriceMatchesTick ∧ requestBelowOne.other.decimals < 2 ^ 8 ∧
      ∃ p, sizePosition requestBelowOne = .ok p ∧
        ∃ given, p.amountOf requestBelowOne.other.address = .ok given ∧
          sizePosition (requestBelowOne.relabelled (requestBelowOne.other.formatUnits given).text) =
            .ok p := by
  have hmatch : requestBelowOne.pool.PriceMatchesTick :=
    ⟨533968626430936354154228408, 533995324194830488886748659, by decide +kernel,
      by decide +kernel, le_rfl, by decide⟩
  have hdecimals : requestBelowOne.other.decimals < 2 ^ 8 := by decide
  have hsized : sizePosition requestBelowOne =
      .ok ⟨1, .ofNat 0xBB, .low, requestAtOne.other, requestAtOne.input, -110000, -90000, 942778544,
        ⟨55038640064, 2500000⟩⟩ := by decide +kernel
  have hbounds : requestBelowOne.pool.range requestBelowOne.width =
      .ok ⟨-110000, -90000, 323876439525042026007317843, 880343424889649248742632770⟩ := by
    decide +kernel
  obtain ⟨range, given, -, again, hrange, hgiven, -, rfl, -, hagain⟩ :=
    sizePosition_relabelled hmatch hdecimals hsized
  cases hbounds.symm.trans hrange
  have hunit := unitAmount_first (around_of_range hmatch hrange)
  refine ⟨hmatch, hdecimals, _, hsized, given, hgiven, hagain (hunit.symm ▸ ?_)⟩
  norm_num [q96, requestBelowOne]

end Tickwise
