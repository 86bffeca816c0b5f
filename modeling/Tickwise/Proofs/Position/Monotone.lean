import Tickwise.Proofs.Position.Backed

/-!
# Sizing is monotone

A smaller amount is sized whenever a larger one is, to no more liquidity and no more of either token.
A wider range holds more of the given token for each unit of liquidity, so the same amount backs less
of it.

* `range_widens`, `unitAmount_le_unitAmount` — a wider range holds more for each unit;
* `sizePosition_of_amount_le` — a smaller amount;
* `liquidity_le_of_width_le` — a wider range;
* `sizePosition_monotone` — both together.
-/

namespace Tickwise

/-! ## Wider ranges -/

/-- A range whose prices lie inside those of another. -/
structure PriceRange.Within (range range' : PriceRange) : Prop where
  lower : range'.sqrtLower ≤ range.sqrtLower
  upper : range.sqrtUpper ≤ range'.sqrtUpper

section Wider

variable {pool : Pool} {range range' : PriceRange} {width width' : TickWidth} {sqrtPrice : ℕ}

/-- A greater width gives a wider range of prices. -/
theorem range_widens (hrange : pool.range width = .ok range)
    (hrange' : pool.range width' = .ok range') (hle : width.spacings ≤ width'.spacings) :
    range.Within range' := by
  obtain ⟨hticks, hlower, hupper⟩ := range_eq_ok hrange
  obtain ⟨hticks', hlower', hupper'⟩ := range_eq_ok hrange'
  obtain ⟨hbelow, habove⟩ := tickRange_widens hticks hticks' hle
  obtain ⟨hinLower, hsqrtLower⟩ := sqrtRatioAtTick_eq_ok_iff.1 hlower
  obtain ⟨hinUpper, hsqrtUpper⟩ := sqrtRatioAtTick_eq_ok_iff.1 hupper
  obtain ⟨hinLower', hsqrtLower'⟩ := sqrtRatioAtTick_eq_ok_iff.1 hlower'
  obtain ⟨hinUpper', hsqrtUpper'⟩ := sqrtRatioAtTick_eq_ok_iff.1 hupper'
  constructor
  · rw [← hsqrtLower, ← hsqrtLower']
    exact priceAtTick_le_priceAtTick hinLower' hinLower hbelow
  · rw [← hsqrtUpper, ← hsqrtUpper']
    exact priceAtTick_le_priceAtTick hinUpper hinUpper' habove

/-- A unit of liquidity holds more of either token in a wider range. -/
theorem unitAmount_le_unitAmount (h : range.Around sqrtPrice) (h' : range'.Around sqrtPrice)
    (hwithin : range.Within range') (side : Side) :
    unitAmount side range sqrtPrice ≤ unitAmount side range' sqrtPrice := by
  cases side with
  | first =>
    have hprice := h.pos
    have hunit : (0 : ℚ) < (sqrtPrice * range.sqrtUpper : ℕ) := by
      exact_mod_cast Nat.mul_pos hprice (hprice.trans h.lt_upper)
    have hunit' : (0 : ℚ) < (sqrtPrice * range'.sqrtUpper : ℕ) := by
      exact_mod_cast Nat.mul_pos hprice (hprice.trans h'.lt_upper)
    -- u ↦ (u - p) / u grows with u
    have hgrows : (range.sqrtUpper - sqrtPrice) * range'.sqrtUpper ≤
        (range'.sqrtUpper - sqrtPrice) * range.sqrtUpper := by
      rw [Nat.sub_mul, Nat.sub_mul, Nat.mul_comm range'.sqrtUpper]
      exact Nat.sub_le_sub_left (Nat.mul_le_mul_left _ hwithin.upper) _
    rw [unitAmount_first h, unitAmount_first h', div_le_div_iff₀ hunit hunit']
    exact_mod_cast
      calc q96 * (range.sqrtUpper - sqrtPrice) * (sqrtPrice * range'.sqrtUpper)
          = q96 * sqrtPrice * ((range.sqrtUpper - sqrtPrice) * range'.sqrtUpper) := by ring
        _ ≤ q96 * sqrtPrice * ((range'.sqrtUpper - sqrtPrice) * range.sqrtUpper) :=
          Nat.mul_le_mul_left _ hgrows
        _ = q96 * (range'.sqrtUpper - sqrtPrice) * (sqrtPrice * range.sqrtUpper) := by ring
  | second =>
    have hless : sqrtPrice - range.sqrtLower ≤ sqrtPrice - range'.sqrtLower :=
      Nat.sub_le_sub_left hwithin.lower _
    rw [unitAmount_second h, unitAmount_second h']
    gcongr

/-- An amount backs less liquidity in a wider range. -/
theorem backed_le_of_within (h : range.Around sqrtPrice) (h' : range'.Around sqrtPrice)
    (hwithin : range.Within range') (side : Side) (amount : ℕ) :
    range'.backed sqrtPrice side amount ≤ range.backed sqrtPrice side amount := by
  rw [le_backed_iff h]
  calc (range'.backed sqrtPrice side amount : ℚ) * unitAmount side range sqrtPrice
      ≤ range'.backed sqrtPrice side amount * unitAmount side range' sqrtPrice :=
        mul_le_mul_of_nonneg_left (unitAmount_le_unitAmount h h' hwithin side) (Nat.cast_nonneg _)
    _ ≤ amount := (le_backed_iff h' side _ amount).1 le_rfl

end Wider

/-! ## Two sizings -/

section Sizings

variable {request : SizingRequest} {position : Position}

/-- A smaller amount than one that is sized is sized too, to no more of anything. -/
theorem sizePosition_of_amount_le {text : String} {amount amount' : ℕ}
    (hmatch : request.pool.PriceMatchesTick) (hread : request.input.parseUnits text = .ok amount)
    (hread' : request.input.parseUnits request.amount = .ok amount') (hle : amount ≤ amount')
    (h : sizePosition request = .ok position) :
    ∃ smaller, sizePosition { request with amount := text } = .ok smaller ∧
      smaller.liquidity ≤ position.liquidity ∧
      ∀ side, smaller.amounts.side side ≤ position.amounts.side side := by
  obtain ⟨fee, pair, range, found, liquidity, amounts, hfee, hpair, hrange, hamount, hbacked, hlimit,
    hamounts, rfl⟩ := exists_backed_of_sizePosition hmatch h
  cases hread'.symm.trans hamount
  have hless : range.backed request.pool.sqrtPrice request.side amount ≤ liquidity := by
    rw [← hbacked]
    exact backed_mono (around_of_range hmatch hrange) _ hle
  have hfits := hless.trans_lt hlimit
  obtain ⟨amounts', hamounts'⟩ := exists_mintAmounts hmatch hrange hfits
  exact ⟨_, sizePosition_of_backed { request with amount := text } hmatch hfee hpair hrange hread rfl
    hfits hamounts', hless, side_mono hmatch hrange hamounts' hamounts hless⟩

/-- The same amount over a wider range is sized to no more liquidity. -/
theorem liquidity_le_of_width_le {wider : Position} {width : TickWidth}
    (hmatch : request.pool.PriceMatchesTick) (hle : request.width.spacings ≤ width.spacings)
    (h : sizePosition request = .ok position)
    (hwider : sizePosition { request with width } = .ok wider) :
    wider.liquidity ≤ position.liquidity := by
  have hmatch' : { request with width }.pool.PriceMatchesTick := hmatch
  obtain ⟨fee, pair, range, amount, liquidity, amounts, -, -, hrange, hamount, hbacked, -, -, rfl⟩ :=
    exists_backed_of_sizePosition hmatch h
  obtain ⟨fee', pair', range', amount', liquidity', amounts', -, -, hrange', hamount', hbacked', -, -,
    rfl⟩ := exists_backed_of_sizePosition hmatch' hwider
  cases hamount.symm.trans hamount'
  have hbound := backed_le_of_within (around_of_range hmatch hrange) (around_of_range hmatch hrange')
    (range_widens hrange hrange' hle) request.side amount
  exact hbacked'.ge.trans (hbound.trans hbacked.le)

end Sizings

/-- **Sizing is monotone.**  A smaller amount is sized whenever a larger one is, and takes no more of
either token for no more liquidity; and a narrower range never has less liquidity for an amount. -/
theorem sizePosition_monotone {request : SizingRequest} {position : Position}
    (hmatch : request.pool.PriceMatchesTick) (h : sizePosition request = .ok position) :
    (∀ text amount amount', request.input.parseUnits text = .ok amount →
      request.input.parseUnits request.amount = .ok amount' → amount ≤ amount' →
      ∃ smaller, sizePosition { request with amount := text } = .ok smaller ∧
        smaller.liquidity ≤ position.liquidity ∧
        smaller.amounts.amount0 ≤ position.amounts.amount0 ∧
        smaller.amounts.amount1 ≤ position.amounts.amount1) ∧
    (∀ width wider, request.width.spacings ≤ width.spacings →
      sizePosition { request with width } = .ok wider → wider.liquidity ≤ position.liquidity) := by
  constructor
  · intro text amount amount' hread hread' hle
    obtain ⟨smaller, hsmaller, hliquidity, hsides⟩ :=
      sizePosition_of_amount_le hmatch hread hread' hle h
    exact ⟨smaller, hsmaller, hliquidity, hsides .first, hsides .second⟩
  · intro width wider hle hwider
    exact liquidity_le_of_width_le hmatch hle h hwider

theorem sizePosition_monotone_at_one :
    requestAtOne.pool.PriceMatchesTick ∧
      ∃ position smaller wider, sizePosition requestAtOne = .ok position ∧
        sizePosition { requestAtOne with amount := "1.25" } = .ok smaller ∧
        sizePosition { requestAtOne with width := ⟨2, by decide⟩ } = .ok wider ∧
        smaller.liquidity ≤ position.liquidity ∧ wider.liquidity ≤ position.liquidity := by
  have hhalf : requestAtOne.input.parseUnits "1.25" = .ok 1250000 := by decide +kernel
  have hwhole : requestAtOne.input.parseUnits requestAtOne.amount = .ok 2500000 := by
    decide +kernel
  have hwider : sizePosition { requestAtOne with width := ⟨2, by decide⟩ } =
      .ok ⟨1, .ofNat 0xBB, .low, requestAtOne.other, requestAtOne.input, -20, 20, 2501375206,
        ⟨2500000, 2500000⟩⟩ := by decide +kernel
  obtain ⟨hamount, hwidth⟩ :=
    sizePosition_monotone requestAtOne_priceMatchesTick sizePosition_requestAtOne
  obtain ⟨smaller, hsmaller, hless, -⟩ := hamount "1.25" _ _ hhalf hwhole (by decide)
  have hnarrow := hwidth ⟨2, by decide⟩ _ (by decide) hwider
  exact ⟨requestAtOne_priceMatchesTick, _, smaller, _, sizePosition_requestAtOne, hsmaller, hwider,
    hless, hnarrow⟩

end Tickwise
