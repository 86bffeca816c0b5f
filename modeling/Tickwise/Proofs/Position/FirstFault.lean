import Tickwise.Proofs.Amount.Adjoint
import Tickwise.Proofs.Decimal.BaseUnits
import Tickwise.Proofs.Position.FixedSide

/-!
# Why a request cannot be sized

When the price of a pool belongs to its tick, a request is refused for the first of a short list of
reasons, and sized when there is none.  The price lies strictly inside every range around its tick,
so no range leaves out the given token, no two prices that are divided by coincide, and what a mint
takes always fits.

* `SizingRequest.firstFault` — the reasons, in the order in which they count;
* `range_of_center` — when a range has prices at both ends;
* `liquidityFor_eq_narrow`, `exists_mintAmounts` — what is left to go wrong inside a range;
* `sizePosition_first_fault` — a request is refused for the first reason, or sized.
-/

namespace Tickwise

/-! ## The reasons -/

namespace SizingRequest

/-- The lower end of a request's range around a tick. -/
def lower (request : SizingRequest) (center : ℤ) : ℤ :=
  center - request.pool.tickSpacing * request.width.spacings

/-- The upper end of a request's range around a tick. -/
def upper (request : SizingRequest) (center : ℤ) : ℤ :=
  center + request.pool.tickSpacing * request.width.spacings

/-- The place of the given token in the pair. -/
def side (request : SizingRequest) : Side :=
  if request.input.address < request.other.address then .first else .second

/-- The liquidity that an amount of the given token backs, rounded down once. -/
def exactLiquidity (request : SizingRequest) (center : ℤ) (amount : ℕ) : ℕ :=
  match request.side with
  | .first => exactLiquidity0 request.pool.sqrtPrice (priceAtTick (request.upper center)) amount
  | .second => exactLiquidity1 (priceAtTick (request.lower center)) request.pool.sqrtPrice amount

/-- The calculation whose result is a liquidity of the given token. -/
def calculation (request : SizingRequest) : Calculation :=
  match request.side with
  | .first => .liquidityForAmount0
  | .second => .mulDiv

/-- The first reason to refuse a request for its amount, when its range is sound. -/
def amountFault (request : SizingRequest) (center : ℤ) : Option Fault :=
  match request.input.parseUnits request.amount with
  | .error fault => some fault
  | .ok amount =>
    let liquidity := request.exactLiquidity center amount
    if liquidity < liquidityLimit then none
    else if liquidity < wordLimit then some (.mathOverflow .positionLiquidity)
    else some (.mathOverflow request.calculation)

/-- The first reason to refuse a request whose range is around `center`. -/
def firstFault (request : SizingRequest) (center : ℤ) : Option Fault :=
  if request.pool.fee ∉ FeeTier.all.map FeeTier.fee then
    some (.unsupportedFee request.pool.fee)
  else if request.pool.tickSpacing ≤ 0 then
    some (.invalidTickSpacing request.pool.tickSpacing)
  else if request.input.address = request.other.address then
    some (.identicalTokens request.input.address)
  else if ¬ InTickBounds (request.lower center) then
    some (.tickOutOfBounds (saturate32 (request.lower center)))
  else if ¬ InTickBounds (request.upper center) then
    some (.tickOutOfBounds (saturate32 (request.upper center)))
  else request.amountFault center

end SizingRequest

/-! ## The pool and the pair -/

theorem FeeTier.mem_fees_iff {fee : ℕ} :
    fee ∈ FeeTier.all.map FeeTier.fee ↔ ∃ tier : FeeTier, tier.fee = fee := by
  simp [FeeTier.mem_all]

theorem Pool.validate_of_unsupported {pool : Pool}
    (h : pool.fee ∉ FeeTier.all.map FeeTier.fee) :
    pool.validate = .error (.unsupportedFee pool.fee) := by
  have hnone : ∀ tier : FeeTier, tier.fee ≠ pool.fee := fun tier htier =>
    h (FeeTier.mem_fees_iff.2 ⟨tier, htier⟩)
  have hfee : pool.feeTier = .error (.unsupportedFee pool.fee) :=
    FeeTier.ofFee_eq_error_iff.2 ⟨hnone, rfl⟩
  rw [validate, hfee]
  rfl

theorem Pool.validate_of_spacing {pool : Pool} {tier : FeeTier} (hfee : tier.fee = pool.fee)
    (h : pool.tickSpacing ≤ 0) :
    pool.validate = .error (.invalidTickSpacing pool.tickSpacing) := by
  have htier : pool.feeTier = .ok tier := FeeTier.ofFee_eq_ok_iff.2 hfee
  rw [validate, htier]
  simp [h, throw, throwThe, MonadExceptOf.throw, bind, Except.bind]

/-- Two tokens make a pair, in which the first one stands by its address. -/
theorem exists_pair_of_ne (request : SizingRequest)
    (hne : request.input.address ≠ request.other.address) :
    ∃ pair, OrderedPair.of request.input.address request.input request.other.address
        request.other = .ok pair ∧
      pair.sideOf request.input.address = .ok request.side ∧
      (pair.side request.side).payload = request.input := by
  by_cases hlt : request.input.address < request.other.address
  · have hside : request.side = .first := if_pos hlt
    refine ⟨_, OrderedPair.of_of_lt hlt request.input request.other, ?_, ?_⟩
    · rw [hside]
      exact OrderedPair.sideOf_first _
    · rw [hside]
      rfl
  · have hgt : request.other.address < request.input.address := by
      by_contra hnot
      exact hne (Address.eq_of_not_lt hlt hnot)
    have hside : request.side = .second := if_neg hlt
    refine ⟨_, OrderedPair.of_of_gt hgt request.input request.other, ?_, ?_⟩
    · rw [hside]
      exact OrderedPair.sideOf_second _
    · rw [hside]
      rfl

/-! ## The range -/

/-- Holding a number to 32 bits does not bring it into the bounds. -/
theorem inTickBounds_saturate32_iff {n : ℤ} : InTickBounds (saturate32 n) ↔ InTickBounds n := by
  unfold InTickBounds saturate32 minTick maxTick
  omega

theorem saturate32_of_inTickBounds {n : ℤ} (h : InTickBounds n) : saturate32 n = n := by
  unfold InTickBounds minTick maxTick at h
  unfold saturate32
  omega

theorem sqrtRatioAtTick_of_not_inTickBounds {tick : ℤ} (h : ¬ InTickBounds tick) :
    sqrtRatioAtTick tick = .error (.tickOutOfBounds tick) := by
  rw [sqrtRatioAtTick, if_neg (natAbs_le_iff_inTickBounds.not.2 h)]

variable {request : SizingRequest} {center : ℤ}

/-- A range has prices at both ends when both ends are ticks. -/
theorem range_of_center
    (hcenter : nearestUsableTick request.pool.tick request.pool.tickSpacing = .ok center) :
    request.pool.range request.width =
      if ¬ InTickBounds (request.lower center) then
        .error (.tickOutOfBounds (saturate32 (request.lower center)))
      else if ¬ InTickBounds (request.upper center) then
        .error (.tickOutOfBounds (saturate32 (request.upper center)))
      else .ok ⟨request.lower center, request.upper center, priceAtTick (request.lower center),
        priceAtTick (request.upper center)⟩ := by
  have hticks : tickRange request.pool.tick request.pool.tickSpacing request.width =
      .ok (saturate32 (request.lower center), saturate32 (request.upper center)) := by
    rw [tickRange, hcenter]
    rfl
  rw [Pool.range, hticks]
  simp only [bind, Except.bind, pure, Except.pure]
  by_cases hlower : InTickBounds (request.lower center)
  · rw [if_neg (not_not.2 hlower), saturate32_of_inTickBounds hlower,
      sqrtRatioAtTick_of_inTickBounds hlower]
    by_cases hupper : InTickBounds (request.upper center)
    · rw [if_neg (not_not.2 hupper), saturate32_of_inTickBounds hupper,
        sqrtRatioAtTick_of_inTickBounds hupper]
    · rw [if_pos hupper,
        sqrtRatioAtTick_of_not_inTickBounds (inTickBounds_saturate32_iff.not.2 hupper)]
  · rw [if_pos hlower,
      sqrtRatioAtTick_of_not_inTickBounds (inTickBounds_saturate32_iff.not.2 hlower)]

/-! ## Inside the range -/

theorem priceAtTick_lt_two_pow {tick : ℤ} (h : InTickBounds tick) : priceAtTick tick < 2 ^ 160 := by
  have hmax := priceAtTick_le_priceAtTick h (by decide) h.2
  rw [priceAtTick_maxTick] at hmax
  exact lt_of_le_of_lt hmax (by decide)

section Inside

variable {pool : Pool} {range : PriceRange} {width : TickWidth}

theorem sqrtUpper_lt_two_pow (hrange : pool.range width = .ok range) :
    range.sqrtUpper < 2 ^ 160 := by
  obtain ⟨-, -, hupper⟩ := range_eq_ok hrange
  obtain ⟨hbounds, hprice⟩ := sqrtRatioAtTick_eq_ok_iff.1 hupper
  rw [← hprice]
  exact priceAtTick_lt_two_pow hbounds

/-- Inside a range the liquidity of an amount is the exact one, whenever that fits. -/
theorem liquidityFor_eq_narrow (hmatch : pool.PriceMatchesTick)
    (hrange : pool.range width = .ok range) (side : Side) (symbol : String) (amount : ℕ) :
    liquidityFor pool range side symbol amount =
      match side with
      | .first => narrow .liquidityForAmount0
          (exactLiquidity0 pool.sqrtPrice range.sqrtUpper amount)
      | .second => narrow .mulDiv (exactLiquidity1 range.sqrtLower pool.sqrtPrice amount) := by
  obtain ⟨⟨hbelow, habove⟩, -, hlower, hupper⟩ := range_bounds hmatch hrange
  cases side with
  | first =>
    rw [liquidityFor, if_neg (not_le.2 habove), max_eq_left hlower.le]
    exact liquidityForAmount0_eq_narrow hupper (sqrtUpper_lt_two_pow hrange) amount
  | second =>
    rw [liquidityFor, if_neg (not_lt.2 hbelow.le), min_eq_left hupper.le]
    exact liquidityForAmount1_eq_narrow hlower amount

/-- Inside a range a mint of any liquidity takes amounts that fit. -/
theorem exists_mintAmounts (hmatch : pool.PriceMatchesTick)
    (hrange : pool.range width = .ok range) {liquidity : ℕ}
    (hliquidity : liquidity < liquidityLimit) :
    ∃ amounts, mintAmounts pool range liquidity = .ok amounts := by
  obtain ⟨⟨hbelow, habove⟩, hpos, hlower, hupper⟩ := range_bounds hmatch hrange
  have hprice : pool.sqrtPrice < 2 ^ 160 := hupper.trans (sqrtUpper_lt_two_pow hrange)
  obtain ⟨amount0, h0⟩ := exists_amount0Delta_up (hpos.trans hlower) hupper hliquidity
  obtain ⟨amount1, h1⟩ := exists_amount1Delta_up hlower hprice hliquidity
  refine ⟨⟨amount0, amount1⟩, ?_⟩
  rw [mintAmounts, if_neg (not_lt.2 hbelow.le), if_pos habove, h0, h1]
  rfl

end Inside

/-! ## The first reason -/

/-- A result as a first reason tells it: refused for the reason, or given when there is none. -/
def Decides {α : Type} : Option Fault → Except Fault α → Prop
  | some fault, result => result = .error fault
  | none, result => ∃ value, result = .ok value

theorem Decides.eq_error_iff {α : Type} {reason : Option Fault} {result : Except Fault α}
    (h : Decides reason result) {fault : Fault} : result = .error fault ↔ reason = some fault := by
  cases reason with
  | some first =>
    rw [show result = .error first from h]
    simp
  | none =>
    obtain ⟨value, rfl⟩ := h
    simp

theorem Decides.exists_ok_iff {α : Type} {reason : Option Fault} {result : Except Fault α}
    (h : Decides reason result) : (∃ value, result = .ok value) ↔ reason = none := by
  cases reason with
  | some first =>
    rw [show result = .error first from h]
    simp
  | none => exact ⟨fun _ => rfl, fun _ => h⟩

/-- A request whose range has no prices is refused for that. -/
theorem sizePosition_of_range_error {fee : FeeTier} {fault : Fault}
    (hfee : request.pool.validate = .ok fee)
    (hne : request.input.address ≠ request.other.address)
    (hrange : request.pool.range request.width = .error fault) :
    sizePosition request = .error fault := by
  obtain ⟨pair, hpair, hside, -⟩ := exists_pair_of_ne request hne
  simp only [sizePosition, hfee, hpair, hside, hrange, bind, Except.bind]

/-- A request whose range is sound is refused for its amount, or sized. -/
theorem decides_amountFault {fee : FeeTier} (hmatch : request.pool.PriceMatchesTick)
    (hfee : request.pool.validate = .ok fee)
    (hne : request.input.address ≠ request.other.address)
    (hrange : request.pool.range request.width =
      .ok ⟨request.lower center, request.upper center, priceAtTick (request.lower center),
        priceAtTick (request.upper center)⟩) :
    Decides (request.amountFault center) (sizePosition request) := by
  obtain ⟨pair, hpair, hside, hpayload⟩ := exists_pair_of_ne request hne
  simp only [sizePosition, hfee, hpair, hside, hrange, hpayload, bind, Except.bind]
  unfold SizingRequest.amountFault
  cases hamount : request.input.parseUnits request.amount with
  | error fault => rfl
  | ok amount =>
    have hliquidity : ∀ symbol, liquidityFor request.pool
        ⟨request.lower center, request.upper center, priceAtTick (request.lower center),
          priceAtTick (request.upper center)⟩ request.side symbol amount =
        narrow request.calculation (request.exactLiquidity center amount) := by
      intro symbol
      rw [liquidityFor_eq_narrow hmatch hrange, SizingRequest.calculation,
        SizingRequest.exactLiquidity]
      cases request.side <;> rfl
    simp only [hliquidity]
    by_cases hfits : request.exactLiquidity center amount < wordLimit
    · have hword : narrow request.calculation (request.exactLiquidity center amount) =
          .ok (request.exactLiquidity center amount) := if_pos hfits
      simp only [hword]
      by_cases hlimit : request.exactLiquidity center amount < liquidityLimit
      · obtain ⟨amounts, hamounts⟩ := exists_mintAmounts hmatch hrange hlimit
        rw [if_pos hlimit, if_neg (not_le.2 hlimit), hamounts]
        exact ⟨_, rfl⟩
      · rw [if_neg hlimit, if_pos hfits, if_pos (not_lt.1 hlimit)]
        rfl
    · have hlimit : ¬ request.exactLiquidity center amount < liquidityLimit := by
        intro hlt
        exact hfits (hlt.trans (by decide))
      have hword : narrow request.calculation (request.exactLiquidity center amount) =
          .error (.mathOverflow request.calculation) := if_neg hfits
      rw [hword, if_neg hlimit, if_neg hfits]
      rfl

theorem Pool.PriceMatchesTick.inTickBounds {pool : Pool} (h : pool.PriceMatchesTick) :
    InTickBounds pool.tick := by
  obtain ⟨price, -, hprice, -⟩ := h
  exact (sqrtRatioAtTick_eq_ok_iff.1 hprice).1

/-- A request is refused for the first reason, or sized when there is none. -/
theorem decides_firstFault (hmatch : request.pool.PriceMatchesTick)
    (hcenter : 0 < request.pool.tickSpacing →
      nearestUsableTick request.pool.tick request.pool.tickSpacing = .ok center) :
    Decides (request.firstFault center) (sizePosition request) := by
  unfold SizingRequest.firstFault
  by_cases hfee : request.pool.fee ∉ FeeTier.all.map FeeTier.fee
  · rw [if_pos hfee, Decides, sizePosition, Pool.validate_of_unsupported hfee]
    rfl
  rw [if_neg hfee]
  obtain ⟨tier, htier⟩ := FeeTier.mem_fees_iff.1 (not_not.1 hfee)
  by_cases hspacing : request.pool.tickSpacing ≤ 0
  · rw [if_pos hspacing, Decides, sizePosition, Pool.validate_of_spacing htier hspacing]
    rfl
  rw [if_neg hspacing]
  have hvalid : request.pool.validate = .ok tier :=
    Pool.validate_eq_ok_iff.2 ⟨htier, not_le.1 hspacing, hmatch.inTickBounds⟩
  by_cases hsame : request.input.address = request.other.address
  · rw [if_pos hsame, Decides, sizePosition, hvalid, hsame, OrderedPair.of_self]
    rfl
  rw [if_neg hsame]
  have hrange := range_of_center (hcenter (not_le.1 hspacing))
  by_cases hlower : ¬ InTickBounds (request.lower center)
  · rw [if_pos hlower] at hrange ⊢
    exact sizePosition_of_range_error hvalid hsame hrange
  by_cases hupper : ¬ InTickBounds (request.upper center)
  · rw [if_neg hlower, if_pos hupper] at hrange ⊢
    exact sizePosition_of_range_error hvalid hsame hrange
  rw [if_neg hlower, if_neg hupper] at hrange ⊢
  exact decides_amountFault hmatch hvalid hsame hrange

/-! ## Reasons that never arise -/

/-- A fault of a price outside its range, or of an amount that a mint takes. -/
def Fault.OutsideRange : Fault → Prop
  | .rangeExcludesToken _ _ _ _ => True
  | .divisionByZero => True
  | .tokenNotInPair _ _ _ => True
  | .mathOverflow .mulDivUp => True
  | _ => False

theorem not_outsideRange_of_amountFault {fault : Fault}
    (h : request.amountFault center = some fault) : ¬ fault.OutsideRange := by
  unfold SizingRequest.amountFault at h
  split at h
  · rename_i read hread
    cases h
    obtain ⟨problem, rfl⟩ := Token.parseUnits_eq_error hread
    exact id
  · dsimp only at h
    split at h
    · cases h
    split at h
    · cases h
      exact id
    · cases h
      unfold SizingRequest.calculation
      cases request.side <;> exact id

theorem not_outsideRange_of_firstFault {fault : Fault}
    (h : request.firstFault center = some fault) : ¬ fault.OutsideRange := by
  unfold SizingRequest.firstFault at h
  -- the five reasons that come before the amount
  iterate 5
    split at h
    · cases h
      exact id
  exact not_outsideRange_of_amountFault h

/-- **A request is refused for the first reason, or sized.**  The range is around the usable tick
nearest to that of the pool.  The faults that would tell of a price outside its range, of a token
outside its pair, of a division by zero or of too large an amount to mint never arise. -/
theorem sizePosition_first_fault {request : SizingRequest}
    (hmatch : request.pool.PriceMatchesTick) :
    ∃ center,
      (0 < request.pool.tickSpacing →
        nearestUsableTick request.pool.tick request.pool.tickSpacing = .ok center) ∧
      (∀ fault, sizePosition request = .error fault ↔ request.firstFault center = some fault) ∧
      ((∃ position, sizePosition request = .ok position) ↔ request.firstFault center = none) ∧
      (∀ fault, request.input.parseUnits request.amount = .error fault →
        ∃ problem, fault = .invalidAmount request.amount request.input.symbol problem) ∧
      ∀ fault, sizePosition request = .error fault → ¬ fault.OutsideRange := by
  have hexists : ∃ center, 0 < request.pool.tickSpacing →
      nearestUsableTick request.pool.tick request.pool.tickSpacing = .ok center := by
    by_cases hspacing : 0 < request.pool.tickSpacing
    · obtain ⟨center, hcenter⟩ := exists_nearestUsableTick hspacing hmatch.inTickBounds
      exact ⟨center, fun _ => hcenter⟩
    · exact ⟨0, fun hpos => absurd hpos hspacing⟩
  obtain ⟨center, hcenter⟩ := hexists
  have hdecides := decides_firstFault hmatch hcenter
  refine ⟨center, hcenter, fun fault => hdecides.eq_error_iff, hdecides.exists_ok_iff,
    fun fault => Token.parseUnits_eq_error, ?_⟩
  intro fault hfault
  exact not_outsideRange_of_firstFault (hdecides.eq_error_iff.1 hfault)

/-- A range of a hundred thousand spacings to each side, which leaves the bounds. -/
def wideRequestAtOne : SizingRequest := { requestAtOne with width := ⟨100000, by decide⟩ }

theorem sizePosition_first_fault_of_wide_range :
    wideRequestAtOne.pool.PriceMatchesTick ∧
      wideRequestAtOne.firstFault 0 = some (.tickOutOfBounds (-1000000)) ∧
      sizePosition wideRequestAtOne = .error (.tickOutOfBounds (-1000000)) := by
  have hmatch : wideRequestAtOne.pool.PriceMatchesTick :=
    ⟨q96, 79232123823359799118286999568, by decide +kernel, by decide +kernel, le_rfl, by decide⟩
  have hnearest : nearestUsableTick wideRequestAtOne.pool.tick wideRequestAtOne.pool.tickSpacing =
      .ok 0 := by decide
  have hfirst : wideRequestAtOne.firstFault 0 = some (.tickOutOfBounds (-1000000)) := by
    decide +kernel
  obtain ⟨center, hcenter, hfault, -⟩ := sizePosition_first_fault hmatch
  obtain rfl : 0 = center := Except.ok.inj (hnearest.symm.trans (hcenter (by decide)))
  exact ⟨hmatch, hfirst, (hfault _).2 hfirst⟩

end Tickwise
