import Tickwise.Json.Forms
import Tickwise.Proofs.Json.Printed
import Tickwise.Proofs.Json.Schema
import Tickwise.Provision.Provisioner

/-!
# The JSON forms are read back

Fees, widths, slippages, contracts, pools, tokens, requests and batches are written as JSON texts
and read back from them as they were.  The text gives back the value of JSON (`Json.parse?_text`),
so each form is settled on these values alone, field by field.  What a batch is read from never
holds a width or a tolerance that a provisioner refuses.

* `Json.ReadBack` — a value that is read back from its text;
* `Batch.ReadFrom` — what is known of a batch that a text was read as;
* `json_roundTrip` — every form is read back.
-/

namespace Tickwise

open Json

/-- Whether a value is read back from the text that it is written as. -/
def Json.ReadBack {α : Type} (write : α → Json) (read? : Json → Option α) (value : α) : Prop :=
  (parse? (write value).text).bind read? = some value

/-- A value is read back from its text once it is read back from what it is written as. -/
theorem Json.readBack_iff {α : Type} {write : α → Json} {read? : Json → Option α} {value : α} :
    ReadBack write read? value ↔ read? (write value) = some value := by
  rw [ReadBack, parse?_text, Option.bind_some]

/-! ## Addresses and amounts -/

theorem Address.ofJson?_toJson (address : Address) :
    Address.ofJson? address.toJson = some address := by
  rw [toJson, ofString, ofJson?, Option.bind_some, ofHex?_hex]

section Words

open Numeral

/-- The digits that a number needs hold no underscore, and are read as the number. -/
theorem Numeral.foldlM_toDigits (n : ℕ) :
    ((Nat.toDigits 16 n).filter (· ≠ '_')).foldlM
      (fun n c => (digit? 16 c).map (16 * n + ·)) 0 = some n := by
  have hdigit : ∀ k : Fin 16, Nat.digitChar k ≠ '_' ∧ digit? 16 (Nat.digitChar k) = some k.val := by
    decide
  induction n using Nat.strong_induction_on with
  | _ n ih =>
    by_cases hsmall : n < 16
    · obtain ⟨hne, hread⟩ := hdigit ⟨n, hsmall⟩
      rw [Nat.toDigits_of_lt_base hsmall]
      simp [hne, hread]
    · obtain ⟨hne, hread⟩ := hdigit ⟨n % 16, Nat.mod_lt n (by decide)⟩
      rw [Nat.toDigits_of_base_le (by decide) (by omega), List.filter_append,
        List.foldlM_append, ih (n / 16) (by omega)]
      simp [hne, hread, Nat.div_add_mod]

/-- An amount of 256 bits is read as it is written. -/
theorem wordOfJson?_wordToJson {n : ℕ} (h : n < pow2 256) :
    wordOfJson? (wordToJson n) = some n := by
  have hchars : (Hex.minimal n).toList = '0' :: 'x' :: Nat.toDigits 16 n := by
    simp [Hex.minimal]
  rw [wordToJson, ofString, wordOfJson?, Option.bind_some, hchars, ofText?, splitBase]
  show ((Nat.toDigits 16 n).filter (· ≠ '_')).foldlM _ 0 >>= _ = _
  rw [foldlM_toDigits]
  exact if_pos h

end Words

/-! ## Fees, widths and contracts -/

theorem FeeTier.ofJson?_toJson (tier : FeeTier) : FeeTier.ofJson? tier.toJson = some tier := by
  cases tier <;> rfl

theorem TickWidth.ofJson?_toJson {width : TickWidth} (h : width.spacings < pow2 32) :
    TickWidth.ofJson? width.toJson = some width := by
  rw [ofJson?, toJson, toNat?_ofNat h, Option.bind_some, TickWidth.ofNat, dif_pos width.pos]
  rfl

/-- What is read as a width states its count. -/
theorem TickWidth.toNat?_of_ofJson? {json : Json} {width : TickWidth}
    (h : TickWidth.ofJson? json = some width) : json.toNat? (pow2 32) = some width.spacings := by
  obtain ⟨n, hn, hwidth⟩ := Option.bind_eq_some_iff.mp h
  unfold TickWidth.ofNat at hwidth
  split at hwidth
  · cases hwidth
    exact hn
  · simp [Except.toOption] at hwidth

theorem Contract.ofJson?_toJson (contract : Contract) :
    Contract.ofJson? contract.toJson = some contract := by
  cases contract <;> rfl

/-! ## Slippages -/

/-- Whether the tolerance of a slippage fits in its field, which can also hold one above the whole. -/
def Slippage.Fits : Slippage → Prop
  | .unprotected => True
  | .tolerance bps => bps < pow2 32

theorem Slippage.fits_of_validate {slippage : Slippage} (h : slippage.validate = .ok ()) :
    slippage.Fits := by
  cases slippage with
  | unprotected => trivial
  | tolerance bps =>
    have hbps : bps ≤ whole := validate_tolerance_eq_ok_iff.mp h
    exact hbps.trans_lt (by decide)

/-- A number of 32 bits is finite. -/
theorem Json.isFinite_of_lt {n : ℕ} (h : n < pow2 32) : isFinite n 0 = true := by
  have hlength : (Nat.toDigits 10 n).length ≤ 10 :=
    Nat.toDigits_length 10 n 10 (by decide) (h.trans (by decide))
  have hsize : ((Nat.toDigits 10 n).length : ℤ) + 0 ≤ 308 := by omega
  rw [isFinite, decide_eq_true hsize, Bool.or_true, Bool.true_or]

/-- A slippage is read as it is written, alone or within what holds it: it is sound, and adds one
level to those around it. -/
theorem Slippage.ofJson?_toJson {slippage : Slippage} (h : slippage.Fits) (enclosing : ℕ)
    (hdepth : enclosing < depthLimit) : ofJson? enclosing slippage.toJson = some slippage := by
  cases slippage with
  | unprotected =>
    have hsound : isSound (toJson .unprotected) ∧
        enclosing + (toJson .unprotected).depth ≤ depthLimit := ⟨rfl, hdepth⟩
    unfold ofJson?
    rw [if_pos hsound]
    simp [toJson, record, only?, toText?, ofString]
  | tolerance bps =>
    have hsound : isSound (toJson (.tolerance bps)) ∧
        enclosing + (toJson (.tolerance bps)).depth ≤ depthLimit := by
      refine ⟨?_, hdepth⟩
      simp [toJson, record, isSound, fieldsSound, ofString, Json.ofNat, isFinite_of_lt h]
    unfold ofJson?
    rw [if_pos hsound]
    simp [toJson, record, only?, toText?, ofString, toNat?_ofNat h]

/-- A slippage to keep to is one that a provisioner can be made with. -/
theorem Provisioner.exists_of_validate {slippage : Slippage} (h : slippage.validate = .ok ())
    (deployment : Deployment) (width : TickWidth) (secs : ℕ) :
    ∃ provisioner, Provisioner.of deployment width slippage secs = .ok provisioner ∧
      provisioner.width = width ∧ provisioner.slippage = slippage := by
  refine ⟨⟨deployment, width, slippage, secs, h⟩, ?_, rfl, rfl⟩
  unfold Provisioner.of
  split
  · rfl
  · simp_all

/-! ## Tokens and pools -/

theorem Token.ofJson?_toJson {token : Token} (h : token.decimals < 256) :
    Token.ofJson? token.toJson = some token := by
  have hfields : token.toJson.record? .ignored ["address", "decimals", "symbol", "name"] =
      some [token.address.toJson, .ofNat token.decimals, .ofString token.symbol,
        .ofString token.name] := record?_record .ignored (by simp)
  simp [ofJson?, hfields, Address.ofJson?_toJson, toNat?_ofNat h, toText?_ofString]

/-- Whether the numbers of a pool fit in its fields. -/
structure Pool.Fits (pool : Pool) : Prop where
  tick : FitsSigned 32 pool.tick
  tickSpacing : FitsSigned 32 pool.tickSpacing
  fee : pool.fee < pow2 32
  sqrtPrice : pool.sqrtPrice < pow2 256
  liquidity : pool.liquidity < pow2 128

theorem Pool.ofJson?_toJson {pool : Pool} (h : pool.Fits) :
    Pool.ofJson? pool.toJson = some pool := by
  have hfields : pool.toJson.record? .ignored
      ["address", "tick", "tickSpacing", "fee", "sqrtPriceX96", "liquidity"] =
      some [pool.address.toJson, .ofInt pool.tick, .ofInt pool.tickSpacing, .ofNat pool.fee,
        wordToJson pool.sqrtPrice, .ofNat pool.liquidity] := record?_record .ignored (by simp)
  simp [ofJson?, hfields, Address.ofJson?_toJson, toInt?_ofInt h.tick, toInt?_ofInt h.tickSpacing,
    toNat?_ofNat h.fee, wordOfJson?_wordToJson h.sqrtPrice, toNat?_ofNat h.liquidity]

/-! ## Requests and batches -/

theorem PoolRequest.ofJson?_toJson {request : PoolRequest} (h : request.fee < pow2 32) :
    PoolRequest.ofJson? request.toJson = some request := by
  have hfields : request.toJson.record? .ignored
      ["tokenA", "tokenB", "fee", "reserveA", "reserveB", "inputToken", "inputAmount"] =
      some [request.tokenA.toJson, request.tokenB.toJson, .ofNat request.fee,
        .ofString request.reserveA, .ofString request.reserveB, request.inputToken.toJson,
        .ofString request.inputAmount] := record?_record .ignored (by simp)
  simp [ofJson?, hfields, Address.ofJson?_toJson, toNat?_ofNat h, toText?_ofString]

namespace Batch

/-- Whether the numbers of a batch fit in its fields, and its slippage is one that a mint can keep
to. -/
structure Fits (batch : Batch) : Prop where
  width : batch.width.spacings < pow2 32
  tolerance : ∀ bps, batch.slippage = .tolerance bps → bps ≤ 10000
  fee : ∀ request ∈ batch.pools, request.fee < pow2 32

/-- What is known of a batch that a text was read as: the text is a record of the width, the
slippage and the pools, the width is positive, the tolerance is at most the whole, and so every
deployment has a provisioner for them. -/
structure ReadFrom (text : String) (batch : Batch) : Prop where
  stated : ∃ json width slippage pools, parse? text = some json ∧
    json.record? .refused ["width", "slippage", "pools"] = some [width, slippage, pools] ∧
    width.toNat? (pow2 32) = some batch.width.spacings ∧
    Slippage.ofJson? 1 slippage = some batch.slippage ∧
    pools.toList? PoolRequest.ofJson? = some batch.pools
  width : 1 ≤ batch.width.spacings
  tolerance : ∀ bps, batch.slippage = .tolerance bps → bps ≤ 10000
  provisioner : ∀ deployment secs, ∃ provisioner,
    Provisioner.of deployment batch.width batch.slippage secs = .ok provisioner ∧
    provisioner.width = batch.width ∧ provisioner.slippage = batch.slippage

variable {batch : Batch} {text : String}

theorem Fits.validate (h : batch.Fits) : batch.slippage.validate = .ok () := by
  cases hslippage : batch.slippage with
  | unprotected => rfl
  | tolerance bps => exact Slippage.validate_tolerance_eq_ok_iff.mpr (h.tolerance bps hslippage)

theorem ofJson?_toJson (h : batch.Fits) : ofJson? batch.toJson = some batch := by
  have hfields : batch.toJson.record? .refused ["width", "slippage", "pools"] =
      some [batch.width.toJson, batch.slippage.toJson,
        .array (batch.pools.map PoolRequest.toJson)] := record?_record .refused (by simp)
  have hslippage := Slippage.ofJson?_toJson (Slippage.fits_of_validate h.validate) 1 (by decide)
  have hpools := toList?_array_map fun (request : PoolRequest) hrequest =>
    PoolRequest.ofJson?_toJson (h.fee request hrequest)
  simp [ofJson?, hfields, TickWidth.ofJson?_toJson h.width, hslippage, hpools]

/-- What a batch is read from. -/
theorem ofJson?_eq_some_iff {json : Json} :
    ofJson? json = some batch ↔ ∃ width slippage pools,
      json.record? .refused ["width", "slippage", "pools"] = some [width, slippage, pools] ∧
      TickWidth.ofJson? width = some batch.width ∧
      Slippage.ofJson? 1 slippage = some batch.slippage ∧
      pools.toList? PoolRequest.ofJson? = some batch.pools := by
  unfold ofJson?
  cases hfields : json.record? .refused ["width", "slippage", "pools"] with
  | none => simp
  | some values =>
    match values with
    | [] | [_] | [_, _] | _ :: _ :: _ :: _ :: _ => simp
    | [width, slippage, pools] =>
      obtain ⟨batchWidth, batchSlippage, batchPools⟩ := batch
      simp [Option.bind_eq_some_iff]

/-- A text is read as a batch if the slippage of what it is read as is one to keep to. -/
theorem ofText_eq_ok_iff :
    ofText text = .ok batch ↔
      (parse? text).bind ofJson? = some batch ∧ batch.slippage.validate = .ok () := by
  unfold ofText
  cases (parse? text).bind ofJson? with
  | none => simp
  | some found =>
    simp only [Option.some.injEq]
    constructor
    · intro h
      split at h
      · rename_i hvalid
        cases h
        exact ⟨rfl, hvalid⟩
      · simp at h
    · rintro ⟨rfl, hvalid⟩
      rw [hvalid]

theorem ofText_text_toJson (h : batch.Fits) : ofText batch.toJson.text = .ok batch := by
  refine ofText_eq_ok_iff.mpr ⟨?_, h.validate⟩
  rw [parse?_text, Option.bind_some, ofJson?_toJson h]

theorem readFrom_of_ofText (h : ofText text = .ok batch) : ReadFrom text batch := by
  obtain ⟨hread, hvalid⟩ := ofText_eq_ok_iff.mp h
  obtain ⟨json, hjson, hbatch⟩ := Option.bind_eq_some_iff.mp hread
  obtain ⟨width, slippage, pools, hfields, hwidth, hslippage, hpools⟩ :=
    ofJson?_eq_some_iff.mp hbatch
  constructor
  case stated =>
    exact ⟨json, width, slippage, pools, hjson, hfields, TickWidth.toNat?_of_ofJson? hwidth,
      hslippage, hpools⟩
  case width => exact batch.width.pos
  case tolerance =>
    intro bps hbps
    rw [hbps] at hvalid
    exact Slippage.validate_tolerance_eq_ok_iff.mp hvalid
  case provisioner =>
    intro deployment secs
    exact Provisioner.exists_of_validate hvalid deployment batch.width secs

end Batch

/-! ## Every form -/

/-- **Every form is read back from its text**: fees, widths, slippages, contracts, pools, tokens
and requests, whatever texts and numbers they hold, and batches with a tolerance of at most the
whole. A batch that any text is read as has a positive width and such a tolerance, and no
provisioner refuses it. -/
theorem json_roundTrip :
    (∀ tier, ReadBack FeeTier.toJson FeeTier.ofJson? tier) ∧
    (∀ width : TickWidth, width.spacings < pow2 32 →
      ReadBack TickWidth.toJson TickWidth.ofJson? width) ∧
    (∀ slippage : Slippage, slippage.Fits →
      ReadBack Slippage.toJson (Slippage.ofJson? 0) slippage) ∧
    (∀ contract, ReadBack Contract.toJson Contract.ofJson? contract) ∧
    (∀ pool : Pool, pool.Fits → ReadBack Pool.toJson Pool.ofJson? pool) ∧
    (∀ token : Token, token.decimals < 256 → ReadBack Token.toJson Token.ofJson? token) ∧
    (∀ request : PoolRequest, request.fee < pow2 32 →
      ReadBack PoolRequest.toJson PoolRequest.ofJson? request) ∧
    (∀ batch : Batch, batch.Fits → Batch.ofText batch.toJson.text = .ok batch) ∧
    ∀ text batch, Batch.ofText text = .ok batch → Batch.ReadFrom text batch := by
  refine ⟨?fee, ?width, ?slippage, ?contract, ?pool, ?token, ?request, ?batch, ?accepted⟩
  case fee => exact fun tier => readBack_iff.mpr tier.ofJson?_toJson
  case width => exact fun _ h => readBack_iff.mpr (TickWidth.ofJson?_toJson h)
  case slippage => exact fun _ h => readBack_iff.mpr (Slippage.ofJson?_toJson h 0 (by decide))
  case contract => exact fun contract => readBack_iff.mpr contract.ofJson?_toJson
  case pool => exact fun _ h => readBack_iff.mpr (Pool.ofJson?_toJson h)
  case token => exact fun _ h => readBack_iff.mpr (Token.ofJson?_toJson h)
  case request => exact fun _ h => readBack_iff.mpr (PoolRequest.ofJson?_toJson h)
  case batch => exact fun _ h => Batch.ofText_text_toJson h
  case accepted => exact fun _ _ h => Batch.readFrom_of_ofText h

/-- Values at the ends of their ranges, and texts with what is escaped in them. -/
theorem json_roundTrip_of_extremes :
    ReadBack TickWidth.toJson TickWidth.ofJson? ⟨4294967295, by decide⟩ ∧
    ReadBack Slippage.toJson (Slippage.ofJson? 0) (.tolerance 4294967295) ∧
    ReadBack Pool.toJson Pool.ofJson?
      { address := .zero, tick := -2147483648, tickSpacing := 2147483647, fee := 0,
        sqrtPrice := pow2 256 - 1, liquidity := pow2 128 - 1 } ∧
    ReadBack Token.toJson Token.ofJson?
      { address := .zero, decimals := 255, symbol := "\"\\/", name := "Ⅴ\n🦄\x01" } ∧
    ReadBack PoolRequest.toJson PoolRequest.ofJson?
      { tokenA := .zero, tokenB := .zero, fee := 1, reserveA := "", reserveB := "1e-3",
        inputToken := .zero, inputAmount := "\t" } ∧
    Batch.ReadFrom
      (Batch.toJson ⟨⟨1, by decide⟩, .tolerance 10000, []⟩).text
      ⟨⟨1, by decide⟩, .tolerance 10000, []⟩ := by
  obtain ⟨-, hwidth, hslippage, -, hpool, htoken, hrequest, hbatch, haccepted⟩ := json_roundTrip
  refine ⟨hwidth _ (by decide), hslippage _ ?_, hpool _ ?_, htoken _ (by decide),
    hrequest _ (by decide), haccepted _ _ (hbatch _ ?_)⟩
  · show 4294967295 < pow2 32
    decide
  · constructor <;> decide
  · constructor
    · decide
    · simp
    · simp

end Tickwise
