import Mathlib
import Tickwise.Route

/-!
# Packed routes

A route and its packed bytes are worth the same: every route is read back from its bytes, and
bytes that can be read are those of the route that is read.  Which bytes these are is seen from
their length and from the three bytes of each hop that hold its fee.

* `Route.reversed`, `TradeType.other` — a route walked backwards, and the trade that packs it so;
* `hopFee`, `Packs` — the fees in packed bytes, and the lengths that packed bytes can have;
* `unpackHops_pack`, `pack_of_unpackHops` — hops that were packed are unpacked, and the converse;
* `unpackHops_cases` — the first fee without a tier is the one that is refused;
* `decode_cases` — everything that reading can come to;
* `packed_route_bijection` — routes and packed bytes, in both directions.
-/

namespace Tickwise

/-- The trade type that takes a route the other way round. -/
def TradeType.other : TradeType → TradeType
  | exactInput => exactOutput
  | exactOutput => exactInput

/-- Whether a fee is that of a tier. -/
def FeeTier.Known (fee : ℕ) : Prop := ∃ tier : FeeTier, tier.fee = fee

namespace Route

/-- The route walked backwards. -/
def reversed (route : Route) : Route where
  tokens := route.tokens.reverse
  fees := route.fees.reverse
  hops := by simpa using route.hops
  nonempty := by simpa using route.nonempty

/-- The number in the fee field of a hop, among the bytes of hops. -/
def hopFee (bytes : List UInt8) (i : ℕ) : ℕ := Bytes.toNat ((bytes.drop (hopSize * i)).take 3)

/-- The number in the fee field of a hop, in packed bytes: the first token stands before the
hops. -/
def feeField (bytes : List UInt8) (i : ℕ) : ℕ := hopFee (bytes.drop addressSize) i

/-- Whether bytes are as many as those of a token and of `hops` hops, of which there is one. -/
def Packs (hops : ℕ) (bytes : List UInt8) : Prop := 1 ≤ hops ∧ bytes.length = 20 + 23 * hops

variable {tokens : List Address} {fees : List FeeTier} {bytes : List UInt8} {trade : TradeType}

/-! ## Packing -/

theorem take_pack (token : Address) (tokens : List Address) (fees : List FeeTier) :
    (pack (token :: tokens) fees).take addressSize = token.bytes := by
  cases fees with
  | nil => simp [pack, addressSize]
  | cons fee fees => simp [pack, addressSize]

theorem drop_pack (token : Address) (tokens : List Address) (fee : FeeTier)
    (fees : List FeeTier) :
    (pack (token :: tokens) (fee :: fees)).drop addressSize = fee.bytes ++ pack tokens fees := by
  simp [pack, addressSize]

/-- A packed route has twenty bytes for a token and twenty-three for each hop. -/
theorem length_pack (h : tokens.length = fees.length + 1) :
    (pack tokens fees).length = 20 + 23 * fees.length := by
  induction fees generalizing tokens with
  | nil =>
    obtain ⟨token, rfl⟩ := List.length_eq_one_iff.1 h
    simp [pack]
  | cons fee fees ih =>
    cases tokens with
    | nil => simp at h
    | cons token tokens =>
      have hrest := ih (by simpa using h)
      simp only [pack, List.length_append, Address.length_bytes, FeeTier.length_bytes, hrest,
        List.length_cons]
      omega

theorem length_packedOrder {α : Type} (trade : TradeType) (list : List α) :
    (packedOrder trade list).length = list.length := by
  cases trade <;> simp [packedOrder]

@[simp] theorem packedOrder_packedOrder {α : Type} (trade : TradeType) (list : List α) :
    packedOrder trade (packedOrder trade list) = list := by
  cases trade <;> simp [packedOrder]

theorem packedOrder_other {α : Type} (trade : TradeType) (list : List α) :
    packedOrder trade.other list = (packedOrder trade list).reverse := by
  cases trade <;> simp [packedOrder, TradeType.other]

theorem length_encode (route : Route) (trade : TradeType) :
    (route.encode trade).length = 20 + 23 * route.fees.length := by
  have hhops : (packedOrder trade route.tokens).length =
      (packedOrder trade route.fees).length + 1 := by
    rw [length_packedOrder, length_packedOrder]
    exact route.hops
  rw [encode, length_pack hhops, length_packedOrder]

/-! ## Unpacking -/

/-- Hops that were packed are unpacked. -/
theorem unpackHops_pack (token : Address) (h : tokens.length = fees.length) :
    unpackHops fees.length ((pack (token :: tokens) fees).drop addressSize) =
      .ok (fees, tokens) := by
  induction fees generalizing token tokens with
  | nil =>
    obtain rfl := List.length_eq_zero_iff.1 h
    rfl
  | cons fee fees ih =>
    cases tokens with
    | nil => simp at h
    | cons next tokens =>
      have hrest := ih next (by simpa using h)
      have hfee : (fee.bytes ++ pack (next :: tokens) fees).take 3 = fee.bytes := by simp
      have htoken : (fee.bytes ++ pack (next :: tokens) fees).drop 3 =
          pack (next :: tokens) fees := by simp
      have hhops : (fee.bytes ++ pack (next :: tokens) fees).drop hopSize =
          (pack (next :: tokens) fees).drop addressSize := by
        rw [← htoken, List.drop_drop]
        simp [hopSize, addressSize]
      rw [drop_pack, List.length_cons, unpackHops, hfee, htoken, hhops, take_pack, hrest,
        FeeTier.toNat_bytes, FeeTier.ofFee_fee, Address.ofBytes_bytes]
      rfl

/-- The fee that is read from three bytes has them as its own. -/
theorem bytes_of_ofFee {field : List UInt8} {fee : FeeTier} (hlength : field.length = 3)
    (h : FeeTier.ofFee (Bytes.toNat field) = .ok fee) : fee.bytes = field := by
  rw [FeeTier.bytes, FeeTier.ofFee_eq_ok_iff.1 h, ← hlength, Bytes.ofNat_toNat]

/-- Hops can be unpacked when the first of them can, and those behind it. -/
theorem unpackHops_succ_eq_ok {hops : ℕ} (h : unpackHops (hops + 1) bytes = .ok (fees, tokens)) :
    ∃ fee fees' tokens', FeeTier.ofFee (Bytes.toNat (bytes.take 3)) = .ok fee ∧
      unpackHops hops (bytes.drop hopSize) = .ok (fees', tokens') ∧
      fees = fee :: fees' ∧
      tokens = Address.ofBytes ((bytes.drop 3).take addressSize) :: tokens' := by
  rw [unpackHops] at h
  cases hfee : FeeTier.ofFee (Bytes.toNat (bytes.take 3)) with
  | error fault =>
    rw [hfee] at h
    cases h
  | ok fee =>
    rw [hfee] at h
    cases hrest : unpackHops hops (bytes.drop hopSize) with
    | error fault =>
      rw [hrest] at h
      cases h
    | ok unpacked =>
      rw [hrest] at h
      cases h
      exact ⟨fee, _, _, rfl, rfl, rfl, rfl⟩

/-- Hops that can be unpacked are those that were packed. -/
theorem pack_of_unpackHops {hops : ℕ} (hlength : bytes.length = 23 * hops)
    (h : unpackHops hops bytes = .ok (fees, tokens)) (first : Address) :
    fees.length = hops ∧ tokens.length = hops ∧
      pack (first :: tokens) fees = first.bytes ++ bytes := by
  induction hops generalizing bytes fees tokens first with
  | zero =>
    obtain rfl := List.length_eq_zero_iff.1 hlength
    cases h
    simp [pack]
  | succ hops ih =>
    obtain ⟨fee, fees', tokens', hfee, hrest, rfl, rfl⟩ := unpackHops_succ_eq_ok h
    have htoken : ((bytes.drop 3).take addressSize).length = 20 := by
      rw [List.length_take, List.length_drop, hlength]
      simp only [addressSize]
      omega
    have hlater : (bytes.drop hopSize).length = 23 * hops := by
      rw [List.length_drop, hlength]
      simp only [hopSize]
      omega
    obtain ⟨hfees, htokens, hpack⟩ :=
      ih hlater hrest (Address.ofBytes ((bytes.drop 3).take addressSize))
    refine ⟨by simp [hfees], by simp [htokens], ?_⟩
    have hfield : fee.bytes = bytes.take 3 := by
      apply bytes_of_ofFee _ hfee
      rw [List.length_take, hlength]
      omega
    have hsplit : (bytes.drop 3).take addressSize ++ bytes.drop hopSize = bytes.drop 3 := by
      have hdrop : bytes.drop hopSize = (bytes.drop 3).drop addressSize := by
        rw [List.drop_drop]
        rfl
      rw [hdrop, List.take_append_drop]
    calc pack (first :: Address.ofBytes ((bytes.drop 3).take addressSize) :: tokens')
          (fee :: fees')
        = first.bytes ++ (fee.bytes ++
            ((Address.ofBytes ((bytes.drop 3).take addressSize)).bytes ++ bytes.drop hopSize)) := by
          rw [pack, hpack, List.append_assoc]
      _ = first.bytes ++ (bytes.take 3 ++ bytes.drop 3) := by
          rw [Address.bytes_ofBytes htoken, hsplit, hfield]
      _ = first.bytes ++ bytes := by rw [List.take_append_drop]

theorem hopFee_drop (bytes : List UInt8) (i : ℕ) :
    hopFee (bytes.drop hopSize) i = hopFee bytes (i + 1) := by
  rw [hopFee, hopFee, List.drop_drop, Nat.mul_succ, Nat.add_comm]

/-- Hops are unpacked when all their fees have tiers, and otherwise the first that has none is
refused. -/
theorem unpackHops_cases (hops : ℕ) (bytes : List UInt8) :
    ((∃ fees tokens, unpackHops hops bytes = .ok (fees, tokens)) ∧
        ∀ i < hops, FeeTier.Known (hopFee bytes i)) ∨
      ∃ i < hops, (∀ j < i, FeeTier.Known (hopFee bytes j)) ∧ ¬ FeeTier.Known (hopFee bytes i) ∧
        unpackHops hops bytes = .error (.unsupportedFee (hopFee bytes i)) := by
  induction hops generalizing bytes with
  | zero => exact .inl ⟨⟨[], [], rfl⟩, by simp⟩
  | succ hops ih =>
    have hhere : hopFee bytes 0 = Bytes.toNat (bytes.take 3) := rfl
    cases hfee : FeeTier.ofFee (Bytes.toNat (bytes.take 3)) with
    | error fault =>
      obtain ⟨hnone, rfl⟩ := FeeTier.ofFee_eq_error_iff.1 hfee
      refine .inr ⟨0, Nat.succ_pos _, by simp, ?_, ?_⟩
      · rintro ⟨tier, htier⟩
        exact hnone tier htier
      · rw [unpackHops, hfee]
        rfl
    | ok fee =>
      have hknown : FeeTier.Known (hopFee bytes 0) := ⟨fee, FeeTier.ofFee_eq_ok_iff.1 hfee⟩
      have hshift (n : ℕ) (h : ∀ j < n, FeeTier.Known (hopFee (bytes.drop hopSize) j)) :
          ∀ j < n + 1, FeeTier.Known (hopFee bytes j) := by
        intro j hj
        cases j with
        | zero => exact hknown
        | succ j =>
          rw [← hopFee_drop]
          exact h j (Nat.lt_of_succ_lt_succ hj)
      obtain ⟨⟨fees, tokens, hrest⟩, hall⟩ | ⟨i, hi, hbefore, hbad, hrest⟩ :=
        ih (bytes.drop hopSize)
      · refine .inl ⟨⟨fee :: fees,
          Address.ofBytes ((bytes.drop 3).take addressSize) :: tokens, ?_⟩, hshift hops hall⟩
        rw [unpackHops, hfee, hrest]
        rfl
      · rw [hopFee_drop] at hbad hrest
        refine .inr ⟨i + 1, Nat.succ_lt_succ hi, hshift i hbefore, hbad, ?_⟩
        rw [unpackHops, hfee, hrest]
        rfl

/-! ## Reading -/

theorem packs_iff : (∃ hops, Packs hops bytes) ↔
    ¬ (bytes.length < addressSize + hopSize ∨ (bytes.length - addressSize) % hopSize ≠ 0) := by
  simp only [Packs, addressSize, hopSize]
  constructor
  · rintro ⟨hops, hpos, hlength⟩
    omega
  · intro h
    exact ⟨(bytes.length - 20) / 23, by omega, by omega⟩

theorem decode_of_not_packs (h : ¬ ∃ hops, Packs hops bytes) (trade : TradeType) :
    decode bytes trade = .error (.malformedPath bytes.length) := by
  rw [packs_iff, not_not] at h
  simp [decode, h, throw, throwThe, MonadExceptOf.throw, bind, Except.bind]

/-- Bytes of the right length are the bytes of a token and of hops. -/
theorem decode_of_packs {hops : ℕ} (h : Packs hops bytes) (trade : TradeType) :
    decode bytes trade = (unpackHops hops (bytes.drop addressSize)).bind fun unpacked =>
      Route.of (packedOrder trade (Address.ofBytes (bytes.take addressSize) :: unpacked.2))
        (packedOrder trade unpacked.1) := by
  have hsound := packs_iff.1 ⟨hops, h⟩
  have hhops : (bytes.length - addressSize) / hopSize = hops := by
    rw [h.2]
    simp only [addressSize, hopSize]
    omega
  simp only [decode, if_neg hsound, hhops]
  rfl

/-- Tokens with a fee for each hop between them are a route. -/
theorem of_eq_ok (hhops : tokens.length = fees.length + 1) (hnonempty : fees ≠ []) :
    Route.of tokens fees = .ok ⟨tokens, fees, hhops, hnonempty⟩ := by
  have hpos : 0 < fees.length := List.length_pos_of_ne_nil hnonempty
  rw [Route.of, if_neg (by omega), dif_pos hhops, dif_neg hnonempty]

/-- A route that is walked backwards is that of its tokens and fees in reverse. -/
theorem of_reverse (tokens : List Address) (fees : List FeeTier) :
    Route.of tokens.reverse fees.reverse = (Route.of tokens fees).map reversed := by
  unfold Route.of
  simp only [List.length_reverse, List.reverse_eq_nil_iff]
  split_ifs <;> rfl

/-- Read for the other trade, the same bytes are the reversed route, or are refused alike. -/
theorem decode_other (bytes : List UInt8) (trade : TradeType) :
    decode bytes trade.other = (decode bytes trade).map reversed := by
  by_cases hpacks : ∃ hops, Packs hops bytes
  · obtain ⟨hops, hpacks⟩ := hpacks
    rw [decode_of_packs hpacks, decode_of_packs hpacks]
    cases unpackHops hops (bytes.drop addressSize) with
    | error fault => rfl
    | ok unpacked =>
      simp only [Except.bind, packedOrder_other]
      exact of_reverse _ _
  · rw [decode_of_not_packs hpacks, decode_of_not_packs hpacks]
    rfl

/-- **A route is read back from its bytes.** -/
theorem decode_encode (route : Route) (trade : TradeType) :
    decode (route.encode trade) trade = .ok route := by
  have hpacks : Packs route.fees.length (route.encode trade) :=
    ⟨List.length_pos_of_ne_nil route.nonempty, length_encode route trade⟩
  rw [decode_of_packs hpacks]
  obtain ⟨first, rest, hfirst⟩ : ∃ first rest, packedOrder trade route.tokens = first :: rest := by
    apply List.exists_cons_of_length_pos
    rw [length_packedOrder, route.hops]
    exact Nat.succ_pos _
  have hrest : rest.length = (packedOrder trade route.fees).length := by
    have hlength := congrArg List.length hfirst
    rw [length_packedOrder, route.hops, List.length_cons] at hlength
    rw [length_packedOrder]
    omega
  have hunpack := unpackHops_pack first hrest
  rw [length_packedOrder] at hunpack
  rw [encode, hfirst, take_pack, hunpack, Address.ofBytes_bytes]
  simp only [Except.bind]
  rw [← hfirst, packedOrder_packedOrder, packedOrder_packedOrder,
    of_eq_ok route.hops route.nonempty]

/-- **Everything that reading can come to.**  Bytes are of no length that packed bytes have, or a
fee in them has no tier, or they are the bytes of the route that is read. -/
theorem decode_cases (bytes : List UInt8) (trade : TradeType) :
    ((¬ ∃ hops, Packs hops bytes) ∧ decode bytes trade = .error (.malformedPath bytes.length)) ∨
      ∃ hops, Packs hops bytes ∧
        ((∃ i < hops, (∀ j < i, FeeTier.Known (feeField bytes j)) ∧
            ¬ FeeTier.Known (feeField bytes i) ∧
            decode bytes trade = .error (.unsupportedFee (feeField bytes i))) ∨
          (∀ i < hops, FeeTier.Known (feeField bytes i)) ∧
            ∃ route, decode bytes trade = .ok route ∧ route.encode trade = bytes) := by
  by_cases hpacks : ∃ hops, Packs hops bytes
  · obtain ⟨hops, hpacks⟩ := hpacks
    refine .inr ⟨hops, hpacks, ?_⟩
    rw [decode_of_packs hpacks]
    obtain ⟨⟨fees, tokens, hunpack⟩, hall⟩ | ⟨i, hi, hbefore, hbad, hunpack⟩ :=
      unpackHops_cases hops (bytes.drop addressSize)
    · right
      have hlength : (bytes.drop addressSize).length = 23 * hops := by
        rw [List.length_drop, hpacks.2]
        simp [addressSize]
      obtain ⟨hfees, htokens, hpack⟩ :=
        pack_of_unpackHops hlength hunpack (Address.ofBytes (bytes.take addressSize))
      have hfirst : (bytes.take addressSize).length = 20 := by
        rw [List.length_take, hpacks.2]
        simp [addressSize]
      rw [Address.bytes_ofBytes hfirst, List.take_append_drop] at hpack
      have hhops : (packedOrder trade (Address.ofBytes (bytes.take addressSize) :: tokens)).length =
          (packedOrder trade fees).length + 1 := by
        simp [length_packedOrder, hfees, htokens]
      have hnonempty : packedOrder trade fees ≠ [] := by
        apply List.ne_nil_of_length_pos
        rw [length_packedOrder, hfees]
        exact hpacks.1
      refine ⟨hall, ⟨_, _, hhops, hnonempty⟩, ?_, ?_⟩
      · rw [hunpack]
        exact of_eq_ok hhops hnonempty
      · rw [encode, packedOrder_packedOrder, packedOrder_packedOrder, hpack]
    · left
      exact ⟨i, hi, hbefore, hbad, by rw [hunpack]; rfl⟩
  · exact .inl ⟨hpacks, decode_of_not_packs hpacks trade⟩

/-- Bytes have one number of hops at most. -/
theorem Packs.unique {hops other : ℕ} (h : Packs hops bytes) (h' : Packs other bytes) :
    hops = other := by
  have hlength := h.2.symm.trans h'.2
  omega

/-- **A route is read from its bytes and from no others.** -/
theorem decode_eq_ok_iff {route : Route} :
    decode bytes trade = .ok route ↔ route.encode trade = bytes := by
  constructor
  · intro h
    obtain ⟨-, hdecode⟩ | ⟨hops, -, ⟨i, -, -, -, hdecode⟩ | ⟨-, other, hdecode, hencode⟩⟩ :=
      decode_cases bytes trade
    · rw [h] at hdecode
      cases hdecode
    · rw [h] at hdecode
      cases hdecode
    · rw [h] at hdecode
      cases hdecode
      exact hencode
  · rintro rfl
    exact decode_encode route trade

/-- Bytes can be read when they have the length of packed ones and all their fees have tiers. -/
theorem exists_decode_iff : (∃ route, decode bytes trade = .ok route) ↔
    ∃ hops, Packs hops bytes ∧ ∀ i < hops, FeeTier.Known (feeField bytes i) := by
  obtain ⟨hnone, hdecode⟩ | ⟨hops, hpacks, ⟨i, hi, -, hbad, hdecode⟩ | ⟨hall, route, hdecode, -⟩⟩ :=
    decode_cases bytes trade
  · simp only [hdecode, reduceCtorEq, exists_false, false_iff]
    rintro ⟨hops, hpacks, -⟩
    exact hnone ⟨hops, hpacks⟩
  · simp only [hdecode, reduceCtorEq, exists_false, false_iff]
    rintro ⟨other, hother, hall⟩
    obtain rfl := hpacks.unique hother
    exact hbad (hall i hi)
  · exact ⟨fun _ => ⟨hops, hpacks, hall⟩, fun _ => ⟨route, hdecode⟩⟩

/-- Bytes are refused for their length, or for the first fee among them that has no tier. -/
theorem decode_eq_error_iff {fault : Fault} : decode bytes trade = .error fault ↔
    ((¬ ∃ hops, Packs hops bytes) ∧ fault = .malformedPath bytes.length) ∨
      ∃ hops, Packs hops bytes ∧ ∃ i < hops, (∀ j < i, FeeTier.Known (feeField bytes j)) ∧
        ¬ FeeTier.Known (feeField bytes i) ∧ fault = .unsupportedFee (feeField bytes i) := by
  constructor
  · intro h
    obtain ⟨hnone, hdecode⟩ | ⟨hops, hpacks, ⟨i, hi, hbefore, hbad, hdecode⟩ |
      ⟨-, route, hdecode, -⟩⟩ := decode_cases bytes trade
    · rw [h] at hdecode
      exact .inl ⟨hnone, Except.error.inj hdecode⟩
    · rw [h] at hdecode
      exact .inr ⟨hops, hpacks, i, hi, hbefore, hbad, Except.error.inj hdecode⟩
    · rw [h] at hdecode
      cases hdecode
  · rintro (⟨hnone, rfl⟩ | ⟨hops, hpacks, i, hi, hbefore, hbad, rfl⟩)
    · exact decode_of_not_packs hnone trade
    · rw [decode_of_packs hpacks]
      obtain ⟨-, hall⟩ | ⟨first, hfirst, hknown, hunknown, hunpack⟩ :=
        unpackHops_cases hops (bytes.drop addressSize)
      · exact absurd (hall i hi) hbad
      · -- both are the first fee without a tier
        obtain hlt | rfl | hgt := lt_trichotomy i first
        · exact absurd (hknown i hlt) hbad
        · rw [hunpack]
          rfl
        · exact absurd (hbefore first hgt) hunknown

/-- **Routes and packed bytes are in bijection.**  Two tokens or more with a fee for each hop
between them are a route.  A route of `n` tokens is packed into twenty bytes and twenty-three for
each of its `n - 1` hops, and these are read as the route again, or for the other trade as the
route reversed.  Bytes are read as a route exactly when they are those of the route, which there is
when they have such a length and all their fees have tiers; otherwise their length is refused, or
the first fee among them that has no tier. -/
theorem packed_route_bijection :
    (∀ (tokens : List Address) (fees : List FeeTier), 2 ≤ tokens.length →
        fees.length = tokens.length - 1 →
        ∃ route, Route.of tokens fees = .ok route ∧ route.tokens = tokens ∧ route.fees = fees) ∧
      (∀ (route : Route) (trade : TradeType),
        2 ≤ route.tokens.length ∧ route.fees.length = route.tokens.length - 1 ∧
          (route.encode trade).length = 20 + 23 * (route.tokens.length - 1) ∧
          decode (route.encode trade) trade = .ok route ∧
          decode (route.encode trade) trade.other = .ok route.reversed) ∧
      ∀ (bytes : List UInt8) (trade : TradeType),
        ((∃ route, decode bytes trade = .ok route) ↔
            ∃ hops, Packs hops bytes ∧ ∀ i < hops, FeeTier.Known (feeField bytes i)) ∧
          (∀ route, decode bytes trade = .ok route ↔ route.encode trade = bytes) ∧
          (∀ fault, decode bytes trade = .error fault ↔
            ((¬ ∃ hops, Packs hops bytes) ∧ fault = .malformedPath bytes.length) ∨
              ∃ hops, Packs hops bytes ∧ ∃ i < hops, (∀ j < i, FeeTier.Known (feeField bytes j)) ∧
                ¬ FeeTier.Known (feeField bytes i) ∧
                fault = .unsupportedFee (feeField bytes i)) ∧
          decode bytes trade.other = (decode bytes trade).map reversed := by
  refine ⟨?_, ?_, ?_⟩
  · intro tokens fees htokens hfees
    have hnonempty : fees ≠ [] := List.ne_nil_of_length_pos (by omega)
    exact ⟨_, of_eq_ok (by omega) hnonempty, rfl, rfl⟩
  · intro route trade
    have hfees := List.length_pos_of_ne_nil route.nonempty
    have hhops := route.hops
    refine ⟨by omega, by omega, ?_, decode_encode route trade, ?_⟩
    · rw [length_encode, hhops, Nat.add_sub_cancel]
    · rw [decode_other, decode_encode]
      rfl
  · intro bytes trade
    exact ⟨exists_decode_iff, fun _ => decode_eq_ok_iff, fun _ => decode_eq_error_iff,
      decode_other bytes trade⟩

/-- A route of two hops is read back from its sixty-six bytes, and reversed for the other trade. -/
theorem packed_route_of_two_hops :
    ∃ route : Route, route.fees = [.lowest, .high] ∧
      (route.encode .exactInput).length = 66 ∧
      decode (route.encode .exactInput) .exactInput = .ok route ∧
      decode (route.encode .exactInput) .exactOutput = .ok route.reversed ∧
      route.reversed.fees = [.high, .lowest] := by
  obtain ⟨hroutes, hencoded, -⟩ := packed_route_bijection
  obtain ⟨route, -, htokens, hfees⟩ :=
    hroutes [.ofNat 0xA, .ofNat 0xB, .ofNat 0xA] [.lowest, .high] (by decide) (by decide)
  obtain ⟨-, -, hlength, hdecode, hother⟩ := hencoded route .exactInput
  refine ⟨route, hfees, ?_, hdecode, hother, ?_⟩
  · rw [hlength, htokens]
    rfl
  · change route.fees.reverse = _
    rw [hfees]
    rfl

end Route

end Tickwise
