import Tickwise.Proofs.Chain.Addresses

/-!
# Exchanges with a chain in memory

An exchange is one call that is put to a chain, with the ledger before and after it.  Whatever is
asked, by whomever and with whatever arguments, the ledger only grows: a pool with a price stays
as it is, and no pool goes away or moves.

* `Ask`, `Ask.put` — what a chain can be asked, and the asking;
* `Ask.Met` — what a call needs so that the chain does not revert it;
* `Exchange.Held`, `Linked` — exchanges that took place, one after the other;
* `Exchange.Does`, `Held.does` — everything that a call can do to a ledger;
* `Ledger.Grows`, `Linked.grows` — what they leave as it was;
* `Exchange.Held.failure_cases` — a call whose needs are met fails because a failure was
  scheduled, or a token is not known.
-/

namespace Tickwise

/-! ## Asking -/

/-- What a chain can be asked, with all that is said in asking. -/
inductive Ask where
  | chainId
  | token (address : Address)
  | poolAddress (factory token0 token1 : Address) (fee : FeeTier)
  | poolState (pool : Address)
  | createAndInitializePool (positionManager token0 token1 : Address) (fee : FeeTier)
    (sqrtPrice : ℕ)
  | allowance (asset owner spender : Address)
  | approve (asset spender : Address) (amount : ℕ)
  | mint (request : MintRequest)

namespace Ask

/-- The call by which something is asked. -/
def call : Ask → Call
  | chainId => .chainId
  | token _ => .token
  | poolAddress .. => .poolAddress
  | poolState _ => .poolState
  | createAndInitializePool .. => .createAndInitializePool
  | allowance .. => .allowance
  | approve .. => .approve
  | mint _ => .mint

/-- What is answered. -/
@[reducible] def Answer : Ask → Type
  | chainId => ℕ
  | token _ => Token
  | poolAddress .. => Option Address
  | poolState _ => Pool
  | createAndInitializePool .. => Address
  | allowance .. => ℕ
  | approve .. => TxHash
  | mint _ => MintReceipt

/-- Asks a chain in memory. -/
def put : (ask : Ask) → Action Ledger ask.Answer
  | chainId => Chain.chainId
  | token address => Chain.token address
  | poolAddress factory token0 token1 fee => Chain.poolAddress factory token0 token1 fee
  | poolState pool => Chain.poolState pool
  | createAndInitializePool positionManager token0 token1 fee sqrtPrice =>
    Chain.createAndInitializePool positionManager token0 token1 fee sqrtPrice
  | allowance asset owner spender => Chain.allowance asset owner spender
  | approve asset spender amount => Chain.approve asset spender amount
  | mint request => Chain.mint request

/-- Whatever is asked is recorded first. -/
theorem put_eq (ask : Ask) : ∃ body, ask.put = Ledger.record ask.call >>= fun _ => body := by
  cases ask <;> exact ⟨_, rfl⟩

/-- What a call needs of the ledger so that the chain does not revert it. -/
def Met : Ask → Ledger → Prop
  | poolState pool, ledger => ∃ found, ledger.poolAt? pool = some found
  | createAndInitializePool _ token0 token1 _ sqrtPrice, _ =>
    token0 < token1 ∧ ∃ tick, tickAtSqrtRatio sqrtPrice = .ok tick
  | mint request, ledger => ledger.Covers request
  | _, _ => True

/-- Whether a mint is asked for. -/
def IsMint : Ask → Prop
  | mint _ => True
  | _ => False

/-- Whether an approval is asked for. -/
def IsApproval : Ask → Prop
  | approve .. => True
  | _ => False

end Ask

/-- The failure of a result. -/
def failure? {α : Type} : Except Failure α → Option Failure
  | .ok _ => none
  | .error failure => some failure

@[simp] theorem failure?_ok {α : Type} (a : α) : failure? (.ok a : Except Failure α) = none := rfl

@[simp] theorem failure?_error {α : Type} (failure : Failure) :
    failure? (.error failure : Except Failure α) = some failure := rfl

theorem failure?_eq_some_iff {α : Type} {result : Except Failure α} {failure : Failure} :
    failure? result = some failure ↔ result = .error failure := by
  cases result <;> simp

/-- A call with the ledger before and after it, and how it failed if it did. -/
structure Exchange where
  ask : Ask
  before : Ledger
  failure? : Option Failure
  after : Ledger

namespace Exchange

/-- The mint of an exchange that made one. -/
def minted? (e : Exchange) : Option MintRequest :=
  match e.ask, e.failure? with
  | .mint request, none => some request
  | _, _ => none

theorem ask_of_minted? {e : Exchange} {request : MintRequest} (h : e.minted? = some request) :
    e.ask = .mint request := by
  obtain ⟨ask, before, failed, after⟩ := e
  cases ask with
  | mint asked =>
    cases failed with
    | none => exact congrArg Ask.mint (Option.some.inj h)
    | some failure => cases h
  | _ => cases h

/-- The approval of an exchange that sent one. -/
def approved? (e : Exchange) : Option Approval :=
  match e.ask, e.failure? with
  | .approve token spender amount, none => some ⟨token, spender, amount⟩
  | _, _ => none

theorem ask_of_approved? {e : Exchange} {approval : Approval} (h : e.approved? = some approval) :
    e.ask = .approve approval.token approval.spender approval.amount := by
  obtain ⟨ask, before, failed, after⟩ := e
  cases ask with
  | approve token spender amount =>
    cases failed with
    | none =>
      cases h
      rfl
    | some failure => cases h
  | _ => cases h

/-- Whether an exchange is one that takes place: the chain, asked this with this ledger, does
just that. -/
def Held (e : Exchange) : Prop :=
  ∃ (session later : Session Ledger) (result : Except Failure e.ask.Answer),
    e.ask.put.run session = (result, later) ∧ session.chain = e.before ∧
      Tickwise.failure? result = e.failure? ∧ later.chain = e.after

end Exchange

/-! ## Growing -/

namespace Ledger

/-- Whether a later ledger came from an earlier one by calls: what is not written stays, a pool
with a price stays as it is, and a pool keeps its place and its address. -/
structure Grows (before after : Ledger) : Prop where
  tokens : after.tokens = before.tokens
  chainId : after.chainId = before.chainId
  failures : after.failures = before.failures
  prices : ∀ key pool, Table.get? key before.pools = some pool → pool.isInitialized →
    Table.get? key after.pools = some pool
  addresses : before.pools.map (fun entry => entry.2.address) <+:
    after.pools.map (fun entry => entry.2.address)

theorem Grows.refl (ledger : Ledger) : ledger.Grows ledger :=
  ⟨rfl, rfl, rfl, fun _ _ hget _ => hget, List.prefix_refl _⟩

theorem Grows.trans {first second third : Ledger} (h : first.Grows second)
    (h' : second.Grows third) : first.Grows third where
  tokens := h'.tokens.trans h.tokens
  chainId := h'.chainId.trans h.chainId
  failures := h'.failures.trans h.failures
  prices := by
    intro key pool hget hpriced
    exact h'.prices key pool (h.prices key pool hget hpriced) hpriced
  addresses := h.addresses.trans h'.addresses

/-- A ledger with the same pools and the same in all that is never written has grown. -/
theorem Grows.of_pools_eq {before after : Ledger} (htokens : after.tokens = before.tokens)
    (hchainId : after.chainId = before.chainId) (hfailures : after.failures = before.failures)
    (hpools : after.pools = before.pools) : before.Grows after where
  tokens := htokens
  chainId := hchainId
  failures := hfailures
  prices := by
    intro key pool hget _
    rw [hpools]
    exact hget
  addresses := by rw [hpools]

theorem Grows.heard (calls : List Call) (ledger : Ledger) : ledger.Grows (ledger.heard calls) :=
  .of_pools_eq rfl rfl rfl rfl

/-- Under its key a pool may get a price, unless it has one. -/
theorem Grows.setPool {ledger : Ledger} {key : PoolKey} {pool : Pool}
    (haddress : pool.address = (ledger.createdPool key).address)
    (hkept : (ledger.createdPool key).isInitialized → pool = ledger.createdPool key) :
    ledger.Grows (ledger.setPool key pool) where
  tokens := rfl
  chainId := rfl
  failures := rfl
  prices := by
    intro other entry hget hpriced
    by_cases hkey : other = key
    · subst hkey
      have hcreated : ledger.createdPool other = entry := by
        rw [createdPool, hget]
        rfl
      rw [hcreated] at hkept
      change Table.get? other (Table.put other pool ledger.pools) = some entry
      rw [Table.get?_put_self, hkept hpriced]
    · change Table.get? other (Table.put key pool ledger.pools) = some entry
      rw [Table.get?_put_of_ne hkey, hget]
  addresses := by
    rw [addresses_setPool haddress]
    exact List.prefix_append _ _

/-- Pools only become more. -/
theorem Grows.length_pools {before after : Ledger} (h : before.Grows after) :
    before.pools.length ≤ after.pools.length := by
  simpa using h.addresses.length_le

/-- Addresses that do not repeat later have not repeated before. -/
theorem Grows.distinct {before after : Ledger} (h : before.Grows after)
    (hdistinct : after.Distinct) : before.Distinct :=
  hdistinct.sublist h.addresses.sublist

end Ledger

/-! ## What any call leaves -/

namespace Ledger

/-- Which failures are to come hangs on the record and on the schedule alone. -/
theorem struckBy_congr {a b : Ledger} {calls : List Call} (hcalls : a.calls = b.calls)
    (hfailures : a.failures = b.failures) : a.StruckBy calls ↔ b.StruckBy calls := by
  unfold StruckBy count
  rw [hcalls, hfailures]

variable {session later : Session Ledger}

/-- When a creation succeeds, there is a pool with a price under the key, at the address that is
answered. -/
theorem get?_of_run_createPool {key : PoolKey} {sqrtPrice : ℕ} {address : Address}
    (h : (createPool key sqrtPrice).run session = (.ok address, later)) :
    ∃ pool, Table.get? key later.chain.pools = some pool ∧
      pool.isInitialized ∧ pool.address = address := by
  obtain ⟨⟨failure, herror⟩, -⟩ | ⟨-, ⟨tick, htick, hok, hlater⟩ | ⟨hresult, hlater⟩⟩ :=
    run_createPool_cases h
  · cases herror
  · cases hok
    have hprice : sqrtPrice ≠ 0 :=
      (pos_of_isInitializable (tickAtSqrtRatio_eq_ok_iff.1 htick).1).ne'
    rw [hlater]
    exact ⟨_, get?_pools_priced, isInitialized_pricedPool hprice, address_pricedPool⟩
  · obtain ⟨failure, herror⟩ | ⟨hok, hpriced⟩ := hresult
    · cases herror
    · cases hok
      rw [hlater]
      exact ⟨session.chain.createdPool key, Table.get?_put_self _ _ _, hpriced, rfl⟩

/-- A pool that was created has a price, and is there at the address that was answered. -/
theorem get?_of_run_createAndInitializePool {manager token0 token1 : Address} {fee : FeeTier}
    {sqrtPrice : ℕ} {context : String} {address : Address}
    (h : ((Chain.createAndInitializePool manager token0 token1 fee sqrtPrice :
      Action Ledger Address).within context).run session = (.ok address, later)) :
    ∃ pool, Table.get? ⟨token0, token1, fee⟩ later.chain.pools = some pool ∧
      pool.isInitialized ∧ pool.address = address := by
  obtain ⟨inner, hinner, hok⟩ := Action.run_within_cases h
  obtain ⟨-, ⟨failure, rfl, -⟩, -⟩ | ⟨-, hbody⟩ := run_call_cases hinner
  · cases hok
  · cases inner with
    | error failure => cases hok
    | ok created =>
      obtain rfl : address = created := Except.ok.inj hok
      exact get?_of_run_createPool hbody

/-- A check of one side of a mint leaves the session as it is. -/
theorem run_checkSide_session {manager token : Address} {desired minimum : ℕ}
    {result : Except Failure Unit}
    (h : (checkSide manager token desired minimum).run session = (result, later)) :
    later = session := by
  rw [checkSide, Action.run_bind, Action.run_chain] at h
  dsimp only at h
  split at h
  · cases h
    rfl
  · split at h
    · cases h
      rfl
    · cases h
      rfl

/-- A mint that succeeds is added to the others, and one that fails changes nothing. -/
theorem run_makeMint_cases {request : MintRequest} {result : Except Failure MintReceipt}
    (h : (makeMint request).run session = (result, later)) :
    ((∃ failure, result = .error failure) ∧ later = session) ∨
      (∃ receipt, result = .ok receipt) ∧
        later = { session with chain := session.chain.minted request } := by
  obtain ⟨inner, session0, hcheck0, h⟩ := Action.run_bind_cases h
  obtain rfl := run_checkSide_session hcheck0
  cases inner with
  | error failure =>
    cases h
    exact .inl ⟨⟨_, rfl⟩, rfl⟩
  | ok =>
    obtain ⟨inner, session1, hcheck1, h⟩ := Action.run_bind_cases h
    obtain rfl := run_checkSide_session hcheck1
    cases inner with
    | error failure =>
      cases h
      exact .inl ⟨⟨_, rfl⟩, rfl⟩
    | ok =>
      cases h
      exact .inr ⟨⟨_, rfl⟩, rfl⟩

end Ledger

namespace Exchange

/-- Everything that an exchange can do to a ledger, beside the record of its call. -/
inductive Does (e : Exchange) : Prop
  | nothing (hminted : e.minted? = none) (happroved : e.approved? = none)
    (hafter : e.after = e.before.heard [e.ask.call])
  /-- The pool of a key is put there, with the price that it has, if it has any. -/
  | creation {key : PoolKey} (hsorted : key.token0 < key.token1) (hminted : e.minted? = none)
    (happroved : e.approved? = none)
    (hafter : e.after = (e.before.setPool key (e.before.createdPool key)).heard [e.ask.call])
  | pricing {key : PoolKey} {tick : ℤ} {sqrtPrice : ℕ} (hsorted : key.token0 < key.token1)
    (htick : tickAtSqrtRatio sqrtPrice = .ok tick) (hminted : e.minted? = none)
    (happroved : e.approved? = none)
    (hafter : e.after = (e.before.priced key tick sqrtPrice).heard [e.ask.call])
  | approval {token spender : Address} {amount : ℕ} (hminted : e.minted? = none)
    (happroved : e.approved? = some ⟨token, spender, amount⟩)
    (hafter : e.after = (e.before.approved token spender amount).heard [e.ask.call])
  | mint {request : MintRequest} (hminted : e.minted? = some request)
    (happroved : e.approved? = none)
    (hafter : e.after = (e.before.minted request).heard [e.ask.call])

theorem minted?_of_failure {e : Exchange} {failure : Failure} (h : e.failure? = some failure) :
    e.minted? = none := by
  obtain ⟨ask, before, failed, after⟩ := e
  obtain rfl : failed = some failure := h
  cases ask <;> rfl

theorem approved?_of_failure {e : Exchange} {failure : Failure} (h : e.failure? = some failure) :
    e.approved? = none := by
  obtain ⟨ask, before, failed, after⟩ := e
  obtain rfl : failed = some failure := h
  cases ask <;> rfl

/-- **What an exchange does**, whatever is asked in it and however it ends. -/
theorem Held.does {e : Exchange} (h : e.Held) : e.Does := by
  obtain ⟨ask, before, failure, after⟩ := e
  obtain ⟨session, later, result, hrun, hbefore, hfailure, hafter⟩ := h
  dsimp only at hrun hbefore hfailure hafter
  subst hbefore hafter
  cases ask with
  | chainId =>
    obtain ⟨rfl, -⟩ := Ledger.run_chainId_cases hrun
    exact .nothing rfl rfl rfl
  | token address =>
    obtain ⟨rfl, -⟩ := Ledger.run_token_cases hrun
    exact .nothing rfl rfl rfl
  | poolAddress factory token0 token1 fee =>
    obtain ⟨rfl, -⟩ := Ledger.run_poolAddress_cases hrun
    exact .nothing rfl rfl rfl
  | poolState pool =>
    obtain ⟨rfl, -⟩ := Ledger.run_poolState_cases hrun
    exact .nothing rfl rfl rfl
  | allowance asset owner spender =>
    obtain ⟨rfl, -⟩ := Ledger.run_allowance_cases hrun
    exact .nothing rfl rfl rfl
  | approve asset spender amount =>
    obtain ⟨⟨failure, rfl, -⟩, -, rfl⟩ | ⟨⟨hash, rfl⟩, rfl⟩ := Ledger.run_approve_cases hrun
    · exact .nothing rfl (approved?_of_failure hfailure.symm) rfl
    · obtain rfl : none = failure := hfailure
      exact .approval rfl rfl rfl
  | createAndInitializePool manager token0 token1 fee sqrtPrice =>
    obtain ⟨-, -, rfl⟩ | ⟨-, hbody⟩ := Ledger.run_call_cases hrun
    · exact .nothing rfl rfl rfl
    obtain ⟨-, rfl⟩ | ⟨hsorted, ⟨tick, htick, -, hlater⟩ | ⟨-, hlater⟩⟩ :=
      Ledger.run_createPool_cases hbody
    · exact .nothing rfl rfl rfl
    · exact .pricing hsorted htick rfl rfl hlater
    · exact .creation hsorted rfl rfl hlater
  | mint request =>
    obtain ⟨-, ⟨failure, rfl, -⟩, rfl⟩ | ⟨-, hbody⟩ := Ledger.run_call_cases hrun
    · exact .nothing (minted?_of_failure hfailure.symm) rfl rfl
    obtain ⟨⟨failure, rfl⟩, rfl⟩ | ⟨⟨receipt, rfl⟩, rfl⟩ := Ledger.run_makeMint_cases hbody
    · exact .nothing (minted?_of_failure hfailure.symm) rfl rfl
    · obtain rfl : none = failure := hfailure
      exact .mint rfl rfl rfl

/-- What every exchange does to a ledger: it is recorded, the ledger grows, and there is one more
mint if one was made. -/
structure Lawful (e : Exchange) : Prop where
  calls : e.after.calls = e.before.calls ++ [e.ask.call]
  grows : e.before.Grows e.after
  mints : e.after.mints = e.before.mints ++ e.minted?.toList

/-- An exchange is lawful when what it does beside the record makes the ledger grow. -/
theorem lawful_of_heard {e : Exchange} {done : Ledger} (hafter : e.after = done.heard [e.ask.call])
    (hcalls : done.calls = e.before.calls) (hgrows : e.before.Grows done)
    (hmints : done.mints = e.before.mints ++ e.minted?.toList) : e.Lawful where
  calls := by
    rw [hafter, ← hcalls]
    rfl
  grows := by
    rw [hafter]
    exact hgrows.trans (.heard _ _)
  mints := by
    rw [hafter]
    exact hmints

/-- Every exchange that takes place is lawful. -/
theorem Held.lawful {e : Exchange} (h : e.Held) : e.Lawful := by
  have hnone (hminted : e.minted? = none) :
      e.before.mints = e.before.mints ++ e.minted?.toList := by
    rw [hminted]
    exact (List.append_nil _).symm
  cases h.does with
  | nothing hminted _ hafter => exact lawful_of_heard hafter rfl (.refl _) (hnone hminted)
  | creation _ hminted _ hafter =>
    exact lawful_of_heard hafter rfl (.setPool rfl fun _ => rfl) (hnone hminted)
  | pricing _ _ hminted _ hafter =>
    exact lawful_of_heard hafter rfl (.setPool Ledger.address_pricedPool fun hkept => if_pos hkept)
      (hnone hminted)
  | approval hminted _ hafter =>
    exact lawful_of_heard hafter rfl (.of_pools_eq rfl rfl rfl rfl) (hnone hminted)
  | mint hminted _ hafter =>
    refine lawful_of_heard hafter rfl (.of_pools_eq rfl rfl rfl rfl) ?_
    rw [hminted]
    rfl

/-- A call that a scheduled failure falls on fails. -/
theorem Held.failure?_ne_none {e : Exchange} (h : e.Held)
    (hstrikes : e.before.Strikes e.ask.call) : e.failure? ≠ none := by
  obtain ⟨session, later, result, hrun, hbefore, hresult, -⟩ := h
  obtain ⟨body, hput⟩ := e.ask.put_eq
  rw [hput] at hrun
  obtain ⟨-, ⟨failure, rfl, -⟩, -⟩ | ⟨hspared, -⟩ := Ledger.run_call_cases hrun
  · rw [← hresult]
    exact Option.some_ne_none _
  · rw [hbefore] at hspared
    exact absurd hstrikes hspared

/-- A call that has what it needs fails only because that was scheduled, or because a token is not
known. -/
theorem Held.failure_cases {e : Exchange} (h : e.Held) (hmet : e.ask.Met e.before)
    {failure : Failure} (hfailure : e.failure? = some failure) :
    e.before.Strikes e.ask.call ∨
      ∃ address, e.ask = .token address ∧ Table.get? address e.before.tokens = none := by
  obtain ⟨ask, before, failed, after⟩ := e
  obtain ⟨session, later, result, hrun, hbefore, hresult, hafter⟩ := h
  dsimp only at *
  subst hbefore hafter
  rw [hfailure, failure?_eq_some_iff] at hresult
  subst hresult
  cases ask with
  | chainId =>
    obtain ⟨-, hok | ⟨-, hstrikes⟩⟩ := Ledger.run_chainId_cases hrun
    · cases hok
    · exact .inl hstrikes
  | token address =>
    obtain ⟨-, ⟨token, hok, -⟩ | ⟨-, hstrikes | hnone⟩⟩ := Ledger.run_token_cases hrun
    · cases hok
    · exact .inl hstrikes
    · exact .inr ⟨address, rfl, hnone⟩
  | poolAddress factory token0 token1 fee =>
    obtain ⟨-, hok | ⟨-, hstrikes⟩⟩ := Ledger.run_poolAddress_cases hrun
    · cases hok
    · exact .inl hstrikes
  | poolState pool =>
    obtain ⟨found, hfound⟩ := hmet
    obtain ⟨-, ⟨_, hok, -⟩ | ⟨-, hstrikes | hnone⟩⟩ := Ledger.run_poolState_cases hrun
    · cases hok
    · exact .inl hstrikes
    · rw [hfound] at hnone
      cases hnone
  | createAndInitializePool manager token0 token1 fee sqrtPrice =>
    obtain ⟨hsorted, tick, htick⟩ := hmet
    obtain ⟨-, hstrikes, -⟩ | ⟨hok, -⟩ :=
      Ledger.run_createAndInitializePool_cases hsorted htick hrun
    · exact .inl hstrikes
    · cases hok
  | allowance asset owner spender =>
    obtain ⟨-, hok | ⟨-, hstrikes⟩⟩ := Ledger.run_allowance_cases hrun
    · cases hok
    · exact .inl hstrikes
  | approve asset spender amount =>
    obtain ⟨-, hstrikes, -⟩ | ⟨⟨hash, hok⟩, -⟩ := Ledger.run_approve_cases hrun
    · exact .inl hstrikes
    · cases hok
  | mint request =>
    obtain ⟨-, hstrikes, -⟩ | ⟨hok, -⟩ := Ledger.run_mint_cases hmet hrun
    · exact .inl hstrikes
    · cases hok

end Exchange

/-! ## One exchange after the other -/

/-- Exchanges that take place one after the other, from one ledger to another. -/
inductive Linked : Ledger → List Exchange → Ledger → Prop
  | nil {ledger : Ledger} : Linked ledger [] ledger
  | cons {e : Exchange} {rest : List Exchange} {last : Ledger} (h : e.Held)
    (hrest : Linked e.after rest last) : Linked e.before (e :: rest) last

namespace Linked

variable {first middle last : Ledger} {exchanges more : List Exchange}

theorem append (h : Linked first exchanges middle) (hmore : Linked middle more last) :
    Linked first (exchanges ++ more) last := by
  induction h with
  | nil => exact hmore
  | cons hheld _ ih => exact .cons hheld (ih hmore)

theorem held (h : Linked first exchanges last) : ∀ e ∈ exchanges, e.Held := by
  induction h with
  | nil => simp
  | cons hheld _ ih => simpa using ⟨hheld, ih⟩

/-- The record of a ledger is extended by the calls of the exchanges. -/
theorem calls (h : Linked first exchanges last) :
    last.calls = first.calls ++ exchanges.map fun e => e.ask.call := by
  induction h with
  | nil => simp
  | cons hheld _ ih =>
    rw [ih, hheld.lawful.calls]
    simp

/-- Where nothing was recorded nothing was exchanged. -/
theorem eq_nil (h : Linked first exchanges last) (hcalls : last.calls = first.calls) :
    exchanges = [] := by
  rw [h.calls] at hcalls
  exact List.map_eq_nil_iff.1 (List.append_right_eq_self.1 hcalls)

/-- The mints of a ledger are extended by those of the exchanges. -/
theorem mints (h : Linked first exchanges last) :
    last.mints = first.mints ++ exchanges.filterMap Exchange.minted? := by
  induction h with
  | nil => simp
  | @cons e rest last hheld _ ih =>
    rw [ih, hheld.lawful.mints, List.filterMap_cons]
    cases e.minted? with
    | none => simp
    | some request => simp

theorem grows (h : Linked first exchanges last) : first.Grows last := by
  induction h with
  | nil => exact .refl _
  | cons hheld _ ih => exact hheld.lawful.grows.trans ih

/-- From any exchange on, the ledger has grown out of the first one and into the last one. -/
theorem grows_between (h : Linked first exchanges last) {e : Exchange} (he : e ∈ exchanges) :
    first.Grows e.before ∧ e.after.Grows last := by
  induction h with
  | nil => simp at he
  | cons hheld hrest ih =>
    rcases List.mem_cons.1 he with rfl | he
    · exact ⟨.refl _, hrest.grows⟩
    · obtain ⟨hbefore, hafter⟩ := ih he
      exact ⟨hheld.lawful.grows.trans hbefore, hafter⟩

/-- Of all the ledgers on the way, each stands to those behind it as it does to the next. -/
theorem pairwise {R : Ledger → Ledger → Prop} (h : Linked first exchanges last)
    (hrefl : ∀ ledger, R ledger ledger) (htrans : ∀ {a b c}, R a b → R b c → R a c)
    (hstep : ∀ e ∈ exchanges, R e.before e.after) :
    (first :: exchanges.map Exchange.after ++ [last]).Pairwise R := by
  induction h with
  | @nil ledger => simpa using hrefl ledger
  | @cons e rest last _ _ ih =>
    obtain ⟨hhere, hsteps⟩ := List.forall_mem_cons.1 hstep
    have hlater := ih hsteps
    rw [List.map_cons, List.cons_append, List.pairwise_cons]
    refine ⟨?_, hlater⟩
    intro ledger hledger
    rcases List.mem_cons.1 hledger with rfl | hbehind
    · exact hhere
    · exact htrans hhere (List.rel_of_pairwise_cons hlater hbehind)

/-- Of all the ledgers on the way, each has grown out of those before it. -/
theorem pairwise_grows (h : Linked first exchanges last) :
    (first :: exchanges.map Exchange.after).Pairwise Ledger.Grows :=
  (h.pairwise Ledger.Grows.refl Ledger.Grows.trans
    fun e he => (h.held e he).lawful.grows).sublist (List.sublist_append_left _ _)

/-- A failure that is scheduled for one of the calls makes an exchange fail. -/
theorem exists_failure (h : Linked first exchanges last)
    (hstruck : first.StruckBy (exchanges.map fun e => e.ask.call)) :
    ∃ e ∈ exchanges, e.failure? ≠ none := by
  induction h with
  | nil =>
    obtain ⟨call, nth, -, hlow, hhigh⟩ := hstruck
    simp at hhigh
    omega
  | @cons e rest last hheld hrest ih =>
    rw [List.map_cons, ← List.singleton_append, Ledger.struckBy_append] at hstruck
    rcases hstruck with hhere | hlater
    · refine ⟨e, List.mem_cons_self, ?_⟩
      exact hheld.failure?_ne_none (Ledger.strikes_iff_struckBy.2 hhere)
    · have hafter : e.after.StruckBy (rest.map fun e => e.ask.call) :=
        (Ledger.struckBy_congr (b := e.before.heard [e.ask.call]) hheld.lawful.calls
          hheld.lawful.grows.failures).2 hlater
      obtain ⟨other, hother, hfailed⟩ := ih hafter
      exact ⟨other, List.mem_cons_of_mem _ hother, hfailed⟩

end Linked

end Tickwise
