import Tickwise.Proofs.Chain.Consistent
import Tickwise.Proofs.Provision.Report

/-!
# Ledgers that provisions lead to

Tokens are added, pools are seeded, allowances are set, failures are scheduled and requests are
provisioned, in any order and with any failures.  From a ledger without pools, this leads to
ledgers with consistent pools only; and since a position is sized against such a pool, no mint
takes more than its request gives.

* `MintRequest.Within` — a mint that keeps to an amount;
* `Reached` — the ledgers that a start leads to, with the deposits that were made;
* `Reached.consistent`, `Reached.numbered`, `Reached.mints` — what every step keeps;
* `within_of_mem_deposits` — what a single provision mints;
* `reached_consistent` — consistent pools and deposits that keep to their requests.
-/

namespace Tickwise

/-- What a mint desires of a token. -/
def MintRequest.desiredOf (mint : MintRequest) (token : Address) : Option ℕ :=
  if token = mint.token0 then some mint.amount0Desired
  else if token = mint.token1 then some mint.amount1Desired
  else none

/-- Whether a mint desires no more of a token than a text says in the token's units. -/
def MintRequest.Within (mint : MintRequest) (token : Token) (text : String) : Prop :=
  ∃ amount desired, token.parseUnits text = .ok amount ∧
    mint.desiredOf token.address = some desired ∧ desired ≤ amount

namespace Ledger

variable {ledger after : Ledger}

theorem NamesTokens.addToken (h : ledger.NamesTokens) (token : Token) :
    (ledger.addToken token).NamesTokens := by
  intro address found hget
  by_cases haddress : address = token.address
  · subst haddress
    rw [Ledger.addToken, Table.get?_put_self] at hget
    cases hget
    rfl
  · rw [Ledger.addToken, Table.get?_put_of_ne haddress] at hget
    exact h address found hget

theorem NamesTokens.of_tokens_eq (h : ledger.NamesTokens) (hsame : after.tokens = ledger.tokens) :
    after.NamesTokens := by
  unfold NamesTokens
  rw [hsame]
  exact h

/-- A seeded pool is one more. -/
theorem length_pools_seedPool {key : PoolKey} (hnew : Table.get? key ledger.pools = none) :
    (ledger.seedPool key).pools.length = ledger.pools.length + 1 := by
  change (Table.put key _ ledger.pools).length = _
  rw [Table.put_of_get?_eq_none hnew, List.length_append, List.length_singleton]

end Ledger

/-- A mint that was made for a request, with the tokens that the ledger knew then. -/
structure Deposit where
  request : PoolRequest
  tokens : Table Address Token
  mint : MintRequest

namespace Provisioner

variable {p : Provisioner} {request : PoolRequest} {session later : Session Ledger}
  {start ledger : Ledger} {made : List Deposit}

/-- The mints that were made for a request, between the ledger before and the one after. -/
def deposits (request : PoolRequest) (before after : Ledger) : List Deposit :=
  (after.mints.drop before.mints.length).map fun mint => ⟨request, before.tokens, mint⟩

/-- The ledgers that a start leads to, with the deposits that were made on the way.  Every
provision may be that of another provisioner, by a clock and with a journal as they may be. -/
inductive Reached (start : Ledger) : List Deposit → Ledger → Prop
  | start : Reached start [] start
  | addToken {made : List Deposit} {ledger : Ledger} (h : Reached start made ledger)
    (token : Token) : Reached start made (ledger.addToken token)
  /-- A pool without a price is seeded under a sorted key that has none. -/
  | seedPool {made : List Deposit} {ledger : Ledger} (h : Reached start made ledger)
    {key : PoolKey} (hsorted : key.token0 < key.token1)
    (hnew : Table.get? key ledger.pools = none) : Reached start made (ledger.seedPool key)
  | setAllowance {made : List Deposit} {ledger : Ledger} (h : Reached start made ledger)
    (token spender : Address) (amount : ℕ) :
    Reached start made (ledger.setAllowance token spender amount)
  | failOn {made : List Deposit} {ledger : Ledger} (h : Reached start made ledger) (call : Call)
    (nth : ℕ) : Reached start made (ledger.failOn call nth)
  | provision {made : List Deposit} {session later : Session Ledger} {p : Provisioner}
    {request : PoolRequest} {result : Except Failure Outcome}
    (h : Reached start made session.chain)
    (hrun : (p.provision request : Action Ledger Outcome).run session = (result, later)) :
    Reached start (made ++ deposits request session.chain later.chain) later.chain

/-! ## What a provision keeps -/

theorem Opened.consistent {plan : Plan} {before opened : Ledger} {pool : Pool}
    (h : Opened plan before opened pool) (hbefore : before.Consistent) : opened.Consistent := by
  cases h with
  | found => exact hbefore
  | created _ htick _ => exact hbefore.priced plan.pair.sorted htick

theorem map_mint_deposits {before after : Ledger} {mints : List MintRequest}
    (h : after.mints = before.mints ++ mints) :
    (deposits request before after).map Deposit.mint = mints := by
  rw [deposits, h, List.drop_left, List.map_map]
  exact List.map_id _

/-- The mint of a position desires of each token what the position takes of it. -/
theorem desiredOf_mintAt {manager token : Address} {position : Position} {deadline fixed : ℕ}
    (h : position.amountOf token = .ok fixed) :
    (p.mintAt manager position deadline).desiredOf token = some fixed := by
  change (if token = position.token0.address then some position.amounts.amount0
    else if token = position.token1.address then some position.amounts.amount1
    else none) = some fixed
  unfold Position.amountOf at h
  split_ifs at h ⊢
  · rw [Except.ok.inj h]
  · rw [Except.ok.inj h]

/-- **A provision from consistent pools mints no more than its request gives.** -/
theorem within_of_mem_deposits {result : Except Failure Outcome}
    (hrun : (p.provision request : Action Ledger Outcome).run session = (result, later))
    (hconsistent : session.chain.Consistent) (hnumbered : session.chain.Numbered)
    (hfew : later.chain.pools.length < 96) {d : Deposit}
    (hd : d ∈ deposits request session.chain later.chain) :
    ∃ plan, Planned request session.chain.tokens plan ∧ d.request = request ∧
      d.tokens = session.chain.tokens ∧ d.mint.Within plan.input request.inputAmount := by
  cases result with
  | error failure =>
    obtain ⟨hok, -⟩ | ⟨-, hmints⟩ := (run_provision hrun).mints
    · cases hok
    · rw [deposits, hmints, List.drop_length] at hd
      cases hd
  | ok outcome =>
    obtain ⟨plan, manager, opened, pool, position, deadline, hready, hopened, hsized, -, hpools,
      hmints, -⟩ := (run_provision hrun).of_ok
    rw [hpools] at hfew
    have hdistinct := (hopened.numbered hnumbered).distinct hfew.le
    obtain ⟨hget, hprice⟩ := hopened.settled hdistinct
      (pos_of_isInitializable hready.planned.isInitializable).ne'
    have hmatch := ((hopened.consistent hconsistent).of_get? hget).priceMatchesTick hprice
    obtain ⟨amount, fixed, hamount, hfixed, hle⟩ := amountOf_le hmatch hsized
    rw [deposits, hmints, List.drop_left, List.map_singleton, List.mem_singleton] at hd
    subst hd
    refine ⟨plan, hready.planned, rfl, rfl, ?_⟩
    rw [← hready.planned.inputAmount]
    exact ⟨amount, fixed, hamount, desiredOf_mintAt hfixed, hle⟩

/-! ## What every step keeps -/

theorem Reached.consistent (h : Reached start made ledger) (hstart : start.pools = []) :
    ledger.Consistent := by
  induction h with
  | start =>
    intro entry hentry
    rw [hstart] at hentry
    cases hentry
  | addToken _ token ih => exact ih.of_pools_eq rfl
  | seedPool _ hsorted hnew ih => exact ih.setPool (Ledger.consistent_unpricedPool hsorted)
  | setAllowance _ token spender amount ih => exact ih.of_pools_eq rfl
  | failOn _ call nth ih => exact ih.of_pools_eq rfl
  | provision _ hrun ih => exact ((follows_provision _ _).linked_said hrun).consistent ih

theorem Reached.numbered (h : Reached start made ledger) (hstart : start.pools = []) :
    ledger.Numbered := by
  induction h with
  | start => exact (Ledger.Built.empty hstart).numbered
  | addToken _ token ih => exact ih.of_pools_eq rfl
  | @seedPool made ledger _ key _ hnew ih =>
    refine ih.setPool ?_
    rw [Ledger.createdPool, hnew]
    rfl
  | setAllowance _ token spender amount ih => exact ih.of_pools_eq rfl
  | failOn _ call nth ih => exact ih.of_pools_eq rfl
  | provision _ hrun ih => exact ((follows_provision _ _).linked_said hrun).numbered ih

theorem Reached.namesTokens (h : Reached start made ledger) (hstart : start.NamesTokens) :
    ledger.NamesTokens := by
  induction h with
  | start => exact hstart
  | addToken _ token ih => exact ih.addToken token
  | seedPool _ _ _ ih => exact ih.of_tokens_eq rfl
  | setAllowance _ token spender amount ih => exact ih.of_tokens_eq rfl
  | failOn _ call nth ih => exact ih.of_tokens_eq rfl
  | provision _ hrun ih =>
    exact ih.of_tokens_eq ((follows_provision _ _).linked_said hrun).grows.tokens

/-- The deposits are all the mints there are. -/
theorem Reached.mints (h : Reached start made ledger) :
    ledger.mints = start.mints ++ made.map Deposit.mint := by
  induction h with
  | start => exact (List.append_nil _).symm
  | addToken _ token ih => exact ih
  | seedPool _ _ _ ih => exact ih
  | setAllowance _ token spender amount ih => exact ih
  | failOn _ call nth ih => exact ih
  | provision _ hrun ih =>
    have hmints := ((follows_provision _ _).linked_said hrun).mints
    rw [List.map_append, map_mint_deposits hmints, ← List.append_assoc, ← ih, hmints]

/-- Every deposit keeps to its request. -/
theorem Reached.within (h : Reached start made ledger) (hstart : start.pools = [])
    (hfew : ledger.pools.length < 96) :
    ∀ d ∈ made, ∃ plan, Planned d.request d.tokens plan ∧
      d.mint.Within plan.input d.request.inputAmount ∧
      (start.NamesTokens → Table.get? d.request.inputToken d.tokens = some plan.input ∧
        plan.input.address = d.request.inputToken) := by
  induction h with
  | start => exact fun d hd => by cases hd
  | addToken _ token ih => exact ih hfew
  | seedPool _ _ hnew ih =>
    rw [Ledger.length_pools_seedPool hnew] at hfew
    exact ih (by omega)
  | setAllowance _ token spender amount ih => exact ih hfew
  | failOn _ call nth ih => exact ih hfew
  | @provision made session later p request result h hrun ih =>
    intro d hd
    have hlength := ((follows_provision _ _).linked_said hrun).grows.length_pools
    rcases List.mem_append.1 hd with hearlier | hlast
    · exact ih (by omega) d hearlier
    · obtain ⟨plan, hplanned, hrequest, htokens, hwithin⟩ :=
        within_of_mem_deposits hrun (h.consistent hstart) (h.numbered hstart) hfew hlast
      rw [hrequest, htokens]
      refine ⟨plan, hplanned, hwithin, fun hnames => ?_⟩
      exact hplanned.input_eq (hplanned.named (h.namesTokens hnames))

/-- **Pools stay consistent, and no deposit exceeds its request.**  Whatever a ledger without pools
leads to, with whichever calls made to fail: every pool has sorted tokens, the fee and the spacing
of its tier, and no price and the tick zero or else a price that belongs to its tick.  All the
mints on the way were made for requests, and as long as the addresses of pools do not run out,
each of them desires no more of the deposited token than its request gives. -/
theorem reached_consistent (hstart : start.pools = []) (h : Reached start made ledger) :
    ledger.Consistent ∧ ledger.mints = start.mints ++ made.map Deposit.mint ∧
      (ledger.pools.length < 96 → ∀ d ∈ made, ∃ plan, Planned d.request d.tokens plan ∧
        d.mint.Within plan.input d.request.inputAmount ∧
        (start.NamesTokens → Table.get? d.request.inputToken d.tokens = some plan.input ∧
          plan.input.address = d.request.inputToken)) :=
  ⟨h.consistent hstart, h.mints, h.within hstart⟩

/-- The sample request is a step from any ledger. -/
theorem Reached.sampleRun (h : Reached start made ledger) (amount : String) :
    Reached start
      (made ++ deposits (sampleRequest amount) ledger (sampleRun amount ledger).2.chain)
      (sampleRun amount ledger).2.chain := by
  have hrun : (sample.provision (sampleRequest amount) : Action Ledger Outcome).run
      ⟨ledger, 0, []⟩ =
        ((Provisioner.sampleRun amount ledger).1, (Provisioner.sampleRun amount ledger).2) := rfl
  exact .provision h hrun

/-- The sample request is made to fail once, and then leads to one deposit. -/
theorem reached_consistent_sample :
    ∃ d ledger, Reached sampleLedger [d] ledger ∧ sampleLedger.pools = [] ∧
      ledger.pools.length = 1 ∧ ledger.Consistent ∧
      ∃ plan, Planned d.request d.tokens plan ∧
        d.mint.Within plan.input d.request.inputAmount := by
  let first := (sampleRun "1000000" (sampleLedger.failOn .approve 1)).2.chain
  let second := (sampleRun "1000000" first).2.chain
  have hone : ([] ++ deposits (sampleRequest "1000000") (sampleLedger.failOn .approve 1) first ++
      deposits (sampleRequest "1000000") first second).length = 1 := by
    decide +kernel
  have hpools : second.pools.length = 1 := by
    decide +kernel
  obtain ⟨d, hd⟩ := List.length_eq_one_iff.1 hone
  have hstart : Reached sampleLedger [] sampleLedger := .start
  have hreached := ((hstart.failOn .approve 1).sampleRun "1000000").sampleRun "1000000"
  rw [hd] at hreached
  obtain ⟨hconsistent, -, hwithin⟩ := reached_consistent rfl hreached
  obtain ⟨plan, hplanned, hle, -⟩ :=
    hwithin (hpools.trans_lt (by decide)) d (List.mem_singleton_self d)
  exact ⟨d, second, hreached, rfl, hpools, hconsistent, plan, hplanned, hle⟩

end Provisioner

end Tickwise
