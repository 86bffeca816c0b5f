import Tickwise.Proofs.Chain.Effect
import Tickwise.Proofs.Tick.Inverse

/-!
# What the calls of a chain in memory come to

Each call is recorded, then it fails if the schedule says so, and otherwise it answers from the
books or changes them.  One statement for each call says everything that it can do.

* `Ledger.Strikes`, `Ledger.StruckBy` — whether a scheduled failure falls on the next call, or on
  one of several; `Ledger.Spared` — that it fell on none;
* `Refused` — a failure that no rule of the library is the cause of;
* `run_token_cases` and its neighbours — the calls, one by one.
-/

namespace Tickwise

/-! ## Failures without a fault -/

/-- A result that failed for a reason outside the library's own rules. -/
def Refused {α : Type} (result : Except Failure α) : Prop :=
  ∃ failure, result = .error failure ∧ failure.fault? = none

@[simp] theorem refused_refusal {α : Type} (message : String) :
    Refused (.error (.refusal message) : Except Failure α) := ⟨_, rfl, rfl⟩

@[simp] theorem not_refused_ok {α : Type} (a : α) : ¬ Refused (.ok a) := by
  rintro ⟨failure, h, -⟩
  cases h

theorem refused_error_iff {α : Type} {failure : Failure} :
    Refused (.error failure : Except Failure α) ↔ failure.fault? = none := by
  constructor
  · rintro ⟨_, h, hfault⟩
    cases h
    exact hfault
  · intro h
    exact ⟨failure, rfl, h⟩

theorem Refused.mapError_within {α : Type} {result : Except Failure α} (h : Refused result)
    (context : String) : Refused (result.mapError (Failure.within context)) := by
  obtain ⟨failure, rfl, hfault⟩ := h
  exact ⟨failure.within context, rfl, hfault⟩

/-- Named work succeeds as it does without its name, or it fails with the name put before. -/
theorem Action.run_within_cases {σ α : Type} {context : String} {action : Action σ α}
    {session later : Session σ} {result : Except Failure α}
    (h : (action.within context).run session = (result, later)) :
    ∃ inner, action.run session = (inner, later) ∧
      result = inner.mapError (Failure.within context) := by
  rw [run_within] at h
  cases h
  exact ⟨_, rfl, rfl⟩

/-- Work in two parts, taken apart: what the first part comes to, and what follows from there. -/
theorem Action.run_bind_cases {σ α β : Type} {first : Action σ α} {next : α → Action σ β}
    {session last : Session σ} {result : Except Failure β}
    (h : (first >>= next).run session = (result, last)) :
    ∃ inner later, first.run session = (inner, later) ∧
      (match inner with
        | .ok a => (next a).run later
        | .error failure => (.error failure, later)) = (result, last) := by
  rw [run_bind] at h
  rcases hfirst : first.run session with ⟨inner, later⟩
  rw [hfirst] at h
  refine ⟨inner, later, rfl, ?_⟩
  cases inner <;> exact h

/-- The session with more calls in the record of its chain. -/
def Session.heard (calls : List Call) (session : Session Ledger) : Session Ledger :=
  { session with chain := session.chain.heard calls }

namespace Ledger

/-! ## Scheduled failures -/

/-- Whether the next call of a name is to fail. -/
def Strikes (call : Call) (ledger : Ledger) : Prop :=
  (call, ledger.count call + 1) ∈ ledger.failures

/-- Whether one of the next calls is to fail. -/
def StruckBy (calls : List Call) (ledger : Ledger) : Prop :=
  ∃ call nth, (call, nth) ∈ ledger.failures ∧ ledger.count call < nth ∧
    nth ≤ ledger.count call + calls.count call

/-- Whether none of the calls on the way from a ledger to a later one was made to fail. -/
def Spared (before after : Ledger) : Prop :=
  ∀ calls, after.calls = before.calls ++ calls → ¬ before.StruckBy calls

@[simp] theorem count_heard (calls : List Call) (ledger : Ledger) (call : Call) :
    (ledger.heard calls).count call = ledger.count call + calls.count call :=
  List.count_append

theorem strikes_iff_struckBy {call : Call} {ledger : Ledger} :
    ledger.Strikes call ↔ ledger.StruckBy [call] := by
  constructor
  · intro h
    exact ⟨call, _, h, Nat.lt_succ_self _, by simp⟩
  · rintro ⟨other, nth, hmem, hlow, hhigh⟩
    by_cases heq : call = other
    · subst heq
      rw [List.count_singleton_self] at hhigh
      obtain rfl : nth = ledger.count call + 1 := by omega
      exact hmem
    · rw [List.count_singleton, beq_false_of_ne heq] at hhigh
      simp at hhigh
      omega

/-- A failure among the calls of two stretches falls into the first or the second. -/
theorem struckBy_append {first second : List Call} {ledger : Ledger} :
    ledger.StruckBy (first ++ second) ↔
      ledger.StruckBy first ∨ (ledger.heard first).StruckBy second := by
  unfold StruckBy
  simp only [count_heard, List.count_append]
  constructor
  · rintro ⟨call, nth, hmem, hlow, hhigh⟩
    by_cases hfirst : nth ≤ ledger.count call + first.count call
    · exact .inl ⟨call, nth, hmem, hlow, hfirst⟩
    · exact .inr ⟨call, nth, hmem, not_le.1 hfirst, by omega⟩
  · rintro (⟨call, nth, hmem, hlow, hhigh⟩ | ⟨call, nth, hmem, hlow, hhigh⟩)
    · exact ⟨call, nth, hmem, hlow, by omega⟩
    · exact ⟨call, nth, hmem, by omega, by omega⟩

theorem StruckBy.prepend {first second : List Call} {ledger : Ledger}
    (h : (ledger.heard first).StruckBy second) : ledger.StruckBy (first ++ second) :=
  struckBy_append.2 (.inr h)

theorem Strikes.struckBy {call : Call} {ledger : Ledger} (h : ledger.Strikes call) :
    ledger.StruckBy [call] := strikes_iff_struckBy.1 h

/-- A failure of the call after some others is one among them all. -/
theorem Strikes.struckBy_append {calls : List Call} {call : Call} {ledger : Ledger}
    (h : (ledger.heard calls).Strikes call) : ledger.StruckBy (calls ++ [call]) :=
  h.struckBy.prepend

/-- A grant does not bear on the failures to come. -/
@[simp] theorem struckBy_granted {calls : List Call} {ledger : Ledger} {token spender : Address}
    {amount : ℕ} :
    (ledger.granted token spender amount).StruckBy calls ↔ ledger.StruckBy calls := by
  unfold granted
  split <;> exact Iff.rfl

/-! ## The calls -/

variable {session later : Session Ledger}

/-- A call is struck, or it does what it is for. -/
theorem run_call_cases {α : Type} {call : Call} {body : Action Ledger α}
    {result : Except Failure α}
    (h : (record call >>= fun _ => body).run session = (result, later)) :
    (session.chain.Strikes call ∧ Refused result ∧ later = session.heard [call]) ∨
      (¬ session.chain.Strikes call ∧ body.run (session.heard [call]) = (result, later)) := by
  have hnext : (session.chain.received call).count call = session.chain.count call + 1 :=
    (count_heard [call] _ _).trans (by simp)
  rw [Action.run_bind, run_record] at h
  simp only [hnext] at h
  by_cases hstrikes : session.chain.Strikes call
  · have hmem : (call, session.chain.count call + 1) ∈ (session.chain.received call).failures :=
      hstrikes
    rw [if_pos hmem] at h
    cases h
    exact .inl ⟨hstrikes, refused_refusal _, rfl⟩
  · have hmem : (call, session.chain.count call + 1) ∉ (session.chain.received call).failures :=
      hstrikes
    rw [if_neg hmem] at h
    exact .inr ⟨hstrikes, h⟩

theorem run_chainId_cases {result : Except Failure ℕ}
    (h : (Chain.chainId : Action Ledger ℕ).run session = (result, later)) :
    later = session.heard [.chainId] ∧
      (result = .ok session.chain.chainId ∨ Refused result ∧ session.chain.Strikes .chainId) := by
  obtain ⟨hstrikes, hrefused, rfl⟩ | ⟨-, hbody⟩ := run_call_cases h
  · exact ⟨rfl, .inr ⟨hrefused, hstrikes⟩⟩
  · cases hbody
    exact ⟨rfl, .inl rfl⟩

theorem run_found_cases {α : Type} {missing : String} {value : Option α}
    {result : Except Failure α} (h : (found missing value).run session = (result, later)) :
    later = session ∧
      ((∃ a, result = .ok a ∧ value = some a) ∨ Refused result ∧ value = none) := by
  cases value with
  | none =>
    cases h
    exact ⟨rfl, .inr ⟨refused_refusal _, rfl⟩⟩
  | some a =>
    cases h
    exact ⟨rfl, .inl ⟨a, rfl, rfl⟩⟩

theorem run_token_cases {address : Address} {result : Except Failure Token}
    (h : (Chain.token address : Action Ledger Token).run session = (result, later)) :
    later = session.heard [.token] ∧
      ((∃ token, result = .ok token ∧ Table.get? address session.chain.tokens = some token) ∨
        Refused result ∧
          (session.chain.Strikes .token ∨ Table.get? address session.chain.tokens = none)) := by
  obtain ⟨hstrikes, hrefused, rfl⟩ | ⟨-, hbody⟩ := run_call_cases h
  · exact ⟨rfl, .inr ⟨hrefused, .inl hstrikes⟩⟩
  · obtain ⟨rfl, hfound | ⟨hrefused, hnone⟩⟩ := run_found_cases hbody
    · exact ⟨rfl, .inl hfound⟩
    · exact ⟨rfl, .inr ⟨hrefused, .inr hnone⟩⟩

theorem run_poolAddress_cases {factory token0 token1 : Address} {fee : FeeTier}
    {result : Except Failure (Option Address)}
    (h : (Chain.poolAddress factory token0 token1 fee : Action Ledger _).run session =
      (result, later)) :
    later = session.heard [.poolAddress] ∧
      (result = .ok ((Table.get? ⟨token0, token1, fee⟩ session.chain.pools).map Pool.address) ∨
        Refused result ∧ session.chain.Strikes .poolAddress) := by
  obtain ⟨hstrikes, hrefused, rfl⟩ | ⟨-, hbody⟩ := run_call_cases h
  · exact ⟨rfl, .inr ⟨hrefused, hstrikes⟩⟩
  · cases hbody
    exact ⟨rfl, .inl rfl⟩

theorem run_poolState_cases {address : Address} {result : Except Failure Pool}
    (h : (Chain.poolState address : Action Ledger Pool).run session = (result, later)) :
    later = session.heard [.poolState] ∧
      ((∃ pool, result = .ok pool ∧ session.chain.poolAt? address = some pool) ∨
        Refused result ∧
          (session.chain.Strikes .poolState ∨ session.chain.poolAt? address = none)) := by
  obtain ⟨hstrikes, hrefused, rfl⟩ | ⟨-, hbody⟩ := run_call_cases h
  · exact ⟨rfl, .inr ⟨hrefused, .inl hstrikes⟩⟩
  · obtain ⟨rfl, hfound | ⟨hrefused, hnone⟩⟩ := run_found_cases hbody
    · exact ⟨rfl, .inl hfound⟩
    · exact ⟨rfl, .inr ⟨hrefused, .inr hnone⟩⟩

/-- With sorted tokens and a price that has a tick, a pool is created and priced. -/
theorem run_createPool {key : PoolKey} {tick : ℤ} {sqrtPrice : ℕ}
    (hsorted : key.token0 < key.token1) (htick : tickAtSqrtRatio sqrtPrice = .ok tick) :
    (createPool key sqrtPrice).run session =
      (.ok (session.chain.createdPool key).address,
        { session with chain := session.chain.priced key tick sqrtPrice }) := by
  rw [createPool, if_neg (not_not.2 hsorted)]
  by_cases h : (session.chain.createdPool key).isInitialized
  · have hpriced : session.chain.pricedPool key tick sqrtPrice = session.chain.createdPool key :=
      if_pos h
    have h' : ¬ ¬ (session.chain.createdPool key).isInitialized = true := not_not.2 h
    simp only [createdPool] at h'
    simp only [Action.run_bind, Action.run_chain, Action.run_change, if_neg h',
      Action.run_pure]
    rw [priced, hpriced]
    rfl
  · have hpriced : session.chain.pricedPool key tick sqrtPrice =
        { session.chain.createdPool key with tick, sqrtPrice } := if_neg h
    simp only [createdPool] at h
    simp only [Action.run_bind, Action.run_chain, Action.run_change, if_pos h,
      Action.run_calculate, htick, Except.mapError, Action.run_pure]
    rw [priced, hpriced]
    simp only [setPool, Table.put_put, createdPool]

/-- A creation does nothing, or leaves a pool that was there, or puts one without a price there, or
gives it the price; when it succeeds, that pool has a price and its address is answered. -/
theorem run_createPool_cases {key : PoolKey} {sqrtPrice : ℕ} {result : Except Failure Address}
    (h : (createPool key sqrtPrice).run session = (result, later)) :
    ((∃ failure, result = .error failure) ∧ later = session) ∨
      key.token0 < key.token1 ∧
        ((∃ tick, tickAtSqrtRatio sqrtPrice = .ok tick ∧
            result = .ok (session.chain.createdPool key).address ∧
            later.chain = session.chain.priced key tick sqrtPrice) ∨
          ((∃ failure, result = .error failure) ∨
              result = .ok (session.chain.createdPool key).address ∧
                (session.chain.createdPool key).isInitialized) ∧
            later.chain = session.chain.setPool key (session.chain.createdPool key)) := by
  by_cases hsorted : key.token0 < key.token1
  case neg =>
    rw [createPool, if_pos hsorted] at h
    cases h
    exact .inl ⟨⟨_, rfl⟩, rfl⟩
  refine .inr ⟨hsorted, ?_⟩
  cases htick : tickAtSqrtRatio sqrtPrice with
  | ok tick =>
    rw [run_createPool hsorted htick] at h
    cases h
    exact .inl ⟨tick, rfl, rfl, rfl⟩
  | error fault =>
    right
    rw [createPool, if_neg (not_not.2 hsorted), Action.run_bind, Action.run_chain] at h
    dsimp only at h
    rw [Action.run_bind, Action.run_change] at h
    dsimp only at h
    -- a price without a tick stops the creation only after the pool is put
    split at h
    · rw [Action.run_bind, Action.run_calculate, htick] at h
      cases h
      exact ⟨.inl ⟨_, rfl⟩, rfl⟩
    · rename_i hpriced
      cases h
      exact ⟨.inr ⟨rfl, not_not.1 hpriced⟩, rfl⟩

theorem run_createAndInitializePool_cases {manager token0 token1 : Address} {fee : FeeTier}
    {tick : ℤ} {sqrtPrice : ℕ} {result : Except Failure Address} (hsorted : token0 < token1)
    (htick : tickAtSqrtRatio sqrtPrice = .ok tick)
    (h : (Chain.createAndInitializePool manager token0 token1 fee sqrtPrice :
      Action Ledger Address).run session = (result, later)) :
    (Refused result ∧ session.chain.Strikes .createAndInitializePool ∧
        later = session.heard [.createAndInitializePool]) ∨
      (result = .ok (session.chain.createdPool ⟨token0, token1, fee⟩).address ∧
        later = { session with
          chain := (session.chain.priced ⟨token0, token1, fee⟩ tick sqrtPrice).heard
            [.createAndInitializePool] }) := by
  obtain ⟨hstrikes, hrefused, rfl⟩ | ⟨-, hbody⟩ := run_call_cases h
  · exact .inl ⟨hrefused, hstrikes, rfl⟩
  · rw [run_createPool hsorted htick] at hbody
    cases hbody
    exact .inr ⟨rfl, rfl⟩

theorem run_allowance_cases {token owner spender : Address} {result : Except Failure ℕ}
    (h : (Chain.allowance token owner spender : Action Ledger ℕ).run session = (result, later)) :
    later = session.heard [.allowance] ∧
      (result = .ok (session.chain.allowanceOf token owner spender) ∨
        Refused result ∧ session.chain.Strikes .allowance) := by
  obtain ⟨hstrikes, hrefused, rfl⟩ | ⟨-, hbody⟩ := run_call_cases h
  · exact ⟨rfl, .inr ⟨hrefused, hstrikes⟩⟩
  · cases hbody
    exact ⟨rfl, .inl rfl⟩

theorem run_approve_cases {token spender : Address} {amount : ℕ} {result : Except Failure TxHash}
    (h : (Chain.approve token spender amount : Action Ledger TxHash).run session =
      (result, later)) :
    (Refused result ∧ session.chain.Strikes .approve ∧ later = session.heard [.approve]) ∨
      ((∃ hash, result = .ok hash) ∧
        later = { session with
          chain := (session.chain.approved token spender amount).heard [.approve] }) := by
  obtain ⟨hstrikes, hrefused, rfl⟩ | ⟨-, hbody⟩ := run_call_cases h
  · exact .inl ⟨hrefused, hstrikes, rfl⟩
  · cases hbody
    exact .inr ⟨⟨_, rfl⟩, rfl⟩

/-- Whether the allowances cover a mint, and no minimum is above what is desired. -/
structure Covers (request : MintRequest) (ledger : Ledger) : Prop where
  allowance0 : request.amount0Desired ≤
    ledger.allowanceOf request.token0 owner request.positionManager
  allowance1 : request.amount1Desired ≤
    ledger.allowanceOf request.token1 owner request.positionManager
  minimum0 : request.amount0Min ≤ request.amount0Desired
  minimum1 : request.amount1Min ≤ request.amount1Desired

theorem Covers.heard {request : MintRequest} {ledger : Ledger} (h : ledger.Covers request)
    (calls : List Call) : (ledger.heard calls).Covers request :=
  ⟨h.allowance0, h.allowance1, h.minimum0, h.minimum1⟩

/-- What a mint reports. -/
def receipt (request : MintRequest) (ledger : Ledger) : MintReceipt :=
  { txHash := ⟨(0xF0 + (ledger.mints.length + 1)) % 256⟩
    tokenId := ledger.mints.length + 1
    liquidity := 0
    amount0 := request.amount0Desired
    amount1 := request.amount1Desired }

theorem run_checkSide {manager token : Address} {desired minimum : ℕ}
    (hallowance : desired ≤ session.chain.allowanceOf token owner manager)
    (hminimum : minimum ≤ desired) :
    (checkSide manager token desired minimum).run session = (.ok (), session) := by
  rw [checkSide, Action.run_bind, Action.run_chain]
  simp only [if_neg (not_lt.2 hallowance), if_neg (not_lt.2 hminimum)]
  rfl

/-- A mint that is covered fails only if it is struck. -/
theorem run_mint_cases {request : MintRequest} {result : Except Failure MintReceipt}
    (hcovers : session.chain.Covers request)
    (h : (Chain.mint request : Action Ledger MintReceipt).run session = (result, later)) :
    (Refused result ∧ session.chain.Strikes .mint ∧ later = session.heard [.mint]) ∨
      (result = .ok (session.chain.receipt request) ∧
        later = { session with chain := (session.chain.minted request).heard [.mint] }) := by
  obtain ⟨hstrikes, hrefused, rfl⟩ | ⟨-, hbody⟩ := run_call_cases h
  · exact .inl ⟨hrefused, hstrikes, rfl⟩
  · have h0 : (checkSide request.positionManager request.token0 request.amount0Desired
        request.amount0Min).run (session.heard [.mint]) = (.ok (), session.heard [.mint]) :=
      run_checkSide hcovers.allowance0 hcovers.minimum0
    have h1 : (checkSide request.positionManager request.token1 request.amount1Desired
        request.amount1Min).run (session.heard [.mint]) = (.ok (), session.heard [.mint]) :=
      run_checkSide hcovers.allowance1 hcovers.minimum1
    rw [makeMint, Action.run_bind_of_ok h0, Action.run_bind_of_ok h1] at hbody
    cases hbody
    refine .inr ⟨?_, rfl⟩
    simp [receipt, Session.heard, heard]

end Ledger

end Tickwise
