import Mathlib
import Tickwise.Chain.Ledger
import Tickwise.Provision.Progress

/-!
# What transactions change in a ledger

The effect of each kind of transaction, as a function of ledgers.  The record of calls and the
schedule of failures are kept out of it: what a ledger holds beside them are its books.

* `Ledger.books`, `Ledger.heard` — the ledger without its record, and with a longer one;
* `Ledger.standing` — where the pool of a key stands;
* `Ledger.priced`, `Ledger.granted`, `Ledger.minted` — a pool with a price, an allowance that
  covers an amount, a mint;
* `priced_of_isInitialized`, `granted_of_le` — where there is nothing left to do, nothing changes.
-/

namespace Tickwise

theorem Table.put_put {κ α : Type} [DecidableEq κ] (key : κ) (a b : α) (table : Table κ α) :
    put key b (put key a table) = put key b table := by
  induction table with
  | nil => simp [put]
  | cons entry rest ih =>
    by_cases h : entry.1 = key
    · simp [put, h]
    · simp [put, h, ih]

theorem Table.mem_of_get? {κ α : Type} [DecidableEq κ] {key : κ} {a : α} {table : Table κ α}
    (h : get? key table = some a) : (key, a) ∈ table := by
  induction table with
  | nil => cases h
  | cons entry rest ih =>
    by_cases hkey : entry.1 = key
    · simp only [get?, hkey, if_true, Option.some.injEq] at h
      simp [← hkey, ← h]
    · simp only [get?, hkey, if_false] at h
      exact List.mem_cons_of_mem _ (ih h)

namespace Ledger

/-! ## Books and record -/

/-- What a ledger holds beside its record of calls and its schedule of failures. -/
def books (ledger : Ledger) : Ledger := { ledger with calls := [], failures := [] }

/-- The ledger with more calls in its record. -/
def heard (calls : List Call) (ledger : Ledger) : Ledger :=
  { ledger with calls := ledger.calls ++ calls }

@[simp] theorem books_heard (calls : List Call) (ledger : Ledger) :
    (ledger.heard calls).books = ledger.books := rfl

@[simp] theorem heard_heard (first second : List Call) (ledger : Ledger) :
    (ledger.heard first).heard second = ledger.heard (first ++ second) := by
  simp [heard, List.append_assoc]

@[simp] theorem heard_nil (ledger : Ledger) : ledger.heard [] = ledger := by
  simp [heard]

/-- Two ledgers with the same in each of their books. -/
structure Agree (a b : Ledger) : Prop where
  chainId : a.chainId = b.chainId
  tokens : a.tokens = b.tokens
  pools : a.pools = b.pools
  allowances : a.allowances = b.allowances
  approvals : a.approvals = b.approvals
  mints : a.mints = b.mints

theorem agree_of_books_eq {a b : Ledger} (h : a.books = b.books) : Agree a b := by
  injection h with hchainId htokens hpools hallowances happrovals hmints
  exact ⟨hchainId, htokens, hpools, hallowances, happrovals, hmints⟩

/-! ## Finding a pool -/

/-- Where the pool of a key stands. -/
def standing (key : PoolKey) (ledger : Ledger) : Progress :=
  match (Table.get? key ledger.pools).bind fun pool => ledger.poolAt? pool.address with
  | some pool => if pool.isInitialized then .initialized pool else .notFound
  | none => .notFound

theorem standing_eq_of_books_eq {a b : Ledger} (h : a.books = b.books) (key : PoolKey) :
    a.standing key = b.standing key := by
  unfold standing poolAt?
  rw [(agree_of_books_eq h).pools]

/-- There is a pool at the address of every pool. -/
theorem exists_poolAt?_of_get? {ledger : Ledger} {key : PoolKey} {pool : Pool}
    (h : Table.get? key ledger.pools = some pool) :
    ∃ found, ledger.poolAt? pool.address = some found := by
  refine Option.isSome_iff_exists.1 (List.find?_isSome.2 ⟨pool, ?_, by simp⟩)
  exact List.mem_map.2 ⟨(key, pool), Table.mem_of_get? h, rfl⟩

/-- A pool is found with a price or not at all. -/
theorem standing_cases (key : PoolKey) (ledger : Ledger) :
    ledger.standing key = .notFound ∨ ∃ entry pool, Table.get? key ledger.pools = some entry ∧
      ledger.poolAt? entry.address = some pool ∧ pool.isInitialized ∧
      ledger.standing key = .initialized pool := by
  cases hget : Table.get? key ledger.pools with
  | none =>
    left
    simp [standing, hget]
  | some entry =>
    obtain ⟨pool, hat⟩ := exists_poolAt?_of_get? hget
    by_cases hpriced : pool.isInitialized
    · exact .inr ⟨entry, pool, rfl, hat, hpriced, by simp [standing, hget, hat, hpriced]⟩
    · left
      simp [standing, hget, hat, hpriced]

/-! ## Giving a pool its price -/

/-- The pool of a key after it was created, unless there was one. -/
def createdPool (key : PoolKey) (ledger : Ledger) : Pool :=
  (Table.get? key ledger.pools).getD (ledger.unpricedPool key.fee)

/-- Unless a pool of the key has a price, the pool that is there after the creation has none. -/
theorem not_isInitialized_createdPool {key : PoolKey} {ledger : Ledger}
    (h : ∀ pool, Table.get? key ledger.pools = some pool → ¬ pool.isInitialized) :
    ¬ (ledger.createdPool key).isInitialized := by
  unfold createdPool
  cases hget : Table.get? key ledger.pools with
  | none => exact fun hpriced => Pool.isInitialized_iff.1 hpriced rfl
  | some pool => exact h pool hget

/-- The pool of a key after it was created and priced: one that has a price keeps it. -/
def pricedPool (key : PoolKey) (tick : ℤ) (sqrtPrice : ℕ) (ledger : Ledger) : Pool :=
  if (ledger.createdPool key).isInitialized then ledger.createdPool key
  else { ledger.createdPool key with tick, sqrtPrice }

/-- The ledger after the pool of a key was created and priced. -/
def priced (key : PoolKey) (tick : ℤ) (sqrtPrice : ℕ) (ledger : Ledger) : Ledger :=
  ledger.setPool key (ledger.pricedPool key tick sqrtPrice)

section Priced

variable {key : PoolKey} {tick : ℤ} {sqrtPrice : ℕ} {ledger : Ledger}

@[simp] theorem books_priced : (ledger.priced key tick sqrtPrice).books =
    ledger.books.priced key tick sqrtPrice := rfl

@[simp] theorem heard_priced (calls : List Call) :
    (ledger.heard calls).priced key tick sqrtPrice =
      (ledger.priced key tick sqrtPrice).heard calls := rfl

theorem get?_pools_priced : Table.get? key (ledger.priced key tick sqrtPrice).pools =
    some (ledger.pricedPool key tick sqrtPrice) :=
  Table.get?_put_self _ _ _

/-- The pool has a price after that. -/
theorem isInitialized_pricedPool (h : sqrtPrice ≠ 0) :
    (ledger.pricedPool key tick sqrtPrice).isInitialized := by
  unfold pricedPool
  split
  · assumption
  · exact Pool.isInitialized_iff.2 h

/-- A pool without a price is given it. -/
theorem pricedPool_of_not_isInitialized (h : ¬ (ledger.createdPool key).isInitialized) :
    ledger.pricedPool key tick sqrtPrice =
      { ledger.createdPool key with tick, sqrtPrice } := if_neg h

/-- A pool that has a price is left as it is. -/
theorem priced_of_isInitialized {pool : Pool} (hget : Table.get? key ledger.pools = some pool)
    (h : pool.isInitialized) : ledger.priced key tick sqrtPrice = ledger := by
  have hpool : ledger.pricedPool key tick sqrtPrice = pool := by
    simp [pricedPool, createdPool, hget, h]
  rw [priced, hpool, setPool, Table.put_of_get? hget]

/-- A pool that has no price is changed. -/
theorem pools_priced_ne (hprice : sqrtPrice ≠ 0)
    (h : ∀ pool, Table.get? key ledger.pools = some pool → ¬ pool.isInitialized) :
    (ledger.priced key tick sqrtPrice).pools ≠ ledger.pools := by
  intro heq
  have hget : Table.get? key ledger.pools = some (ledger.pricedPool key tick sqrtPrice) := by
    rw [← heq]
    exact get?_pools_priced
  exact h _ hget (isInitialized_pricedPool hprice)

@[simp] theorem address_pricedPool :
    (ledger.pricedPool key tick sqrtPrice).address = (ledger.createdPool key).address := by
  unfold pricedPool
  split <;> rfl

/-- The pool can be read back at its address. -/
theorem exists_poolAt?_priced : ∃ found,
    (ledger.priced key tick sqrtPrice).poolAt? (ledger.createdPool key).address = some found := by
  rw [← address_pricedPool]
  exact exists_poolAt?_of_get? get?_pools_priced

end Priced

/-! ## Granting an allowance -/

/-- The ledger after an approval was sent. -/
def approved (token spender : Address) (amount : ℕ) (ledger : Ledger) : Ledger :=
  { ledger.setAllowance token spender amount with
    approvals := ledger.approvals ++ [⟨token, spender, amount⟩] }

/-- The ledger after a spender was allowed to take any amount of a token, unless it might take
the given amount before. -/
def granted (token spender : Address) (amount : ℕ) (ledger : Ledger) : Ledger :=
  if amount ≤ ledger.allowanceOf token owner spender then ledger
  else ledger.approved token spender maxWord

/-- A grant bears on allowances and approvals alone. -/
theorem granted_eq (token spender : Address) (amount : ℕ) (ledger : Ledger) :
    ∃ allowances approvals,
      ledger.granted token spender amount = { ledger with allowances, approvals } := by
  unfold granted
  split
  · exact ⟨_, _, rfl⟩
  · exact ⟨_, _, rfl⟩

section Granted

variable {token spender : Address} {amount : ℕ} {ledger : Ledger}

@[simp] theorem books_granted :
    (ledger.granted token spender amount).books = ledger.books.granted token spender amount := by
  unfold granted
  change books (ite _ _ _) = if amount ≤ ledger.allowanceOf token owner spender then _ else _
  split <;> rfl

@[simp] theorem heard_granted (calls : List Call) :
    (ledger.heard calls).granted token spender amount =
      (ledger.granted token spender amount).heard calls := by
  unfold granted
  change (if amount ≤ ledger.allowanceOf token owner spender then _ else _) =
    heard calls (ite _ _ _)
  split <;> rfl

/-- An allowance that covers the amount is left as it is. -/
theorem granted_of_le (h : amount ≤ ledger.allowanceOf token owner spender) :
    ledger.granted token spender amount = ledger := if_pos h

theorem granted_of_lt (h : ledger.allowanceOf token owner spender < amount) :
    ledger.granted token spender amount = ledger.approved token spender maxWord :=
  if_neg (not_le.2 h)

/-- Afterwards the amount is covered. -/
theorem le_allowanceOf_granted (h : amount ≤ maxWord) :
    amount ≤ (ledger.granted token spender amount).allowanceOf token owner spender := by
  unfold granted
  split
  · assumption
  · exact h.trans_eq (allowanceOf_setAllowance ledger token spender maxWord).symm

theorem granted_granted (h : amount ≤ maxWord) :
    (ledger.granted token spender amount).granted token spender amount =
      ledger.granted token spender amount :=
  granted_of_le (le_allowanceOf_granted h)

/-- No allowance is lowered by a grant. -/
theorem allowanceOf_le_granted (h : amount ≤ maxWord) (key : AllowanceKey) :
    ledger.allowanceOf key.token key.owner key.spender ≤
      (ledger.granted token spender amount).allowanceOf key.token key.owner key.spender := by
  unfold granted
  split
  · exact le_rfl
  · rename_i hlow
    change _ ≤ (ledger.setAllowance token spender maxWord).allowanceOf _ _ _
    by_cases hkey : key = ⟨token, owner, spender⟩
    · subst hkey
      rw [allowanceOf_setAllowance]
      exact (not_le.1 hlow).le.trans h
    · rw [allowanceOf_setAllowance_of_ne hkey]

end Granted

/-! ## Minting -/

/-- The ledger after a mint. -/
def minted (request : MintRequest) (ledger : Ledger) : Ledger :=
  { ledger with mints := ledger.mints ++ [request] }

@[simp] theorem books_minted (request : MintRequest) (ledger : Ledger) :
    (ledger.minted request).books = ledger.books.minted request := rfl

@[simp] theorem heard_minted (calls : List Call) (request : MintRequest) (ledger : Ledger) :
    (ledger.heard calls).minted request = (ledger.minted request).heard calls := rfl

end Ledger

end Tickwise
