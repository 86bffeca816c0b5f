import Tickwise.Proofs.Chain.Calls

/-!
# The addresses of pools and of tokens

A pool gets the next number as its address when it is created, and keeps it.  So a ledger whose
pools all came to be that way has its pools numbered in order, and as long as the numbers do not
run out, every pool is found at its own address.

* `Ledger.Built` — pools that came to be by creating and by seeding;
* `Built.numbered` — such pools are numbered in order;
* `Distinct.poolAt?_eq` — where addresses do not repeat, a pool is the one at its address;
* `DistinctWithNext.priced` — and so it is after one more pool was created;
* `Ledger.NamesTokens` — tokens that stand under their own addresses.
-/

namespace Tickwise

namespace Table

variable {κ α : Type} [DecidableEq κ]

/-- A value for a new key goes to the end. -/
theorem put_of_get?_eq_none {key : κ} {a : α} {table : Table κ α} (h : get? key table = none) :
    put key a table = table ++ [(key, a)] := by
  induction table with
  | nil => rfl
  | cons entry rest ih =>
    by_cases hkey : entry.1 = key
    · simp [get?, hkey] at h
    · simp only [get?, hkey, if_false] at h
      simp [put, hkey, ih h]

/-- A value that agrees with the one before it in some respect leaves the table as it is in that
respect. -/
theorem map_put_of_get?_eq_some {β : Type} (f : α → β) {key : κ} {a b : α} {table : Table κ α}
    (h : get? key table = some a) (hab : f b = f a) :
    (put key b table).map (fun entry => f entry.2) = table.map fun entry => f entry.2 := by
  induction table with
  | nil => cases h
  | cons entry rest ih =>
    by_cases hkey : entry.1 = key
    · simp only [get?, hkey, if_true, Option.some.injEq] at h
      simp [put, hkey, hab, h]
    · simp only [get?, hkey, if_false] at h
      simp [put, hkey, ih h]

end Table

namespace Ledger

/-- The address with a number. -/
def numberedAddress (i : ℕ) : Address := Address.ofNat ((0xA0 + i) % 256)

/-- Whether the pools have the addresses in order. -/
def Numbered (ledger : Ledger) : Prop :=
  ledger.pools.map (fun entry => entry.2.address) =
    (List.range ledger.pools.length).map numberedAddress

/-- A pool under a key, at the address of the pool that the key has or would get, adds its address
behind the others if the key is new, and otherwise none. -/
theorem addresses_setPool {ledger : Ledger} {key : PoolKey} {pool : Pool}
    (haddress : pool.address = (ledger.createdPool key).address) :
    (ledger.setPool key pool).pools.map (fun entry => entry.2.address) =
      ledger.pools.map (fun entry => entry.2.address) ++
        if Table.get? key ledger.pools = none then [ledger.nextPoolAddress] else [] := by
  change (Table.put key pool ledger.pools).map _ = _
  cases hget : Table.get? key ledger.pools with
  | none =>
    have hnext : pool.address = ledger.nextPoolAddress := by
      rw [haddress, createdPool, hget]
      rfl
    rw [Table.put_of_get?_eq_none hget, List.map_append, if_pos rfl, ← hnext]
    rfl
  | some entry =>
    have hkept : pool.address = entry.address := by
      rw [haddress, createdPool, hget]
      rfl
    rw [Table.map_put_of_get?_eq_some Pool.address hget hkept, if_neg (Option.some_ne_none _),
      List.append_nil]

/-- A pool under a key, at the address of the pool that the key has or would get, keeps the
addresses in order. -/
theorem Numbered.setPool {ledger : Ledger} (h : ledger.Numbered) {key : PoolKey} {pool : Pool}
    (haddress : pool.address = (ledger.createdPool key).address) :
    (ledger.setPool key pool).Numbered := by
  have haddresses := addresses_setPool haddress
  have hlength := congrArg List.length haddresses
  unfold Numbered
  rw [haddresses, h]
  split at hlength
  · rename_i hnew
    rw [List.length_append, List.length_map, List.length_map, List.length_singleton] at hlength
    rw [if_pos hnew, hlength, List.range_succ, List.map_append]
    rfl
  · rename_i hold
    rw [List.append_nil, List.length_map, List.length_map] at hlength
    rw [if_neg hold, hlength, List.append_nil]

theorem Numbered.of_pools_eq {ledger after : Ledger} (h : ledger.Numbered)
    (hsame : after.pools = ledger.pools) : after.Numbered := by
  unfold Numbered
  rw [hsame]
  exact h

theorem Numbered.priced {ledger : Ledger} (h : ledger.Numbered) (key : PoolKey) (tick : ℤ)
    (sqrtPrice : ℕ) : (ledger.priced key tick sqrtPrice).Numbered :=
  h.setPool address_pricedPool

/-- Whether no two pools share an address. -/
def Distinct (ledger : Ledger) : Prop := (ledger.pools.map fun entry => entry.2.address).Nodup

/-- Addresses do not repeat before their numbers run out. -/
theorem Numbered.distinct {ledger : Ledger} (h : ledger.Numbered)
    (hfew : ledger.pools.length ≤ 96) : ledger.Distinct := by
  rw [Distinct, h]
  refine List.Nodup.map_on ?_ List.nodup_range
  intro i hi j hj heq
  rw [List.mem_range] at hi hj
  have hnat := congrArg Address.toNat heq
  have hsmall : ∀ n < 96, (numberedAddress n).toNat = 0xA0 + n := by
    intro n hn
    rw [numberedAddress, Address.toNat_ofNat, Nat.mod_eq_of_lt (by omega : 0xA0 + n < 256)]
    exact Nat.mod_eq_of_lt (lt_of_lt_of_le (by omega : 0xA0 + n < 256) (by decide))
  rw [hsmall i (by omega), hsmall j (by omega)] at hnat
  omega

/-- **A pool is the one at its address.** -/
theorem Distinct.poolAt?_eq {ledger : Ledger} (h : ledger.Distinct) {key : PoolKey} {pool : Pool}
    (hget : Table.get? key ledger.pools = some pool) : ledger.poolAt? pool.address = some pool := by
  obtain ⟨found, hfound⟩ := exists_poolAt?_of_get? hget
  have haddress : found.address = pool.address := by
    have := List.find?_some hfound
    simpa using this
  have hmem : found ∈ ledger.pools.map Prod.snd := List.mem_of_find?_eq_some hfound
  have hnodup : ((ledger.pools.map Prod.snd).map Pool.address).Nodup := by
    rw [List.map_map]
    exact h
  have hpool : pool ∈ ledger.pools.map Prod.snd :=
    List.mem_map.2 ⟨(key, pool), Table.mem_of_get? hget, rfl⟩
  rw [hfound, List.inj_on_of_nodup_map hnodup hmem hpool haddress]

/-- A pool that has a price is found with it. -/
theorem Distinct.standing_eq {ledger : Ledger} (h : ledger.Distinct) {key : PoolKey} {pool : Pool}
    (hget : Table.get? key ledger.pools = some pool) (hpriced : pool.isInitialized) :
    ledger.standing key = .initialized pool := by
  rw [standing, hget, Option.bind_some, h.poolAt?_eq hget]
  exact if_pos hpriced

/-- A pool that is found with a price is the one of its key. -/
theorem Distinct.get?_of_standing {ledger : Ledger} (h : ledger.Distinct) {key : PoolKey}
    {pool : Pool} (hstanding : ledger.standing key = .initialized pool) :
    Table.get? key ledger.pools = some pool ∧ pool.isInitialized := by
  rcases standing_cases key ledger with hnotFound | ⟨entry, found, hget, hat, hpriced, hfound⟩
  · rw [hnotFound] at hstanding
    cases hstanding
  · rw [hfound] at hstanding
    cases hstanding
    rw [h.poolAt?_eq hget] at hat
    cases hat
    exact ⟨hget, hpriced⟩

/-- Whether no two pools share an address, and the next pool does not get one of theirs. -/
def DistinctWithNext (ledger : Ledger) : Prop :=
  (ledger.pools.map (fun entry => entry.2.address) ++ [ledger.nextPoolAddress]).Nodup

theorem DistinctWithNext.distinct {ledger : Ledger} (h : ledger.DistinctWithNext) :
    ledger.Distinct :=
  (List.nodup_append.1 h).1

/-- A pool that is created and priced takes no address that another pool has. -/
theorem DistinctWithNext.priced {ledger : Ledger} (h : ledger.DistinctWithNext) (key : PoolKey)
    (tick : ℤ) (sqrtPrice : ℕ) : (ledger.priced key tick sqrtPrice).Distinct := by
  unfold Distinct Ledger.priced
  rw [addresses_setPool address_pricedPool]
  split
  · exact h
  · rw [List.append_nil]
    exact h.distinct

/-! ## The addresses of tokens -/

/-- Whether the metadata of every token stands under the token's own address. -/
def NamesTokens (ledger : Ledger) : Prop :=
  ∀ address token, Table.get? address ledger.tokens = some token → token.address = address

/-! ## How pools come to be -/

/-- Ledgers whose pools were put there by the position manager, or seeded under new keys, and
in no other way. -/
inductive Built : Ledger → Prop
  /-- There is no pool yet. -/
  | empty {ledger : Ledger} (h : ledger.pools = []) : Built ledger
  /-- A pool without a price is seeded under a key that has none. -/
  | seed {ledger : Ledger} {key : PoolKey} (h : Built ledger)
    (hnew : Table.get? key ledger.pools = none) : Built (ledger.seedPool key)
  /-- The position manager is called, with whatever it is given and however it ends. -/
  | create {session later : Session Ledger} {manager token0 token1 : Address} {fee : FeeTier}
    {sqrtPrice : ℕ} {result : Except Failure Address} (h : Built session.chain)
    (hrun : (Chain.createAndInitializePool manager token0 token1 fee sqrtPrice :
      Action Ledger Address).run session = (result, later)) : Built later.chain
  /-- Anything happens that leaves the pools alone. -/
  | other {ledger after : Ledger} (h : Built ledger) (hsame : after.pools = ledger.pools) :
    Built after

/-- Whatever becomes of a creation, the pool of the key keeps the address it had or gets the
next one. -/
theorem Numbered.run_createPool {session later : Session Ledger} {key : PoolKey} {sqrtPrice : ℕ}
    {result : Except Failure Address} (h : session.chain.Numbered)
    (hrun : (createPool key sqrtPrice).run session = (result, later)) : later.chain.Numbered := by
  obtain ⟨-, rfl⟩ | ⟨-, ⟨tick, -, -, hlater⟩ | ⟨-, hlater⟩⟩ := run_createPool_cases hrun
  · exact h
  · rw [hlater]
    exact h.priced key tick sqrtPrice
  · rw [hlater]
    exact h.setPool rfl

theorem Built.numbered {ledger : Ledger} (h : ledger.Built) : ledger.Numbered := by
  induction h with
  | empty h =>
    unfold Numbered
    rw [h]
    rfl
  | @seed ledger key _ hnew ih =>
    refine ih.setPool ?_
    rw [createdPool, hnew]
    rfl
  | create _ hrun ih =>
    obtain ⟨-, -, rfl⟩ | ⟨-, hbody⟩ := run_call_cases hrun
    · exact ih.of_pools_eq rfl
    · refine Numbered.run_createPool ?_ hbody
      exact ih.of_pools_eq rfl
  | other _ hsame ih => exact ih.of_pools_eq hsame

end Ledger

end Tickwise
