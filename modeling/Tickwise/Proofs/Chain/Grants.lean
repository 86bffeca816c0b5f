import Tickwise.Proofs.Chain.Effect

/-!
# What grants leave

Amounts of some tokens are needed by a spender, and each token of which less is allowed is approved
once, for any amount.  What that leaves is said here in one step, however many grants it took: it
depends on which amounts are needed, and neither on how often nor on the order in which they are
granted.

* `Ledger.Lacks` — tokens of which less is allowed than is needed;
* `Ledger.Grants` — what becomes of a ledger by granting amounts;
* `grants_granted`, `Grants.trans` — one grant, and grants one after the other;
* `Grants.allowance_eq`, `Grants.approvals_perm` — the order of the amounts is irrelevant.
-/

namespace Tickwise

namespace Ledger

/-! ## What is lacking -/

/-- Whether the owner lets a spender take less of a token than one of the amounts that are
needed. -/
def Lacks (ledger : Ledger) (needs : List (Address × ℕ)) (spender token : Address) : Prop :=
  ∃ amount, (token, amount) ∈ needs ∧ ledger.allowanceOf token owner spender < amount

section Lacks

variable {a b ledger : Ledger} {needs more : List (Address × ℕ)} {spender token : Address}

@[simp] theorem not_lacks_nil : ¬ ledger.Lacks [] spender token := by
  rintro ⟨amount, hmem, -⟩
  cases hmem

theorem lacks_singleton {asset : Address} {amount : ℕ} :
    ledger.Lacks [(asset, amount)] spender token ↔
      token = asset ∧ ledger.allowanceOf asset owner spender < amount := by
  constructor
  · rintro ⟨needed, hmem, hlow⟩
    obtain ⟨rfl, rfl⟩ := Prod.mk.inj (List.mem_singleton.1 hmem)
    exact ⟨rfl, hlow⟩
  · rintro ⟨rfl, hlow⟩
    exact ⟨amount, List.mem_singleton_self _, hlow⟩

theorem lacks_append : ledger.Lacks (needs ++ more) spender token ↔
    ledger.Lacks needs spender token ∨ ledger.Lacks more spender token := by
  constructor
  · rintro ⟨amount, hmem, hlow⟩
    rcases List.mem_append.1 hmem with hmem | hmem
    · exact .inl ⟨amount, hmem, hlow⟩
    · exact .inr ⟨amount, hmem, hlow⟩
  · rintro (⟨amount, hmem, hlow⟩ | ⟨amount, hmem, hlow⟩)
    · exact ⟨amount, List.mem_append_left _ hmem, hlow⟩
    · exact ⟨amount, List.mem_append_right _ hmem, hlow⟩

/-- What is lacking is known from the allowance of the token and from which amounts are needed. -/
theorem lacks_congr (hallowed : a.allowanceOf token owner spender =
    b.allowanceOf token owner spender) (hneeds : ∀ need, need ∈ needs ↔ need ∈ more) :
    a.Lacks needs spender token ↔ b.Lacks more spender token := by
  simp only [Lacks, hallowed, hneeds]

/-- Nothing is lacking where any amount is allowed. -/
theorem not_lacks_of_maxWord (hneeds : ∀ need ∈ needs, need.2 ≤ maxWord)
    (hallowed : ledger.allowanceOf token owner spender = maxWord) :
    ¬ ledger.Lacks needs spender token := by
  rintro ⟨amount, hmem, hlow⟩
  have hle : amount ≤ maxWord := hneeds _ hmem
  omega

end Lacks

/-! ## Granting -/

/-- What becomes of a ledger by granting a spender the amounts that it needs: every token that is
lacking is approved once, for any amount, and all other allowances stay. -/
structure Grants (before : Ledger) (needs : List (Address × ℕ)) (spender : Address)
    (after : Ledger) : Prop where
  lacked : ∀ token, before.Lacks needs spender token →
    Table.get? ⟨token, owner, spender⟩ after.allowances = some maxWord
  kept : ∀ key : AllowanceKey,
    ¬ (key.owner = owner ∧ key.spender = spender ∧ before.Lacks needs spender key.token) →
    Table.get? key after.allowances = Table.get? key before.allowances
  approvals : ∃ sent, after.approvals = before.approvals ++ sent ∧ sent.Nodup ∧
    ∀ approval : Approval, approval ∈ sent ↔ approval.amount = maxWord ∧
      approval.spender = spender ∧ before.Lacks needs spender approval.token

namespace Grants

variable {before middle after other : Ledger} {needs more : List (Address × ℕ)}
  {spender : Address}

/-- Nothing is granted where nothing is needed. -/
theorem nil (hallowances : after.allowances = before.allowances)
    (happrovals : after.approvals = before.approvals) : Grants before [] spender after where
  lacked token hlacks := absurd hlacks not_lacks_nil
  kept key _ := by rw [hallowances]
  approvals := ⟨[], by rw [happrovals, List.append_nil], List.nodup_nil, by simp⟩

/-- Grants bear on allowances and approvals alone, and hang on nothing else. -/
theorem of_eq {start last : Ledger} (h : Grants before needs spender after)
    (hstart : start.allowances = before.allowances ∧ start.approvals = before.approvals)
    (hlast : last.allowances = after.allowances ∧ last.approvals = after.approvals) :
    Grants start needs spender last := by
  have hlacks : ∀ token, start.Lacks needs spender token ↔ before.Lacks needs spender token := by
    intro token
    refine lacks_congr ?_ fun _ => Iff.rfl
    rw [allowanceOf, allowanceOf, hstart.1]
  obtain ⟨sent, happrovals, honce, hsent⟩ := h.approvals
  refine ⟨?_, ?_, sent, ?_, honce, ?_⟩
  · intro token hlacking
    rw [hlast.1]
    exact h.lacked token ((hlacks token).1 hlacking)
  · intro key hkey
    rw [hlast.1, hstart.1]
    exact h.kept key (by rwa [← hlacks])
  · rw [hlast.2, happrovals, hstart.2]
  · intro approval
    rw [hsent, hlacks]

/-- Afterwards any amount is allowed of what was lacking, and the rest is as it was. -/
theorem allowanceOf_of_lacks (h : Grants before needs spender after) {token : Address}
    (hlacks : before.Lacks needs spender token) :
    after.allowanceOf token owner spender = maxWord := by
  rw [allowanceOf, h.lacked token hlacks, Option.getD_some]

theorem allowanceOf_of_not_lacks (h : Grants before needs spender after) {token : Address}
    (hlacks : ¬ before.Lacks needs spender token) :
    after.allowanceOf token owner spender = before.allowanceOf token owner spender := by
  rw [allowanceOf, allowanceOf, h.kept _ fun hkey => hlacks hkey.2.2]

/-- What is lacking after some grants was lacking before, and was not granted. -/
theorem lacks_iff (h : Grants before needs spender after)
    (hmore : ∀ need ∈ more, need.2 ≤ maxWord) (token : Address) :
    after.Lacks more spender token ↔
      ¬ before.Lacks needs spender token ∧ before.Lacks more spender token := by
  by_cases hlacks : before.Lacks needs spender token
  · have hnone := not_lacks_of_maxWord hmore (h.allowanceOf_of_lacks hlacks)
    simp [hnone, hlacks]
  · have hsame : after.Lacks more spender token ↔ before.Lacks more spender token :=
      lacks_congr (h.allowanceOf_of_not_lacks hlacks) fun _ => Iff.rfl
    simp [hsame, hlacks]

/-- **Grants one after the other grant what is needed in all.** -/
theorem trans (h : Grants before needs spender middle) (h' : Grants middle more spender after)
    (hmore : ∀ need ∈ more, need.2 ≤ maxWord) : Grants before (needs ++ more) spender after := by
  have hlater := h.lacks_iff hmore
  obtain ⟨sent, happrovals, honce, hsent⟩ := h.approvals
  obtain ⟨sent', happrovals', honce', hsent'⟩ := h'.approvals
  refine ⟨?_, ?_, sent ++ sent', ?_, ?_, ?_⟩
  · intro token hlacks
    by_cases hfirst : before.Lacks needs spender token
    · -- what the first grants have granted is not granted again
      rw [h'.kept, h.lacked token hfirst]
      rintro ⟨-, -, hlacking⟩
      exact ((hlater token).1 hlacking).1 hfirst
    · have hsecond := (lacks_append.1 hlacks).resolve_left hfirst
      exact h'.lacked token ((hlater token).2 ⟨hfirst, hsecond⟩)
  · intro key hkey
    rw [lacks_append] at hkey
    rw [h'.kept, h.kept]
    · rintro ⟨howner, hspender, hlacks⟩
      exact hkey ⟨howner, hspender, .inl hlacks⟩
    · rintro ⟨howner, hspender, hlacks⟩
      exact hkey ⟨howner, hspender, .inr ((hlater key.token).1 hlacks).2⟩
  · rw [happrovals', happrovals, List.append_assoc]
  · refine List.nodup_append.2 ⟨honce, honce', ?_⟩
    rintro approval hearlier _ hlate rfl
    exact ((hlater _).1 ((hsent' approval).1 hlate).2.2).1 ((hsent approval).1 hearlier).2.2
  · intro approval
    rw [List.mem_append, hsent, hsent', hlater, lacks_append]
    tauto

/-- **The order in which amounts are granted is irrelevant**, and so is how often: for the
allowances … -/
theorem allowance_eq (h : Grants before needs spender after) (h' : Grants before more spender other)
    (hneeds : ∀ need, need ∈ needs ↔ need ∈ more) (key : AllowanceKey) :
    Table.get? key after.allowances = Table.get? key other.allowances := by
  have hlacks : ∀ token, before.Lacks needs spender token ↔ before.Lacks more spender token :=
    fun _ => lacks_congr rfl hneeds
  by_cases hkey : key.owner = owner ∧ key.spender = spender ∧ before.Lacks needs spender key.token
  · obtain ⟨token, account, other⟩ := key
    obtain ⟨rfl, rfl, hlacking⟩ := hkey
    rw [h.lacked _ hlacking, h'.lacked _ ((hlacks _).1 hlacking)]
  · rw [h.kept key hkey, h'.kept key (by rwa [← hlacks])]

/-- … and for the approvals, but for their order. -/
theorem approvals_perm (h : Grants before needs spender after)
    (h' : Grants before more spender other) (hneeds : ∀ need, need ∈ needs ↔ need ∈ more) :
    after.approvals.Perm other.approvals := by
  obtain ⟨sent, happrovals, honce, hsent⟩ := h.approvals
  obtain ⟨sent', happrovals', honce', hsent'⟩ := h'.approvals
  rw [happrovals, happrovals']
  refine List.Perm.append_left _ ((List.perm_ext_iff_of_nodup honce honce').2 ?_)
  intro approval
  rw [hsent, hsent', lacks_congr rfl hneeds]

/-- No more approvals are sent than amounts are needed. -/
theorem approvals_le (h : Grants before needs spender after) :
    ∃ sent, after.approvals = before.approvals ++ sent ∧ sent.length ≤ needs.length ∧
      ∀ approval ∈ sent, approval.amount = maxWord ∧ approval.spender = spender ∧
        approval.token ∈ needs.map Prod.fst := by
  obtain ⟨sent, happrovals, honce, hsent⟩ := h.approvals
  have hneeded : ∀ approval ∈ sent, approval.token ∈ needs.map Prod.fst := by
    intro approval hmem
    obtain ⟨-, -, amount, hneed, -⟩ := (hsent approval).1 hmem
    exact List.mem_map.2 ⟨_, hneed, rfl⟩
  refine ⟨sent, happrovals, ?_, ?_⟩
  · have hsub : sent ⊆ needs.map fun need => ⟨need.1, spender, maxWord⟩ := by
      intro approval hmem
      obtain ⟨hamount, hspender, amount, hneed, -⟩ := (hsent approval).1 hmem
      exact List.mem_map.2 ⟨_, hneed, by rw [← hamount, ← hspender]⟩
    simpa using (List.subperm_of_subset honce hsub).length_le
  · intro approval hmem
    obtain ⟨hamount, hspender, -⟩ := (hsent approval).1 hmem
    exact ⟨hamount, hspender, hneeded approval hmem⟩

end Grants

/-- **One grant** approves a token if it is lacking. -/
theorem grants_granted (token spender : Address) (amount : ℕ) (ledger : Ledger) :
    Grants ledger [(token, amount)] spender (ledger.granted token spender amount) := by
  by_cases hlow : ledger.allowanceOf token owner spender < amount
  · rw [granted_of_lt hlow]
    refine ⟨?_, ?_, [⟨token, spender, maxWord⟩], rfl, List.nodup_singleton _, ?_⟩
    · intro asset hlacks
      obtain ⟨rfl, -⟩ := lacks_singleton.1 hlacks
      exact Table.get?_put_self _ _ _
    · intro key hkey
      refine Table.get?_put_of_ne ?_ _ _
      rintro rfl
      exact hkey ⟨rfl, rfl, lacks_singleton.2 ⟨rfl, hlow⟩⟩
    · rintro ⟨asset, other, granted⟩
      rw [List.mem_singleton, lacks_singleton, Approval.mk.injEq]
      tauto
  · rw [granted_of_le (not_lt.1 hlow)]
    refine ⟨?_, fun key _ => rfl, [], (List.append_nil _).symm, List.nodup_nil, ?_⟩
    · intro asset hlacks
      exact absurd (lacks_singleton.1 hlacks).2 hlow
    · intro approval
      simp [lacks_singleton, hlow]

end Ledger

end Tickwise
