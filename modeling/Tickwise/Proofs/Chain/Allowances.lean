import Tickwise.Proofs.Chain.Exchange

/-!
# Allowances and approvals

An allowance is changed by an approval alone.  While every approval is of any amount, and is sent
only where less is allowed, no allowance is ever lowered, and nothing is approved twice: what was
approved once can no longer be too low.

* `Exchange.Sparing` — an approval that is sent where it is needed;
* `Ledger.Allows` — no allowance is lower than it was;
* `Ledger.Approving` — what becomes of a ledger by such approvals;
* `Linked.approving`, `Linked.pairwise_allows` — and by exchanges one after the other.
-/

namespace Tickwise

/-- Whether an exchange, if it asks for an approval, does so for any amount and where less is
allowed. -/
def Exchange.Sparing (e : Exchange) : Prop :=
  ∀ token spender amount, e.ask = .approve token spender amount →
    amount = maxWord ∧ e.before.allowanceOf token Ledger.owner spender < maxWord

/-- The token of an approval, and the spender it is for. -/
def Approval.pair (approval : Approval) : Address × Address := (approval.token, approval.spender)

namespace Ledger

/-- Whether no allowance of a later ledger is lower than that of an earlier one. -/
def Allows (before after : Ledger) : Prop :=
  ∀ token account spender,
    before.allowanceOf token account spender ≤ after.allowanceOf token account spender

theorem Allows.trans {first second third : Ledger} (h : first.Allows second)
    (h' : second.Allows third) : first.Allows third :=
  fun token account spender => (h token account spender).trans (h' token account spender)

theorem allows_of_allowances_eq {before after : Ledger}
    (h : after.allowances = before.allowances) : before.Allows after := by
  intro token account spender
  unfold allowanceOf
  rw [h]

/-- What becomes of a ledger by approvals that are sent where they are needed: they are added to
the others, no allowance is lowered, and each makes an allowance that was too low as high as it can
be, so that it is the only one of its pair. -/
structure Approving (before : Ledger) (sent : List Approval) (after : Ledger) : Prop where
  approvals : after.approvals = before.approvals ++ sent
  allows : before.Allows after
  lacked : ∀ a ∈ sent, before.allowanceOf a.token owner a.spender < maxWord
  full : ∀ a ∈ sent, maxWord ≤ after.allowanceOf a.token owner a.spender
  once : (sent.map Approval.pair).Nodup

namespace Approving

variable {first second third : Ledger} {sent more : List Approval}

/-- Whatever leaves allowances and approvals alone approves nothing. -/
theorem nothing (happrovals : second.approvals = first.approvals)
    (hallowances : second.allowances = first.allowances) : Approving first [] second where
  approvals := by rw [happrovals, List.append_nil]
  allows := allows_of_allowances_eq hallowances
  lacked := by simp
  full := by simp
  once := List.nodup_nil

/-- An approval of any amount that is sent where less is allowed. -/
theorem single {token spender : Address} {calls : List Call}
    (hlow : first.allowanceOf token owner spender < maxWord) :
    Approving first [⟨token, spender, maxWord⟩]
      ((first.approved token spender maxWord).heard calls) where
  approvals := rfl
  allows := by
    intro asset account other
    have hgranted : first.allowanceOf asset account other ≤
        (first.granted token spender maxWord).allowanceOf asset account other :=
      allowanceOf_le_granted le_rfl ⟨asset, account, other⟩
    rwa [granted_of_lt hlow] at hgranted
  lacked := by
    intro a ha
    rw [List.mem_singleton.1 ha]
    exact hlow
  full := by
    intro a ha
    rw [List.mem_singleton.1 ha]
    exact (allowanceOf_setAllowance first token spender maxWord).ge
  once := List.nodup_singleton _

/-- **Nothing that was approved is approved again**: it is no longer too low. -/
theorem trans (h : Approving first sent second) (h' : Approving second more third) :
    Approving first (sent ++ more) third where
  approvals := by rw [h'.approvals, h.approvals, List.append_assoc]
  allows := h.allows.trans h'.allows
  lacked := by
    intro a ha
    rcases List.mem_append.1 ha with ha | ha
    · exact h.lacked a ha
    · exact (h.allows _ _ _).trans_lt (h'.lacked a ha)
  full := by
    intro a ha
    rcases List.mem_append.1 ha with ha | ha
    · exact (h.full a ha).trans (h'.allows _ _ _)
    · exact h'.full a ha
  once := by
    rw [List.map_append, List.nodup_append]
    refine ⟨h.once, h'.once, ?_⟩
    intro pair hearlier other hlater heq
    obtain ⟨a, ha, rfl⟩ := List.mem_map.1 hearlier
    obtain ⟨b, hb, rfl⟩ := List.mem_map.1 hlater
    obtain ⟨htoken, hspender⟩ := Prod.mk.inj heq
    have hfull := h.full a ha
    rw [htoken, hspender] at hfull
    exact absurd (h'.lacked b hb) (not_lt.2 hfull)

end Approving

end Ledger

/-! ## What calls do -/

/-- An exchange that is sparing with approvals sends one where it is needed, or none. -/
theorem Exchange.Held.approving {e : Exchange} (h : e.Held) (hsparing : e.Sparing) :
    e.before.Approving e.approved?.toList e.after := by
  cases h.does with
  | nothing _ happroved hafter =>
    rw [happroved, hafter]
    exact .nothing rfl rfl
  | creation _ _ happroved hafter =>
    rw [happroved, hafter]
    exact .nothing rfl rfl
  | pricing _ _ _ happroved hafter =>
    rw [happroved, hafter]
    exact .nothing rfl rfl
  | approval _ happroved hafter =>
    obtain ⟨rfl, hlow⟩ := hsparing _ _ _ (ask_of_approved? happroved)
    rw [happroved, hafter]
    exact .single hlow
  | mint _ happroved hafter =>
    rw [happroved, hafter]
    exact .nothing rfl rfl

namespace Linked

variable {first last : Ledger} {exchanges : List Exchange}

theorem approving (h : Linked first exchanges last) (hsparing : ∀ e ∈ exchanges, e.Sparing) :
    first.Approving (exchanges.filterMap Exchange.approved?) last := by
  induction h with
  | nil => exact .nothing rfl rfl
  | @cons e rest last hheld _ ih =>
    obtain ⟨hhere, hrest⟩ := List.forall_mem_cons.1 hsparing
    have hsent : (e :: rest).filterMap Exchange.approved? =
        e.approved?.toList ++ rest.filterMap Exchange.approved? := by
      rw [List.filterMap_cons]
      cases e.approved? <;> rfl
    rw [hsent]
    exact (hheld.approving hhere).trans (ih hrest)

/-- Of all the ledgers on the way, none has a lower allowance than one before it. -/
theorem pairwise_allows (h : Linked first exchanges last) (hsparing : ∀ e ∈ exchanges, e.Sparing) :
    (first :: exchanges.map Exchange.after ++ [last]).Pairwise Ledger.Allows :=
  h.pairwise (fun _ => Ledger.allows_of_allowances_eq rfl) Ledger.Allows.trans
    fun e he => ((h.held e he).approving (hsparing e he)).allows

end Linked

end Tickwise
