import StripeEntitlements.Credits.CreditFrame
import StripeEntitlements.Processor.Clawback

/-!
# What Settlements Keep

A paid Invoice and a clawback settle liabilities after they projected the entitlement:
they move balances, raise debts and append to the ledger. The Invoices, the plan changes,
the funding allocations and every account column but the balance stay.

## Main results

- `Settlement` — the frame of a settlement
- `applyClawbackToGrant_settlement`, `settlePeriod_settlement`, `settleDelta_settlement` —
  the settlements of the processor keep it
- `recordInvoice_eq_ok`, `settleTransition_eq_ok` — what two shared statements do
-/

namespace StripeEntitlements

open Relational

/-! ## The frame -/

structure Settlement (b b' : Billing) : Prop where
  accounts : b'.accounts.rows.map Account.static = b.accounts.rows.map Account.static
  invoices : b'.invoices = b.invoices
  ledger : Table.Appends LedgerRow.Settles b.ledger b'.ledger
  orders : b'.orders = b.orders
  planChanges : b'.planChanges = b.planChanges
  fundings : b'.fundings = b.fundings
  claims : b'.claims = b.claims

theorem CreditFrame.settlement {b b' : Billing} (h : CreditFrame b b') : Settlement b b' where
  accounts := h.accounts
  invoices := h.invoices
  ledger := h.ledger
  orders := h.orders
  planChanges := h.planChanges
  fundings := h.fundings
  claims := h.claims

namespace Settlement

variable {b b' b'' : Billing}

theorem refl (b : Billing) : Settlement b b := (CreditFrame.refl b).settlement

theorem trans (h : Settlement b b') (h' : Settlement b' b'') : Settlement b b'' where
  accounts := h'.accounts.trans h.accounts
  invoices := h'.invoices.trans h.invoices
  ledger := h.ledger.trans h'.ledger
  orders := h'.orders.trans h.orders
  planChanges := h'.planChanges.trans h.planChanges
  fundings := h'.fundings.trans h.fundings
  claims := h'.claims.trans h.claims

/-- An account is found again, with another balance at most. -/
theorem account (h : Settlement b b') {k : String} {a : Account}
    (ha : b.accounts.find? k = some a) :
    ∃ a', b'.accounts.find? k = some a' ∧ a'.static = a.static :=
  (Table.Grows.of_map_eq h.accounts).find? Account.id (fun _ => rfl) ha

/-- An account found afterwards was there before. -/
theorem account_inv (h : Settlement b b') {k : String} {a' : Account}
    (ha : b'.accounts.find? k = some a') :
    ∃ a, b.accounts.find? k = some a ∧ a.static = a'.static :=
  (Table.Grows.of_map_eq h.accounts.symm).find? Account.id (fun _ => rfl) ha

end Settlement

variable {tx : Tx} {b b' : Billing}

/-! ## Clawback of one grant -/

theorem removeFromBalance_eq_ok {accountId eventId invoiceId : String}
    {balance removed grantEpoch : Nat} {reason : LedgerReason}
    (h : removeFromBalance b accountId balance removed grantEpoch reason eventId invoiceId =
      .ok b') :
    (removed = 0 ∧ b' = b) ∨
    (0 < removed ∧ ∃ accounts,
      b.accounts.update? accountId (fun a => { a with creditsBalance := balance - removed }) =
        some accounts ∧
      ({ b with accounts := accounts } : Billing).insertLedger accountId (-removed)
        (balance - removed) reason grantEpoch eventId (some invoiceId) none 0 = .ok b') := by
  unfold removeFromBalance at h
  split at h
  case isTrue hzero =>
    rw [pure_eq_ok] at h
    exact .inl ⟨hzero, h.symm⟩
  case isFalse hpos =>
    simp only [bind_eq_ok, Billing.update_eq_ok, Stored.table, Stored.install] at h
    obtain ⟨_, ⟨accounts, haccounts, rfl⟩, hledger⟩ := h
    exact .inr ⟨Nat.pos_of_ne_zero hpos, accounts, haccounts, hledger⟩

theorem removeFromBalance_settlement {accountId eventId invoiceId : String}
    {balance removed grantEpoch : Nat} {reason : LedgerReason}
    (h : removeFromBalance b accountId balance removed grantEpoch reason eventId invoiceId =
      .ok b') : Settlement b b' := by
  rcases removeFromBalance_eq_ok h with ⟨-, rfl⟩ | ⟨-, accounts, haccounts, hledger⟩
  · exact .refl _
  · have h₁ : CreditFrame b { b with accounts := accounts } :=
      .updateAccount haccounts fun _ => rfl
    exact (h₁.trans (.insertLedger hledger fun _ => by omega)).settlement

theorem raiseClawbackDebt_eq_ok {key : ClawbackDebtKey} {target collected : Nat}
    (h : raiseClawbackDebt tx b key target collected = .ok b') :
    ∃ debts, b' = { b with clawbackDebts := debts } := by
  unfold raiseClawbackDebt at h
  split at h
  · rw [pure_eq_ok] at h
    exact ⟨b.clawbackDebts, h.symm⟩
  · split at h
    · rw [Billing.insert_eq_ok] at h
      obtain ⟨debts, -, rfl⟩ := h
      exact ⟨debts, rfl⟩
    · rw [Billing.update_eq_ok] at h
      obtain ⟨debts, -, rfl⟩ := h
      exact ⟨debts, rfl⟩

theorem Settlement.clawbackDebts (debts : Table ClawbackDebt) :
    Settlement b { b with clawbackDebts := debts } :=
  { Settlement.refl b with }

/-- A clawback removes what the balance covers and keeps the rest as debt. -/
theorem applyClawbackToGrant_eq_ok {accountId invoiceId eventId : String}
    {grantId units amount amountRefunded removed : Nat} {full : Bool} {reason : LedgerReason}
    (h : applyClawbackToGrant tx b accountId invoiceId grantId units amount amountRefunded full
      reason eventId = .ok (b', removed)) :
    ∃ target row b₁,
      target = (if full then units else ceilRatio units amountRefunded amount) ∧
      b.accounts.find? accountId = some row ∧
      removed = min (target - clawedBack b invoiceId grantId) row.creditsBalance ∧
      removeFromBalance b accountId row.creditsBalance removed row.grantEpoch reason eventId
        invoiceId = .ok b₁ ∧
      raiseClawbackDebt tx b₁ ⟨accountId, row.grantEpoch, invoiceId⟩ target
        (min target (clawedBack b invoiceId grantId + removed)) = .ok b' := by
  simp only [applyClawbackToGrant, bind_eq_ok, fetch_eq_ok, pure_eq_ok] at h
  obtain ⟨row, hrow, b₁, hremove, b₂, hdebt, heq⟩ := h
  cases heq
  exact ⟨_, row, b₁, rfl, hrow, rfl, hremove, hdebt⟩

theorem applyClawbackToGrant_settlement {accountId invoiceId eventId : String}
    {grantId units amount amountRefunded removed : Nat} {full : Bool} {reason : LedgerReason}
    (h : applyClawbackToGrant tx b accountId invoiceId grantId units amount amountRefunded full
      reason eventId = .ok (b', removed)) : Settlement b b' := by
  obtain ⟨_, _, b₁, -, -, -, hremove, hdebt⟩ := applyClawbackToGrant_eq_ok h
  obtain ⟨debts, rfl⟩ := raiseClawbackDebt_eq_ok hdebt
  exact (removeFromBalance_settlement hremove).trans (.clawbackDebts debts)

/-! ## Settlements of a paid Invoice -/

theorem settlePeriod_settlement {e : Event} {p : PaidInvoice} {t : PeriodTerms}
    {state : InvoiceState} {grantId : Nat}
    (h : settlePeriod tx b e p t state grantId = .ok b') : Settlement b b' := by
  unfold settlePeriod at h
  split at h
  · simp only [bind_eq_ok, pure_eq_ok] at h
    obtain ⟨⟨b₁, _⟩, hclaw, _, rfl, ⟨b₂, _⟩, hpack, rfl⟩ := h
    exact (applyClawbackToGrant_settlement hclaw).trans
      (collectPackDebtsFromSubscription_frame hpack).settlement
  · simp only [bind_eq_ok, pure_eq_ok] at h
    obtain ⟨_, rfl, ⟨b₂, _⟩, hpack, rfl⟩ := h
    exact (collectPackDebtsFromSubscription_frame hpack).settlement

theorem settleDelta_settlement {e : Event} {p : PaidInvoice} {f : DeltaFunding}
    {state : InvoiceState} {grantId : Nat}
    (h : settleDelta tx b e p f state grantId = .ok b') : Settlement b b' := by
  simp only [settleDelta, bind_eq_ok] at h
  obtain ⟨⟨b₁, _⟩, hclaw, ⟨b₂, _⟩, hpack, h⟩ := h
  have hcollect := ((collectClawbackDebts_frame hclaw).trans
    (collectPackDebtsFromSubscription_frame hpack)).settlement
  split at h
  · rw [pure_eq_ok] at h
    exact h ▸ hcollect
  · simp only [bind_eq_ok, pure_eq_ok] at h
    obtain ⟨⟨_, _⟩, hown, rfl⟩ := h
    exact hcollect.trans (applyClawbackToGrant_settlement hown)

/-! ## Shared statements -/

/-- The Invoice row once the facts are recorded. -/
def recordedInvoice (b : Billing) (facts : InvoiceState) : InvoiceState :=
  match b.invoices.find? facts.invoiceId with
  | none => facts
  | some old => old.merge facts

/-- The row of one Invoice once its facts are recorded; every other Invoice stays. -/
structure Records (b : Billing) (facts : InvoiceState) (invoices : Table InvoiceState) : Prop where
  found : invoices.find? facts.invoiceId = some (recordedInvoice b facts)
  others : ∀ k, k ≠ facts.invoiceId → invoices.find? k = b.invoices.find? k

theorem recordInvoice_eq_ok {facts state : InvoiceState}
    (h : recordInvoice b facts = .ok (b', state)) :
    state = recordedInvoice b facts ∧ ∃ invoices, b' = { b with invoices := invoices } ∧
      Records b facts invoices := by
  unfold recordInvoice at h
  cases hold : b.invoices.find? facts.invoiceId with
  | none =>
    simp only [hold, bind_eq_ok, Billing.insert_eq_ok, pure_eq_ok] at h
    obtain ⟨_, ⟨invoices, hinsert, rfl⟩, heq⟩ := h
    cases heq
    have hfind := Table.find?_insert hinsert
    have hsame : recordedInvoice b facts = facts := by simp only [recordedInvoice, hold]
    refine ⟨hsame.symm, invoices, rfl, ?_, fun k hk => (hfind k).trans (if_neg (Ne.symm hk))⟩
    rw [hsame]
    exact (hfind facts.invoiceId).trans (if_pos rfl)
  | some old =>
    simp only [hold, bind_eq_ok, Billing.update_eq_ok, pure_eq_ok] at h
    obtain ⟨_, ⟨invoices, hupdate, rfl⟩, heq⟩ := h
    cases heq
    have hsame : recordedInvoice b facts = old.merge facts := by simp only [recordedInvoice, hold]
    refine ⟨hsame.symm, invoices, rfl, ?_, fun k hk => ?_⟩
    · have hfind := Table.find?_update_self hupdate fun _ => rfl
      simp only [Stored.table] at hfind
      rw [hfind, hold, hsame]
      rfl
    · exact Table.find?_update_ne hupdate (fun _ => rfl) hk

theorem settleTransition_eq_ok {transition : PlanChange} {invoiceId : String}
    {status : PlanChangeStatus} {lastError : Option String}
    (h : settleTransition b transition invoiceId status lastError = .ok b') :
    ∃ planChanges, b' = { b with planChanges := planChanges } ∧
      ((b.planChanges.find? transition.id).any fun c =>
        c.settlementInvoiceId.isNone || c.settlementInvoiceId = some invoiceId) = true ∧
      b.planChanges.update? transition.id (fun c =>
        { c with
          status
          settlementInvoiceId := c.settlementInvoiceId.or (some invoiceId)
          lastError := lastError.or c.lastError
          leaseToken := none
          leaseExpiresAt := none }) = some planChanges := by
  simp only [settleTransition, bind_eq_ok, require_eq_ok, Billing.update_eq_ok] at h
  obtain ⟨_, hbound, planChanges, hupdate, rfl⟩ := h
  exact ⟨planChanges, rfl, hbound, hupdate⟩

/-! ## Clawbacks -/

/-- The steps of a clawback on a live entitlement. -/
theorem clawEntitlement_eq_ok {e : Event} {c : ClawbackTarget} {effect : Effect}
    (h : clawEntitlement tx b e c = .ok effect) :
    ∃ b₁ removed b₂ b₃ b₄, clawBalance tx b e c = .ok (b₁, removed) ∧
      (match leafDeltaRevert b₁ c with
        | none => b₂ = b₁
        | some f => revertLeaf b₁ e c f = .ok b₂) ∧
      limitAnnualSlots b₂ c = .ok b₃ ∧
      (if ((c.state.closed && (leafDeltaRevert b₁ c).isNone) || c.annualOvergrant) &&
          !c.account.entitlementRevoked then
        revokeEntitlement tx b₃ c.account.id = .ok b₄
      else
        b₄ = b₃) ∧
      (if c.state.closed then
        b₄.update c.facts.invoiceId (fun i : InvoiceState => { i with closureApplied := true }) =
          .ok effect.billing
      else
        effect.billing = b₄) := by
  unfold clawEntitlement at h
  rw [bind_eq_ok] at h
  obtain ⟨⟨b₁, removed⟩, hbalance, h⟩ := h
  dsimp only at h
  refine ⟨b₁, removed, ?_⟩
  -- the three decisions of the tail are taken one by one, and each names the state after it
  cases hleaf : leafDeltaRevert b₁ c
  all_goals
    simp only [hleaf] at h
    rw [bind_eq_ok] at h
    obtain ⟨b₂, hrevert, h⟩ := h
    rw [bind_eq_ok] at h
    obtain ⟨b₃, hslots, h⟩ := h
    split at h
  all_goals
    rename_i hrevoked
    rw [bind_eq_ok] at h
    obtain ⟨b₄, hrevoke, h⟩ := h
    split at h
  all_goals
    rename_i hclosed
    simp only [bind_eq_ok, pure_eq_ok] at h hrevert hrevoke
    obtain ⟨b₅, hlast, rfl⟩ := h
    refine ⟨b₂, b₃, b₄, hbalance, ?_, hslots, ?_, ?_⟩
    · first | exact hrevert | exact hrevert.symm
    · first | rw [if_pos hrevoked]; exact hrevoke | rw [if_neg hrevoked]; exact hrevoke.symm
    · first | rw [if_pos hclosed]; exact hlast | rw [if_neg hclosed]; exact hlast.symm

end StripeEntitlements
