import Std.Data.String.ToNat
import StripeEntitlements.Annual
import StripeEntitlements.Credits.Collection
import StripeEntitlements.Credits.FirstExpiring

/-!
# A Grant Goes Through

A monthly grant writes its slot and then pays pack debt from the new balance. The statements can
only fail at a constraint: a slot that the ledger already holds, or an identifier that was used
before. With a free slot and new identifiers every one of them succeeds.

## Main results

- `collectPackDebtsFromSubscription_returns` — the collector ends
- `grantAnnualSlot_returns` — and so does the grant of a free slot
-/

namespace StripeEntitlements

open Relational

/-- The UUIDs of a transaction are new: they differ from each other, and no debit carries one. -/
structure Tx.Fresh (tx : Tx) (b : Billing) : Prop where
  distinct : Function.Injective tx.uuid
  unused : ∀ n, b.debits.find? s!"pack-debt:{tx.uuid n}" = none

/-- No entry of the ledger holds this slot of the Invoice. -/
def Billing.SlotFree (b : Billing) (invoiceId : String) (slot : Nat) : Prop :=
  ∀ r ∈ b.ledger.rows, r.stripeInvoiceId = some invoiceId → r.grantSlot ≠ some slot

section

variable {tx : Tx} {b : Billing} {account : Account}

/-! ## Entries of the ledger -/

/-- An entry outside the slots can always be written. -/
theorem insertLedger_returns (accountId : String) (delta : Int) (balanceAfter : Nat)
    (reason : LedgerReason) (grantEpoch : Nat) (eventId : String) :
    ∃ t, b.insertLedger accountId delta balanceAfter reason grantEpoch eventId none none 0 =
      .ok { b with ledger := t } := by
  obtain ⟨t, ht⟩ := Table.insert?_isSome (t := b.ledger) (r := {
      id := nextSerial LedgerRow.id b.ledger.rows
      accountId, delta, balanceAfter, entitlementUnits := 0, reason, grantEpoch
      stripeEventId := eventId, stripeInvoiceId := none, grantSlot := none })
    (Table.find?_eq_none_iff.2 fun r hr => Nat.ne_of_lt (lt_nextSerial hr)) rfl
    (by simp [Relation.indexes])
  exact ⟨t, Billing.insert_eq_ok.2 ⟨t, ht, rfl⟩⟩

/-- An entry for a free slot can be written. -/
theorem insertLedger_slot_returns {invoiceId : String} {slot : Nat} (hpos : 1 ≤ slot)
    (hle : slot ≤ 12) (hfree : b.SlotFree invoiceId slot) (accountId : String) (delta : Int)
    (balanceAfter : Nat) (reason : LedgerReason) (grantEpoch : Nat) (eventId : String)
    (units : Nat) :
    ∃ t, b.insertLedger accountId delta balanceAfter reason grantEpoch eventId (some invoiceId)
      (some slot) units = .ok { b with ledger := t } := by
  obtain ⟨t, ht⟩ := Table.insert?_isSome (t := b.ledger) (r := {
      id := nextSerial LedgerRow.id b.ledger.rows
      accountId, delta, balanceAfter, entitlementUnits := units, reason, grantEpoch
      stripeEventId := eventId, stripeInvoiceId := some invoiceId, grantSlot := some slot })
    (Table.find?_eq_none_iff.2 fun r hr => Nat.ne_of_lt (lt_nextSerial hr))
    (by simp [Relation.check, hpos, hle]) (by
      intro ix hix x hx r hr hrx
      simp only [Relation.indexes, List.mem_singleton] at hix
      subst hix
      simp only [Option.bind_eq_bind, Option.pure_def, Option.bind_some, Option.some.injEq,
        Option.bind_eq_some_iff] at hx hrx
      obtain ⟨invoice, hinvoice, slot', hslot, heq⟩ := hrx
      rw [← hx, List.cons.injEq, List.cons.injEq] at heq
      -- the tuple of the index names the Invoice and the slot
      obtain ⟨rfl, heq, -⟩ := heq
      obtain rfl : slot' = slot := Nat.repr_inj.1 heq
      exact hfree r hr hinvoice hslot)
  exact ⟨t, Billing.insert_eq_ok.2 ⟨t, ht, rfl⟩⟩

/-! ## The collector -/

/-- The debts still to collect are as stored, and the next debits are new. -/
structure Collectable (tx : Tx) (debts : List PackDebt) (b : Billing) : Prop where
  current : ∀ d ∈ debts, b.packDebts.find? d.orderId = some d
  distinct : (debts.map PackDebt.orderId).Nodup
  unused : ∀ n, b.debits.rows.length ≤ n → b.debits.find? s!"pack-debt:{tx.uuid n}" = none
  charged : ∀ a ∈ b.allocations.rows, (b.debits.find? a.debitKey).isSome

theorem collectable (accountId : String) (hfresh : tx.Fresh b)
    (hcharged : ∀ a ∈ b.allocations.rows, (b.debits.find? a.debitKey).isSome) :
    Collectable tx (outstandingPackDebts b accountId) b where
  current d hd := by
    rw [outstandingPackDebts, Table.mem_orderBy, Table.select, List.mem_filter] at hd
    exact Table.find?_of_mem hd.1
  distinct := by
    have hperm := Table.orderBy_perm
      (fun d : PackDebt => (toLex (d.createdAt, d.orderId) : Int ×ₗ String))
      (b.packDebts.select fun d =>
        d.accountId = accountId && d.collectedCredits + d.releasedCredits < d.targetCredits)
    refine (hperm.map PackDebt.orderId).nodup_iff.2 ?_
    exact b.packDebts.valid.keys_nodup.sublist (List.filter_sublist.map _)
  unused n _ := hfresh.unused n
  charged := hcharged

/-- **One collection** succeeds, and leaves the other debts as they were. Its debit has a fresh
    key, and it pays no more than is outstanding of the debt. -/
theorem Collectable.step {debt : PackDebt} {debts : List PackDebt} {amount : Nat}
    (hdistinct : Function.Injective tx.uuid) (h : Collectable tx (debt :: debts) b)
    (hpos : 0 < amount) (hle : amount ≤ debt.outstanding) (grantEpoch : Nat) :
    ∃ b', collectPackDebt tx grantEpoch none b debt amount = .ok b' ∧
      Collectable tx debts b' := by
  have hrow := h.current debt List.mem_cons_self
  obtain ⟨packDebts, hdebts⟩ := Table.updateWhere?_isSome (t := b.packDebts)
    (p := fun d => Relation.key d = debt.orderId)
    (f := fun d => { d with collectedCredits := d.collectedCredits + amount }) (fun _ => rfl)
    (by
      intro d hd hkey
      obtain rfl : d = debt := b.packDebts.eq_of_key_eq hd (Table.find?_mem hrow)
        (of_decide_eq_true hkey)
      have hcheck := b.packDebts.valid.checked d hd
      simp only [Relation.check, PackDebt.outstanding, Bool.and_eq_true, decide_eq_true_eq]
        at hcheck hle ⊢
      omega)
    (by simp [Relation.indexes])
  -- the debit carries the next UUID, which nothing was allocated under yet
  have hnew := h.unused b.debits.rows.length (Nat.le_refl _)
  let debit := collectionDebit tx b debt amount grantEpoch
  obtain ⟨debits, hdebits⟩ := Table.insert?_isSome (t := b.debits) (r := debit) hnew
    (by simp [debit, Relation.check, collectionDebit, hpos]) (by simp [Relation.indexes])
  have hunallocated : ∀ a ∈ b.allocations.rows, a.debitKey ≠ debit.idempotencyKey := by
    intro a ha heq
    have hcharged := h.charged a ha
    rw [heq, show b.debits.find? debit.idempotencyKey = none from hnew] at hcharged
    cases hcharged
  obtain ⟨allocations, hallocations⟩ := Table.insert?_isSome (t := b.allocations)
    (r := b.newAllocation debit.idempotencyKey debt.accountId (.subscription grantEpoch) amount)
    (Table.find?_eq_none_iff.2 fun a ha => Nat.ne_of_lt (lt_nextSerial ha))
    (by simp [Relation.check, Billing.newAllocation, hpos]) (by
      intro ix hix x hx a ha hax
      exact hunallocated a ha (Allocation.index_eq hix hax hx).1)
  refine ⟨{ b with packDebts, debits, allocations }, ?_, ?_, (List.nodup_cons.1 h.distinct).2,
    ?_, ?_⟩
  · simp only [collectPackDebt, recordDebtCollection, bind_eq_ok, Billing.update_eq_ok,
      Billing.insert_eq_ok, Billing.insertAllocation_eq_ok, Stored.table, Stored.install]
    exact ⟨_, ⟨packDebts, hdebts, rfl⟩, _, ⟨debits, hdebits, rfl⟩, rfl, allocations,
      hallocations, rfl⟩
  · intro d hd
    have hne : d.orderId ≠ debt.orderId := by
      intro heq
      exact (List.nodup_cons.1 h.distinct).1 (heq ▸ List.mem_map_of_mem hd)
    rw [Table.find?_update_ne hdebts (fun _ => rfl) hne]
    exact h.current d (List.mem_cons_of_mem _ hd)
  · intro n hn
    change debits.rows.length ≤ n at hn
    rw [Table.insert?_eq_some.1 hdebits, List.length_append, List.length_singleton] at hn
    change debits.find? _ = none
    have hother : Relation.key debit ≠ s!"pack-debt:{tx.uuid n}" := by
      intro heq
      have huuid := hdistinct (String.append_right_inj _ |>.1 heq)
      omega
    rw [Table.find?_insert hdebits, if_neg hother]
    exact h.unused n (by omega)
  · intro a ha
    change a ∈ allocations.rows at ha
    rw [Table.insert?_eq_some.1 hallocations, List.mem_append, List.mem_singleton] at ha
    change (debits.find? a.debitKey).isSome
    rw [Table.find?_insert hdebits]
    split
    · rfl
    case isFalse hother =>
      rcases ha with ha | rfl
      · exact h.charged a ha
      · exact absurd rfl hother

/-- **The collector** pays the pack debts of an account from its balance, and raises nothing on the
    way. By induction on the debts, oldest first, until the balance is used up. -/
theorem collectPackDebtsFromSubscription_returns {accountId : String}
    (hrow : b.accounts.find? accountId = some account) (hfresh : tx.Fresh b)
    (hcharged : ∀ a ∈ b.allocations.rows, (b.debits.find? a.debitKey).isSome) (grantEpoch : Nat)
    (eventId : String) :
    ∃ answer, collectPackDebtsFromSubscription tx b accountId grantEpoch eventId = .ok answer := by
  obtain ⟨b₁, balance, hdrain⟩ : ∃ b₁ balance, drain PackDebt.outstanding
      (fun b debt amount balance => do
        let b ← collectPackDebt tx grantEpoch none b debt amount
        b.insertLedger accountId (-amount) balance .creditPackDebtCollection grantEpoch eventId
          none none 0)
      (outstandingPackDebts b accountId) account.creditsBalance b = .ok (b₁, balance) := by
    refine drain_returns (P := Collectable tx) ?_ (collectable accountId hfresh hcharged)
    intro debt debts amount left s hpos hle hs
    obtain ⟨s₁, hcollect, hnext⟩ := hs.step hfresh.distinct hpos hle grantEpoch
    obtain ⟨ledger, hledger⟩ := insertLedger_returns (b := s₁) accountId (-amount) left
      .creditPackDebtCollection grantEpoch eventId
    -- the entry of the ledger is outside the invariant
    refine ⟨{ s₁ with ledger }, bind_eq_ok.2 ⟨s₁, hcollect, hledger⟩, ?_⟩
    exact ⟨hnext.current, hnext.distinct, hnext.unused, hnext.charged⟩
  simp only [collectPackDebtsFromSubscription, bind_eq_ok, fetch_eq_ok]
  by_cases hsame : balance = account.creditsBalance
  · refine ⟨(b₁, 0), account, hrow, _, by simpa only [bind_eq_ok] using hdrain, ?_⟩
    rw [if_pos hsame]
    rfl
  · obtain ⟨accounts, haccounts⟩ := Table.update?_isSome (t := b₁.accounts) (k := accountId)
      (f := fun a => { a with creditsBalance := balance }) (fun _ => rfl) (fun _ => rfl)
      (by simp [Relation.indexes])
    refine ⟨({ b₁ with accounts }, account.creditsBalance - balance), account, hrow, _,
      by simpa only [bind_eq_ok] using hdrain, ?_⟩
    rw [if_neg hsame]
    exact bind_eq_ok.2 ⟨_, Billing.update_eq_ok.2 ⟨accounts, haccounts, rfl⟩, rfl⟩

/-! ## The grant -/

/-- **The grant of a free slot** succeeds: the slot is within the year, the entry is new, and what
    the account owes is paid from the fresh balance. -/
theorem grantAnnualSlot_returns (cfg : Config) (plan : Plan) {invoiceId : String} {slot : Nat}
    (hrow : b.accounts.find? account.id = some account) (hpos : 1 ≤ slot) (hle : slot ≤ 12)
    (hfree : b.SlotFree invoiceId slot) (hfresh : tx.Fresh b)
    (hcharged : ∀ a ∈ b.allocations.rows, (b.debits.find? a.debitKey).isSome) :
    ∃ b', grantAnnualSlot cfg tx b account plan invoiceId slot = .ok b' := by
  obtain ⟨accounts, haccounts⟩ := Table.updateWhere?_isSome (t := b.accounts)
    (p := fun a => Relation.key a = account.id) (f := projectAnnualSlot cfg account plan slot)
    (fun _ => rfl)
    (by
      intro a ha _
      have hcheck := b.accounts.valid.checked a ha
      simp only [Relation.check, Bool.and_eq_true] at hcheck ⊢
      exact ⟨decide_eq_true hle, hcheck.2⟩)
    (by simp [Relation.indexes, projectAnnualSlot])
  obtain ⟨ledger, hledger⟩ := insertLedger_slot_returns (b := { b with accounts }) hpos hle hfree
    account.id ((plan.monthlyCredits : Int) - account.creditsBalance) plan.monthlyCredits
    .subscriptionGrant (account.grantEpoch + 1) s!"annual:{invoiceId}:{slot}" plan.monthlyCredits
  obtain ⟨invoices, hinvoices⟩ := Table.updateWhere?_isSome (t := b.invoices)
    (p := fun i => Relation.key i = invoiceId)
    (f := fun i => { i with grantsIssued := max i.grantsIssued slot }) (fun _ => rfl)
    (by
      intro i hi _
      have hcheck := b.invoices.valid.checked i hi
      simp only [Relation.check, Bool.and_eq_true, decide_eq_true_eq] at hcheck ⊢
      exact ⟨hcheck.1, Nat.max_le.2 ⟨hcheck.2, hle⟩⟩)
    (by simp [Relation.indexes])
  -- the collector runs after the three writes, on the debits they left alone
  have hfound : accounts.find? account.id =
      some (projectAnnualSlot cfg account plan slot account) := by
    rw [Table.find?_update_self haccounts fun _ => rfl, hrow]
    rfl
  obtain ⟨⟨b₁, collected⟩, hcollect⟩ := collectPackDebtsFromSubscription_returns
    (b := { b with accounts, ledger, invoices }) hfound ⟨hfresh.distinct, hfresh.unused⟩ hcharged
    (account.grantEpoch + 1) s!"pack-debt:annual:{invoiceId}:{slot}"
  refine ⟨b₁, ?_⟩
  simp only [grantAnnualSlot, bind_eq_ok, Billing.update_eq_ok, Stored.table, Stored.install]
  exact ⟨_, ⟨accounts, haccounts, rfl⟩, _, hledger, _, ⟨invoices, hinvoices, rfl⟩, _, hcollect, rfl⟩

end

end StripeEntitlements
