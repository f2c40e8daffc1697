import StripeEntitlements.Credits.Collection
import StripeEntitlements.Credits.CreditService

/-!
# What Credit Operations Keep

Charging, collecting and reversing credits write a few counters. Everything else of the
rows they touch stays, rows are only added to the ledger, the debits and the allocations,
and the Invoice, plan and order tables are not written at all.

## Main results

- `CreditFrame` — the frame as one reflexive and transitive relation
- `collectPackDebtsFromLot_frame`, `collectPackDebtsFromSubscription_frame`,
  `collectClawbackDebts_frame`, `returnSubscriptionAtoms_frame` — the operations keep it
-/

namespace StripeEntitlements

open Relational

/-! ## Static parts -/

/-- Reasons under which atoms of a grant are taken back. -/
def LedgerReason.isRecovery : LedgerReason → Bool
  | .clawbackDebtCollection | .refundClawback | .disputeClawback | .annualRefundOvergrant => true
  | _ => false

/-- The ledger reasons of a reversal. -/
def LedgerReason.isReturn (reason : LedgerReason) : Prop :=
  reason = .usageRefund ∨ reason = .creditPackDebtRefund

theorem LedgerReason.isReturn.not_recovery {reason : LedgerReason} (h : reason.isReturn) :
    reason.isRecovery = false := by
  rcases h with rfl | rfl <;> rfl

/-- A ledger row that moves atoms without funding an Invoice slot. -/
structure LedgerRow.Settles (r : LedgerRow) : Prop where
  slot : r.grantSlot = none
  units : r.entitlementUnits = 0
  recovery : r.reason.isRecovery = true → r.delta ≤ 0

/-- An account without its balance. -/
def Account.static (a : Account) : Account := { a with creditsBalance := 0 }

/-- A lot without its counters and its expiry. -/
def FundingLot.static (l : FundingLot) : FundingLot :=
  { l with remainingCredits := 0, expiredCredits := 0, status := .active, closedAt := none }

/-- A pack debt without its progress. -/
def PackDebt.static (d : PackDebt) : PackDebt :=
  { d with collectedCredits := 0, releasedCredits := 0 }

/-- A clawback debt without its progress. -/
def ClawbackDebt.static (d : ClawbackDebt) : ClawbackDebt := { d with collectedUnits := 0 }

/-- A debit without its refund facts. -/
def Debit.static (d : Debit) : Debit := { d with restoredCredits := 0, refundedAt := none }

/-- An allocation without its refund progress. -/
def Allocation.static (a : Allocation) : Allocation := { a with refundedAmount := 0 }

section

variable {a a' : Account} {l l' : FundingLot} {p p' : PackDebt} {d d' : Debit}
  {x x' : Allocation}

theorem Account.id_of_static (h : a.static = a'.static) : a.id = a'.id :=
  (congrArg Account.id h : a.static.id = a'.static.id)

theorem FundingLot.id_of_static (h : l.static = l'.static) : l.id = l'.id :=
  (congrArg FundingLot.id h : l.static.id = l'.static.id)

theorem FundingLot.orderId_of_static (h : l.static = l'.static) : l.orderId = l'.orderId :=
  (congrArg FundingLot.orderId h : l.static.orderId = l'.static.orderId)

theorem FundingLot.clawed_of_static (h : l.static = l'.static) :
    l.cashClawedBackCredits = l'.cashClawedBackCredits :=
  (congrArg FundingLot.cashClawedBackCredits h :
    l.static.cashClawedBackCredits = l'.static.cashClawedBackCredits)

theorem FundingLot.original_of_static (h : l.static = l'.static) :
    l.originalCredits = l'.originalCredits :=
  (congrArg FundingLot.originalCredits h : l.static.originalCredits = l'.static.originalCredits)

theorem PackDebt.orderId_of_static (h : p.static = p'.static) : p.orderId = p'.orderId :=
  (congrArg PackDebt.orderId h : p.static.orderId = p'.static.orderId)

theorem PackDebt.target_of_static (h : p.static = p'.static) :
    p.targetCredits = p'.targetCredits :=
  (congrArg PackDebt.targetCredits h : p.static.targetCredits = p'.static.targetCredits)

theorem Debit.key_of_static (h : d.static = d'.static) :
    d.idempotencyKey = d'.idempotencyKey :=
  (congrArg Debit.idempotencyKey h : d.static.idempotencyKey = d'.static.idempotencyKey)

theorem Debit.kind_of_static (h : d.static = d'.static) : d.kind = d'.kind :=
  (congrArg Debit.kind h : d.static.kind = d'.static.kind)

theorem Debit.order_of_static (h : d.static = d'.static) :
    d.clawbackOrderId = d'.clawbackOrderId :=
  (congrArg Debit.clawbackOrderId h : d.static.clawbackOrderId = d'.static.clawbackOrderId)

theorem Allocation.debitKey_of_static (h : x.static = x'.static) : x.debitKey = x'.debitKey :=
  (congrArg Allocation.debitKey h : x.static.debitKey = x'.static.debitKey)

theorem Allocation.source_of_static (h : x.static = x'.static) : x.source = x'.source :=
  (congrArg Allocation.source h : x.static.source = x'.static.source)

end

/-! ## The frame -/

structure CreditFrame (b b' : Billing) : Prop where
  accounts : b'.accounts.rows.map Account.static = b.accounts.rows.map Account.static
  invoices : b'.invoices = b.invoices
  ledger : Table.Appends LedgerRow.Settles b.ledger b'.ledger
  debits : Table.Grows Debit.static b.debits b'.debits
  allocations : Table.Grows Allocation.static b.allocations b'.allocations
  orders : b'.orders = b.orders
  lots : b'.lots.rows.map FundingLot.static = b.lots.rows.map FundingLot.static
  packDebts : b'.packDebts.rows.map PackDebt.static = b.packDebts.rows.map PackDebt.static
  planChanges : b'.planChanges = b.planChanges
  fundings : b'.fundings = b.fundings
  clawbackDebts :
    b'.clawbackDebts.rows.map ClawbackDebt.static = b.clawbackDebts.rows.map ClawbackDebt.static
  claims : b'.claims = b.claims

namespace CreditFrame

variable {b b' b'' : Billing}

theorem refl (b : Billing) : CreditFrame b b where
  accounts := rfl
  invoices := rfl
  ledger := .refl _
  debits := .refl _
  allocations := .refl _
  orders := rfl
  lots := rfl
  packDebts := rfl
  planChanges := rfl
  fundings := rfl
  clawbackDebts := rfl
  claims := rfl

theorem trans (h : CreditFrame b b') (h' : CreditFrame b' b'') : CreditFrame b b'' where
  accounts := h'.accounts.trans h.accounts
  invoices := h'.invoices.trans h.invoices
  ledger := h.ledger.trans h'.ledger
  debits := h.debits.trans h'.debits
  allocations := h.allocations.trans h'.allocations
  orders := h'.orders.trans h.orders
  lots := h'.lots.trans h.lots
  packDebts := h'.packDebts.trans h.packDebts
  planChanges := h'.planChanges.trans h.planChanges
  fundings := h'.fundings.trans h.fundings
  clawbackDebts := h'.clawbackDebts.trans h.clawbackDebts
  claims := h'.claims.trans h.claims

/-! ### Single statements -/

theorem updateAccount {k : String} {f : Account → Account} {t : Table Account}
    (h : b.accounts.update? k f = some t) (hf : ∀ a, (f a).static = a.static) :
    CreditFrame b { b with accounts := t } :=
  { refl b with accounts := Table.map_updateWhere hf h }

theorem updateLots {p : FundingLot → Bool} {f : FundingLot → FundingLot} {t : Table FundingLot}
    (h : b.lots.updateWhere? p f = some t) (hf : ∀ l, (f l).static = l.static) :
    CreditFrame b { b with lots := t } :=
  { refl b with lots := Table.map_updateWhere hf h }

theorem updatePackDebts {p : PackDebt → Bool} {f : PackDebt → PackDebt} {t : Table PackDebt}
    (h : b.packDebts.updateWhere? p f = some t) (hf : ∀ d, (f d).static = d.static) :
    CreditFrame b { b with packDebts := t } :=
  { refl b with packDebts := Table.map_updateWhere hf h }

theorem updateClawbackDebt {k : ClawbackDebtKey} {f : ClawbackDebt → ClawbackDebt}
    {t : Table ClawbackDebt} (h : b.clawbackDebts.update? k f = some t)
    (hf : ∀ d, (f d).static = d.static) : CreditFrame b { b with clawbackDebts := t } :=
  { refl b with clawbackDebts := Table.map_updateWhere hf h }

theorem updateAllocations {p : Allocation → Bool} {f : Allocation → Allocation}
    {t : Table Allocation} (h : b.allocations.updateWhere? p f = some t)
    (hf : ∀ a, (f a).static = a.static) : CreditFrame b { b with allocations := t } :=
  { refl b with allocations := .updateWhere hf h }

theorem updateDebit {k : String} {f : Debit → Debit} {t : Table Debit}
    (h : b.debits.update? k f = some t) (hf : ∀ d, (f d).static = d.static) :
    CreditFrame b { b with debits := t } :=
  { refl b with debits := .update hf h }

theorem insertDebit {r : Debit} {t : Table Debit} (h : b.debits.insert? r = some t) :
    CreditFrame b { b with debits := t } :=
  { refl b with debits := .insert h }

theorem insertAllocation {r : Allocation} {t : Table Allocation}
    (h : b.allocations.insert? r = some t) : CreditFrame b { b with allocations := t } :=
  { refl b with allocations := .insert h }

theorem insertLedger {accountId : String} {delta : Int} {balanceAfter : Nat}
    {reason : LedgerReason} {grantEpoch : Nat} {eventId : String} {invoiceId : Option String}
    (h : b.insertLedger accountId delta balanceAfter reason grantEpoch eventId invoiceId none 0
      = .ok b') (hreason : reason.isRecovery = true → delta ≤ 0) : CreditFrame b b' := by
  rw [Billing.insertLedger, Billing.insert_eq_ok] at h
  obtain ⟨t, ht, rfl⟩ := h
  exact { refl b with ledger := .insert ht ⟨rfl, rfl, hreason⟩ }

end CreditFrame

/-! ## Collectors -/

variable {tx : Tx} {b b' : Billing}

theorem collectPackDebt_frame {grantEpoch amount : Nat} {lotId : Option String} {debt : PackDebt}
    (h : collectPackDebt tx grantEpoch lotId b debt amount = .ok b') : CreditFrame b b' := by
  obtain ⟨debts, debits, allocations, hdebts, hdebits, -, hall, rfl⟩ := collectPackDebt_eq_ok h
  have h₁ : CreditFrame b { b with packDebts := debts } := .updatePackDebts hdebts fun _ => rfl
  have h₂ : CreditFrame { b with packDebts := debts }
      { b with packDebts := debts, debits := debits } := .insertDebit hdebits
  exact (h₁.trans h₂).trans (.insertAllocation hall)

theorem collectPackDebtsFromLot_frame {accountId lotId : String} {available collected : Nat}
    (h : collectPackDebtsFromLot tx b accountId lotId available = .ok (b', collected)) :
    CreditFrame b b' := by
  obtain ⟨_, b₁, _, -, hdrain, -, lots, hlots, rfl⟩ := collectPackDebtsFromLot_eq_ok h
  have hloop : CreditFrame b b₁ := drain_rule (P := fun _ s => CreditFrame b s)
    (fun _ _ _ _ _ _ _ hs hbody => hs.trans (collectPackDebt_frame hbody)) (.refl b) hdrain
  exact hloop.trans (.updateLots hlots fun _ => rfl)

/-- One collection from the subscription balance is a collection and a ledger row. -/
theorem subscriptionCollection_eq_ok {accountId eventId : String} {grantEpoch amount left : Nat}
    {debt : PackDebt}
    (h : (do
      let b ← collectPackDebt tx grantEpoch none b debt amount
      b.insertLedger accountId (-amount) left .creditPackDebtCollection grantEpoch eventId
        none none 0) = .ok b') :
    ∃ b₁, collectPackDebt tx grantEpoch none b debt amount = .ok b₁ ∧ CreditFrame b₁ b' ∧
      b'.lots = b₁.lots ∧ b'.packDebts = b₁.packDebts ∧ b'.debits = b₁.debits ∧
      b'.allocations = b₁.allocations := by
  simp only [bind_eq_ok] at h
  obtain ⟨b₁, hcollect, hledger⟩ := h
  have hframe := CreditFrame.insertLedger hledger nofun
  simp only [Billing.insertLedger, Billing.insert_eq_ok] at hledger
  obtain ⟨t, -, rfl⟩ := hledger
  exact ⟨b₁, hcollect, hframe, rfl, rfl, rfl, rfl⟩

theorem collectPackDebtsFromSubscription_frame {accountId eventId : String}
    {grantEpoch collected : Nat}
    (h : collectPackDebtsFromSubscription tx b accountId grantEpoch eventId = .ok (b', collected)) :
    CreditFrame b b' := by
  obtain ⟨_, b₁, _, -, hdrain, -, hend⟩ := collectPackDebtsFromSubscription_eq_ok h
  have hloop : CreditFrame b b₁ := by
    refine drain_rule (P := fun _ s => CreditFrame b s) ?_ (.refl b) hdrain
    intro _ _ _ s s' _ _ hs hbody
    obtain ⟨s₁, hcollect, hframe, -⟩ := subscriptionCollection_eq_ok hbody
    exact (hs.trans (collectPackDebt_frame hcollect)).trans hframe
  rcases hend with ⟨-, rfl⟩ | ⟨accounts, haccounts, rfl⟩
  · exact hloop
  · exact hloop.trans (.updateAccount haccounts fun _ => rfl)

theorem collectClawbackDebts_frame {accountId eventId : String} {grantEpoch collected : Nat}
    (h : collectClawbackDebts b accountId grantEpoch eventId = .ok (b', collected)) :
    CreditFrame b b' := by
  obtain ⟨_, b₁, _, -, hdrain, -, hend⟩ := collectClawbackDebts_eq_ok h
  have hloop : CreditFrame b b₁ := by
    refine drain_rule (P := fun _ s => CreditFrame b s) ?_ (.refl b) hdrain
    intro _ _ _ s s' _ _ hs hbody
    simp only [collectClawbackDebt, bind_eq_ok, Billing.update_eq_ok] at hbody
    obtain ⟨_, ⟨debts, hdebts, rfl⟩, hledger⟩ := hbody
    exact (hs.trans (.updateClawbackDebt hdebts fun _ => rfl)).trans
      (.insertLedger hledger fun _ => by omega)
  rcases hend with ⟨-, rfl⟩ | ⟨accounts, haccounts, rfl⟩
  · exact hloop
  · exact hloop.trans (.updateAccount haccounts fun _ => rfl)

/-! ## Returns -/

/-- A spendable return books the atoms and then runs both collectors. -/
theorem returnSubscriptionAtoms_eq_ok {account : Account} {amount returned : Nat}
    {eventId : String} {reason : LedgerReason}
    (h : returnSubscriptionAtoms tx b account amount eventId reason = .ok (b', returned)) :
    (subscriptionCreditsAreSpendable account tx.wall = false ∧ b' = b ∧ returned = 0) ∨
    (subscriptionCreditsAreSpendable account tx.wall = true ∧ returned = amount ∧
      ∃ current accounts b₁ b₂ c₁ c₂,
        b.accounts.find? account.id = some current ∧
        b.accounts.update? account.id
          (fun a => { a with creditsBalance := current.creditsBalance + amount }) = some accounts ∧
        ({ b with accounts := accounts } : Billing).insertLedger account.id amount
          (current.creditsBalance + amount) reason account.grantEpoch eventId none none 0 = .ok b₁ ∧
        collectClawbackDebts b₁ account.id account.grantEpoch eventId = .ok (b₂, c₁) ∧
        collectPackDebtsFromSubscription tx b₂ account.id account.grantEpoch eventId =
          .ok (b', c₂)) := by
  unfold returnSubscriptionAtoms at h
  split at h
  case isTrue hun =>
    rw [pure_eq_ok] at h
    cases h
    exact .inl ⟨by simpa using hun, rfl, rfl⟩
  case isFalse hsp =>
    simp only [bind_eq_ok, fetch_eq_ok, checkedAddAtoms_eq_ok, Billing.update_eq_ok, pure_eq_ok,
      Stored.table, Stored.install] at h
    obtain ⟨current, hcurrent, _, ⟨rfl, -⟩, _, ⟨accounts, haccounts, rfl⟩, b₁, hledger, ⟨b₂, c₁⟩,
      hclaw, ⟨b₃, c₂⟩, hpack, heq⟩ := h
    cases heq
    exact .inr ⟨by simpa using hsp, rfl, current, accounts, b₁, b₂, c₁, c₂, hcurrent, haccounts,
      hledger, hclaw, hpack⟩

theorem returnSubscriptionAtoms_frame {account : Account} {amount returned : Nat}
    {eventId : String} {reason : LedgerReason} (hreason : reason.isReturn)
    (h : returnSubscriptionAtoms tx b account amount eventId reason = .ok (b', returned)) :
    CreditFrame b b' := by
  rcases returnSubscriptionAtoms_eq_ok h with ⟨-, rfl, -⟩ |
    ⟨-, -, _, accounts, _, _, _, _, -, haccounts, hledger, hclaw, hpack⟩
  · exact .refl _
  · have h₁ : CreditFrame b { b with accounts := accounts } :=
      .updateAccount haccounts fun _ => rfl
    have h₂ := CreditFrame.insertLedger hledger fun hr => by simp [hreason.not_recovery] at hr
    exact ((h₁.trans h₂).trans (collectClawbackDebts_frame hclaw)).trans
      (collectPackDebtsFromSubscription_frame hpack)

end StripeEntitlements
