import StripeEntitlements.Credits.PackTransitions
import StripeEntitlements.Ledger.ClawbackPostings
import StripeEntitlements.Redelivery.Packs
import StripeEntitlements.Redelivery.Subscriptions

/-!
# Pack Tables Outside the Pack Services

Invoices, Subscriptions and the annual worker reach the pack tables in one way: they settle
pack debts from a subscription balance. A Checkout Session writes identities onto an order.
Everything else leaves orders, lots, debts, debits and allocations alone.

## Main results

- `SamePacks` — the pack tables are the same but for the identities of orders
- `PackSteps` — steps that keep the pack tables, or collect from a balance
- `invoicePaid_packSteps`, `grantDue_packSteps` — the two handlers that collect
-/

namespace StripeEntitlements

open Relational

variable {cfg : Config} {tx : Tx} {b b' : Billing} {e : Event} {effect : Effect}

/-! ## The same pack tables -/

/-- A pack order without its Checkout, its claims and the Stripe objects bound to it. -/
def PackOrder.cash (o : PackOrder) : PackOrder :=
  { o.unclaimed with
    stripePaymentIntentId := none
    stripeChargeId := none
    stripeCustomerId := none }

/-- The pack tables hold the same funding. -/
structure SamePacks (b b' : Billing) : Prop where
  orders : ∀ k, (b'.orders.find? k).map PackOrder.cash = (b.orders.find? k).map PackOrder.cash
  lots : b'.lots = b.lots
  packDebts : b'.packDebts = b.packDebts
  debits : b'.debits = b.debits
  allocations : b'.allocations = b.allocations

namespace SamePacks

theorem refl (b : Billing) : SamePacks b b := ⟨fun _ => rfl, rfl, rfl, rfl, rfl⟩

theorem of_eq (h : b' = b) : SamePacks b b' := h ▸ refl b

theorem trans {b'' : Billing} (h : SamePacks b b') (h' : SamePacks b' b'') : SamePacks b b'' where
  orders k := (h'.orders k).trans (h.orders k)
  lots := h'.lots.trans h.lots
  packDebts := h'.packDebts.trans h.packDebts
  debits := h'.debits.trans h.debits
  allocations := h'.allocations.trans h.allocations

/-- An update of orders that writes only identities. -/
theorem updateOrders {p : PackOrder → Bool} {f : PackOrder → PackOrder} {t : Table PackOrder}
    (h : b.orders.updateWhere? p f = some t) (hid : ∀ o, (f o).id = o.id)
    (hf : ∀ o, (f o).cash = o.cash) : SamePacks b { b with orders := t } := by
  refine ⟨fun k => ?_, rfl, rfl, rfl, rfl⟩
  rw [Table.find?_updateWhere h hid, Option.map_map]
  congr 1
  funext o
  simp only [Function.comp_apply]
  split
  · exact hf o
  · rfl

/-- Every order is still there, with its cash columns. -/
theorem order (h : SamePacks b b') {k : String} {o : PackOrder}
    (ho : b.orders.find? k = some o) :
    ∃ o', b'.orders.find? k = some o' ∧ o'.cash = o.cash := by
  have hk := h.orders k
  rw [ho, Option.map_some, Option.map_eq_some_iff] at hk
  exact hk

end SamePacks

/-! ## Steps -/

/-- One statement keeps the pack tables, or settles pack debts from a balance. -/
inductive PackStep (tx : Tx) (b b' : Billing) : Prop
  | same (h : SamePacks b b')
  | collect {accountId eventId : String} {grantEpoch collected : Nat}
      (h : collectPackDebtsFromSubscription tx b accountId grantEpoch eventId = .ok (b', collected))

abbrev PackSteps (tx : Tx) : Billing → Billing → Prop := Relation.ReflTransGen (PackStep tx)

theorem SamePacks.steps (h : SamePacks b b') : PackSteps tx b b' := .single (.same h)

/-- An invariant of the pack tables that the collector keeps. -/
theorem PackSteps.keeps {P : Billing → Prop} (hsame : ∀ {b b'}, SamePacks b b' → P b → P b')
    (hcollect : ∀ {b b' accountId eventId grantEpoch collected},
      collectPackDebtsFromSubscription tx b accountId grantEpoch eventId = .ok (b', collected) →
      P b → P b')
    (h : PackSteps tx b b') (hb : P b) : P b' := by
  induction h with
  | refl => exact hb
  | tail _ hstep ih =>
    cases hstep with
    | same h => exact hsame h ih
    | collect h => exact hcollect h ih

/-! ## Invoices -/

theorem insertLedger_packs {accountId : String} {delta : Int} {balanceAfter : Nat}
    {reason : LedgerReason} {grantEpoch : Nat} {eventId : String} {invoiceId : Option String}
    {slot : Option Nat} {units : Nat}
    (h : b.insertLedger accountId delta balanceAfter reason grantEpoch eventId invoiceId slot units
      = .ok b') : SamePacks b b' := by
  rw [Billing.insertLedger, Billing.insert_eq_ok] at h
  obtain ⟨ledger, -, rfl⟩ := h
  exact ⟨fun _ => rfl, rfl, rfl, rfl, rfl⟩

theorem chargeSubscription_packs {account : Account} {key : String} {used : Nat}
    (h : chargeSubscription b account key used = .ok b') : SamePacks b b' := by
  unfold chargeSubscription at h
  split at h
  · rw [pure_eq_ok] at h
    exact .of_eq h.symm
  · simp only [bind_eq_ok, Billing.update_eq_ok, Stored.table, Stored.install] at h
    obtain ⟨_, ⟨accounts, -, rfl⟩, hledger⟩ := h
    have haccounts : SamePacks b { b with accounts := accounts } := ⟨fun _ => rfl, rfl, rfl, rfl, rfl⟩
    exact haccounts.trans (insertLedger_packs hledger)

theorem removeFromBalance_packs {accountId eventId invoiceId : String}
    {balance removed grantEpoch : Nat} {reason : LedgerReason}
    (h : removeFromBalance b accountId balance removed grantEpoch reason eventId invoiceId =
      .ok b') : SamePacks b b' := by
  rcases removeFromBalance_eq_ok h with ⟨-, rfl⟩ | ⟨-, accounts, -, hledger⟩
  · exact .refl _
  · have haccounts : SamePacks b { b with accounts := accounts } := ⟨fun _ => rfl, rfl, rfl, rfl, rfl⟩
    exact haccounts.trans (insertLedger_packs hledger)

theorem applyClawbackToGrant_packs {accountId invoiceId eventId : String}
    {grantId units amount amountRefunded removed : Nat} {full : Bool} {reason : LedgerReason}
    (h : applyClawbackToGrant tx b accountId invoiceId grantId units amount amountRefunded full
      reason eventId = .ok (b', removed)) : SamePacks b b' := by
  obtain ⟨_, _, b₁, -, -, -, hremove, hdebt⟩ := applyClawbackToGrant_eq_ok h
  obtain ⟨debts, rfl⟩ := raiseClawbackDebt_eq_ok hdebt
  exact (removeFromBalance_packs hremove).trans ⟨fun _ => rfl, rfl, rfl, rfl, rfl⟩

theorem collectClawbackDebts_packs {accountId eventId : String} {grantEpoch collected : Nat}
    (h : collectClawbackDebts b accountId grantEpoch eventId = .ok (b', collected)) :
    SamePacks b b' := by
  obtain ⟨_, b₁, _, -, hdrain, -, hend⟩ := collectClawbackDebts_eq_ok h
  have hloop : SamePacks b b₁ := by
    refine drain_rule (P := fun _ s => SamePacks b s) ?_ (.refl b) hdrain
    intro _ _ _ s s' _ _ hs hbody
    simp only [collectClawbackDebt, bind_eq_ok, Billing.update_eq_ok] at hbody
    obtain ⟨_, ⟨debts, -, rfl⟩, hledger⟩ := hbody
    have hdebts : SamePacks s { s with clawbackDebts := debts } := ⟨fun _ => rfl, rfl, rfl, rfl, rfl⟩
    exact (hs.trans hdebts).trans (insertLedger_packs hledger)
  rcases hend with ⟨-, rfl⟩ | ⟨accounts, -, rfl⟩
  · exact hloop
  · exact hloop.trans ⟨fun _ => rfl, rfl, rfl, rfl, rfl⟩

theorem settlePeriod_packSteps {p : PaidInvoice} {t : PeriodTerms} {state : InvoiceState}
    {grantId : Nat} (h : settlePeriod tx b e p t state grantId = .ok b') : PackSteps tx b b' := by
  unfold settlePeriod at h
  split at h
  · simp only [bind_eq_ok, pure_eq_ok] at h
    obtain ⟨⟨b₁, _⟩, hclaw, _, rfl, ⟨b₂, _⟩, hcollect, rfl⟩ := h
    exact (applyClawbackToGrant_packs hclaw).steps.tail (.collect hcollect)
  · simp only [bind_eq_ok, pure_eq_ok] at h
    obtain ⟨_, rfl, ⟨b₂, _⟩, hcollect, rfl⟩ := h
    exact .single (.collect hcollect)

theorem settleTransition_packs {transition : PlanChange} {invoiceId : String}
    {status : PlanChangeStatus} {lastError : Option String}
    (h : settleTransition b transition invoiceId status lastError = .ok b') : SamePacks b b' := by
  obtain ⟨planChanges, rfl, -⟩ := settleTransition_eq_ok h
  exact ⟨fun _ => rfl, rfl, rfl, rfl, rfl⟩

theorem grantPeriod_packSteps {p : PaidInvoice} {t : PeriodTerms} {slots : PeriodSlots}
    {state : InvoiceState} {transition : Option PlanChange}
    (h : grantPeriod cfg tx b e p t slots state transition = .ok effect) :
    PackSteps tx b effect.billing := by
  simp only [grantPeriod, bind_eq_ok, Billing.update_eq_ok, Stored.install] at h
  obtain ⟨_, ⟨accounts, -, rfl⟩, b₁, hledger, _, ⟨invoices, -, rfl⟩, b₂, hsettle, hcomplete⟩ := h
  have hgranted : SamePacks b { b₁ with invoices := invoices } := by
    have haccounts : SamePacks b { b with accounts := accounts } := ⟨fun _ => rfl, rfl, rfl, rfl, rfl⟩
    exact (haccounts.trans (insertLedger_packs hledger)).trans ⟨fun _ => rfl, rfl, rfl, rfl, rfl⟩
  have hcompleted : SamePacks b₂ effect.billing := by
    simp only [completeTransition] at hcomplete
    split at hcomplete
    · rw [pure_eq_ok] at hcomplete
      exact .of_eq (hcomplete ▸ rfl)
    · simp only [bind_eq_ok, pure_eq_ok] at hcomplete
      obtain ⟨b₃, htransition, rfl⟩ := hcomplete
      exact settleTransition_packs htransition
  exact (hgranted.steps.trans (settlePeriod_packSteps hsettle)).trans hcompleted.steps

theorem applyPeriod_packSteps {p : PaidInvoice} {t : PeriodTerms} {transition : Option PlanChange}
    (h : applyPeriod cfg tx b e p t transition = .ok effect) : PackSteps tx b effect.billing := by
  obtain ⟨invoices, -, h⟩ := applyPeriod_eq_ok h
  have hrecorded : SamePacks b { b with invoices := invoices } := ⟨fun _ => rfl, rfl, rfl, rfl, rfl⟩
  refine hrecorded.steps.trans ?_
  split at h
  · simp only [blockPeriod, bind_eq_ok, Billing.update_eq_ok, Stored.install] at h
    obtain ⟨b₁, hledger, _, ⟨invoices', -, rfl⟩, h⟩ := h
    have hinvoice : SamePacks b₁ { b₁ with invoices := invoices' } :=
      ⟨fun _ => rfl, rfl, rfl, rfl, rfl⟩
    have hmarked := (insertLedger_packs hledger).trans hinvoice
    split at h
    · simp only [bind_eq_ok, pure_eq_ok] at h
      obtain ⟨_, rfl, rfl⟩ := h
      exact hmarked.steps
    · simp only [bind_eq_ok, pure_eq_ok] at h
      obtain ⟨b₂, htransition, rfl⟩ := h
      exact (hmarked.trans (settleTransition_packs htransition)).steps
  · exact grantPeriod_packSteps h

theorem settleDelta_packSteps {p : PaidInvoice} {f : DeltaFunding} {state : InvoiceState}
    {grantId : Nat} (h : settleDelta tx b e p f state grantId = .ok b') : PackSteps tx b b' := by
  simp only [settleDelta, bind_eq_ok] at h
  obtain ⟨⟨b₁, _⟩, hclaw, ⟨b₂, _⟩, hcollect, h⟩ := h
  have hcollected := (collectClawbackDebts_packs hclaw).steps.tail (.collect hcollect)
  split at h
  · rw [pure_eq_ok] at h
    exact h ▸ hcollected
  · simp only [bind_eq_ok, pure_eq_ok] at h
    obtain ⟨⟨b₃, _⟩, hown, rfl⟩ := h
    exact hcollected.trans (applyClawbackToGrant_packs hown).steps

theorem applyDelta_packSteps {p : PaidInvoice} {transition : PlanChange} {f : DeltaFunding}
    (h : applyDelta tx b e p transition f = .ok effect) : PackSteps tx b effect.billing := by
  -- a conflicting allocation stops the delta after its facts are recorded
  obtain ⟨invoices, -, ⟨-, hb⟩ | ⟨-, fundings, -, h⟩⟩ := applyDelta_eq_ok h
  · rw [hb]
    exact SamePacks.steps ⟨fun _ => rfl, rfl, rfl, rfl, rfl⟩
  have hrecorded : SamePacks b { b with invoices := invoices, fundings := fundings } :=
    ⟨fun _ => rfl, rfl, rfl, rfl, rfl⟩
  refine hrecorded.steps.trans ?_
  -- a closed Invoice writes the ledger only; an open one settles the debts of the account
  split at h
  · simp only [blockDelta, bind_eq_ok, Billing.update_eq_ok, pure_eq_ok, Stored.install] at h
    obtain ⟨b₁, hledger, _, ⟨invoices', -, rfl⟩, _, ⟨planChanges, -, rfl⟩, rfl⟩ := h
    have hmarked : SamePacks b₁ { b₁ with invoices := invoices', planChanges := planChanges } :=
      ⟨fun _ => rfl, rfl, rfl, rfl, rfl⟩
    exact ((insertLedger_packs hledger).trans hmarked).steps
  · simp only [grantDelta, bind_eq_ok, Billing.update_eq_ok, pure_eq_ok, Stored.install] at h
    obtain ⟨_, -, _, ⟨accounts, -, rfl⟩, b₁, hledger, _, ⟨invoices', -, rfl⟩, b₂, hsettle, _,
      ⟨planChanges, -, rfl⟩, rfl⟩ := h
    have hprojected : SamePacks { b with invoices := invoices, fundings := fundings }
        { b with accounts := accounts, invoices := invoices, fundings := fundings } :=
      ⟨fun _ => rfl, rfl, rfl, rfl, rfl⟩
    have hinvoice : SamePacks b₁ { b₁ with invoices := invoices' } :=
      ⟨fun _ => rfl, rfl, rfl, rfl, rfl⟩
    have hcompleted : SamePacks b₂ { b₂ with planChanges := planChanges } :=
      ⟨fun _ => rfl, rfl, rfl, rfl, rfl⟩
    have hgranted := (hprojected.trans (insertLedger_packs hledger)).trans hinvoice
    exact (hgranted.steps.trans (settleDelta_packSteps hsettle)).trans hcompleted.steps

/-- **A paid Invoice** reaches the pack tables through the collector alone. -/
theorem invoicePaid_packSteps (h : invoicePaid cfg tx b e = .ok effect) :
    PackSteps tx b effect.billing := by
  rcases Guarded.andThen_eq_ok h with ⟨hb, -⟩ | ⟨p, -, h⟩
  · exact (SamePacks.of_eq hb).steps
  -- a prorated Invoice upgrades, any other settles its period
  split at h
  · rcases Guarded.andThen_eq_ok h with ⟨hb, -⟩ | ⟨f, -, h⟩
    · exact (SamePacks.of_eq hb).steps
    · exact applyDelta_packSteps h
  · rcases Guarded.andThen_eq_ok h with ⟨hb, -⟩ | ⟨t, -, h⟩
    · exact (SamePacks.of_eq hb).steps
    -- the slot decides: a replay writes the account, a free slot is granted
    cases hslot : firstSlotGrant b p.invoiceId with
    | some existing =>
      simp only [hslot] at h
      rcases Guarded.andThen_eq_ok h with ⟨hb, -⟩ | ⟨_, -, h⟩
      · exact (SamePacks.of_eq hb).steps
      split at h
      · simp only [bind_eq_ok, Billing.update_eq_ok, pure_eq_ok, Stored.install] at h
        obtain ⟨_, ⟨accounts, -, rfl⟩, rfl⟩ := h
        exact SamePacks.steps ⟨fun _ => rfl, rfl, rfl, rfl, rfl⟩
      · simp only [bind_eq_ok, pure_eq_ok] at h
        obtain ⟨_, rfl, rfl⟩ := h
        exact (SamePacks.refl _).steps
    | none =>
      simp only [hslot] at h
      rcases Guarded.andThen_eq_ok h with ⟨hb, -⟩ | ⟨transition, -, h⟩
      · exact (SamePacks.of_eq hb).steps
      · exact applyPeriod_packSteps h

theorem clawEntitlement_packs {c : ClawbackTarget} (h : clawEntitlement tx b e c = .ok effect) :
    SamePacks b effect.billing := by
  -- none of the five writes is to a pack table
  obtain ⟨b₁, removed, b₂, b₃, b₄, hb₁, hb₂, hb₃, hb₄, hlast⟩ := clawEntitlement_eq_ok h
  -- the balance is clawed from the account or from the grant of the Invoice
  have h₁ : SamePacks b b₁ := by
    unfold clawBalance at hb₁
    split at hb₁
    · simp only [bind_eq_ok, pure_eq_ok] at hb₁
      obtain ⟨_, hremove, heq⟩ := hb₁
      cases heq
      exact removeFromBalance_packs hremove
    · exact applyClawbackToGrant_packs hb₁
  have h₂ : SamePacks b₁ b₂ := by
    split at hb₂
    · exact .of_eq hb₂
    · simp only [revertLeaf, bind_eq_ok, Billing.update_eq_ok, Stored.install] at hb₂
      obtain ⟨_, -, _, ⟨accounts, -, rfl⟩, _, ⟨fundings, -, rfl⟩, b₅, hledger, planChanges, -,
        rfl⟩ := hb₂
      have hreverted : SamePacks b₁ { b₁ with accounts := accounts, fundings := fundings } :=
        ⟨fun _ => rfl, rfl, rfl, rfl, rfl⟩
      have hplan : SamePacks b₅ { b₅ with planChanges := planChanges } :=
        ⟨fun _ => rfl, rfl, rfl, rfl, rfl⟩
      exact (hreverted.trans (insertLedger_packs hledger)).trans hplan
  have h₃ : SamePacks b₂ b₃ := by
    unfold limitAnnualSlots at hb₃
    split at hb₃
    · rw [Billing.update_eq_ok] at hb₃
      obtain ⟨accounts, -, rfl⟩ := hb₃
      exact ⟨fun _ => rfl, rfl, rfl, rfl, rfl⟩
    · rw [pure_eq_ok] at hb₃
      exact .of_eq hb₃.symm
  have h₄ : SamePacks b₃ b₄ := by
    split at hb₄
    · rw [revokeEntitlement, Billing.update_eq_ok] at hb₄
      obtain ⟨accounts, -, rfl⟩ := hb₄
      exact ⟨fun _ => rfl, rfl, rfl, rfl, rfl⟩
    · exact .of_eq hb₄
  have h₅ : SamePacks b₄ effect.billing := by
    split at hlast
    · rw [Billing.update_eq_ok] at hlast
      obtain ⟨invoices, -, hb⟩ := hlast
      rw [← hb]
      exact ⟨fun _ => rfl, rfl, rfl, rfl, rfl⟩
    · exact .of_eq hlast
  exact (((h₁.trans h₂).trans h₃).trans h₄).trans h₅

/-- A clawback of an Invoice leaves the pack tables alone. -/
theorem clawback_packs (h : clawback cfg tx b e = .ok effect) : SamePacks b effect.billing := by
  rcases clawback_eq_ok h with ⟨hb, -⟩ |
    ⟨f, invoices, -, ⟨-, -, hb⟩ | ⟨account, fundings, -, -, -, hend⟩⟩
  · exact .of_eq hb
  · rw [hb]
    exact ⟨fun _ => rfl, rfl, rfl, rfl, rfl⟩
  · rcases hend with ⟨-, hb⟩ | ⟨c, -, -, -, hclaw⟩
    · rw [hb]
      exact ⟨fun _ => rfl, rfl, rfl, rfl, rfl⟩
    · have hrecorded : SamePacks b { b with invoices := invoices, fundings := fundings } :=
        ⟨fun _ => rfl, rfl, rfl, rfl, rfl⟩
      exact hrecorded.trans (clawEntitlement_packs hclaw)

/-! ## Subscriptions -/

theorem paymentFailed_packs (h : paymentFailed cfg b e = .ok effect) :
    SamePacks b effect.billing := by
  rcases Guarded.andThen_eq_ok h with ⟨hb, -⟩ | ⟨f, -, h⟩
  · exact .of_eq hb
  split at h
  · rcases failPlanChange_eq_ok h with ⟨hb, -⟩ | ⟨_, planChanges, -, -, -, hb⟩
    · exact .of_eq hb
    · rw [hb]
      exact ⟨fun _ => rfl, rfl, rfl, rfl, rfl⟩
  · rcases failRenewal_eq_ok h with ⟨-, hb⟩ | ⟨-, accounts, -, hb⟩
    · exact .of_eq hb
    · rw [hb]
      exact ⟨fun _ => rfl, rfl, rfl, rfl, rfl⟩

theorem subscriptionUpdated_packs (h : subscriptionUpdated cfg b e = .ok effect) :
    SamePacks b effect.billing := by
  rcases Guarded.andThen_eq_ok h with ⟨hb, -⟩ | ⟨f, -, h⟩
  · exact .of_eq hb
  unfold applySubscription at h
  split at h
  · rw [pure_eq_ok] at h
    exact .of_eq (h ▸ rfl)
  · simp only [bind_eq_ok, Billing.update_eq_ok, pure_eq_ok, Stored.install] at h
    obtain ⟨_, ⟨accounts, -, rfl⟩, rfl⟩ := h
    simp only [consumeClaim]
    split <;> exact ⟨fun _ => rfl, rfl, rfl, rfl, rfl⟩

theorem subscriptionDeleted_packs (h : subscriptionDeleted cfg b e = .ok effect) :
    SamePacks b effect.billing := by
  rcases Guarded.andThen_eq_ok h with ⟨hb, -⟩ | ⟨account, -, h⟩
  · exact .of_eq hb
  simp only [applyDeletion, bind_eq_ok, Billing.update_eq_ok, Stored.install] at h
  obtain ⟨_, ⟨accounts, -, rfl⟩, h⟩ := h
  have hdeleted (claims : Table CheckoutClaim) :
      SamePacks b { b with accounts := accounts, claims := claims } :=
    ⟨fun _ => rfl, rfl, rfl, rfl, rfl⟩
  split at h
  · simp only [bind_eq_ok, pure_eq_ok, Billing.updateWhere_eq_ok, Stored.install] at h
    obtain ⟨_, rfl, _, ⟨planChanges, -, rfl⟩, rfl⟩ := h
    exact ⟨fun _ => rfl, rfl, rfl, rfl, rfl⟩
  · simp only [bind_eq_ok, pure_eq_ok, Billing.updateWhere_eq_ok, Stored.install] at h
    obtain ⟨b₁, hledger, _, ⟨planChanges, -, rfl⟩, rfl⟩ := h
    have hplans : SamePacks b₁ { b₁ with planChanges := planChanges } :=
      ⟨fun _ => rfl, rfl, rfl, rfl, rfl⟩
    exact ((hdeleted _).trans (insertLedger_packs hledger)).trans hplans

theorem checkoutCompleted_packs (h : checkoutCompleted cfg b e = .ok effect) :
    SamePacks b effect.billing := by
  rcases Guarded.andThen_eq_ok h with ⟨hb, -⟩ | ⟨s, -, h⟩
  · exact .of_eq hb
  simp only [bind_eq_ok, Billing.update_eq_ok, pure_eq_ok, Stored.install] at h
  obtain ⟨_, ⟨accounts, -, rfl⟩, rfl⟩ := h
  exact ⟨fun _ => rfl, rfl, rfl, rfl, rfl⟩

theorem checkoutExpired_packs (h : checkoutExpired b e = .ok effect) :
    SamePacks b effect.billing := by
  rcases checkoutExpired_eq_ok h with hb | ⟨hb, -⟩
  · rw [hb]
    exact ⟨fun _ => rfl, rfl, rfl, rfl, rfl⟩
  · exact .of_eq hb

/-! ## Pack Checkouts -/

theorem bindCustomer_packs {account : Account} {customerId : Option String}
    (h : bindCustomer b account customerId = .ok b') : SamePacks b b' := by
  obtain ⟨accounts, rfl⟩ := bindCustomer_eq_ok h
  exact ⟨fun _ => rfl, rfl, rfl, rfl, rfl⟩

theorem packCheckout_packs {sessionId : String} {order : PackOrder}
    (h : packCheckout cfg b e sessionId order = .ok effect) : SamePacks b effect.billing := by
  rcases Guarded.andThen_eq_ok h with ⟨hb, -⟩ | ⟨account, -, h⟩
  · exact .of_eq hb
  simp only [bind_eq_ok] at h
  obtain ⟨b₁, hattach, h⟩ := h
  have hattached : SamePacks b b₁ := by
    unfold attachPackSession at hattach
    split at hattach
    · rw [Billing.update_eq_ok] at hattach
      obtain ⟨orders, horders, rfl⟩ := hattach
      exact .updateOrders horders (fun _ => rfl) fun _ => rfl
    · rw [pure_eq_ok] at hattach
      exact .of_eq hattach.symm
  -- an expiry or a completion writes the order's Checkout columns, which are not its cash
  refine hattached.trans ?_
  split at h
  · unfold expirePackCheckout at h
    split at h
    · simp only [bind_eq_ok, Billing.update_eq_ok, pure_eq_ok] at h
      obtain ⟨_, ⟨orders, horders, rfl⟩, rfl⟩ := h
      exact .updateOrders horders (fun _ => rfl) fun _ => rfl
    · simp only [bind_eq_ok, pure_eq_ok] at h
      obtain ⟨_, rfl, rfl⟩ := h
      exact .refl _
  · simp only [completePackCheckout] at h
    split at h
    · rw [pure_eq_ok] at h
      exact .of_eq (h ▸ rfl)
    · simp only [bind_eq_ok, Billing.updateWhere_eq_ok, pure_eq_ok] at h
      obtain ⟨_, ⟨orders, horders, rfl⟩, b₂, hbind, rfl⟩ := h
      exact (SamePacks.updateOrders horders (fun _ => rfl) fun _ => rfl).trans
        (bindCustomer_packs hbind)

theorem packCheckoutEvent_packs {run : Transaction Effect}
    (hrun : packCheckoutEvent cfg b e = some run) (h : run = .ok effect) :
    SamePacks b effect.billing := by
  rcases packCheckoutEvent_order hrun h with hb | ⟨_, _, -, -, hcheckout⟩
  · exact .of_eq hb
  · exact packCheckout_packs hcheckout

/-! ## The annual worker -/

/-- **The annual worker** reaches the pack tables through the collector alone. -/
theorem grantDue_packSteps {accountId : String} {now : Option Int} {snapshot : SubscriptionSnapshot}
    (h : grantDue cfg tx b accountId now snapshot = .ok effect) : PackSteps tx b effect.billing := by
  rcases Guarded.andThen_eq_ok h with ⟨hb, -⟩ | ⟨⟨account, plan⟩, -, h⟩
  · exact (SamePacks.of_eq hb).steps
  simp only [applyAnnualGrant] at h
  split at h
  · rw [pure_eq_ok] at h
    exact (SamePacks.of_eq (h ▸ rfl)).steps
  split at h
  · rw [pure_eq_ok] at h
    exact (SamePacks.of_eq (h ▸ rfl)).steps
  split at h
  · simp only [bind_eq_ok, Billing.update_eq_ok, pure_eq_ok, Stored.install] at h
    obtain ⟨_, ⟨accounts, -, rfl⟩, rfl⟩ := h
    exact SamePacks.steps ⟨fun _ => rfl, rfl, rfl, rfl, rfl⟩
  · simp only [grantAnnualSlot, bind_eq_ok, Billing.update_eq_ok, pure_eq_ok, Stored.install] at h
    obtain ⟨b₁, ⟨_, ⟨accounts, -, rfl⟩, b₂, hledger, _, ⟨invoices, -, rfl⟩, ⟨b₃, _⟩, hcollect,
      rfl⟩, rfl⟩ := h
    have haccounts : SamePacks b { b with accounts := accounts } :=
      ⟨fun _ => rfl, rfl, rfl, rfl, rfl⟩
    have hinvoices : SamePacks b₂ { b₂ with invoices := invoices } :=
      ⟨fun _ => rfl, rfl, rfl, rfl, rfl⟩
    exact ((haccounts.trans (insertLedger_packs hledger)).trans hinvoices).steps.tail
      (.collect hcollect)

end StripeEntitlements
