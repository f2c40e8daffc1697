import StripeEntitlements.Identity.Bindings
import StripeEntitlements.PlanChanges.Coordinator
import StripeEntitlements.Relational.Evolution

/-!
# The Progress of an Intent

What an intent is about is decided when it is reserved and once more when its preview is
frozen. Every other transaction, of the coordinator or of the processor, only moves it on.

## Main results

- `PlanChange.Advances` — the terms of an intent stay, and it is not reserved again
- `dispatch_advances` — Events only move intents on
- `updateReturning_advances` — so do the guarded updates of the coordinator
-/

namespace StripeEntitlements

open Relational

variable {cfg : Config} {tx : Tx} {b b' b'' : Billing} {e : Event} {effect : Effect}

/-! ## Terms -/

/-- The terms of an intent: the row without what its progress changes. -/
def PlanChange.terms (c : PlanChange) : PlanChange :=
  { c with
    status := .reserved
    effectiveAt := none
    stripeScheduleId := none
    previewExpiresAt := none
    leaseToken := none
    leaseExpiresAt := none
    remotePendingExpiresAt := none
    lastError := none
    settlementInvoiceId := none
    remoteStartedAt := none }

/-- An intent moved on. -/
structure PlanChange.Advances (c c' : PlanChange) : Prop where
  terms : c'.terms = c.terms
  reserved : c'.status = .reserved → c.status = .reserved

namespace PlanChange.Advances

theorem refl (c : PlanChange) : c.Advances c := ⟨rfl, fun hreserved => hreserved⟩

theorem trans {c c' c'' : PlanChange} (h : c.Advances c') (h' : c'.Advances c'') :
    c.Advances c'' :=
  ⟨h'.terms.trans h.terms, fun hreserved => h.reserved (h'.reserved hreserved)⟩

theorem key {c c' : PlanChange} (h : c.Advances c') : Relation.key c' = Relation.key c := by
  have hid := congrArg PlanChange.id h.terms
  exact hid

/-- A new status that is not the first one. -/
theorem of_status {c c' : PlanChange} (hterms : c'.terms = c.terms)
    (hstatus : c'.status ≠ .reserved) : c.Advances c' :=
  ⟨hterms, fun hreserved => absurd hreserved hstatus⟩

/-- A status that stays. -/
theorem of_same {c c' : PlanChange} (hterms : c'.terms = c.terms)
    (hstatus : c'.status = c.status) : c.Advances c' :=
  ⟨hterms, fun hreserved => hstatus.symm.trans hreserved⟩

end PlanChange.Advances

/-- A transaction that only moves intents on. -/
def IntentsAdvance (b b' : Billing) : Prop :=
  b.planChanges.Evolves PlanChange.Advances b'.planChanges

namespace IntentsAdvance

theorem of_eq (h : b'.planChanges = b.planChanges) : IntentsAdvance b b' :=
  Table.Evolves.of_eq PlanChange.Advances.refl h

theorem trans (h : IntentsAdvance b b') (h' : IntentsAdvance b' b'') : IntentsAdvance b b'' :=
  Table.Evolves.trans PlanChange.Advances.trans h h'

theorem update {k : String} {f : PlanChange → PlanChange} {planChanges : Table PlanChange}
    (h : b.planChanges.update? k f = some planChanges) (hf : ∀ c : PlanChange, c.Advances (f c)) :
    IntentsAdvance b { b with planChanges := planChanges } :=
  Table.Evolves.update PlanChange.Advances.refl h
    (fun c => (hf c).key) hf

theorem updateWhere {p : PlanChange → Bool} {f : PlanChange → PlanChange}
    {planChanges : Table PlanChange} (h : b.planChanges.updateWhere? p f = some planChanges)
    (hf : ∀ c : PlanChange, c.Advances (f c)) : IntentsAdvance b { b with planChanges := planChanges } :=
  Table.Evolves.updateWhere PlanChange.Advances.refl h
    (fun c => (hf c).key) fun c _ _ => hf c

theorem of_settlement (h : Settlement b b') : IntentsAdvance b b' := .of_eq h.planChanges

end IntentsAdvance

/-! ## The processor -/

theorem settleTransition_advances {transition : PlanChange} {invoiceId : String}
    {status : PlanChangeStatus} {lastError : Option String} (hstatus : status ≠ .reserved)
    (h : settleTransition b transition invoiceId status lastError = .ok b') :
    IntentsAdvance b b' := by
  obtain ⟨planChanges, rfl, -, hupdate⟩ := settleTransition_eq_ok h
  exact .update hupdate fun _ => .of_status rfl hstatus

theorem applyPeriod_advances {p : PaidInvoice} {t : PeriodTerms} {transition : Option PlanChange}
    (h : applyPeriod cfg tx b e p t transition = .ok effect) :
    IntentsAdvance b effect.billing := by
  obtain ⟨invoices, -, h⟩ := applyPeriod_eq_ok h
  split at h
  -- a blocked period fails its transition, a granted one completes it; both move the intent on
  · simp only [blockPeriod, bind_eq_ok, Billing.update_eq_ok, Billing.insertLedger,
      Billing.insert_eq_ok] at h
    obtain ⟨_, ⟨ledger, -, rfl⟩, _, ⟨invoices', -, rfl⟩, h⟩ := h
    have hmarked : IntentsAdvance b { b with invoices := invoices', ledger := ledger } :=
      .of_eq rfl
    cases transition with
    | none =>
      simp only [bind_eq_ok, pure_eq_ok] at h
      obtain ⟨_, rfl, rfl⟩ := h
      exact hmarked
    | some c =>
      simp only [bind_eq_ok, pure_eq_ok] at h
      obtain ⟨b₂, hsettle, rfl⟩ := h
      exact hmarked.trans (settleTransition_advances (by decide) hsettle)
  · simp only [grantPeriod, bind_eq_ok, Billing.update_eq_ok, Billing.insertLedger,
      Billing.insert_eq_ok] at h
    obtain ⟨_, ⟨accounts, -, rfl⟩, _, ⟨ledger, -, rfl⟩, _, ⟨invoices', -, rfl⟩, b₂, hsettle,
      hcomplete⟩ := h
    -- the settlement of the period writes no intent
    have hgranted : IntentsAdvance b b₂ := .of_eq (settlePeriod_settlement hsettle).planChanges
    apply hgranted.trans
    simp only [completeTransition] at hcomplete
    split at hcomplete
    · rw [pure_eq_ok] at hcomplete
      exact .of_eq (hcomplete ▸ rfl)
    · simp only [bind_eq_ok, pure_eq_ok] at hcomplete
      obtain ⟨b₃, hsettled, rfl⟩ := hcomplete
      exact settleTransition_advances (by decide) hsettled

theorem applyDelta_advances {p : PaidInvoice} {transition : PlanChange} {f : DeltaFunding}
    (h : applyDelta tx b e p transition f = .ok effect) : IntentsAdvance b effect.billing := by
  obtain ⟨invoices, -, ⟨-, hb⟩ | ⟨-, fundings, -, h⟩⟩ := applyDelta_eq_ok h
  · rw [hb]
    exact .of_eq rfl
  split at h
  · simp only [blockDelta, bind_eq_ok, Billing.update_eq_ok, Billing.insertLedger,
      Billing.insert_eq_ok, pure_eq_ok] at h
    obtain ⟨_, ⟨ledger, -, rfl⟩, _, ⟨invoices', -, rfl⟩, _, ⟨planChanges, hupdate, rfl⟩, rfl⟩ := h
    have hfailed : IntentsAdvance b { b with planChanges := planChanges } :=
      .update hupdate fun _ => .of_status rfl (show PlanChangeStatus.failed ≠ .reserved by decide)
    exact hfailed
  · simp only [grantDelta, bind_eq_ok, Billing.update_eq_ok, Billing.insertLedger,
      Billing.insert_eq_ok, pure_eq_ok] at h
    obtain ⟨_, -, _, ⟨accounts, -, rfl⟩, _, ⟨ledger, -, rfl⟩, _, ⟨invoices', -, rfl⟩, b₂, hsettle,
      _, ⟨planChanges, hupdate, rfl⟩, rfl⟩ := h
    have hgranted : IntentsAdvance b b₂ := .of_eq (settleDelta_settlement hsettle).planChanges
    apply hgranted.trans
    exact .update hupdate fun _ =>
      .of_status rfl (show PlanChangeStatus.completed ≠ .reserved by decide)

theorem invoicePaid_advances (h : invoicePaid cfg tx b e = .ok effect) :
    IntentsAdvance b effect.billing := by
  rcases Guarded.andThen_eq_ok h with ⟨hb, -⟩ | ⟨p, -, h⟩
  · exact .of_eq (hb ▸ rfl)
  split at h
  · rcases Guarded.andThen_eq_ok h with ⟨hb, -⟩ | ⟨f, -, h⟩
    · exact .of_eq (hb ▸ rfl)
    · exact applyDelta_advances h
  · rcases Guarded.andThen_eq_ok h with ⟨hb, -⟩ | ⟨t, -, h⟩
    · exact .of_eq (hb ▸ rfl)
    split at h
    · rcases Guarded.andThen_eq_ok h with ⟨hb, -⟩ | ⟨_, -, h⟩
      · exact .of_eq (hb ▸ rfl)
      split at h
      · simp only [bind_eq_ok, Billing.update_eq_ok, pure_eq_ok] at h
        obtain ⟨_, ⟨accounts, -, rfl⟩, rfl⟩ := h
        exact .of_eq rfl
      · simp only [bind_eq_ok, pure_eq_ok] at h
        obtain ⟨_, rfl, rfl⟩ := h
        exact .of_eq rfl
    · rcases Guarded.andThen_eq_ok h with ⟨hb, -⟩ | ⟨transition, -, h⟩
      · exact .of_eq (hb ▸ rfl)
      · exact applyPeriod_advances h

theorem paymentFailed_advances (h : paymentFailed cfg b e = .ok effect) :
    IntentsAdvance b effect.billing := by
  rcases Guarded.andThen_eq_ok h with ⟨hb, -⟩ | ⟨f, -, h⟩
  · exact .of_eq (hb ▸ rfl)
  split at h
  · rcases failPlanChange_eq_ok h with ⟨hb, -⟩ | ⟨_, planChanges, -, -, hupdate, hb⟩
    · exact .of_eq (hb ▸ rfl)
    · rw [hb]
      exact .update hupdate fun _ =>
        .of_status rfl (show PlanChangeStatus.requiresAction ≠ .reserved by decide)
  · rcases failRenewal_eq_ok h with ⟨-, hb⟩ | ⟨-, accounts, -, hb⟩
    · exact .of_eq (hb ▸ rfl)
    · exact .of_eq (hb ▸ rfl)

theorem applyDeletion_advances {account : Account} (h : applyDeletion b e account = .ok effect) :
    IntentsAdvance b effect.billing := by
  simp only [applyDeletion, bind_eq_ok, Billing.update_eq_ok, Stored.table, Stored.install] at h
  obtain ⟨_, ⟨accounts, -, rfl⟩, h⟩ := h
  have hfailed : ∀ c : PlanChange, c.Advances { c with
      status := .failed
      lastError := some "subscription_deleted"
      leaseToken := none
      leaseExpiresAt := none } := fun _ =>
    .of_status rfl (show PlanChangeStatus.failed ≠ .reserved by decide)
  split at h
  · simp only [bind_eq_ok, pure_eq_ok, Billing.updateWhere_eq_ok, Stored.table,
      Stored.install] at h
    obtain ⟨_, rfl, _, ⟨planChanges, hupdate, rfl⟩, rfl⟩ := h
    have hended : IntentsAdvance b { b with planChanges := planChanges } :=
      .updateWhere hupdate hfailed
    exact hended
  · simp only [bind_eq_ok, pure_eq_ok, Billing.insertLedger, Billing.insert_eq_ok,
      Billing.updateWhere_eq_ok, Stored.table, Stored.install] at h
    obtain ⟨_, ⟨ledger, -, rfl⟩, _, ⟨planChanges, hupdate, rfl⟩, rfl⟩ := h
    have hended : IntentsAdvance b { b with planChanges := planChanges } :=
      .updateWhere hupdate hfailed
    exact hended

theorem clawEntitlement_advances {c : ClawbackTarget}
    (h : clawEntitlement tx b e c = .ok effect) : IntentsAdvance b effect.billing := by
  obtain ⟨b₁, removed, b₂, b₃, b₄, hb₁, hb₂, hb₃, hb₄, hlast⟩ := clawEntitlement_eq_ok h
  have h₁ : IntentsAdvance b b₁ := .of_settlement (clawBalance_settlement hb₁)
  -- the reverted leaf fails its intent, and no other write of the five is to `plan_changes`
  have h₂ : IntentsAdvance b₁ b₂ := by
    split at hb₂
    · exact .of_eq (hb₂ ▸ rfl)
    · simp only [revertLeaf, bind_eq_ok, Billing.update_eq_ok, Billing.insertLedger,
        Billing.insert_eq_ok] at hb₂
      obtain ⟨_, -, _, ⟨accounts, -, rfl⟩, _, ⟨fundings, -, rfl⟩, _, ⟨ledger, -, rfl⟩,
        planChanges, hupdate, rfl⟩ := hb₂
      have hfailed : IntentsAdvance b₁ { b₁ with planChanges := planChanges } :=
        .update hupdate fun _ =>
          .of_status rfl (show PlanChangeStatus.failed ≠ .reserved by decide)
      exact hfailed
  have h₃ : b₃.planChanges = b₂.planChanges := by
    unfold limitAnnualSlots at hb₃
    split at hb₃
    · rw [Billing.update_eq_ok] at hb₃
      obtain ⟨_, -, rfl⟩ := hb₃
      rfl
    · rw [pure_eq_ok] at hb₃
      rw [hb₃]
  have h₄ : b₄.planChanges = b₃.planChanges := by
    split at hb₄
    · rw [revokeEntitlement, Billing.update_eq_ok] at hb₄
      obtain ⟨_, -, rfl⟩ := hb₄
      rfl
    · rw [hb₄]
  have h₅ : effect.billing.planChanges = b₄.planChanges := by
    split at hlast
    · rw [Billing.update_eq_ok] at hlast
      obtain ⟨_, -, hb⟩ := hlast
      rw [← hb]
      rfl
    · rw [hlast]
  exact (h₁.trans h₂).trans (.of_eq (h₅.trans (h₄.trans h₃)))

theorem clawback_advances (h : clawback cfg tx b e = .ok effect) :
    IntentsAdvance b effect.billing := by
  rcases clawback_eq_ok h with ⟨hb, -⟩ | ⟨f, invoices, hf, ⟨-, -, hb⟩ | ⟨account, fundings, -, -, -,
    ⟨-, hb⟩ | ⟨c, -, -, -, hrun⟩⟩⟩
  · exact .of_eq (hb ▸ rfl)
  · exact .of_eq (hb ▸ rfl)
  · exact .of_eq (hb ▸ rfl)
  · have hrecorded : IntentsAdvance b { b with invoices := invoices, fundings := fundings } :=
      .of_eq rfl
    exact hrecorded.trans (clawEntitlement_advances hrun)

/-- **An Event** only moves intents on: the terms of every row stay, and none becomes reserved
    again. -/
theorem dispatch_advances (h : dispatch cfg tx b e = .ok effect) :
    IntentsAdvance b effect.billing := by
  unfold dispatch at h
  -- most handlers leave the intents alone, so their old lemmas about the table suffice
  cases hkind : e.kind <;> simp only [hkind] at h
  case paymentIntentSucceeded => exact .of_eq (paymentSucceeded_binds h).planChanges
  case invoicePaid => exact invoicePaid_advances h
  case invoicePaymentFailed => exact paymentFailed_advances h
  case customerSubscriptionUpdated =>
    rcases Guarded.andThen_eq_ok h with ⟨hb, -⟩ | ⟨f, -, h⟩
    · exact .of_eq (hb ▸ rfl)
    unfold applySubscription at h
    split at h
    · rw [pure_eq_ok] at h
      exact .of_eq (h ▸ rfl)
    -- the projection writes the account, and the claim it may consume is another table
    · simp only [bind_eq_ok, Billing.update_eq_ok, pure_eq_ok] at h
      obtain ⟨_, ⟨accounts, -, rfl⟩, rfl⟩ := h
      apply IntentsAdvance.of_eq
      simp only [consumeClaim]
      split <;> rfl
  case customerSubscriptionDeleted =>
    rcases Guarded.andThen_eq_ok h with ⟨hb, -⟩ | ⟨account, -, h⟩
    · exact .of_eq (hb ▸ rfl)
    · exact applyDeletion_advances h
  case chargeRefunded | chargeDisputeCreated =>
    cases hpack : packClawback cfg tx b e with
    | none =>
      rw [hpack] at h
      exact clawback_advances h
    | some run =>
      rw [hpack] at h
      exact .of_eq (packClawback_binds hpack h).planChanges
  case checkoutSessionCompleted =>
    cases hpack : packCheckoutEvent cfg b e with
    | none =>
      rw [hpack] at h
      rcases Guarded.andThen_eq_ok h with ⟨hb, -⟩ | ⟨s, -, h⟩
      · exact .of_eq (hb ▸ rfl)
      simp only [bind_eq_ok, Billing.update_eq_ok, pure_eq_ok] at h
      obtain ⟨_, ⟨accounts, -, rfl⟩, rfl⟩ := h
      exact .of_eq rfl
    | some run =>
      rw [hpack] at h
      exact .of_eq (packCheckoutEvent_binds hpack h).planChanges
  -- an expired Session deletes a claim at most
  case checkoutSessionExpired =>
    cases hpack : packCheckoutEvent cfg b e with
    | none =>
      rw [hpack] at h
      rcases checkoutExpired_eq_ok h with hb | ⟨hb, -⟩
      · exact .of_eq (hb ▸ rfl)
      · exact .of_eq (hb ▸ rfl)
    | some run =>
      rw [hpack] at h
      exact .of_eq (packCheckoutEvent_binds hpack h).planChanges
  case unsupported =>
    rw [pure_eq_ok] at h
    exact .of_eq (h ▸ rfl)

/-! ## The coordinator -/

theorem Billing.updateReturning_eq_ok {changeId : String} {p : PlanChange → Bool}
    {f : PlanChange → PlanChange} {found : Option PlanChange} :
    b.updateReturning changeId p f = .ok (b', found) ↔
      ∃ planChanges, b.planChanges.updateWhere? (fun c => c.id = changeId && p c) f =
          some planChanges ∧
        b' = { b with planChanges := planChanges } ∧
        found = ((b.planChanges.find? changeId).filter p).map f := by
  simp only [Billing.updateReturning, bind_eq_ok, Billing.updateWhere_eq_ok, pure_eq_ok,
    Prod.mk.injEq, Stored.table, Stored.install]
  constructor
  · rintro ⟨_, ⟨planChanges, hupdate, rfl⟩, rfl, rfl⟩
    exact ⟨planChanges, hupdate, rfl, rfl⟩
  · rintro ⟨planChanges, hupdate, rfl, rfl⟩
    exact ⟨_, ⟨planChanges, hupdate, rfl⟩, rfl, rfl⟩

theorem updateReturning_advances {changeId : String} {p : PlanChange → Bool}
    {f : PlanChange → PlanChange} {found : Option PlanChange}
    (h : b.updateReturning changeId p f = .ok (b', found))
    (hf : ∀ c : PlanChange, c.Advances (f c)) : IntentsAdvance b b' := by
  obtain ⟨planChanges, hupdate, rfl, -⟩ := Billing.updateReturning_eq_ok.1 h
  exact .updateWhere hupdate hf

theorem expirePlanChanges_advances {accountId : String}
    (h : expirePlanChanges tx b accountId = .ok b') : IntentsAdvance b b' := by
  simp only [expirePlanChanges, bind_eq_ok, Billing.updateWhere_eq_ok] at h
  obtain ⟨_, ⟨pending, hpending, rfl⟩, previews, hpreviews, rfl⟩ := h
  have hfailed : ∀ (c : PlanChange) (reason : String),
      c.Advances { c with status := .failed, lastError := some reason } := fun c _ =>
    .of_status rfl (show PlanChangeStatus.failed ≠ .reserved by decide)
  have hfirst : IntentsAdvance b { b with planChanges := pending } :=
    .updateWhere hpending fun c => hfailed c _
  apply hfirst.trans
  exact .updateWhere hpreviews fun c => hfailed c _

end StripeEntitlements
