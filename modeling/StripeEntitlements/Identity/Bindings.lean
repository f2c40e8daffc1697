import StripeEntitlements.Identity.Guards

/-!
# Subscription Bindings

An account is bound to one Subscription or to none. Along every run a binding names a
Subscription, an unbound account has no paid plan, and a pending plan change belongs to the
Subscription its account is bound to. The last is what stops a paid Invoice from using an
intent of an ended Subscription.

## Main results

- `IntentsKeep` — a transaction leaves no intent pending that was not pending before
- `Bindings` — the invariant
- `Reachable.bindings` — it holds in every run
-/

namespace StripeEntitlements

open Relational

variable {cfg : Config} {tx : Tx} {b b' b'' : Billing} {e : Event} {effect : Effect}

/-! ## Intents -/

/-- Every intent that is pending was pending before. -/
def IntentsKeep (b b' : Billing) : Prop :=
  ∀ c ∈ b'.planChanges.rows, c.status.isPending = true →
    ∃ c₀ ∈ b.planChanges.rows, c₀.status.isPending = true ∧ c₀.accountId = c.accountId ∧
      c₀.stripeSubscriptionId = c.stripeSubscriptionId

namespace IntentsKeep

theorem of_eq (h : b'.planChanges = b.planChanges) : IntentsKeep b b' :=
  fun c hc hpending => ⟨c, h ▸ hc, hpending, rfl, rfl⟩

theorem trans (h : IntentsKeep b b') (h' : IntentsKeep b' b'') : IntentsKeep b b'' := by
  intro c hc hpending
  obtain ⟨c₁, hc₁, hpending₁, haccount₁, hsub₁⟩ := h' c hc hpending
  obtain ⟨c₀, hc₀, hpending₀, haccount₀, hsub₀⟩ := h c₁ hc₁ hpending₁
  exact ⟨c₀, hc₀, hpending₀, haccount₀.trans haccount₁, hsub₀.trans hsub₁⟩

/-- An update of one intent that does not make it pending. -/
theorem update {k : String} {f : PlanChange → PlanChange} {planChanges : Table PlanChange}
    (h : b.planChanges.update? k f = some planChanges)
    (haccount : ∀ c, (f c).accountId = c.accountId)
    (hsub : ∀ c, (f c).stripeSubscriptionId = c.stripeSubscriptionId)
    (hpending : ∀ c ∈ b.planChanges.rows, c.id = k → (f c).status.isPending = true →
      c.status.isPending = true) :
    IntentsKeep b { b with planChanges := planChanges } := by
  intro c hc hc'
  rw [Table.update?_eq_some.1 h] at hc
  obtain ⟨c₀, hc₀, rfl⟩ := List.mem_map.1 hc
  by_cases hk : Relation.key c₀ = k
  · rw [if_pos hk] at hc' ⊢
    exact ⟨c₀, hc₀, hpending c₀ hc₀ hk hc', (haccount c₀).symm, (hsub c₀).symm⟩
  · rw [if_neg hk] at hc' ⊢
    exact ⟨c₀, hc₀, hc', rfl, rfl⟩

theorem of_settlement (h : Settlement b b') : IntentsKeep b b' := .of_eq h.planChanges

end IntentsKeep

theorem settleTransition_intents {transition : PlanChange} {invoiceId : String}
    {status : PlanChangeStatus} {lastError : Option String} (hstatus : status.isPending = false)
    (h : settleTransition b transition invoiceId status lastError = .ok b') : IntentsKeep b b' := by
  obtain ⟨planChanges, rfl, -, hupdate⟩ := settleTransition_eq_ok h
  refine .update hupdate (fun _ => rfl) (fun _ => rfl) fun c _ _ hpending => ?_
  exact absurd (hstatus.symm.trans hpending) Bool.noConfusion

theorem applyPeriod_intents {p : PaidInvoice} {t : PeriodTerms} {transition : Option PlanChange}
    (h : applyPeriod cfg tx b e p t transition = .ok effect) : IntentsKeep b effect.billing := by
  obtain ⟨invoices, -, h⟩ := applyPeriod_eq_ok h
  -- a blocked period records the Invoice, a granted one moves the account too
  split at h
  · simp only [blockPeriod, bind_eq_ok, Billing.update_eq_ok, Billing.insertLedger,
      Billing.insert_eq_ok] at h
    obtain ⟨_, ⟨ledger, -, rfl⟩, _, ⟨invoices', -, rfl⟩, h⟩ := h
    have hmarked : IntentsKeep b { b with invoices := invoices', ledger := ledger } := .of_eq rfl
    -- the intent of a blocked transition is settled as failed, and settled is not pending
    cases transition with
    | none =>
      simp only [bind_eq_ok, pure_eq_ok] at h
      obtain ⟨_, rfl, rfl⟩ := h
      exact hmarked
    | some c =>
      simp only [bind_eq_ok, pure_eq_ok] at h
      obtain ⟨b₂, hsettle, rfl⟩ := h
      exact hmarked.trans (settleTransition_intents rfl hsettle)
  · simp only [grantPeriod, bind_eq_ok, Billing.update_eq_ok, Billing.insertLedger,
      Billing.insert_eq_ok] at h
    obtain ⟨_, ⟨accounts, -, rfl⟩, _, ⟨ledger, -, rfl⟩, _, ⟨invoices', -, rfl⟩, b₂, hsettle,
      hcomplete⟩ := h
    -- no handler of the period touches `plan_changes` before its transition is settled
    have hgranted : IntentsKeep b b₂ := .of_eq (settlePeriod_settlement hsettle).planChanges
    refine hgranted.trans ?_
    simp only [completeTransition] at hcomplete
    split at hcomplete
    · rw [pure_eq_ok] at hcomplete
      exact .of_eq (hcomplete ▸ rfl)
    · simp only [bind_eq_ok, pure_eq_ok] at hcomplete
      obtain ⟨b₃, hsettled, rfl⟩ := hcomplete
      exact settleTransition_intents rfl hsettled

theorem applyDelta_intents {p : PaidInvoice} {transition : PlanChange} {f : DeltaFunding}
    (h : applyDelta tx b e p transition f = .ok effect) : IntentsKeep b effect.billing := by
  obtain ⟨invoices, -, ⟨-, hb⟩ | ⟨-, fundings, -, h⟩⟩ := applyDelta_eq_ok h
  · rw [hb]
    exact .of_eq rfl
  split at h
  · simp only [blockDelta, bind_eq_ok, Billing.update_eq_ok, Billing.insertLedger,
      Billing.insert_eq_ok, pure_eq_ok] at h
    obtain ⟨_, ⟨ledger, -, rfl⟩, _, ⟨invoices', -, rfl⟩, _, ⟨planChanges, hupdate, rfl⟩, rfl⟩ := h
    have hfailed : IntentsKeep b { b with planChanges := planChanges } :=
      .update hupdate (fun _ => rfl) (fun _ => rfl) fun c _ _ hpending => by cases hpending
    exact hfailed
  · simp only [grantDelta, bind_eq_ok, Billing.update_eq_ok, Billing.insertLedger,
      Billing.insert_eq_ok, pure_eq_ok] at h
    obtain ⟨_, -, _, ⟨accounts, -, rfl⟩, _, ⟨ledger, -, rfl⟩, _, ⟨invoices', -, rfl⟩, b₂, hsettle,
      _, ⟨planChanges, hupdate, rfl⟩, rfl⟩ := h
    have hgranted : IntentsKeep b b₂ := .of_eq (settleDelta_settlement hsettle).planChanges
    exact hgranted.trans
      (.update hupdate (fun _ => rfl) (fun _ => rfl) fun c _ _ hpending => by cases hpending)

theorem invoicePaid_intents (h : invoicePaid cfg tx b e = .ok effect) :
    IntentsKeep b effect.billing := by
  rcases Guarded.andThen_eq_ok h with ⟨hb, -⟩ | ⟨p, -, h⟩
  · exact .of_eq (hb ▸ rfl)
  split at h
  · rcases Guarded.andThen_eq_ok h with ⟨hb, -⟩ | ⟨f, -, h⟩
    · exact .of_eq (hb ▸ rfl)
    · exact applyDelta_intents h
  · rcases Guarded.andThen_eq_ok h with ⟨hb, -⟩ | ⟨t, -, h⟩
    · exact .of_eq (hb ▸ rfl)
    split at h
    · rcases Guarded.andThen_eq_ok h with ⟨hb, -⟩ | ⟨_, -, h⟩
      · exact .of_eq (hb ▸ rfl)
      split at h
      · simp only [bind_eq_ok, Billing.update_eq_ok, pure_eq_ok] at h
        obtain ⟨_, ⟨accounts, -, rfl⟩, rfl⟩ := h
        exact .of_eq rfl
      · simp only [bind_eq_ok, pure_eq_ok] at h
        obtain ⟨_, rfl, rfl⟩ := h
        exact .of_eq rfl
    · rcases Guarded.andThen_eq_ok h with ⟨hb, -⟩ | ⟨transition, -, h⟩
      · exact .of_eq (hb ▸ rfl)
      · exact applyPeriod_intents h

theorem paymentFailed_intents (h : paymentFailed cfg b e = .ok effect) :
    IntentsKeep b effect.billing := by
  rcases Guarded.andThen_eq_ok h with ⟨hb, -⟩ | ⟨f, -, h⟩
  · exact .of_eq (hb ▸ rfl)
  split at h
  · rcases failPlanChange_eq_ok h with ⟨hb, -⟩ | ⟨pending, planChanges, hbound, hopen, hupdate, hb⟩
    · exact .of_eq (hb ▸ rfl)
    · rw [hb]
      refine .update hupdate (fun _ => rfl) (fun _ => rfl) fun c hc hk _ => ?_
      -- the intent that now asks for action was waiting for its Invoice
      have hsame : c = pending :=
        b.planChanges.eq_of_key_eq hc (boundTransition_spec hbound).1 hk
      have hselected := (List.mem_filter.1 (newestBy_mem hbound)).2
      simp only [Bool.and_eq_true, Bool.or_eq_true, decide_eq_true_eq] at hselected
      rcases hselected.2 with hawaits | hcompleted
      · rw [hsame]
        revert hawaits
        cases pending.status <;> simp [PlanChangeStatus.awaitsInvoice, PlanChangeStatus.isPending]
      · exact absurd hcompleted hopen
  · rcases failRenewal_eq_ok h with ⟨-, hb⟩ | ⟨-, accounts, -, hb⟩
    · exact .of_eq (hb ▸ rfl)
    · exact .of_eq (hb ▸ rfl)

/-- A deletion fails every intent of the Subscription it ends. -/
theorem applyDeletion_intents {account : Account} (h : applyDeletion b e account = .ok effect) :
    IntentsKeep b effect.billing ∧ ∀ c ∈ effect.billing.planChanges.rows,
      c.status.isPending = true → c.accountId = account.id →
        some c.stripeSubscriptionId ≠ account.stripeSubscriptionId := by
  -- both branches of the deletion fail the pending intents of the Subscription it ends
  have hplans : ∃ planChanges, effect.billing.planChanges = planChanges ∧
      b.planChanges.updateWhere? (fun c => c.accountId = account.id &&
        some c.stripeSubscriptionId = account.stripeSubscriptionId && c.status.isPending)
        (fun c => { c with
          status := .failed
          lastError := some "subscription_deleted"
          leaseToken := none
          leaseExpiresAt := none }) = some planChanges := by
    simp only [applyDeletion, bind_eq_ok, Billing.update_eq_ok, Stored.table, Stored.install] at h
    obtain ⟨_, ⟨accounts, -, rfl⟩, h⟩ := h
    split at h
    · simp only [bind_eq_ok, pure_eq_ok, Billing.updateWhere_eq_ok, Stored.table,
        Stored.install] at h
      obtain ⟨_, rfl, _, ⟨planChanges, hupdate, rfl⟩, rfl⟩ := h
      exact ⟨planChanges, rfl, hupdate⟩
    · simp only [bind_eq_ok, pure_eq_ok, Billing.insertLedger, Billing.insert_eq_ok,
        Billing.updateWhere_eq_ok, Stored.table, Stored.install] at h
      obtain ⟨_, ⟨ledger, -, rfl⟩, _, ⟨planChanges, hupdate, rfl⟩, rfl⟩ := h
      exact ⟨planChanges, rfl, hupdate⟩
  obtain ⟨planChanges, hrows, hupdate⟩ := hplans
  rw [Table.updateWhere?_eq_some] at hupdate
  -- what is pending afterwards was not matched by that update, and is an old row
  have hcases : ∀ c ∈ effect.billing.planChanges.rows, c.status.isPending = true →
      c ∈ b.planChanges.rows ∧ ¬(c.accountId = account.id ∧
        some c.stripeSubscriptionId = account.stripeSubscriptionId) := by
    intro c hc hpending
    rw [hrows, hupdate] at hc
    obtain ⟨c₀, hc₀, heq⟩ := List.mem_map.1 hc
    split at heq
    · rw [← heq] at hpending
      cases hpending
    case isFalse hkept =>
      subst heq
      refine ⟨hc₀, fun hboth => hkept ?_⟩
      simp [hboth.1, hboth.2, hpending]
  refine ⟨fun c hc hpending => ⟨c, (hcases c hc hpending).1, hpending, rfl, rfl⟩, ?_⟩
  exact fun c hc hpending haccount hsub => (hcases c hc hpending).2 ⟨haccount, hsub⟩

theorem subscriptionUpdated_intents (h : subscriptionUpdated cfg b e = .ok effect) :
    IntentsKeep b effect.billing := by
  rcases Guarded.andThen_eq_ok h with ⟨hb, -⟩ | ⟨f, -, h⟩
  · exact .of_eq (hb ▸ rfl)
  unfold applySubscription at h
  split at h
  · rw [pure_eq_ok] at h
    exact .of_eq (h ▸ rfl)
  · simp only [bind_eq_ok, Billing.update_eq_ok, pure_eq_ok] at h
    obtain ⟨_, ⟨accounts, -, rfl⟩, rfl⟩ := h
    refine .of_eq ?_
    simp only [consumeClaim]
    split <;> rfl

theorem checkoutCompleted_intents (h : checkoutCompleted cfg b e = .ok effect) :
    IntentsKeep b effect.billing := by
  rcases Guarded.andThen_eq_ok h with ⟨hb, -⟩ | ⟨s, -, h⟩
  · exact .of_eq (hb ▸ rfl)
  simp only [bind_eq_ok, Billing.update_eq_ok, pure_eq_ok] at h
  obtain ⟨_, ⟨accounts, -, rfl⟩, rfl⟩ := h
  exact .of_eq rfl

theorem checkoutExpired_intents (h : checkoutExpired b e = .ok effect) :
    IntentsKeep b effect.billing := by
  rcases checkoutExpired_eq_ok h with hb | ⟨hb, -⟩
  · exact .of_eq (hb ▸ rfl)
  · exact .of_eq (hb ▸ rfl)

theorem clawEntitlement_intents {c : ClawbackTarget} (h : clawEntitlement tx b e c = .ok effect) :
    IntentsKeep b effect.billing := by
  obtain ⟨b₁, removed, b₂, b₃, b₄, hb₁, hb₂, hb₃, hb₄, hlast⟩ := clawEntitlement_eq_ok h
  -- only the reverted leaf of the five writes touches an intent, and it fails it
  have h₁ : IntentsKeep b b₁ := .of_settlement (clawBalance_settlement hb₁)
  have h₂ : IntentsKeep b₁ b₂ := by
    split at hb₂
    · exact .of_eq (hb₂ ▸ rfl)
    · simp only [revertLeaf, bind_eq_ok, Billing.update_eq_ok, Billing.insertLedger,
        Billing.insert_eq_ok] at hb₂
      obtain ⟨_, -, _, ⟨accounts, -, rfl⟩, _, ⟨fundings, -, rfl⟩, _, ⟨ledger, -, rfl⟩,
        planChanges, hupdate, rfl⟩ := hb₂
      -- the update settles the intent, so nothing it writes is pending
      have hfailed : IntentsKeep b₁ { b₁ with planChanges := planChanges } :=
        .update hupdate (fun _ => rfl) (fun _ => rfl) fun c _ _ hpending => by cases hpending
      exact hfailed
  have h₃ : b₃.planChanges = b₂.planChanges := by
    unfold limitAnnualSlots at hb₃
    split at hb₃
    · rw [Billing.update_eq_ok] at hb₃
      obtain ⟨_, -, rfl⟩ := hb₃
      rfl
    · rw [pure_eq_ok] at hb₃
      rw [hb₃]
  have h₄ : b₄.planChanges = b₃.planChanges := by
    split at hb₄
    · rw [revokeEntitlement, Billing.update_eq_ok] at hb₄
      obtain ⟨_, -, rfl⟩ := hb₄
      rfl
    · rw [hb₄]
  have h₅ : effect.billing.planChanges = b₄.planChanges := by
    split at hlast
    · rw [Billing.update_eq_ok] at hlast
      obtain ⟨_, -, hb⟩ := hlast
      rw [← hb]
      rfl
    · rw [hlast]
  exact (h₁.trans h₂).trans (.of_eq (h₅.trans (h₄.trans h₃)))

theorem clawback_intents (h : clawback cfg tx b e = .ok effect) :
    IntentsKeep b effect.billing := by
  rcases clawback_eq_ok h with ⟨hb, -⟩ | ⟨f, invoices, hf, ⟨-, -, hb⟩ | ⟨account, fundings, -, -, -,
    ⟨-, hb⟩ | ⟨c, -, -, -, hrun⟩⟩⟩
  · exact .of_eq (hb ▸ rfl)
  · exact .of_eq (hb ▸ rfl)
  · exact .of_eq (hb ▸ rfl)
  · have hrecorded : IntentsKeep b { b with invoices := invoices, fundings := fundings } :=
      .of_eq rfl
    exact hrecorded.trans (clawEntitlement_intents hrun)

/-- **An Event** leaves no intent pending that was not pending before: handlers settle and cancel
    plan changes, and none opens one. -/
theorem dispatch_intents (h : dispatch cfg tx b e = .ok effect) :
    IntentsKeep b effect.billing := by
  unfold dispatch at h
  -- the pack routes keep `plan_changes`; the Subscription routes have their own lemmas
  cases hkind : e.kind <;> simp only [hkind] at h
  case paymentIntentSucceeded => exact .of_eq (paymentSucceeded_binds h).planChanges
  case invoicePaid => exact invoicePaid_intents h
  case invoicePaymentFailed => exact paymentFailed_intents h
  case customerSubscriptionUpdated => exact subscriptionUpdated_intents h
  case customerSubscriptionDeleted =>
    rcases Guarded.andThen_eq_ok h with ⟨hb, -⟩ | ⟨account, -, h⟩
    · exact .of_eq (hb ▸ rfl)
    · exact (applyDeletion_intents h).1
  case chargeRefunded | chargeDisputeCreated =>
    cases hpack : packClawback cfg tx b e with
    | none =>
      rw [hpack] at h
      exact clawback_intents h
    | some run =>
      rw [hpack] at h
      exact .of_eq (packClawback_binds hpack h).planChanges
  case checkoutSessionCompleted =>
    cases hpack : packCheckoutEvent cfg b e with
    | none =>
      rw [hpack] at h
      exact checkoutCompleted_intents h
    | some run =>
      rw [hpack] at h
      exact .of_eq (packCheckoutEvent_binds hpack h).planChanges
  case checkoutSessionExpired =>
    cases hpack : packCheckoutEvent cfg b e with
    | none =>
      rw [hpack] at h
      exact checkoutExpired_intents h
    | some run =>
      rw [hpack] at h
      exact .of_eq (packCheckoutEvent_binds hpack h).planChanges
  case unsupported =>
    rw [pure_eq_ok] at h
    exact .of_eq (h ▸ rfl)

theorem grantDue_planChanges {accountId : String} {now : Option Int}
    {snapshot : SubscriptionSnapshot}
    (h : grantDue cfg tx b accountId now snapshot = .ok effect) :
    effect.billing.planChanges = b.planChanges := by
  rcases Guarded.andThen_eq_ok h with ⟨hb, -⟩ | ⟨⟨account, plan⟩, -, h⟩
  · rw [hb]
  simp only [applyAnnualGrant] at h
  split at h
  · rw [pure_eq_ok] at h
    rw [← h]
  split at h
  · rw [pure_eq_ok] at h
    rw [← h]
  split at h
  · simp only [bind_eq_ok, Billing.update_eq_ok, pure_eq_ok] at h
    obtain ⟨_, ⟨accounts, -, rfl⟩, rfl⟩ := h
    rfl
  · simp only [grantAnnualSlot, bind_eq_ok, Billing.update_eq_ok, Billing.insertLedger,
      Billing.insert_eq_ok, pure_eq_ok] at h
    obtain ⟨_, ⟨_, ⟨accounts, -, rfl⟩, _, ⟨ledger, -, rfl⟩, _, ⟨invoices, -, rfl⟩, ⟨b₂, _⟩,
      hcollect, rfl⟩, rfl⟩ := h
    exact (collectPackDebtsFromSubscription_frame hcollect).planChanges

/-! ## Bindings -/

/-- The invariant of the bindings. -/
structure Bindings (b : Billing) : Prop where
  named : ∀ a ∈ b.accounts.rows, a.stripeSubscriptionId ≠ some ""
  free : ∀ a ∈ b.accounts.rows, a.stripeSubscriptionId = none → a.planInterval = none
  intents : ∀ c ∈ b.planChanges.rows, c.status.isPending = true →
    ∃ a ∈ b.accounts.rows, a.id = c.accountId ∧
      a.stripeSubscriptionId = some c.stripeSubscriptionId

/-- What one projection does to the binding of its account; `ends` is what ends one. -/
inductive Rebinding (ends : Prop) (a a' : Account) : Prop
  | kept (h : a'.stripeSubscriptionId = a.stripeSubscriptionId)
      (hplan : a.stripeSubscriptionId = none → a'.planInterval = a.planInterval)
  | bound (h : a.stripeSubscriptionId = none) {id : String}
      (hid : a'.stripeSubscriptionId = some id) (hne : id ≠ "")
  | ended (hends : ends) (h : a'.stripeSubscriptionId = none) (hplan : a'.planInterval = none)

theorem Unicode.asId_ne_empty {u : Unicode} {value : Json} {id : String}
    (h : u.asId value = some id) : id ≠ "" := by
  simp only [asId, Option.filter_eq_some_iff, visible, Bool.and_eq_true, decide_eq_true_eq] at h
  exact h.2.1.1.1.1

theorem Unicode.subscriptionId_ne_empty {u : Unicode} {obj : Json} {id : String}
    (h : u.subscriptionId obj = some id) : id ≠ "" := by
  rcases Option.or_eq_some_iff.1 h with h | ⟨-, h⟩
  · exact asId_ne_empty h
  · exact asId_ne_empty h

/-- A handled Event has an object with an ID. -/
theorem objectId_ne_empty (hkind : e.kind ≠ .unsupported) (h : eventShapeError e = none) :
    (e.object.get "id").text ≠ "" := by
  unfold eventShapeError at h
  rw [if_neg hkind] at h
  split at h
  · cases h
  split at h
  · cases h
  split at h
  · cases h
  split at h
  · cases h
  split at h
  · cases h
  case isFalse hid =>
    simp only [Bool.not_eq_true', Bool.not_eq_false] at hid
    obtain ⟨id, hid, hne⟩ := Option.any_eq_true _ _ |>.1 hid
    have htext : (e.object.get "id").text = id := by
      cases hvalue : e.object.get "id" <;> rw [hvalue] at hid <;> cases hid
      rfl
    rw [htext]
    simpa using hne

theorem PlanChangeStatus.authorizes.pending {status : PlanChangeStatus}
    (h : status.authorizes = true) : status.isPending = true := by
  cases status <;> first | rfl | cases h

namespace Bindings

/-- A paid period of an unbound account has the live Checkout claim of the account. -/
theorem period_authorized {p : PaidInvoice} {t : PeriodTerms} (hb : Bindings b)
    (hp : paidInvoiceGuards cfg b e = .ok p) (hfacts : PeriodFacts b e p t)
    (hnone : p.account.stripeSubscriptionId = none) : checkoutAuthorized b p t = true := by
  have hrow := Table.find?_mem (paidInvoiceGuards_row hp)
  by_cases hcreate : p.billingReason = .subscriptionCreate
  · exact hfacts.authorized hcreate
  · -- without a plan of its own the account needs an intent, and none is pending
    exfalso
    have hneeds : needsIntent p t = true := by
      have hplan := hb.free p.account hrow hnone
      unfold needsIntent
      cases hreason : p.billingReason with
      | subscriptionCreate => exact absurd hreason hcreate
      | subscriptionCycle => simp [hplan]
      | subscriptionUpdate => simp
    obtain ⟨c, hc⟩ := hfacts.intent hneeds
    obtain ⟨hmem, haccount, -, -, hstatus⟩ := targetTransition_spec hc
    obtain ⟨a, ha, hid, hsub⟩ := hb.intents c hmem (PlanChangeStatus.authorizes.pending hstatus)
    have hsame : a = p.account := b.accounts.eq_of_key_eq ha hrow (hid.trans haccount)
    rw [hsame, hnone] at hsub
    cases hsub

/-- The claim authorizes one plan, by its token. -/
theorem claim_of_authorized {p : PaidInvoice} {t : PeriodTerms}
    (h : checkoutAuthorized b p t = true) (hnone : p.account.stripeSubscriptionId = none) :
    p.subscriptionId.isSome ∧ ∃ claim, b.claims.find? p.account.id = some claim ∧
      claim.planKey = t.plan.key ∧ claim.planInterval = t.interval ∧
      ((subscriptionMetadata p.invoice).get "claim_token").truthy = true ∧
      claim.claimToken = ((subscriptionMetadata p.invoice).get "claim_token").text := by
  simp only [checkoutAuthorized, hnone, Bool.or_eq_true, Bool.and_eq_true, decide_eq_true_eq,
    Option.any_eq_true] at h
  rcases h with ⟨hsome, hbound⟩ | ⟨claim, hclaim, hmatch⟩
  · rw [← hbound] at hsome
    cases hsome
  · obtain ⟨⟨⟨⟨hsome, hplan⟩, hinterval⟩, htruthy⟩, htoken⟩ := hmatch
    exact ⟨hsome, claim, hclaim, hplan, hinterval, htruthy, htoken⟩

theorem projected {a a' : Account} (hb : Bindings b) (hshape : eventShapeError e = none)
    (hrow : a ∈ b.accounts.rows) (h : Projected cfg tx b e a a') :
    Rebinding (e.kind = .customerSubscriptionDeleted ∧ deletionGuards cfg b e = .ok a) a a' := by
  cases h with
  | customer _ => exact .kept rfl fun _ => rfl
  | marked _ _ => exact .kept rfl fun _ => rfl
  | replayed _ _ _ _ _ _ _ => exact .kept rfl fun _ => rfl
  | renewal _ _ _ _ => exact .kept rfl fun _ => rfl
  | @period p t transition balance _ hp _ _ _ hguards _ =>
    have hfacts := periodGuards_facts hguards
    cases hbound : p.account.stripeSubscriptionId with
    | none =>
      have hauthorized := hb.period_authorized hp hfacts hbound
      obtain ⟨id, hid⟩ := Option.isSome_iff_exists.1 (claim_of_authorized hauthorized hbound).1
      have hne := Unicode.subscriptionId_ne_empty
        ((paidInvoiceGuards_subscription hp).symm.trans hid)
      have hbinds : p.subscriptionId.or p.account.stripeSubscriptionId = some id := by
        rw [hid, Option.some_or]
      exact .bound hbound hbinds hne
    | some bound =>
      have hsame := hfacts.subscription.resolve_left (by rw [hbound]; exact nofun)
      refine .kept ?_ fun hnone => absurd (hbound.symm.trans hnone) nofun
      change p.subscriptionId.or p.account.stripeSubscriptionId = _
      rw [hsame, hbound, Option.some_or]
  | @delta p transition f newBalance balance _ _ hintent hguards =>
    obtain ⟨hbound, hsome⟩ := deltaGuards_subscription hintent hguards
    refine .kept rfl fun hnone => ?_
    rw [hbound.symm.trans hnone] at hsome
    cases hsome
  | @updated f hkind hf _ =>
    obtain ⟨hid, -, -⟩ := subscriptionGuards_facts hf
    have hne := objectId_ne_empty (by rw [hkind]; exact nofun) hshape
    rw [← hid] at hne
    cases hbound : f.account.stripeSubscriptionId with
    | none => exact .bound hbound rfl hne
    | some bound =>
      have hguard := (subscriptionGuards_eq_ok hf).2
      rw [hbound, Option.all_some, Bool.or_eq_true, decide_eq_true_eq, decide_eq_true_eq] at hguard
      rcases hguard with rfl | rfl
      · exact absurd hbound (hb.named _ hrow)
      · exact .kept hbound.symm fun hnone => absurd (hbound.symm.trans hnone) nofun
  | deleted hkind haccount => exact .ended ⟨hkind, haccount⟩ rfl rfl
  | @completed s _ hs =>
    have hne := Unicode.asId_ne_empty (completedSessionGuards_facts hs).1
    have hguard := (completedSessionGuards_eq_ok hs).2.2
    simp only [unboundOr, Bool.or_eq_true, Option.isNone_iff_eq_none, decide_eq_true_eq] at hguard
    rcases hguard with hnone | hsame
    · exact .bound hnone rfl hne
    · exact .kept hsame.symm fun _ => rfl
  | @clawed c leaf balance _ _ hleaf =>
    have hsub : (c.after tx leaf).stripeSubscriptionId = c.account.stripeSubscriptionId := by
      unfold ClawbackTarget.after
      split <;> cases leaf <;> rfl
    refine .kept hsub fun hnone => ?_
    -- an unbound account has no plan to revert
    have hnoleaf : leaf = none := by
      cases leaf with
      | none => rfl
      | some f =>
        have hinterval := (hleaf f rfl).2.2.1
        rw [hb.free _ hrow hnone] at hinterval
        cases hinterval
    subst hnoleaf
    change (c.after tx none).planInterval = _
    unfold ClawbackTarget.after
    split <;> rfl

/-- A posting that keeps, binds or ends a binding keeps the invariant, if no intent of an
    ended Subscription stays pending. -/
theorem posts {ends : Prop} {a a' : Account} (hb : Bindings b) (h : Posts a a' b b')
    (hkeep : IntentsKeep b b') (hrebinding : Rebinding ends a a')
    (hended : ends → ∀ c ∈ b'.planChanges.rows, c.status.isPending = true →
      c.accountId = a.id → some c.stripeSubscriptionId ≠ a.stripeSubscriptionId) :
    Bindings b' := by
  -- the account that was posted is dealt with by its rebinding, any other is an old row
  have hrow := Table.find?_mem h.before
  refine ⟨fun x hx => ?_, fun x hx hnone => ?_, fun c hc hpending => ?_⟩
  -- no binding is the empty id: it is kept, or a Customer's own Subscription, or gone
  · rcases h.mem_after hx with rfl | ⟨-, hold⟩
    · cases hrebinding with
      | kept hsame => exact hsame ▸ hb.named a hrow
      | bound _ hid hne => exact fun heq => hne (Option.some.inj (hid.symm.trans heq))
      | ended _ hnone => exact fun heq => by rw [hnone] at heq; cases heq
    · exact hb.named x hold
  -- an unbound account has no plan left, which an ended binding also leaves behind
  · rcases h.mem_after hx with rfl | ⟨-, hold⟩
    · cases hrebinding with
      | kept hsame hplan =>
        have hunbound := hsame.symm.trans hnone
        exact (hplan hunbound).trans (hb.free a hrow hunbound)
      | bound _ hid _ => exact absurd (hid.symm.trans hnone) nofun
      | ended _ _ hplan => exact hplan
    · exact hb.free x hold hnone
  -- a pending intent is an old one, and its account was bound to its Subscription
  · obtain ⟨c₀, hc₀, hpending₀, haccount, hsub⟩ := hkeep c hc hpending
    obtain ⟨x, hx, hid, hbound⟩ := hb.intents c₀ hc₀ hpending₀
    rw [hsub] at hbound
    rw [haccount] at hid
    rcases h.mem_cases hx with ⟨rfl, hfind⟩ | ⟨-, hfind⟩
    · refine ⟨a', Table.find?_mem hfind, h.id_eq.trans hid, ?_⟩
      cases hrebinding with
      | kept hsame => exact hsame.trans hbound
      | bound hnone => exact absurd (hnone.symm.trans hbound) nofun
      -- a binding that ended would leave its pending intent behind, against `hended`
      | ended hends => exact absurd hbound.symm (hended hends c hc hpending hid.symm)
    · exact ⟨x, Table.find?_mem hfind, hid, hbound⟩

theorem unposted (hb : Bindings b) (h : Unposted b b') (hkeep : IntentsKeep b b') :
    Bindings b' := by
  refine ⟨h.accounts ▸ hb.named, h.accounts ▸ hb.free, fun c hc hpending => ?_⟩
  obtain ⟨c₀, hc₀, hpending₀, haccount, hsub⟩ := hkeep c hc hpending
  obtain ⟨x, hx, hid, hbound⟩ := hb.intents c₀ hc₀ hpending₀
  exact ⟨x, h.accounts ▸ hx, hid.trans haccount, hbound.trans (congrArg some hsub)⟩

/-- A posting of the balance alone keeps the bindings. -/
theorem rebalanced {a : Account} {balance : Nat} (hb : Bindings b)
    (h : Posts a (a.withBalance balance) b b') (hkeep : IntentsKeep b b') : Bindings b' :=
  hb.posts h hkeep (show Rebinding False _ _ from .kept rfl fun _ => rfl) False.elim

/-- An Event that reaches its handler keeps the bindings. -/
theorem dispatch (hb : Bindings b) (hshape : eventShapeError e = none)
    (h : dispatch cfg tx b e = .ok effect) : Bindings effect.billing := by
  have hkeep := dispatch_intents h
  rcases dispatch_posts h with hquiet | ⟨a, a', hposted, hprojected⟩
  · exact hb.unposted hquiet hkeep
  have hrow := Table.find?_mem hposted.before
  refine hb.posts hposted hkeep (hb.projected hshape hrow hprojected) fun ⟨hkind, haccount⟩ => ?_
  -- the deletion fails the intents of the Subscription it ends
  simp only [StripeEntitlements.dispatch, hkind] at h
  rcases Guarded.andThen_eq_ok h with ⟨-, hstop⟩ | ⟨account, hpassed, h⟩
  · exact absurd haccount (hstop _)
  · cases haccount.symm.trans hpassed
    exact (applyDeletion_intents h).2

theorem grantDue {accountId : String} {now : Option Int} {snapshot : SubscriptionSnapshot}
    (hb : Bindings b) (h : grantDue cfg tx b accountId now snapshot = .ok effect) :
    Bindings effect.billing := by
  have hkeep : IntentsKeep b effect.billing := .of_eq (grantDue_planChanges h)
  rcases grantDue_posts h with hquiet | ⟨a, a', hposted, hstep⟩
  · exact hb.unposted hquiet hkeep
  · have hkept : Rebinding False a a' := by
      cases hstep with
      | closed _ _ _ => exact .kept rfl fun _ => rfl
      | granted _ _ _ _ _ => exact .kept rfl fun _ => rfl
    exact hb.posts hposted hkeep hkept False.elim

theorem outside (hb : Bindings b) (h : Outside b b') : Bindings b' := by
  refine ⟨fun a ha => ?_, fun a ha hnone => ?_, fun c hc hpending => ?_⟩
  -- an account after an outside step is an old one, up to its stamp, or was just opened
  · rcases h.before ha with ⟨a₀, ha₀, heq⟩ | heq
    · have hsub : a₀.stripeSubscriptionId = a.stripeSubscriptionId :=
        (congrArg Account.stripeSubscriptionId heq :)
      exact hsub ▸ hb.named a₀ ha₀
    · have hsub : a.stripeSubscriptionId = none := (congrArg Account.stripeSubscriptionId heq :)
      rw [hsub]
      exact nofun
  · rcases h.before ha with ⟨a₀, ha₀, heq⟩ | heq
    · have hsub : a₀.stripeSubscriptionId = a.stripeSubscriptionId :=
        (congrArg Account.stripeSubscriptionId heq :)
      have hplan : a₀.planInterval = a.planInterval := (congrArg Account.planInterval heq :)
      exact hplan ▸ hb.free a₀ ha₀ (hsub.trans hnone)
    · exact (congrArg Account.planInterval heq :)
  -- a pending intent is old, or was made for the Subscription its account is bound to
  · have howner : ∃ a₀ ∈ b.accounts.rows, a₀.id = c.accountId ∧
        a₀.stripeSubscriptionId = some c.stripeSubscriptionId := by
      rcases h.planChanges c hc hpending with ⟨c₀, hc₀, hpending₀, haccount, hsub⟩ | howner
      · obtain ⟨a₀, ha₀, hid, hbound⟩ := hb.intents c₀ hc₀ hpending₀
        exact ⟨a₀, ha₀, hid.trans haccount, hbound.trans (congrArg some hsub)⟩
      · exact howner
    obtain ⟨a₀, ha₀, hid, hbound⟩ := howner
    obtain ⟨a, ha, heq⟩ := h.after ha₀
    have hsame : a.id = a₀.id := (congrArg Account.id heq :)
    have hsub : a.stripeSubscriptionId = a₀.stripeSubscriptionId :=
      (congrArg Account.stripeSubscriptionId heq :)
    exact ⟨a, ha, hsame.trans hid, hsub.trans hbound⟩

/-- **One transaction** keeps the bindings. -/
theorem commits {db db' : Db} (hb : Bindings db.billing) (h : Commits cfg db db') :
    Bindings db'.billing := by
  cases h with
  | event h =>
    rcases process_cases h with ⟨-, hsame⟩ | ⟨hreaches, effect, hdispatch, hsame⟩
    · rw [hsame]
      exact hb
    · rw [hsame]
      exact hb.dispatch (reachesHandler_shape hreaches) hdispatch
  | charge h =>
    obtain ⟨account, balance, hposted⟩ := charge_rebalanced h
    exact hb.rebalanced hposted (.of_settlement (charge_frame h).settlement)
  | refund h =>
    obtain ⟨account, balance, hposted⟩ := refund_rebalanced h
    exact hb.rebalanced hposted (.of_settlement (refund_frame h).settlement)
  | annual h => exact hb.grantDue h
  | outside h => exact hb.outside h

end Bindings

theorem Reachable.bindings {db : Db} (h : Reachable cfg db) : Bindings db.billing := by
  refine h.invariant ⟨?_, ?_, ?_⟩ fun _ _ hcommit hb => hb.commits hcommit
  · exact fun _ ha => absurd ha List.not_mem_nil
  · exact fun _ ha => absurd ha List.not_mem_nil
  · exact fun _ hc => absurd hc List.not_mem_nil

end StripeEntitlements
