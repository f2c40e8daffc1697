import StripeEntitlements.Ledger.EventPostings

/-!
# What Passed Guards Say About the Subscription

Each handler compares the Subscription of its Event with the one the account is bound to at
its own place in a chain of guards. These are the comparisons that passed guards imply.

## Main results

- `periodGuards_facts`, `deltaGuards_snapshot`, `subscriptionGuards_facts`,
  `deletionGuards_facts`, `completedSessionGuards_facts`
-/

namespace StripeEntitlements

open Relational

variable {cfg : Config} {tx : Tx} {b : Billing} {e : Event}

/-! ## Paid Invoices -/

theorem paidInvoiceGuards_subscription {p : PaidInvoice}
    (h : paidInvoiceGuards cfg b e = .ok p) :
    p.subscriptionId = cfg.unicode.subscriptionId e.object := by
  simp only [paidInvoiceGuards, bind_eq_ok, fetch_eq_ok, require_eq_ok] at h
  obtain ⟨account, -, _, -, _, -, _, -, h⟩ := h
  split at h
  all_goals
    simp only [bind_eq_ok, require_eq_ok, pure_eq_ok] at h
    obtain ⟨_, -, _, -, _, -, _, -, rfl⟩ := h
    rfl

/-- What a whole-period Invoice is checked for. -/
structure PeriodFacts (b : Billing) (e : Event) (p : PaidInvoice) (t : PeriodTerms) : Prop where
  authorized : p.billingReason = .subscriptionCreate → checkoutAuthorized b p t = true
  intent : needsIntent p t = true →
    ∃ c, targetTransition b p t PlanChangeStatus.authorizes = some c
  subscription : p.account.stripeSubscriptionId = none ∨
    p.subscriptionId = p.account.stripeSubscriptionId
  verified : e.remoteVerified = true → wins p.account e = true
  later : ∀ periodEnd, p.account.entitlementPeriodEnd = some periodEnd → periodEnd < t.periodEnd
  owner : invoiceUnownedOr b p.invoiceId p.account.id = true

theorem periodGuards_facts {p : PaidInvoice} {t : PeriodTerms} {transition : Option PlanChange}
    (h : periodGuards b e p t = .ok transition) : PeriodFacts b e p t := by
  simp only [periodGuards, bind_eq_ok, require_eq_ok, pure_eq_ok] at h
  obtain ⟨_, hauthorized, transition', hintent, _, -, _, -, _, hsubscription, _, hfresh, _, -, _,
    howner, rfl⟩ := h
  simp only [Bool.or_eq_true, Option.isNone_iff_eq_none, decide_eq_true_eq]
    at hauthorized hsubscription
  simp only [Bool.and_eq_true, Bool.not_eq_true', Bool.and_eq_false_iff, Bool.not_eq_false']
    at hfresh
  refine ⟨fun hcreate => hauthorized.resolve_left fun hne => hne hcreate, fun hneeds => ?_,
    hsubscription, fun hverified => ?_, fun periodEnd hend => ?_, howner⟩
  · rw [intentGuard, if_pos hneeds] at hintent
    simp only [bind_eq_ok, fetch_eq_ok] at hintent
    obtain ⟨c, hc, -⟩ := hintent
    exact ⟨c, hc⟩
  · rcases hfresh.1 with hunverified | hwins
    · exact absurd (hverified.symm.trans hunverified) Bool.noConfusion
    · exact hwins
  · have hstale := hfresh.2
    rw [hend] at hstale
    simpa using hstale

theorem deltaGuards_snapshot {p : PaidInvoice} {transition : PlanChange} {f : DeltaFunding}
    (h : deltaGuards cfg b p transition = .ok f) : snapshotMatches p.account transition = true := by
  unfold deltaGuards at h
  split at h
  · simp only [bind_eq_ok] at h
    obtain ⟨_, -, hstop⟩ := h
    cases hstop
  · simp only [bind_eq_ok, require_eq_ok, Bool.and_eq_true] at h
    obtain ⟨_, ⟨hsnapshot, -⟩, -⟩ := h
    exact hsnapshot

/-- A delta Invoice pays for the Subscription the account is bound to. -/
theorem deltaGuards_subscription {p : PaidInvoice} {transition : PlanChange} {f : DeltaFunding}
    (hintent : proratedTransition b p = some transition)
    (h : deltaGuards cfg b p transition = .ok f) :
    p.account.stripeSubscriptionId = p.subscriptionId ∧ p.subscriptionId.isSome := by
  have hsnapshot := deltaGuards_snapshot h
  simp only [snapshotMatches, Bool.and_eq_true, decide_eq_true_eq] at hsnapshot
  obtain ⟨⟨⟨⟨⟨⟨hbound, -⟩, -⟩, -⟩, -⟩, -⟩, -⟩ := hsnapshot
  have hnamed := (proratedTransition_spec hintent).2.1
  exact ⟨hbound.trans hnamed.symm, hnamed ▸ rfl⟩

/-! ## Subscription objects -/

theorem subscriptionGuards_facts {f : SubscriptionFacts}
    (h : subscriptionGuards cfg b e = .ok f) :
    f.subscriptionId = (e.object.get "id").text ∧
      subscriptionPlan cfg e.object = .ok (some (f.plan, f.interval)) ∧
      (f.account.stripeSubscriptionId = none →
        ∃ claim, b.claims.find? f.account.id = some claim ∧
          claimAuthorizes claim e.object f.plan f.interval = true) := by
  simp only [subscriptionGuards, bind_eq_ok, fetch_eq_ok, require_eq_ok, pure_eq_ok,
    Guarded.lift_eq_ok] at h
  obtain ⟨account, -, _, -, _, -, _, -, _, -, _, -, _, -, parsed, hparsed, ⟨plan, interval⟩,
    hplan, _, hauthority, rfl⟩ := h
  refine ⟨rfl, hplan ▸ hparsed, fun hnone => ?_⟩
  rw [hnone, Option.isSome_none, Bool.false_or, Option.any_eq_true] at hauthority
  exact hauthority

theorem deletionGuards_facts {account : Account} (h : deletionGuards cfg b e = .ok account) :
    (∃ id, cfg.unicode.asId (e.object.get "id") = some id ∧
      account.stripeSubscriptionId = some id) ∧ wins account e = true := by
  refine ⟨(deletionGuards_eq_ok h).2, ?_⟩
  simp only [deletionGuards, bind_eq_ok, fetch_eq_ok, require_eq_ok, pure_eq_ok] at h
  obtain ⟨account', -, _, -, _, -, _, hwins, rfl⟩ := h
  exact hwins

/-- A completed Session owns the claim, by its own ID or by the token it carries. -/
theorem completedSessionGuards_facts {s : CompletedSession}
    (h : completedSessionGuards cfg b e = .ok s) :
    cfg.unicode.asId (e.object.get "subscription") = some s.subscriptionId ∧
      (s.claim.sessionId = some (e.object.get "id").text ∨
        (((e.object.get "metadata").get "claim_token").truthy = true ∧
          s.claim.claimToken = ((e.object.get "metadata").get "claim_token").text)) := by
  simp only [completedSessionGuards, bind_eq_ok, fetch_eq_ok, require_eq_ok, pure_eq_ok,
    Bool.or_eq_true, Bool.and_eq_true, decide_eq_true_eq] at h
  obtain ⟨account, -, _, hsubscription, _, -, claim, -, _, howner, _, -, rfl⟩ := h
  exact ⟨hsubscription, howner.imp_right fun hunattached => ⟨hunattached.1.2, hunattached.2⟩⟩

end StripeEntitlements
