import StripeEntitlements.Processor.Settlement
import StripeEntitlements.Redelivery.Invoices

/-!
# Redelivered Subscription Events

A second delivery of a failed payment, of an updated or deleted Subscription, or of a
Subscription Checkout finds the account past the Event, the Subscription unbound or the
claim consumed, and changes nothing.
-/

namespace StripeEntitlements

open Relational

variable {cfg : Config} {tx tx' : Tx} {b b' : Billing} {e : Event} {id : Json}
  {effect effect' : Effect}

/-- A Subscription is bound to one account. -/
theorem account_of_subscription {a a' : Account} {subscriptionId : String}
    (ha : a ∈ b.accounts.rows) (ha' : a' ∈ b.accounts.rows)
    (h : a.stripeSubscriptionId = some subscriptionId)
    (h' : a'.stripeSubscriptionId = some subscriptionId) : a = a' :=
  b.accounts.eq_of_index_eq
    (show (fun a : Account => a.stripeSubscriptionId.map ([·])) ∈ Relation.indexes by
      simp [Relation.indexes])
    ha ha' (x := [subscriptionId]) (by simp [h]) (by simp [h'])

/-! ## Failed payments -/

theorem failedInvoiceGuards_eq_ok {f : FailedInvoice} (h : failedInvoiceGuards cfg b e = .ok f) :
    lockAccount cfg.unicode b e.object (subscriptionMetadata e.object) = some f.account ∧
      f.invoiceId = cfg.unicode.asId (e.object.get "id") ∧
      cfg.unicode.subscriptionId e.object = some f.subscriptionId ∧
      f.account.stripeSubscriptionId = some f.subscriptionId ∧
      (e.object.get "billing_reason").asStr.bind BillingReason.parse = some f.billingReason := by
  simp only [failedInvoiceGuards, bind_eq_ok, fetch_eq_ok, require_eq_ok, pure_eq_ok,
    Option.filter_eq_some_iff, decide_eq_true_eq] at h
  obtain ⟨account, haccount, _, -, subscriptionId, ⟨hsub, hbound⟩, _, -, reason, hreason, rfl⟩ := h
  exact ⟨haccount, rfl, hsub, hbound, hreason⟩

/-- Which deliveries pass does not depend on the Event ID. -/
theorem failedInvoiceGuards_passes (f : FailedInvoice)
    (h : failedInvoiceGuards cfg b (e.redelivered id) = .ok f) :
    ∃ f', failedInvoiceGuards cfg b e = .ok f' := by
  simp only [failedInvoiceGuards, bind_eq_ok, fetch_eq_ok, require_eq_ok, pure_eq_ok] at h ⊢
  obtain ⟨account, haccount, _, hcustomer, subscriptionId, hsub, _, hhash, reason, hreason, -⟩ := h
  exact ⟨_, account, haccount, (), hcustomer, subscriptionId, hsub, (), hhash, reason, hreason, rfl⟩

theorem boundTransition_spec {f : FailedInvoice} {c : PlanChange}
    (h : boundTransition b f = some c) :
    c ∈ b.planChanges.rows ∧ c.settlementInvoiceId.isSome ∧
      c.settlementInvoiceId = f.invoiceId := by
  have hmem := List.mem_filter.1 (newestBy_mem h)
  simp only [Bool.and_eq_true, decide_eq_true_eq] at hmem
  obtain ⟨hrow, ⟨⟨⟨⟨-, -⟩, hsome⟩, hinvoice⟩, -⟩, -⟩ := hmem
  exact ⟨hrow, hsome, hinvoice⟩

/-- An Invoice settles one plan change. -/
theorem planChange_of_invoice {c c' : PlanChange} {invoiceId : String}
    (hc : c ∈ b.planChanges.rows) (hc' : c' ∈ b.planChanges.rows)
    (h : c.settlementInvoiceId = some invoiceId) (h' : c'.settlementInvoiceId = some invoiceId) :
    c = c' :=
  b.planChanges.eq_of_index_eq
    (show (fun c : PlanChange => c.settlementInvoiceId.map ([·])) ∈ Relation.indexes by
      simp [Relation.indexes])
    hc hc' (x := [invoiceId]) (by simp [h]) (by simp [h'])

/-- A failed upgrade changes nothing, or it asks for action on the intent of its Invoice. -/
theorem failPlanChange_eq_ok {f : FailedInvoice} (h : failPlanChange b e f = .ok effect) :
    (effect.billing = b ∧ ∀ c, boundTransition b f = some c → c.status = .completed) ∨
    ∃ pending planChanges, boundTransition b f = some pending ∧ pending.status ≠ .completed ∧
      b.planChanges.update? pending.id (fun c => { c with status := .requiresAction }) =
        some planChanges ∧
      effect.billing = { b with planChanges := planChanges } := by
  simp only [failPlanChange] at h
  -- without an intent nothing is written, and neither is for a completed one
  cases hbound : boundTransition b f with
  | none =>
    simp only [hbound, pure_eq_ok] at h
    subst h
    exact .inl ⟨rfl, fun _ hc => absurd hc.symm (Option.some_ne_none _)⟩
  | some pending =>
    simp only [hbound] at h
    split at h
    case isTrue hcompleted =>
      refine .inl ⟨?_, fun c hc => Option.some.inj hc ▸ hcompleted⟩
      split at h
      all_goals
        rw [pure_eq_ok] at h
        subst h
        rfl
    case isFalse hopen =>
      simp only [bind_eq_ok, Billing.update_eq_ok, pure_eq_ok, Stored.table, Stored.install] at h
      obtain ⟨_, ⟨planChanges, hupdate, rfl⟩, rfl⟩ := h
      exact .inr ⟨pending, planChanges, rfl, hopen, hupdate, rfl⟩

theorem failPlanChange_redelivered {f f' : FailedInvoice} (haccount : f'.account = f.account)
    (hsub : f'.subscriptionId = f.subscriptionId) (hinvoice : f'.invoiceId = f.invoiceId)
    (h : failPlanChange b e f = .ok effect)
    (h' : failPlanChange effect.billing (e.redelivered id) f' = .ok effect') :
    effect'.billing = effect.billing := by
  -- the second delivery stops, or it finds an open intent of this Invoice
  rcases failPlanChange_eq_ok h' with ⟨hb', -⟩ | ⟨pending', planChanges', hpending', hopen',
    hupdate', hb'⟩
  · exact hb'
  rcases failPlanChange_eq_ok h with ⟨hb, hcompleted⟩ | ⟨pending, planChanges, hpending, -,
    hupdate, hb⟩
  · -- the first delivery found the same intent, and it was completed
    rw [hb] at hpending'
    have hbound : boundTransition b f' = boundTransition b f := by
      unfold boundTransition
      rw [haccount, hsub, hinvoice]
    exact absurd (hcompleted pending' (hbound ▸ hpending')) hopen'
  · -- the intent of the Invoice already asks for action
    obtain ⟨hrow, hsome, hsettled⟩ := boundTransition_spec hpending
    obtain ⟨invoiceId, hid⟩ := Option.isSome_iff_exists.1 hsome
    have hfind := Table.find?_update_self hupdate fun _ => rfl
    rw [show b.planChanges.find? pending.id = some pending from Table.find?_of_mem hrow] at hfind
    obtain ⟨hrow', -, hsettled'⟩ := boundTransition_spec hpending'
    rw [hb] at hrow' hupdate' hb' ⊢
    have hsame := planChange_of_invoice hrow' (Table.find?_mem hfind)
      (hsettled'.trans (hinvoice.trans (hsettled.symm.trans hid))) hid
    -- the status it would write is there already
    have hfixed : planChanges.update? pending'.id
        (fun c : PlanChange => { c with status := .requiresAction }) = some planChanges := by
      refine Table.update?_of_fixed fun c hc hk => ?_
      have : c = pending' := planChanges.eq_of_key_eq hc hrow' hk
      rw [this, hsame]
    rw [hb', show planChanges' = planChanges from Option.some.inj (hupdate'.symm.trans hfixed)]

/-- A failed renewal changes nothing, or it takes the order of the Event. -/
theorem failRenewal_eq_ok {f : FailedInvoice} (h : failRenewal b e f = .ok effect) :
    (wins f.account e = false ∧ effect.billing = b) ∨
    (wins f.account e = true ∧ ∃ accounts, b.accounts.update? f.account.id (fun a : Account =>
        { a with
          subscriptionStatus := .pastDue
          eventCreated := (projectionOrder f.account e).1
          eventRank := (projectionOrder f.account e).2 }) = some accounts ∧
      effect.billing = { b with accounts := accounts }) := by
  unfold failRenewal at h
  split at h
  case isTrue hwins =>
    rw [pure_eq_ok] at h
    exact .inl ⟨by simpa using hwins, h ▸ rfl⟩
  case isFalse hwins =>
    simp only [bind_eq_ok, Billing.update_eq_ok, pure_eq_ok, Stored.table, Stored.install] at h
    obtain ⟨_, ⟨accounts, hupdate, rfl⟩, rfl⟩ := h
    exact .inr ⟨by simpa using hwins, accounts, hupdate, rfl⟩

theorem failRenewal_redelivered {f f' : FailedInvoice} (he : e.remoteVerified = false)
    (hf : failedInvoiceGuards cfg b e = .ok f) (h : failRenewal b e f = .ok effect)
    (hf' : failedInvoiceGuards cfg effect.billing (e.redelivered id) = .ok f')
    (h' : failRenewal effect.billing (e.redelivered id) f' = .ok effect') :
    effect'.billing = effect.billing := by
  -- the second delivery cannot win, so it writes nothing
  rcases failRenewal_eq_ok h' with ⟨-, hb'⟩ | ⟨hwins', -⟩
  · exact hb'
  exfalso
  rw [wins_redelivered] at hwins'
  obtain ⟨hlock, -, hsub, hbound, -⟩ := failedInvoiceGuards_eq_ok hf
  obtain ⟨hlock', -, hsub', hbound', -⟩ := failedInvoiceGuards_eq_ok hf'
  have hsame : f'.subscriptionId = f.subscriptionId := Option.some.inj (hsub'.symm.trans hsub)
  -- the first one lost to the same account, or it stamped it
  rcases failRenewal_eq_ok h with ⟨hwins, hb⟩ | ⟨hwins, accounts, hupdate, hb⟩
  · rw [hb] at hlock'
    have : f'.account = f.account := Option.some.inj (hlock'.symm.trans hlock)
    rw [this, hwins] at hwins'
    cases hwins'
  · have hfind := Table.find?_update_self hupdate fun _ => rfl
    rw [show b.accounts.find? f.account.id = some f.account from
      Table.find?_of_mem (lockAccount_mem hlock)] at hfind
    rw [hb] at hlock'
    have := account_of_subscription (b := { b with accounts := accounts }) (lockAccount_mem hlock')
      (Table.find?_mem hfind) hbound' (hsame ▸ hbound)
    rw [this, wins_projected he (by rw [if_pos hwins]; rfl)] at hwins'
    cases hwins'

theorem paymentFailed_redelivered (he : e.remoteVerified = false)
    (h : paymentFailed cfg b e = .ok effect)
    (h' : paymentFailed cfg effect.billing (e.redelivered id) = .ok effect') :
    effect'.billing = effect.billing := by
  -- a guard that stopped the first delivery stops the second, which reads the same account
  rcases Guarded.andThen_eq_ok h with ⟨hb, hstop⟩ | ⟨f, hf, h⟩
  · rw [hb] at h' ⊢
    rcases Guarded.andThen_eq_ok h' with ⟨hb', -⟩ | ⟨f', hf', -⟩
    · exact hb'
    · obtain ⟨f, hf⟩ := failedInvoiceGuards_passes f' hf'
      exact absurd hf (hstop f)
  rcases Guarded.andThen_eq_ok h' with ⟨hb', -⟩ | ⟨f', hf', h'⟩
  · exact hb'
  obtain ⟨hlock, hinvoice, hsub, hbound, hreason⟩ := failedInvoiceGuards_eq_ok hf
  obtain ⟨hlock', hinvoice', hsub', hbound', hreason'⟩ := failedInvoiceGuards_eq_ok hf'
  have hsame : f'.billingReason = f.billingReason := Option.some.inj (hreason'.symm.trans hreason)
  rw [hsame] at h'
  -- an update fails an intent, a renewal the account
  split at h
  case isTrue hupdate =>
    rw [if_pos hupdate] at h'
    have haccounts : effect.billing.accounts = b.accounts := by
      rcases failPlanChange_eq_ok h with ⟨hb, -⟩ | ⟨_, _, -, -, -, hb⟩
      all_goals rw [hb]
    rw [lockAccount_congr haccounts] at hlock'
    exact failPlanChange_redelivered (Option.some.inj (hlock'.symm.trans hlock))
      (Option.some.inj (hsub'.symm.trans hsub)) (hinvoice'.trans hinvoice.symm) h h'
  case isFalse hrenewal =>
    rw [if_neg hrenewal] at h'
    exact failRenewal_redelivered he hf h hf' h'

/-! ## Updated Subscriptions -/

theorem subscriptionGuards_eq_ok {f : SubscriptionFacts} (h : subscriptionGuards cfg b e = .ok f) :
    lockAccount cfg.unicode b e.object (e.object.get "metadata") = some f.account ∧
      f.account.stripeSubscriptionId.all (fun bound => bound = "" || bound = f.subscriptionId) =
        true := by
  simp only [subscriptionGuards, bind_eq_ok, fetch_eq_ok, require_eq_ok, pure_eq_ok] at h
  obtain ⟨account, haccount, _, -, _, -, _, -, _, -, _, -, _, hbound, _, -, _, -, _, -, rfl⟩ := h
  exact ⟨haccount, hbound⟩

theorem subscriptionUpdated_redelivered (he : e.remoteVerified = false)
    (h : subscriptionUpdated cfg b e = .ok effect)
    (h' : subscriptionUpdated cfg effect.billing (e.redelivered id) = .ok effect') :
    effect'.billing = effect.billing := by
  rcases Guarded.andThen_eq_ok h with ⟨hb, hstop⟩ | ⟨f, hf, h⟩
  · rw [hb] at h' ⊢
    exact Guarded.andThen_stops hstop rfl h'
  rcases Guarded.andThen_eq_ok h' with ⟨hb', -⟩ | ⟨f', hf', h'⟩
  · exact hb'
  -- it is enough that the second delivery loses
  have hlost : wins f'.account e = false → effect'.billing = effect.billing := by
    intro hwins
    simp only [applySubscription, wins_redelivered, hwins, Bool.not_false, if_true,
      pure_eq_ok] at h'
    exact h' ▸ rfl
  refine hlost ?_
  obtain ⟨hlock, hbound⟩ := subscriptionGuards_eq_ok hf
  obtain ⟨hlock', -⟩ := subscriptionGuards_eq_ok hf'
  unfold applySubscription at h
  -- the first delivery lost as well, or it stamped the account with this order
  split at h
  case isTrue hwins =>
    rw [pure_eq_ok] at h
    subst h
    have : f'.account = f.account := Option.some.inj (hlock'.symm.trans hlock)
    simpa [this] using hwins
  case isFalse hwins =>
    simp only [bind_eq_ok, Billing.update_eq_ok, pure_eq_ok, Stored.table, Stored.install] at h
    obtain ⟨_, ⟨accounts, hupdate, rfl⟩, rfl⟩ := h
    have haccounts : (consumeClaim { b with accounts := accounts } f.account).accounts =
        ({ b with accounts := accounts } : Billing).accounts := by
      unfold consumeClaim
      split <;> rfl
    -- the account is locked again under the identities that the projection kept
    have hagain := lockAccount_update hlock hupdate (fun _ => rfl) (fun _ => rfl)
      (fun id hvisible hid => ?_) (fun id hid => ?_)
    · dsimp only at hlock'
      rw [lockAccount_congr haccounts] at hlock'
      have : f'.account = f.project e f.account := Option.some.inj (hlock'.symm.trans hagain)
      rw [this]
      exact wins_projected he (by rw [if_pos (by simpa using hwins)]; rfl)
    · -- a visible bound identity is the one the Subscription has
      rw [hid, Option.all_some, Bool.or_eq_true, decide_eq_true_eq, decide_eq_true_eq] at hbound
      rcases hbound with rfl | hsame
      · simp [Unicode.visible] at hvisible
      · exact congrArg some hsame.symm
    · simp [SubscriptionFacts.project, hid]

/-! ## Deleted Subscriptions -/

theorem deletionGuards_eq_ok {account : Account} (h : deletionGuards cfg b e = .ok account) :
    lockAccount cfg.unicode b e.object (e.object.get "metadata") = some account ∧
      ∃ subscriptionId, cfg.unicode.asId (e.object.get "id") = some subscriptionId ∧
        account.stripeSubscriptionId = some subscriptionId := by
  simp only [deletionGuards, bind_eq_ok, fetch_eq_ok, require_eq_ok, pure_eq_ok,
    Bool.and_eq_true, decide_eq_true_eq, Option.isSome_iff_exists] at h
  obtain ⟨account', haccount, _, ⟨⟨subscriptionId, hid⟩, hbound⟩, _, -, _, -, rfl⟩ := h
  exact ⟨haccount, subscriptionId, hid, hbound.trans hid⟩

theorem deletionGuards_redelivered :
    (deletionGuards cfg b (e.redelivered id)).toOption = (deletionGuards cfg b e).toOption := by
  simp only [deletionGuards, toOption_bind, toOption_fetch, toOption_require, toOption_pure]
  rfl

theorem applyDeletion_eq_ok {account : Account} (h : applyDeletion b e account = .ok effect) :
    ∃ accounts, b.accounts.update? account.id (projectDeletion e account) = some accounts ∧
      effect.billing.accounts = accounts := by
  simp only [applyDeletion, bind_eq_ok, Billing.update_eq_ok, Stored.table, Stored.install] at h
  obtain ⟨_, ⟨accounts, hupdate, rfl⟩, h⟩ := h
  refine ⟨accounts, hupdate, ?_⟩
  split at h
  · simp only [bind_eq_ok, pure_eq_ok, Billing.updateWhere_eq_ok, Stored.install] at h
    obtain ⟨_, rfl, _, ⟨planChanges, -, rfl⟩, rfl⟩ := h
    rfl
  · simp only [bind_eq_ok, pure_eq_ok, Billing.insertLedger, Billing.insert_eq_ok,
      Billing.updateWhere_eq_ok, Stored.install] at h
    obtain ⟨_, ⟨ledger, -, rfl⟩, _, ⟨planChanges, -, rfl⟩, rfl⟩ := h
    rfl

theorem subscriptionDeleted_redelivered (h : subscriptionDeleted cfg b e = .ok effect)
    (h' : subscriptionDeleted cfg effect.billing (e.redelivered id) = .ok effect') :
    effect'.billing = effect.billing := by
  rcases Guarded.andThen_eq_ok h with ⟨hb, hstop⟩ | ⟨account, haccount, h⟩
  · rw [hb] at h' ⊢
    exact Guarded.andThen_stops hstop deletionGuards_redelivered h'
  rcases Guarded.andThen_eq_ok h' with ⟨hb', -⟩ | ⟨account', haccount', -⟩
  · exact hb'
  exfalso
  obtain ⟨hlock, subscriptionId, hid, hbound⟩ := deletionGuards_eq_ok haccount
  obtain ⟨hlock', subscriptionId', hid', hbound'⟩ := deletionGuards_eq_ok haccount'
  have hsame : subscriptionId' = subscriptionId := Option.some.inj (hid'.symm.trans hid)
  obtain ⟨accounts, hupdate, haccounts⟩ := applyDeletion_eq_ok h
  -- the account that owned the Subscription no longer does, and no other account owns it
  have hmem := lockAccount_mem hlock'
  rw [haccounts, Table.update?_eq_some.1 hupdate] at hmem
  obtain ⟨r, hr, heq⟩ := List.mem_map.1 hmem
  split at heq
  · rw [← heq] at hbound'
    cases hbound'
  · subst heq
    have := account_of_subscription hr (lockAccount_mem hlock) hbound' (hsame ▸ hbound)
    exact absurd (congrArg Account.id this) ‹_›

/-! ## Subscription Checkout -/

theorem completedSessionGuards_eq_ok {s : CompletedSession}
    (h : completedSessionGuards cfg b e = .ok s) :
    lockAccount cfg.unicode b e.object (e.object.get "metadata") = some s.account ∧
      b.claims.find? s.account.id = some s.claim ∧
      unboundOr s.account.stripeSubscriptionId (some s.subscriptionId) = true := by
  simp only [completedSessionGuards, bind_eq_ok, fetch_eq_ok, require_eq_ok, pure_eq_ok] at h
  obtain ⟨account, haccount, _, -, _, -, claim, hclaim, _, -, _, hbound, rfl⟩ := h
  exact ⟨haccount, hclaim, hbound⟩

theorem checkoutCompleted_redelivered (h : checkoutCompleted cfg b e = .ok effect)
    (h' : checkoutCompleted cfg effect.billing (e.redelivered id) = .ok effect') :
    effect'.billing = effect.billing := by
  -- the first delivery consumed the claim that the second one would need
  rcases Guarded.andThen_eq_ok h with ⟨hb, hstop⟩ | ⟨s, hs, h⟩
  · rw [hb] at h' ⊢
    exact Guarded.andThen_stops hstop rfl h'
  rcases Guarded.andThen_eq_ok h' with ⟨hb', -⟩ | ⟨s', hs', -⟩
  · exact hb'
  exfalso
  obtain ⟨hlock, hclaim, hbound⟩ := completedSessionGuards_eq_ok hs
  obtain ⟨hlock', hclaim', -⟩ := completedSessionGuards_eq_ok hs'
  simp only [bind_eq_ok, Billing.update_eq_ok, pure_eq_ok, Stored.table, Stored.install] at h
  obtain ⟨_, ⟨accounts, hupdate, rfl⟩, rfl⟩ := h
  have hagain := lockAccount_update hlock hupdate (fun _ => rfl) (fun _ => rfl)
    (fun id _ hid => ?_) (fun id hid => ?_)
  · -- the account is found again, without the claim it consumed
    have haccount : s'.account = bindSession s s.account :=
      Option.some.inj (hlock'.symm.trans hagain)
    have hid : s'.account.id = s.account.id := haccount ▸ rfl
    rw [hid] at hclaim'
    have hmem := Table.find?_mem hclaim'
    obtain ⟨hrow, hkept⟩ := List.mem_filter.1 hmem
    have : s'.claim = s.claim :=
      b.claims.eq_of_key_eq hrow (Table.find?_mem hclaim)
        ((Table.find?_key hclaim').trans (Table.find?_key hclaim).symm)
    rw [this] at hkept
    have howner : s.claim.accountId = s.account.id := Table.find?_key hclaim
    simp [howner] at hkept
  · rw [hid] at hbound
    simp only [unboundOr, Option.isNone_some, Bool.false_or, decide_eq_true_eq] at hbound
    exact hbound.symm
  · simp [bindSession, hid]

theorem checkoutExpired_eq_ok (h : checkoutExpired b e = .ok effect) :
    effect.billing = { b with
      claims := b.claims.deleteWhere (·.sessionId = some (e.object.get "id").text) } ∨
    (effect.billing = b ∧
      b.claims.rows.find? (·.sessionId = some (e.object.get "id").text) = none) := by
  simp only [checkoutExpired] at h
  split at h
  case h_1 hclaim =>
    rw [pure_eq_ok] at h
    subst h
    exact .inr ⟨rfl, hclaim⟩
  case h_2 =>
    rw [pure_eq_ok] at h
    subst h
    exact .inl rfl

theorem checkoutExpired_redelivered (h : checkoutExpired b e = .ok effect)
    (h' : checkoutExpired effect.billing (e.redelivered id) = .ok effect') :
    effect'.billing = effect.billing := by
  rcases checkoutExpired_eq_ok h' with hb' | ⟨hb', -⟩
  · -- no claim of the Session is left to delete
    have hnone : effect.billing.claims.rows.find?
        (·.sessionId = some (e.object.get "id").text) = none := by
      rcases checkoutExpired_eq_ok h with hb | ⟨hb, hnone⟩
      · rw [hb]
        refine List.find?_eq_none.2 fun c hc => ?_
        simpa using (List.mem_filter.1 hc).2
      · rw [hb]
        exact hnone
    rw [hb']
    have hfixed : effect.billing.claims.deleteWhere
        (·.sessionId = some (e.object.get "id").text) = effect.billing.claims := by
      refine Table.ext (List.filter_eq_self.2 fun c hc => ?_)
      simpa using List.find?_eq_none.1 hnone c hc
    rw [Event.object_redelivered, hfixed]
  · exact hb'

end StripeEntitlements
