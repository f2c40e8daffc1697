import StripeEntitlements.Processor.InvoicePaid

/-!
# Subscription Projections

`_payment_failed`, `_subscription_updated` and `_subscription_deleted`: the Events that
project Subscription facts onto an account when they win its ordering cursor.
-/

namespace StripeEntitlements

open Relational

/-! ## Failed payments -/

/-- A failed Invoice of the bound Subscription. -/
structure FailedInvoice where
  account : Account
  invoiceId : Option String
  subscriptionId : String
  billingReason : BillingReason
  dedupeKey : String

/-- The guards of `_payment_failed`. -/
def failedInvoiceGuards (cfg : Config) (b : Billing) (e : Event) : Guarded FailedInvoice := do
  let invoice := e.object
  let account ← fetch (lockAccount cfg.unicode b invoice (subscriptionMetadata invoice))
    (Stop.dropped "account not found" none)
  let invoiceId := cfg.unicode.asId (invoice.get "id")
  let rawId := if (invoice.get "id").truthy then (invoice.get "id").text else e.idText
  let dedupeKey := s!"{account.id}:{rawId}"
  require ((cfg.unicode.asId (invoice.get "customer")).any (customerMatches account))
    (Stop.ignored .paymentFailedCustomerIdentityConflict dedupeKey invoiceId (some account.id)
      "failed invoice customer identity is missing or conflicting")
  let subscriptionId ← fetch ((cfg.unicode.subscriptionId invoice).filter fun id =>
      account.stripeSubscriptionId = some id)
    (Stop.ignored .paymentFailedSubscriptionIdentityConflict dedupeKey invoiceId (some account.id)
      "failed invoice belongs to a different subscription")
  require (invoice.get "billing_reason").hashable
    (Stop.raised (.typeError (invoice.get "billing_reason").unhashableType))
  let billingReason ← fetch ((invoice.get "billing_reason").asStr.bind BillingReason.parse)
    (Stop.ignored .unexpectedPaymentFailedReason (invoiceId.getD e.idText) invoiceId
      (some account.id) "failed Invoice has an unsupported billing reason")
  pure { account, invoiceId, subscriptionId, billingReason, dedupeKey := rawId }

/-- The immediate intent bound to a failed Invoice. -/
def boundTransition (b : Billing) (f : FailedInvoice) : Option PlanChange :=
  newestBy PlanChange.createdAt (b.planChanges.select fun c =>
    c.accountId = f.account.id && c.stripeSubscriptionId = f.subscriptionId &&
      c.settlementInvoiceId.isSome && c.settlementInvoiceId = f.invoiceId &&
      c.effectiveMode = .immediate &&
      (c.status.awaitsInvoice || c.status = .completed))

/-- The first slot of the Invoice is committed for this account. -/
def grantCommitted (b : Billing) (f : FailedInvoice) : Bool :=
  b.ledger.rows.any fun r =>
    r.accountId = f.account.id && r.stripeInvoiceId.isSome && r.stripeInvoiceId = f.invoiceId &&
      r.grantSlot = some 1

/-- A failed `subscription_update` Invoice: it never touches the paid entitlement. -/
def failPlanChange (b : Billing) (e : Event) (f : FailedInvoice) : Transaction Effect :=
  let unbound : Effect := {
    billing := b
    incidents := [.observe .unboundPlanChangePaymentFailed (f.invoiceId.getD e.idText) f.invoiceId
      (some f.account.id)]
    result := {
      outcome := .ignored
      reason := some "subscription-update failure is not bound to the current plan change"
      accountId := some f.account.id } }
  match boundTransition b f with
  | none => pure unbound
  | some pending =>
      if pending.status = .completed then
        if grantCommitted b f then
          pure { billing := b, result := {
            outcome := .replayed
            reason := some "settlement invoice already granted"
            accountId := some f.account.id } }
        else
          pure unbound
      else do
        let b ← b.update pending.id fun c : PlanChange => { c with status := .requiresAction }
        pure {
          billing := b
          incidents := [.observe .planChangePaymentFailed f.dedupeKey f.invoiceId
            (some f.account.id)]
          result := {
            outcome := .ignored
            reason := some "optional plan change payment failed; paid entitlement retained"
            accountId := some f.account.id } }

/-- A failed renewal marks the account past due. -/
def failRenewal (b : Billing) (e : Event) (f : FailedInvoice) : Transaction Effect :=
  if !wins f.account e then
    pure { billing := b, result := {
      outcome := .ignored
      reason := some "older or weaker than the applied state"
      accountId := some f.account.id } }
  else do
    let b ← b.update f.account.id fun a : Account =>
      { a with
        subscriptionStatus := .pastDue
        eventCreated := (projectionOrder f.account e).1
        eventRank := (projectionOrder f.account e).2 }
    pure { billing := b, result := { outcome := .handled, accountId := some f.account.id } }

/-- `EventProcessor._payment_failed`. -/
def paymentFailed (cfg : Config) (b : Billing) (e : Event) : Transaction Effect :=
  (failedInvoiceGuards cfg b e).andThen b fun f =>
    if f.billingReason = .subscriptionUpdate then
      failPlanChange b e f
    else
      failRenewal b e f

/-! ## Updated Subscriptions -/

/-- `_project_status` of the statuses Stripe has (`_SUBSCRIPTION_STATUSES`). -/
def projectStatus : String → Option SubscriptionStatus
  | "active" | "trialing" => some .active
  | "past_due" | "unpaid" | "paused" => some .pastDue
  | "canceled" | "incomplete_expired" => some .canceled
  | "incomplete" => some .none
  | _ => none

/-- The only item of a Subscription; `has_more` must be absent, null or false. -/
def subscriptionItem (subscription : Json) : Transaction (Option Json) :=
  let container := subscription.get "items"
  let hasMore := container.get "has_more"
  if !container.isObj then
    .ok none
  else if !hasMore.hashable then
    .error (.typeError hasMore.unhashableType)
  else if hasMore.truthy || hasMore.asStr = some "" then
    .ok none
  else match container.get "data" with
    | .arr [item] => .ok (some item)
    | _ => .ok none

/-- `_subscription_plan`. -/
def subscriptionPlan (cfg : Config) (subscription : Json) :
    Transaction (Option (Plan × Interval)) := do
  let item ← subscriptionItem subscription
  match item.filter fun item => item.isObj && (item.get "quantity").asInt = some 1 with
  | none => pure none
  | some item =>
      match cfg.catalog.parseLookupKey (lineLookup item) with
      | none => pure none
      | some (plan, interval) => do
          let identity ← cfg.catalogLineMatches item plan interval
          pure (if identity then some (plan, interval) else none)

/-- `_subscription_period_end`: of the only item, else of the Subscription. -/
def subscriptionPeriodEnd (subscription : Json) : Transaction (Option Int) := do
  let item ← subscriptionItem subscription
  let itemEnd := (item.map fun item => item.get "current_period_end").getD .null
  pure (timestamp (if itemEnd.isNull then subscription.get "current_period_end" else itemEnd))

/-- A Subscription object that may be projected. -/
structure SubscriptionFacts where
  account : Account
  subscriptionId : String
  customerId : String
  status : SubscriptionStatus
  cancelAtPeriodEnd : Bool
  periodEnd : Int
  plan : Plan
  interval : Interval

/-- The Checkout claim that authorizes an unbound Subscription. -/
def claimAuthorizes (claim : CheckoutClaim) (subscription : Json) (plan : Plan)
    (interval : Interval) : Bool :=
  let claimToken := (subscription.get "metadata").get "claim_token"
  claimToken.truthy && claim.claimToken = claimToken.text && claim.planKey = plan.key &&
    claim.planInterval = interval

/-- The guards of `_subscription_updated` before the ordering cursor. -/
def subscriptionGuards (cfg : Config) (b : Billing) (e : Event) : Guarded SubscriptionFacts := do
  let subscription := e.object
  let account ← fetch (lockAccount cfg.unicode b subscription (subscription.get "metadata"))
    (Stop.dropped "account not found" none)
  let incoming := (subscription.get "id").text
  let ignored (kind : IncidentKind) (reason : String) : Stop :=
    Stop.ignored kind s!"{account.id}:{incoming}" none (some account.id) reason
  let customerId ← fetch ((cfg.unicode.asId (subscription.get "customer")).filter
      (customerMatches account))
    (ignored .subscriptionCustomerIdentityConflict
      "subscription customer identity is missing or conflicting")
  let invalid := ignored .invalidSubscriptionProjection "Subscription projection shape is invalid"
  let periodEnd? ← Guarded.lift (subscriptionPeriodEnd subscription)
  let status ← fetch ((subscription.get "status").asStr.bind projectStatus) invalid
  let cancelAtPeriodEnd ← fetch (subscription.get "cancel_at_period_end").asBool invalid
  let periodEnd ← fetch periodEnd? invalid
  require (account.stripeSubscriptionId.all fun bound => bound = "" || bound = incoming)
    (ignored .subscriptionIdentityConflict "a different subscription is already bound")
  let parsed ← Guarded.lift (subscriptionPlan cfg subscription)
  let (plan, interval) ← fetch parsed
    (ignored .ambiguousSubscriptionItems "subscription must contain one catalog item")
  require (account.stripeSubscriptionId.isSome ||
      (b.claims.find? account.id).any fun claim =>
        claimAuthorizes claim subscription plan interval)
    (ignored .subscriptionUpdateWithoutAuthority "unbound subscription lacks a live Checkout claim")
  pure { account, subscriptionId := incoming, customerId, status, cancelAtPeriodEnd, periodEnd
         plan, interval }

/-- Project the Subscription facts onto the account. -/
def SubscriptionFacts.project (f : SubscriptionFacts) (e : Event) (a : Account) : Account :=
  { a with
    stripeCustomerId := a.stripeCustomerId.or (some f.customerId)
    stripeSubscriptionId := some f.subscriptionId
    subscriptionStatus := f.status
    currentPeriodEnd := some f.periodEnd
    cancelAtPeriodEnd := f.cancelAtPeriodEnd
    pendingFreeAt := if f.cancelAtPeriodEnd then some f.periodEnd else none
    eventCreated := (projectionOrder f.account e).1
    eventRank := (projectionOrder f.account e).2 }

/-- The claim that bound a Subscription is consumed with the binding. -/
def consumeClaim (b : Billing) (account : Account) : Billing :=
  if account.stripeSubscriptionId.isNone then
    { b with claims := b.claims.deleteWhere (·.accountId = account.id) }
  else
    b

/-- The effects of `_subscription_updated`. -/
def applySubscription (b : Billing) (e : Event) (f : SubscriptionFacts) : Transaction Effect :=
  if !wins f.account e then
    let tie : List IncidentAction :=
      if orderingTie f.account e then
        [.observe .eventOrderTie
          s!"{f.account.id}:{e.type.text}:{e.created.text}:{f.account.eventRank}" none
          (some f.account.id)]
      else []
    pure { billing := b, incidents := tie, result := {
      outcome := .ignored
      reason := some "older or weaker than the applied state"
      accountId := some f.account.id } }
  else do
    let b ← b.update f.account.id (f.project e)
    pure {
      billing := consumeClaim b f.account
      result := { outcome := .handled, accountId := some f.account.id } }

/-- `EventProcessor._subscription_updated`. -/
def subscriptionUpdated (cfg : Config) (b : Billing) (e : Event) : Transaction Effect :=
  (subscriptionGuards cfg b e).andThen b (applySubscription b e)

/-! ## Deleted Subscriptions -/

/-- The guards of `_subscription_deleted`. -/
def deletionGuards (cfg : Config) (b : Billing) (e : Event) : Guarded Account := do
  let subscription := e.object
  let account ← fetch (lockAccount cfg.unicode b subscription (subscription.get "metadata"))
    (Stop.dropped "account not found" none)
  let incoming := cfg.unicode.asId (subscription.get "id")
  let dedupeKey := s!"{account.id}:{incoming.getD e.idText}"
  require (incoming.isSome && account.stripeSubscriptionId = incoming)
    (Stop.ignored .subscriptionDeletedIdentityConflict dedupeKey none (some account.id)
      "deleted event belongs to an unbound subscription")
  require ((cfg.unicode.asId (subscription.get "customer")).any (customerMatches account))
    (Stop.ignored .subscriptionCustomerIdentityConflict dedupeKey none (some account.id)
      "deleted subscription customer identity is missing or conflicting")
  require (wins account e)
    (Stop.dropped "older than the applied state" (some account.id))
  pure account

/-- Reset the account to the free, canceled state. -/
def projectDeletion (e : Event) (account : Account) (a : Account) : Account :=
  { a with
    stripeSubscriptionId := none
    planKey := "free"
    planInterval := none
    subscriptionStatus := .canceled
    creditsBalance := 0
    grantEpoch := account.grantEpoch + 1
    eventCreated := (projectionOrder account e).1
    eventRank := (projectionOrder account e).2
    currentPeriodEnd := none
    entitlementPeriodEnd := none
    creditExpiresAt := none
    entitlementRevoked := true
    cancelAtPeriodEnd := false
    pendingFreeAt := none
    annualAnchor := none
    annualGrantsIssued := 0
    annualGrantsAllowed := 12
    fundingInvoiceId := none }

/-- The effects of `_subscription_deleted`. -/
def applyDeletion (b : Billing) (e : Event) (account : Account) : Transaction Effect := do
  let b := { b with claims := b.claims.deleteWhere (·.accountId = account.id) }
  let b ← b.update account.id (projectDeletion e account)
  let b ← if account.creditsBalance = 0 then
      pure b
    else
      b.insertLedger account.id (-account.creditsBalance) 0 .subscriptionEnded
        (account.grantEpoch + 1) e.idText none none 0
  let b ← b.updateWhere
    (fun c : PlanChange => c.accountId = account.id &&
      some c.stripeSubscriptionId = account.stripeSubscriptionId && c.status.isPending)
    fun c =>
      { c with
        status := .failed
        lastError := some "subscription_deleted"
        leaseToken := none
        leaseExpiresAt := none }
  pure {
    billing := b
    incidents := [.resolveDeleted account.id]
    result := { outcome := .handled, accountId := some account.id } }

/-- `EventProcessor._subscription_deleted`. -/
def subscriptionDeleted (cfg : Config) (b : Billing) (e : Event) : Transaction Effect :=
  (deletionGuards cfg b e).andThen b (applyDeletion b e)

end StripeEntitlements
