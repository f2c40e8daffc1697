import StripeEntitlements.Processor.Process

/-!
# Annual Grants

`AnnualGrantService.grant_due`: the worker that replaces the balance of an annual plan at
each monthly boundary, against a Subscription snapshot retrieved beforehand.
-/

namespace StripeEntitlements

open Relational

/-- `SubscriptionSnapshot`. -/
structure SubscriptionSnapshot where
  subscriptionId : String
  status : String
  lookupKey : Option String
  currentPeriodEnd : Option Int := none
  resolvedPrice : Option Json := none
  quantity : Option Int := none
  itemsComplete : Bool := true

/-- `return ProcessResult("ignored", reason, account_id)` of the worker. -/
def annualIgnored (accountId reason : String) : Stop := Stop.dropped reason (some accountId)

/-- The local guards of `grant_due`. -/
def annualAccountGuards (b : Billing) (accountId : String) (now : Int)
    (snapshot : SubscriptionSnapshot) : Guarded Account := do
  let account ← fetch ((uuidParameter accountId).bind b.accounts.find?)
    (if (uuidParameter accountId).isSome then Stop.dropped "account not found" none
      else .raised .outOfRange)
  require (account.subscriptionStatus = .active && account.planInterval = some .year)
    (annualIgnored accountId "account is not an active annual plan")
  require (!account.entitlementRevoked)
    (annualIgnored accountId "annual entitlement is revoked")
  require (account.entitlementPeriodEnd.any (now < ·))
    (annualIgnored accountId "annual entitlement period has ended")
  require (account.stripeSubscriptionId = some snapshot.subscriptionId)
    (annualIgnored accountId "subscription changed during remote verification")
  require (snapshot.status = "active" || snapshot.status = "trialing")
    (annualIgnored accountId "Stripe subscription is not active")
  pure account

/-- `price_matches`: the snapshot shows the annual catalog Price of its plan. -/
def annualPriceMatches (cfg : Config) (snapshot : SubscriptionSnapshot) (plan : Plan) :
    Transaction Bool :=
  match snapshot.resolvedPrice with
  | some price =>
      if snapshot.itemsComplete && snapshot.quantity = some 1 then
        catalogPriceMatches cfg.unicode.lower price {
          currency := plan.currency
          unitAmount := plan.amount .year
          interval := .year
          productLine := cfg.productLine
          planKey := plan.key
          lookupKey := cfg.catalog.lookupKey plan .year }
      else
        .ok false
  | none => .ok false

/-- `mismatch_key`. -/
def annualMismatchKey (account : Account) (accountId : String) : String :=
  let subscriptionId := account.stripeSubscriptionId.getD "None"
  s!"{accountId}:{subscriptionId}"

/-- The remote snapshot agrees with the local annual plan. -/
def annualPlanGuards (cfg : Config) (account : Account) (accountId : String)
    (snapshot : SubscriptionSnapshot) : Guarded Plan := do
  let mismatch := Stop.returned
    [.observe .annualPlanMismatch (annualMismatchKey account accountId)
      account.fundingInvoiceId (some account.id)]
    { outcome := .ignored, reason := some "remote and local annual plans differ"
      accountId := some accountId }
  let (plan, interval) ← fetch (cfg.catalog.parseLookupKey snapshot.lookupKey) mismatch
  let price ← Guarded.lift (annualPriceMatches cfg snapshot plan)
  require (plan.key = account.planKey && interval = .year &&
    snapshot.currentPeriodEnd.isSome &&
    snapshot.currentPeriodEnd = account.entitlementPeriodEnd &&
    snapshot.currentPeriodEnd = account.currentPeriodEnd && price) mismatch
  pure plan

/-- The monthly boundaries of the anchor that have passed: the largest slot of `1..12`. -/
def annualBoundaries (cfg : Config) (anchor : Option Int) (now : Int) : Nat :=
  match anchor with
  | none => 0
  | some anchor =>
      ((List.range' 1 12).filter fun slot => cfg.addMonths anchor slot ≤ now).foldr max 0

/-- `target_slot`. -/
def annualTargetSlot (cfg : Config) (account : Account) (now : Int) : Nat :=
  min (min (annualBoundaries cfg account.annualAnchor now + 1) account.annualGrantsAllowed) 12

/-- Replace the balance with one monthly slot. -/
def projectAnnualSlot (cfg : Config) (account : Account) (plan : Plan) (slot : Nat)
    (a : Account) : Account :=
  let boundary := a.annualAnchor.map fun anchor => cfg.addMonths anchor slot
  { a with
    creditsBalance := plan.monthlyCredits
    grantEpoch := account.grantEpoch + 1
    annualGrantsIssued := slot
    creditExpiresAt := match a.entitlementPeriodEnd, boundary with
      | some periodEnd, some boundary => some (min periodEnd boundary)
      | periodEnd, boundary => periodEnd.or boundary }

/-- Grant one slot of a funded annual Invoice. -/
def grantAnnualSlot (cfg : Config) (tx : Tx) (b : Billing) (account : Account) (plan : Plan)
    (invoiceId : String) (slot : Nat) : Transaction Billing := do
  let eventId := s!"annual:{invoiceId}:{slot}"
  let newEpoch := account.grantEpoch + 1
  let credits := plan.monthlyCredits
  let b ← b.update account.id (projectAnnualSlot cfg account plan slot)
  let b ← b.insertLedger account.id ((credits : Int) - account.creditsBalance) credits
    .subscriptionGrant newEpoch eventId (some invoiceId) (some slot) credits
  let b ← b.update invoiceId fun i : InvoiceState =>
    { i with grantsIssued := max i.grantsIssued slot }
  let (b, _) ← collectPackDebtsFromSubscription tx b account.id newEpoch s!"pack-debt:{eventId}"
  pure b

/-- The effects of `grant_due` for an account whose plans agree. -/
def applyAnnualGrant (cfg : Config) (tx : Tx) (b : Billing) (account : Account) (plan : Plan)
    (accountId : String) (now : Int) : Transaction Effect := do
  let agreed := IncidentAction.resolveAnnualMismatch (annualMismatchKey account accountId)
  let answer (outcome : EventOutcome) (reason : String) : ProcessResult :=
    { outcome, reason := some reason, accountId := some accountId }
  let slot := annualTargetSlot cfg account now
  if slot ≤ account.annualGrantsIssued then
    pure { billing := b, incidents := [agreed, .resolveAnnualFailure account.id]
           result := answer .replayed "the current annual slot was already granted" }
  else
    let invoiceId := account.fundingInvoiceId.getD "None"
    match b.invoices.find? invoiceId with
    | none => pure { billing := b, incidents := [agreed]
                     result := answer .ignored "funding invoice state is missing" }
    | some state =>
        if state.closed then do
          let b ← b.update account.id fun a : Account =>
            { a with annualGrantsAllowed := a.annualGrantsIssued }
          pure { billing := b, incidents := [agreed]
                 result := answer .ignored "funding invoice is closed" }
        else do
          let b ← grantAnnualSlot cfg tx b account plan invoiceId slot
          pure { billing := b, incidents := [agreed, .resolveAnnualFailure account.id]
                 result := answer .handled s!"granted annual slot {slot}" }

/-- `AnnualGrantService.grant_due`. -/
def grantDue (cfg : Config) (tx : Tx) (b : Billing) (accountId : String) (now : Option Int)
    (snapshot : SubscriptionSnapshot) : Transaction Effect :=
  let now := now.getD tx.now
  let guards : Guarded (Account × Plan) := do
    let account ← annualAccountGuards b accountId now snapshot
    let plan ← annualPlanGuards cfg account accountId snapshot
    pure (account, plan)
  guards.andThen b fun (account, plan) => applyAnnualGrant cfg tx b account plan accountId now

end StripeEntitlements
