import StripeEntitlements.Processor.ProratedDelta

/-!
# Paid Invoices

`EventProcessor._invoice_paid`. After the guards on account, customer and lines, a
`subscription_update` Invoice with a prorated intent takes the delta path. Any other
Invoice pays one whole period: it replaces the balance and advances the grant epoch, or
leaves a blocked marker when its funding was already closed.
-/

namespace StripeEntitlements

open Relational

/-! ## Common guards -/

/-- The lines array of an Invoice, with stable identities and integer amounts. -/
def invoiceLines (cfg : Config) (invoice : Json)
    (ignored : IncidentKind → String → Stop) : Guarded (List Json) := do
  let container := invoice.get "lines"
  -- `invoice.get("lines") or {}`
  require ((!container.truthy || container.isObj) && !(container.get "has_more").truthy)
    (ignored .incompleteInvoiceLines "Invoice line pagination is incomplete")
  let lines ← fetch ((container.get "data").asArr.filter fun lines => lines.all Json.isObj)
    (ignored .invalidInvoiceLineShape "Invoice lines must be an array of objects")
  let lineIds := lines.map fun line => cfg.unicode.asId (line.get "id")
  require (lineIds.all Option.isSome && lineIds.Nodup)
    (ignored .invalidInvoiceLineShape "Invoice lines require stable unique identities")
  require (lines.all fun line => (line.get "amount").asInt.isSome)
    (ignored .invalidInvoiceLineShape "Invoice line amounts must be integers")
  pure lines

/-- The customer of an Invoice or Subscription is present and not another's. -/
def customerMatches (account : Account) (customerId : String) : Bool :=
  account.stripeCustomerId.all (· = customerId)

/-- The guards of `_invoice_paid` before the intent is selected. -/
def paidInvoiceGuards (cfg : Config) (b : Billing) (e : Event) : Guarded PaidInvoice := do
  let invoice := e.object
  let invoiceId := (invoice.get "id").text
  let account ← fetch (lockAccount cfg.unicode b invoice (subscriptionMetadata invoice)) <|
    Stop.ignored .paidUnknownAccount invoiceId (some invoiceId) none "account not found"
  let ignored (kind : IncidentKind) (reason : String) : Stop :=
    Stop.ignored kind invoiceId (some invoiceId) (some account.id) reason
  let customerId ← fetch ((cfg.unicode.asId (invoice.get "customer")).filter
      (customerMatches account)) <|
    Stop.ignored .paidCustomerIdentityConflict s!"{account.id}:{invoiceId}" (some invoiceId)
      (some account.id) "invoice customer identity is missing or conflicting"
  -- `invoice.get("billing_reason") not in _PAID_REASONS` hashes the value
  require (invoice.get "billing_reason").hashable
    (Stop.raised (.typeError (invoice.get "billing_reason").unhashableType))
  let billingReason ← fetch ((invoice.get "billing_reason").asStr.bind BillingReason.parse)
    (ignored .unexpectedBillingReason "unexpected billing reason")
  let shapeUnsupported ← if (invoice.get "_unsupported_invoice_payment_shape").isTrue then
      pure true
    else
      Guarded.lift (hasUnsupportedInvoicePaymentShape invoice)
  require (!shapeUnsupported)
    (ignored .unsupportedInvoicePaymentShape
      "Invoice payment collection is outside the single-payment model")
  require (invoice.get "_preparation_error").isNull
    (ignored .invoicePreparationFailed "Invoice could not be materialized safely")
  let lines ← invoiceLines cfg invoice ignored
  pure {
    invoice, invoiceId, account, customerId, billingReason
    subscriptionId := cfg.unicode.subscriptionId invoice
    lines }

/-- Statuses of an unbound immediate intent that a paid Invoice may settle. -/
def PlanChangeStatus.awaitsInvoice : PlanChangeStatus → Bool
  | .applying | .applied | .requiresAction => true
  | _ => false

/-- The prorated intent of a paid `subscription_update` Invoice. -/
def proratedTransition (b : Billing) (p : PaidInvoice) : Option PlanChange :=
  match p.billingReason, p.subscriptionId with
  | .subscriptionUpdate, some subscriptionId =>
      newestBy PlanChange.createdAt (b.planChanges.select fun c =>
        c.accountId = p.account.id && c.stripeSubscriptionId = subscriptionId &&
          c.transitionPolicy = .proratedDelta &&
          (c.settlementInvoiceId = some p.invoiceId ||
            (c.settlementInvoiceId.isNone && c.effectiveMode = .immediate &&
              c.status.awaitsInvoice)))
  | _, _ => none

/-! ## Full-period terms -/

/-- The catalog terms one non-prorated line pays for. -/
structure PeriodTerms where
  plan : Plan
  interval : Interval
  periodStart : Int
  periodEnd : Int

/-- Line, totals and currency all equal the catalog amount. -/
def matchesCatalogAmount (cfg : Config) (p : PaidInvoice) (line : Json) (plan : Plan)
    (interval : Interval) : Bool :=
  let expected : Option Int := some (plan.amount interval)
  let currency := cfg.lowerText (p.invoice.get "currency")
  (line.get "quantity").asInt = some 1 && (line.get "amount").asInt = expected &&
    (p.invoice.get "amount_paid").asInt = expected && (p.invoice.get "total").asInt = expected &&
    invoiceTotal p.invoice "amount_due" = expected &&
    invoiceTotal p.invoice "subtotal" = expected &&
    currency = plan.currency && cfg.lineCurrency line currency = plan.currency &&
    !hasUnsupportedInvoiceAdjustments p.invoice p.lines

/-- The catalog guards of a whole-period Invoice. -/
def periodTerms (cfg : Config) (p : PaidInvoice) : Guarded PeriodTerms := do
  let ambiguous := p.ignored .ambiguousInvoiceLines "invoice must have exactly one grant line"
  let line ← match p.lines.filter fun line => !lineProration line with
    | [line] => pure line
    | _ => .error ambiguous
  let (plan, interval) ← fetch (cfg.catalog.parseLookupKey (lineLookup line))
    (p.ignored .unknownPrice "price lookup key is not in the catalog")
  let identity ← Guarded.lift (cfg.catalogLineMatches line plan interval)
  require identity
    (p.ignored .invoicePriceIdentityMismatch
      "Invoice Price or Product identity does not match the catalog")
  require (matchesCatalogAmount cfg p line plan interval)
    (p.ignored .invoiceCatalogAmountMismatch
      "invoice amount or currency does not match the catalog")
  let invalid := p.ignored .invalidEntitlementPeriod "invoice service period is invalid"
  let periodStart ← fetch (timestamp ((line.get "period").get "start")) invalid
  let periodEnd ← fetch (timestamp ((line.get "period").get "end")) invalid
  require (periodStart < periodEnd) invalid
  pure { plan, interval, periodStart, periodEnd }

/-! ## Authority -/

/-- A first Invoice of the bound Subscription, or of the live Checkout claim. -/
def checkoutAuthorized (b : Billing) (p : PaidInvoice) (t : PeriodTerms) : Bool :=
  let claimToken := (subscriptionMetadata p.invoice).get "claim_token"
  (p.subscriptionId.isSome && p.account.stripeSubscriptionId = p.subscriptionId) ||
    ((b.claims.find? p.account.id).any fun claim =>
      p.subscriptionId.isSome && claim.planKey = t.plan.key &&
        claim.planInterval = t.interval && claimToken.truthy &&
        claim.claimToken = claimToken.text)

/-- The Invoice changes the entitled plan, so it needs an intent. -/
def needsIntent (p : PaidInvoice) (t : PeriodTerms) : Bool :=
  p.billingReason = .subscriptionUpdate ||
    (p.billingReason = .subscriptionCycle &&
      !(t.plan.key = p.account.planKey && some t.interval = p.account.planInterval))

/-- The newest intent of this target that a full-period Invoice may settle. -/
def targetTransition (b : Billing) (p : PaidInvoice) (t : PeriodTerms)
    (statuses : PlanChangeStatus → Bool) : Option PlanChange :=
  newestBy PlanChange.createdAt (b.planChanges.select fun c =>
    c.accountId = p.account.id && some c.stripeSubscriptionId = p.subscriptionId &&
      c.targetPlanKey = t.plan.key && c.targetInterval = t.interval &&
      (c.settlementInvoiceId.isNone || c.settlementInvoiceId = some p.invoiceId) &&
      statuses c.status)

/-- Statuses that authorize a paid plan change. -/
def PlanChangeStatus.authorizes : PlanChangeStatus → Bool
  | .applying | .scheduled | .applied | .requiresAction => true
  | _ => false

/-- Statuses of an intent that a granted Invoice also settles without needing it. -/
def PlanChangeStatus.settlesAlong : PlanChangeStatus → Bool
  | .scheduled | .applied | .requiresAction => true
  | _ => false

/-- The intent that authorizes a plan change, where one is needed. -/
def intentGuard (b : Billing) (p : PaidInvoice) (t : PeriodTerms) :
    Guarded (Option PlanChange) :=
  let missing := p.ignored .paidPlanChangeWithoutIntent
    "paid plan change lacks an authenticated intent"
  if needsIntent p t then do
    let transition ← fetch (targetTransition b p t PlanChangeStatus.authorizes) missing
    require (p.billingReason ≠ .subscriptionUpdate || transition.effectiveMode = .immediate)
      missing
    pure (some transition)
  else
    pure none

/-- The guards of a whole-period Invoice whose first slot is free. -/
def periodGuards (b : Billing) (e : Event) (p : PaidInvoice) (t : PeriodTerms) :
    Guarded (Option PlanChange) := do
  let account := p.account
  require (p.billingReason ≠ .subscriptionCreate || checkoutAuthorized b p t)
    (p.ignored .subscriptionCreateWithoutCheckout "subscription create lacks a live Checkout claim")
  let transition ← intentGuard b p t
  require (p.lines.all fun line => !(lineProration line && (line.get "amount").asInt ≠ some 0))
    (p.ignored .unsafeCrossInvoiceProration "cross-invoice proration is unsafe")
  require (p.lines.length = 1)
    (p.ignored .ambiguousInvoiceLines "invoice must have exactly one grant line")
  require (account.stripeSubscriptionId.isNone || p.subscriptionId = account.stripeSubscriptionId)
    (Stop.ignored .paidSubscriptionIdentityConflict s!"{account.id}:{p.invoiceId}"
      (some p.invoiceId) (some account.id) "invoice belongs to a different subscription")
  let remoteCasFailed := e.remoteVerified && !wins account e
  let stalePeriod := account.entitlementPeriodEnd.any (t.periodEnd ≤ ·)
  require (!remoteCasFailed && !stalePeriod)
    (Stop.ignored .stalePaidEvent s!"{account.id}:{p.invoiceId}" (some p.invoiceId)
      (some account.id) "older than the paid entitlement period")
  require (0 < t.plan.amount t.interval)
    (p.ignored .invoiceWithoutNewFunding "paid invoice has no new cash funding")
  require (invoiceUnownedOr b p.invoiceId account.id)
    (p.ignored .invoiceAccountIdentityConflict "invoice is owned by another account")
  pure transition

/-! ## Effects -/

/-- A first slot that already exists is replayed; a winning Event still projects the paid
    status. -/
def replayPeriod (b : Billing) (e : Event) (p : PaidInvoice) (existing : LedgerRow) :
    Transaction Effect :=
  (replayOwner p existing).andThen b fun _ => do
    let b ← if wins p.account e then
        b.update p.account.id fun a : Account =>
          { a with
            eventCreated := (projectionOrder p.account e).1
            eventRank := (projectionOrder p.account e).2
            subscriptionStatus := .active }
      else
        pure b
    pure { billing := b, result := p.replayed }

/-- Bind the Invoice to its intent while moving it to a final status. -/
def settleTransition (b : Billing) (transition : PlanChange) (invoiceId : String)
    (status : PlanChangeStatus) (lastError : Option String) : Transaction Billing := do
  let bound := (b.planChanges.find? transition.id).any fun c =>
    c.settlementInvoiceId.isNone || c.settlementInvoiceId = some invoiceId
  require bound (.runtimeError "plan-change settlement Invoice binding changed")
  b.update transition.id fun c : PlanChange =>
    { c with
      status
      settlementInvoiceId := c.settlementInvoiceId.or (some invoiceId)
      lastError := lastError.or c.lastError
      leaseToken := none
      leaseExpiresAt := none }

/-- The annual and monthly columns of a granted period. -/
structure PeriodSlots where
  blocked : Bool
  allowed : Nat
  annualAnchor : Option Int
  annualIssued : Nat
  fundingInvoiceId : Option String

/-- How many slots the Invoice funds, given what was refunded of it already. -/
def periodSlots (p : PaidInvoice) (t : PeriodTerms) (state : InvoiceState) : PeriodSlots :=
  match t.interval with
  | .year =>
      let fundedAllowed :=
        if state.closed then 0 else annualSlotsAllowed state.amountTotal state.amountRefunded 0
      { blocked := fundedAllowed < 1
        allowed := max 1 fundedAllowed
        annualAnchor := some t.periodStart
        annualIssued := 1
        fundingInvoiceId := some p.invoiceId }
  | .month =>
      { blocked := state.closed
        allowed := 12
        annualAnchor := none
        annualIssued := 0
        fundingInvoiceId := none }

/-- The Invoice was closed before it was paid: mark its slot without a grant. -/
def blockPeriod (b : Billing) (e : Event) (p : PaidInvoice) (t : PeriodTerms)
    (transition : Option PlanChange) : Transaction Effect := do
  let b ← b.insertLedger p.account.id 0 p.account.creditsBalance .subscriptionGrantBlocked
    p.account.grantEpoch e.idText (some p.invoiceId) (some 1) 0
  let b ← b.update p.invoiceId fun i : InvoiceState =>
    { i with
      grantUnitsPerSlot := t.plan.monthlyCredits
      grantsIssued := 1
      closureApplied := true }
  let b ← match transition with
    | none => pure b
    | some transition =>
        settleTransition b transition p.invoiceId .failed (some "invoice_funding_closed")
  pure { billing := b, result := {
    outcome := .ignored
    reason := some "invoice funding does not cover an entitlement slot"
    accountId := some p.account.id } }

/-- Replace the entitlement of the account with the paid period. -/
def projectPeriod (cfg : Config) (e : Event) (p : PaidInvoice) (t : PeriodTerms)
    (slots : PeriodSlots) (a : Account) : Account :=
  let projectionWins := wins p.account e
  let projected := if projectionWins then projectionOrder p.account e else p.account.cursor
  { a with
    stripeCustomerId := a.stripeCustomerId.or (some p.customerId)
    stripeSubscriptionId := p.subscriptionId.or a.stripeSubscriptionId
    planKey := t.plan.key
    planInterval := some t.interval
    subscriptionStatus := if projectionWins then .active else p.account.subscriptionStatus
    entitlementRevoked := false
    creditsBalance := t.plan.monthlyCredits
    grantEpoch := p.account.grantEpoch + 1
    eventCreated := projected.1
    eventRank := projected.2
    currentPeriodEnd := some t.periodEnd
    entitlementPeriodEnd := some t.periodEnd
    creditExpiresAt := some <| match t.interval with
      | .year => min t.periodEnd (cfg.addMonths t.periodStart 1)
      | .month => t.periodEnd
    annualAnchor := slots.annualAnchor
    annualGrantsIssued := slots.annualIssued
    annualGrantsAllowed := slots.allowed
    fundingInvoiceId := slots.fundingInvoiceId }

/-- The cumulative monthly refund of the Invoice, then outstanding pack debt. -/
def settlePeriod (tx : Tx) (b : Billing) (e : Event) (p : PaidInvoice) (t : PeriodTerms)
    (state : InvoiceState) (grantId : Nat) : Transaction Billing := do
  let b ← if t.interval = .month && 0 < state.amountRefunded then do
      let (b, _) ← applyClawbackToGrant tx b p.account.id p.invoiceId grantId
        t.plan.monthlyCredits state.amountTotal state.amountRefunded false .refundClawback e.idText
      pure b
    else
      pure b
  let (b, _) ← collectPackDebtsFromSubscription tx b p.account.id (p.account.grantEpoch + 1)
    s!"pack-debt:{e.idText}"
  pure b

/-- Complete the intent the Invoice settles, if there is one. -/
def completeTransition (b : Billing) (p : PaidInvoice) (t : PeriodTerms)
    (transition : Option PlanChange) : Transaction Effect := do
  let transition := transition.or (targetTransition b p t PlanChangeStatus.settlesAlong)
  let result := { outcome := .handled, accountId := some p.account.id }
  match transition with
  | none => pure { billing := b, result }
  | some transition => do
      let b ← settleTransition b transition p.invoiceId .completed none
      pure {
        billing := b
        incidents := [.resolveSettled p.account.id p.invoiceId transition.id]
        result }

/-- The funded period. -/
def grantPeriod (cfg : Config) (tx : Tx) (b : Billing) (e : Event) (p : PaidInvoice)
    (t : PeriodTerms) (slots : PeriodSlots) (state : InvoiceState)
    (transition : Option PlanChange) : Transaction Effect := do
  let credits := t.plan.monthlyCredits
  let b ← b.update p.account.id (projectPeriod cfg e p t slots)
  let grantId := nextSerial LedgerRow.id b.ledger.rows
  let b ← b.insertLedger p.account.id ((credits : Int) - p.account.creditsBalance) credits
    .subscriptionGrant (p.account.grantEpoch + 1) e.idText (some p.invoiceId) (some 1) credits
  let b ← b.update p.invoiceId fun i : InvoiceState =>
    { i with grantUnitsPerSlot := credits, grantsIssued := 1 }
  let b ← settlePeriod tx b e p t state grantId
  completeTransition b p t transition

/-- The effects of a whole-period Invoice whose first slot is free. -/
def applyPeriod (cfg : Config) (tx : Tx) (b : Billing) (e : Event) (p : PaidInvoice)
    (t : PeriodTerms) (transition : Option PlanChange) : Transaction Effect := do
  let (b, state) ← recordInvoice b {
    invoiceId := p.invoiceId
    accountId := some p.account.id
    amountTotal := t.plan.amount t.interval }
  let slots := periodSlots p t state
  if slots.blocked then
    blockPeriod b e p t transition
  else
    grantPeriod cfg tx b e p t slots state transition

/-- The whole-period path. -/
def invoicePaidPeriod (cfg : Config) (tx : Tx) (b : Billing) (e : Event) (p : PaidInvoice) :
    Transaction Effect :=
  (periodTerms cfg p).andThen b fun t =>
    match firstSlotGrant b p.invoiceId with
    | some existing => replayPeriod b e p existing
    | none => (periodGuards b e p t).andThen b (applyPeriod cfg tx b e p t)

/-- `EventProcessor._invoice_paid`. -/
def invoicePaid (cfg : Config) (tx : Tx) (b : Billing) (e : Event) : Transaction Effect :=
  (paidInvoiceGuards cfg b e).andThen b fun p =>
    match proratedTransition b p with
    | some transition => invoicePaidProratedDelta cfg tx b e p transition
    | none => invoicePaidPeriod cfg tx b e p

end StripeEntitlements
