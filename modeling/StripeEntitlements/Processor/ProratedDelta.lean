import StripeEntitlements.Processor.Funding

/-!
# Prorated Upgrade Invoices

`_invoice_paid_prorated_delta`: a paid `subscription_update` Invoice with one negative
source line and one positive target line adds the credit difference of the two monthly
plans to the current epoch.
-/

namespace StripeEntitlements

open Relational

/-! ## Paid Invoice context -/

inductive BillingReason where
  | subscriptionCreate | subscriptionCycle | subscriptionUpdate
  deriving DecidableEq, Repr

/-- `_PAID_REASONS`. -/
def BillingReason.parse : String → Option BillingReason
  | "subscription_create" => some .subscriptionCreate
  | "subscription_cycle" => some .subscriptionCycle
  | "subscription_update" => some .subscriptionUpdate
  | _ => none

/-- A paid Invoice whose account, customer, reason and lines passed the common guards. -/
structure PaidInvoice where
  invoice : Json
  invoiceId : String
  account : Account
  customerId : String
  billingReason : BillingReason
  subscriptionId : Option String
  lines : List Json

/-- `return ProcessResult("ignored", reason, account_id)` with an incident on the Invoice. -/
def PaidInvoice.ignored (p : PaidInvoice) (kind : IncidentKind) (reason : String) : Stop :=
  Stop.ignored kind p.invoiceId (some p.invoiceId) (some p.account.id) reason

/-! ## Shape -/

/-- `_ProratedDeltaShape`. -/
structure ProratedDeltaShape where
  sourcePlan : Plan
  targetPlan : Plan
  sourceLineId : String
  targetLineId : String
  sourceCreditAmount : Int
  targetChargeAmount : Int
  amountPaid : Int
  currency : String
  periodStart : Int
  periodEnd : Int

/-- `raise ValueError(reason)`, which the caller answers as ignored. -/
def PaidInvoice.invalidDelta (p : PaidInvoice) (reason : String) : Stop :=
  p.ignored .invalidProratedDeltaInvoice reason

/-- The catalog Price of one prorated line. -/
def deltaLinePlan (cfg : Config) (p : PaidInvoice) (line : Json) : Guarded Plan := do
  require (lineProration line) (p.invalidDelta "both prorated delta lines must be prorations")
  require ((line.get "quantity").asInt = some 1 && (line.get "id").asStr.isSome)
    (p.invalidDelta "prorated delta lines require identity and quantity one")
  let (plan, interval) ← fetch (cfg.catalog.parseLookupKey (lineLookup line))
    (p.invalidDelta "every prorated delta line must use a catalog Price")
  require (interval = .month)
    (p.invalidDelta "prorated delta is supported only for monthly Prices")
  let identity ← Guarded.lift (cfg.catalogLineMatches line plan interval)
  require identity
    (p.invalidDelta "Invoice Price or Product identity differs from the catalog")
  pure plan

/-- The source and target lines found so far. -/
structure DeltaLines where
  source : Option (Json × Plan) := none
  target : Option (Json × Plan) := none

def DeltaLines.add (cfg : Config) (p : PaidInvoice) (transition : PlanChange)
    (found : DeltaLines) (line : Json) : Guarded DeltaLines := do
  let plan ← deltaLinePlan cfg p line
  if plan.key = transition.fromPlanKey then do
    require found.source.isNone (p.invalidDelta "multiple source Price lines are ambiguous")
    pure { found with source := some (line, plan) }
  else if plan.key = transition.targetPlanKey then do
    require found.target.isNone (p.invalidDelta "multiple target Price lines are ambiguous")
    pure { found with target := some (line, plan) }
  else
    .error (p.invalidDelta "Invoice contains a Price outside the authorized transition")

def collectDeltaLines (cfg : Config) (p : PaidInvoice) (transition : PlanChange) :
    List Json → DeltaLines → Guarded DeltaLines
  | [], found => .ok found
  | line :: rest, found => do
      let found ← found.add cfg p transition line
      collectDeltaLines cfg p transition rest found

/-- The source and target amounts, checked against whole monthly Prices. -/
def deltaAmounts (p : PaidInvoice) (sourceLine targetLine : Json) (sourcePlan targetPlan : Plan) :
    Guarded (Int × Int) := do
  let nonInteger := p.invalidDelta "prorated delta amounts must be integers"
  let sourceAmount ← fetch (sourceLine.get "amount").asInt nonInteger
  let targetAmount ← fetch (targetLine.get "amount").asInt nonInteger
  require (sourceAmount < 0 && 0 < targetAmount && -sourceAmount < targetAmount)
    (p.invalidDelta "Invoice does not contain a positive net upgrade difference")
  let sourceCatalog : Int := sourcePlan.amount .month
  let targetCatalog : Int := targetPlan.amount .month
  require (-sourceAmount ≤ sourceCatalog && targetAmount ≤ targetCatalog)
    (p.invalidDelta "proration amounts cannot exceed one complete monthly Price")
  require (|(-sourceAmount * targetCatalog) - targetAmount * sourceCatalog|
      ≤ max sourceCatalog targetCatalog)
    (p.invalidDelta "source and target prorations use inconsistent period fractions")
  pure (sourceAmount, targetAmount)

/-- `str(value or "").lower()`. -/
def Config.lowerText (cfg : Config) (value : Json) : String :=
  if value.truthy then cfg.unicode.lower value.text else cfg.unicode.lower ""

/-- `str(line.get("currency") or invoice_currency).lower()`. -/
def Config.lineCurrency (cfg : Config) (line : Json) (invoiceCurrency : String) : String :=
  if (line.get "currency").truthy then cfg.unicode.lower (line.get "currency").text
  else cfg.unicode.lower invoiceCurrency

/-- `value if key in invoice else total`. -/
def invoiceTotal (invoice : Json) (key : String) : Option Int :=
  if invoice.has key then (invoice.get key).asInt else (invoice.get "total").asInt

/-- Currency and net total of a delta Invoice. -/
def deltaTotal (cfg : Config) (p : PaidInvoice) (sourcePlan targetPlan : Plan)
    (sourceAmount targetAmount : Int) : Guarded (Int × String) := do
  let currency := cfg.lowerText (p.invoice.get "currency")
  require (currency ≠ "" && sourcePlan.currency = targetPlan.currency)
    (p.invalidDelta "source and target Prices must use one currency")
  require (p.lines.all (fun line => cfg.lineCurrency line currency = currency) &&
      currency = targetPlan.currency)
    (p.invalidDelta "Invoice and line currencies do not match the catalog")
  let unpaid := p.invalidDelta "Invoice net total must be fully paid by new cash"
  let total ← fetch (p.invoice.get "total").asInt unpaid
  let amountPaid ← fetch (p.invoice.get "amount_paid").asInt unpaid
  let amountDue ← fetch (invoiceTotal p.invoice "amount_due") unpaid
  let subtotal ← fetch (invoiceTotal p.invoice "subtotal") unpaid
  require (0 < amountPaid && total = amountPaid && amountDue = amountPaid && subtotal = total &&
      sourceAmount + targetAmount = total) unpaid
  require (!hasUnsupportedInvoiceAdjustments p.invoice p.lines)
    (p.invalidDelta "balance, credit notes, taxes and discounts are not supported")
  pure (amountPaid, currency)

/-- The service period of a delta Invoice, against the durable preview date. -/
def deltaPeriod (p : PaidInvoice) (transition : PlanChange) (sourceLine targetLine : Json) :
    Guarded (Int × Int) := do
  let sourcePeriod := sourceLine.get "period"
  let targetPeriod := targetLine.get "period"
  require (sourcePeriod.isObj && targetPeriod.isObj && sourcePeriod.beq targetPeriod)
    (p.invalidDelta "source and target proration periods must match")
  let invalid := p.invalidDelta "proration service period is invalid"
  let periodStart ← fetch (timestamp (targetPeriod.get "start")) invalid
  let periodEnd ← fetch (timestamp (targetPeriod.get "end")) invalid
  require (periodStart < periodEnd) invalid
  require (transition.prorationDate.any fun date => periodStart = date * 1000000)
    (p.invalidDelta "Invoice proration date differs from the durable preview")
  require (some periodEnd = transition.expectedEntitlementPeriodEnd)
    (p.invalidDelta "Invoice period end differs from the funded entitlement period")
  pure (periodStart, periodEnd)

/-- The preview stored with the intent equals the paid Invoice. -/
def checkDeltaPreview (cfg : Config) (p : PaidInvoice) (transition : PlanChange)
    (shape : ProratedDeltaShape) : Guarded Unit := do
  require (transition.estimatedSourceProration.isSome &&
      transition.estimatedTargetProration.isSome && transition.estimatedAmountDue.isSome &&
      transition.estimatedPeriodStart.isSome && transition.estimatedPeriodEnd.isSome &&
      transition.estimateCurrency.isSome)
    (p.invalidDelta "durable prorated preview facts are incomplete")
  require (transition.estimatedSourceProration = some shape.sourceCreditAmount &&
      transition.estimatedTargetProration = some shape.targetChargeAmount &&
      transition.estimatedAmountDue = some shape.amountPaid &&
      transition.estimatedPeriodStart = some shape.periodStart &&
      transition.estimatedPeriodEnd = some shape.periodEnd &&
      transition.estimateCurrency.map cfg.unicode.lower = some shape.currency)
    (p.invalidDelta "paid Invoice differs from the durable prorated preview")

/-- `_parse_prorated_delta_shape`. -/
def parseProratedDeltaShape (cfg : Config) (p : PaidInvoice) (transition : PlanChange) :
    Guarded ProratedDeltaShape := do
  require (p.lines.length = 2) (p.invalidDelta "prorated delta requires exactly two Invoice lines")
  let found ← collectDeltaLines cfg p transition p.lines {}
  let missing := p.invalidDelta "Invoice is missing the authorized source or target Price line"
  let (sourceLine, sourcePlan) ← fetch found.source missing
  let (targetLine, targetPlan) ← fetch found.target missing
  require (transition.fromInterval = .month && transition.targetInterval = .month &&
      sourcePlan.rank < targetPlan.rank)
    (p.invalidDelta "intent is not a supported monthly tier upgrade")
  let (sourceAmount, targetAmount) ← deltaAmounts p sourceLine targetLine sourcePlan targetPlan
  let (amountPaid, currency) ← deltaTotal cfg p sourcePlan targetPlan sourceAmount targetAmount
  let (periodStart, periodEnd) ← deltaPeriod p transition sourceLine targetLine
  let shape := {
    sourcePlan, targetPlan
    sourceLineId := (sourceLine.get "id").text
    targetLineId := (targetLine.get "id").text
    sourceCreditAmount := -sourceAmount
    targetChargeAmount := targetAmount
    amountPaid, currency, periodStart, periodEnd }
  checkDeltaPreview cfg p transition shape
  pure shape

/-! ## Guards -/

/-- `snapshot_matches`: the account is still as the intent expects it. -/
def snapshotMatches (account : Account) (transition : PlanChange) : Bool :=
  account.stripeSubscriptionId = some transition.stripeSubscriptionId &&
    account.planKey = transition.fromPlanKey &&
    account.planInterval = some transition.fromInterval &&
    account.grantEpoch = transition.expectedGrantEpoch &&
    account.entitlementPeriodEnd = transition.expectedEntitlementPeriodEnd &&
    !account.entitlementRevoked && !transition.expectedEntitlementRevoked

/-- What a delta Invoice that passed its guards funds. -/
structure DeltaFunding where
  shape : ProratedDeltaShape
  sourceInvoiceId : String
  expectedDelta : Nat

/-- The first slot of an Invoice was granted or blocked for this account. -/
def replayOwner (p : PaidInvoice) (existing : LedgerRow) : Guarded Unit :=
  require (existing.accountId = p.account.id) <|
    Stop.ignored .invoiceGrantIdentityConflict p.invoiceId (some p.invoiceId)
      (some p.account.id) "invoice grant belongs to another account" none

/-- The answer to an Invoice whose first slot already exists. -/
def PaidInvoice.replayed (p : PaidInvoice) : ProcessResult where
  outcome := .replayed
  reason := some "invoice grant slot already exists"
  accountId := some p.account.id

/-- The guards of `_invoice_paid_prorated_delta`. -/
def deltaGuards (cfg : Config) (b : Billing) (p : PaidInvoice) (transition : PlanChange) :
    Guarded DeltaFunding := do
  match firstSlotGrant b p.invoiceId with
  | some existing => do
      replayOwner p existing
      .error (.returned [] p.replayed)
  | none => do
      let latestFunding := latestFundingInvoice b p.account.id p.account.grantEpoch
      let stale := p.ignored .staleProratedDeltaInvoice
        "entitlement snapshot or funding lineage changed"
      require (snapshotMatches p.account transition &&
        latestFunding = transition.expectedSourceInvoiceId) stale
      let shape ← parseProratedDeltaShape cfg p transition
      let expectedDelta := transition.expectedCreditDelta.getD 0
      require (0 < expectedDelta &&
          (shape.targetPlan.monthlyCredits : Int) - shape.sourcePlan.monthlyCredits = expectedDelta)
        (p.ignored .proratedDeltaEntitlementMismatch "entitlement delta does not match intent")
      require (invoiceUnownedOr b p.invoiceId p.account.id)
        (p.ignored .invoiceAccountIdentityConflict "invoice is owned by another account")
      -- `source_invoice_id` is not nullable
      let sourceInvoiceId ← fetch transition.expectedSourceInvoiceId (Stop.raised .constraint)
      pure { shape, sourceInvoiceId, expectedDelta }

/-! ## Effects -/

/-- The units of an allocation that the cumulative Invoice facts take back. -/
def InvoiceState.refundedUnits (i : InvoiceState) (entitlementDelta : Nat) : Nat :=
  if i.closed then entitlementDelta
  else ceilRatio entitlementDelta i.amountRefunded i.amountTotal

/-- The allocation status the cumulative Invoice facts show. -/
def InvoiceState.fundingStatus (i : InvoiceState) (refundedUnits : Nat) : FundingStatus :=
  if i.disputed then .disputed
  else if i.fullyRefunded then .closed
  else if refundedUnits = 0 then .active else .partiallyRefunded

def deltaAllocation (b : Billing) (e : Event) (p : PaidInvoice) (transition : PlanChange)
    (f : DeltaFunding) (state : InvoiceState) : FundingAllocation where
  id := nextSerial FundingAllocation.id b.fundings.rows
  accountId := p.account.id
  planChangeId := transition.id
  stripeInvoiceId := p.invoiceId
  sourceInvoiceId := f.sourceInvoiceId
  stripeEventId := e.idText
  sourcePlanKey := f.shape.sourcePlan.key
  sourceInterval := .month
  targetPlanKey := f.shape.targetPlan.key
  targetInterval := .month
  sourceLineId := f.shape.sourceLineId
  targetLineId := f.shape.targetLineId
  entitlementDelta := f.expectedDelta
  refundedUnits := state.refundedUnits f.expectedDelta
  sourceCreditAmount := f.shape.sourceCreditAmount
  targetChargeAmount := f.shape.targetChargeAmount
  amountPaid := f.shape.amountPaid
  currency := f.shape.currency
  periodStart := f.shape.periodStart
  periodEnd := f.shape.periodEnd
  grantEpoch := p.account.grantEpoch
  status := state.fundingStatus (state.refundedUnits f.expectedDelta)

/-- The Invoice was closed before it was paid: mark its slot without a grant. -/
def blockDelta (b : Billing) (e : Event) (p : PaidInvoice) (transition : PlanChange)
    (f : DeltaFunding) : Transaction Effect := do
  let b ← b.insertLedger p.account.id 0 p.account.creditsBalance .upgradeDeltaBlocked
    p.account.grantEpoch e.idText (some p.invoiceId) (some 1) 0
  let b ← b.update p.invoiceId fun i : InvoiceState =>
    { i with grantUnitsPerSlot := f.expectedDelta, grantsIssued := 1, closureApplied := true }
  let b ← b.update transition.id fun c : PlanChange =>
    { c with
      status := .failed
      settlementInvoiceId := some p.invoiceId
      lastError := some "invoice_funding_closed"
      leaseToken := none
      leaseExpiresAt := none }
  pure {
    billing := b
    incidents := [.observe .proratedDeltaFundingClosed p.invoiceId (some p.invoiceId)
      (some p.account.id)]
    result := {
      outcome := .ignored
      reason := some "upgrade invoice funding was already closed"
      accountId := some p.account.id } }

/-- Project the upgrade onto the account. -/
def projectDelta (e : Event) (p : PaidInvoice) (f : DeltaFunding) (newBalance : Nat)
    (a : Account) : Account :=
  let projectionWins := wins p.account e
  let projected := if projectionWins then projectionOrder p.account e else p.account.cursor
  { a with
    stripeCustomerId := a.stripeCustomerId.or (some p.customerId)
    planKey := f.shape.targetPlan.key
    planInterval := some .month
    subscriptionStatus := if projectionWins then .active else p.account.subscriptionStatus
    creditsBalance := newBalance
    entitlementRevoked := false
    eventCreated := projected.1
    eventRank := projected.2 }

/-- Settle existing liabilities from a delta grant, then the cumulative refund of its own
    Invoice. -/
def settleDelta (tx : Tx) (b : Billing) (e : Event) (p : PaidInvoice) (f : DeltaFunding)
    (state : InvoiceState) (grantId : Nat) : Transaction Billing := do
  let (b, _) ← collectClawbackDebts b p.account.id p.account.grantEpoch e.idText
  let (b, _) ← collectPackDebtsFromSubscription tx b p.account.id p.account.grantEpoch
    s!"pack-debt:{e.idText}"
  if state.refundedUnits f.expectedDelta = 0 then
    pure b
  else do
    let (b, _) ← applyClawbackToGrant tx b p.account.id p.invoiceId grantId f.expectedDelta
      state.amountTotal state.amountRefunded false .refundClawback e.idText
    pure b

/-- The funded upgrade. -/
def grantDelta (tx : Tx) (b : Billing) (e : Event) (p : PaidInvoice) (transition : PlanChange)
    (f : DeltaFunding) (state : InvoiceState) : Transaction Effect := do
  let newBalance ← checkedAddAtoms "prorated upgrade credit balance"
    p.account.creditsBalance f.expectedDelta
  let b ← b.update p.account.id (projectDelta e p f newBalance)
  let grantId := nextSerial LedgerRow.id b.ledger.rows
  let b ← b.insertLedger p.account.id f.expectedDelta newBalance .upgradeDeltaGrant
    p.account.grantEpoch e.idText (some p.invoiceId) (some 1) f.expectedDelta
  let b ← b.update p.invoiceId fun i : InvoiceState =>
    { i with grantUnitsPerSlot := f.expectedDelta, grantsIssued := 1 }
  let b ← settleDelta tx b e p f state grantId
  let b ← b.update transition.id fun c : PlanChange =>
    { c with
      status := .completed
      settlementInvoiceId := some p.invoiceId
      leaseToken := none
      leaseExpiresAt := none }
  pure {
    billing := b
    incidents := [.resolveSettled p.account.id p.invoiceId transition.id]
    result := { outcome := .handled, accountId := some p.account.id } }

/-- The effects of `_invoice_paid_prorated_delta`. -/
def applyDelta (tx : Tx) (b : Billing) (e : Event) (p : PaidInvoice) (transition : PlanChange)
    (f : DeltaFunding) : Transaction Effect := do
  let (b, state) ← recordInvoice b {
    invoiceId := p.invoiceId
    accountId := some p.account.id
    amountTotal := f.shape.amountPaid.toNat }
  if (fundingOfInvoice b p.invoiceId).isSome then
    pure {
      billing := b
      incidents := [.observe .fundingAllocationConflict p.invoiceId (some p.invoiceId)
        (some p.account.id)]
      result := {
        outcome := .ignored
        reason := some "funding allocation already exists"
        accountId := some p.account.id } }
  else do
    let b ← b.insert (deltaAllocation b e p transition f state)
    if state.closed then
      blockDelta b e p transition f
    else
      grantDelta tx b e p transition f state

/-- `_invoice_paid_prorated_delta`. -/
def invoicePaidProratedDelta (cfg : Config) (tx : Tx) (b : Billing) (e : Event) (p : PaidInvoice)
    (transition : PlanChange) : Transaction Effect :=
  (deltaGuards cfg b p transition).andThen b (applyDelta tx b e p transition)

end StripeEntitlements
