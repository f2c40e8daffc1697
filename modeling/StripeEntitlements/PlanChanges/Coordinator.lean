import StripeEntitlements.Processor.Process
import StripeEntitlements.Snapshots.PlanChangeRequest

/-!
# The Plan-Change Coordinator

`decide_transition` of `transitions.py` and the transactions of `plan_changes.py`: an intent
is reserved under the account lock, leased, frozen, marked as started and finished. Each
function is one transaction; what happens between two of them is not decided here.
-/

namespace StripeEntitlements

open Relational

/-! ## The decision -/

structure TransitionDecision where
  fromPlan : String
  fromInterval : Interval
  targetPlan : String
  targetInterval : Interval
  timing : EffectiveMode
  reason : String
  policy : TransitionPolicy := .fullPeriodReset
  deriving DecidableEq, Repr

/-- The timing and the reason of `decide_transition`, by tier rank. -/
def transitionTiming (current : Plan) (currentInterval : Interval) (target : Plan)
    (targetInterval : Interval) (policy : TransitionPolicy) :
    Transaction (EffectiveMode × String) :=
  if current.key = target.key ∧ currentInterval = targetInterval then
    .ok (.noop, "plan and interval are unchanged")
  else if currentInterval = .year then
    .ok (.periodEnd, "annual funding lineage must finish before replacing the plan")
  else if policy = .proratedDelta ∧ (targetInterval ≠ .month ∨ currentInterval ≠ .month) then
    .ok (.periodEnd, "prorated delta is bounded to same-interval monthly changes")
  else if policy = .proratedDelta ∧ current.rank < target.rank ∧
      target.monthlyCredits ≤ current.monthlyCredits then
    .ok (.periodEnd, "prorated delta requires a positive credit difference")
  else if current.rank < target.rank then
    .ok (.immediate, if policy = .proratedDelta then
      "higher monthly tier uses a current-period entitlement delta"
    else
      "higher tier rank starts a newly funded period")
  else if target.rank < current.rank then
    .ok (.periodEnd, "lower tier rank")
  else if target.key ≠ current.key then
    .error (.valueError "equal ranks across different plans are ambiguous")
  else if currentInterval = .month ∧ targetInterval = .year then
    .ok (.immediate, "same-tier month-to-year conversion")
  else
    .ok (.periodEnd, "same-tier interval conversion")

/-- `decide_transition`. -/
def decideTransition (current : Plan) (currentInterval : Interval) (target : Plan)
    (targetInterval : Interval) (policy : TransitionPolicy) : Transaction TransitionDecision := do
  let (timing, reason) ← transitionTiming current currentInterval target targetInterval policy
  pure {
    fromPlan := current.key, fromInterval := currentInterval
    targetPlan := target.key, targetInterval, timing, reason, policy }

/-- `_decision_from_row`. -/
def PlanChange.decision (c : PlanChange) : TransitionDecision where
  fromPlan := c.fromPlanKey
  fromInterval := c.fromInterval
  targetPlan := c.targetPlanKey
  targetInterval := c.targetInterval
  timing := c.effectiveMode
  reason := "persisted transition policy"
  policy := c.transitionPolicy

/-- `PlanCatalog.require`. -/
def PlanCatalog.require (c : PlanCatalog) (plan : String) : Transaction Plan :=
  fetch (c.plan? plan) (.valueError s!"unknown plan '{plan}'")

/-! ## The coordinator -/

/-- `PlanChangeCoordinator.__init__`, and what it reads of its gateway. -/
structure PlanChangeSettings where
  leaseTtl : Int
  transitionPolicy : TransitionPolicy
  apiVersion : String
  productLine : String
  leaseTtl_pos : 0 < leaseTtl

/-- A `jsonb` column: the text that stands for a value, and the value read back. -/
structure JsonColumn where
  encode : Json → String
  decode : String → Json

/-- `update billing_plan_changes set f where id = … and p returning *`. -/
def Billing.updateReturning (b : Billing) (changeId : String) (p : PlanChange → Bool)
    (f : PlanChange → PlanChange) : Transaction (Billing × Option PlanChange) := do
  let row := (b.planChanges.find? changeId).filter p
  let b ← b.updateWhere (fun c : PlanChange => c.id = changeId && p c) f
  pure (b, row.map f)

/-! ## Reservation -/

structure PlanChangeRequest where
  accountId : String
  plan : String
  interval : String
  idempotencyKey : String

/-- `_interval`. -/
def parseInterval (value : Option String) : Transaction Interval :=
  fetch (value.bind Interval.parse) (.planChangeConflict "interval must be month or year")

/-- `lease_expires_at is null or lease_expires_at <= now()`. -/
def PlanChange.leaseFree (now : Int) (c : PlanChange) : Bool := c.leaseExpiresAt.all (· ≤ now)

/-- The two statements that fail what has run out. -/
def expirePlanChanges (tx : Tx) (b : Billing) (accountId : String) : Transaction Billing := do
  let b ← b.updateWhere
    (fun c : PlanChange => c.accountId = accountId && c.status = .requiresAction &&
      c.remotePendingExpiresAt.any (· ≤ tx.now))
    fun c => { c with status := .failed, lastError := some "pending_update_expired" }
  b.updateWhere
    (fun c : PlanChange => c.accountId = accountId && c.status = .previewed &&
      c.previewExpiresAt.any (· ≤ tx.now) && c.leaseFree tx.now)
    fun c => { c with status := .failed, lastError := some "preview_expired" }

/-- What a delta upgrade binds when it is reserved. -/
structure DeltaTerms where
  sourceInvoiceId : Option String := none
  creditDelta : Option Nat := none

def deltaTerms (tx : Tx) (b : Billing) (account : Account) (current target : Plan)
    (decision : TransitionDecision) : Transaction DeltaTerms :=
  if decision.policy = .proratedDelta ∧ decision.timing = .immediate then do
    require (account.entitlementPeriodEnd.any (tx.now < ·))
      (.planChangeUnavailable "the active entitlement has no current funded period boundary")
    let sourceInvoiceId := latestFundingInvoice b account.id account.grantEpoch
    require sourceInvoiceId.isSome
      (.planChangeUnavailable "the active entitlement has no immutable funding invoice")
    require (current.monthlyCredits < target.monthlyCredits)
      (.planChangeConflict "a prorated upgrade requires a positive entitlement delta")
    pure { sourceInvoiceId, creditDelta := some (target.monthlyCredits - current.monthlyCredits) }
  else
    pure {}

/-- The row of a new intent. -/
def newPlanChange (tx : Tx) (account : Account) (changeId : String) (req : PlanChangeRequest)
    (subscriptionId : String) (decision : TransitionDecision) (delta : DeltaTerms) :
    PlanChange where
  id := changeId
  accountId := account.id
  idempotencyKey := req.idempotencyKey
  stripeSubscriptionId := subscriptionId
  fromPlanKey := decision.fromPlan
  fromInterval := decision.fromInterval
  targetPlanKey := decision.targetPlan
  targetInterval := decision.targetInterval
  effectiveMode := decision.timing
  status := if decision.timing = .noop then .completed else .reserved
  effectiveAt := if decision.timing = .periodEnd then account.currentPeriodEnd else none
  stripeRequestKey := "plan-change:" ++ changeId
  expectedGrantEpoch := account.grantEpoch
  expectedEntitlementPeriodEnd := account.entitlementPeriodEnd
  expectedSubscriptionStatus := account.subscriptionStatus
  expectedCancelAtPeriodEnd := account.cancelAtPeriodEnd
  transitionPolicy := decision.policy
  expectedSourceInvoiceId := delta.sourceInvoiceId
  expectedCreditDelta := delta.creditDelta
  expectedEntitlementRevoked := account.entitlementRevoked
  requestSnapshotVersion := some 0
  createdAt := tx.now

/-- The intent of a key that the account has not used yet. -/
def insertPlanChange (settings : PlanChangeSettings) (catalog : PlanCatalog) (tx : Tx)
    (b : Billing) (account : Account) (changeId : String) (req : PlanChangeRequest)
    (target : Plan) (targetInterval : Interval) : Transaction (Billing × PlanChange) := do
  let subscriptionId ← fetch (account.stripeSubscriptionId.filter fun id =>
      account.subscriptionStatus = .active && id ≠ "")
    (.planChangeUnavailable "an active paid subscription is required")
  require (!account.cancelAtPeriodEnd) (.planChangeUnavailable
    "cancel the pending subscription cancellation before changing plans")
  let currentInterval ← parseInterval (account.planInterval.map Interval.text)
  let current ← catalog.require account.planKey
  let decision ← decideTransition current currentInterval target targetInterval
    settings.transitionPolicy
  require (decision.timing ≠ .periodEnd || account.currentPeriodEnd.isSome)
    (.planChangeUnavailable "current period end is not known yet")
  require (!b.planChanges.rows.any fun c => c.accountId = account.id && c.status.isPending)
    (.planChangeBusy "another plan change is still pending")
  let delta ← deltaTerms tx b account current target decision
  let row := newPlanChange tx account changeId req subscriptionId decision delta
  let b ← b.insert row
  pure (b, row)

/-- `_reserve`; `true` says that the intent was there already. -/
def reservePlanChange (settings : PlanChangeSettings) (catalog : PlanCatalog) (tx : Tx)
    (b : Billing) (changeId : String) (req : PlanChangeRequest) :
    Transaction (Billing × PlanChange × Bool) := do
  let target ← catalog.require req.plan
  let targetInterval ← parseInterval (some req.interval)
  let account ← fetch (b.accounts.find? req.accountId)
    (.planChangeUnavailable "billing account not found")
  let b ← expirePlanChanges tx b account.id
  match b.planChanges.rows.find? fun c =>
      c.accountId = account.id && c.idempotencyKey = req.idempotencyKey with
  | some existing => do
      require (existing.targetPlanKey = target.key && existing.targetInterval = targetInterval)
        (.planChangeConflict "Idempotency-Key was already used with a different target")
      pure (b, existing, true)
  | none => do
      let (b, row) ← insertPlanChange settings catalog tx b account changeId req target
        targetInterval
      pure (b, row, false)

/-! ## Leases -/

/-- `_acquire_lease`. -/
def acquireLease (settings : PlanChangeSettings) (tx : Tx) (b : Billing)
    (changeId leaseToken : String) (expectedStatus : PlanChangeStatus) :
    Transaction (Billing × Option PlanChange) :=
  b.updateReturning changeId
    (fun c => c.status = expectedStatus && c.leaseFree tx.now &&
      (expectedStatus ≠ .previewed || c.previewExpiresAt.any (tx.now < ·)))
    fun c =>
      { c with leaseToken := some leaseToken, leaseExpiresAt := some (tx.now + settings.leaseTtl) }

/-- `_acquire_confirmation_lease`. -/
def acquireConfirmationLease (settings : PlanChangeSettings) (tx : Tx) (b : Billing)
    (changeId leaseToken : String) : Transaction (Billing × Option PlanChange) :=
  b.updateReturning changeId
    (fun c => (c.status = .previewed || c.status = .applying) && c.leaseFree tx.now &&
      (c.status = .applying || c.previewExpiresAt.any (tx.now < ·)))
    fun c =>
      { c with
        status := .applying
        leaseToken := some leaseToken
        leaseExpiresAt := some (tx.now + settings.leaseTtl) }

/-- `_expire_preview_if_idle`. -/
def expirePreviewIfIdle (tx : Tx) (b : Billing) (changeId : String) :
    Transaction (Billing × Option PlanChange) :=
  b.updateReturning changeId
    (fun c => c.status = .previewed && c.previewExpiresAt.any (· ≤ tx.now) && c.leaseFree tx.now)
    fun c =>
      { c with
        status := .failed
        lastError := some "preview_expired"
        leaseToken := none
        leaseExpiresAt := none }

/-- `_retire_unfrozen_intent`. -/
def retireUnfrozenIntent (b : Billing) (changeId leaseToken : String) :
    Transaction (Billing × Option PlanChange) :=
  b.updateReturning changeId
    (fun c => c.leaseToken = some leaseToken && c.requestSnapshotVersion ≠ some 1)
    fun c =>
      { c with
        status := .failed
        lastError := some "missing_remote_request_snapshot"
        leaseToken := none
        leaseExpiresAt := none }

/-- `_release_after_error`: an intent that never started goes back to its preview. -/
def releaseAfterError (b : Billing) (changeId leaseToken errorName : String) :
    Transaction (Billing × Option PlanChange) :=
  b.updateReturning changeId (fun c => c.leaseToken = some leaseToken) fun c =>
    { c with
      status := if c.status = .applying ∧ c.remoteStartedAt = none then .previewed else c.status
      leaseToken := none
      leaseExpiresAt := none
      lastError := some errorName }

/-! ## Drift -/

/-- `_account_matches_snapshot`. -/
def accountMatchesSnapshot (account : Account) (reserved : PlanChange) : Bool :=
  account.stripeSubscriptionId = some reserved.stripeSubscriptionId &&
    account.planKey = reserved.fromPlanKey &&
    account.planInterval = some reserved.fromInterval &&
    account.grantEpoch = reserved.expectedGrantEpoch &&
    account.entitlementPeriodEnd = reserved.expectedEntitlementPeriodEnd &&
    account.subscriptionStatus = reserved.expectedSubscriptionStatus &&
    account.cancelAtPeriodEnd = reserved.expectedCancelAtPeriodEnd &&
    account.entitlementRevoked = reserved.expectedEntitlementRevoked

/-- A delta upgrade still continues the Invoice it was reserved on. -/
def lineageMatches (b : Billing) (account : Account) (reserved : PlanChange) : Bool :=
  !(reserved.transitionPolicy = .proratedDelta && reserved.effectiveMode = .immediate) ||
    latestFundingInvoice b account.id account.grantEpoch = reserved.expectedSourceInvoiceId

/-- `_revalidate_before_remote`. -/
def revalidateBeforeRemote (catalog : PlanCatalog) (b : Billing) (reserved : PlanChange)
    (context : PlanChangeContext) (targetLookup : String) : Transaction Unit := do
  let source ← fetch (catalog.plan? reserved.fromPlanKey) (.valueError "unknown plan or interval")
  let expectedLookup := catalog.lookupKey source reserved.fromInterval
  require (context.subscriptionId = reserved.stripeSubscriptionId)
    (.planChangeConflict "Stripe subscription identity changed")
  let remoteStarted := reserved.remoteStartedAt.isSome
  require (context.currentLookupKey = expectedLookup ||
      (remoteStarted && context.currentLookupKey = targetLookup))
    (.planChangeConflict "Stripe price drifted outside this transition")
  let observedActive := context.subscriptionStatus = "active" ||
    context.subscriptionStatus = "trialing"
  require (observedActive = (reserved.expectedSubscriptionStatus = .active : Bool))
    (.planChangeConflict "Stripe subscription status drifted")
  require (context.cancelAtPeriodEnd = reserved.expectedCancelAtPeriodEnd)
    (.planChangeConflict "Stripe cancellation state drifted")
  let remoteTargetRecovery := remoteStarted && reserved.transitionPolicy = .fullPeriodReset &&
    context.currentLookupKey = targetLookup
  require (reserved.expectedEntitlementPeriodEnd.all (context.currentPeriodEnd = ·) ||
      remoteTargetRecovery)
    (.planChangeConflict "Stripe billing period drifted; reconcile before changing plans")
  require (remoteStarted || !(context.pendingUpdate || context.scheduleId.any (· ≠ "")))
    (.planChangeConflict "Stripe already has an unrelated pending change")
  let gone := Failure.planChangeUnavailable "plan change state disappeared"
  let account ← fetch (b.accounts.find? reserved.accountId) gone
  let _ ← fetch (b.planChanges.find? reserved.id) gone
  require (accountMatchesSnapshot account reserved)
    (.planChangeConflict "local billing state changed")
  require (lineageMatches b account reserved)
    (.planChangeConflict "entitlement funding lineage changed")

/-! ## Preview -/

/-- `PlanChangeEstimate`. -/
structure PlanChangeEstimate where
  amountDue : Int
  prorationCredit : Int
  customerBalanceCredit : Int
  currency : String
  safeInvoiceShape : Bool
  sourceProrationAmount : Int := 0
  targetProrationAmount : Int := 0
  taxAmount : Int := 0
  discountAmount : Int := 0
  periodStart : Option Int := none
  periodEnd : Option Int := none
  deriving DecidableEq, Repr

/-- The first payment of an immediate change is the money the target needs. -/
def PlanChangeEstimate.safe (u : Unicode) (x : PlanChangeEstimate) (source target : Plan)
    (decision : TransitionDecision) (context : PlanChangeContext) (prorationDate : Option Int) :
    Bool :=
  let untouched := x.customerBalanceCredit = 0 && x.taxAmount = 0 && x.discountAmount = 0 &&
    u.lower x.currency = target.currency
  match decision.policy with
  | .proratedDelta =>
      let sourceAmount : Int := source.amount .month
      let targetAmount : Int := target.amount .month
      let ratioError :=
        (x.sourceProrationAmount * targetAmount - x.targetProrationAmount * sourceAmount).natAbs
      x.safeInvoiceShape && 0 < x.amountDue &&
        0 < x.sourceProrationAmount && x.sourceProrationAmount ≤ sourceAmount &&
        x.sourceProrationAmount < x.targetProrationAmount &&
        x.targetProrationAmount ≤ targetAmount &&
        x.amountDue = x.targetProrationAmount - x.sourceProrationAmount && untouched &&
        ratioError ≤ max sourceAmount targetAmount &&
        x.periodStart.any (fun start => some (epochSeconds start) = prorationDate) &&
        x.periodEnd = some context.currentPeriodEnd
  | .fullPeriodReset =>
      x.safeInvoiceShape && x.amountDue = target.amount decision.targetInterval &&
        x.prorationCredit = 0 && untouched

/-- An unsafe preview is deferred instead of charged. -/
def PlanChangeEstimate.settle (u : Unicode) (x : PlanChangeEstimate) (source target : Plan)
    (decision : TransitionDecision) (context : PlanChangeContext) (prorationDate : Option Int) :
    TransitionDecision :=
  if x.safe u source target decision context prorationDate then
    decision
  else
    { decision with
      timing := .periodEnd
      reason := "immediate preview lacked a positive safely-attributed amount due" }

/-- `_database_epoch`: the cast of the epoch rounds to whole seconds. -/
def databaseEpoch (tx : Tx) : Int := (tx.now + 500000) / 1000000

/-- What a preview found out at Stripe. -/
structure PlanChangePreview where
  decision : TransitionDecision
  context : PlanChangeContext
  estimate : Option PlanChangeEstimate := none
  prorationDate : Option Int := none

/-- The Stripe idempotency key of the intent: `stripe_request_key` and what is done. -/
def requestIdempotencyKey (stripeRequestKey : String) (timing : EffectiveMode) : String :=
  stripeRequestKey ++ ":" ++ timing.suffix

/-- The catalog terms of one side of a change. -/
def PlanCatalog.terms (c : PlanCatalog) (plan : Plan) (interval : Interval) : PriceTerms where
  lookupKey := c.lookupKey plan interval
  planKey := plan.key
  currency := plan.currency
  unitAmount := plan.amount interval

/-- What a preview freezes, between these two plans. -/
def PlanChangePreview.facts (preview : PlanChangePreview) (settings : PlanChangeSettings)
    (catalog : PlanCatalog) (row : PlanChange) (source target : Plan) : PlanChangeFacts where
  context := preview.context
  timing := preview.decision.timing
  policy := preview.decision.policy
  prorationDate := preview.prorationDate.or row.prorationDate
  idempotencyKey := requestIdempotencyKey row.stripeRequestKey preview.decision.timing
  requestApiVersion := settings.apiVersion
  productLine := settings.productLine
  source := catalog.terms source preview.decision.fromInterval
  target := catalog.terms target preview.decision.targetInterval

/-- `_build_request_snapshot`. -/
def buildRequestSnapshot (settings : PlanChangeSettings) (cfg : Config) (row : PlanChange)
    (preview : PlanChangePreview) : Transaction Json := do
  let source ← cfg.catalog.require preview.decision.fromPlan
  let target ← cfg.catalog.require preview.decision.targetPlan
  buildPlanChangeRequestSnapshot cfg.unicode
    (preview.facts settings cfg.catalog row source target)

/-- The row is still unfrozen and has not started: the guard of `_store_preview`. -/
def PlanChange.unfrozen (c : PlanChange) : Bool :=
  c.remoteStartedAt.isNone && c.stripeRequestSnapshot.isNone &&
    c.requestSnapshotVersion = some 0

/-- The update of `_store_preview`. -/
def storePreview (column : JsonColumn) (tx : Tx) (b : Billing) (changeId leaseToken : String)
    (preview : PlanChangePreview) (requestSnapshot : Json) :
    Transaction (Billing × Option PlanChange) :=
  b.updateReturning changeId (fun c => c.leaseToken = some leaseToken && c.unfrozen) fun c =>
    { c with
      status := .previewed
      effectiveMode := preview.decision.timing
      effectiveAt := if preview.decision.timing = .periodEnd then
        some preview.context.currentPeriodEnd else none
      prorationDate := preview.prorationDate
      estimatedAmountDue := preview.estimate.map PlanChangeEstimate.amountDue
      estimateCurrency := preview.estimate.map PlanChangeEstimate.currency
      estimatedSourceProration := preview.estimate.map PlanChangeEstimate.sourceProrationAmount
      estimatedTargetProration := preview.estimate.map PlanChangeEstimate.targetProrationAmount
      estimatedPeriodStart := preview.estimate.bind PlanChangeEstimate.periodStart
      estimatedPeriodEnd := preview.estimate.bind PlanChangeEstimate.periodEnd
      previewExpiresAt := some (tx.now + 10 * 60 * 1000000)
      requestSnapshotVersion := some 1
      stripeRequestSnapshot := some (column.encode requestSnapshot)
      leaseToken := none
      leaseExpiresAt := none
      lastError := none }

/-! ## Confirmation -/

/-- `_validated_request_snapshot`. -/
def validatedRequestSnapshot (u : Unicode) (column : JsonColumn) (row : PlanChange) :
    Transaction Json := do
  let invalid := Failure.planChangeUnavailable <|
    "the persisted plan-change request snapshot is invalid; " ++
      "operator reconciliation is required"
  require (row.requestSnapshotVersion = some 1 || row.remoteStartedAt.isNone)
    (.planChangeUnavailable <| "the Stripe mutation started without a durable request snapshot; " ++
      "operator reconciliation is required")
  require (row.requestSnapshotVersion = some 1)
    (.planChangeConflict "the plan-change request snapshot is not frozen")
  let stored ← fetch ((row.stripeRequestSnapshot.map column.decode).filter Json.isObj) invalid
  let checked := validatePlanChangeRequestSnapshot u stored {
    idempotencyKey := some (requestIdempotencyKey row.stripeRequestKey row.effectiveMode)
    subscriptionId := some row.stripeSubscriptionId
    timing := some row.effectiveMode
    policy := some row.transitionPolicy }
  let snapshot ← match checked with
    | .error (.stripeRequestSnapshot _) => .error invalid
    | outcome => outcome
  let evidence := snapshot.get "price_evidence"
  require ((evidence.get "source_plan_key").asStr = some row.fromPlanKey &&
    (evidence.get "target_plan_key").asStr = some row.targetPlanKey) invalid
  pure snapshot

/-- `_mark_remote_started`. -/
def markRemoteStarted (tx : Tx) (b : Billing) (changeId leaseToken : String) :
    Transaction (Billing × PlanChange) := do
  let (b, row) ← b.updateReturning changeId
    (fun c => c.status = .applying && c.leaseToken = some leaseToken)
    fun c => { c with remoteStartedAt := c.remoteStartedAt.or (some tx.now) }
  let row ← fetch row (.planChangeConflict "plan-change confirmation lease was lost")
  pure (b, row)

/-- `RemotePlanChange`. -/
structure RemotePlanChange where
  remoteId : String
  pendingUpdate : Bool := false
  pendingExpiresAt : Option Int := none
  settlementInvoiceId : Option String := none
  deriving DecidableEq, Repr

/-- The status and the columns that `confirm` hands to `_finish`. -/
structure PlanChangeOutcome where
  status : PlanChangeStatus
  effectiveAt : Option Int
  scheduleId : Option String
  pendingExpiresAt : Option Int
  settlementInvoiceId : Option String

def RemotePlanChange.outcome (remote : RemotePlanChange) (decision : TransitionDecision)
    (context : PlanChangeContext) : PlanChangeOutcome :=
  let status : PlanChangeStatus :=
    if decision.timing = .immediate then
      if remote.pendingUpdate then .requiresAction else .applied
    else
      .scheduled
  { status
    effectiveAt := if decision.timing = .immediate then none else some context.currentPeriodEnd
    scheduleId := if status = .scheduled then some remote.remoteId else none
    pendingExpiresAt := remote.pendingExpiresAt
    settlementInvoiceId := remote.settlementInvoiceId }

/-- The Invoice agrees with the one the intent is bound to. -/
def PlanChangeOutcome.binds (x : PlanChangeOutcome) (c : PlanChange) : Bool :=
  x.settlementInvoiceId.isNone || unboundOr c.settlementInvoiceId x.settlementInvoiceId

/-- `_finish`: the row as it stands afterwards. -/
def finishPlanChange (tx : Tx) (db : Db) (changeId leaseToken : String) (x : PlanChangeOutcome) :
    Transaction (Db × PlanChange) := do
  let (b, row) ← db.billing.updateReturning changeId
    (fun c => c.leaseToken = some leaseToken && x.binds c)
    fun c =>
      { c with
        status := if c.status = .completed then c.status else x.status
        effectiveAt := x.effectiveAt.or c.effectiveAt
        stripeScheduleId := x.scheduleId.or c.stripeScheduleId
        remotePendingExpiresAt := x.pendingExpiresAt
        settlementInvoiceId := c.settlementInvoiceId.or x.settlementInvoiceId
        leaseToken := none
        leaseExpiresAt := none
        lastError := none }
  match row, x.settlementInvoiceId with
  | some row, some invoiceId => do
      let incidents ← if row.settlementInvoiceId = some invoiceId then
          applyIncident tx none db.incidents (.resolveUnbound row.accountId invoiceId)
        else
          pure db.incidents
      pure ({ db with billing := b, incidents }, row)
  | some row, none => pure ({ db with billing := b }, row)
  | none, invoiceId => do
      let row ← fetch (b.planChanges.find? changeId)
        (.planChangeUnavailable "plan change not found")
      require (invoiceId.isNone || unboundOr row.settlementInvoiceId invoiceId)
        (.planChangeConflict
          "Stripe returned a different settlement Invoice for this plan change")
      pure ({ db with billing := b }, row)

end StripeEntitlements
