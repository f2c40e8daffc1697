import StripeEntitlements.Snapshots.Fields

/-!
# The Frozen Plan-Change Request

The plan-change half of `stripe_request_snapshots.py`: the Stripe mutation of a plan change
is built once as a JSON object, checked field by field, and stored; a retry checks the
stored object again and executes nothing else.

## Main definitions

- `buildPlanChangeRequestSnapshot`, `validatePlanChangeRequestSnapshot` — freeze and check
- `planChangeContextFromSnapshot` — the context a snapshot was frozen from
-/

namespace StripeEntitlements

/-! ## Enumerations of the snapshot -/

def TransitionPolicy.text : TransitionPolicy → String
  | .fullPeriodReset => "full_period_reset"
  | .proratedDelta => "prorated_delta"

def TransitionPolicy.parse : String → Option TransitionPolicy
  | "full_period_reset" => some .fullPeriodReset
  | "prorated_delta" => some .proratedDelta
  | _ => none

/-- The timing that the `kind` of a snapshot stands for. -/
def parseSnapshotKind : String → Option EffectiveMode
  | "plan_change_immediate" => some .immediate
  | "plan_change_schedule" => some .periodEnd
  | _ => none

/-- `'apply' if timing == 'immediate' else 'schedule'`. -/
def EffectiveMode.suffix : EffectiveMode → String
  | .immediate => "apply"
  | .periodEnd | .noop => "schedule"

/-! ## The context of a plan change -/

/-- `PlanChangeContext`; instants are microseconds. -/
structure PlanChangeContext where
  subscriptionId : String
  subscriptionItemId : String
  currentPriceId : String
  currentLookupKey : String
  targetPriceId : String
  targetInterval : Interval
  currentPeriodStart : Int
  currentPeriodEnd : Int
  scheduleId : Option String
  subscriptionStatus : String := "active"
  cancelAtPeriodEnd : Bool := false
  pendingUpdate : Bool := false
  pendingExpiresAt : Option Int := none
  recoveryUrl : Option String := none
  clientSecret : Option String := none
  deriving DecidableEq, Repr

/-- The catalog terms of the source and the target Price. -/
structure PriceTerms where
  lookupKey : String
  planKey : String
  currency : String
  unitAmount : Nat
  deriving DecidableEq, Repr

def optionalText : Option String → Json
  | none => .null
  | some text => .str text

/-! ## Validation -/

def snapshotKeys : List String :=
  ["schema", "version", "kind", "request_api_version", "idempotency_key", "product_line",
    "context", "price_evidence", "policy", "params"]

def contextKeys : List String :=
  ["subscription_id", "subscription_item_id", "current_price_id", "current_lookup_key",
    "target_price_id", "target_interval", "current_period_start", "current_period_end",
    "schedule_id", "subscription_status", "cancel_at_period_end", "pending_update"]

def evidenceKeys : List String :=
  ["source_price_id", "source_lookup_key", "source_plan_key", "source_currency",
    "source_unit_amount", "target_price_id", "target_lookup_key", "target_plan_key",
    "target_currency", "target_unit_amount"]

/-- The parameters of `stripe.Subscription.modify` under each policy. -/
def immediateKeys (policy : TransitionPolicy) : List String :=
  match policy with
  | .fullPeriodReset =>
      ["items", "billing_cycle_anchor", "proration_behavior", "payment_behavior", "expand"]
  | .proratedDelta =>
      ["items", "proration_behavior", "proration_date", "payment_behavior", "expand"]

def configureKeys : List String :=
  ["boundary", "target_price_id", "target_interval", "end_behavior", "proration_behavior",
    "metadata"]

/-- The expectations of `validate_plan_change_request_snapshot`. -/
structure SnapshotExpectations where
  idempotencyKey : Option String := none
  subscriptionId : Option String := none
  timing : Option EffectiveMode := none
  policy : Option TransitionPolicy := none

/-- What the checks of the context leave for the later ones. -/
structure SnapshotContext where
  subscriptionId : String
  subscriptionItemId : String
  currentPriceId : String
  targetPriceId : String
  currentLookupKey : String
  targetInterval : Interval
  periodEnd : Int

/-- A Schedule that was observed has an identifier. -/
def validateScheduleId (u : Unicode) (value : Json) : Transaction Unit :=
  if value.isNull then
    pure ()
  else do
    let _ ← u.snapshotStripeId value "sub_sched_" "Subscription Schedule id"
    pure ()

def validateSnapshotContext (u : Unicode) (value : Json) : Transaction SnapshotContext := do
  let context ← exactMapping value contextKeys "plan-change context"
  let subscriptionId ← u.snapshotStripeId (context.get "subscription_id") "sub_" "Subscription id"
  let subscriptionItemId ← u.snapshotStripeId (context.get "subscription_item_id") "si_"
    "Subscription item id"
  let currentPriceId ← u.snapshotStripeId (context.get "current_price_id") "price_"
    "source Price id"
  let targetPriceId ← u.snapshotStripeId (context.get "target_price_id") "price_"
    "target Price id"
  let currentLookupKey ← u.snapshotText (context.get "current_lookup_key") "source lookup key" 200
  let targetInterval ← oneOf Interval.parse (context.get "target_interval")
    "target interval is invalid"
  let periodStart ← snapshotInteger (context.get "current_period_start") "current period start"
  let periodEnd ← snapshotInteger (context.get "current_period_end") "current period end"
  require (periodStart < periodEnd) (.stripeRequestSnapshot "plan-change period is invalid")
  validateScheduleId u (context.get "schedule_id")
  let _ ← u.snapshotText (context.get "subscription_status") "Subscription status" 64
  require ((context.get "cancel_at_period_end").asBool.isSome &&
      (context.get "pending_update").asBool.isSome)
    (.stripeRequestSnapshot "plan-change boolean context is invalid")
  pure { subscriptionId, subscriptionItemId, currentPriceId, targetPriceId, currentLookupKey,
         targetInterval, periodEnd }

/-- A currency of the price evidence. -/
def validateCurrency (u : Unicode) (evidence : Json) (field : String) : Transaction Unit := do
  let currency ← u.snapshotText (evidence.get field) field 3
  require (currency.length = 3 && currency = u.lower currency) (invalidField field)

def validateUnitAmount (evidence : Json) (field : String) : Transaction Unit :=
  require ((evidence.get field).asInt.any fun n => 0 ≤ n && n ≤ 99999999) (invalidField field)

def validatePriceEvidence (u : Unicode) (context : SnapshotContext) (value : Json) :
    Transaction Unit := do
  let evidence ← exactMapping value evidenceKeys "plan-change price evidence"
  let conflict := Failure.stripeRequestSnapshot
    "plan-change price evidence conflicts with context"
  let sourcePriceId ← u.snapshotStripeId (evidence.get "source_price_id") "price_"
    "evidence source Price id"
  require (sourcePriceId = context.currentPriceId) conflict
  let targetPriceId ← u.snapshotStripeId (evidence.get "target_price_id") "price_"
    "evidence target Price id"
  require (targetPriceId = context.targetPriceId) conflict
  let sourceLookupKey ← u.snapshotText (evidence.get "source_lookup_key")
    "evidence source lookup" 200
  require (sourceLookupKey = context.currentLookupKey) conflict
  let _ ← u.snapshotText (evidence.get "source_plan_key") "source_plan_key" 64
  let _ ← u.snapshotText (evidence.get "target_plan_key") "target_plan_key" 64
  validateCurrency u evidence "source_currency"
  validateCurrency u evidence "target_currency"
  validateUnitAmount evidence "source_unit_amount"
  validateUnitAmount evidence "target_unit_amount"
  let _ ← u.snapshotText (evidence.get "target_lookup_key") "target lookup key" 200
  pure ()

/-- The expectations a caller may hold a snapshot to. -/
def SnapshotExpectations.check (x : SnapshotExpectations) (idempotencyKey subscriptionId : String)
    (timing : EffectiveMode) (policy : TransitionPolicy) : Transaction Unit := do
  require (x.idempotencyKey.all (· = idempotencyKey))
    (.stripeRequestSnapshot "plan-change Stripe idempotency identity drifted")
  require (x.subscriptionId.all (· = subscriptionId))
    (.stripeRequestSnapshot "plan-change Subscription identity drifted")
  require (x.timing.all (· = timing)) (.stripeRequestSnapshot "plan-change timing drifted")
  require (x.policy.all (· = policy)) (.stripeRequestSnapshot "plan-change policy drifted")

/-- The parameters of `stripe.Subscription.modify`. -/
def validateImmediateParams (context : SnapshotContext) (policy : TransitionPolicy)
    (value : Json) : Transaction Unit := do
  let params ← exactMapping value (immediateKeys policy) "immediate mutation params"
  let item := Json.obj [("id", .str context.subscriptionItemId),
    ("price", .str context.targetPriceId)]
  require ((params.get "items").beq (.arr [item]))
    (.stripeRequestSnapshot "immediate mutation items drifted")
  require ((params.get "payment_behavior").asStr = some "pending_if_incomplete" &&
      (params.get "expand").beq (.arr [.str "latest_invoice.confirmation_secret"]))
    (.stripeRequestSnapshot "immediate mutation policy drifted")
  match policy with
  | .fullPeriodReset =>
      require ((params.get "billing_cycle_anchor").asStr = some "now" &&
          (params.get "proration_behavior").asStr = some "none")
        (.stripeRequestSnapshot "full-period mutation policy drifted")
  | .proratedDelta => do
      require ((params.get "proration_behavior").asStr = some "always_invoice")
        (.stripeRequestSnapshot "prorated mutation policy drifted")
      let _ ← snapshotInteger (params.get "proration_date") "proration date"
      pure ()

/-- The parameters of the two Schedule calls. -/
def validateScheduleParams (context : SnapshotContext) (productLine idempotencyKey : String)
    (value : Json) : Transaction Unit := do
  let params ← exactMapping value ["create", "configure"] "schedule params"
  require ((params.get "create").beq (.obj [("from_subscription", .str context.subscriptionId)]))
    (.stripeRequestSnapshot "Schedule create params drifted")
  let configure ← exactMapping (params.get "configure") configureKeys
    "Schedule configure params"
  let boundary ← snapshotInteger (configure.get "boundary") "Schedule boundary"
  require (boundary = context.periodEnd &&
      (configure.get "target_price_id").asStr = some context.targetPriceId &&
      (configure.get "target_interval").asStr = some context.targetInterval.text &&
      (configure.get "end_behavior").asStr = some "release" &&
      (configure.get "proration_behavior").asStr = some "none" &&
      (configure.get "metadata").beq (.obj [("product_line", .str productLine),
        ("plan_change_key", .str idempotencyKey)]))
    (.stripeRequestSnapshot "Schedule configure policy drifted")

/-- The parameters of the mutation, by the kind of the snapshot. -/
def validateParams (context : SnapshotContext) (timing : EffectiveMode) (policy : TransitionPolicy)
    (productLine idempotencyKey : String) (value : Json) : Transaction Unit :=
  if timing = .immediate then
    validateImmediateParams context policy value
  else
    validateScheduleParams context productLine idempotencyKey value

/-- `validate_plan_change_request_snapshot`. -/
def validatePlanChangeRequestSnapshot (u : Unicode) (value : Json) (x : SnapshotExpectations) :
    Transaction Json := do
  safeJson value
  let root ← exactMapping value snapshotKeys "plan-change request snapshot"
  require ((root.get "schema").asStr = some "stripe.plan_change.request" &&
      (root.get "version").isOne)
    (.stripeRequestSnapshot "unsupported plan-change request snapshot version")
  let timing ← oneOf parseSnapshotKind (root.get "kind")
    "unsupported plan-change request snapshot kind"
  let _ ← u.snapshotText (root.get "request_api_version") "request API version" 64
  let idempotencyKey ← u.snapshotText (root.get "idempotency_key") "Stripe idempotency key" 255
  let productLine ← u.snapshotText (root.get "product_line") "product line" 200
  let policy ← oneOf TransitionPolicy.parse (root.get "policy") "plan-change policy is invalid"
  let context ← validateSnapshotContext u (root.get "context")
  validatePriceEvidence u context (root.get "price_evidence")
  x.check idempotencyKey context.subscriptionId timing policy
  validateParams context timing policy productLine idempotencyKey (root.get "params")
  pure root

/-! ## Freezing -/

/-- The arguments of `build_plan_change_request_snapshot`. -/
structure PlanChangeFacts where
  context : PlanChangeContext
  timing : EffectiveMode
  policy : TransitionPolicy
  prorationDate : Option Int
  idempotencyKey : String
  requestApiVersion : String
  productLine : String
  source : PriceTerms
  target : PriceTerms

/-- The parameters of an immediate change. -/
def PlanChangeFacts.immediateParams (x : PlanChangeFacts) : Transaction Json :=
  let item := Json.obj [("id", .str x.context.subscriptionItemId),
    ("price", .str x.context.targetPriceId)]
  let last := [("payment_behavior", Json.str "pending_if_incomplete"),
    ("expand", .arr [.str "latest_invoice.confirmation_secret"])]
  match x.policy, x.prorationDate with
  | .fullPeriodReset, _ => pure (.obj ([("items", .arr [item]),
      ("billing_cycle_anchor", .str "now"), ("proration_behavior", .str "none")] ++ last))
  | .proratedDelta, some date => pure (.obj ([("items", .arr [item]),
      ("proration_behavior", .str "always_invoice"), ("proration_date", .int date)] ++ last))
  | .proratedDelta, none =>
      .error (.stripeRequestSnapshot "prorated_delta requires a proration date")

/-- The parameters of a change at the period's end. -/
def PlanChangeFacts.scheduleParams (x : PlanChangeFacts) : Transaction Json := do
  let boundary ← snapshotEpoch x.context.currentPeriodEnd
  pure (.obj [
    ("create", .obj [("from_subscription", .str x.context.subscriptionId)]),
    ("configure", .obj [
      ("boundary", boundary), ("target_price_id", .str x.context.targetPriceId),
      ("target_interval", .str x.context.targetInterval.text),
      ("end_behavior", .str "release"), ("proration_behavior", .str "none"),
      ("metadata", .obj [("product_line", .str x.productLine),
        ("plan_change_key", .str x.idempotencyKey)])])])

/-- The `context` of the snapshot, with the two instants as they are written. -/
def PlanChangeContext.json (c : PlanChangeContext) (periodStart periodEnd : Json) : Json :=
  .obj [
    ("subscription_id", .str c.subscriptionId),
    ("subscription_item_id", .str c.subscriptionItemId),
    ("current_price_id", .str c.currentPriceId),
    ("current_lookup_key", .str c.currentLookupKey),
    ("target_price_id", .str c.targetPriceId),
    ("target_interval", .str c.targetInterval.text),
    ("current_period_start", periodStart),
    ("current_period_end", periodEnd),
    ("schedule_id", optionalText c.scheduleId),
    ("subscription_status", .str c.subscriptionStatus),
    ("cancel_at_period_end", .bool c.cancelAtPeriodEnd),
    ("pending_update", .bool c.pendingUpdate)]

/-- The `price_evidence` of the snapshot. -/
def PlanChangeFacts.evidence (x : PlanChangeFacts) : Json :=
  .obj [
    ("source_price_id", .str x.context.currentPriceId),
    ("source_lookup_key", .str x.source.lookupKey),
    ("source_plan_key", .str x.source.planKey),
    ("source_currency", .str x.source.currency),
    ("source_unit_amount", .int x.source.unitAmount),
    ("target_price_id", .str x.context.targetPriceId),
    ("target_lookup_key", .str x.target.lookupKey),
    ("target_plan_key", .str x.target.planKey),
    ("target_currency", .str x.target.currency),
    ("target_unit_amount", .int x.target.unitAmount)]

def EffectiveMode.snapshotKind : EffectiveMode → String
  | .immediate => "plan_change_immediate"
  | .periodEnd | .noop => "plan_change_schedule"

/-- The parameters of the mutation, by the timing. -/
def PlanChangeFacts.params (x : PlanChangeFacts) : Transaction Json :=
  if x.timing = .immediate then x.immediateParams else x.scheduleParams

/-- The snapshot before it is validated. -/
def PlanChangeFacts.assemble (x : PlanChangeFacts) : Transaction Json := do
  let params ← x.params
  let periodStart ← snapshotEpoch x.context.currentPeriodStart
  let periodEnd ← snapshotEpoch x.context.currentPeriodEnd
  pure (.obj [
    ("schema", .str "stripe.plan_change.request"),
    ("version", .int 1),
    ("kind", .str x.timing.snapshotKind),
    ("request_api_version", .str x.requestApiVersion),
    ("idempotency_key", .str x.idempotencyKey),
    ("product_line", .str x.productLine),
    ("context", x.context.json periodStart periodEnd),
    ("price_evidence", x.evidence),
    ("policy", .str x.policy.text),
    ("params", params)])

/-- `build_plan_change_request_snapshot`. -/
def buildPlanChangeRequestSnapshot (u : Unicode) (x : PlanChangeFacts) : Transaction Json := do
  let snapshot ← x.assemble
  validatePlanChangeRequestSnapshot u snapshot {}

/-- The context that the `context` of a snapshot spells. -/
def readContext (raw : Json) : PlanChangeContext :=
  let instant (field : String) : Int := ((raw.get field).asInt.getD 0) * 1000000
  { subscriptionId := (raw.get "subscription_id").text
    subscriptionItemId := (raw.get "subscription_item_id").text
    currentPriceId := (raw.get "current_price_id").text
    currentLookupKey := (raw.get "current_lookup_key").text
    targetPriceId := (raw.get "target_price_id").text
    targetInterval := ((raw.get "target_interval").asStr.bind Interval.parse).getD .month
    currentPeriodStart := instant "current_period_start"
    currentPeriodEnd := instant "current_period_end"
    scheduleId := (raw.get "schedule_id").asStr
    subscriptionStatus := (raw.get "subscription_status").text
    cancelAtPeriodEnd := (raw.get "cancel_at_period_end").truthy
    pendingUpdate := (raw.get "pending_update").truthy }

/-- `plan_change_context_from_snapshot`. -/
def planChangeContextFromSnapshot (u : Unicode) (snapshot : Json) :
    Transaction PlanChangeContext := do
  let validated ← validatePlanChangeRequestSnapshot u snapshot {}
  pure (readContext (validated.get "context"))

end StripeEntitlements
