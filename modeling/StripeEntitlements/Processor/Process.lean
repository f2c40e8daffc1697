import StripeEntitlements.Processor.Clawback
import StripeEntitlements.Processor.Subscriptions

/-!
# Event Processing

`_checkout_completed`, `_checkout_expired` and `EventProcessor.process`: one Event is
claimed in the inbox, checked, dispatched to its handler and answered, all in one
transaction over the whole database.
-/

namespace StripeEntitlements

open Relational

/-! ## Subscription Checkout -/

/-- A completed Session that may bind its Subscription. -/
structure CompletedSession where
  account : Account
  claim : CheckoutClaim
  sessionId : String
  subscriptionId : String
  customerId : String

/-- The guards of `_checkout_completed`. -/
def completedSessionGuards (cfg : Config) (b : Billing) (e : Event) :
    Guarded CompletedSession := do
  let session := e.object
  let account ← fetch (lockAccount cfg.unicode b session (session.get "metadata"))
    (Stop.dropped "account not found" none)
  let sessionId := (session.get "id").text
  let ignored (kind : IncidentKind) (reason : String) : Stop :=
    Stop.ignored kind s!"{account.id}:{sessionId}" none (some account.id) reason
  let subscriptionId ← fetch (cfg.unicode.asId (session.get "subscription"))
    (ignored .checkoutCompletedWithoutSubscription "completed Checkout has no subscription")
  let customerId ← fetch ((cfg.unicode.asId (session.get "customer")).filter
      (customerMatches account))
    (ignored .checkoutCustomerIdentityConflict "Checkout customer identity is missing or conflicting")
  let claim ← fetch (b.claims.find? account.id) <|
    if account.stripeSubscriptionId = some subscriptionId then
      Stop.returned [] {
        outcome := .replayed
        reason := some "subscription is already bound"
        accountId := some account.id }
    else
      ignored .checkoutCompletedWithoutClaim "checkout claim is missing"
  let claimToken := (session.get "metadata").get "claim_token"
  let unattached := claim.sessionId.isNone && claimToken.truthy &&
    claim.claimToken = claimToken.text
  require (claim.sessionId = some sessionId || unattached)
    (ignored .staleCheckoutCompletion "another checkout owns the active claim")
  require (unboundOr account.stripeSubscriptionId (some subscriptionId))
    (Stop.ignored .multipleSubscriptions s!"{account.id}:{subscriptionId}" none (some account.id)
      "a different subscription is already bound")
  pure { account, claim, sessionId, subscriptionId, customerId }

/-- Bind the Subscription; a first binding starts a new ordering cursor. -/
def bindSession (s : CompletedSession) (a : Account) : Account :=
  { a with
    stripeCustomerId := a.stripeCustomerId.or (some s.customerId)
    eventCreated := if a.stripeSubscriptionId.isNone then 0 else a.eventCreated
    eventRank := if a.stripeSubscriptionId.isNone then 0 else a.eventRank
    stripeSubscriptionId := some s.subscriptionId }

/-- `EventProcessor._checkout_completed`. -/
def checkoutCompleted (cfg : Config) (b : Billing) (e : Event) : Transaction Effect :=
  (completedSessionGuards cfg b e).andThen b fun s => do
    let b ← b.update s.account.id (bindSession s)
    pure {
      billing := { b with claims := b.claims.deleteWhere fun c =>
        c.accountId = s.account.id &&
          (c.sessionId = some s.sessionId || c.claimToken = s.claim.claimToken) }
      result := { outcome := .handled, accountId := some s.account.id } }

/-- `EventProcessor._checkout_expired`. -/
def checkoutExpired (b : Billing) (e : Event) : Transaction Effect :=
  let sessionId := (e.object.get "id").text
  match b.claims.rows.find? (·.sessionId = some sessionId) with
  | none => pure { billing := b, result := {
      outcome := .ignored, reason := some "session no longer owns a claim" } }
  | some claim => pure {
      billing := { b with claims := b.claims.deleteWhere (·.sessionId = some sessionId) }
      result := { outcome := .handled, accountId := some claim.accountId } }

/-! ## Dispatch -/

/-- `EventProcessor._dispatch`. -/
def dispatch (cfg : Config) (tx : Tx) (b : Billing) (e : Event) : Transaction Effect :=
  match e.kind with
  | .paymentIntentSucceeded => paymentSucceeded cfg tx b e
  | .invoicePaid => invoicePaid cfg tx b e
  | .invoicePaymentFailed => paymentFailed cfg b e
  | .customerSubscriptionUpdated => subscriptionUpdated cfg b e
  | .customerSubscriptionDeleted => subscriptionDeleted cfg b e
  | .chargeRefunded | .chargeDisputeCreated =>
      (packClawback cfg tx b e).getD (clawback cfg tx b e)
  | .checkoutSessionCompleted => (packCheckoutEvent cfg b e).getD (checkoutCompleted cfg b e)
  | .checkoutSessionExpired => (packCheckoutEvent cfg b e).getD (checkoutExpired b e)
  | .unsupported => pure { billing := b, result := {
      outcome := .ignored
      reason := some "event type is outside the reference contract" } }

/-! ## The database of the processor -/

/-- A row of `stripe_webhook_events`. -/
structure InboxRow where
  id : String
  outcome : EventOutcome
  reason : Option String := none
  deriving DecidableEq, Repr

instance : Relation InboxRow String where
  key r := r.id
  check _ := true
  indexes := []

/-- A row of `billing_incidents`. -/
structure Incident where
  id : Nat
  kind : IncidentKind
  dedupeKey : String
  stripeEventId : Option String
  invoiceId : Option String := none
  accountId : Option String := none
  planChangeId : Option String := none
  seenCount : Nat := 1
  lastSeenAt : Int
  resolvedAt : Option Int := none
  deriving DecidableEq, Repr

instance : Relation Incident Nat where
  key i := i.id
  check _ := true
  indexes := [fun i =>
    if i.resolvedAt.isNone then some [toString i.kind.ctorIdx, i.dedupeKey] else none]

/-- Business rows, the Event inbox and the open incidents. -/
structure Db where
  billing : Billing
  inbox : Table InboxRow
  incidents : Table Incident

/-- Whether an incident is closed by the action. -/
def IncidentAction.resolves (action : IncidentAction) (i : Incident) : Bool :=
  match action with
  | .observe .. => false
  | .resolveSettled accountId invoiceId planChangeId =>
      i.accountId = some accountId && i.resolvedAt.isNone &&
        ((i.invoiceId = some invoiceId &&
            (i.kind = .planChangePaymentFailed || i.kind = .unboundPlanChangePaymentFailed)) ||
          (i.kind = .planChangeRecoveryRequired && i.planChangeId = some planChangeId))
  | .resolveDeleted accountId =>
      i.accountId = some accountId && i.resolvedAt.isNone &&
        (i.kind = .planChangePaymentFailed || i.kind = .unboundPlanChangePaymentFailed ||
          i.kind = .planChangeRecoveryRequired)
  | .resolveAnnualMismatch dedupeKey =>
      i.kind = .annualPlanMismatch && i.dedupeKey = dedupeKey && i.resolvedAt.isNone
  | .resolveAnnualFailure accountId =>
      i.kind = .annualGrantFailed && i.accountId = some accountId && i.resolvedAt.isNone
  | .resolveUnbound accountId invoiceId =>
      i.accountId = some accountId && i.invoiceId = some invoiceId && i.resolvedAt.isNone &&
        i.kind = .unboundPlanChangePaymentFailed

/-- Open an incident, see it again, or resolve it. -/
def applyIncident (tx : Tx) (eventId : Option String) (incidents : Table Incident)
    (action : IncidentAction) : Transaction (Table Incident) :=
  match action with
  | .observe kind dedupeKey invoiceId accountId =>
      let isOpen (i : Incident) : Bool :=
        i.kind = kind && i.dedupeKey = dedupeKey && i.resolvedAt.isNone
      if incidents.rows.any isOpen then
        statement <| incidents.updateWhere? isOpen fun i =>
          { i with
            stripeEventId := eventId.or i.stripeEventId
            invoiceId := invoiceId.or i.invoiceId
            accountId := accountId.or i.accountId
            seenCount := i.seenCount + 1
            lastSeenAt := tx.wall }
      else
        statement <| incidents.insert? {
          id := nextSerial Incident.id incidents.rows
          kind, dedupeKey, stripeEventId := eventId, invoiceId, accountId
          lastSeenAt := tx.wall }
  | _ =>
      statement <| incidents.updateWhere? action.resolves fun i =>
        { i with resolvedAt := some tx.wall, lastSeenAt := tx.wall }

/-! ## Process -/

/-- `_credit_pack_reconcile_claim_current`: a synthetic pack fact holds its live lease. -/
def packClaimCurrent (tx : Tx) (b : Billing) (e : Event) : Bool :=
  if e.packClaim.isNull then
    true
  else
    let canonical (key : String) : Option String :=
      (e.packClaim.get key).asStr.filter fun raw => canonicalUuid raw = some raw
    e.remoteVerified &&
      match canonical "order_id", canonical "account_id", canonical "token" with
      | some orderId, some accountId, some token =>
          (b.accounts.find? accountId).isSome &&
            (b.orders.find? orderId).any fun o =>
              o.accountId = accountId && o.reconcileClaimToken = some token &&
                o.reconcileClaimExpiresAt.any (tx.wall < ·)
      | _, _, _ => false

/-- `_event_shape_error` past the identifiers, for a supported type. -/
def eventShapeError (e : Event) : Option String :=
  if e.kind = .unsupported then none
  else if !e.created.asInt.any (fun n : Int => 0 ≤ n && n ≤ (postgresBigintMax : Int)) then
    some "supported Stripe Event requires a PostgreSQL-bigint created timestamp"
  else if e.livemode.asBool.isNone then
    some "supported Stripe Event requires a boolean livemode value"
  else if !e.data.isObj then
    some "supported Stripe Event requires a data object"
  else if !e.object.isObj then
    some "supported Stripe Event requires data.object to be an object"
  else if !(e.object.get "id").asStr.any (· ≠ "") then
    some "supported Stripe Event object requires a stable string id"
  else none

/-- The endpoint contract an Event from outside must meet. -/
def contractMismatch (cfg : Config) (e : Event) : Option String :=
  if e.remoteVerified then none
  else if e.livemode.truthy ≠ cfg.expectedLivemode then
    some "event livemode does not match the configured Stripe key mode"
  else if cfg.expectedApiVersion.any (fun v => v ≠ "" && e.apiVersion.asStr ≠ some v) then
    some "event API version does not match the pinned webhook endpoint"
  else none

/-- What a claimed Event does. -/
def processClaimed (cfg : Config) (tx : Tx) (b : Billing) (e : Event) : Transaction Effect :=
  let ignored (kind : IncidentKind) (reason : String) : Effect := {
    billing := b
    incidents := [.observe kind e.idText none none]
    result := { outcome := .ignored, reason := some reason } }
  match eventShapeError e with
  | some reason => pure (ignored .invalidEventShape reason)
  | none =>
      match contractMismatch cfg e with
      | some reason => pure (ignored .webhookContractMismatch reason)
      | none => dispatch cfg tx b e

/-- `EventProcessor.process`. -/
def process (cfg : Config) (tx : Tx) (db : Db) (e : Event) : Transaction (Db × ProcessResult) :=
  if !e.id.asStr.any (cfg.unicode.visible 512) then
    pure (db, { outcome := .ignored
                reason := some "Stripe Event requires a stable visible string id" })
  else if !e.type.asStr.any (cfg.unicode.visible 255) then
    pure (db, { outcome := .ignored
                reason := some "Stripe Event requires a stable visible string type" })
  else if !packClaimCurrent tx db.billing e then
    pure (db, { outcome := .ignored, reason := some "credit-pack reconciliation lease lost" })
  else if (db.inbox.find? e.idText).isSome then
    pure (db, { outcome := .duplicate, reason := some "event id already committed" })
  else do
    let effect ← processClaimed cfg tx db.billing e
    let incidents ← effect.incidents.foldlM (applyIncident tx (some e.idText)) db.incidents
    let inbox ← statement <| db.inbox.insert? {
      id := e.idText, outcome := effect.result.outcome, reason := effect.result.reason }
    pure ({ billing := effect.billing, inbox, incidents }, effect.result)

end StripeEntitlements
