import StripeEntitlements.Catalog
import StripeEntitlements.Credits.CreditService

/-!
# Stripe Events

What the processor reads from an Event, `ordering.py`, and what handling one Event yields:
new business rows, incidents to open or resolve, and a result. A handler stops early with
a result (`Stop.returned`) or by raising (`Stop.raised`).
-/

namespace StripeEntitlements

open Relational

/-! ## Configuration -/

/-- `str.isprintable` and `str.lower`. -/
structure Unicode where
  isPrintable : Char → Bool
  lower : String → String

structure Config where
  catalog : PlanCatalog
  productLine : String
  expectedLivemode : Bool := false
  expectedApiVersion : Option String := none
  unicode : Unicode
  /-- PostgreSQL `timestamptz + n * interval '1 month'`. -/
  addMonths : Int → Nat → Int

/-! ## Events -/

inductive EventType where
  | checkoutSessionCompleted | checkoutSessionExpired
  | invoicePaid | invoicePaymentFailed
  | customerSubscriptionUpdated | customerSubscriptionDeleted
  | chargeRefunded | chargeDisputeCreated
  | paymentIntentSucceeded
  | unsupported
  deriving DecidableEq, Repr

/-- `_SUPPORTED_EVENT_TYPES`. -/
def EventType.parse : String → EventType
  | "checkout.session.completed" => .checkoutSessionCompleted
  | "checkout.session.expired" => .checkoutSessionExpired
  | "invoice.paid" => .invoicePaid
  | "invoice.payment_failed" => .invoicePaymentFailed
  | "customer.subscription.updated" => .customerSubscriptionUpdated
  | "customer.subscription.deleted" => .customerSubscriptionDeleted
  | "charge.refunded" => .chargeRefunded
  | "charge.dispute.created" => .chargeDisputeCreated
  | "payment_intent.succeeded" => .paymentIntentSucceeded
  | _ => .unsupported

/-- `EVENT_RANK`: money-backed and terminal facts outrank weaker projections. -/
def rankFor : EventType → Nat
  | .invoicePaymentFailed => 10
  | .customerSubscriptionUpdated => 20
  | .invoicePaid => 30
  | .customerSubscriptionDeleted => 40
  | _ => 0

/-- The local cursor a reconciliation read before it asked Stripe. -/
structure ExpectedAccount where
  stripeSubscriptionId : Option String
  eventCreated : Nat
  eventRank : Nat
  deriving DecidableEq, Repr

/-- An Event as `process` receives it; the last three fields are the internal markers of
    synthetic Events. -/
structure Event where
  id : Json
  type : Json
  created : Json
  livemode : Json
  apiVersion : Json := .null
  data : Json
  remoteVerified : Bool := false
  expectedAccount : Option ExpectedAccount := none
  packClaim : Json := .null

namespace Event

def kind (e : Event) : EventType := (e.type.asStr.map EventType.parse).getD .unsupported

def object (e : Event) : Json := e.data.get "object"

/-- `event["id"]`. -/
def idText (e : Event) : String := e.id.text

/-- `int(event.get("created") or 0)`. -/
def createdAt (e : Event) : Nat := (e.created.asInt.getD 0).toNat

/-- The ordering key of an ordinary Event. -/
def order (e : Event) : Nat × Nat := (e.createdAt, rankFor e.kind)

end Event

/-- Lexicographic order on `(event_created, event_rank)`. -/
def cursorLt (a b : Nat × Nat) : Bool := a.1 < b.1 || (a.1 = b.1 && a.2 < b.2)

/-- `event_wins`: the incoming order is after the applied one. -/
def eventWins (current incoming : Nat × Nat) : Bool := cursorLt current incoming

def Account.cursor (a : Account) : Nat × Nat := (a.eventCreated, a.eventRank)

/-- Advance, but never rewind, the account-global Event ordering cursor. -/
def projectionOrder (account : Account) (e : Event) : Nat × Nat :=
  if cursorLt account.cursor e.order then e.order else account.cursor

def orderingTie (account : Account) (e : Event) : Bool :=
  !e.remoteVerified && account.cursor = e.order

/-- `EventProcessor._wins`. -/
def wins (account : Account) (e : Event) : Bool :=
  if e.remoteVerified then
    match e.expectedAccount with
    | none => false
    | some expected =>
        account.stripeSubscriptionId = expected.stripeSubscriptionId &&
          account.eventCreated = expected.eventCreated && account.eventRank = expected.eventRank
  else
    eventWins account.cursor e.order

/-! ## Identities -/

/-- The text conditions shared by `_as_id` and `_valid_event_identifier`. Among printable
    characters only the ASCII space is padding. -/
def Unicode.visible (u : Unicode) (maxBytes : Nat) (value : String) : Bool :=
  value ≠ "" && value.utf8ByteSize ≤ maxBytes && value.toList.all u.isPrintable &&
    value.toList.head? ≠ some ' ' && value.toList.getLast? ≠ some ' '

/-- `_as_id`. -/
def Unicode.asId (u : Unicode) (value : Json) : Option String :=
  let candidate := if value.isObj then value.get "id" else value
  candidate.asStr.filter (u.visible 512)

/-- `_stripe_id(value, prefix)`. -/
def Unicode.stripeId (u : Unicode) (value : Json) (pre : String) : Option String :=
  (u.asId value).filter fun id => pre.toList.isPrefixOf id.toList

/-- `_uuid_or_none`. -/
def uuidOrNone (value : Json) : Option String :=
  if value.truthy then canonicalUuid value.text else none

/-- `_timestamp`: an instant between the years 1 and 9999. -/
def timestamp (value : Json) : Option Int :=
  (value.asInt.filter fun n => -62135596800 ≤ n && n ≤ 253402300799).map (· * 1000000)

/-- `_subscription_id`. -/
def Unicode.subscriptionId (u : Unicode) (obj : Json) : Option String :=
  (u.asId (obj.get "subscription")).or
    (u.asId (((obj.get "parent").get "subscription_details").get "subscription"))

/-- `_subscription_metadata`. -/
def subscriptionMetadata (obj : Json) : Json :=
  let nested := ((obj.get "parent").get "subscription_details").get "metadata"
  let legacy := (obj.get "subscription_details").get "metadata"
  if nested.isObj && nested.truthy then nested
  else if legacy.isObj && legacy.truthy then legacy
  else obj.get "metadata"

/-- `_line_lookup`. -/
def lineLookup (line : Json) : Option String :=
  let resolved := line.get "_resolved_lookup_key"
  let price := (line.get "price").get "lookup_key"
  let details := ((line.get "pricing").get "price_details").get "lookup_key"
  if resolved.truthy then some resolved.text
  else if price.truthy then some price.text
  else if details.truthy then some details.text
  else none

/-- `_line_price_id`. -/
def Unicode.linePriceId (u : Unicode) (line : Json) : Option String :=
  (u.asId (line.get "price")).or
    (u.asId (((line.get "pricing").get "price_details").get "price"))

/-- `_line_proration`. -/
def lineProration (line : Json) : Bool :=
  (line.get "proration").truthy ||
    (((line.get "parent").get "subscription_item_details").get "proration").truthy

/-- `EventProcessor._catalog_line_matches`. -/
def Config.catalogLineMatches (cfg : Config) (line : Json) (plan : Plan) (interval : Interval) :
    Transaction Bool :=
  let resolvedPrice := line.get "_resolved_price"
  match cfg.unicode.linePriceId line with
  | none => .ok false
  | some priceId =>
      if resolvedPrice.isObj then
        catalogPriceMatches cfg.unicode.lower resolvedPrice {
          currency := plan.currency
          unitAmount := plan.amount interval
          interval
          productLine := cfg.productLine
          planKey := plan.key
          lookupKey := cfg.catalog.lookupKey plan interval
          priceId := some priceId }
      else
        .ok false

/-- `EventProcessor._lock_account`. -/
def lockAccount (u : Unicode) (b : Billing) (obj metadata : Json) : Option Account :=
  let externalRef :=
    if (metadata.get "external_ref").truthy then metadata.get "external_ref"
    else obj.get "client_reference_id"
  let subscriptionId := (u.subscriptionId obj).or (u.asId (obj.get "id"))
  match uuidOrNone (metadata.get "account_id") with
  | some accountId => b.accounts.find? accountId
  | none =>
      (if externalRef.truthy then b.accounts.rows.find? (·.externalRef = externalRef.text)
        else none).or <|
      (subscriptionId.bind fun id => b.accounts.rows.find? (·.stripeSubscriptionId = some id)).or <|
      (u.asId (obj.get "customer")).bind fun id =>
        b.accounts.rows.find? (·.stripeCustomerId = some id)

/-! ## Incidents -/

inductive IncidentKind where
  | invalidEventShape | webhookContractMismatch
  | paidUnknownAccount | paidCustomerIdentityConflict | unexpectedBillingReason
  | unsupportedInvoicePaymentShape | invoicePreparationFailed | incompleteInvoiceLines
  | invalidInvoiceLineShape | ambiguousInvoiceLines | unknownPrice
  | invoicePriceIdentityMismatch | invoiceCatalogAmountMismatch | invalidEntitlementPeriod
  | invoiceGrantIdentityConflict | subscriptionCreateWithoutCheckout
  | paidPlanChangeWithoutIntent | unsafeCrossInvoiceProration
  | paidSubscriptionIdentityConflict | stalePaidEvent | invoiceWithoutNewFunding
  | invoiceAccountIdentityConflict
  | staleProratedDeltaInvoice | invalidProratedDeltaInvoice | proratedDeltaEntitlementMismatch
  | fundingAllocationConflict | proratedDeltaFundingClosed
  | clawbackWithoutInvoice | invalidClawbackShape | clawbackUnknownAccount
  | clawbackCustomerIdentityConflict | clawbackInvoiceIdentityConflict
  | clawbackGrantIdentityConflict | clawbackAllocationIdentityConflict
  | upgradeFundingClosedReverted | fundingLineageClosed
  | paymentFailedCustomerIdentityConflict | paymentFailedSubscriptionIdentityConflict
  | unexpectedPaymentFailedReason | planChangePaymentFailed | unboundPlanChangePaymentFailed
  | planChangeRecoveryRequired
  | subscriptionCustomerIdentityConflict | invalidSubscriptionProjection
  | subscriptionIdentityConflict | ambiguousSubscriptionItems
  | subscriptionUpdateWithoutAuthority | eventOrderTie | subscriptionDeletedIdentityConflict
  | checkoutCompletedWithoutSubscription | checkoutCustomerIdentityConflict
  | checkoutCompletedWithoutClaim | staleCheckoutCompletion | multipleSubscriptions
  | creditPackPaymentMetadataInvalid | creditPackPaymentIdentityConflict
  | creditPackPaymentContractMismatch | creditPackCheckoutContractMismatch
  | creditPackClawbackContractMismatch
  | annualPlanMismatch | annualGrantFailed
  | planChangeAccountRace
  deriving DecidableEq, Repr

/-- What a handler asks of `billing_incidents`. -/
inductive IncidentAction where
  | observe (kind : IncidentKind) (dedupeKey : String) (invoiceId accountId : Option String)
  /-- The upgrade of this account settled with this Invoice and plan change. -/
  | resolveSettled (accountId invoiceId planChangeId : String)
  /-- The Subscription of this account was deleted. -/
  | resolveDeleted (accountId : String)
  /-- The annual plan of this account agrees with Stripe again. -/
  | resolveAnnualMismatch (dedupeKey : String)
  /-- The annual worker handled this account. -/
  | resolveAnnualFailure (accountId : String)
  /-- The coordinator bound this Invoice to the plan change of this account. -/
  | resolveUnbound (accountId invoiceId : String)
  deriving DecidableEq, Repr

/-! ## Results -/

inductive EventOutcome where
  | handled | ignored | replayed | duplicate
  deriving DecidableEq, Repr

structure ProcessResult where
  outcome : EventOutcome
  reason : Option String := none
  accountId : Option String := none
  deriving DecidableEq, Repr

/-- The business rows after a handler, the incidents it asked for, and its answer. -/
structure Effect where
  billing : Billing
  incidents : List IncidentAction := []
  result : ProcessResult

/-- Why a handler stopped before its effects. -/
inductive Stop where
  | returned (incidents : List IncidentAction) (result : ProcessResult)
  | raised (failure : Failure)

/-- The guards of a handler: they read rows, and stop or hand over to the effects. -/
abbrev Guarded (α : Type) := Except Stop α

/-- `return ProcessResult("ignored", reason, answered)` after one incident. -/
def Stop.ignored (kind : IncidentKind) (dedupeKey : String) (invoiceId accountId : Option String)
    (reason : String) (answered : Option String := accountId) : Stop :=
  .returned [.observe kind dedupeKey invoiceId accountId]
    { outcome := .ignored, reason := some reason, accountId := answered }

/-- `return ProcessResult("ignored", reason, account_id)` without an incident. -/
def Stop.dropped (reason : String) (accountId : Option String) : Stop :=
  .returned [] { outcome := .ignored, reason := some reason, accountId }

/-- A step of the guards that may raise. -/
def Guarded.lift {α : Type} : Transaction α → Guarded α
  | .ok a => .ok a
  | .error failure => .error (.raised failure)

@[simp] theorem Guarded.lift_eq_ok {α : Type} {x : Transaction α} {a : α} :
    Guarded.lift x = .ok a ↔ x = .ok a := by
  cases x <;> simp [lift]

/-- Run the effects once the guards passed. A stop leaves the business rows alone. -/
def Guarded.andThen {α : Type} (b : Billing) (guards : Guarded α)
    (effects : α → Transaction Effect) : Transaction Effect :=
  match guards with
  | .ok a => effects a
  | .error (.returned incidents result) => .ok { billing := b, incidents, result }
  | .error (.raised failure) => .error failure

/-- A handler that did not raise changed nothing, or its guards passed and its effects ran. -/
theorem Guarded.andThen_eq_ok {α : Type} {b : Billing} {guards : Guarded α}
    {effects : α → Transaction Effect} {e : Effect} (h : guards.andThen b effects = .ok e) :
    (e.billing = b ∧ ∀ a, guards ≠ .ok a) ∨ ∃ a, guards = .ok a ∧ effects a = .ok e := by
  unfold andThen at h
  split at h
  · exact .inr ⟨_, rfl, h⟩
  · cases h
    exact .inl ⟨rfl, by simp⟩
  · cases h

end StripeEntitlements
