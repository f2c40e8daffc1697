import StripeEntitlements.Parity.Runtime
import StripeEntitlements.Reconcile.PackReconcile

/-!
# Remote Facts of a Pack Order

The validators of `pack_reconcile.py` and `pack-reconcile.ts`: what a Checkout Session, a
PaymentIntent and a Charge that were retrieved from Stripe say about a leased order, or the
code of the first contract they break. Both languages check the same things in the same order;
they differ in what counts as an integer and in a membership test of Python, which hashes.
-/

namespace StripeEntitlements

open Relational

/-- What the two reconcilers do differently. -/
structure ReconcilerRuntime where
  cfg : Config
  /-- `type(value) is int`, or a safe integer. -/
  integer : Json → Option Int
  /-- A membership test raises for a list or a dict. -/
  hashes : Bool
  /-- `str(None)`, or `String(null)`. -/
  noneText : String
  /-- SHA-256 as hex digits. -/
  digest : String → String
  /-- The name of the class of an exception of the database. -/
  className : Failure → String
  process : Tx → Db → Event → Transaction (Db × ProcessResult)

/-! ## Reading remote values -/

mutual

/-- `_remote_copy`: without the members whose name starts with an underscore. -/
def remoteCopy : Json → Json
  | .obj members => .obj (remoteMembers members)
  | .arr items => .arr (remoteItems items)
  | value => value

def remoteItems : List Json → List Json
  | [] => []
  | x :: xs => remoteCopy x :: remoteItems xs

def remoteMembers : List (String × Json) → List (String × Json)
  | [] => []
  | (key, x) :: rest =>
      if key.toList.head? = some '_' then remoteMembers rest
      else (key, remoteCopy x) :: remoteMembers rest

end

/-- The id of an expanded object, or the value itself. -/
def Json.identity (value : Json) : Json := if value.isObj then value.get "id" else value

/-- What `_stripe_id` accepts. -/
def Unicode.remoteId (u : Unicode) (value : Json) (pre : String) : Option String :=
  value.identity.asStr.filter fun id => pre.toList.isPrefixOf id.toList && u.visible 255 id

/-- `_stripe_id(value, prefix, code=code)`. -/
def remoteId (u : Unicode) (value : Json) (pre code : String) : Except String String :=
  fetch (u.remoteId value pre) code

/-- `_stripe_id(value, prefix, code=code, optional=True)`. -/
def optionalRemoteId (u : Unicode) (value : Json) (pre code : String) :
    Except String (Option String) :=
  if value.identity.isNull then .ok none
  else (remoteId u value pre code).map some

namespace ReconcilerRuntime

variable (rt : ReconcilerRuntime)

/-- `_integer`. -/
def remoteInteger (value : Json) (code : String) : Except String Nat :=
  fetch (((rt.integer value).filter fun n => 0 ≤ n && n ≤ (postgresBigintMax : Int)).map
    Int.toNat) code

/-- `value not in allowed` raises for what cannot be hashed. -/
def member (value : Json) (allowed : List String) (code : String) : Except String String := do
  require (!rt.hashes || value.hashable) "TypeError"
  fetch (value.asStr.filter allowed.contains) code

/-- `_metadata_matches`. -/
def metadataMatches (claim : CreditPackReconcileClaim) (raw : Json) : Bool :=
  let metadata := raw.get "metadata"
  let expected := [
    ("billing_kind", "credit_pack"),
    ("pack_schema_version", "1"),
    ("product_line", rt.cfg.productLine),
    ("credit_pack_order_id", claim.orderId),
    ("account_id", claim.accountId),
    ("pack_key", claim.packKey),
    ("pack_credits", creditDecimal claim.packCredits),
    ("price_amount", toString claim.priceAmount),
    ("currency", claim.currency),
    ("expires_days", toString claim.expiresDays),
    ("lookup_key", claim.lookupKey)]
  metadata.isObj && expected.all fun (key, value) => (metadata.get key).asStr = some value

/-- `_mode_matches`. -/
def modeMatches (raw : Json) : Bool := (raw.get "livemode").asBool = some rt.cfg.expectedLivemode

end ReconcilerRuntime

/-! ## Checkout Session -/

def checkoutStatuses : List String := ["open", "complete", "expired"]

def checkoutPaymentStatuses : List String := ["paid", "unpaid", "no_payment_required"]

/-- `_SessionFact`. -/
structure SessionFact where
  raw : Json
  status : String
  paymentStatus : String
  paymentIntentId : Option String
  customerId : Option String
  created : Nat

/-- `_validate_session`. -/
def validateSession (rt : ReconcilerRuntime) (claim : CreditPackReconcileClaim) (value : Json) :
    Except String SessionFact := do
  let u := rt.cfg.unicode
  let raw := remoteCopy value
  require raw.isObj "checkout_shape_invalid"
  let sessionId ← remoteId u (raw.get "id") "cs_" "checkout_identity_invalid"
  let mismatch := "checkout_contract_mismatch"
  require (some sessionId = claim.sessionId &&
    (raw.get "object").asStr = some "checkout.session" &&
    (raw.get "mode").asStr = some "payment") mismatch
  let status ← rt.member (raw.get "status") checkoutStatuses mismatch
  let paymentStatus ← rt.member (raw.get "payment_status") checkoutPaymentStatuses mismatch
  require (rt.modeMatches raw &&
    (raw.get "client_reference_id").asStr = some claim.accountId &&
    rt.metadataMatches claim raw) mismatch
  let amount ← rt.remoteInteger (raw.get "amount_total") "checkout_amount_invalid"
  require (amount = claim.priceAmount && (raw.get "currency").asStr = some claim.currency) mismatch
  let paymentIntentId ← optionalRemoteId u (raw.get "payment_intent") "pi_"
    "checkout_payment_identity_invalid"
  let customerId ← optionalRemoteId u (raw.get "customer") "cus_"
    "checkout_customer_identity_invalid"
  require (unboundOr claim.paymentIntentId paymentIntentId) "checkout_payment_identity_conflict"
  require (unboundOr claim.requestCustomerId customerId &&
    unboundOr claim.orderCustomerId customerId &&
    unboundOr claim.accountCustomerId customerId) "checkout_customer_identity_conflict"
  require (status ≠ "complete" || (paymentIntentId.isSome && customerId.isSome))
    "checkout_completion_incomplete"
  require (status ≠ "complete" || paymentStatus ≠ "no_payment_required")
    "checkout_payment_contract_mismatch"
  let created ← rt.remoteInteger (raw.get "created") "checkout_created_invalid"
  pure { raw, status, paymentStatus, paymentIntentId, customerId, created }

/-! ## PaymentIntent -/

def paymentIntentStatuses : List String := [
  "canceled", "processing", "requires_action", "requires_capture", "requires_confirmation",
  "requires_payment_method", "succeeded"]

/-- `_PaymentIntentFact`. -/
structure PaymentIntentFact where
  raw : Json
  status : String
  customerId : String
  chargeId : Option String
  created : Nat

/-- `_validate_payment_intent`. -/
def validatePaymentIntent (rt : ReconcilerRuntime) (claim : CreditPackReconcileClaim)
    (value : Json) (expectedId : String) (sessionCustomerId : Option String) :
    Except String PaymentIntentFact := do
  let u := rt.cfg.unicode
  let raw := remoteCopy value
  require raw.isObj "payment_intent_shape_invalid"
  let paymentIntentId ← remoteId u (raw.get "id") "pi_" "payment_intent_identity_invalid"
  let customerId ← remoteId u (raw.get "customer") "cus_" "payment_intent_customer_invalid"
  let amount ← rt.remoteInteger (raw.get "amount") "payment_intent_amount_invalid"
  let amountReceived ← rt.remoteInteger (raw.get "amount_received")
    "payment_intent_received_invalid"
  let mismatch := "payment_intent_contract_mismatch"
  require (paymentIntentId = expectedId &&
    (raw.get "object").asStr = some "payment_intent") mismatch
  let status ← rt.member (raw.get "status") paymentIntentStatuses mismatch
  require (rt.modeMatches raw && rt.metadataMatches claim raw && amount = claim.priceAmount &&
    amountReceived ≤ amount && (raw.get "currency").asStr = some claim.currency) mismatch
  require (unboundOr claim.requestCustomerId (some customerId) &&
    unboundOr claim.orderCustomerId (some customerId) &&
    unboundOr claim.accountCustomerId (some customerId) &&
    unboundOr sessionCustomerId (some customerId)) "payment_intent_customer_conflict"
  require (status ≠ "succeeded" || amountReceived = amount) "payment_intent_settlement_mismatch"
  require (claim.amountPaid.all (· = amountReceived)) "payment_intent_settlement_regressed"
  require (claim.paymentStatus = .pending || status = "succeeded")
    "payment_intent_status_regressed"
  let chargeId ← optionalRemoteId u (raw.get "latest_charge") "ch_"
    "payment_intent_charge_invalid"
  require (unboundOr claim.chargeId chargeId) "payment_intent_charge_conflict"
  require (status ≠ "succeeded" || chargeId.isSome) "payment_intent_charge_missing"
  let created ← rt.remoteInteger (raw.get "created") "payment_intent_created_invalid"
  pure { raw, status, customerId, chargeId, created }

/-! ## Charge -/

/-- `_ChargeFact`. -/
structure ChargeFact where
  raw : Json
  customerId : String
  amountRefunded : Nat
  disputed : Bool
  created : Nat

/-- `_validate_charge`. -/
def validateCharge (rt : ReconcilerRuntime) (claim : CreditPackReconcileClaim) (value : Json)
    (expectedId paymentIntentId customerId : String) : Except String ChargeFact := do
  let u := rt.cfg.unicode
  let raw := remoteCopy value
  require raw.isObj "charge_shape_invalid"
  let chargeId ← remoteId u (raw.get "id") "ch_" "charge_identity_invalid"
  let remotePayment ← remoteId u (raw.get "payment_intent") "pi_"
    "charge_payment_identity_invalid"
  let remoteCustomer ← remoteId u (raw.get "customer") "cus_" "charge_customer_identity_invalid"
  let amount ← rt.remoteInteger (raw.get "amount") "charge_amount_invalid"
  let amountRefunded ← rt.remoteInteger (raw.get "amount_refunded")
    "charge_refund_amount_invalid"
  let mismatch := "charge_contract_mismatch"
  require (chargeId = expectedId && remotePayment = paymentIntentId &&
    remoteCustomer = customerId && (raw.get "object").asStr = some "charge" &&
    (raw.get "paid").isTrue) mismatch
  let disputed ← fetch (raw.get "disputed").asBool mismatch
  let refunded ← fetch (raw.get "refunded").asBool mismatch
  require (rt.modeMatches raw && amount = claim.priceAmount && amountRefunded ≤ amount &&
    (disputed || claim.amountRefunded ≤ amountRefunded) &&
    refunded = decide (amountRefunded = amount) &&
    (raw.get "currency").asStr = some claim.currency) mismatch
  let created ← rt.remoteInteger (raw.get "created") "charge_created_invalid"
  pure { raw, customerId := remoteCustomer, amountRefunded, disputed, created }

end StripeEntitlements
