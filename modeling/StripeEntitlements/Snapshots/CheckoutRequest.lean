import StripeEntitlements.Snapshots.Fields
import StripeEntitlements.Snapshots.Urls

/-!
# The Frozen Checkout Request

The Checkout half of `stripe_request_snapshots.py`: the parameters of
`stripe.checkout.Session.create` for a subscription or a credit pack are built once, checked
against the Price they were resolved from, and stored; a retry checks the stored object again
and sends nothing else.

## Main definitions

- `buildSubscriptionCheckoutRequestSnapshot`, `buildCreditPackCheckoutRequestSnapshot`
- `validateCheckoutRequestSnapshot` — the checks, with the expectations of a coordinator
-/

namespace StripeEntitlements

/-! ## Enumerations of the snapshot -/

inductive CheckoutKind where
  | subscription
  | creditPack
  deriving DecidableEq, Repr

namespace CheckoutKind

def text : CheckoutKind → String
  | .subscription => "subscription"
  | .creditPack => "credit_pack"

def parse : String → Option CheckoutKind
  | "subscription" => some .subscription
  | "credit_pack" => some .creditPack
  | _ => none

/-- The `mode` of the Checkout Session. -/
def mode : CheckoutKind → String
  | .subscription => "subscription"
  | .creditPack => "payment"

def priceType : CheckoutKind → String
  | .subscription => "recurring"
  | .creditPack => "one_time"

/-- Where the second copy of the metadata is. -/
def branchKey : CheckoutKind → String
  | .subscription => "subscription_data"
  | .creditPack => "payment_intent_data"

/-- The idempotency key of a purchase. -/
def derivedKey (kind : CheckoutKind) (accountId requestIdentity : String) : String :=
  match kind with
  | .subscription => "checkout:" ++ accountId ++ ":" ++ requestIdentity
  | .creditPack => "credit-pack:" ++ requestIdentity

end CheckoutKind

inductive CustomerMode where
  | existing
  | create
  deriving DecidableEq, Repr

namespace CustomerMode

def text : CustomerMode → String
  | .existing => "existing"
  | .create => "create"

def parse : String → Option CustomerMode
  | "existing" => some .existing
  | "create" => some .create
  | _ => none

end CustomerMode

/-! ## Validation -/

def checkoutSnapshotKeys : List String :=
  ["schema", "version", "kind", "request_api_version", "idempotency_key", "customer_mode",
    "resolved_price", "params"]

def resolvedPriceKeys : List String :=
  ["price_id", "lookup_key", "currency", "unit_amount", "price_type", "interval",
    "product_line", "offering_key"]

/-- The parameters of `stripe.checkout.Session.create`. -/
def checkoutParamKeys (kind : CheckoutKind) (mode : CustomerMode) : List String :=
  ["mode", "client_reference_id", "line_items", "success_url", "cancel_url", "expires_at",
    "metadata", kind.branchKey] ++
  (match kind with
    | .subscription => []
    | .creditPack => ["payment_method_types"]) ++
  match mode, kind with
    | .existing, _ => ["customer"]
    | .create, .creditPack => ["customer_creation"]
    | .create, .subscription => []

/-- `_http_url`. -/
def Unicode.httpUrl (u : Unicode) (value : Json) (field : String) : Transaction String := do
  let result ← u.snapshotText value field 2048
  let parsed ← urlsplit result.toList
  require parsed.isOriginSafe
    (.stripeRequestSnapshot (field ++ " is not an origin-safe HTTP(S) URL"))
  pure result

/-- The expectations of `validate_checkout_request_snapshot`. -/
structure CheckoutExpectations where
  kind : Option CheckoutKind := none
  accountId : Option String := none
  requestIdentity : Option String := none
  lookupKey : Option String := none
  currency : Option String := none
  unitAmount : Option Int := none
  interval : Option Interval := none
  offeringKey : Option String := none
  expiresAt : Option Int := none
  /-- Unset, or the Customer that is expected, if any. -/
  customerId : Option (Option String) := none
  packCredits : Option String := none
  expiresDays : Option Int := none
  productLine : Option String := none

/-- The evidence of the Price that was resolved. -/
structure ResolvedPrice where
  priceId : String
  lookupKey : String
  currency : String
  unitAmount : Int
  interval : Option Interval
  productLine : String
  offeringKey : String

/-- The interval of the evidence: a recurring Price has one, a one-time Price has none. -/
def validatePriceInterval (kind : CheckoutKind) (evidence : Json) :
    Transaction (Option Interval) :=
  match kind with
  | .subscription => do
      require ((evidence.get "price_type").asStr = some kind.priceType)
        (.stripeRequestSnapshot "subscription Price evidence is invalid")
      let interval ← oneOf Interval.parse (evidence.get "interval")
        "subscription Price evidence is invalid"
      pure (some interval)
  | .creditPack => do
      require ((evidence.get "price_type").asStr = some kind.priceType &&
          (evidence.get "interval").isNull)
        (.stripeRequestSnapshot "credit-pack Price evidence is invalid")
      pure none

def validateResolvedPrice (u : Unicode) (kind : CheckoutKind) (value : Json) :
    Transaction ResolvedPrice := do
  let evidence ← exactMapping value resolvedPriceKeys "Checkout resolved Price evidence"
  let priceId ← u.snapshotStripeId (evidence.get "price_id") "price_" "Checkout Price id"
  let lookupKey ← u.snapshotText (evidence.get "lookup_key") "Checkout lookup key" 200
  let currency ← u.snapshotText (evidence.get "currency") "Checkout currency" 3
  require (currency.length = 3 && currency = u.lower currency)
    (.stripeRequestSnapshot "Checkout currency is invalid")
  let unitAmount ← fetch ((evidence.get "unit_amount").asInt.filter fun n =>
      0 ≤ n && n ≤ 99999999)
    (.stripeRequestSnapshot "Checkout unit amount is invalid")
  let productLine ← u.snapshotText (evidence.get "product_line") "product line" 200
  let offeringKey ← u.snapshotText (evidence.get "offering_key") "offering key" 64
  let interval ← validatePriceInterval kind evidence
  pure { priceId, lookupKey, currency, unitAmount, interval, productLine, offeringKey }

/-- `value == [{"price": price_id, "quantity": 1}]`, where Python takes `True` and `1.0` for the
    quantity as well. -/
def lineItemsMatch (priceId : String) : Json → Bool
  | .arr [.obj members] =>
      let item := Json.obj members
      members.length = 2 && item.has "price" && item.has "quantity" &&
        (item.get "price").asStr = some priceId && (item.get "quantity").isOne
  | _ => false

/-- What the checks of the parameters leave for the later ones. -/
structure CheckoutSession where
  accountId : String
  expiresAt : Int
  customerId : Option String
  mode : Json
  paymentMethodTypes : Json
  metadata : Json

/-- The Customer of the Session, or how one is created. -/
def validateCheckoutCustomer (u : Unicode) (kind : CheckoutKind) (mode : CustomerMode)
    (params : Json) : Transaction (Option String) :=
  match mode, kind with
  | .existing, _ => do
      let customerId ← u.snapshotStripeId (params.get "customer") "cus_" "Checkout Customer id"
      pure (some customerId)
  | .create, .creditPack => do
      require ((params.get "customer_creation").asStr = some "always")
        (.stripeRequestSnapshot "credit-pack Customer create mode drifted")
      pure none
  | .create, .subscription => pure none

def validateCheckoutParams (u : Unicode) (kind : CheckoutKind) (mode : CustomerMode)
    (priceId : String) (value : Json) : Transaction CheckoutSession := do
  let params ← exactMapping value (checkoutParamKeys kind mode) "Checkout Session create params"
  let accountId ← u.snapshotText (params.get "client_reference_id") "Checkout account id" 64
  require (lineItemsMatch priceId (params.get "line_items"))
    (.stripeRequestSnapshot "Checkout line item drifted")
  let _ ← u.httpUrl (params.get "success_url") "Checkout success URL"
  let _ ← u.httpUrl (params.get "cancel_url") "Checkout cancel URL"
  let expiresAt ← snapshotInteger (params.get "expires_at") "Checkout expiry"
  let customerId ← validateCheckoutCustomer u kind mode params
  let wrapper ← exactMapping (params.get kind.branchKey) ["metadata"] kind.branchKey
  require ((params.get "metadata").beq (wrapper.get "metadata"))
    (.stripeRequestSnapshot "Checkout metadata copies drifted")
  pure { accountId, expiresAt, customerId, mode := params.get "mode"
         paymentMethodTypes := params.get "payment_method_types"
         metadata := params.get "metadata" }

/-- The metadata of a subscription Checkout. -/
def subscriptionCheckoutMetadata (claimToken accountId productLine : String) : Json :=
  .obj [("claim_token", .str claimToken), ("account_id", .str accountId),
    ("product_line", .str productLine)]

/-- The metadata of a credit-pack Checkout. -/
def packCheckoutMetadata (price : ResolvedPrice) (orderId accountId packCredits expiresDays : String) :
    Json :=
  .obj [
    ("billing_kind", .str "credit_pack"),
    ("pack_schema_version", .str "1"),
    ("product_line", .str price.productLine),
    ("credit_pack_order_id", .str orderId),
    ("account_id", .str accountId),
    ("pack_key", .str price.offeringKey),
    ("pack_credits", .str packCredits),
    ("price_amount", .str (toString price.unitAmount)),
    ("currency", .str price.currency),
    ("expires_days", .str expiresDays),
    ("lookup_key", .str price.lookupKey)]

/-- `text.removeprefix(prefix)`. -/
def removePrefix (pre text : String) : String :=
  if pre.toList.isPrefixOf text.toList then String.ofList (text.toList.drop pre.length) else text

/-- The identity of the purchase, after the checks of its metadata. -/
def validateCheckoutMetadata (u : Unicode) (kind : CheckoutKind) (price : ResolvedPrice)
    (session : CheckoutSession) (idempotencyKey : String) (expected : Option String) :
    Transaction String :=
  match kind with
  | .subscription => do
      let derived := removePrefix (kind.derivedKey session.accountId "") idempotencyKey
      -- an empty expectation is none
      let requestIdentity := (expected.filter (· ≠ "")).getD derived
      require (session.mode.asStr = some kind.mode && session.metadata.beq
          (subscriptionCheckoutMetadata requestIdentity session.accountId price.productLine))
        (.stripeRequestSnapshot "subscription Checkout metadata drifted")
      pure requestIdentity
  | .creditPack => do
      require (session.mode.asStr = some kind.mode &&
          session.paymentMethodTypes.beq (.arr [.str "card"]))
        (.stripeRequestSnapshot "credit-pack Checkout payment policy drifted")
      require session.metadata.isObj
        (.stripeRequestSnapshot "credit-pack Checkout metadata is invalid")
      let orderId ← u.snapshotText (session.metadata.get "credit_pack_order_id")
        "credit-pack order id" 64
      let packCredits ← u.snapshotText (session.metadata.get "pack_credits") "pack credits" 64
      let expiresDays ← u.snapshotText (session.metadata.get "expires_days") "pack expiry" 16
      require (session.metadata.beq
          (packCheckoutMetadata price orderId session.accountId packCredits expiresDays))
        (.stripeRequestSnapshot "credit-pack Checkout metadata drifted")
      pure orderId

/-- An expectation that is set is what was observed. -/
def expectCheckout {α : Type} [DecidableEq α] (expected : Option α) (observed : α)
    (field : String) : Transaction Unit :=
  require (expected.all (· = observed))
    (.stripeRequestSnapshot ("Checkout " ++ field ++ " drifted"))

namespace CheckoutExpectations

/-- The expectations of what the snapshot says of itself. -/
def check (x : CheckoutExpectations) (kind : CheckoutKind) (price : ResolvedPrice)
    (session : CheckoutSession) (requestIdentity : String) : Transaction Unit := do
  expectCheckout x.kind kind "kind"
  expectCheckout x.accountId session.accountId "account"
  expectCheckout x.requestIdentity requestIdentity "request identity"
  expectCheckout x.lookupKey price.lookupKey "lookup key"
  expectCheckout x.currency price.currency "currency"
  expectCheckout x.unitAmount price.unitAmount "unit amount"
  expectCheckout (x.interval.map some) price.interval "interval"
  expectCheckout x.offeringKey price.offeringKey "offering key"
  expectCheckout x.productLine price.productLine "product line"
  expectCheckout x.expiresAt session.expiresAt "expiry"

def checkCustomer (x : CheckoutExpectations) (mode : CustomerMode) (session : CheckoutSession) :
    Transaction Unit :=
  match x.customerId with
  | none => pure ()
  | some expected => do
      require (expected = session.customerId) (.stripeRequestSnapshot "Checkout Customer drifted")
      require (expected.isSome || mode = .create)
        (.stripeRequestSnapshot "Checkout Customer mode drifted")

def checkPackCredits (x : CheckoutExpectations) (u : Unicode) (kind : CheckoutKind)
    (session : CheckoutSession) : Transaction Unit :=
  match x.packCredits with
  | none => pure ()
  | some expected => do
      require (kind = .creditPack && session.metadata.isObj)
        (.stripeRequestSnapshot "Checkout pack credits drifted")
      let observed ← u.snapshotText (session.metadata.get "pack_credits") "pack credits" 64
      require (observed = expected) (.stripeRequestSnapshot "Checkout pack credits drifted")

def checkExpiresDays (x : CheckoutExpectations) (kind : CheckoutKind) (session : CheckoutSession) :
    Transaction Unit :=
  match x.expiresDays with
  | none => pure ()
  | some expected =>
      require (kind = .creditPack && 0 < expected && session.metadata.isObj &&
          (session.metadata.get "expires_days").asStr = some (toString expected))
        (.stripeRequestSnapshot "Checkout pack expiry drifted")

end CheckoutExpectations

/-- `validate_checkout_request_snapshot`. -/
def validateCheckoutRequestSnapshot (u : Unicode) (value : Json) (x : CheckoutExpectations) :
    Transaction Json := do
  safeJson value
  let root ← exactMapping value checkoutSnapshotKeys "Checkout request snapshot"
  require ((root.get "schema").asStr = some "stripe.checkout.session.create" &&
      (root.get "version").isOne)
    (.stripeRequestSnapshot "unsupported Checkout request snapshot version")
  let kind ← oneOf CheckoutKind.parse (root.get "kind")
    "unsupported Checkout request snapshot kind"
  let _ ← u.snapshotText (root.get "request_api_version") "request API version" 64
  let idempotencyKey ← u.snapshotText (root.get "idempotency_key") "Stripe idempotency key" 255
  let mode ← oneOf CustomerMode.parse (root.get "customer_mode")
    "Checkout customer mode is invalid"
  let price ← validateResolvedPrice u kind (root.get "resolved_price")
  let session ← validateCheckoutParams u kind mode price.priceId (root.get "params")
  let requestIdentity ← validateCheckoutMetadata u kind price session idempotencyKey
    x.requestIdentity
  require (idempotencyKey = kind.derivedKey session.accountId requestIdentity)
    (.stripeRequestSnapshot "Checkout Stripe idempotency identity drifted")
  x.check kind price session requestIdentity
  x.checkCustomer mode session
  x.checkPackCredits u kind session
  x.checkExpiresDays kind session
  pure root

/-! ## Freezing -/

/-- The arguments that the two builders share. -/
structure CheckoutTerms where
  accountId : String
  customerId : Option String
  priceId : String
  lookupKey : String
  currency : String
  unitAmount : Int
  /-- The key of the plan or of the pack. -/
  offeringKey : String
  productLine : String
  successUrl : String
  cancelUrl : String
  expiresAt : Int
  requestApiVersion : String

namespace CheckoutTerms

def customerMode (x : CheckoutTerms) : CustomerMode :=
  if x.customerId.isSome then .existing else .create

def lineItems (x : CheckoutTerms) : Json :=
  .arr [.obj [("price", .str x.priceId), ("quantity", .int 1)]]

/-- The request around its parameters. -/
def request (x : CheckoutTerms) (kind : CheckoutKind) (requestIdentity : String) (interval : Json)
    (params : List (String × Json)) : Json :=
  .obj [
    ("schema", .str "stripe.checkout.session.create"),
    ("version", .int 1),
    ("kind", .str kind.text),
    ("request_api_version", .str x.requestApiVersion),
    ("idempotency_key", .str (kind.derivedKey x.accountId requestIdentity)),
    ("customer_mode", .str x.customerMode.text),
    ("resolved_price", .obj [
      ("price_id", .str x.priceId),
      ("lookup_key", .str x.lookupKey),
      ("currency", .str x.currency),
      ("unit_amount", .int x.unitAmount),
      ("price_type", .str kind.priceType),
      ("interval", interval),
      ("product_line", .str x.productLine),
      ("offering_key", .str x.offeringKey)]),
    ("params", .obj params)]

end CheckoutTerms

/-- `build_subscription_checkout_request_snapshot`. -/
def buildSubscriptionCheckoutRequestSnapshot (u : Unicode) (x : CheckoutTerms)
    (claimToken : String) (interval : Interval) : Transaction Json :=
  let metadata := Json.obj [("claim_token", .str claimToken), ("account_id", .str x.accountId),
    ("product_line", .str x.productLine)]
  let params := [
    ("mode", .str "subscription"),
    ("client_reference_id", .str x.accountId),
    ("line_items", x.lineItems),
    ("subscription_data", .obj [("metadata", metadata)]),
    ("success_url", .str x.successUrl),
    ("cancel_url", .str x.cancelUrl),
    ("expires_at", .int x.expiresAt),
    ("metadata", metadata)]
  let customer := match x.customerId with
    | none => []
    | some customerId => [("customer", Json.str customerId)]
  validateCheckoutRequestSnapshot u
    (x.request .subscription claimToken (.str interval.text) (params ++ customer)) {}

/-- `build_credit_pack_checkout_request_snapshot`. -/
def buildCreditPackCheckoutRequestSnapshot (u : Unicode) (x : CheckoutTerms)
    (orderId packCredits : String) (expiresDays : Int) : Transaction Json :=
  let metadata := Json.obj [
    ("billing_kind", .str "credit_pack"),
    ("pack_schema_version", .str "1"),
    ("product_line", .str x.productLine),
    ("credit_pack_order_id", .str orderId),
    ("account_id", .str x.accountId),
    ("pack_key", .str x.offeringKey),
    ("pack_credits", .str packCredits),
    ("price_amount", .str (toString x.unitAmount)),
    ("currency", .str x.currency),
    ("expires_days", .str (toString expiresDays)),
    ("lookup_key", .str x.lookupKey)]
  let params := [
    ("mode", .str "payment"),
    ("payment_method_types", .arr [.str "card"]),
    ("client_reference_id", .str x.accountId),
    ("line_items", x.lineItems),
    ("payment_intent_data", .obj [("metadata", metadata)]),
    ("success_url", .str x.successUrl),
    ("cancel_url", .str x.cancelUrl),
    ("expires_at", .int x.expiresAt),
    ("metadata", metadata)]
  let customer := match x.customerId with
    | none => [("customer_creation", Json.str "always")]
    | some customerId => [("customer", .str customerId)]
  validateCheckoutRequestSnapshot u
    (x.request .creditPack orderId .null (params ++ customer)) {}

end StripeEntitlements
