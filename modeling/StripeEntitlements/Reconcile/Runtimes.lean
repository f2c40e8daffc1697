import StripeEntitlements.Reconcile.Worker

/-!
# The Reconcilers of the Two Runtimes

The Python reconciler projects through `EventProcessor.process`. The TypeScript one does so
through its own `process`; of its handlers the one for pack Checkout Sessions is embedded here,
and the rest are a parameter: no fact about an expired Session reaches them.

## Main definitions

- `TypeScript.packCheckoutEvent` — `checkoutEvent` of `credit-pack-events.ts`
- `TypeScript.process` — `process` of `event-processor.ts`
- `pythonReconciler`, `TypeScript.reconciler` — the two runtimes
-/

namespace StripeEntitlements

open Relational

/-! ## Processing in both runtimes -/

/-- The frame of `process`: identity, lease, inbox, and what the claimed Event does. -/
def processBy (cfg : Config) (claimed : Tx → Billing → Event → Transaction Effect) (tx : Tx)
    (db : Db) (e : Event) : Transaction (Db × ProcessResult) :=
  if !e.id.asStr.any (cfg.unicode.visible 512) then
    pure (db, { outcome := .ignored
                reason := some "Stripe Event requires a stable visible string id" })
  else if !e.type.asStr.any (cfg.unicode.visible 255) then
    pure (db, { outcome := .ignored
                reason := some "Stripe Event requires a stable visible string type" })
  else if !packClaimCurrent tx db.billing e then
    pure (db, { outcome := .ignored, reason := some "credit-pack reconciliation lease lost" })
  else if (db.inbox.find? e.idText).isSome then
    pure (db, { outcome := .duplicate, reason := some "event id already committed" })
  else do
    let effect ← claimed tx db.billing e
    let incidents ← effect.incidents.foldlM (applyIncident tx (some e.idText)) db.incidents
    let inbox ← statement <| db.inbox.insert? {
      id := e.idText, outcome := effect.result.outcome, reason := effect.result.reason }
    pure ({ billing := effect.billing, inbox, incidents }, effect.result)

theorem process_eq_processBy (cfg : Config) : process cfg = processBy cfg (processClaimed cfg) := rfl

namespace TypeScript

/-! ## Pack Checkout -/

/-- `stripeNonnegativeInteger`. -/
def stripeNonnegativeInteger (value : Json) : Option Nat :=
  ((safeInteger value).filter (0 ≤ ·)).map Int.toNat

/-- `canonicalUuid`: a UUID with its hyphens, in either case. -/
def uuidOf (value : Json) : Option String :=
  (value.asStr.map fun raw => String.ofList (raw.toList.map Char.toLower)).filter fun lower =>
    canonicalUuid lower = some lower

/-- `#orderMetadata`. -/
def packOrderMetadata (cfg : Config) (obj : Json) : Option PackIdentity := do
  let metadata := obj.get "metadata"
  guard ((metadata.get "billing_kind").asStr = some "credit_pack" &&
    (metadata.get "pack_schema_version").asStr = some "1" &&
    (metadata.get "product_line").asStr = some cfg.productLine)
  let orderId ← uuidOf (metadata.get "credit_pack_order_id")
  let accountId ← uuidOf (metadata.get "account_id")
  let packKey ← (metadata.get "pack_key").asStr
  pure { orderId, accountId, packKey }

/-- `sessionContractMatches`; the Session names a Customer. -/
def packSessionMatches (cfg : Config) (e : Event) (account : Account) (order : PackOrder) : Bool :=
  let obj := e.object
  let customerId := cfg.unicode.stripeId (obj.get "customer") "cus_"
  let paymentStatus := (obj.get "payment_status").asStr
  packSessionOpening e &&
    (paymentStatus = some "unpaid" ||
      (e.kind ≠ .checkoutSessionExpired && paymentStatus = some "paid")) &&
    (obj.get "client_reference_id").asStr = some account.id &&
    stripeNonnegativeInteger (obj.get "amount_total") = some order.priceAmount &&
    (obj.get "currency").asStr = some order.currency &&
    packOrderMetadata cfg obj = some ⟨order.id, account.id, order.packKey⟩ &&
    metadataMatchesOrder cfg obj order &&
    customerId.isSome && unboundOr order.requestCustomerId customerId

/-- The guards of `checkoutEvent` once the order is known. -/
def packCheckoutGuards (cfg : Config) (b : Billing) (e : Event) (sessionId : String)
    (order : PackOrder) : Guarded Account := do
  let account ← fetch (b.accounts.find? order.accountId)
    (Stop.dropped "credit-pack Checkout order is missing" none)
  require (unboundOr order.stripeCheckoutSessionId (some sessionId))
    (Stop.dropped "credit-pack Checkout Session identity is conflicting" none)
  require (packSessionMatches cfg e account order)
    (Stop.ignored .creditPackCheckoutContractMismatch sessionId none (some account.id)
      "credit-pack Checkout contract is conflicting" none)
  pure account

def packCheckout (cfg : Config) (b : Billing) (e : Event) (sessionId : String)
    (order : PackOrder) : Transaction Effect :=
  (packCheckoutGuards cfg b e sessionId order).andThen b fun account => do
    let b ← attachPackSession b order sessionId
    if e.kind = .checkoutSessionExpired then
      expirePackCheckout b account order
    else
      completePackCheckout cfg b e sessionId account order

/-- `checkoutEvent`; `none` is not a pack Session. -/
def packCheckoutEvent (cfg : Config) (b : Billing) (e : Event) : Option (Transaction Effect) := do
  let sessionId ← cfg.unicode.stripeId (e.object.get "id") "cs_"
  match b.orders.rows.find? (·.stripeCheckoutSessionId = some sessionId) with
  | some order => some (packCheckout cfg b e sessionId order)
  | none => do
      let identity ← packOrderMetadata cfg e.object
      match (b.orders.find? identity.orderId).filter (·.accountId = identity.accountId) with
      | some order => some (packCheckout cfg b e sessionId order)
      | none => some (pure { billing := b, result := {
          outcome := .ignored, reason := some "credit-pack Checkout order is missing" } })

/-! ## Process -/

/-- The handlers of the other Events. -/
abbrev Handlers := Config → Tx → Billing → Event → Transaction Effect

/-- `#dispatch`. -/
def dispatch (handlers : Handlers) (cfg : Config) (tx : Tx) (b : Billing) (e : Event) :
    Transaction Effect :=
  match e.kind with
  | .checkoutSessionCompleted | .checkoutSessionExpired =>
      (packCheckoutEvent cfg b e).getD (handlers cfg tx b e)
  | .unsupported => pure { billing := b, result := {
      outcome := .ignored
      reason := some "event type is outside the reference contract" } }
  | _ => handlers cfg tx b e

/-- `eventShapeError` past the identifiers, for a supported type. -/
def eventShapeError (e : Event) : Option String :=
  if e.kind = .unsupported then none
  else if !(stripeNonnegativeInteger e.created).any (· ≤ postgresBigintMax) then
    some "supported Stripe Event requires a PostgreSQL-bigint created timestamp"
  else if e.livemode.asBool.isNone then
    some "supported Stripe Event requires a boolean livemode value"
  else if !e.data.isObj then
    some "supported Stripe Event requires a data object"
  else if !e.object.isObj then
    some "supported Stripe Event requires data.object to be an object"
  else if !(e.object.get "id").asStr.any (· ≠ "") then
    some "supported Stripe Event object requires a stable string id"
  else none

/-- The endpoint contract an Event from outside must meet. -/
def contractMismatch (cfg : Config) (e : Event) : Option String :=
  if e.remoteVerified then none
  else if e.livemode.asBool ≠ some cfg.expectedLivemode then
    some "event livemode does not match the configured Stripe key mode"
  else if cfg.expectedApiVersion.any fun v => e.apiVersion.asStr ≠ some v then
    some "event API version does not match the pinned webhook endpoint"
  else none

/-- What a claimed Event does. -/
def processClaimed (handlers : Handlers) (cfg : Config) (tx : Tx) (b : Billing) (e : Event) :
    Transaction Effect :=
  let ignored (kind : IncidentKind) (reason : String) : Effect := {
    billing := b
    incidents := [.observe kind e.idText none none]
    result := { outcome := .ignored, reason := some reason } }
  match eventShapeError e with
  | some reason => pure (ignored .invalidEventShape reason)
  | none =>
      match contractMismatch cfg e with
      | some reason => pure (ignored .webhookContractMismatch reason)
      | none => dispatch handlers cfg tx b e

/-- `EventProcessor.process`. -/
def process (handlers : Handlers) (cfg : Config) : Tx → Db → Event → Transaction (Db × ProcessResult) :=
  processBy cfg (processClaimed handlers cfg)

end TypeScript

/-! ## The runtimes -/

def pythonReconciler (cfg : Config) (digest : String → String) (className : Failure → String) :
    ReconcilerRuntime where
  cfg := cfg
  integer := Json.asInt
  hashes := true
  noneText := "None"
  digest := digest
  className := className
  process := process cfg

def TypeScript.reconciler (handlers : TypeScript.Handlers) (cfg : Config)
    (digest : String → String) (className : Failure → String) : ReconcilerRuntime where
  cfg := cfg
  integer := TypeScript.safeInteger
  hashes := false
  noneText := "null"
  digest := digest
  className := className
  process := TypeScript.process handlers cfg

end StripeEntitlements
