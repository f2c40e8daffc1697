import StripeEntitlements.Checkout.Desk

/-!
# The Checkout Coordinators

`CheckoutCoordinator` of `checkout.py` and `CreditPackCoordinator` of `credit_packs.py`: a
reservation under the account lock, the frozen request, the attached Session and the release
of a reservation that Stripe never saw. Each is a transaction of its own.
-/

namespace StripeEntitlements

open Relational

/-- `_validate_session_identity` and `_safe_session_url`: an HTTPS URL without credentials. -/
def safeSessionUrl (u : Unicode) (url : String) : Bool :=
  let chars := url.toList
  let netloc := (chars.drop 8).takeWhile fun c => c ≠ '/' && c ≠ '?' && c ≠ '#'
  u.visible 2048 url && (chars.take 8).map Char.toLower = "https://".toList &&
    netloc ≠ [] && !netloc.contains '@'

/-- An order that may still become the first payment of its account. -/
def PackOrder.openAt (now : Int) (o : PackOrder) : Bool :=
  o.paymentStatus = .pending && o.checkoutStatus ≠ .expired && now < o.claimExpiresAt

/-- `select exists(select 1 from credit_pack_orders …)` of both coordinators. -/
def Billing.openPackOrder (b : Billing) (accountId : String) (now : Int) : Bool :=
  b.orders.rows.any fun o => o.accountId = accountId && o.openAt now

/-! ## Subscription Checkout -/

structure CheckoutRequest where
  accountId : String
  planKey : String
  interval : String
  requestKey : Option String
  ttl : Int

/-- The checks of `reserve` before it opens a transaction: the interval and the key of the
    request. -/
def CheckoutRequest.checked (req : CheckoutRequest) (u : Unicode) (token : String) :
    Transaction (Interval × String) := do
  require (0 < req.ttl) (.valueError "Checkout claim TTL must be positive")
  require (u.visible 64 req.planKey)
    (.valueError "plan_key must contain 1 to 64 visible UTF-8 bytes without padding")
  require (!req.planKey.toList.contains '_')
    (.valueError "plan_key cannot contain an underscore")
  let interval ← fetch (Interval.parse req.interval)
    (.valueError "interval must be month or year")
  match req.requestKey with
  | none => pure (interval, token)
  | some key => do
      require (u.visible 200 key)
        (.valueError "request_key must contain 1 to 200 visible UTF-8 bytes without padding")
      pure (interval, key)

/-- `CheckoutCoordinator.reserve`; the reservation is the row of the claim. -/
def reserveCheckout (u : Unicode) (tx : Tx) (b : Billing) (token : String)
    (req : CheckoutRequest) : Transaction (Billing × CheckoutClaim) := do
  let (interval, requestKey) ← req.checked u token
  let account ← fetch (b.accounts.find? req.accountId) (.keyError "billing account not found")
  require (account.stripeSubscriptionId.isNone && account.subscriptionStatus ≠ .active &&
      account.subscriptionStatus ≠ .pastDue)
    (.checkoutActiveSubscription "an existing subscription must use the plan-change API")
  require (account.stripeCustomerId.isSome || !b.openPackOrder account.id tx.wall)
    (.checkoutBusy "the first Stripe Customer Checkout is already in progress")
  match (b.claims.find? account.id).filter (tx.wall < ·.expiresAt) with
  | some existing => do
      require (existing.clientRequestKey = some requestKey && existing.planKey = req.planKey &&
          existing.planInterval = interval)
        (.checkoutBusy "an unexpired Checkout claim already exists")
      pure (b, existing)
  | none => do
      let claim : CheckoutClaim := {
        accountId := account.id
        claimToken := token
        planKey := req.planKey
        planInterval := interval
        requestCustomerId := account.stripeCustomerId
        expiresAt := tx.wall + req.ttl
        clientRequestKey := some requestKey
        requestSnapshotVersion := some 0 }
      let b := { b with claims := b.claims.deleteWhere (·.accountId = account.id) }
      let b ← b.insert claim
      pure (b, claim)

/-- The row of the reservation: `account_id = … and claim_token = …`. -/
def CheckoutClaim.owns (reservation c : CheckoutClaim) : Bool :=
  c.accountId = reservation.accountId && c.claimToken = reservation.claimToken

/-- `CheckoutCoordinator.freeze_request_snapshot`: the first snapshot wins. -/
def freezeCheckout (b : Billing) (reservation : CheckoutClaim) (snapshot : String) :
    Transaction (Billing × String) := do
  let b ← b.updateWhere
    (fun c : CheckoutClaim => reservation.owns c && c.requestSnapshotVersion = some 0 &&
      c.stripeRequestSnapshot.isNone)
    fun c => { c with requestSnapshotVersion := some 1, stripeRequestSnapshot := some snapshot }
  let frozen ← fetch ((b.claims.rows.find? reservation.owns).filter
      (·.requestSnapshotVersion = some 1) >>= CheckoutClaim.stripeRequestSnapshot)
    (.checkoutReplayUnsafe "Checkout request snapshot could not be frozen safely")
  pure (b, frozen)

/-- `CheckoutCoordinator.attach_session`; the answer says whether the claim was still there. -/
def attachSession (u : Unicode) (b : Billing) (reservation : CheckoutClaim)
    (sessionId sessionUrl : String) : Transaction (Billing × Bool) := do
  require (u.visible 255 sessionId)
    (.valueError "Checkout Session id must contain 1 to 255 visible UTF-8 bytes without padding")
  require (safeSessionUrl u sessionUrl)
    (.valueError "Checkout Session URL must be an origin-safe HTTPS URL")
  let frozen (c : CheckoutClaim) : Bool := reservation.owns c &&
    c.requestSnapshotVersion = some 1 && c.stripeRequestSnapshot.isSome
  let attached := b.claims.rows.any frozen
  let b ← b.updateWhere frozen fun c =>
    { c with sessionId := some sessionId, sessionUrl := some sessionUrl }
  pure (b, attached)

/-- `CheckoutCoordinator.release`: only a claim that Stripe never saw. -/
def releaseCheckout (b : Billing) (reservation : CheckoutClaim) : Billing × Bool :=
  let unsent (c : CheckoutClaim) : Bool := reservation.owns c &&
    c.requestSnapshotVersion = some 0 && c.stripeRequestSnapshot.isNone && c.sessionId.isNone
  ({ b with claims := b.claims.deleteWhere unsent }, b.claims.rows.any unsent)

/-! ## Pack Checkout -/

/-- One offering of the catalog. -/
structure CreditPack where
  key : String
  credits : Nat
  priceUsd : Nat
  currency : String := "usd"
  expiresDays : Nat
  deriving DecidableEq, Repr

def CreditPack.admissible (p : CreditPack) : Bool :=
  p.currency = "usd" && 0 < p.credits && 0 < p.priceUsd && 0 < p.expiresDays &&
    p.expiresDays ≤ 3650

/-- The packs of a catalog that `PlanCatalog.__init__` accepted. -/
structure PackCatalog where
  packs : List CreditPack
  lookupPrefix : String
  admissible : ∀ p ∈ packs, p.admissible = true
  keys_nodup : (packs.map CreditPack.key).Nodup

/-- `credit_pack_lookup_key`. -/
def PackCatalog.creditPackLookupKey (c : PackCatalog) (key : String) : Transaction String := do
  require (c.packs.any (·.key = key)) (.valueError s!"unknown credit pack '{key}'")
  pure s!"{c.lookupPrefix}_pack_{key}"

structure PackRequest where
  accountId : String
  pack : CreditPack
  requestKey : String
  ttl : Int

/-- The checks of `reserve` before it opens a transaction. -/
def PackRequest.checked (req : PackRequest) (u : Unicode) : Transaction Unit := do
  require (u.visible 200 req.requestKey)
    (.valueError "Idempotency-Key must contain 1 to 200 visible bytes without padding")
  require (0 < req.ttl && req.ttl ≤ 86340 * 1000000)
    (.valueError "credit-pack Checkout TTL must be within Stripe's 24-hour bound")

/-- The offering an order was reserved for. -/
def CreditPack.offers (p : CreditPack) (lookupKey : String) (o : PackOrder) : Bool :=
  o.packKey = p.key && o.packCredits = p.credits && o.priceAmount = p.priceUsd * 100 &&
    o.currency = p.currency && o.expiresDays = p.expiresDays && o.priceLookupKey = lookupKey

/-- `CreditPackCoordinator.reserve`; the reservation is the row of the order. -/
def reservePack (u : Unicode) (catalog : PackCatalog) (tx : Tx) (b : Billing) (orderId : String)
    (req : PackRequest) : Transaction (Billing × PackOrder) := do
  req.checked u
  let account ← fetch (b.accounts.find? req.accountId) (.keyError "billing account not found")
  match b.orders.rows.find? fun o =>
      o.accountId = account.id && o.clientIdempotencyKey = req.requestKey with
  | some existing => do
      let lookupKey ← catalog.creditPackLookupKey req.pack.key
      require (req.pack.offers lookupKey existing)
        (.creditPackConflict "Idempotency-Key was already used for a different credit pack")
      require (existing.checkoutStatus ≠ .expired)
        (.creditPackConflict
          "this credit-pack Checkout expired; start a new intent with a new Idempotency-Key")
      require (tx.wall < existing.claimExpiresAt)
        (.creditPackConflict <| "the safe same-key Checkout recovery window expired; operator " ++
          "reconciliation is required before starting a new intent")
      pure (b, existing)
  | none => do
      require (account.stripeCustomerId.isSome ||
          !(b.claims.rows.any fun c => c.accountId = account.id && tx.wall < c.expiresAt) &&
            !b.openPackOrder account.id tx.wall)
        (.creditPackBusy "the first Stripe Customer Checkout is already in progress")
      let lookupKey ← catalog.creditPackLookupKey req.pack.key
      let order : PackOrder := {
        id := orderId
        accountId := account.id
        clientIdempotencyKey := req.requestKey
        packKey := req.pack.key
        packCredits := req.pack.credits
        priceAmount := req.pack.priceUsd * 100
        currency := req.pack.currency
        expiresDays := req.pack.expiresDays
        priceLookupKey := lookupKey
        requestCustomerId := account.stripeCustomerId
        claimExpiresAt := tx.wall + req.ttl
        requestSnapshotVersion := some 0 }
      let b ← b.insert order
      pure (b, order)

/-- `CreditPackCoordinator.freeze_request_snapshot`. -/
def freezePack (b : Billing) (orderId snapshot : String) : Transaction (Billing × String) := do
  let b ← b.updateWhere
    (fun o : PackOrder => o.id = orderId && o.requestSnapshotVersion = some 0 &&
      o.stripeRequestSnapshot.isNone)
    fun o => { o with requestSnapshotVersion := some 1, stripeRequestSnapshot := some snapshot }
  let frozen ← fetch ((b.orders.find? orderId).filter (·.requestSnapshotVersion = some 1) >>=
      PackOrder.stripeRequestSnapshot)
    (.creditPackConflict "credit-pack Checkout request snapshot could not be frozen safely")
  pure (b, frozen)

/-- The attachment of `CreditPackCoordinator._execute_frozen`. -/
def attachPack (u : Unicode) (b : Billing) (orderId sessionId sessionUrl : String) :
    Transaction Billing := do
  require (u.visible 255 sessionId)
    (.valueError "Checkout Session id must contain 1 to 255 visible bytes without padding")
  require (safeSessionUrl u sessionUrl)
    (.valueError "Checkout Session URL must be an origin-safe HTTPS URL")
  let frozen (o : PackOrder) : Bool := o.id = orderId && o.requestSnapshotVersion = some 1 &&
    o.stripeRequestSnapshot.isSome && unboundOr o.stripeCheckoutSessionId (some sessionId)
  require (b.orders.rows.any frozen ||
      (b.orders.find? orderId).any (·.stripeCheckoutSessionId = some sessionId))
    (.runtimeError "credit-pack order changed during Checkout creation")
  b.updateWhere frozen fun o => {
    o with
    stripeCheckoutSessionId := o.stripeCheckoutSessionId.or (some sessionId)
    sessionUrl := some sessionUrl
    checkoutStatus := if o.checkoutStatus = .reserved then .sessionCreated else o.checkoutStatus }

end StripeEntitlements
