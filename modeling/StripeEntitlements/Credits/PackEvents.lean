import StripeEntitlements.Events

/-!
# Credit-Pack Events

`CreditPackEventProcessor`: a succeeded PaymentIntent funds one lot for its order, a
Checkout Session records identities, and cumulative Charge refunds or a dispute claw
atoms back, as pack debt where the product already spent them.
-/

namespace StripeEntitlements

open Relational

/-! ## Order identity -/

/-- `_stripe_integer` of this module: a non-negative integer. -/
def Json.asNat (value : Json) : Option Nat := (value.asInt.filter (0 ≤ ·)).map Int.toNat

structure PackIdentity where
  orderId : String
  accountId : String
  packKey : String
  deriving DecidableEq

/-- `_order_metadata`. -/
def packOrderMetadata (cfg : Config) (obj : Json) : Option PackIdentity := do
  let metadata := obj.get "metadata"
  guard ((metadata.get "billing_kind").asStr = some "credit_pack" &&
    (metadata.get "pack_schema_version").asStr = some "1" &&
    (metadata.get "product_line").asStr = some cfg.productLine)
  let orderId ← canonicalUuid (metadata.get "credit_pack_order_id").text
  let accountId ← canonicalUuid (metadata.get "account_id").text
  let packKey ← (metadata.get "pack_key").asStr
  pure { orderId, accountId, packKey }

/-- `_metadata_matches_order`: every metadata snapshot field equals the durable order. -/
def metadataMatchesOrder (cfg : Config) (obj : Json) (order : PackOrder) : Bool :=
  let metadata := obj.get "metadata"
  let expected := [
    ("billing_kind", "credit_pack"),
    ("pack_schema_version", "1"),
    ("product_line", cfg.productLine),
    ("credit_pack_order_id", order.id),
    ("account_id", order.accountId),
    ("pack_key", order.packKey),
    ("pack_credits", creditDecimal order.packCredits),
    ("price_amount", toString order.priceAmount),
    ("currency", order.currency),
    ("expires_days", toString order.expiresDays),
    ("lookup_key", order.priceLookupKey)]
  expected.all fun (key, value) => (metadata.get key).asStr = some value

/-- `_locked_order`. -/
def lockedOrder (b : Billing) (orderId accountId : String) : Option (Account × PackOrder) := do
  let order ← (b.orders.find? orderId).filter (·.accountId = accountId)
  let account ← b.accounts.find? accountId
  pure (account, order)

/-- `value in {None, expected}` for a nullable identity column. -/
def unboundOr (value expected : Option String) : Bool := value.isNone || value = expected

/-- `update billing_accounts set stripe_customer_id` of an account without one. -/
def bindCustomer (b : Billing) (account : Account) (customerId : Option String) :
    Transaction Billing :=
  if account.stripeCustomerId.isNone then
    b.update account.id fun a : Account => { a with stripeCustomerId := customerId }
  else
    pure b

/-! ## Payment -/

/-- What a PaymentIntent that matches its order says. -/
structure PackPayment where
  account : Account
  order : PackOrder
  paymentIntentId : String
  customerId : String
  chargeId : String
  amount : Nat
  paidAt : Int

/-- The guards of `payment_succeeded`. -/
def packPaymentGuards (cfg : Config) (b : Billing) (e : Event) : Guarded PackPayment := do
  let obj := e.object
  let u := cfg.unicode
  let unauthorized := "PaymentIntent is not an authorized credit-pack payment"
  let paymentIntentId? := u.stripeId (obj.get "id") "pi_"
  let identity ← fetch (packOrderMetadata cfg obj) <|
    match ((obj.get "metadata").get "billing_kind").asStr, paymentIntentId? with
    | some "credit_pack", some id =>
        Stop.ignored .creditPackPaymentMetadataInvalid id none none unauthorized
    | _, _ => Stop.dropped unauthorized none
  let paymentIntentId ← fetch paymentIntentId? (Stop.dropped unauthorized none)
  let (account, order) ← fetch (lockedOrder b identity.orderId identity.accountId) <|
    Stop.ignored .creditPackPaymentIdentityConflict paymentIntentId none none
      "credit-pack order identity is missing or conflicting"
  let mismatch := Stop.ignored .creditPackPaymentContractMismatch paymentIntentId none
    (some account.id) "credit-pack PaymentIntent does not match its order" none
  let customerId ← fetch (u.stripeId (obj.get "customer") "cus_") mismatch
  let chargeId ← fetch (u.stripeId (obj.get "latest_charge") "ch_") mismatch
  require ((obj.get "object").asStr = some "payment_intent" &&
    (obj.get "status").asStr = some "succeeded" &&
    (obj.get "amount").asNat = some order.priceAmount &&
    (obj.get "amount_received").asNat = some order.priceAmount &&
    (obj.get "currency").asStr = some order.currency &&
    identity.packKey = order.packKey &&
    metadataMatchesOrder cfg obj order &&
    unboundOr order.stripePaymentIntentId (some paymentIntentId) &&
    unboundOr order.stripeChargeId (some chargeId) &&
    unboundOr order.requestCustomerId (some customerId) &&
    unboundOr order.stripeCustomerId (some customerId) &&
    unboundOr account.stripeCustomerId (some customerId)) mismatch
  let created ← fetch e.created.asNat
    (Stop.dropped "credit-pack payment has no valid creation time" none)
  let paidAt ← fetch (timestamp (.int created))
    (Stop.raised (.valueError "timestamp out of range"))
  pure { account, order, paymentIntentId, customerId, chargeId, amount := order.priceAmount, paidAt }

def PackOrder.statusAfterPayment (o : PackOrder) : PaymentStatus :=
  if o.paymentStatus = .pending then .paid else o.paymentStatus

/-- Project the payment facts onto the order. -/
def PackPayment.projectOrder (p : PackPayment) (o : PackOrder) : PackOrder :=
  { o with
    stripePaymentIntentId := some p.paymentIntentId
    stripeChargeId := o.stripeChargeId.or (some p.chargeId)
    stripeCustomerId := some p.customerId
    amountPaid := some p.amount
    paymentStatus := p.order.statusAfterPayment
    paidAt := o.paidAt.or (some p.paidAt)
    checkoutStatus :=
      if o.stripeCheckoutSessionId.isNone then o.checkoutStatus
      else if o.checkoutStatus = .expired then o.checkoutStatus
      else .completed }

/-- One day in microseconds. -/
def dayMicros : Int := 86400 * 1000000

/-- The lot a payment funds: what earlier clawbacks left of the pack. -/
def PackPayment.lot (p : PackPayment) (tx : Tx) (lotId : String) : FundingLot :=
  let order := p.order
  let refundedAtoms := order.refundedCredits
  let remaining := order.packCredits - refundedAtoms
  let disputed := order.statusAfterPayment = .disputed
  let fundingTerminal := refundedAtoms = order.packCredits || disputed
  let expiresAt := p.paidAt + order.expiresDays * dayMicros
  let financiallyExpired := !fundingTerminal && expiresAt ≤ tx.wall
  { id := lotId
    orderId := order.id
    accountId := p.account.id
    originalCredits := order.packCredits
    remainingCredits := if !fundingTerminal && !financiallyExpired then remaining else 0
    expiredCredits := if financiallyExpired then remaining else 0
    cashClawedBackCredits := refundedAtoms
    expiresAt
    status :=
      if fundingTerminal then (if disputed then .disputed else .refunded)
      else if financiallyExpired then .expired else .active
    closedAt :=
      if fundingTerminal then some p.paidAt
      else if financiallyExpired then some tx.wall else none }

/-- Fund the lot of an order that has none. -/
def fundLot (tx : Tx) (b : Billing) (p : PackPayment) : Transaction Billing := do
  let lot := p.lot tx (tx.uuid b.lots.rows.length)
  let b ← b.insert lot
  if lot.status = .active && lot.remainingCredits ≠ 0 then do
    let (b, _) ← collectPackDebtsFromLot tx b p.account.id lot.id lot.remainingCredits
    pure b
  else
    pure b

/-- The effects of `payment_succeeded`. -/
def applyPackPayment (tx : Tx) (b : Billing) (p : PackPayment) : Transaction Effect := do
  let existingLot := lotOfOrder b p.order.id
  let b ← b.update p.order.id p.projectOrder
  let b ← bindCustomer b p.account (some p.customerId)
  if existingLot.isSome then
    pure { billing := b, result := {
      outcome := .replayed
      reason := some "credit-pack funding lot already exists"
      accountId := some p.account.id } }
  else do
    let b ← fundLot tx b p
    pure { billing := b, result := {
      outcome := .handled
      reason := some "credit-pack funding granted"
      accountId := some p.account.id } }

/-- `CreditPackEventProcessor.payment_succeeded`. -/
def paymentSucceeded (cfg : Config) (tx : Tx) (b : Billing) (e : Event) : Transaction Effect :=
  (packPaymentGuards cfg b e).andThen b (applyPackPayment tx b)

/-! ## Checkout -/

/-- The object, mode and status of the Session are the ones the Event type announces. -/
def packSessionOpening (e : Event) : Bool :=
  (e.object.get "object").asStr = some "checkout.session" &&
    (e.object.get "mode").asStr = some "payment" &&
    (e.object.get "status").asStr =
      some (if e.kind = .checkoutSessionExpired then "expired" else "complete")

/-- The Session matches the order it names. -/
def packSessionMatches (cfg : Config) (e : Event) (account : Account) (order : PackOrder) : Bool :=
  let obj := e.object
  let paymentStatus := (obj.get "payment_status").asStr
  packSessionOpening e &&
    (paymentStatus = some "unpaid" ||
      (e.kind ≠ .checkoutSessionExpired && paymentStatus = some "paid")) &&
    (obj.get "client_reference_id").asStr = some account.id &&
    (obj.get "amount_total").asNat = some order.priceAmount &&
    (obj.get "currency").asStr = some order.currency &&
    packOrderMetadata cfg obj = some ⟨order.id, account.id, order.packKey⟩ &&
    metadataMatchesOrder cfg obj order &&
    unboundOr order.requestCustomerId (cfg.unicode.stripeId (obj.get "customer") "cus_")

/-- The guards of a pack Checkout Event that found its order. -/
def packCheckoutGuards (cfg : Config) (b : Billing) (e : Event) (sessionId : String)
    (order : PackOrder) : Guarded Account := do
  let account ← fetch (b.accounts.find? order.accountId)
    (Stop.raised (.runtimeError "credit-pack order account is missing"))
  require (unboundOr order.stripeCheckoutSessionId (some sessionId))
    (Stop.dropped "credit-pack Checkout Session identity is conflicting" none)
  -- `payment_status in {…}` hashes the value
  require (!packSessionOpening e || (e.object.get "payment_status").hashable)
    (Stop.raised (.typeError (e.object.get "payment_status").unhashableType))
  require (packSessionMatches cfg e account order)
    (Stop.ignored .creditPackCheckoutContractMismatch sessionId none (some account.id)
      "credit-pack Checkout contract is conflicting" none)
  pure account

/-- Attach the Session to an order reserved without one. -/
def attachPackSession (b : Billing) (order : PackOrder) (sessionId : String) :
    Transaction Billing :=
  if order.stripeCheckoutSessionId.isNone then
    b.update order.id fun o : PackOrder =>
      { o with stripeCheckoutSessionId := some sessionId, checkoutStatus := .sessionCreated }
  else
    pure b

/-- `checkout.session.expired` of a pack order. -/
def expirePackCheckout (b : Billing) (account : Account) (order : PackOrder) :
    Transaction Effect := do
  let b ← if order.paymentStatus = .pending then
      b.update order.id fun o : PackOrder =>
        { o with checkoutStatus := .expired, sessionUrl := none }
    else
      pure b
  pure { billing := b, result := {
    outcome := .handled
    reason := some "credit-pack Checkout expired"
    accountId := some account.id } }

/-- `checkout.session.completed` of a pack order: record the identities. -/
def completePackCheckout (cfg : Config) (b : Billing) (e : Event) (sessionId : String)
    (account : Account) (order : PackOrder) : Transaction Effect :=
  let paymentIntentId := cfg.unicode.stripeId (e.object.get "payment_intent") "pi_"
  let customerId := cfg.unicode.stripeId (e.object.get "customer") "cus_"
  if paymentIntentId.isNone || customerId.isNone ||
      !unboundOr order.stripePaymentIntentId paymentIntentId ||
      !unboundOr order.stripeCustomerId customerId ||
      !unboundOr account.stripeCustomerId customerId then
    pure {
      billing := b
      incidents := [.observe .creditPackCheckoutContractMismatch sessionId none (some account.id)]
      result := {
        outcome := .ignored
        reason := some "credit-pack Checkout identity is conflicting" } }
  else do
    let b ← b.updateWhere
      (fun o : PackOrder => o.id = order.id && unboundOr o.stripePaymentIntentId paymentIntentId)
      fun o =>
        { o with
          checkoutStatus := .completed
          stripePaymentIntentId := o.stripePaymentIntentId.or paymentIntentId
          stripeCustomerId := o.stripeCustomerId.or customerId }
    let b ← bindCustomer b account customerId
    pure { billing := b, result := {
      outcome := .handled
      reason := some "credit-pack Checkout recorded; payment webhook remains authoritative"
      accountId := some account.id } }

/-- `checkout_event` once the order is known. -/
def packCheckout (cfg : Config) (b : Billing) (e : Event) (sessionId : String)
    (order : PackOrder) : Transaction Effect :=
  (packCheckoutGuards cfg b e sessionId order).andThen b fun account => do
    let b ← attachPackSession b order sessionId
    if e.kind = .checkoutSessionExpired then
      expirePackCheckout b account order
    else
      completePackCheckout cfg b e sessionId account order

/-- `CreditPackEventProcessor.checkout_event`; `none` is not a pack Session. -/
def packCheckoutEvent (cfg : Config) (b : Billing) (e : Event) : Option (Transaction Effect) := do
  let sessionId ← cfg.unicode.stripeId (e.object.get "id") "cs_"
  match b.orders.rows.find? (·.stripeCheckoutSessionId = some sessionId) with
  | some order => some (packCheckout cfg b e sessionId order)
  | none => do
      let identity ← packOrderMetadata cfg e.object
      match (b.orders.find? identity.orderId).filter (·.accountId = identity.accountId) with
      | some order => some (packCheckout cfg b e sessionId order)
      | none => some (pure { billing := b, result := {
          outcome := .ignored, reason := some "credit-pack Checkout order is missing" } })

/-! ## Clawback -/

/-- What a Charge refund or dispute that matches its order says. -/
structure PackClawback where
  account : Account
  order : PackOrder
  dispute : Bool
  paymentIntentId : Option String
  chargeId : String
  customerId : String
  amount : Nat
  amountRefunded : Nat

/-- The dispute object agrees with its Charge. -/
def disputeContractMatches (cfg : Config) (raw charge : Json) (order : PackOrder)
    (chargeId : Option String) (amount : Nat) : Bool :=
  (cfg.unicode.stripeId (raw.get "id") "dp_").isSome &&
    (raw.get "object").asStr = some "dispute" &&
    cfg.unicode.stripeId (raw.get "charge") "ch_" = chargeId &&
    (raw.get "amount").asNat.any (fun disputed => 0 < disputed && disputed ≤ amount) &&
    (raw.get "currency").asStr = some order.currency &&
    (charge.get "disputed").isTrue

/-- The guards of `clawback` after the order identity. -/
def packClawbackGuards (cfg : Config) (b : Billing) (e : Event) (charge paymentIntent : Json)
    (identity : PackIdentity) : Guarded PackClawback := do
  let u := cfg.unicode
  let dispute := e.kind = .chargeDisputeCreated
  let (account, order) ← fetch (lockedOrder b identity.orderId identity.accountId)
    (Stop.dropped "credit-pack clawback order is missing" none)
  let paymentIntentId := u.stripeId (charge.get "payment_intent") "pi_"
  let chargeId? := u.stripeId (charge.get "id") "ch_"
  let customerId? := u.stripeId (charge.get "customer") "cus_"
  let mismatch := Stop.ignored .creditPackClawbackContractMismatch (chargeId?.getD e.idText) none
    (some account.id) "credit-pack clawback does not match its order" none
  let chargeId ← fetch chargeId? mismatch
  let customerId ← fetch customerId? mismatch
  let amount ← fetch (charge.get "amount").asNat mismatch
  let chargeAmountRefunded ← fetch (charge.get "amount_refunded").asNat mismatch
  let amountRefunded := if dispute then amount else chargeAmountRefunded
  require ((charge.get "object").asStr = some "charge" &&
    (charge.get "paid").isTrue &&
    amount = order.priceAmount &&
    amountRefunded ≤ amount &&
    chargeAmountRefunded ≤ amount &&
    (dispute || 0 < amountRefunded) &&
    (charge.get "refunded").asBool = some (decide (chargeAmountRefunded = amount)) &&
    (charge.get "disputed").asBool.isSome &&
    (charge.get "currency").asStr = some order.currency &&
    (paymentIntent.get "object").asStr = some "payment_intent" &&
    (paymentIntent.get "status").asStr = some "succeeded" &&
    u.stripeId (paymentIntent.get "customer") "cus_" = some customerId &&
    u.stripeId (paymentIntent.get "latest_charge") "ch_" = some chargeId &&
    (paymentIntent.get "amount").asNat = some amount &&
    (paymentIntent.get "amount_received").asNat = some amount &&
    (paymentIntent.get "currency").asStr = some order.currency &&
    metadataMatchesOrder cfg paymentIntent order &&
    (!dispute || disputeContractMatches cfg e.object charge order chargeId? amount) &&
    identity.packKey = order.packKey &&
    unboundOr order.stripePaymentIntentId paymentIntentId &&
    unboundOr order.stripeChargeId (some chargeId) &&
    unboundOr order.requestCustomerId (some customerId) &&
    unboundOr order.stripeCustomerId (some customerId) &&
    unboundOr account.stripeCustomerId (some customerId)) mismatch
  pure { account, order, dispute, paymentIntentId, chargeId, customerId, amount, amountRefunded }

namespace PackClawback

def targetCash (c : PackClawback) : Nat :=
  if c.dispute then c.amount else max c.order.amountRefunded c.amountRefunded

/-- The cumulative atoms clawed back, rounded up. -/
def targetAtoms (c : PackClawback) : Nat :=
  if c.dispute || c.amount ≤ c.targetCash then c.order.packCredits
  else (c.order.packCredits * c.targetCash + c.amount - 1) / c.amount

def cashStatus (c : PackClawback) : PaymentStatus :=
  if c.dispute then .disputed
  else if c.amount ≤ c.targetCash then .refunded else .partiallyRefunded

/-- Project the identities and cash facts onto the order. -/
def projectOrder (c : PackClawback) (o : PackOrder) : PackOrder :=
  { o with
    stripePaymentIntentId := o.stripePaymentIntentId.or c.paymentIntentId
    stripeChargeId := o.stripeChargeId.or (some c.chargeId)
    stripeCustomerId := o.stripeCustomerId.or (some c.customerId)
    amountPaid := some c.amount
    amountRefunded := c.targetCash
    paymentStatus := c.cashStatus }

end PackClawback

/-- The cash facts advanced without new atoms to claw back. -/
def advancePackCash (tx : Tx) (b : Billing) (c : PackClawback) : Transaction Effect :=
  if c.order.amountRefunded < c.targetCash || c.cashStatus ≠ c.order.paymentStatus then do
    let b ← b.update c.order.id c.projectOrder
    let b ← if c.dispute then
        b.updateWhere (fun l : FundingLot => l.orderId = c.order.id && l.remainingCredits = 0)
          fun l => { l with status := .disputed, closedAt := l.closedAt.or (some tx.now) }
      else
        pure b
    pure { billing := b, result := {
      outcome := .handled
      reason := some "credit-pack clawback cash facts advanced"
      accountId := some c.account.id } }
  else
    pure { billing := b, result := {
      outcome := .replayed
      reason := some "credit-pack clawback facts did not advance"
      accountId := some c.account.id } }

/-- A lot whose window has closed is expired before atoms are removed from it. -/
def expireClawbackLot (tx : Tx) (b : Billing) (lot : FundingLot) :
    Transaction (Billing × FundingLot) :=
  if lot.status = .active && lot.expiresAt ≤ tx.wall then do
    let b ← b.update lot.id (FundingLot.expire tx.now)
    pure (b, lot.expire tx.now)
  else
    pure (b, lot)

/-- Remove up to `delta` unspent atoms from the lot of the order. -/
def clawLot (tx : Tx) (b : Billing) (c : PackClawback) (lot : FundingLot) (delta : Nat) :
    Transaction (Billing × Nat) := do
  let (b, lot) ← expireClawbackLot tx b lot
  let remainingRemoved := if lot.status = .active then min delta lot.remainingCredits else 0
  let expiredRemoved := min (delta - remainingRemoved) lot.expiredCredits
  let removed := remainingRemoved + expiredRemoved
  let cashClawedBack ← checkedAddAtoms "cash-clawed-back pack credits"
    lot.cashClawedBackCredits removed
  let terminal := c.dispute || c.targetAtoms = c.order.packCredits
  let b ← b.update lot.id fun l : FundingLot =>
    { l with
      remainingCredits := l.remainingCredits - remainingRemoved
      expiredCredits := l.expiredCredits - expiredRemoved
      cashClawedBackCredits := cashClawedBack
      status := if terminal then (if c.dispute then .disputed else .refunded) else l.status
      closedAt := if terminal then some tx.now else l.closedAt }
  pure (b, removed)

/-- Book atoms the product already spent as pack debt. -/
def recordPackDebt (tx : Tx) (b : Billing) (c : PackClawback) (missing : Nat) :
    Transaction Billing :=
  if missing = 0 then
    pure b
  else match b.packDebts.find? c.order.id with
    | none => b.insert {
        orderId := c.order.id
        accountId := c.account.id
        targetCredits := missing
        createdAt := tx.wall : PackDebt }
    | some debt => do
        let target ← checkedAddAtoms "credit-pack clawback debt target" debt.targetCredits missing
        b.update c.order.id fun d : PackDebt => { d with targetCredits := target }

/-- Claw atoms back from the lot, and as debt; a clawback that arrives before the funding
    lot only lowers the later grant. -/
def clawFunding (tx : Tx) (b : Billing) (c : PackClawback) (delta : Nat) :
    Transaction (Billing × Nat) :=
  match lotOfOrder b c.order.id with
  | none => pure (b, 0)
  | some lot => do
      let (b, removed) ← clawLot tx b c lot delta
      let b ← recordPackDebt tx b c (delta - removed)
      pure (b, removed)

/-- The effects of `clawback`. -/
def applyPackClawback (tx : Tx) (b : Billing) (c : PackClawback) : Transaction Effect := do
  let b ← bindCustomer b c.account (some c.customerId)
  if c.targetAtoms ≤ c.order.refundedCredits then
    advancePackCash tx b c
  else do
    let (b, removed) ← clawFunding tx b c (c.targetAtoms - c.order.refundedCredits)
    let b ← b.update c.order.id fun o : PackOrder =>
      { c.projectOrder o with refundedCredits := c.targetAtoms }
    pure { billing := b, result := {
      outcome := .handled
      reason := some s!"credit-pack clawback removed {creditDecimal removed} credits"
      accountId := some c.account.id } }

/-- `CreditPackEventProcessor.clawback`; `none` is not a pack Charge. -/
def packClawback (cfg : Config) (tx : Tx) (b : Billing) (e : Event) :
    Option (Transaction Effect) := do
  let raw := e.object
  let charge := if e.kind = .chargeDisputeCreated then raw.get "_resolved_charge" else raw
  let paymentIntent := raw.get "_resolved_payment_intent"
  guard (charge.isObj && paymentIntent.isObj)
  let identity ← packOrderMetadata cfg paymentIntent
  guard (cfg.unicode.stripeId (charge.get "payment_intent") "pi_" =
    cfg.unicode.stripeId (paymentIntent.get "id") "pi_")
  some ((packClawbackGuards cfg b e charge paymentIntent identity).andThen b
    (applyPackClawback tx b))

end StripeEntitlements
