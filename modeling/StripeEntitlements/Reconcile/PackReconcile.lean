import StripeEntitlements.Checkout.Desk

/-!
# The Pack Reconciler

`pack_reconcile.py`: a worker leases one pack order, asks Stripe about it, projects what it
learned as synthetic Events and finishes. Claiming, every renewal, every projection and
finishing are transactions of their own, with any delay between them.
-/

namespace StripeEntitlements

open Relational

/-- `CreditPackReconciliationService.__init__`: intervals inside their safe bounds. -/
structure PackReconciler where
  lease : Int
  pendingInterval : Int
  paidInterval : Int
  lease_bound : 0 < lease ∧ lease ≤ 3600 * 1000000
  pending_bound : 0 < pendingInterval ∧ pendingInterval ≤ dayMicros
  paid_bound : 0 < paidInterval ∧ paidInterval ≤ 30 * dayMicros

/-- `CreditPackReconcileClaim`: the order as it was leased. -/
structure CreditPackReconcileClaim where
  orderId : String
  accountId : String
  token : String
  checkoutStatus : CheckoutStatus
  paymentStatus : PaymentStatus
  sessionId : Option String
  paymentIntentId : Option String
  chargeId : Option String
  accountCustomerId : Option String
  orderCustomerId : Option String
  requestCustomerId : Option String
  packKey : String
  packCredits : Nat
  priceAmount : Nat
  currency : String
  expiresDays : Nat
  lookupKey : String
  amountPaid : Option Nat
  amountRefunded : Nat
  deriving DecidableEq, Repr

/-- `_claim`: the leased row beside the Customer of its account. -/
def reconcileClaim (row : PackOrder) (token : String) (account : Account) :
    CreditPackReconcileClaim where
  orderId := row.id
  accountId := row.accountId
  token := token
  checkoutStatus := row.checkoutStatus
  paymentStatus := row.paymentStatus
  sessionId := row.stripeCheckoutSessionId
  paymentIntentId := row.stripePaymentIntentId
  chargeId := row.stripeChargeId
  accountCustomerId := account.stripeCustomerId
  orderCustomerId := row.stripeCustomerId
  requestCustomerId := row.requestCustomerId
  packKey := row.packKey
  packCredits := row.packCredits
  priceAmount := row.priceAmount
  currency := row.currency
  expiresDays := row.expiresDays
  lookupKey := row.priceLookupKey
  amountPaid := row.amountPaid
  amountRefunded := row.amountRefunded

/-! ## Claiming -/

/-- `reconcile_claim_token is null or reconcile_claim_expires_at <= clock_timestamp()`. -/
def PackOrder.leaseFree (wall : Int) (o : PackOrder) : Bool :=
  o.reconcileClaimToken.isNone || o.reconcileClaimExpiresAt.any (· ≤ wall)

/-- The token and the deadline a lease writes. -/
def PackOrder.leased (token : String) (expiresAt : Int) (o : PackOrder) : PackOrder :=
  { o with reconcileClaimToken := some token, reconcileClaimExpiresAt := some expiresAt }

/-- An order that is due: its cash is not settled, nobody holds it, and the last attempt is
    old enough. -/
def PackReconciler.due (r : PackReconciler) (tx : Tx) (b : Billing) (o : PackOrder) : Bool :=
  (match o.paymentStatus with
    | .pending | .paid | .partiallyRefunded => true
    | .refunded | .disputed => (lotOfOrder b o.id).isNone) &&
  o.leaseFree tx.wall &&
  o.lastReconciledAt.all fun last =>
    last < tx.wall - if o.paymentStatus = .pending then r.pendingInterval else r.paidInterval

/-- Orders never reconciled first, then the oldest attempt, pending orders before others. -/
def reconcileKey (o : PackOrder) : WithBot Int ×ₗ Nat ×ₗ String :=
  toLex (o.lastReconciledAt, toLex (if o.paymentStatus = .pending then 0 else 1, o.id))

/-- Lease one order and read it with its account. -/
def PackReconciler.leaseOrder (r : PackReconciler) (tx : Tx) (b : Billing) (token : String)
    (o : PackOrder) : Transaction (Billing × Option CreditPackReconcileClaim) := do
  let b ← b.update o.id (PackOrder.leased token (tx.wall + r.lease))
  pure (b, (b.accounts.find? o.accountId).map (reconcileClaim o token))

/-- `_claim_next`; `locked` are the orders that `skip locked` passes over. -/
def PackReconciler.claimNext (r : PackReconciler) (tx : Tx) (b : Billing) (token : String)
    (locked : String → Bool) : Transaction (Billing × Option CreditPackReconcileClaim) :=
  let candidates := b.orders.select fun o => r.due tx b o && !locked o.id
  match (Table.orderBy reconcileKey candidates).head? with
  | none => pure (b, none)
  | some o => r.leaseOrder tx b token o

/-- `_claim_order`. -/
def PackReconciler.claimOrder (r : PackReconciler) (tx : Tx) (b : Billing) (token orderId : String) :
    Transaction (Billing × Option CreditPackReconcileClaim) :=
  match ((canonicalUuid orderId).bind b.orders.find?).filter (PackOrder.leaseFree tx.wall) with
  | none => pure (b, none)
  | some o => r.leaseOrder tx b token o

/-! ## The transactions of a worker -/

namespace CreditPackReconcileClaim

/-- The row the worker still holds: its token, unexpired. -/
def holds (claim : CreditPackReconcileClaim) (wall : Int) (o : PackOrder) : Bool :=
  o.id = claim.orderId && o.reconcileClaimToken = some claim.token &&
    o.reconcileClaimExpiresAt.any (wall < ·)

/-- `_renew`; the answer says whether the lease was still held. -/
def renew (claim : CreditPackReconcileClaim) (r : PackReconciler) (tx : Tx) (b : Billing) :
    Transaction (Billing × Bool) := do
  let renewed := b.orders.rows.any (claim.holds tx.wall)
  let b ← b.updateWhere (claim.holds tx.wall) fun o : PackOrder =>
    { o with reconcileClaimExpiresAt := some (tx.wall + r.lease) }
  pure (b, renewed)

/-- `_finish`. -/
def finish (claim : CreditPackReconcileClaim) (tx : Tx) (b : Billing) (errorCode : Option String) :
    Transaction (Billing × Bool) := do
  let finished := b.orders.rows.any (claim.holds tx.wall)
  let b ← b.updateWhere (claim.holds tx.wall) fun o : PackOrder =>
    { o with
      reconcileClaimToken := none
      reconcileClaimExpiresAt := none
      lastReconciledAt := some tx.wall
      lastReconcileError := errorCode }
  pure (b, finished)

end CreditPackReconcileClaim

/-- What a worker learned from Stripe. -/
structure SyntheticFact where
  eventId : String
  eventType : String
  created : Int
  obj : List (String × Json)

/-- `_event`: a synthetic Event under the lease of its worker. -/
def CreditPackReconcileClaim.event (claim : CreditPackReconcileClaim) (cfg : Config)
    (fact : SyntheticFact) : Event where
  id := .str fact.eventId
  type := .str fact.eventType
  created := .int fact.created
  livemode := .bool cfg.expectedLivemode
  data := .obj [("object", .obj fact.obj)]
  remoteVerified := true
  packClaim := .obj [
    ("order_id", .str claim.orderId),
    ("account_id", .str claim.accountId),
    ("token", .str claim.token)]

/-- The transactions of `_reconcile_claim`. Which of them a worker takes, and when, depends
    on Stripe; a crashed worker takes none. -/
inductive WorkerAct where
  | renew
  | project (fact : SyntheticFact)
  | finish (errorCode : Option String)

/-- One transaction of the worker that holds `claim`. -/
def WorkerAct.run (act : WorkerAct) (cfg : Config) (r : PackReconciler) (tx : Tx) (db : Db)
    (claim : CreditPackReconcileClaim) : Transaction Db :=
  match act with
  | .renew => do
      let (b, _) ← claim.renew r tx db.billing
      pure { db with billing := b }
  | .project fact => do
      let (db, _) ← process cfg tx db (claim.event cfg fact)
      pure db
  | .finish errorCode => do
      let (b, _) ← claim.finish tx db.billing errorCode
      pure { db with billing := b }

end StripeEntitlements
