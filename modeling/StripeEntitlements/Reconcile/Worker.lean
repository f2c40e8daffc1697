import StripeEntitlements.Reconcile.RemoteFacts

/-!
# A Reconciliation Run

`_reconcile_claim`: the worker that holds the lease of one pack order asks Stripe about the
Session, the PaymentIntent and the Charge, projects what it learned, and finishes. Each
transaction is one step of its clock; what it did before it raised stays.

## Main definitions

- `Worker` — the steps of a worker
- `reconcileBody` — the `try` block of `_reconcile_claim`
- `reconcileRun` — the run with its `except` clauses
-/

namespace StripeEntitlements

open Relational

/-! ## The steps of a worker -/

/-- What a worker raises. -/
inductive WorkerFailure where
  /-- `_LeaseLost`. -/
  | leaseLost
  /-- Any other exception, by what `_error_code` says of it. -/
  | failed (errorCode : String)
  deriving DecidableEq, Repr

/-- The database, the transactions so far, and the projections so far. -/
structure WorkerState where
  db : Db
  step : Nat := 0
  projections : List ProcessResult := []

/-- A part of the run; a failure leaves the state it was raised in. -/
abbrev Worker := StateT WorkerState (Except (WorkerFailure × WorkerState))

namespace Worker

variable {α : Type}

def raise (failure : WorkerFailure) : Worker α := fun s => .error (failure, s)

/-- A validator of a remote object. -/
def validate (fact : Except String α) : Worker α := fun s =>
  match fact with
  | .ok a => .ok (a, s)
  | .error errorCode => .error (.failed errorCode, s)

end Worker

/-- `CreditPackReconciliationGateway`: what Stripe answers, or the class of the exception. -/
structure RemoteGateway where
  session : String → Except String Json
  paymentIntent : String → Except String Json
  charge : String → Except String Json

/-- A worker: its settings, its gateway, and when its transactions run. -/
structure PackWorker where
  rt : ReconcilerRuntime
  reconciler : PackReconciler
  gateway : RemoteGateway
  clock : Nat → Tx

namespace PackWorker

variable {α : Type} (w : PackWorker)

/-- One transaction of the worker. -/
def transaction (run : Tx → Db → Transaction (Db × α)) : Worker α := fun s =>
  match run (w.clock s.step) s.db with
  | .ok (db, a) => .ok (a, { s with db, step := s.step + 1 })
  | .error failure => .error (.failed (w.rt.className failure), { s with step := s.step + 1 })

/-- `if not await self._renew(claim): raise _LeaseLost`. -/
def renew (claim : CreditPackReconcileClaim) : Worker Unit := do
  let held ← w.transaction fun tx db => do
    let (billing, held) ← claim.renew w.reconciler tx db.billing
    pure ({ db with billing }, held)
  if held then pure () else Worker.raise .leaseLost

/-- `_remote`. -/
def remote (claim : CreditPackReconcileClaim) (answer : Except String Json) : Worker Json := do
  w.renew claim
  let value ← Worker.validate answer
  w.renew claim
  pure value

/-- `_finish`. -/
def finish (claim : CreditPackReconcileClaim) (errorCode : Option String) : Worker Bool :=
  w.transaction fun tx db => do
    let (billing, finished) ← claim.finish tx db.billing errorCode
    pure ({ db with billing }, finished)

/-- `_fact_event_id`. -/
def factEventId (kind : String) (identity : List String) : String :=
  let fingerprint := w.rt.digest ("\x1f".intercalate identity)
  s!"reconcile:credit-pack:{kind}:{fingerprint}"

/-- A nullable identity as text. -/
def identityText (value : Option String) : String := value.getD w.rt.noneText

/-- The outcome of an Event in the inbox settles it. -/
def settledOutcome (outcome : EventOutcome) : Bool := outcome = .handled || outcome = .replayed

/-- `_project`, which appends to the projections. -/
def project (claim : CreditPackReconcileClaim) (fact : SyntheticFact) : Worker Unit := do
  w.renew claim
  let result ← w.transaction fun tx db => w.rt.process tx db (claim.event w.rt.cfg fact)
  let prior ← fun s => .ok (s.db.inbox.find? fact.eventId, s)
  if result.outcome = .ignored && result.reason = some "credit-pack reconciliation lease lost" then
    Worker.raise .leaseLost
  else if settledOutcome result.outcome ||
      (result.outcome = .duplicate && prior.any fun row => settledOutcome row.outcome) then
    modify fun s => { s with projections := s.projections ++ [result] }
  else
    Worker.raise (.failed "CreditPackProjectionError")

/-! ## The facts that are projected -/

/-- The members of a retrieved object. -/
def rawMembers : Json → List (String × Json)
  | .obj members => members
  | _ => []

def checkoutFact (claim : CreditPackReconcileClaim) (session : SessionFact) : SyntheticFact where
  eventId := w.factEventId "checkout" [claim.orderId, w.identityText claim.sessionId,
    session.status, w.identityText session.paymentIntentId]
  eventType := if session.status = "complete" then "checkout.session.completed"
    else "checkout.session.expired"
  created := session.created
  obj := rawMembers session.raw

def paymentFact (claim : CreditPackReconcileClaim) (paymentIntentId : String)
    (paymentIntent : PaymentIntentFact) (charge : Option ChargeFact) : SyntheticFact where
  eventId := w.factEventId "payment" [claim.orderId, paymentIntentId,
    w.identityText paymentIntent.chargeId]
  eventType := "payment_intent.succeeded"
  created := (charge.map ChargeFact.created).getD paymentIntent.created
  obj := rawMembers paymentIntent.raw

def clawbackFact (claim : CreditPackReconcileClaim) (paymentIntentId chargeId : String)
    (paymentIntent : PaymentIntentFact) (charge : ChargeFact) : SyntheticFact :=
  if charge.disputed then
    let identity := "\x1f".intercalate [claim.orderId, paymentIntentId, chargeId]
    { eventId := w.factEventId "dispute" [claim.orderId, paymentIntentId, chargeId]
      eventType := "charge.dispute.created"
      created := charge.created
      obj := [
        ("id", .str ("dp_reconcile_" ++ String.ofList ((w.rt.digest identity).toList.take 32))),
        ("object", .str "dispute"),
        ("charge", .str chargeId),
        ("amount", .int claim.priceAmount),
        ("currency", .str claim.currency),
        ("_resolved_charge", charge.raw),
        ("_resolved_payment_intent", paymentIntent.raw)] }
  else
    { eventId := w.factEventId "refund" [claim.orderId, paymentIntentId, chargeId,
        toString charge.amountRefunded]
      eventType := "charge.refunded"
      created := charge.created
      obj := rawMembers charge.raw ++ [("_resolved_payment_intent", paymentIntent.raw)] }

/-! ## Retrieving -/

/-- The Session of the order, if it has one. -/
def retrieveSession (claim : CreditPackReconcileClaim) : Worker (Option SessionFact) :=
  match claim.sessionId with
  | none => pure none
  | some sessionId => do
      let value ← w.remote claim (w.gateway.session sessionId)
      let session ← Worker.validate (validateSession w.rt claim value)
      pure (some session)

/-- The Charge of a PaymentIntent, if it has one. -/
def retrieveCharge (claim : CreditPackReconcileClaim) (paymentIntentId customerId : String)
    (chargeId : Option String) : Worker (Option (String × ChargeFact)) :=
  match chargeId with
  | none => pure none
  | some chargeId => do
      let value ← w.remote claim (w.gateway.charge chargeId)
      let charge ← Worker.validate
        (validateCharge w.rt claim value chargeId paymentIntentId customerId)
      pure (some (chargeId, charge))

/-- What is known of the payment of an order. -/
structure PaymentFacts where
  paymentIntentId : String
  paymentIntent : PaymentIntentFact
  charge : Option (String × ChargeFact)

/-- The PaymentIntent of the order or of its Session, if there is one. -/
def retrievePayment (claim : CreditPackReconcileClaim) (session : Option SessionFact) :
    Worker (Option PaymentFacts) :=
  match claim.paymentIntentId.or (session.bind SessionFact.paymentIntentId) with
  | none => pure none
  | some paymentIntentId => do
      let value ← w.remote claim (w.gateway.paymentIntent paymentIntentId)
      let paymentIntent ← Worker.validate (validatePaymentIntent w.rt claim value paymentIntentId
        (session.bind SessionFact.customerId))
      Worker.validate (require
        (!(session.any fun s => s.paymentStatus = "paid") || paymentIntent.status = "succeeded")
        "checkout_payment_status_mismatch")
      let charge ← w.retrieveCharge claim paymentIntentId paymentIntent.customerId
        (claim.chargeId.or paymentIntent.chargeId)
      pure (some { paymentIntentId, paymentIntent, charge })

/-! ## The run -/

/-- The checkout fact of a Session that is no longer open. -/
def projectCheckout (claim : CreditPackReconcileClaim) (session : Option SessionFact) :
    Worker Unit :=
  match session with
  | some session =>
      if session.status = "complete" || session.status = "expired" then
        w.project claim (w.checkoutFact claim session)
      else pure ()
  | none => pure ()

/-- The payment fact of a succeeded PaymentIntent. -/
def projectPayment (claim : CreditPackReconcileClaim) (payment : Option PaymentFacts) :
    Worker Unit :=
  match payment with
  | some p =>
      if p.paymentIntent.status = "succeeded" then
        w.project claim
          (w.paymentFact claim p.paymentIntentId p.paymentIntent (p.charge.map Prod.snd))
      else pure ()
  | none => pure ()

/-- The refund or dispute of a Charge. -/
def projectClawback (claim : CreditPackReconcileClaim) (payment : Option PaymentFacts) :
    Worker Unit :=
  match payment.bind fun p => p.charge.map fun c => (p, c) with
  | some (p, chargeId, charge) =>
      if charge.disputed || 0 < charge.amountRefunded then
        w.project claim
          (w.clawbackFact claim p.paymentIntentId chargeId p.paymentIntent charge)
      else pure ()
  | none => pure ()

inductive ReconcileOutcome where
  | reconciled | idle | failed | lostLease
  deriving DecidableEq, Repr

/-- `CreditPackReconcileResult`. -/
structure ReconcileResult where
  outcome : ReconcileOutcome
  projections : List ProcessResult
  errorCode : Option String
  deriving DecidableEq, Repr

/-- The `try` block of `_reconcile_claim`. -/
def reconcileBody (claim : CreditPackReconcileClaim) : Worker ReconcileResult := do
  let session ← w.retrieveSession claim
  let payment ← w.retrievePayment claim session
  w.projectCheckout claim session
  w.projectPayment claim payment
  w.projectClawback claim payment
  let projections ← fun s => .ok (s.projections, s)
  let idleCode :=
    if projections.isEmpty && claim.checkoutStatus = .reserved && claim.sessionId.isNone &&
        claim.paymentIntentId.isNone && claim.chargeId.isNone then
      some "checkout_replay_required"
    else none
  let finished ← w.finish claim idleCode
  if finished then
    pure { outcome := if projections.isEmpty then .idle else .reconciled
           projections, errorCode := idleCode }
  else
    Worker.raise .leaseLost

/-- `_reconcile_claim`; only the write that records a failure can raise. -/
def reconcileRun (claim : CreditPackReconcileClaim) (db : Db) :
    Except (WorkerFailure × WorkerState) (ReconcileResult × WorkerState) :=
  let lost (s : WorkerState) : ReconcileResult :=
    { outcome := .lostLease, projections := s.projections, errorCode := some "lease_lost" }
  match w.reconcileBody claim { db } with
  | .ok (result, s) => .ok (result, s)
  | .error (.leaseLost, s) => .ok (lost s, s)
  | .error (.failed errorCode, s) => do
      let (finished, s) ← w.finish claim (some errorCode) s
      if finished then
        .ok ({ outcome := .failed, projections := s.projections
               errorCode := some errorCode }, s)
      else
        .ok (lost s, s)

end PackWorker

end StripeEntitlements
