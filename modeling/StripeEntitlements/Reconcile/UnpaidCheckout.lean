import StripeEntitlements.Reconcile.Fencing
import StripeEntitlements.Reconcile.Projection
import StripeEntitlements.Snapshots.Codec

/-!
# Unpaid Checkouts Under Reconciliation

A worker that leased a pending order finds its Session expired and unpaid. The order expires
where the validators let the run come to the projection; they were written for the paid case,
and refuse a declined card, a PaymentIntent without a Customer and an account that found its
Customer elsewhere.

## Main results

- `reconcileBody_expired` — the run of an expired Session, step after step
- `unpaid_checkout_settles` — the unpaid outcomes that are settled
-/

namespace StripeEntitlements

open Relational

/-! ## Finishing -/

section

variable {w : PackWorker} {db : Db} {o : PackOrder} {claim : CreditPackReconcileClaim}
  {s : WorkerState} {eventId : String} {status : CheckoutStatus}

/-- What the run leaves. -/
structure Concluded (claim : CreditPackReconcileClaim) (eventId : String) (status : CheckoutStatus)
    (s : WorkerState) : Prop where
  row : ∃ row, s.db.billing.orders.find? claim.orderId = some row ∧ row.checkoutStatus = status
  inbox : ∃ row, s.db.inbox.find? eventId = some row ∧
    PackWorker.settledOutcome row.outcome = true

/-- **Finishing** in time releases the lease and keeps what was projected. The code that is
    recorded comes from the worker, so it fits its column. -/
theorem finish_projected (h : ProjectedExpiry w claim eventId status s) (errorCode : Option String)
    (hcode : errorCode.all (fun code => 1 ≤ code.length && code.length ≤ 255) = true) :
    ∃ s', w.finish claim errorCode s = .ok (true, s') ∧ Concluded claim eventId status s' := by
  obtain ⟨row, hrow, hstatus, hholds⟩ := h.row
  let released : PackOrder → PackOrder := fun o => { o with
    reconcileClaimToken := none
    reconcileClaimExpiresAt := none
    lastReconciledAt := some (w.clock s.step).wall
    lastReconcileError := errorCode }
  -- the lease of the projection lasts for one step, which is this one
  have hfinished : s.db.billing.orders.rows.any (claim.holds (w.clock s.step).wall) = true :=
    List.any_eq_true.2 ⟨_, Table.find?_mem hrow, hholds⟩
  -- the row without a lease meets its constraints, with the error code within its length
  have hcheck : ∀ o : PackOrder, claim.holds (w.clock s.step).wall o = true →
      Relation.check o = true → Relation.check (released o) = true := by
    intro o _ hcheck
    simp only [Relation.check, Bool.and_eq_true, decide_eq_true_eq] at hcheck ⊢
    exact ⟨⟨⟨hcheck.1.1.1, rfl⟩, hcode⟩, hcheck.2⟩
  -- and keeps its indexes
  have hindex : ∀ ix ∈ (Relation.indexes : List (PackOrder → Option (List String))), ∀ o,
      ix (released o) = ix o := by
    intro ix hix o
    simp only [Relation.indexes, List.mem_cons, List.not_mem_nil, or_false] at hix
    rcases hix with rfl | rfl | rfl | rfl <;> rfl
  obtain ⟨orders, hupdate, horders⟩ := updateHeld_isSome (b := s.db.billing) released
    (fun _ => rfl) hcheck hindex
  have hself := Table.find?_updateWhere horders (fun _ => rfl) claim.orderId
  rw [hrow, Option.map_some, if_pos hholds] at hself
  refine ⟨{ s with
    db := { s.db with billing := { s.db.billing with orders } }, step := s.step + 1 }, ?_,
    ⟨released row, hself, hstatus⟩, h.inbox⟩
  -- the update matches the row, so the worker is told that it finished
  have hfinish : claim.finish (w.clock s.step) s.db.billing errorCode =
      .ok ({ s.db.billing with orders }, true) := by
    show (s.db.billing.updateWhere (claim.holds (w.clock s.step).wall) released >>= fun b =>
      pure (b, s.db.billing.orders.rows.any (claim.holds (w.clock s.step).wall))) = _
    rw [hupdate, hfinished]
    rfl
  rw [PackWorker.finish, PackWorker.transaction, hfinish]
  rfl

end

/-! ## The run -/

/-- A pending order is leased, and for Stripe its Session is expired and unpaid, with a Customer
    that is compatible with the one of the request, and with no PaymentIntent or one that did not
    succeed. -/
structure UnpaidRun (w : PackWorker) (db : Db) (account : Account) (o : PackOrder)
    (token sessionId : String) (customerId : Option String) (payment : Option UnpaidPayment) :
    Prop where
  owner : db.billing.accounts.find? o.accountId = some account
  row : db.billing.orders.find? o.id = some o
  pending : o.paymentStatus = .pending
  session : o.stripeCheckoutSessionId = some sessionId
  canonical : (reconcileClaim o token account).Canonical
  -- the lease, from the first transaction to the last
  leased : o.reconcileClaimToken = some token
  deadline : o.reconcileClaimExpiresAt.any ((w.clock 0).wall < ·) = true
  steady : w.Steady
  -- what the languages document of texts and digests
  unicode : w.rt.cfg.unicode.Lawful
  digest : HexDigest w.rt.digest
  -- what Stripe answers
  expired : ∃ value created, w.gateway.session sessionId = .ok value ∧
    ExpiredSession w.rt (reconcileClaim o token account) sessionId (remoteCopy value) customerId
      (payment.map UnpaidPayment.id) created
  unpaid : ∀ p ∈ payment, p.Shown w (reconcileClaim o token account)

/-- The identities that the order and its account learned elsewhere do not stand in the way, and
    neither does the PaymentIntent. -/
structure ExpiryPasses (claim : CreditPackReconcileClaim) (customerId : Option String)
    (payment : Option UnpaidPayment) : Prop where
  paymentIntent : unboundOr claim.paymentIntentId (payment.map UnpaidPayment.id) = true
  orderCustomer : unboundOr claim.orderCustomerId customerId = true
  accountCustomer : unboundOr claim.accountCustomerId customerId = true
  payment : ∀ p ∈ payment, p.Passes claim customerId

section

variable {w : PackWorker} {db : Db} {account : Account} {o : PackOrder} {token sessionId : String}
  {customerId : Option String} {payment : Option UnpaidPayment}

theorem UnpaidRun.amountPaid (h : UnpaidRun w db account o token sessionId customerId payment) :
    o.amountPaid = none := by
  obtain ⟨-, -, -, -, hstatus⟩ :=
    PackOrder.cash_checked (db.billing.orders.valid.checked o (Table.find?_mem h.row))
  simp only [PackOrder.statusCheck, h.pending, Bool.and_eq_true, Option.isNone_iff_eq_none]
    at hstatus
  exact hstatus.1.1

theorem UnpaidRun.held (h : UnpaidRun w db account o token sessionId customerId payment) :
    Held w db o 1 { db } := by
  obtain ⟨deadline, hdeadline, hlater⟩ := (Option.any_eq_true _ _).1 h.deadline
  rw [decide_eq_true_eq] at hlater
  refine ⟨rfl, rfl, deadline, ?_, fun i hi => ?_⟩
  · have hsame : o.renewedUntil deadline = o := by
      rw [PackOrder.renewedUntil, ← hdeadline]
    rw [hsame]
    exact h.row
  · obtain rfl : i = 0 := by omega
    exact hlater

/-- The contract of the row that the worker finds is the one of its claim. -/
theorem UnpaidRun.order (h : UnpaidRun w db account o token sessionId customerId payment)
    (deadline : Int) :
    LeasedOrder (reconcileClaim o token account) account (o.renewedUntil deadline) where
  id := rfl
  owner := rfl
  account := Table.find?_key h.owner
  session := rfl
  request := rfl
  pending := h.pending
  packKey := rfl
  packCredits := rfl
  priceAmount := rfl
  currency := rfl
  expiresDays := rfl
  lookupKey := rfl

/-- What the handler of a runtime does with an expired Session of a leased order. -/
def Handles (rt : ReconcilerRuntime) (claimed : Tx → Billing → Event → Transaction Effect)
    (accepted : Bool) (claim : CreditPackReconcileClaim) (account : Account)
    (customerId paymentIntentId : Option String) : Prop :=
  ∀ {tx : Tx} {b : Billing} {row : PackOrder} {fact : SyntheticFact} {raw : Json}
    {sessionId : String} {created : Nat}, ExpiryFact fact raw created →
    ExpiredSession rt claim sessionId raw customerId paymentIntentId created →
    LeasedOrder claim account row → b.orders.find? row.id = some row →
    b.accounts.find? row.accountId = some account → claim.sessionId = some sessionId →
    if accepted then Expires b row (claimed tx b (claim.event rt.cfg fact))
    else Refuses (claimed tx b (claim.event rt.cfg fact))

/-- What follows the projections. -/
def PackWorker.finishRun (w : PackWorker) (claim : CreditPackReconcileClaim) :
    Worker PackWorker.ReconcileResult := do
  let projections ← fun s => .ok (s.projections, s)
  let idleCode :=
    if projections.isEmpty && claim.checkoutStatus = .reserved && claim.sessionId.isNone &&
        claim.paymentIntentId.isNone && claim.chargeId.isNone then
      some "checkout_replay_required"
    else none
  let finished ← w.finish claim idleCode
  if finished then
    pure { outcome := if projections.isEmpty then .idle else .reconciled
           projections, errorCode := idleCode }
  else
    Worker.raise .leaseLost

/-- What follows the retrieval. -/
def PackWorker.concludeRun (w : PackWorker) (claim : CreditPackReconcileClaim)
    (session : Option SessionFact) (payment : Option PackWorker.PaymentFacts) :
    Worker PackWorker.ReconcileResult :=
  w.projectCheckout claim session >>= fun _ => w.projectPayment claim payment >>= fun _ =>
    w.projectClawback claim payment >>= fun _ => w.finishRun claim

theorem reconcileBody_eq (claim : CreditPackReconcileClaim) :
    w.reconcileBody claim = w.retrieveSession claim >>= fun session =>
      w.retrievePayment claim session >>= fun payment => w.concludeRun claim session payment := rfl

/-- The fact of an expired Session, and its id. -/
theorem checkoutFact_expired {claim : CreditPackReconcileClaim} {fact : SessionFact}
    (hstatus : fact.status = "expired") (hshape : fact.raw.isObj = true) :
    ExpiryFact (w.checkoutFact claim fact) fact.raw fact.created ∧
      (w.checkoutFact claim fact).eventId = w.expiryEventId claim fact.paymentIntentId := by
  refine ⟨⟨?_, rfl, ?_⟩, ?_⟩
  · rw [PackWorker.checkoutFact, hstatus]
    rfl
  · show Json.obj (PackWorker.rawMembers fact.raw) = fact.raw
    cases hraw : fact.raw with
    | obj members => rfl
    | _ =>
      rw [hraw] at hshape
      cases hshape
  · rw [PackWorker.checkoutFact, hstatus]
    rfl

/-- Nothing is projected of a quiet payment. -/
theorem quiet_projections (w : PackWorker) (claim : CreditPackReconcileClaim)
    {found : Option PackWorker.PaymentFacts} (h : PackWorker.Quiet found) :
    w.projectPayment claim found = pure () ∧ w.projectClawback claim found = pure () := by
  cases found with
  | none => exact ⟨rfl, rfl⟩
  | some p =>
    obtain ⟨hstatus, hcharge⟩ := h p rfl
    refine ⟨?_, ?_⟩
    · rw [PackWorker.projectPayment]
      exact if_neg hstatus
    · rw [PackWorker.projectClawback, Option.bind_some, hcharge]
      rfl

/-- A run that projected the expiry is reconciled. -/
theorem finishRun_projected {claim : CreditPackReconcileClaim} {eventId : String}
    {status : CheckoutStatus} {s : WorkerState} (h : ProjectedExpiry w claim eventId status s) :
    ∃ r, w.finishRun claim s = .ok r ∧ r.1.outcome = .reconciled ∧
      Concluded claim eventId status r.2 := by
  obtain ⟨s', hfinish, hconcluded⟩ := finish_projected h none rfl
  refine ⟨({ outcome := .reconciled, projections := s.projections, errorCode := none }, s'), ?_, rfl,
    hconcluded⟩
  refine (Worker.bind_of_ok (a := s.projections) rfl).trans ?_
  simp only [h.projections, Bool.false_and, Bool.false_eq_true, if_false]
  rw [Worker.bind_of_ok hfinish]
  rfl

/-- **The rest of the run**, once the Session passed: the worker projects the expiry it retrieved,
    once, and finishes. It gets there exactly where that Event can be projected. -/
theorem concludeRun_expired {claimed : Tx → Billing → Event → Transaction Effect}
    {accepted : Bool} {n : Nat} {s : WorkerState} {fact : SessionFact}
    {found : Option PackWorker.PaymentFacts}
    (h : UnpaidRun w db account o token sessionId customerId payment)
    (hprocess : w.rt.process = processBy w.rt.cfg claimed)
    (hhandles : Handles w.rt claimed accepted (reconcileClaim o token account) account customerId
      (payment.map UnpaidPayment.id))
    (hheld : Held w db o (n + 1) s) (hquiet : PackWorker.Quiet found)
    (hstatus : fact.status = "expired")
    (hpayment : fact.paymentIntentId = payment.map UnpaidPayment.id)
    (hcontract : ExpiredSession w.rt (reconcileClaim o token account) sessionId fact.raw customerId
      (payment.map UnpaidPayment.id) fact.created) (eventId : String)
    (hevent : eventId = w.expiryEventId (reconcileClaim o token account)
      (payment.map UnpaidPayment.id)) :
    (∀ r, w.concludeRun (reconcileClaim o token account) (some fact) found s = .ok r →
      Projectable db eventId accepted ∧ r.1.outcome = .reconciled ∧
        Concluded (reconcileClaim o token account) eventId (statusAfter db o eventId) r.2) ∧
    (Projectable db eventId accepted →
      ∃ r, w.concludeRun (reconcileClaim o token account) (some fact) found s = .ok r) := by
  obtain ⟨hnoPayment, hnoClawback⟩ :=
    quiet_projections w (reconcileClaim o token account) hquiet
  obtain ⟨hfact, hid⟩ := checkoutFact_expired hstatus hcontract.shape
  rw [hpayment, ← hevent] at hid
  have hvisible : w.rt.cfg.unicode.visible 512 eventId = true :=
    hevent ▸ expiryEventId_visible h.unicode h.digest _
  have htype : w.rt.cfg.unicode.visible 255 (w.checkoutFact (reconcileClaim o token account)
      fact).eventType = true := by
    rw [hfact.eventType]
    exact visible_of_ascii h.unicode (by decide) (List.all_eq_true.1 (by decide)) (by decide)
  have hprojected := project_held h.steady rfl h.leased hheld h.canonical rfl h.owner hprocess
    (hid.symm ▸ hvisible) htype fun tx b deadline haccounts hrow =>
      hhandles hfact hcontract (h.order deadline) hrow (haccounts ▸ h.owner) h.session
  rw [hid] at hprojected
  -- only the expiry is projected
  have hcheckout : w.projectCheckout (reconcileClaim o token account) (some fact) =
      w.project (reconcileClaim o token account)
        (w.checkoutFact (reconcileClaim o token account) fact) := by
    rw [PackWorker.projectCheckout, hstatus]
    rfl
  rw [PackWorker.concludeRun, hcheckout, hnoPayment, hnoClawback]
  refine ⟨fun r hr => ?_, fun hprojectable => ?_⟩
  · obtain ⟨_, s₁, hproject, hfinish⟩ := Worker.bind_eq_ok hr
    obtain ⟨hprojectable, hleft⟩ := hprojected.1 _ hproject
    obtain ⟨r', hfinished, houtcome, hconcluded⟩ := finishRun_projected hleft
    obtain rfl : r' = r := Except.ok.inj (hfinished.symm.trans hfinish)
    exact ⟨hprojectable, houtcome, hconcluded⟩
  · obtain ⟨⟨_, s₁⟩, hproject⟩ := hprojected.2 hprojectable
    obtain ⟨r, hfinished, -⟩ := finishRun_projected (hprojected.1 _ hproject).2
    refine ⟨r, ?_⟩
    rw [Worker.bind_of_ok hproject]
    exact hfinished

/-- **The run of an expired Session**: retrieving, projecting once and finishing. It ends well
    exactly where the identities agree, no card was declined and the expiry can be projected. -/
theorem reconcileBody_expired {claimed : Tx → Billing → Event → Transaction Effect}
    {accepted : Bool} (h : UnpaidRun w db account o token sessionId customerId payment)
    (hprocess : w.rt.process = processBy w.rt.cfg claimed)
    (hhandles : Handles w.rt claimed accepted (reconcileClaim o token account) account customerId
      (payment.map UnpaidPayment.id)) (eventId : String)
    (hevent : eventId = w.expiryEventId (reconcileClaim o token account)
      (payment.map UnpaidPayment.id)) :
    (∀ r, w.reconcileBody (reconcileClaim o token account) { db } = .ok r →
      ExpiryPasses (reconcileClaim o token account) customerId payment ∧
      Projectable db eventId accepted ∧ r.1.outcome = .reconciled ∧
      Concluded (reconcileClaim o token account) eventId (statusAfter db o eventId) r.2) ∧
    (ExpiryPasses (reconcileClaim o token account) customerId payment →
      Projectable db eventId accepted →
      ∃ r, w.reconcileBody (reconcileClaim o token account) { db } = .ok r) := by
  obtain ⟨value, created, hanswer, hcontract⟩ := h.expired
  have hsession : (reconcileClaim o token account).sessionId = some sessionId := h.session
  let fact : SessionFact := {
    raw := remoteCopy value, status := "expired", paymentStatus := "unpaid"
    paymentIntentId := payment.map UnpaidPayment.id, customerId, created }
  -- the Session passes or the run ends here
  obtain ⟨s₁, hheld₁, hretrieve⟩ := retrieveSession_held h.steady rfl h.leased h.held hsession hanswer
  have hvalid : ∀ found, validateSession w.rt (reconcileClaim o token account) value = .ok found ↔
      _ := fun found => validateSession_unpaid hsession hcontract
  -- so does the PaymentIntent
  have hpaid : unboundOr (reconcileClaim o token account).paymentIntentId fact.paymentIntentId =
      true → _ := fun hbound => retrievePayment_held h.steady rfl h.leased h.pending h.amountPaid
    hheld₁ rfl hbound rfl h.unpaid
  have hrest : ∀ {s found}, Held w db o 1 s → PackWorker.Quiet found → _ ∧ _ :=
    fun hheld hquiet => concludeRun_expired h hprocess hhandles hheld hquiet
      (show fact.status = "expired" from rfl) rfl hcontract eventId hevent
  rw [reconcileBody_eq]
  refine ⟨fun r hr => ?_, fun hpasses hprojectable => ?_⟩
  · obtain ⟨session, s₂, hsessionRun, hr⟩ := Worker.bind_eq_ok hr
    obtain ⟨found, hvalidated, heq⟩ := (hretrieve _).1 hsessionRun
    cases heq
    obtain ⟨hbound, horderCustomer, haccountCustomer, rfl⟩ := (hvalid _).1 hvalidated
    obtain ⟨s₃, facts, hheld₃, hquiet, hpayment⟩ := hpaid hbound
    obtain ⟨_, s₄, hpaymentRun, hr⟩ := Worker.bind_eq_ok hr
    obtain ⟨hpasses, heq⟩ := (hpayment _).1 hpaymentRun
    cases heq
    obtain ⟨hprojectable, houtcome, hconcluded⟩ := (hrest hheld₃ hquiet).1 r hr
    exact ⟨⟨hbound, horderCustomer, haccountCustomer, hpasses⟩, hprojectable, houtcome, hconcluded⟩
  · obtain ⟨s₃, facts, hheld₃, hquiet, hpayment⟩ := hpaid hpasses.paymentIntent
    obtain ⟨r, hr⟩ := (hrest hheld₃ hquiet).2 hprojectable
    have hvalidated := (hvalid fact).2
      ⟨hpasses.paymentIntent, hpasses.orderCustomer, hpasses.accountCustomer, rfl⟩
    refine ⟨r, ?_⟩
    rw [Worker.bind_of_ok ((hretrieve _).2 ⟨fact, hvalidated, rfl⟩),
      Worker.bind_of_ok ((hpayment _).2 ⟨hpasses.payment, rfl⟩)]
    exact hr

/-! ## What is settled -/

/-- `_reconcile_claim` projects the expiry, the order ends expired, and the run is reconciled. -/
def PackWorker.Settles (w : PackWorker) (claim : CreditPackReconcileClaim) (db : Db)
    (paymentIntentId : Option String) : Prop :=
  ∃ result s, w.reconcileRun claim db = .ok (result, s) ∧ result.outcome = .reconciled ∧
    Concluded claim (w.expiryEventId claim paymentIntentId) .expired s

/-- Where the validators, the handler and the inbox let the expiry through. -/
structure Reconcilable (w : PackWorker) (db : Db) (account : Account) (o : PackOrder)
    (token : String) (customerId : Option String) (payment : Option UnpaidPayment)
    (accepted : Bool) : Prop where
  passes : ExpiryPasses (reconcileClaim o token account) customerId payment
  projectable : Projectable db
    (w.expiryEventId (reconcileClaim o token account) (payment.map UnpaidPayment.id)) accepted
  expired : statusAfter db o
    (w.expiryEventId (reconcileClaim o token account) (payment.map UnpaidPayment.id)) = .expired

/-- A run is reconciled only when nothing was raised. -/
theorem reconcileRun_reconciled {claim : CreditPackReconcileClaim} {s : WorkerState}
    {result : PackWorker.ReconcileResult} (h : w.reconcileRun claim db = .ok (result, s))
    (houtcome : result.outcome = .reconciled) : w.reconcileBody claim { db } = .ok (result, s) := by
  unfold PackWorker.reconcileRun at h
  split at h
  next hbody =>
    cases h
    exact hbody
  next =>
    cases h
    cases houtcome
  next =>
    obtain ⟨⟨finished, s'⟩, -, h⟩ := bind_eq_ok.1 h
    cases finished <;> cases h <;> cases houtcome

theorem reconcileRun_of_body {claim : CreditPackReconcileClaim}
    {r : PackWorker.ReconcileResult × WorkerState} (h : w.reconcileBody claim { db } = .ok r) :
    w.reconcileRun claim db = .ok r := by
  rw [PackWorker.reconcileRun, h]

/-- **The settled outcomes** of a runtime, given what its handler does. -/
theorem settles_iff {claimed : Tx → Billing → Event → Transaction Effect} {accepted : Bool}
    (h : UnpaidRun w db account o token sessionId customerId payment)
    (hprocess : w.rt.process = processBy w.rt.cfg claimed)
    (hhandles : Handles w.rt claimed accepted (reconcileClaim o token account) account customerId
      (payment.map UnpaidPayment.id)) :
    w.Settles (reconcileClaim o token account) db (payment.map UnpaidPayment.id) ↔
      Reconcilable w db account o token customerId payment accepted := by
  obtain ⟨hbody, hruns⟩ := reconcileBody_expired h hprocess hhandles _ rfl
  constructor
  · rintro ⟨result, s, hrun, houtcome, hconcluded⟩
    obtain ⟨hpasses, hprojectable, -, hleft⟩ := hbody _ (reconcileRun_reconciled hrun houtcome)
    obtain ⟨row, hrow, hstatus⟩ := hconcluded.row
    obtain ⟨row', hrow', hstatus'⟩ := hleft.row
    obtain rfl : row = row' := Option.some.inj (hrow.symm.trans hrow')
    exact ⟨hpasses, hprojectable, hstatus'.symm.trans hstatus⟩
  · rintro ⟨hpasses, hprojectable, hexpired⟩
    obtain ⟨⟨result, s⟩, hr⟩ := hruns hpasses hprojectable
    obtain ⟨-, -, houtcome, hconcluded⟩ := hbody _ hr
    exact ⟨result, s, reconcileRun_of_body hr, houtcome, hexpired ▸ hconcluded⟩

end

/-! ## The two languages -/

inductive Language where
  | python
  | typeScript (handlers : TypeScript.Handlers)

/-- The reconciler of a language. -/
def Language.reconciler (language : Language) (cfg : Config) (digest : String → String)
    (className : Failure → String) : ReconcilerRuntime :=
  match language with
  | .python => pythonReconciler cfg digest className
  | .typeScript handlers => TypeScript.reconciler handlers cfg digest className

/-- Whether its handler takes an expired Session with this Customer. -/
def Language.takes (language : Language) (customerId : Option String) : Bool :=
  match language with
  | .python => true
  | .typeScript _ => customerId.isSome

/-- What its processor does with a claimed Event. -/
def Language.processClaimed (language : Language) (cfg : Config) :
    Tx → Billing → Event → Transaction Effect :=
  match language with
  | .python => StripeEntitlements.processClaimed cfg
  | .typeScript handlers => TypeScript.processClaimed handlers cfg

section

variable {language : Language} {cfg : Config} {digest : String → String}
  {className : Failure → String}

theorem Language.process_eq : (language.reconciler cfg digest className).process =
    processBy (language.reconciler cfg digest className).cfg (language.processClaimed cfg) := by
  cases language <;> rfl

/-- Both handlers expire what they take. -/
theorem Language.handles {claim : CreditPackReconcileClaim} {account : Account}
    {customerId paymentIntentId : Option String} (hids : claim.Canonical) :
    Handles (language.reconciler cfg digest className) (language.processClaimed cfg)
      (language.takes customerId) claim account customerId paymentIntentId := by
  intro tx b row fact raw sessionId created hfact hcontract horder hrow haccount hsession
  have hid : canonicalUuid row.id = some row.id := by
    rw [horder.id]
    exact hids.order
  have howner : canonicalUuid row.accountId = some row.accountId := by
    rw [horder.owner]
    exact hids.account
  cases language with
  | python =>
    have hinteger : (pythonReconciler cfg digest className).integer = Json.asInt := rfl
    exact processClaimed_expired hinteger hfact hcontract horder hrow haccount hsession hid howner
  | typeScript handlers =>
    have hinteger : (TypeScript.reconciler handlers cfg digest className).integer =
        TypeScript.safeInteger := rfl
    exact TypeScript.processClaimed_expired hinteger hfact hcontract horder hrow haccount hsession
      hid howner

end

/-- **Unpaid Checkouts** are settled exactly where the identities of the paid case are known and
    agree: no card was declined, a PaymentIntent names its Customer, the account and the order
    found no other one, and the expiry was not projected otherwise before. The TypeScript handler
    also asks for the Customer of the Session. -/
theorem unpaid_checkout_settles (language : Language) (cfg : Config) (digest : String → String)
    (className : Failure → String) (w : PackWorker)
    (hlanguage : w.rt = language.reconciler cfg digest className) (db : Db) (account : Account)
    (o : PackOrder) (token sessionId : String) (customerId : Option String)
    (payment : Option UnpaidPayment)
    (h : UnpaidRun w db account o token sessionId customerId payment) :
    w.Settles (reconcileClaim o token account) db (payment.map UnpaidPayment.id) ↔
      Reconcilable w db account o token customerId payment (language.takes customerId) := by
  obtain ⟨rt, reconciler, gateway, clock⟩ := w
  obtain rfl : rt = language.reconciler cfg digest className := hlanguage
  exact settles_iff h Language.process_eq (Language.handles h.canonical)

/-! ## An abandoned and a declined card -/

/-- The first pack, with its Session, leased until second 300. -/
def leasedPack : PackOrder :=
  { firstPack with
    checkoutStatus := .sessionCreated
    stripeCheckoutSessionId := some "cs_1"
    reconcileClaimToken := some "00000000-0000-0000-0000-0000000000f1"
    reconcileClaimExpiresAt := some 300000000 }

def leasedPackDb : Db :=
  { packDb with billing := { packDb.billing with
    orders := { rows := [leasedPack], valid := by decide } } }

/-- Its Session, expired and unpaid. -/
def expiredSession : Json :=
  .obj [("id", .str "cs_1"), ("object", .str "checkout.session"), ("mode", .str "payment"),
    ("status", .str "expired"), ("payment_status", .str "unpaid"), ("livemode", .bool false),
    ("client_reference_id", .str referenceAccountId), ("metadata", packMetadata firstPack),
    ("amount_total", .int 500), ("currency", .str "usd"), ("payment_intent", .str "pi_1"),
    ("customer", .str "cus_1"), ("created", .int 1000)]

/-- Its PaymentIntent, which waits for another card. -/
def waitingPaymentIntent (chargeId : Json) : Json :=
  .obj [("id", .str "pi_1"), ("object", .str "payment_intent"),
    ("status", .str "requires_payment_method"), ("livemode", .bool false),
    ("metadata", packMetadata firstPack), ("amount", .int 500), ("amount_received", .int 0),
    ("currency", .str "usd"), ("customer", .str "cus_1"), ("latest_charge", chargeId),
    ("created", .int 1001)]

/-- The Charge of a declined card. -/
def declinedCharge (id : String) : Json :=
  .obj [("id", .str id), ("object", .str "charge"), ("payment_intent", .str "pi_1"),
    ("customer", .str "cus_1"), ("amount", .int 500), ("amount_refunded", .int 0),
    ("paid", .bool false), ("refunded", .bool false), ("disputed", .bool false),
    ("livemode", .bool false), ("currency", .str "usd"), ("created", .int 1002)]

/-- The digest of the only fact that is projected. -/
def expiryDigest : String := "f4d0cb8c36cd293d24d4ec0eb5eb793a65fca0ea0506f15bae252da4489adf53"

/-- A worker of the reference deployment; no Charge it finds was paid. -/
def unpaidWorker (language : Language) (chargeId : Json) : PackWorker where
  rt := language.reconciler referenceConfig (fun _ => expiryDigest) (fun _ => "PostgresError")
  reconciler := referenceReconciler
  gateway := {
    session := fun _ => .ok expiredSession
    paymentIntent := fun _ => .ok (waitingPaymentIntent chargeId)
    charge := fun id => .ok (declinedCharge id) }
  clock := fun n => referenceTx n

/-- The account of the first pack. -/
def packAccount : Account := { id := referenceAccountId, externalRef := "user" }

def leasedClaim : CreditPackReconcileClaim :=
  reconcileClaim leasedPack "00000000-0000-0000-0000-0000000000f1" packAccount

section

variable {rt : ReconcilerRuntime}

theorem metadataMatches_leased (hcfg : rt.cfg = referenceConfig) {raw : Json}
    (hraw : raw.get "metadata" = packMetadata firstPack) :
    rt.metadataMatches leasedClaim raw = true := by
  rw [ReconcilerRuntime.metadataMatches, hcfg, hraw]
  decide +kernel

theorem expiredSession_shown (hcfg : rt.cfg = referenceConfig)
    -- each field is a test that the reconciler makes of the remote object, evaluated on the
    -- answer
    (hinteger : ∀ n : Nat, n ≤ 2000 → rt.integer (.int n) = some (n : Int)) :
    ExpiredSession rt leasedClaim "cs_1" (remoteCopy expiredSession) (some "cus_1") (some "pi_1")
      1000 where
  shape := rfl
  id := rfl
  remoteId := by
    rw [hcfg]
    decide +kernel
  object := by decide +kernel
  mode := by decide +kernel
  status := rfl
  unpaid := rfl
  livemode := by
    rw [ReconcilerRuntime.modeMatches, hcfg]
    decide +kernel
  reference := by decide +kernel
  metadata := metadataMatches_leased hcfg rfl
  amount := remoteInteger_eq_ok.2 ⟨hinteger 500 (by decide), by decide⟩
  currency := by decide +kernel
  paymentIntent := by
    rw [hcfg]
    decide +kernel
  customer := by
    rw [hcfg]
    decide +kernel
  compatible := rfl
  created := remoteInteger_eq_ok.2 ⟨hinteger 1000 (by decide), by decide⟩

/-- The latest Charge, if any, and what the PaymentIntent names as it. -/
theorem waitingPaymentIntent_shown (hcfg : rt.cfg = referenceConfig)
    (hinteger : ∀ n : Nat, n ≤ 2000 → rt.integer (.int n) = some (n : Int))
    {chargeId : Option String} (hcharge : chargeId ∈ [none, some "ch_1"]) :
    UnpaidPaymentIntent rt leasedClaim "pi_1"
      (remoteCopy (waitingPaymentIntent ((chargeId.map Json.str).getD .null)))
      "requires_payment_method" (some "cus_1") chargeId 0 1001 where
  shape := rfl
  id := rfl
  remoteId := by
    rw [hcfg]
    decide +kernel
  object := rfl
  status := rfl
  known := by decide
  unpaid := by decide
  livemode := by
    rw [ReconcilerRuntime.modeMatches, hcfg]
    rfl
  metadata := metadataMatches_leased hcfg rfl
  amount := remoteInteger_eq_ok.2 ⟨hinteger 500 (by decide), by decide⟩
  received := remoteInteger_eq_ok.2 ⟨hinteger 0 (by decide), by decide⟩
  receivedLe := by decide
  currency := rfl
  customer := by
    rw [hcfg]
    show optionalRemoteId referenceConfig.unicode (.str "cus_1") _ _ = _
    decide +kernel
  -- the latest Charge is an id or missing, and the two runtimes read it alike
  charge := by
    rw [hcfg]
    rcases List.mem_pair.1 hcharge with rfl | rfl
    · rfl
    · decide +kernel
  created := remoteInteger_eq_ok.2 ⟨hinteger 1001 (by decide), by decide⟩

end

theorem Language.reference_integer (language : Language) (digest : String → String)
    (className : Failure → String) {n : Nat} (hn : n ≤ 2000) :
    (language.reconciler referenceConfig digest className).integer (.int n) = some (n : Int) := by
  cases language with
  | python => rfl
  | typeScript handlers =>
    have hbound : -maxSafeInteger ≤ (n : Int) ∧ (n : Int) ≤ maxSafeInteger := by
      simp only [maxSafeInteger]
      omega
    exact if_pos hbound

/-- Stripe's answers about the abandoned and about the declined card are legitimate. -/
theorem unpaidWorker_run (language : Language) (chargeId : Option String)
    (hcharge : chargeId ∈ [none, some "ch_1"]) :
    UnpaidRun (unpaidWorker language ((chargeId.map Json.str).getD .null)) leasedPackDb packAccount
      leasedPack "00000000-0000-0000-0000-0000000000f1" "cs_1" (some "cus_1")
      (some ⟨"pi_1", "requires_payment_method", some "cus_1", chargeId⟩) where
  owner := by decide
  row := by decide
  pending := rfl
  session := rfl
  canonical := ⟨by decide, by decide, by decide⟩
  leased := rfl
  deadline := rfl
  -- five minutes of lease outlast the two steps the worker takes between renewals
  steady n := by
    show ((n + 1 : Nat) : Int) < n + 300 * 1000000 ∧ ((n + 2 : Nat) : Int) < n + 300 * 1000000
    omega
  unicode := by
    cases language <;> exact asciiUnicode_lawful
  digest := by
    have hlength : expiryDigest.length = 64 := by decide
    have hchars : ∀ c ∈ expiryDigest.toList, c ∈ "0123456789abcdef".toList :=
      List.all_iff_forall_prop.1 (by decide)
    -- the digest of the runtimes is a parameter; here it is constant
    cases language <;> exact ⟨fun _ => hlength, fun _ => hchars⟩
  expired := ⟨expiredSession, 1000, rfl, expiredSession_shown (by cases language <;> rfl)
    fun _ hn => language.reference_integer _ _ hn⟩
  unpaid p hp := by
    cases hp
    refine ⟨⟨waitingPaymentIntent _, 0, 1001, rfl, waitingPaymentIntent_shown
      (by cases language <;> rfl) (fun _ hn => language.reference_integer _ _ hn) hcharge⟩, ?_⟩
    rintro id - value hvalue
    cases hvalue
    rfl

/-- No other Event is processed here. -/
def noHandlers : TypeScript.Handlers := fun _ _ b _ =>
  pure { billing := b, result := { outcome := .ignored } }

/-- An abandoned Checkout of a known Customer is settled in both languages. -/
theorem abandoned_card_settled :
    (unpaidWorker .python .null).Settles leasedClaim leasedPackDb (some "pi_1") ∧
      (unpaidWorker (.typeScript noHandlers) .null).Settles leasedClaim leasedPackDb
        (some "pi_1") := by
  have hpasses : ExpiryPasses leasedClaim (some "cus_1")
      (some ⟨"pi_1", "requires_payment_method", some "cus_1", none⟩) := by
    refine ⟨rfl, rfl, rfl, fun p hp => ?_⟩
    cases hp
    exact ⟨rfl, rfl, "cus_1", rfl, rfl, rfl, rfl, rfl⟩
  constructor
  · exact (unpaid_checkout_settles .python referenceConfig _ _ _ rfl _ _ _ _ _ _ _
      (unpaidWorker_run .python none (by simp))).2 ⟨hpasses, rfl, rfl⟩
  · exact (unpaid_checkout_settles (.typeScript noHandlers) referenceConfig _ _ _ rfl _ _ _ _ _ _ _
      (unpaidWorker_run (.typeScript noHandlers) none (by simp))).2
        ⟨hpasses, rfl, rfl⟩

/-- The run of a legitimate unpaid outcome that fails. -/
structure FailsDeclined (language : Language) : Prop where
  legitimate : UnpaidRun (unpaidWorker language (.str "ch_1")) leasedPackDb packAccount leasedPack
    "00000000-0000-0000-0000-0000000000f1" "cs_1" (some "cus_1")
    (some ⟨"pi_1", "requires_payment_method", some "cus_1", some "ch_1"⟩)
  failed : ((unpaidWorker language (.str "ch_1")).reconcileRun leasedClaim
    leasedPackDb).toOption.map Prod.fst = some {
      outcome := .failed, projections := [], errorCode := some "charge_contract_mismatch" }
  unsettled : ¬(unpaidWorker language (.str "ch_1")).Settles leasedClaim leasedPackDb (some "pi_1")

theorem failsDeclined_of_failed {language : Language}
    (hfailed : ((unpaidWorker language (.str "ch_1")).reconcileRun leasedClaim
      leasedPackDb).toOption.map Prod.fst = some {
        outcome := .failed, projections := [], errorCode := some "charge_contract_mismatch" }) :
    FailsDeclined language := by
  refine ⟨unpaidWorker_run language (some "ch_1") (by simp), hfailed, ?_⟩
  rintro ⟨result, s, hrun, houtcome, -⟩
  rw [hrun] at hfailed
  cases hfailed
  cases houtcome

/-- **A declined card** fails the run: the Charge was not paid. -/
theorem declined_card_unsettled :
    FailsDeclined .python ∧ FailsDeclined (.typeScript noHandlers) :=
  ⟨failsDeclined_of_failed (by decide +kernel), failsDeclined_of_failed (by decide +kernel)⟩

end StripeEntitlements
