import StripeEntitlements.Reconcile.Contracts

/-!
# What a Reconciliation Comes to Know

A worker under an unexpired lease goes on from one renewal to the next. It learns of an expired
Session and of its unpaid PaymentIntent what the validators let pass, and nothing of an unpaid
Charge.

## Main results

- `renew_held`, `remote_held` — a worker under an unexpired lease goes on
- `retrieveSession_held`, `retrievePayment_held`, `retrieveCharge_held` — what it learns
-/

namespace StripeEntitlements

open Relational

/-! ## Steps of a worker -/

namespace Worker

variable {α β : Type} {x : Worker α} {f : α → Worker β} {s s' : WorkerState} {a : α}

theorem bind_of_ok (h : x s = .ok (a, s')) : (x >>= f) s = f a s' := by
  show (x s >>= fun p => f p.1 p.2) = _
  rw [h]
  rfl

theorem bind_of_error {failure : WorkerFailure × WorkerState} (h : x s = .error failure) :
    (x >>= f) s = .error failure := by
  show (x s >>= fun p => f p.1 p.2) = _
  rw [h]
  rfl

theorem bind_eq_ok {r : β × WorkerState} (h : (x >>= f) s = .ok r) :
    ∃ a s₁, x s = .ok (a, s₁) ∧ f a s₁ = .ok r := by
  obtain ⟨⟨a, s₁⟩, hx, hf⟩ := StripeEntitlements.bind_eq_ok.1 h
  exact ⟨a, s₁, hx, hf⟩

theorem validate_eq_ok {fact : Except String α} (h : validate fact s = .ok (a, s')) :
    fact = .ok a ∧ s' = s := by
  cases fact <;> cases h
  exact ⟨rfl, rfl⟩

theorem bind_validate_error (errorCode : String) :
    (validate (.error errorCode) >>= f) s = .error (.failed errorCode, s) := rfl

theorem validate_of_ok {fact : Except String α} (h : fact = .ok a) :
    validate fact s = .ok (a, s) := by
  rw [h]
  rfl

end Worker

/-! ## Under the lease -/

/-- The lease of a worker lasts over the two transactions that follow a renewal. -/
def PackWorker.Steady (w : PackWorker) : Prop :=
  ∀ n, (w.clock (n + 1)).wall < (w.clock n).wall + w.reconciler.lease ∧
    (w.clock (n + 2)).wall < (w.clock n).wall + w.reconciler.lease

/-- The row of an order whose lease was renewed. -/
def PackOrder.renewedUntil (o : PackOrder) (deadline : Int) : PackOrder :=
  { o with reconcileClaimExpiresAt := some deadline }

/-- The worker still finds what it leased: only the deadline has moved, and it covers the next
    `n` transactions. -/
structure Held (w : PackWorker) (db : Db) (o : PackOrder) (n : Nat) (s : WorkerState) : Prop where
  inbox : s.db.inbox = db.inbox
  accounts : s.db.billing.accounts = db.billing.accounts
  row : ∃ deadline, s.db.billing.orders.find? o.id = some (o.renewedUntil deadline) ∧
    ∀ i < n, (w.clock (s.step + i)).wall < deadline

section

variable {w : PackWorker} {db : Db} {o : PackOrder} {claim : CreditPackReconcileClaim} {n : Nat}
  {s : WorkerState}

/-- A write of the lease columns that keeps them together succeeds. -/
theorem updateHeld_isSome {b : Billing} {wall : Int} (f : PackOrder → PackOrder)
    (hkey : ∀ o, (f o).id = o.id)
    (hcheck : ∀ o, claim.holds wall o = true → Relation.check o = true → Relation.check (f o) = true)
    (hindex : ∀ ix ∈ (Relation.indexes : List (PackOrder → Option (List String))), ∀ o,
      ix (f o) = ix o) :
    ∃ orders, b.updateWhere (claim.holds wall) f = .ok { b with orders } ∧
      b.orders.updateWhere? (claim.holds wall) f = some orders := by
  obtain ⟨orders, horders⟩ := Table.updateWhere?_isSome (t := b.orders) (p := claim.holds wall)
    hkey (fun r hr hp => hcheck r hp (b.orders.valid.checked r hr)) hindex
  exact ⟨orders, Billing.updateWhere_eq_ok.2 ⟨orders, horders, rfl⟩, horders⟩

theorem holds_of_leased {wall deadline : Int} (horder : claim.orderId = o.id)
    (htoken : o.reconcileClaimToken = some claim.token) (hlater : wall < deadline) :
    claim.holds wall (o.renewedUntil deadline) = true := by
  simp [CreditPackReconcileClaim.holds, PackOrder.renewedUntil, horder, htoken, hlater]

/-- **A renewal** in time keeps everything but the deadline. The lease of a steady worker then
    covers the two transactions that follow. -/
theorem renew_held (hsteady : w.Steady) (horder : claim.orderId = o.id)
    (htoken : o.reconcileClaimToken = some claim.token) (h : Held w db o (n + 1) s) :
    ∃ s', w.renew claim s = .ok ((), s') ∧ Held w db o 2 s' := by
  obtain ⟨deadline, hrow, hlater⟩ := h.row
  -- the lease has not lapsed, so the guard matches the order
  have hholds := holds_of_leased horder htoken (hlater 0 (Nat.succ_pos n))
  rw [Nat.add_zero] at hholds
  have hrenewed : s.db.billing.orders.rows.any (claim.holds (w.clock s.step).wall) = true :=
    List.any_eq_true.2 ⟨_, Table.find?_mem hrow, hholds⟩
  -- a renewal keeps the row's constraints, since the token is there already
  have hcheck : ∀ o : PackOrder, claim.holds (w.clock s.step).wall o = true →
      Relation.check o = true →
        Relation.check (o.renewedUntil ((w.clock s.step).wall + w.reconciler.lease)) = true := by
    intro o hholds hcheck
    simp only [CreditPackReconcileClaim.holds, Bool.and_eq_true, decide_eq_true_eq] at hholds
    simp only [Relation.check, Bool.and_eq_true, decide_eq_true_eq] at hcheck ⊢
    have hpaired : o.reconcileClaimToken.isNone = false := by
      rw [hholds.1.2]
      rfl
    exact ⟨⟨⟨hcheck.1.1.1, hpaired⟩, hcheck.1.2⟩, hcheck.2⟩
  -- and its indexes, none of which reads the expiry of the lease
  have hindex : ∀ ix ∈ (Relation.indexes : List (PackOrder → Option (List String))), ∀ o,
      ix (o.renewedUntil ((w.clock s.step).wall + w.reconciler.lease)) = ix o := by
    intro ix hix o
    simp only [Relation.indexes, List.mem_cons, List.not_mem_nil, or_false] at hix
    rcases hix with rfl | rfl | rfl | rfl <;> rfl
  obtain ⟨orders, hupdate, horders⟩ := updateHeld_isSome (b := s.db.billing)
    (·.renewedUntil ((w.clock s.step).wall + w.reconciler.lease)) (fun _ => rfl) hcheck hindex
  · have hself := Table.find?_updateWhere horders (fun _ => rfl) o.id
    rw [hrow, Option.map_some, if_pos hholds] at hself
    refine ⟨{ s with
      db := { s.db with billing := { s.db.billing with orders } }, step := s.step + 1 }, ?_, ?_⟩
    · refine (Worker.bind_of_ok (a := true) ?_).trans rfl
      have hrenew : claim.renew w.reconciler (w.clock s.step) s.db.billing =
          .ok ({ s.db.billing with orders }, true) := by
        show (s.db.billing.updateWhere (claim.holds (w.clock s.step).wall)
          (·.renewedUntil ((w.clock s.step).wall + w.reconciler.lease)) >>= fun b =>
            pure (b, s.db.billing.orders.rows.any (claim.holds (w.clock s.step).wall))) = _
        rw [hupdate, hrenewed]
        rfl
      rw [PackWorker.transaction, hrenew]
      rfl
    -- the new deadline lasts for this step and the next, as the worker is steady
    · refine ⟨h.inbox, h.accounts, (w.clock s.step).wall + w.reconciler.lease, hself, ?_⟩
      intro i hi
      obtain ⟨hnext, hafter⟩ := hsteady s.step
      have hcases : i = 0 ∨ i = 1 := by omega
      rcases hcases with rfl | rfl
      · exact hnext
      · exact hafter

/-- A question to Stripe, between two renewals. -/
theorem remote_held (hsteady : w.Steady) (horder : claim.orderId = o.id)
    (htoken : o.reconcileClaimToken = some claim.token) (h : Held w db o (n + 1) s)
    (answer : Except String Json) :
    ∃ s', Held w db o 2 s' ∧
      ∀ r, w.remote claim answer s = .ok r ↔ ∃ value, answer = .ok value ∧ r = (value, s') := by
  obtain ⟨s₁, hrenew, hheld⟩ := renew_held hsteady horder htoken h
  obtain ⟨s₂, hagain, hheld'⟩ := renew_held hsteady horder htoken hheld
  refine ⟨s₂, hheld', fun r => ?_⟩
  have hasked : w.remote claim answer s =
      (Worker.validate answer >>= fun value => w.renew claim >>= fun _ => pure value) s₁ :=
    Worker.bind_of_ok hrenew
  rw [hasked]
  cases answer with
  | error code =>
    rw [Worker.bind_validate_error]
    simp
  | ok value =>
    rw [Worker.bind_of_ok (Worker.validate_of_ok rfl), Worker.bind_of_ok hagain]
    show Except.ok (value, s₂) = .ok r ↔ _
    simp only [Except.ok.injEq, exists_eq_left']
    exact eq_comm

/-! ## What the worker comes to know -/

/-- The Session, if it passes. -/
theorem retrieveSession_held (hsteady : w.Steady) (horder : claim.orderId = o.id)
    (htoken : o.reconcileClaimToken = some claim.token) (h : Held w db o (n + 1) s)
    {sessionId : String} {value : Json} (hsession : claim.sessionId = some sessionId)
    (hanswer : w.gateway.session sessionId = .ok value) :
    ∃ s', Held w db o 2 s' ∧ ∀ r, w.retrieveSession claim s = .ok r ↔
      ∃ fact, validateSession w.rt claim value = .ok fact ∧ r = (some fact, s') := by
  obtain ⟨s', hheld, hremote⟩ := remote_held hsteady horder htoken h (.ok value)
  refine ⟨s', hheld, fun r => ?_⟩
  have hasked : w.retrieveSession claim s =
      (Worker.validate (validateSession w.rt claim value) >>= fun fact => pure (some fact)) s' := by
    rw [PackWorker.retrieveSession, hsession]
    show (w.remote claim (w.gateway.session sessionId) >>= _) s = _
    rw [hanswer, Worker.bind_of_ok ((hremote _).2 ⟨value, rfl, rfl⟩)]
  rw [hasked]
  cases validateSession w.rt claim value with
  | error code =>
    rw [Worker.bind_validate_error]
    simp
  | ok fact =>
    rw [Worker.bind_of_ok (Worker.validate_of_ok rfl)]
    show Except.ok (some fact, s') = .ok r ↔ _
    simp only [Except.ok.injEq, exists_eq_left']
    exact eq_comm

/-- A Charge is asked for when there is one, and an unpaid one never passes. -/
theorem retrieveCharge_held (hsteady : w.Steady) (horder : claim.orderId = o.id)
    (htoken : o.reconcileClaimToken = some claim.token) (h : Held w db o (n + 1) s)
    (paymentIntentId customerId : String) {chargeId : Option String}
    (hunpaid : ∀ id ∈ chargeId, ∀ value, w.gateway.charge id = .ok value →
      ((remoteCopy value).get "paid").isTrue = false)
    (r : Option (String × ChargeFact) × WorkerState) :
    w.retrieveCharge claim paymentIntentId customerId chargeId s = .ok r ↔
      chargeId = none ∧ r = (none, s) := by
  cases chargeId with
  | none =>
    show Except.ok (none, s) = .ok r ↔ _
    simp only [Except.ok.injEq, true_and]
    exact eq_comm
  | some id =>
    simp only [reduceCtorEq, false_and, iff_false]
    intro hok
    obtain ⟨s', -, hremote⟩ := remote_held hsteady horder htoken h (w.gateway.charge id)
    obtain ⟨value, s₁, hasked, hrest⟩ := Worker.bind_eq_ok hok
    obtain ⟨_, hanswer, heq⟩ := (hremote _).1 hasked
    cases heq
    obtain ⟨fact, s₂, hvalidate, -⟩ := Worker.bind_eq_ok hrest
    exact validateCharge_unpaid (hunpaid id rfl value hanswer) (Worker.validate_eq_ok hvalidate).1

end

/-! ## The PaymentIntent of the Session -/

/-- The PaymentIntent of an expired Session. -/
structure UnpaidPayment where
  id : String
  state : String
  customerId : Option String
  chargeId : Option String
  deriving DecidableEq, Repr

/-- What Stripe answers about a PaymentIntent that did not succeed: its metadata, amount and
    currency are those of the order, and its latest Charge, if it has one, was not paid. -/
structure UnpaidPayment.Shown (p : UnpaidPayment) (w : PackWorker)
    (claim : CreditPackReconcileClaim) : Prop where
  paymentIntent : ∃ value paid created, w.gateway.paymentIntent p.id = .ok value ∧
    UnpaidPaymentIntent w.rt claim p.id (remoteCopy value) p.state p.customerId p.chargeId paid
      created
  charge : ∀ id ∈ p.chargeId, ∀ value, w.gateway.charge id = .ok value →
    ((remoteCopy value).get "paid").isTrue = false

/-- The PaymentIntents that the validators let pass: no card was declined, and its Customer is
    known and nobody else's. -/
structure UnpaidPayment.Passes (p : UnpaidPayment) (claim : CreditPackReconcileClaim)
    (sessionCustomerId : Option String) : Prop where
  undeclined : p.chargeId = none
  uncharged : claim.chargeId = none
  payer : ∃ payer, p.customerId = some payer ∧
    unboundOr claim.requestCustomerId (some payer) = true ∧
    unboundOr claim.orderCustomerId (some payer) = true ∧
    unboundOr claim.accountCustomerId (some payer) = true ∧
    unboundOr sessionCustomerId (some payer) = true

/-- Nothing is projected of such a payment. -/
def PackWorker.Quiet (found : Option PackWorker.PaymentFacts) : Prop :=
  ∀ p ∈ found, p.paymentIntent.status ≠ "succeeded" ∧ p.charge = none

section

variable {w : PackWorker} {db : Db} {o : PackOrder} {claim : CreditPackReconcileClaim} {n : Nat}
  {s : WorkerState}

theorem or_of_unbound {known found : Option String} (h : unboundOr known found = true) :
    known.or found = found := by
  cases known with
  | none => rfl
  | some id =>
    simp only [unboundOr, Option.isNone_some, Bool.false_or, decide_eq_true_eq] at h
    exact h

theorem unboundOr_none {known : Option String} : unboundOr known none = true ↔ known = none := by
  cases known <;> simp [unboundOr]

/-- The PaymentIntent, if there is one and it passes. -/
theorem retrievePayment_held (hsteady : w.Steady) (horder : claim.orderId = o.id)
    (htoken : o.reconcileClaimToken = some claim.token) (hpending : claim.paymentStatus = .pending)
    (hpaid : claim.amountPaid = none) (h : Held w db o (n + 1) s) {fact : SessionFact}
    {payment : Option UnpaidPayment} (hunpaid : fact.paymentStatus = "unpaid")
    (hbound : unboundOr claim.paymentIntentId fact.paymentIntentId = true)
    (hid : fact.paymentIntentId = payment.map UnpaidPayment.id)
    (hshown : ∀ p ∈ payment, p.Shown w claim) :
    ∃ s' found, Held w db o 1 s' ∧ PackWorker.Quiet found ∧
      ∀ r, w.retrievePayment claim (some fact) s = .ok r ↔
        (∀ p ∈ payment, p.Passes claim fact.customerId) ∧ r = (found, s') := by
  -- the id asked for is the one that the Session names, or that is bound already
  have hread : claim.paymentIntentId.or ((some fact).bind SessionFact.paymentIntentId) =
      payment.map UnpaidPayment.id := (or_of_unbound hbound).trans hid
  -- no PaymentIntent yet, so nothing is asked
  cases payment with
  | none =>
    obtain ⟨deadline, hrow, hlater⟩ := h.row
    refine ⟨s, none, ⟨h.inbox, h.accounts, deadline, hrow, fun i hi => hlater i (by omega)⟩,
      fun _ hp => absurd hp (by simp), fun r => ?_⟩
    rw [PackWorker.retrievePayment, hread]
    show Except.ok (none, s) = .ok r ↔ _
    simp [eq_comm]
  -- one call is made, under a lease that still covers the next step
  | some p =>
    obtain ⟨⟨value, paid, created, hanswer, hcontract⟩, hcharge⟩ := hshown p rfl
    obtain ⟨s₁, hheld, hremote⟩ := remote_held hsteady horder htoken h (.ok value)
    have hlease : Held w db o 1 s₁ := by
      obtain ⟨deadline, hrow, hlater⟩ := hheld.row
      exact ⟨hheld.inbox, hheld.accounts, deadline, hrow, fun i hi => hlater i (by omega)⟩
    have hasked : w.retrievePayment claim (some fact) s =
        (do
          let paymentIntent ← Worker.validate
            (validatePaymentIntent w.rt claim value p.id fact.customerId)
          Worker.validate (require
            (!((some fact).any fun s : SessionFact => s.paymentStatus = "paid") ||
              paymentIntent.status = "succeeded") "checkout_payment_status_mismatch")
          let charge ← w.retrieveCharge claim p.id paymentIntent.customerId
            (claim.chargeId.or paymentIntent.chargeId)
          pure (some (PackWorker.PaymentFacts.mk p.id paymentIntent charge))) s₁ := by
      rw [PackWorker.retrievePayment, hread]
      show (w.remote claim (w.gateway.paymentIntent p.id) >>= _) s = _
      rw [hanswer, Worker.bind_of_ok ((hremote _).2 ⟨value, rfl, rfl⟩)]
      rfl
    have hcontract' : ∀ found, validatePaymentIntent w.rt claim value p.id fact.customerId =
      .ok found ↔ _ := fun found => validatePaymentIntent_unpaid hpending hpaid hcontract
    have hiff : (∀ q ∈ some p, q.Passes claim fact.customerId) ↔ p.Passes claim fact.customerId := by
      simp
    rw [hasked, hiff]
    cases hvalidated : validatePaymentIntent w.rt claim value p.id fact.customerId with
    | error code =>
      refine ⟨s₁, none, hlease, fun _ hp => absurd hp (by simp), fun r => ?_⟩
      rw [Worker.bind_validate_error]
      simp only [reduceCtorEq, false_iff, not_and]
      intro hpasses
      obtain ⟨payer, hpayer, hrequest, hown, haccount, hsession⟩ := hpasses.payer
      have hok := (hcontract' _).2 ⟨payer, hpayer, hrequest, hown, haccount, hsession,
        by rw [hpasses.uncharged]; rfl, rfl⟩
      rw [hvalidated] at hok
      cases hok
    | ok paymentIntent =>
      obtain ⟨payer, hpayer, hrequest, hown, haccount, hsession, hcharged, hfact⟩ :=
        (hcontract' paymentIntent).1 hvalidated
      have hasCharge := retrieveCharge_held hsteady horder htoken hheld p.id payer hcharge
      refine ⟨s₁, some (.mk p.id paymentIntent none), hlease, ?_, fun r => ?_⟩
      · intro q hq
        cases hq
        rw [← hfact]
        exact ⟨hcontract.unpaid, rfl⟩
      · rw [← hfact, Worker.bind_of_ok (Worker.validate_of_ok rfl),
          Worker.bind_of_ok (Worker.validate_of_ok (a := ()) (by simp [hunpaid, require])),
          or_of_unbound hcharged]
        constructor
        · intro hok
          obtain ⟨charge, s₂, hcharge, hrest⟩ := Worker.bind_eq_ok hok
          obtain ⟨hundeclined, heq⟩ := (hasCharge _).1 hcharge
          cases heq
          replace hcharged : unboundOr claim.chargeId none = true := hundeclined ▸ hcharged
          rw [unboundOr_none] at hcharged
          exact ⟨⟨hundeclined, hcharged, payer, hpayer, hrequest, hown, haccount, hsession⟩,
            (Except.ok.inj hrest).symm⟩
        · rintro ⟨hpasses, rfl⟩
          rw [Worker.bind_of_ok ((hasCharge _).2 ⟨hpasses.undeclined, rfl⟩)]
          rfl

end

end StripeEntitlements
