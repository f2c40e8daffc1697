import StripeEntitlements.Reconcile.Runtimes
import StripeEntitlements.Snapshots.Light

/-!
# Contracts of Unpaid Checkouts

The remote states of a Checkout that nobody paid, as Stripe shows them: an expired Session, and
the PaymentIntent that was abandoned or whose card was declined. The validators accept some of
them; what they accept, the handler of the expired Session accepts as well.

## Main results

- `validateSession_unpaid` — which expired Sessions pass
- `validatePaymentIntent_unpaid` — which unpaid PaymentIntents pass
- `validateCharge_unpaid` — no unpaid Charge does
-/

namespace StripeEntitlements

open Relational

/-! ## Reading -/

section

variable {u : Unicode} {value : Json} {pre code id : String} {found : Option String}

theorem asStr_of_isNull {v : Json} (h : v.isNull = true) : v.asStr = none := by
  cases v <;> first | rfl | cases h

theorem asId_eq : u.asId value = value.identity.asStr.filter (u.visible 512) := rfl

theorem remoteId_eq_ok : remoteId u value pre code = .ok id ↔ u.remoteId value pre = some id :=
  fetch_eq_ok

theorem optionalRemoteId_eq_ok : optionalRemoteId u value pre code = .ok found ↔
    (value.identity.isNull = true ∧ found = none) ∨
      (value.identity.isNull = false ∧
        ∃ id, found = some id ∧ u.remoteId value pre = some id) := by
  unfold optionalRemoteId
  split
  case isTrue hnull =>
    rw [hnull, Except.ok.injEq]
    rw [eq_comm]
    simp
  case isFalse hnull =>
    rw [Bool.not_eq_true] at hnull
    simp only [map_eq_ok, remoteId_eq_ok, hnull, Bool.false_eq_true, false_and, false_or, true_and]
    constructor
    · rintro ⟨id, hid, rfl⟩
      exact ⟨id, rfl, hid⟩
    · rintro ⟨id, rfl, hid⟩
      exact ⟨id, hid, rfl⟩

/-- What one kind of identity passes for, whether it is required or not. -/
theorem optionalRemoteId_some (other : String)
    (h : optionalRemoteId u value pre code = .ok (some id)) : remoteId u value pre other = .ok id := by
  rcases optionalRemoteId_eq_ok.1 h with ⟨-, hnone⟩ | ⟨-, _, hsome, hid⟩
  · cases hnone
  · cases hsome
    exact remoteId_eq_ok.2 hid

theorem optionalRemoteId_none (other : String)
    (h : optionalRemoteId u value pre code = .ok none) :
    remoteId u value pre other = .error other := by
  rcases optionalRemoteId_eq_ok.1 h with ⟨hnull, -⟩ | ⟨-, _, hsome, -⟩
  · rw [remoteId, Unicode.remoteId, asStr_of_isNull hnull]
    rfl
  · cases hsome

theorem visible_mono {limit limit' : Nat} {text : String} (h : u.visible limit text = true)
    (hle : limit ≤ limit') : u.visible limit' text = true := by
  simp only [Unicode.visible, Bool.and_eq_true, decide_eq_true_eq] at h ⊢
  exact ⟨⟨⟨⟨h.1.1.1.1, h.1.1.1.2.trans hle⟩, h.1.1.2⟩, h.1.2⟩, h.2⟩

/-- The processor reads the identities that the reconciler read. -/
theorem stripeId_of_remoteId (h : u.remoteId value pre = some id) : u.stripeId value pre = some id := by
  obtain ⟨hsome, hid⟩ := Option.filter_eq_some_iff.1 h
  rw [Bool.and_eq_true] at hid
  rw [Unicode.stripeId, asId_eq, hsome, Option.filter_some,
    if_pos (visible_mono hid.2 (by decide)), Option.filter_some, if_pos hid.1]

theorem stripeId_of_optionalRemoteId (h : optionalRemoteId u value pre code = .ok found) :
    u.stripeId value pre = found := by
  rcases optionalRemoteId_eq_ok.1 h with ⟨hnull, rfl⟩ | ⟨-, id, rfl, hid⟩
  · rw [Unicode.stripeId, asId_eq, asStr_of_isNull hnull]
    rfl
  · exact stripeId_of_remoteId hid

end

section

variable {rt : ReconcilerRuntime} {value : Json} {code : String} {n : Nat}

theorem remoteInteger_eq_ok : rt.remoteInteger value code = .ok n ↔
    rt.integer value = some (n : Int) ∧ n ≤ postgresBigintMax := by
  unfold ReconcilerRuntime.remoteInteger
  rw [fetch_eq_ok, Option.map_eq_some_iff]
  constructor
  · rintro ⟨m, hm, rfl⟩
    obtain ⟨hsome, hbounds⟩ := Option.filter_eq_some_iff.1 hm
    simp only [Bool.and_eq_true, decide_eq_true_eq] at hbounds
    rw [Int.toNat_of_nonneg hbounds.1]
    exact ⟨hsome, by omega⟩
  · rintro ⟨hsome, hle⟩
    refine ⟨(n : Int), ?_, Int.toNat_natCast n⟩
    rw [hsome, Option.filter_some, if_pos]
    simp only [Bool.and_eq_true, decide_eq_true_eq]
    omega

theorem member_eq_ok {allowed : List String} {status : String} :
    rt.member value allowed code = .ok status ↔ value = .str status ∧ status ∈ allowed := by
  simp only [ReconcilerRuntime.member, bind_eq_ok, require_eq_ok, fetch_eq_ok,
    Option.filter_eq_some_iff, List.contains_iff_mem]
  constructor
  · rintro ⟨_, -, hsome, hmem⟩
    cases value <;> cases hsome
    exact ⟨rfl, hmem⟩
  · rintro ⟨rfl, hmem⟩
    exact ⟨(), by simp [Json.hashable], rfl, hmem⟩

end

/-! ## Remote states -/

/-- An expired Session of a leased order that nobody paid, without the members whose name starts
    with an underscore. -/
structure ExpiredSession (rt : ReconcilerRuntime) (claim : CreditPackReconcileClaim)
    (sessionId : String) (raw : Json) (customerId paymentIntentId : Option String)
    (created : Nat) : Prop where
  shape : raw.isObj = true
  id : raw.get "id" = .str sessionId
  remoteId : rt.cfg.unicode.remoteId (.str sessionId) "cs_" = some sessionId
  object : (raw.get "object").asStr = some "checkout.session"
  mode : (raw.get "mode").asStr = some "payment"
  status : raw.get "status" = .str "expired"
  unpaid : raw.get "payment_status" = .str "unpaid"
  livemode : rt.modeMatches raw = true
  reference : (raw.get "client_reference_id").asStr = some claim.accountId
  metadata : rt.metadataMatches claim raw = true
  amount : rt.remoteInteger (raw.get "amount_total") "checkout_amount_invalid" =
    .ok claim.priceAmount
  currency : (raw.get "currency").asStr = some claim.currency
  paymentIntent : optionalRemoteId rt.cfg.unicode (raw.get "payment_intent") "pi_"
    "checkout_payment_identity_invalid" = .ok paymentIntentId
  customer : optionalRemoteId rt.cfg.unicode (raw.get "customer") "cus_"
    "checkout_customer_identity_invalid" = .ok customerId
  compatible : unboundOr claim.requestCustomerId customerId = true
  created : rt.remoteInteger (raw.get "created") "checkout_created_invalid" = .ok created

/-- A PaymentIntent of a leased order that has not succeeded. -/
structure UnpaidPaymentIntent (rt : ReconcilerRuntime) (claim : CreditPackReconcileClaim)
    (paymentIntentId : String) (raw : Json) (state : String) (customerId chargeId : Option String)
    (paid created : Nat) : Prop where
  shape : raw.isObj = true
  id : raw.get "id" = .str paymentIntentId
  remoteId : rt.cfg.unicode.remoteId (.str paymentIntentId) "pi_" = some paymentIntentId
  object : (raw.get "object").asStr = some "payment_intent"
  status : raw.get "status" = .str state
  known : state ∈ paymentIntentStatuses
  unpaid : state ≠ "succeeded"
  livemode : rt.modeMatches raw = true
  metadata : rt.metadataMatches claim raw = true
  amount : rt.remoteInteger (raw.get "amount") "payment_intent_amount_invalid" =
    .ok claim.priceAmount
  received : rt.remoteInteger (raw.get "amount_received") "payment_intent_received_invalid" =
    .ok paid
  receivedLe : paid ≤ claim.priceAmount
  currency : (raw.get "currency").asStr = some claim.currency
  customer : optionalRemoteId rt.cfg.unicode (raw.get "customer") "cus_"
    "payment_intent_customer_invalid" = .ok customerId
  charge : optionalRemoteId rt.cfg.unicode (raw.get "latest_charge") "ch_"
    "payment_intent_charge_invalid" = .ok chargeId
  created : rt.remoteInteger (raw.get "created") "payment_intent_created_invalid" = .ok created

/-! ## What passes -/

section

variable {rt : ReconcilerRuntime} {claim : CreditPackReconcileClaim} {value : Json}

theorem validateSession_unpaid {sessionId : String} {customerId paymentIntentId : Option String}
    {created : Nat} {fact : SessionFact} (hsession : claim.sessionId = some sessionId)
    (h : ExpiredSession rt claim sessionId (remoteCopy value) customerId paymentIntentId created) :
    validateSession rt claim value = .ok fact ↔
      unboundOr claim.paymentIntentId paymentIntentId = true ∧
      unboundOr claim.orderCustomerId customerId = true ∧
      unboundOr claim.accountCustomerId customerId = true ∧
      { raw := remoteCopy value, status := "expired", paymentStatus := "unpaid"
        paymentIntentId, customerId, created } = fact := by
  have hid : remoteId rt.cfg.unicode ((remoteCopy value).get "id") "cs_"
      "checkout_identity_invalid" = .ok sessionId := by
    rw [h.id]
    exact remoteId_eq_ok.2 h.remoteId
  have hstatus : rt.member ((remoteCopy value).get "status") checkoutStatuses
      "checkout_contract_mismatch" = .ok "expired" := member_eq_ok.2 ⟨h.status, by decide⟩
  have hunpaid : rt.member ((remoteCopy value).get "payment_status") checkoutPaymentStatuses
      "checkout_contract_mismatch" = .ok "unpaid" := member_eq_ok.2 ⟨h.unpaid, by decide⟩
  have hopen : decide ("expired" ≠ "complete") = true := rfl
  simp only [validateSession, h.shape, hid, hstatus, hunpaid, h.object, h.mode, h.livemode,
    h.reference, h.metadata, h.amount, h.currency, h.paymentIntent, h.customer, h.compatible,
    h.created, hsession, hopen, bind_eq_ok, require_eq_ok, pure_eq_ok, Except.ok.injEq,
    exists_eq_left', Bool.and_eq_true, decide_eq_true_eq, Bool.true_or, exists_const, true_and,
    and_assoc]

theorem validatePaymentIntent_unpaid {paymentIntentId state : String}
    {customerId chargeId sessionCustomerId : Option String} {paid created : Nat}
    {fact : PaymentIntentFact} (hpending : claim.paymentStatus = .pending)
    (hpaid : claim.amountPaid = none)
    (h : UnpaidPaymentIntent rt claim paymentIntentId (remoteCopy value) state customerId chargeId
      paid created) :
    validatePaymentIntent rt claim value paymentIntentId sessionCustomerId = .ok fact ↔
      ∃ payer, customerId = some payer ∧
        unboundOr claim.requestCustomerId (some payer) = true ∧
        unboundOr claim.orderCustomerId (some payer) = true ∧
        unboundOr claim.accountCustomerId (some payer) = true ∧
        unboundOr sessionCustomerId (some payer) = true ∧
        unboundOr claim.chargeId chargeId = true ∧
        { raw := remoteCopy value, status := state, customerId := payer, chargeId
          created } = fact := by
  have hid : remoteId rt.cfg.unicode ((remoteCopy value).get "id") "pi_"
      "payment_intent_identity_invalid" = .ok paymentIntentId := by
    rw [h.id]
    exact remoteId_eq_ok.2 h.remoteId
  have hstate : rt.member ((remoteCopy value).get "status") paymentIntentStatuses
      "payment_intent_contract_mismatch" = .ok state := member_eq_ok.2 ⟨h.status, h.known⟩
  have hunpaid : decide (state ≠ "succeeded") = true := by simpa using h.unpaid
  cases customerId with
  | none =>
    -- a PaymentIntent without a Customer is refused before anything else is looked at
    have hnobody := optionalRemoteId_none "payment_intent_customer_invalid" h.customer
    simp only [validatePaymentIntent, hid, hnobody, bind_eq_ok, reduceCtorEq, false_and,
      exists_false, and_false]
  | some payer =>
    have hpayer := optionalRemoteId_some "payment_intent_customer_invalid" h.customer
    simp only [validatePaymentIntent, h.shape, hid, hpayer, h.amount, h.received, h.object, hstate,
      h.livemode, h.metadata, h.receivedLe, h.currency, h.charge, h.created, hpending, hpaid,
      hunpaid, bind_eq_ok, require_eq_ok, pure_eq_ok, Except.ok.injEq, exists_eq_left',
      Bool.and_eq_true, decide_eq_true_eq, Bool.true_or, exists_const, true_and, and_assoc,
      Option.all_none, Option.some.injEq, decide_true]

/-- **An unpaid Charge** never passes. -/
theorem validateCharge_unpaid {chargeId paymentIntentId customerId : String} {fact : ChargeFact}
    (h : ((remoteCopy value).get "paid").isTrue = false) :
    validateCharge rt claim value chargeId paymentIntentId customerId ≠ .ok fact := by
  intro hok
  simp only [validateCharge, h, bind_eq_ok, require_eq_ok, Bool.and_false, Bool.false_eq_true,
    false_and, exists_false, and_false] at hok

end

end StripeEntitlements
