import StripeEntitlements.Redelivery.Recoveries
import StripeEntitlements.Reference

/-!
# Redelivered Events Through the Processor

An Event of Stripe that was accepted once and arrives again under a new Event ID changes no
business row, in any reachable state, except after one branch: a paid whole-period Invoice
that was closed before its Event. That branch leaves the cursor alone, so the second
delivery takes the order of the Event and projects the paid status.

## Main results

- `dispatch_redelivered` — every handler but the blocked branch is idempotent
- `process_redelivered_iff` — the second delivery changes nothing exactly outside that branch
-/

namespace StripeEntitlements

open Relational

variable {cfg : Config} {tx tx' : Tx} {b b' : Billing} {e : Event} {id : Json}
  {effect effect' : Effect}

/-! ## Dispatch -/

theorem checkoutCompleted_orders (h : checkoutCompleted cfg b e = .ok effect) :
    effect.billing.orders = b.orders := by
  rcases Guarded.andThen_eq_ok h with ⟨hb, -⟩ | ⟨s, -, h⟩
  · rw [hb]
  · simp only [bind_eq_ok, Billing.update_eq_ok, pure_eq_ok] at h
    obtain ⟨_, ⟨accounts, -, rfl⟩, rfl⟩ := h
    rfl

theorem checkoutExpired_orders (h : checkoutExpired b e = .ok effect) :
    effect.billing.orders = b.orders := by
  rcases checkoutExpired_eq_ok h with hb | ⟨hb, -⟩ <;> rw [hb]

/-- Outside the blocked branch the second delivery changes nothing. -/
theorem dispatch_redelivered (hs : RecoveriesTake b) (he : e.remoteVerified = false)
    (hclosed : e.kind = .invoicePaid → paysClosedPeriod cfg b e = false)
    (h : dispatch cfg tx b e = .ok effect)
    (h' : dispatch cfg tx' effect.billing (e.redelivered id) = .ok effect') :
    effect'.billing = effect.billing := by
  unfold dispatch at h h'
  rw [Event.kind_redelivered] at h'
  -- one case for each kind of Event; only a paid Invoice needs the hypothesis
  cases hkind : e.kind <;> simp only [hkind] at h h'
  case paymentIntentSucceeded => exact paymentSucceeded_redelivered h h'
  case invoicePaid => exact invoicePaid_redelivered he (hclosed hkind) h h'
  case invoicePaymentFailed => exact paymentFailed_redelivered he h h'
  case customerSubscriptionUpdated => exact subscriptionUpdated_redelivered he h h'
  case customerSubscriptionDeleted => exact subscriptionDeleted_redelivered h h'
  -- a pack Charge is one by its metadata, which the redelivery keeps
  case chargeRefunded | chargeDisputeCreated =>
    cases hpack : packClawback cfg tx b e with
    | none =>
      rw [packClawback_none hpack] at h'
      rw [hpack] at h
      exact clawback_redelivered hs h h'
    | some run =>
      rw [hpack] at h
      cases hpack' : packClawback cfg tx' effect.billing (e.redelivered id) with
      | none =>
        have hnone : packClawback cfg tx b e = none :=
          packClawback_none (e := e.redelivered id) hpack'
        exact absurd (hpack.symm.trans hnone) (Option.some_ne_none _)
      | some run' =>
        rw [hpack'] at h'
        exact packClawback_redelivered hpack h hpack' h'
  -- whether a Session is a pack Checkout does not depend on what the first delivery wrote
  case checkoutSessionCompleted =>
    cases hpack : packCheckoutEvent cfg b e with
    | none =>
      rw [hpack] at h
      rw [packCheckoutEvent_none (checkoutCompleted_orders h) hpack] at h'
      exact checkoutCompleted_redelivered h h'
    | some run =>
      rw [hpack] at h
      obtain ⟨run', hpack', hagain⟩ := packCheckoutEvent_redelivered hpack h
      rw [hpack'] at h'
      exact hagain _ h'
  case checkoutSessionExpired =>
    cases hpack : packCheckoutEvent cfg b e with
    | none =>
      rw [hpack] at h
      rw [packCheckoutEvent_none (checkoutExpired_orders h) hpack] at h'
      exact checkoutExpired_redelivered h h'
    | some run =>
      rw [hpack] at h
      obtain ⟨run', hpack', hagain⟩ := packCheckoutEvent_redelivered hpack h
      rw [hpack'] at h'
      exact hagain _ h'
  case unsupported =>
    rw [pure_eq_ok] at h'
    exact h' ▸ rfl

/-! ## Process -/

/-- An Event as Stripe sends it: no reconciler vouches for it. -/
structure Event.FromStripe (e : Event) : Prop where
  unverified : e.remoteVerified = false
  unclaimed : e.packClaim.isNull = true

/-- The Event is well-named and new to the inbox, so the processor claims it. -/
structure Accepted (cfg : Config) (db : Db) (e : Event) : Prop where
  id : e.id.asStr.any (cfg.unicode.visible 512) = true
  type : e.type.asStr.any (cfg.unicode.visible 255) = true
  new : db.inbox.find? e.idText = none

/-- An accepted Event of Stripe commits its effect, its incidents and its inbox row. -/
theorem process_accepted {db : Db} (hstripe : e.FromStripe) (h : Accepted cfg db e) :
    process cfg tx db e = (do
      let effect ← processClaimed cfg tx db.billing e
      let incidents ← effect.incidents.foldlM (applyIncident tx (some e.idText)) db.incidents
      let inbox ← statement <| db.inbox.insert? {
        id := e.idText, outcome := effect.result.outcome, reason := effect.result.reason }
      pure ({ billing := effect.billing, inbox, incidents }, effect.result)) := by
  simp [process, h.id, h.type, h.new, packClaimCurrent, hstripe.unclaimed]

/-- The first delivery takes the branch of a paid period whose Invoice is already closed. -/
def blocksPaidPeriod (cfg : Config) (b : Billing) (e : Event) : Bool :=
  (eventShapeError e).isNone && (contractMismatch cfg e).isNone && e.kind = .invoicePaid &&
    paysClosedPeriod cfg b e

theorem processClaimed_redelivered (hs : RecoveriesTake b) (he : e.remoteVerified = false)
    (hclosed : blocksPaidPeriod cfg b e = false) (h : processClaimed cfg tx b e = .ok effect)
    (h' : processClaimed cfg tx' effect.billing (e.redelivered id) = .ok effect') :
    effect'.billing = effect.billing := by
  unfold processClaimed at h h'
  rw [show eventShapeError (e.redelivered id) = eventShapeError e from rfl,
    show contractMismatch cfg (e.redelivered id) = contractMismatch cfg e from rfl] at h'
  cases hshape : eventShapeError e with
  | some reason =>
    simp only [hshape, pure_eq_ok] at h'
    exact h' ▸ rfl
  | none =>
    cases hcontract : contractMismatch cfg e with
    | some reason =>
      simp only [hshape, hcontract, pure_eq_ok] at h'
      exact h' ▸ rfl
    | none =>
      simp only [hshape, hcontract] at h h'
      refine dispatch_redelivered hs he (fun hkind => ?_) h h'
      simpa [blocksPaidPeriod, hshape, hcontract, hkind] using hclosed

theorem processClaimed_blocked (he : e.remoteVerified = false)
    (hclosed : blocksPaidPeriod cfg b e = true) (h : processClaimed cfg tx b e = .ok effect) :
    ∃ effect', processClaimed cfg tx' effect.billing (e.redelivered id) = .ok effect' ∧
      effect'.incidents = [] ∧ effect'.billing ≠ effect.billing := by
  simp only [blocksPaidPeriod, Bool.and_eq_true, Option.isNone_iff_eq_none, decide_eq_true_eq]
    at hclosed
  obtain ⟨⟨⟨hshape, hcontract⟩, hkind⟩, hclosed⟩ := hclosed
  simp only [processClaimed, hshape, hcontract, dispatch, hkind] at h
  obtain ⟨effect', h', hincidents, hbilling⟩ := invoicePaid_blocked he hclosed h
  refine ⟨effect', ?_, hincidents, hbilling⟩
  unfold processClaimed
  rw [show eventShapeError (e.redelivered id) = eventShapeError e from rfl,
    show contractMismatch cfg (e.redelivered id) = contractMismatch cfg e from rfl, hshape,
    hcontract]
  simp only [dispatch, Event.kind_redelivered, hkind]
  exact h'

/-- **A second delivery changes no business row exactly outside the blocked branch.** There the
    Invoice was closed before it was paid: the first delivery grants nothing, and the second one
    takes the replay branch and activates the account. Every other handler finds its own rows and
    repeats nothing. -/
theorem process_redelivered_iff {db db₁ : Db} {result : ProcessResult} (hdb : Reachable cfg db)
    (hstripe : e.FromStripe) (haccepted : Accepted cfg db e)
    (h : process cfg tx db e = .ok (db₁, result))
    (hagain : Accepted cfg db₁ (e.redelivered id)) :
    (∀ tx' db₂ result', process cfg tx' db₁ (e.redelivered id) = .ok (db₂, result') →
      db₂.billing = db₁.billing) ↔ blocksPaidPeriod cfg db.billing e = false := by
  have hstripe' : (e.redelivered id).FromStripe := ⟨hstripe.unverified, hstripe.unclaimed⟩
  -- both deliveries are accepted, so each runs its handler
  rw [process_accepted hstripe haccepted] at h
  simp only [bind_eq_ok, pure_eq_ok] at h
  obtain ⟨effect, hclaimed, incidents, -, inbox, -, heq⟩ := h
  cases heq
  constructor
  -- conversely, the blocked branch is followed by a replay that activates the account
  · intro hsame
    by_contra hclosed
    rw [Bool.not_eq_false] at hclosed
    obtain ⟨effect', hclaimed', hincidents, hbilling⟩ : ∃ effect',
        processClaimed cfg tx effect.billing (e.redelivered id) = .ok effect' ∧
          effect'.incidents = [] ∧ effect'.billing ≠ effect.billing :=
      processClaimed_blocked hstripe.unverified hclosed hclaimed
    -- the second Event is new to the inbox, so its delivery goes through
    obtain ⟨inbox', hinbox⟩ : ∃ inbox', inbox.insert? {
        id := (e.redelivered id).idText, outcome := effect'.result.outcome
        reason := effect'.result.reason } = some inbox' :=
      Table.insert?_isSome hagain.new rfl fun _ hix => absurd hix List.not_mem_nil
    refine hbilling (hsame tx ⟨effect'.billing, inbox', incidents⟩ effect'.result ?_)
    rw [process_accepted hstripe' hagain]
    simp only [hclaimed', bind_eq_ok, Except.ok.injEq, pure_eq_ok]
    refine ⟨effect', rfl, incidents, ?_, inbox', ?_, rfl⟩
    · rw [hincidents]
      rfl
    · rw [hinbox]
      rfl
  · intro hclosed tx' db₂ result' h'
    rw [process_accepted hstripe' hagain] at h'
    simp only [bind_eq_ok, pure_eq_ok] at h'
    obtain ⟨effect', hclaimed', incidents', -, inbox', -, heq⟩ := h'
    cases heq
    exact processClaimed_redelivered hdb.recoveriesTake hstripe.unverified hclosed hclaimed hclaimed'

/-! ## A first Invoice, paid and refunded -/

/-- A second delivery of an ordinary payment changes nothing. -/
theorem process_redelivered_paidFirst :
    ∃ db₁ result,
      process referenceConfig ⟨0, 0, fun _ => ""⟩ (checkoutDb "pro" .month) paidFirst =
        .ok (db₁, result) ∧
      ∀ tx' db₂ result',
        process referenceConfig tx' db₁ (paidFirst.redelivered (.str "evt_again")) =
          .ok (db₂, result') → db₂.billing = db₁.billing := by
  have hok : (process referenceConfig ⟨0, 0, fun _ => ""⟩ (checkoutDb "pro" .month)
      paidFirst).map (fun x => (x.1.inbox.find? "evt_again").isNone) = .ok true := by
    decide +kernel
  rw [map_eq_ok] at hok
  obtain ⟨⟨db₁, result⟩, hrun, hnew⟩ := hok
  refine ⟨db₁, result, hrun, ?_⟩
  have hagain : Accepted referenceConfig db₁ (paidFirst.redelivered (.str "evt_again")) :=
    ⟨by decide +kernel, by decide +kernel, Option.isNone_iff_eq_none.1 hnew⟩
  refine (process_redelivered_iff (checkoutDb_reachable _ _) ⟨rfl, rfl⟩
    ⟨by decide +kernel, by decide +kernel, by decide +kernel⟩ hrun hagain).2 ?_
  decide +kernel

/-- **The refund came first**: the payment is ignored, and its second delivery activates the
    account. -/
theorem redelivered_payment_activates :
    ¬ ∀ (db db₁ db₂ : Db) (e : Event) (id : Json) (tx tx' : Tx) (result result' : ProcessResult),
      Reachable referenceConfig db → e.FromStripe → Accepted referenceConfig db e →
      process referenceConfig tx db e = .ok (db₁, result) →
      Accepted referenceConfig db₁ (e.redelivered id) →
      process referenceConfig tx' db₁ (e.redelivered id) = .ok (db₂, result') →
      db₂.statuses = db₁.statuses := by
  intro hclaim
  let tx₀ : Tx := ⟨0, 0, fun _ => ""⟩
  let again := paidFirst.redelivered (.str "evt_again")
  -- the run up to each delivery, evaluated: the refund, the payment after it, the payment again
  have hrefund : (processAll referenceConfig tx₀ (checkoutDb "pro" .month)
      [refundedFirst]).map (fun db => (db.inbox.find? "evt_paid").isNone) = .ok true := by
    decide +kernel
  have hpaid : (processAll referenceConfig tx₀ (checkoutDb "pro" .month)
      [refundedFirst, paidFirst]).map
        (fun db => (db.statuses, (db.inbox.find? "evt_again").isNone)) = .ok ([.none], true) := by
    decide +kernel
  have hagain : (processAll referenceConfig tx₀ (checkoutDb "pro" .month)
      [refundedFirst, paidFirst, again]).map Db.statuses = .ok [.active] := by
    decide +kernel
  simp only [map_eq_ok, processAll, bind_eq_ok, Except.ok.injEq, Prod.mk.injEq,
    Option.isNone_iff_eq_none] at hrefund hpaid hagain
  obtain ⟨_, ⟨⟨db, _⟩, hdb, rfl⟩, hfresh⟩ := hrefund
  obtain ⟨_, ⟨⟨db', _⟩, hdb', ⟨db₁, result⟩, hdb₁, rfl⟩, hnone, hfresh'⟩ := hpaid
  obtain ⟨_, ⟨⟨db'', _⟩, hdb'', ⟨db₁', _⟩, hdb₁', ⟨db₂, result'⟩, hdb₂, rfl⟩, hactive⟩ := hagain
  -- the three runs start alike, so their states are the same ones
  cases hdb.symm.trans hdb'
  cases hdb.symm.trans hdb''
  cases hdb₁.symm.trans hdb₁'
  have hreach : Reachable referenceConfig db :=
    (checkoutDb_reachable "pro" .month).tail (.event hdb)
  -- the claim for these two deliveries would keep the status, and it moves from `none` to
  -- `active`
  have hsame := hclaim db db₁ db₂ paidFirst (.str "evt_again") tx₀ tx₀ result result' hreach
    ⟨rfl, rfl⟩ ⟨by decide +kernel, by decide +kernel, hfresh⟩ hdb₁
    ⟨by decide +kernel, by decide +kernel, hfresh'⟩ hdb₂
  rw [hnone, hactive] at hsame
  cases hsame

end StripeEntitlements
