import StripeEntitlements.Reconcile.ExpiredSession
import StripeEntitlements.Reconcile.Retrieval

/-!
# The Projection of an Expired Session

The synthetic Event of an expired Session under its lease gets past every check that `process`
makes before the handler, in both runtimes. What is left is whether the handler accepts it, or
what the inbox says of an Event that was projected before.

## Main results

- `processBy_fenced` — what a projection under its lease comes to
- `project_held` — which expiries are projected, and what they leave
-/

namespace StripeEntitlements

open Relational

/-! ## The Event -/

/-- What Python and Node document of a SHA-256 digest in hex. -/
structure HexDigest (digest : String → String) : Prop where
  length : ∀ text, (digest text).length = 64
  chars : ∀ text, ∀ c ∈ (digest text).toList, c ∈ "0123456789abcdef".toList

section

variable {w : PackWorker} {claim : CreditPackReconcileClaim}

/-- The id under which an expired Session is projected. -/
def PackWorker.expiryEventId (w : PackWorker) (claim : CreditPackReconcileClaim)
    (paymentIntentId : Option String) : String :=
  w.factEventId "checkout" [claim.orderId, w.identityText claim.sessionId, "expired",
    w.identityText paymentIntentId]

theorem expiryEventId_visible (hu : w.rt.cfg.unicode.Lawful) (hdigest : HexDigest w.rt.digest)
    (paymentIntentId : Option String) :
    w.rt.cfg.unicode.visible 512 (w.expiryEventId claim paymentIntentId) = true := by
  have hhex : ∀ c ∈ "0123456789abcdef".toList, isAsciiText c = true :=
    List.all_eq_true.1 (by decide)
  have hfront : ∀ c ∈ "reconcile:credit-pack:checkout:".toList, isAsciiText c = true :=
    List.all_eq_true.1 (by decide)
  obtain ⟨fingerprint, hfingerprint⟩ : ∃ fingerprint,
      w.expiryEventId claim paymentIntentId =
        "reconcile:credit-pack:checkout:" ++ w.rt.digest fingerprint := ⟨_, rfl⟩
  rw [hfingerprint]
  refine visible_of_ascii hu ?_ ?_ ?_
  · intro hempty
    have hlength := congrArg String.length hempty
    rw [String.length_append, hdigest.length] at hlength
    simp at hlength
  · intro c hc
    rw [String.toList_append, List.mem_append] at hc
    rcases hc with hc | hc
    · exact hfront c hc
    · exact hhex c (hdigest.chars _ c hc)
  · rw [String.length_append, hdigest.length]
    decide

end

/-- The fact of an expired Session. -/
structure ExpiryFact (fact : SyntheticFact) (raw : Json) (created : Nat) : Prop where
  eventType : fact.eventType = "checkout.session.expired"
  created : fact.created = created
  object : .obj fact.obj = raw

section

variable {rt : ReconcilerRuntime} {claim : CreditPackReconcileClaim} {fact : SyntheticFact}
  {raw : Json} {sessionId : String} {customerId paymentIntentId : Option String} {created : Nat}
  {tx : Tx} {b : Billing} {account : Account} {o : PackOrder}

theorem ExpiryFact.event (rt : ReconcilerRuntime) (claim : CreditPackReconcileClaim)
    (hfact : ExpiryFact fact raw created) :
    ExpiryEvent (claim.event rt.cfg fact) raw where
  kind := by
    show ((Json.str fact.eventType).asStr.map EventType.parse).getD .unsupported = _
    rw [hfact.eventType]
    rfl
  object := hfact.object

theorem ExpiredSession.id_visible
    (h : ExpiredSession rt claim sessionId raw customerId paymentIntentId created) :
    (raw.get "id").asStr.any (· ≠ "") = true := by
  rw [h.id]
  show decide (sessionId ≠ "") = true
  rw [decide_eq_true_eq]
  rintro rfl
  have hread := h.remoteId
  simp [Unicode.remoteId, Json.identity, Json.isObj, Json.asStr] at hread

/-! ## Before the handler -/

theorem eventShapeError_expired (hfact : ExpiryFact fact raw created)
    (h : ExpiredSession rt claim sessionId raw customerId paymentIntentId created) :
    eventShapeError (claim.event rt.cfg fact) = none := by
  have hevent := hfact.event rt claim
  have hbound := (remoteInteger_eq_ok.1 h.created).2
  have hcreated : (claim.event rt.cfg fact).created.asInt.any
      (fun n : Int => 0 ≤ n && n ≤ (postgresBigintMax : Int)) = true := by
    show (0 ≤ fact.created && fact.created ≤ (postgresBigintMax : Int)) = true
    rw [hfact.created, Bool.and_eq_true, decide_eq_true_eq, decide_eq_true_eq]
    omega
  have hid := h.id_visible
  simp only [eventShapeError, hevent.kind, hevent.object, hcreated, h.shape, hid]
  rfl

theorem TypeScript.eventShapeError_expired (hinteger : rt.integer = safeInteger)
    (hfact : ExpiryFact fact raw created)
    (h : ExpiredSession rt claim sessionId raw customerId paymentIntentId created) :
    TypeScript.eventShapeError (claim.event rt.cfg fact) = none := by
  have hevent := hfact.event rt claim
  obtain ⟨hread, hbound⟩ := remoteInteger_eq_ok.1 h.created
  rw [hinteger] at hread
  have hcreated : (stripeNonnegativeInteger (claim.event rt.cfg fact).created).any
      (· ≤ postgresBigintMax) = true := by
    show (((safeInteger (.int fact.created)).filter (0 ≤ ·)).map Int.toNat).any
      (· ≤ postgresBigintMax) = true
    rw [hfact.created, safeInteger_eq_some hread, Option.filter_some, if_pos (by simp)]
    simpa using hbound
  have hid := h.id_visible
  simp only [TypeScript.eventShapeError, hevent.kind, hevent.object, hcreated, h.shape, hid]
  rfl

/-- **Python** expires the order of the Session. -/
theorem processClaimed_expired (hinteger : rt.integer = Json.asInt)
    (hfact : ExpiryFact fact raw created)
    (h : ExpiredSession rt claim sessionId raw customerId paymentIntentId created)
    (ho : LeasedOrder claim account o) (hrow : b.orders.find? o.id = some o)
    (haccount : b.accounts.find? o.accountId = some account)
    (hsession : claim.sessionId = some sessionId)
    (hid : canonicalUuid o.id = some o.id) (howner : canonicalUuid o.accountId = some o.accountId) :
    Expires b o (processClaimed rt.cfg tx b (claim.event rt.cfg fact)) := by
  have hevent := hfact.event rt claim
  obtain ⟨run, hrun, hexpires⟩ :=
    packCheckoutEvent_expired hevent h ho hinteger hrow haccount hsession hid howner
  have hcontract : contractMismatch rt.cfg (claim.event rt.cfg fact) = none := rfl
  simp only [processClaimed, eventShapeError_expired hfact h, hcontract, dispatch, hevent.kind, hrun,
    Option.getD_some]
  exact hexpires

namespace TypeScript

/-- **TypeScript** expires it when the Session names a Customer, and refuses it otherwise. -/
theorem processClaimed_expired {handlers : Handlers} (hinteger : rt.integer = safeInteger)
    (hfact : ExpiryFact fact raw created)
    (h : ExpiredSession rt claim sessionId raw customerId paymentIntentId created)
    (ho : LeasedOrder claim account o) (hrow : b.orders.find? o.id = some o)
    (haccount : b.accounts.find? o.accountId = some account)
    (hsession : claim.sessionId = some sessionId)
    (hid : canonicalUuid o.id = some o.id) (howner : canonicalUuid o.accountId = some o.accountId) :
    if customerId.isSome then
      Expires b o (processClaimed handlers rt.cfg tx b (claim.event rt.cfg fact))
    else
      Refuses (processClaimed handlers rt.cfg tx b (claim.event rt.cfg fact)) := by
  have hevent := hfact.event rt claim
  -- no contract of the reconciler forbids the projection of an expiry
  have hcontract : contractMismatch rt.cfg (claim.event rt.cfg fact) = none := rfl
  have hshape := eventShapeError_expired hinteger hfact h
  -- whether the Session names a Customer decides between expiring and refusing
  cases customerId with
  | none =>
    obtain ⟨run, hrun, hrefuses⟩ :=
      packCheckoutEvent_unnamed hevent h ho hinteger hrow haccount hsession hid howner
    simp only [processClaimed, hshape, hcontract, dispatch, hevent.kind, hrun, Option.getD_some]
    exact hrefuses
  | some customer =>
    obtain ⟨run, hrun, hexpires⟩ :=
      packCheckoutEvent_expired hevent h ho hinteger hrow haccount hsession rfl hid howner
    simp only [processClaimed, hshape, hcontract, dispatch, hevent.kind, hrun, Option.getD_some]
    exact hexpires

end TypeScript

end

/-! ## Under the lease -/

section

variable {cfg : Config} {claimed : Tx → Billing → Event → Transaction Effect} {tx : Tx} {db : Db}
  {b : Billing} {claim : CreditPackReconcileClaim} {fact : SyntheticFact} {account : Account}
  {o : PackOrder}

/-- Identities of the database are UUIDs, in the text PostgreSQL writes. -/
structure CreditPackReconcileClaim.Canonical (claim : CreditPackReconcileClaim) : Prop where
  order : canonicalUuid claim.orderId = some claim.orderId
  account : canonicalUuid claim.accountId = some claim.accountId
  token : canonicalUuid claim.token = some claim.token

/-- A worker that holds its lease gets past the fence. -/
theorem packClaimCurrent_of_holds (hids : claim.Canonical) (hrow : b.orders.find? claim.orderId = some o)
    (howner : o.accountId = claim.accountId)
    (haccount : b.accounts.find? claim.accountId = some account)
    (hholds : claim.holds tx.wall o = true) :
    packClaimCurrent tx b (claim.event cfg fact) = true := by
  simp only [CreditPackReconcileClaim.holds, Bool.and_eq_true, decide_eq_true_eq] at hholds
  have hread : ∀ {id : String}, canonicalUuid id = some id →
      ((Json.str id).asStr.filter fun raw => canonicalUuid raw = some raw) = some id := by
    intro id hid
    show (some id).filter _ = some id
    rw [Option.filter_some, if_pos (decide_eq_true hid)]
  have horder : ((claim.event cfg fact).packClaim.get "order_id").asStr.filter
      (fun raw => canonicalUuid raw = some raw) = some claim.orderId := hread hids.order
  have howned : ((claim.event cfg fact).packClaim.get "account_id").asStr.filter
      (fun raw => canonicalUuid raw = some raw) = some claim.accountId := hread hids.account
  have htoken : ((claim.event cfg fact).packClaim.get "token").asStr.filter
      (fun raw => canonicalUuid raw = some raw) = some claim.token := hread hids.token
  have hnull : (claim.event cfg fact).packClaim.isNull = false := rfl
  have hverified : (claim.event cfg fact).remoteVerified = true := rfl
  simp only [packClaimCurrent, hnull, hverified, horder, howned, htoken, haccount, hrow, howner,
    hholds.1.2, hholds.2, Option.isSome_some, Option.any_some, decide_true, Bool.and_self,
    Bool.false_eq_true, if_false]

/-- **A projection under its lease** is in the inbox already, or comes to its handler. -/
theorem processBy_fenced (claimed : Tx → Billing → Event → Transaction Effect)
    (hid : cfg.unicode.visible 512 fact.eventId = true)
    (htype : cfg.unicode.visible 255 fact.eventType = true)
    (hcurrent : packClaimCurrent tx db.billing (claim.event cfg fact) = true) :
    processBy cfg claimed tx db (claim.event cfg fact) =
      if (db.inbox.find? fact.eventId).isSome then
        .ok (db, { outcome := .duplicate, reason := some "event id already committed" })
      else (do
        let effect ← claimed tx db.billing (claim.event cfg fact)
        let incidents ← effect.incidents.foldlM (applyIncident tx (some fact.eventId)) db.incidents
        let inbox ← statement <| db.inbox.insert? {
          id := fact.eventId, outcome := effect.result.outcome, reason := effect.result.reason }
        pure ({ billing := effect.billing, inbox, incidents }, effect.result)) := by
  have hvisible : (claim.event cfg fact).id.asStr.any (cfg.unicode.visible 512) = true := hid
  have hkind : (claim.event cfg fact).type.asStr.any (cfg.unicode.visible 255) = true := htype
  rw [processBy, hvisible, hkind, hcurrent]
  rfl

/-- A fresh Event whose handler expires the order is committed beside it. -/
theorem processBy_expires (hid : cfg.unicode.visible 512 fact.eventId = true)
    (htype : cfg.unicode.visible 255 fact.eventType = true)
    (hcurrent : packClaimCurrent tx db.billing (claim.event cfg fact) = true)
    (hfresh : db.inbox.find? fact.eventId = none)
    (hexpires : Expires db.billing o (claimed tx db.billing (claim.event cfg fact))) :
    ∃ orders inbox result, processBy cfg claimed tx db (claim.event cfg fact) =
        .ok ({ db with billing := { db.billing with orders }, inbox }, result) ∧
      result.outcome = .handled ∧
      orders.find? o.id = some { o with checkoutStatus := .expired, sessionUrl := none } ∧
      ∃ r, inbox.find? fact.eventId = some r ∧ r.outcome = .handled := by
  obtain ⟨effect, orders, hrun, hquiet, houtcome, hbilling, hself⟩ := hexpires
  -- the inbox row that the processor inserts, which is new by `hfresh`
  let row : InboxRow := {
    id := fact.eventId, outcome := effect.result.outcome, reason := effect.result.reason }
  obtain ⟨inbox, hinbox⟩ : ∃ inbox, db.inbox.insert? row = some inbox :=
    Table.insert?_isSome hfresh rfl nofun
  have hfound : inbox.find? fact.eventId = some row :=
    (Table.find?_insert hinbox fact.eventId).trans (if_pos rfl)
  refine ⟨orders, inbox, effect.result, ?_, houtcome, hself, row, hfound, houtcome⟩
  rw [processBy_fenced claimed hid htype hcurrent, hfresh, hrun]
  show (do
    let incidents ← effect.incidents.foldlM (applyIncident tx (some fact.eventId)) db.incidents
    let inbox ← statement (db.inbox.insert? row)
    pure (Db.mk effect.billing inbox incidents, effect.result)) = _
  rw [hquiet, hinbox, hbilling]
  rfl

/-- A fresh Event that its handler refuses is never handled. -/
theorem processBy_refuses (hid : cfg.unicode.visible 512 fact.eventId = true)
    (htype : cfg.unicode.visible 255 fact.eventType = true)
    (hcurrent : packClaimCurrent tx db.billing (claim.event cfg fact) = true)
    (hfresh : db.inbox.find? fact.eventId = none)
    (hrefuses : Refuses (claimed tx db.billing (claim.event cfg fact))) {db' : Db}
    {result : ProcessResult}
    (h : processBy cfg claimed tx db (claim.event cfg fact) = .ok (db', result)) :
    result.outcome = .ignored ∧
      result.reason = some "credit-pack Checkout contract is conflicting" := by
  obtain ⟨effect, hrun, houtcome, hreason⟩ := hrefuses
  rw [processBy_fenced claimed hid htype hcurrent, hfresh, hrun] at h
  obtain ⟨_, heffect, h⟩ := bind_eq_ok.1 h
  cases heffect
  obtain ⟨incidents, -, h⟩ := bind_eq_ok.1 h
  obtain ⟨inbox, -, h⟩ := bind_eq_ok.1 h
  have hresult := pure_eq_ok.1 h
  cases hresult
  exact ⟨houtcome, hreason⟩

end

/-! ## The projection -/

section

variable {w : PackWorker} {db : Db} {o : PackOrder} {claim : CreditPackReconcileClaim} {n : Nat}
  {s s₁ : WorkerState} {fact : SyntheticFact}

/-- What follows the transaction of a projection. -/
theorem project_of_process (hrenew : w.renew claim s = .ok ((), s₁)) {db' : Db}
    {result : ProcessResult}
    (hprocess : w.rt.process (w.clock s₁.step) s₁.db (claim.event w.rt.cfg fact) =
      .ok (db', result)) :
    w.project claim fact s =
      (if result.outcome = .ignored &&
          result.reason = some "credit-pack reconciliation lease lost" then
        Worker.raise .leaseLost
      else if PackWorker.settledOutcome result.outcome || (result.outcome = .duplicate &&
          (db'.inbox.find? fact.eventId).any fun row => PackWorker.settledOutcome row.outcome) then
        modify fun s => { s with projections := s.projections ++ [result] }
      else
        Worker.raise (.failed "CreditPackProjectionError"))
      { s₁ with db := db', step := s₁.step + 1 } := by
  have htransaction : w.transaction
      (fun tx db => w.rt.process tx db (claim.event w.rt.cfg fact)) s₁ =
        .ok (result, { s₁ with db := db', step := s₁.step + 1 }) := by
    rw [PackWorker.transaction, hprocess]
  rw [PackWorker.project, Worker.bind_of_ok hrenew, Worker.bind_of_ok htransaction]
  rfl

theorem project_of_failed (hrenew : w.renew claim s = .ok ((), s₁)) {failure : Failure}
    (hprocess : w.rt.process (w.clock s₁.step) s₁.db (claim.event w.rt.cfg fact) = .error failure)
    (r : Unit × WorkerState) : w.project claim fact s ≠ .ok r := by
  have htransaction : w.transaction
      (fun tx db => w.rt.process tx db (claim.event w.rt.cfg fact)) s₁ =
        .error (.failed (w.rt.className failure), { s₁ with step := s₁.step + 1 }) := by
    rw [PackWorker.transaction, hprocess]
  rw [PackWorker.project, Worker.bind_of_ok hrenew, Worker.bind_of_error htransaction]
  simp

/-- What a projection leaves: the order in this status, still leased, and the Event in the inbox
    with an outcome that settles it. -/
structure ProjectedExpiry (w : PackWorker) (claim : CreditPackReconcileClaim) (eventId : String)
    (status : CheckoutStatus) (s : WorkerState) : Prop where
  row : ∃ row, s.db.billing.orders.find? claim.orderId = some row ∧ row.checkoutStatus = status ∧
    claim.holds (w.clock s.step).wall row = true
  inbox : ∃ row, s.db.inbox.find? eventId = some row ∧
    PackWorker.settledOutcome row.outcome = true
  projections : s.projections.isEmpty = false

/-- An Event that was projected before counts if it was settled then. -/
theorem project_of_duplicate (hrenew : w.renew claim s = .ok ((), s₁)) {result : ProcessResult}
    (hprocess : w.rt.process (w.clock s₁.step) s₁.db (claim.event w.rt.cfg fact) =
      .ok (s₁.db, result))
    (hduplicate : result.outcome = .duplicate) {row : InboxRow}
    (hrow : s₁.db.inbox.find? fact.eventId = some row) (r : Unit × WorkerState) :
    w.project claim fact s = .ok r ↔ PackWorker.settledOutcome row.outcome = true ∧
      r = ((), { s₁ with
        step := s₁.step + 1, projections := s₁.projections ++ [result] }) := by
  have hnew : PackWorker.settledOutcome .duplicate = false := rfl
  rw [project_of_process hrenew hprocess, hduplicate, hrow, hnew]
  cases hsettled : PackWorker.settledOutcome row.outcome with
  | true =>
    simp only [hsettled, Option.any_some, reduceCtorEq, decide_false, decide_true, Bool.false_and,
      Bool.false_or, Bool.and_self, Bool.false_eq_true, if_false, if_true, true_and]
    show Except.ok ((), _) = .ok r ↔ _
    rw [Except.ok.injEq, eq_comm]
  | false =>
    simp only [hsettled, Option.any_some, reduceCtorEq, decide_false, decide_true, Bool.false_and,
      Bool.or_self, Bool.and_false, Bool.false_eq_true, if_false, false_and, iff_false]
    intro hok
    cases hok

/-- A fresh Event is projected if its handler accepts it, an Event in the inbox if it was settled
    then. -/
def Projectable (db : Db) (eventId : String) (accepted : Bool) : Prop :=
  match db.inbox.find? eventId with
  | none => accepted = true
  | some row => PackWorker.settledOutcome row.outcome = true

/-- The status of the order once its expiry is in the inbox. -/
def statusAfter (db : Db) (o : PackOrder) (eventId : String) : CheckoutStatus :=
  match db.inbox.find? eventId with
  | none => .expired
  | some _ => o.checkoutStatus

/-- **The projection of an expiry** under its lease. It goes through exactly where the handler
    accepts the fresh Event, or the inbox has it with an outcome that settles it; the order then
    has the projected status and is still leased. -/
theorem project_held {claimed : Tx → Billing → Event → Transaction Effect} {account : Account}
    {accepted : Bool} (hsteady : w.Steady) (horder : claim.orderId = o.id)
    (htoken : o.reconcileClaimToken = some claim.token) (h : Held w db o (n + 1) s)
    (hids : claim.Canonical) (howner : o.accountId = claim.accountId)
    (haccount : db.billing.accounts.find? claim.accountId = some account)
    (hprocess : w.rt.process = processBy w.rt.cfg claimed)
    (hid : w.rt.cfg.unicode.visible 512 fact.eventId = true)
    (htype : w.rt.cfg.unicode.visible 255 fact.eventType = true)
    (hhandled : ∀ tx b deadline, b.accounts = db.billing.accounts →
      b.orders.find? o.id = some (o.renewedUntil deadline) →
      if accepted then
        Expires b (o.renewedUntil deadline) (claimed tx b (claim.event w.rt.cfg fact))
      else Refuses (claimed tx b (claim.event w.rt.cfg fact))) :
    (∀ r, w.project claim fact s = .ok r → Projectable db fact.eventId accepted ∧
      ProjectedExpiry w claim fact.eventId (statusAfter db o fact.eventId) r.2) ∧
    (Projectable db fact.eventId accepted → ∃ r, w.project claim fact s = .ok r) := by
  -- the lease is renewed first, and covers the projection and one step after it
  obtain ⟨s₁, hrenew, hheld⟩ := renew_held hsteady horder htoken h
  obtain ⟨deadline, hrow, hlater⟩ := hheld.row
  have hown : s₁.db.billing.orders.find? claim.orderId = some (o.renewedUntil deadline) := by
    rw [horder, hrow]
  have hheldNow := holds_of_leased horder htoken (hlater 0 (by omega))
  have hheldNext := holds_of_leased horder htoken (hlater 1 (by omega))
  -- the fence of the processor passes for the lease that was just renewed
  have hcurrent : packClaimCurrent (w.clock s₁.step) s₁.db.billing (claim.event w.rt.cfg fact) =
      true :=
    packClaimCurrent_of_holds hids hown howner (hheld.accounts ▸ haccount) hheldNow
  unfold Projectable statusAfter
  -- a recorded Event is answered from its row, a new one runs the handler
  cases hinbox : db.inbox.find? fact.eventId with
  | some row =>
    have hfound : s₁.db.inbox.find? fact.eventId = some row := hheld.inbox ▸ hinbox
    have hduplicate := processBy_fenced claimed hid htype hcurrent
    rw [hfound, Option.isSome_some, if_pos rfl, ← hprocess] at hduplicate
    have hprojected := project_of_duplicate hrenew hduplicate rfl hfound
    refine ⟨fun r hr => ?_, fun hsettled => ⟨_, (hprojected _).2 ⟨hsettled, rfl⟩⟩⟩
    obtain ⟨hsettled, rfl⟩ := (hprojected r).1 hr
    exact ⟨hsettled, ⟨_, hown, rfl, hheldNext⟩, ⟨row, hfound, hsettled⟩, by simp⟩
  | none =>
    have hfresh : s₁.db.inbox.find? fact.eventId = none := hheld.inbox ▸ hinbox
    have hhandler := hhandled (w.clock s₁.step) s₁.db.billing deadline hheld.accounts hrow
    -- accepted: the order is expired and the inbox records it as handled
    cases accepted with
    | true =>
      obtain ⟨orders, inbox, result, hrun, houtcome, hself, row, hfound, hsettled⟩ :=
        processBy_expires hid htype hcurrent hfresh hhandler
      rw [← hprocess] at hrun
      have hprojected : w.project claim fact s = .ok ((), {
          s₁ with
          db := { s₁.db with billing := { s₁.db.billing with orders }, inbox }
          step := s₁.step + 1
          projections := s₁.projections ++ [result] }) := by
        rw [project_of_process hrenew hrun, houtcome]
        rfl
      refine ⟨fun r hr => ?_, fun _ => ⟨_, hprojected⟩⟩
      rw [hprojected] at hr
      cases hr
      have hexpired : orders.find? claim.orderId = some { o.renewedUntil deadline with
          checkoutStatus := .expired, sessionUrl := none } := by
        rw [horder]
        exact hself
      refine ⟨rfl, ⟨_, hexpired, rfl, hheldNext⟩, ⟨row, hfound, ?_⟩, by simp⟩
      rw [hsettled]
      rfl
    -- refused: whatever the processor answers is no success for the reconciler
    | false =>
      refine ⟨fun r hr => ?_, fun hnever => absurd hnever Bool.false_ne_true⟩
      cases hrun : w.rt.process (w.clock s₁.step) s₁.db (claim.event w.rt.cfg fact) with
      | error failure => exact absurd hr (project_of_failed hrenew hrun r)
      | ok run =>
        obtain ⟨db', result⟩ := run
        rw [hprocess] at hrun
        obtain ⟨houtcome, hreason⟩ := processBy_refuses hid htype hcurrent hfresh hhandler hrun
        rw [← hprocess] at hrun
        rw [project_of_process hrenew hrun, houtcome, hreason] at hr
        cases hr

end

end StripeEntitlements
