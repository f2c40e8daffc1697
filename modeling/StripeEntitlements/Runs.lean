import Mathlib.Logic.Relation
import StripeEntitlements.Annual

/-!
# Runs of the Billing System

Transactions commit one after another. A webhook or a reconciler hands an Event to the
processor, a product charges or refunds credits, the annual worker grants a slot; the rest
of the application opens accounts and reserves Checkouts, pack orders and plan changes.

## Main definitions

- `Commits` — one transaction of the system
- `Reachable` — the states of the runs that start at the migrated database
-/

namespace StripeEntitlements

open Relational

/-! ## The rest of the application -/

/-- An account without the stamp of the reconciler. -/
def Account.unstamped (a : Account) : Account := { a with lastReconciledAt := none }

/-- A pack order without its Checkout and the claim of the reconciler. -/
def PackOrder.unclaimed (o : PackOrder) : PackOrder :=
  { o with
    checkoutStatus := .reserved
    stripeCheckoutSessionId := none
    claimExpiresAt := 0
    reconcileClaimToken := none
    reconcileClaimExpiresAt := none
    lastReconciledAt := none
    lastReconcileError := none
    sessionUrl := none
    requestSnapshotVersion := none
    stripeRequestSnapshot := none }

/-- The order as it is reserved: no Event has been projected onto it. -/
def PackOrder.reserved (o : PackOrder) : PackOrder where
  id := o.id
  accountId := o.accountId
  clientIdempotencyKey := o.clientIdempotencyKey
  packKey := o.packKey
  packCredits := o.packCredits
  priceAmount := o.priceAmount
  currency := o.currency
  expiresDays := o.expiresDays
  priceLookupKey := o.priceLookupKey
  requestCustomerId := o.requestCustomerId
  claimExpiresAt := 0

/-- What the rest of the application leaves alone: credits, Invoices, funding and debts. It
    opens accounts with their defaults, stamps the reconciled ones, reserves pack orders and
    claims their Checkout, and reserves plan changes of the Subscription an account is bound
    to. -/
structure Outside (b b' : Billing) : Prop where
  accounts : ∃ opened, b'.accounts.rows.map Account.unstamped =
      b.accounts.rows.map Account.unstamped ++ opened ∧
    ∀ a ∈ opened, a = { id := a.id, externalRef := a.externalRef }
  orders : ∃ reserved, b'.orders.rows.map PackOrder.unclaimed =
      b.orders.rows.map PackOrder.unclaimed ++ reserved ∧ ∀ o ∈ reserved, o = o.reserved
  invoices : b'.invoices = b.invoices
  ledger : b'.ledger = b.ledger
  debits : b'.debits = b.debits
  allocations : b'.allocations = b.allocations
  lots : b'.lots = b.lots
  packDebts : b'.packDebts = b.packDebts
  fundings : b'.fundings = b.fundings
  clawbackDebts : b'.clawbackDebts = b.clawbackDebts
  planChanges : ∀ c ∈ b'.planChanges.rows, c.status.isPending = true →
    (∃ c₀ ∈ b.planChanges.rows, c₀.status.isPending = true ∧ c₀.accountId = c.accountId ∧
      c₀.stripeSubscriptionId = c.stripeSubscriptionId) ∨
    ∃ a ∈ b.accounts.rows, a.id = c.accountId ∧
      a.stripeSubscriptionId = some c.stripeSubscriptionId

namespace Outside

variable {b b' : Billing}

/-- An account is there with its columns, or was opened. -/
theorem before (h : Outside b b') {a : Account} (ha : a ∈ b'.accounts.rows) :
    (∃ a₀ ∈ b.accounts.rows, a₀.unstamped = a.unstamped) ∨
      a.unstamped = { id := a.id, externalRef := a.externalRef } := by
  obtain ⟨opened, hrows, hopened⟩ := h.accounts
  have hmem : a.unstamped ∈ b.accounts.rows.map Account.unstamped ++ opened :=
    hrows ▸ List.mem_map_of_mem ha
  rcases List.mem_append.1 hmem with hold | hnew
  · exact .inl (List.mem_map.1 hold)
  · exact .inr (hopened _ hnew)

/-- Every account keeps its columns. -/
theorem after (h : Outside b b') {a : Account} (ha : a ∈ b.accounts.rows) :
    ∃ a' ∈ b'.accounts.rows, a'.unstamped = a.unstamped := by
  obtain ⟨opened, hrows, -⟩ := h.accounts
  have hmem : a.unstamped ∈ b'.accounts.rows.map Account.unstamped := by
    rw [hrows]
    exact List.mem_append_left _ (List.mem_map_of_mem ha)
  exact List.mem_map.1 hmem

end Outside

/-! ## Commits -/

/-- One committed transaction. -/
inductive Commits (cfg : Config) : Db → Db → Prop
  | event {tx : Tx} {db db' : Db} {e : Event} {result : ProcessResult}
      (h : process cfg tx db e = .ok (db', result)) : Commits cfg db db'
  | charge {tx : Tx} {db : Db} {b : Billing} {accountId idempotencyKey : String} {amount : Nat}
      {result : CreditResult}
      (h : StripeEntitlements.charge cfg.unicode.isPrintable tx db.billing accountId amount
        idempotencyKey = .ok (b, result)) : Commits cfg db { db with billing := b }
  | refund {tx : Tx} {db : Db} {b : Billing} {idempotencyKey : String}
      {expectedAccountId : Option String} {result : CreditResult}
      (h : StripeEntitlements.refund cfg.unicode.isPrintable tx db.billing idempotencyKey
        expectedAccountId = .ok (b, result)) : Commits cfg db { db with billing := b }
  | annual {tx : Tx} {db : Db} {accountId : String} {now : Option Int}
      {snapshot : SubscriptionSnapshot} {effect : Effect} {incidents : Table Incident}
      (h : grantDue cfg tx db.billing accountId now snapshot = .ok effect)
      (hincidents : effect.incidents.foldlM (applyIncident tx none) db.incidents =
        .ok incidents) :
      Commits cfg db { db with billing := effect.billing, incidents }
  | outside {db : Db} {b : Billing} {incidents : Table Incident} (h : Outside db.billing b) :
      Commits cfg db { db with billing := b, incidents }

def Db.empty : Db := { billing := .empty, inbox := .empty, incidents := .empty }

/-- The states of the runs of the system. -/
def Reachable (cfg : Config) (db : Db) : Prop :=
  Relation.ReflTransGen (Commits cfg) Db.empty db

/-- An invariant of the migrated database that every transaction keeps. -/
theorem Reachable.invariant {cfg : Config} {P : Billing → Prop} {db : Db}
    (hempty : P .empty) (hstep : ∀ db db' : Db, Commits cfg db db' → P db.billing → P db'.billing)
    (h : Reachable cfg db) : P db.billing := by
  induction h with
  | refl => exact hempty
  | tail _ hcommit ih => exact hstep _ _ hcommit ih

/-! ## What a transaction did -/

/-- The Event passes the checks of `process` and is new to the inbox. -/
def reachesHandler (cfg : Config) (tx : Tx) (db : Db) (e : Event) : Bool :=
  e.id.asStr.any (cfg.unicode.visible 512) && e.type.asStr.any (cfg.unicode.visible 255) &&
    packClaimCurrent tx db.billing e && (db.inbox.find? e.idText).isNone &&
    (eventShapeError e).isNone && (contractMismatch cfg e).isNone

/-- An Event that reaches its handler has its effect on the business rows; any other has
    none. -/
theorem process_cases {cfg : Config} {tx : Tx} {db db' : Db} {e : Event}
    {result : ProcessResult} (h : process cfg tx db e = .ok (db', result)) :
    (reachesHandler cfg tx db e = false ∧ db'.billing = db.billing) ∨
    (reachesHandler cfg tx db e = true ∧ ∃ effect, dispatch cfg tx db.billing e = .ok effect ∧
      db'.billing = effect.billing) := by
  -- the stops of the processor in its order: id, type, claim, inbox
  unfold process at h
  split at h
  case isTrue hid =>
    rw [pure_eq_ok] at h
    cases h
    exact .inl ⟨by simp_all [reachesHandler], rfl⟩
  case isFalse hid =>
  split at h
  case isTrue htype =>
    rw [pure_eq_ok] at h
    cases h
    exact .inl ⟨by simp_all [reachesHandler], rfl⟩
  case isFalse htype =>
  split at h
  case isTrue hclaim =>
    rw [pure_eq_ok] at h
    cases h
    exact .inl ⟨by simp_all [reachesHandler], rfl⟩
  case isFalse hclaim =>
  split at h
  case isTrue hseen =>
    rw [pure_eq_ok] at h
    cases h
    exact .inl ⟨by simp [reachesHandler, Option.isNone_eq_false_iff.2 hseen], rfl⟩
  case isFalse hnew =>
    -- past them the Event is claimed, and its shape and its contract may still stop it
    simp only [bind_eq_ok, pure_eq_ok] at h
    obtain ⟨effect, hclaimed, incidents, -, inbox, -, heq⟩ := h
    cases heq
    unfold processClaimed at hclaimed
    split at hclaimed
    case h_1 reason hshape =>
      rw [pure_eq_ok] at hclaimed
      exact .inl ⟨by simp [reachesHandler, hshape], hclaimed ▸ rfl⟩
    -- nothing stopped it, so `reachesHandler` holds and the effect is the handler's
    case h_2 hshape =>
      split at hclaimed
      case h_1 reason hcontract =>
        rw [pure_eq_ok] at hclaimed
        exact .inl ⟨by simp [reachesHandler, hcontract], hclaimed ▸ rfl⟩
      case h_2 hcontract =>
        simp only [Bool.not_eq_true', Bool.not_eq_false, Option.not_isSome_iff_eq_none]
          at hid htype hclaim hnew
        refine .inr ⟨?_, effect, hclaimed, rfl⟩
        simp [reachesHandler, hid, htype, hclaim, hnew, hshape, hcontract]

theorem reachesHandler_shape {cfg : Config} {tx : Tx} {db : Db} {e : Event}
    (h : reachesHandler cfg tx db e = true) : eventShapeError e = none := by
  simp only [reachesHandler, Bool.and_eq_true, Option.isNone_iff_eq_none] at h
  exact h.1.2

/-- A processed Event leaves the business rows to the handler of its type. -/
theorem process_billing {cfg : Config} {tx : Tx} {db db' : Db} {e : Event}
    {result : ProcessResult} (h : process cfg tx db e = .ok (db', result)) :
    db'.billing = db.billing ∨
      ∃ effect, dispatch cfg tx db.billing e = .ok effect ∧ db'.billing = effect.billing :=
  (process_cases h).imp And.right And.right

/-- Events processed one after another. -/
def processAll (cfg : Config) (tx : Tx) : Db → List Event → Transaction Db
  | db, [] => .ok db
  | db, e :: rest => do
      let (db, _) ← process cfg tx db e
      processAll cfg tx db rest

theorem Reachable.processAll {cfg : Config} {tx : Tx} {db db' : Db} {events : List Event}
    (hdb : Reachable cfg db) (h : processAll cfg tx db events = .ok db') : Reachable cfg db' := by
  induction events generalizing db with
  | nil =>
    cases h
    exact hdb
  | cons e rest ih =>
    simp only [StripeEntitlements.processAll, bind_eq_ok] at h
    obtain ⟨⟨db₁, result⟩, hprocess, h⟩ := h
    exact ih (hdb.tail (.event hprocess)) h

/-! ## Runs of admissible Events -/

/-- An Event that reaches its handler is recorded in the inbox. -/
theorem process_inbox {cfg : Config} {tx : Tx} {db db' : Db} {e : Event}
    {result : ProcessResult} (h : process cfg tx db e = .ok (db', result))
    (hreaches : reachesHandler cfg tx db e = true) : db'.inbox ≠ db.inbox := by
  simp only [reachesHandler, Bool.and_eq_true, Option.isNone_iff_eq_none] at hreaches
  obtain ⟨⟨⟨⟨⟨hid, htype⟩, hclaim⟩, hnew⟩, -⟩, -⟩ := hreaches
  simp only [process, hid, htype, hclaim, hnew, Bool.not_true, Bool.false_eq_true, if_false,
    Option.isSome_none, bind_eq_ok, pure_eq_ok, statement_eq_ok] at h
  obtain ⟨effect, -, incidents, -, inbox, hinsert, heq⟩ := h
  cases heq
  intro hsame
  have hrows := Table.insert?_eq_some.1 hinsert
  rw [show inbox = db.inbox from hsame] at hrows
  simp at hrows

/-- One transaction of a run in which every Event is allowed where it is processed. -/
inductive Steps (cfg : Config) (allowed : Tx → Db → Event → Prop) : Db → Db → Prop
  | event {tx : Tx} {db db' : Db} {e : Event} {result : ProcessResult}
      (h : process cfg tx db e = .ok (db', result)) (hallowed : allowed tx db e) :
      Steps cfg allowed db db'
  | other {db db' : Db} (h : Commits cfg db db') (hinbox : db'.inbox = db.inbox) :
      Steps cfg allowed db db'

/-- A run of such transactions. -/
abbrev Runs (cfg : Config) (allowed : Tx → Db → Event → Prop) : Db → Db → Prop :=
  Relation.ReflTransGen (Steps cfg allowed)

theorem Steps.commits {cfg : Config} {allowed : Tx → Db → Event → Prop} {db db' : Db}
    (h : Steps cfg allowed db db') : Commits cfg db db' := by
  cases h with
  | event h _ => exact .event h
  | other h _ => exact h

theorem Runs.reachable {cfg : Config} {allowed : Tx → Db → Event → Prop} {db db' : Db}
    (h : Runs cfg allowed db db') (hdb : Reachable cfg db) : Reachable cfg db' := by
  induction h with
  | refl => exact hdb
  | tail _ hstep ih => exact ih.tail hstep.commits

end StripeEntitlements
