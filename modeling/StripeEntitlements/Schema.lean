import StripeEntitlements.Relational.Table

/-!
# Billing Schema

The PostgreSQL tables of `migrations/001_v3_baseline.sql` that the credit, webhook and
annual-grant code reads or writes, with their CHECK constraints and unique indexes.

Product-credit columns are atoms (`1_000_000` atoms are one credit) and are non-negative
by CHECK, so they are `Nat`; `credit_ledger.delta` is signed. Timestamps are `Int`
microseconds.
Identifiers (UUIDs, Stripe IDs, idempotency keys) are text. Columns that no modelled
function reads (`updated_at`, audit payloads, display URLs) are left out.
-/

namespace StripeEntitlements

open Relational

/-! ## Failures -/

/-- Why a transaction raises and rolls back. -/
inductive Failure where
  /-- A CHECK, unique-index or foreign-key violation raised by PostgreSQL. -/
  | constraint
  /-- `checked_add_atoms` left the PostgreSQL bigint range. -/
  | overflow (field : String)
  /-- The driver refused a parameter: a number outside the range of its column, or a text that is
      no UUID. -/
  | outOfRange
  | attributeError (message : String)
  | keyError (message : String)
  | typeError (message : String)
  | valueError (message : String)
  | runtimeError (message : String)
  | creditsUnavailable (message : String)
  | insufficientCredits
  | debitOwnerMismatch
  | checkoutActiveSubscription (message : String)
  | checkoutBusy (message : String)
  | checkoutReplayUnsafe (message : String)
  | creditPackConflict (message : String)
  | creditPackBusy (message : String)
  | planChangeBusy (message : String)
  | planChangeConflict (message : String)
  | planChangeUnavailable (message : String)
  | stripeRequestSnapshot (message : String)
  /-- The interpreter's recursion limit. -/
  | recursionLimit
  deriving DecidableEq, Repr

/-- A transaction that may raise. -/
abbrev Transaction (α : Type) := Except Failure α

/-- Run one SQL statement; a violated constraint aborts the transaction. -/
def statement {α : Type} : Option α → Transaction α
  | some a => .ok a
  | none => .error .constraint

@[simp] theorem statement_eq_ok {α : Type} {o : Option α} {a : α} :
    statement o = .ok a ↔ o = some a := by
  cases o <;> simp [statement]

/-! ## Accounts and Invoices -/

inductive SubscriptionStatus where
  | none | active | pastDue | canceled
  deriving DecidableEq, Repr

inductive Interval where
  | month | year
  deriving DecidableEq, Repr

/-- A row of `billing_accounts`. -/
structure Account where
  id : String
  externalRef : String
  stripeCustomerId : Option String := none
  stripeSubscriptionId : Option String := none
  planKey : String := "free"
  planInterval : Option Interval := none
  subscriptionStatus : SubscriptionStatus := .none
  creditsBalance : Nat := 0
  grantEpoch : Nat := 0
  eventCreated : Nat := 0
  eventRank : Nat := 0
  currentPeriodEnd : Option Int := none
  annualAnchor : Option Int := none
  annualGrantsIssued : Nat := 0
  annualGrantsAllowed : Nat := 12
  fundingInvoiceId : Option String := none
  cancelAtPeriodEnd : Bool := false
  pendingFreeAt : Option Int := none
  entitlementPeriodEnd : Option Int := none
  creditExpiresAt : Option Int := none
  entitlementRevoked : Bool := false
  lastReconciledAt : Option Int := none
  deriving DecidableEq, Repr

instance : Relation Account String where
  key a := a.id
  check a := a.annualGrantsIssued ≤ 12 && a.annualGrantsAllowed ≤ 12
  indexes := [
    fun a => some [a.externalRef],
    fun a => a.stripeCustomerId.map ([·]),
    fun a => a.stripeSubscriptionId.map ([·])]

/-- A row of `stripe_invoice_state`. -/
structure InvoiceState where
  invoiceId : String
  accountId : Option String := none
  amountTotal : Nat := 0
  amountRefunded : Nat := 0
  fullyRefunded : Bool := false
  disputed : Bool := false
  grantUnitsPerSlot : Nat := 0
  grantsIssued : Nat := 0
  closureApplied : Bool := false
  deriving DecidableEq, Repr

instance : Relation InvoiceState String where
  key i := i.invoiceId
  check i := (i.amountRefunded ≤ i.amountTotal || i.amountTotal = 0) && i.grantsIssued ≤ 12
  indexes := []

/-! ## The ledger and product debits -/

inductive LedgerReason where
  | usageCharge | usageRefund
  | creditPackDebtRefund | creditPackDebtCollection
  | clawbackDebtCollection | refundClawback | disputeClawback | annualRefundOvergrant
  | subscriptionGrant | subscriptionGrantBlocked
  | upgradeDeltaGrant | upgradeDeltaBlocked | upgradeFundingReverted
  | subscriptionEnded
  deriving DecidableEq, Repr

/-- A row of `credit_ledger`; `id` is the bigserial value. -/
structure LedgerRow where
  id : Nat
  accountId : String
  delta : Int
  balanceAfter : Nat
  entitlementUnits : Nat := 0
  reason : LedgerReason
  grantEpoch : Nat
  stripeEventId : String
  stripeInvoiceId : Option String := none
  grantSlot : Option Nat := none
  deriving DecidableEq, Repr

instance : Relation LedgerRow Nat where
  key r := r.id
  check r := match r.grantSlot with
    | none => true
    | some slot => 1 ≤ slot && slot ≤ 12
  indexes := [fun r => do
    let invoiceId ← r.stripeInvoiceId
    let slot ← r.grantSlot
    pure [invoiceId, toString slot]]

inductive DebitKind where
  | usage | creditPackDebtCollection
  deriving DecidableEq, Repr

/-- A row of `credit_debits`. -/
structure Debit where
  idempotencyKey : String
  accountId : String
  amount : Nat
  grantEpoch : Nat
  kind : DebitKind := .usage
  clawbackOrderId : Option String := none
  restoredCredits : Nat := 0
  createdAt : Int
  refundedAt : Option Int := none
  deriving DecidableEq, Repr

instance : Relation Debit String where
  key d := d.idempotencyKey
  check d := 0 < d.amount && d.restoredCredits ≤ d.amount &&
    (d.kind = .usage) = d.clawbackOrderId.isNone
  indexes := []

/-- Where an allocation took its atoms: the subscription balance of one grant epoch or
    one pack lot. -/
inductive FundingSource where
  | subscription (grantEpoch : Nat)
  | creditPack (lotId : String)
  deriving DecidableEq, Repr

/-- A row of `credit_debit_allocations`; `id` is the bigserial value. -/
structure Allocation where
  id : Nat
  debitKey : String
  accountId : String
  source : FundingSource
  amount : Nat
  refundedAmount : Nat := 0
  deriving DecidableEq, Repr

instance : Relation Allocation Nat where
  key a := a.id
  check a := 0 < a.amount && a.refundedAmount ≤ a.amount
  indexes := [
    fun a => match a.source with
      | .subscription epoch => some [a.debitKey, toString epoch]
      | .creditPack _ => none,
    fun a => match a.source with
      | .subscription _ => none
      | .creditPack lotId => some [a.debitKey, lotId]]

/-! ## Credit packs -/

inductive CheckoutStatus where
  | reserved | sessionCreated | completed | expired
  deriving DecidableEq, Repr

inductive PaymentStatus where
  | pending | paid | partiallyRefunded | refunded | disputed
  deriving DecidableEq, Repr

/-- A row of `credit_pack_orders`. -/
structure PackOrder where
  id : String
  accountId : String
  clientIdempotencyKey : String
  packKey : String
  packCredits : Nat
  priceAmount : Nat
  currency : String
  expiresDays : Nat
  priceLookupKey : String
  requestCustomerId : Option String := none
  checkoutStatus : CheckoutStatus := .reserved
  paymentStatus : PaymentStatus := .pending
  stripeCheckoutSessionId : Option String := none
  stripePaymentIntentId : Option String := none
  stripeChargeId : Option String := none
  stripeCustomerId : Option String := none
  claimExpiresAt : Int
  reconcileClaimToken : Option String := none
  reconcileClaimExpiresAt : Option Int := none
  lastReconciledAt : Option Int := none
  lastReconcileError : Option String := none
  sessionUrl : Option String := none
  requestSnapshotVersion : Option Nat := none
  stripeRequestSnapshot : Option String := none
  amountPaid : Option Nat := none
  amountRefunded : Nat := 0
  refundedCredits : Nat := 0
  paidAt : Option Int := none
  deriving DecidableEq, Repr

/-- `…_request_snapshot_state_check` of migration 002. -/
def snapshotCheck (version : Option Nat) (snapshot : Option String) : Bool :=
  match version with
  | none | some 0 => snapshot.isNone
  | some 1 => snapshot.isSome
  | some _ => false

/-- The cash columns allowed for one `payment_status`. -/
def PackOrder.statusCheck (o : PackOrder) : Bool :=
  match o.paymentStatus with
  | .pending => o.amountPaid.isNone && o.amountRefunded = 0 && o.refundedCredits = 0
  | .paid => o.amountPaid.isSome && o.amountRefunded = 0 && o.refundedCredits = 0
  | .partiallyRefunded =>
      o.amountPaid.any (o.amountRefunded < ·) && 0 < o.amountRefunded && 0 < o.refundedCredits
  | .refunded | .disputed =>
      o.amountPaid = some o.amountRefunded && 0 < o.amountRefunded &&
        o.refundedCredits = o.packCredits

instance : Relation PackOrder String where
  key o := o.id
  check o := 0 < o.packCredits && 0 < o.priceAmount &&
    1 ≤ o.expiresDays && o.expiresDays ≤ 3650 &&
    o.refundedCredits ≤ o.packCredits &&
    o.amountPaid.all (fun paid => o.amountRefunded ≤ paid && paid = o.priceAmount) &&
    o.statusCheck &&
    (o.stripeCheckoutSessionId.isSome || o.checkoutStatus = .reserved) &&
    (o.stripePaymentIntentId.isSome || o.paymentStatus = .pending) &&
    o.reconcileClaimToken.isNone = o.reconcileClaimExpiresAt.isNone &&
    o.lastReconcileError.all (fun code => 1 ≤ code.length && code.length ≤ 255) &&
    snapshotCheck o.requestSnapshotVersion o.stripeRequestSnapshot
  indexes := [
    fun o => some [o.accountId, o.clientIdempotencyKey],
    fun o => o.stripeCheckoutSessionId.map ([·]),
    fun o => o.stripePaymentIntentId.map ([·]),
    fun o => o.stripeChargeId.map ([·])]

/-- What a stored order satisfies, as far as the pack services rely on it. -/
theorem PackOrder.cash_checked {o : PackOrder} (h : Relation.check o = true) :
    0 < o.packCredits ∧ 0 < o.priceAmount ∧ o.refundedCredits ≤ o.packCredits ∧
      o.amountPaid.all (fun paid => o.amountRefunded ≤ paid && paid = o.priceAmount) = true ∧
      o.statusCheck = true := by
  simp only [Relation.check, Bool.and_eq_true, decide_eq_true_eq] at h
  obtain ⟨⟨⟨⟨⟨⟨⟨⟨⟨⟨⟨hcredits, hprice⟩, -⟩, -⟩, hle⟩, hcash⟩, hstatus⟩, -⟩, -⟩, -⟩, -⟩, -⟩ := h
  exact ⟨hcredits, hprice, hle, hcash, hstatus⟩

inductive LotStatus where
  | active | expired | refunded | disputed
  deriving DecidableEq, Repr

/-- A row of `credit_funding_lots`. -/
structure FundingLot where
  id : String
  orderId : String
  accountId : String
  originalCredits : Nat
  remainingCredits : Nat
  expiredCredits : Nat := 0
  cashClawedBackCredits : Nat := 0
  expiresAt : Int
  status : LotStatus := .active
  closedAt : Option Int := none
  deriving DecidableEq, Repr

instance : Relation FundingLot String where
  key l := l.id
  check l := 0 < l.originalCredits &&
    l.remainingCredits + l.expiredCredits + l.cashClawedBackCredits ≤ l.originalCredits &&
    (l.status = .active) = l.closedAt.isNone &&
    (l.status = .active || l.remainingCredits = 0)
  indexes := [fun l => some [l.orderId]]

/-- A row of `credit_pack_clawback_debts`. -/
structure PackDebt where
  orderId : String
  accountId : String
  targetCredits : Nat
  collectedCredits : Nat := 0
  releasedCredits : Nat := 0
  createdAt : Int
  deriving DecidableEq, Repr

instance : Relation PackDebt String where
  key d := d.orderId
  check d := 0 < d.targetCredits && d.collectedCredits + d.releasedCredits ≤ d.targetCredits
  indexes := []

/-! ## Plan changes and upgrade funding -/

inductive TransitionPolicy where
  | fullPeriodReset | proratedDelta
  deriving DecidableEq, Repr

inductive EffectiveMode where
  | immediate | periodEnd | noop
  deriving DecidableEq, Repr

inductive PlanChangeStatus where
  | reserved | previewed | applying | scheduled | applied | requiresAction | completed | failed
  deriving DecidableEq, Repr

/-- The statuses covered by `billing_plan_changes_one_pending`. -/
def PlanChangeStatus.isPending : PlanChangeStatus → Bool
  | .reserved | .previewed | .applying | .scheduled | .applied | .requiresAction => true
  | .completed | .failed => false

/-- A row of `billing_plan_changes`. -/
structure PlanChange where
  id : String
  accountId : String
  idempotencyKey : String
  stripeSubscriptionId : String
  fromPlanKey : String
  fromInterval : Interval
  targetPlanKey : String
  targetInterval : Interval
  effectiveMode : EffectiveMode
  status : PlanChangeStatus
  effectiveAt : Option Int := none
  stripeScheduleId : Option String := none
  stripeRequestKey : String
  expectedGrantEpoch : Nat
  expectedEntitlementPeriodEnd : Option Int := none
  expectedSubscriptionStatus : SubscriptionStatus
  expectedCancelAtPeriodEnd : Bool
  prorationDate : Option Int := none
  estimatedAmountDue : Option Int := none
  estimatedSourceProration : Option Int := none
  estimatedTargetProration : Option Int := none
  estimatedPeriodStart : Option Int := none
  estimatedPeriodEnd : Option Int := none
  estimateCurrency : Option String := none
  previewExpiresAt : Option Int := none
  leaseToken : Option String := none
  leaseExpiresAt : Option Int := none
  remotePendingExpiresAt : Option Int := none
  lastError : Option String := none
  transitionPolicy : TransitionPolicy := .fullPeriodReset
  expectedSourceInvoiceId : Option String := none
  expectedCreditDelta : Option Nat := none
  expectedEntitlementRevoked : Bool := false
  settlementInvoiceId : Option String := none
  remoteStartedAt : Option Int := none
  requestSnapshotVersion : Option Nat := none
  stripeRequestSnapshot : Option String := none
  createdAt : Int
  deriving DecidableEq, Repr

instance : Relation PlanChange String where
  key c := c.id
  check c := c.expectedCreditDelta.all (0 < ·) &&
    (match c.requestSnapshotVersion with
      | none | some 0 => c.stripeRequestSnapshot.isNone
      | some 1 => c.stripeRequestSnapshot.isSome
      | some _ => false)
  indexes := [
    fun c => some [c.accountId, c.idempotencyKey],
    fun c => some [c.stripeRequestKey],
    fun c => c.stripeScheduleId.map ([·]),
    fun c => c.settlementInvoiceId.map ([·]),
    fun c => if c.status.isPending then some [c.accountId] else none]

inductive FundingStatus where
  | active | partiallyRefunded | closed | disputed
  deriving DecidableEq, Repr

/-- `status in ('closed','disputed')`. -/
def FundingStatus.isClosed : FundingStatus → Bool
  | .closed | .disputed => true
  | .active | .partiallyRefunded => false

/-- A row of `billing_funding_allocations`; `id` is the bigserial value. -/
structure FundingAllocation where
  id : Nat
  accountId : String
  planChangeId : String
  stripeInvoiceId : String
  sourceInvoiceId : String
  stripeEventId : String
  sourcePlanKey : String
  sourceInterval : Interval
  targetPlanKey : String
  targetInterval : Interval
  sourceLineId : String
  targetLineId : String
  entitlementDelta : Nat
  refundedUnits : Nat
  sourceCreditAmount : Int
  targetChargeAmount : Int
  amountPaid : Int
  currency : String
  periodStart : Int
  periodEnd : Int
  grantEpoch : Nat
  status : FundingStatus
  deriving DecidableEq, Repr

instance : Relation FundingAllocation Nat where
  key f := f.id
  check f := 0 < f.entitlementDelta && f.refundedUnits ≤ f.entitlementDelta &&
    0 < f.sourceCreditAmount && 0 < f.targetChargeAmount && 0 < f.amountPaid &&
    f.sourceLineId ≠ f.targetLineId && f.sourcePlanKey ≠ f.targetPlanKey &&
    f.sourceInterval = .month && f.targetInterval = .month &&
    f.sourceCreditAmount < f.targetChargeAmount &&
    f.amountPaid = f.targetChargeAmount - f.sourceCreditAmount &&
    f.periodStart < f.periodEnd
  indexes := [fun f => some [f.planChangeId], fun f => some [f.stripeInvoiceId]]

/-- The primary key of `billing_clawback_debts`. -/
structure ClawbackDebtKey where
  accountId : String
  grantEpoch : Nat
  stripeInvoiceId : String
  deriving DecidableEq, Repr

/-- A row of `billing_clawback_debts`. -/
structure ClawbackDebt where
  key : ClawbackDebtKey
  targetUnits : Nat
  collectedUnits : Nat := 0
  createdAt : Int
  deriving DecidableEq, Repr

instance : Relation ClawbackDebt ClawbackDebtKey where
  key d := d.key
  check d := 0 < d.targetUnits && d.collectedUnits ≤ d.targetUnits
  indexes := []

/-! ## Checkout claims -/

/-- A row of `checkout_claims`. -/
structure CheckoutClaim where
  accountId : String
  claimToken : String
  sessionId : Option String := none
  planKey : String
  planInterval : Interval
  requestCustomerId : Option String := none
  expiresAt : Int
  clientRequestKey : Option String := none
  requestSnapshotVersion : Option Nat := none
  stripeRequestSnapshot : Option String := none
  sessionUrl : Option String := none
  deriving DecidableEq, Repr

instance : Relation CheckoutClaim String where
  key c := c.accountId
  check c := snapshotCheck c.requestSnapshotVersion c.stripeRequestSnapshot
  indexes := [fun c => some [c.claimToken], fun c => c.sessionId.map ([·])]

/-! ## The database -/

/-- The business tables. -/
structure Billing where
  accounts : Table Account
  invoices : Table InvoiceState
  ledger : Table LedgerRow
  debits : Table Debit
  allocations : Table Allocation
  orders : Table PackOrder
  lots : Table FundingLot
  packDebts : Table PackDebt
  planChanges : Table PlanChange
  fundings : Table FundingAllocation
  clawbackDebts : Table ClawbackDebt
  claims : Table CheckoutClaim

/-- The freshly migrated database. -/
def Billing.empty : Billing where
  accounts := .empty
  invoices := .empty
  ledger := .empty
  debits := .empty
  allocations := .empty
  orders := .empty
  lots := .empty
  packDebts := .empty
  planChanges := .empty
  fundings := .empty
  clawbackDebts := .empty
  claims := .empty

/-- The clocks and random draws of one transaction. PostgreSQL `now()` is fixed at the
    transaction start; `clock_timestamp()` is sampled after the account lock. `uuid n` is
    the value `uuid.uuid4()` returns for the `n`-th row of the table it is drawn for. -/
structure Tx where
  now : Int
  wall : Int
  uuid : Nat → String

end StripeEntitlements
