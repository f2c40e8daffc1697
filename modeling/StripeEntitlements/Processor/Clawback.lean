import StripeEntitlements.Processor.InvoicePaid

/-!
# Invoice Clawbacks

`EventProcessor._clawback`: a Charge refund or dispute advances the cumulative facts of
its Invoice and takes the refunded share back from the entitlement the Invoice funds. A
full closure revokes the entitlement, or reverts the plan where the Invoice is the leaf
of an upgrade chain.
-/

namespace StripeEntitlements

open Relational

/-! ## Guards -/

/-- The facts of one clawback Event. -/
structure ClawbackFacts where
  invoiceId : String
  customerId : String
  amount : Nat
  amountRefunded : Nat
  full : Bool
  dispute : Bool

/-- The Invoice row these facts would insert. -/
def ClawbackFacts.invoice (f : ClawbackFacts) (accountId : Option String) : InvoiceState where
  invoiceId := f.invoiceId
  accountId := accountId
  amountTotal := f.amount
  amountRefunded := f.amountRefunded
  fullyRefunded := f.full
  disputed := f.dispute

/-- The Charge of a clawback Event; a dispute carries it resolved. -/
def clawbackCharge (e : Event) : Json :=
  let resolved := e.object.get "_resolved_charge"
  if e.kind = .chargeDisputeCreated && resolved.isObj then resolved else e.object

/-- The shape guards of `_clawback`. -/
def clawbackGuards (cfg : Config) (e : Event) : Guarded ClawbackFacts := do
  let raw := e.object
  let dispute := e.kind = .chargeDisputeCreated
  let charge := clawbackCharge e
  let invoiceId? := (cfg.unicode.asId (raw.get "_resolved_invoice_id")).or
    (cfg.unicode.asId (charge.get "invoice"))
  let chargeId := (cfg.unicode.asId (charge.get "id")).getD
    (if (raw.get "id").truthy then (raw.get "id").text else e.idText)
  require (!(raw.get "_unsupported_invoice_payment_shape").truthy)
    (Stop.ignored .unsupportedInvoicePaymentShape (invoiceId?.getD chargeId) invoiceId? none
      "Invoice payment collection is outside the single-payment model")
  let invoiceId ← fetch invoiceId?
    (Stop.ignored .clawbackWithoutInvoice chargeId none none
      "charge cannot be attributed to an invoice")
  let invalid := Stop.ignored .invalidClawbackShape chargeId (some invoiceId) none
    "clawback Charge shape is invalid"
  let customerId ← fetch (cfg.unicode.asId (charge.get "customer")) invalid
  let amount ← fetch (charge.get "amount").asInt invalid
  let amountRefunded ← fetch
    (if dispute then some amount else (charge.get "amount_refunded").asInt) invalid
  let refundedFlag := charge.get "refunded"
  require (0 < amount && 0 ≤ amountRefunded && amountRefunded ≤ amount &&
    (refundedFlag.isNull || refundedFlag.asBool.isSome)) invalid
  pure {
    invoiceId, customerId
    amount := amount.toNat
    amountRefunded := amountRefunded.toNat
    full := dispute || refundedFlag.isTrue || amountRefunded = amount
    dispute }

/-- The account of a clawback: by customer, or else the owner of the Invoice. -/
def clawbackAccount (b : Billing) (f : ClawbackFacts) : Option Account :=
  (b.accounts.rows.find? (·.stripeCustomerId = some f.customerId)).or
    ((b.invoices.find? f.invoiceId).bind fun i => i.accountId.bind b.accounts.find?)

/-- The ownership guards of `_clawback`. -/
def clawbackOwner (b : Billing) (f : ClawbackFacts) (account : Account) : Guarded Unit := do
  let dedupeKey := s!"{account.id}:{f.invoiceId}"
  require (account.stripeCustomerId = some f.customerId)
    (Stop.ignored .clawbackCustomerIdentityConflict dedupeKey (some f.invoiceId)
      (some account.id) "clawback belongs to a different customer")
  require (invoiceUnownedOr b f.invoiceId account.id)
    (Stop.ignored .clawbackInvoiceIdentityConflict dedupeKey (some f.invoiceId)
      (some account.id) "invoice belongs to a different account")

/-! ## Effects -/

/-- The grant a clawback acts on, with the account and Invoice rows it read. -/
structure ClawbackTarget where
  account : Account
  facts : ClawbackFacts
  state : InvoiceState
  grant : LedgerRow
  allocation : Option FundingAllocation

namespace ClawbackTarget

/-- The Invoice funds the annual slots of the account. -/
def annualFunding (c : ClawbackTarget) : Bool :=
  c.account.fundingInvoiceId = some c.facts.invoiceId

def slotsAllowed (c : ClawbackTarget) : Nat :=
  annualSlotsAllowed c.state.amountTotal c.state.amountRefunded 0

/-- The annual refund leaves fewer slots than were already issued. -/
def annualOvergrant (c : ClawbackTarget) : Bool :=
  c.annualFunding && !c.state.closed && c.slotsAllowed < c.account.annualGrantsIssued

def result (c : ClawbackTarget) (outcome : EventOutcome) (reason : String) : ProcessResult where
  outcome := outcome
  reason := some reason
  accountId := some c.account.id

end ClawbackTarget

/-- What `annual_refund_overgrant` rows of the Invoice already removed. -/
def overgrantRemoved (b : Billing) (invoiceId : String) : Nat :=
  ((b.ledger.select fun r =>
    r.stripeInvoiceId = some invoiceId && r.reason = .annualRefundOvergrant).map
    fun r : LedgerRow => -r.delta).sum.toNat

/-- Take the refunded share from the balance. -/
def clawBalance (tx : Tx) (b : Billing) (e : Event) (c : ClawbackTarget) :
    Transaction (Billing × Nat) :=
  if c.annualFunding && !c.state.closed then do
    let target := (c.account.annualGrantsIssued - c.slotsAllowed) * c.state.grantUnitsPerSlot
    let removed := min (target - overgrantRemoved b c.facts.invoiceId) c.account.creditsBalance
    let b ← removeFromBalance b c.account.id c.account.creditsBalance removed c.account.grantEpoch
      .annualRefundOvergrant e.idText c.facts.invoiceId
    pure (b, removed)
  else
    applyClawbackToGrant tx b c.account.id c.facts.invoiceId c.grant.id c.grant.entitlementUnits
      c.state.amountTotal c.state.amountRefunded c.state.closed
      (if c.facts.dispute then .disputeClawback else .refundClawback) e.idText

/-- The allocations funded on top of an Invoice. -/
def downstreamCount (b : Billing) (accountId invoiceId : String) : Nat :=
  (b.fundings.select fun f =>
    f.accountId = accountId && f.sourceInvoiceId = invoiceId && f.stripeInvoiceId ≠ invoiceId).length

/-- `leaf_delta_revert`: a closed upgrade with nothing funded on top of it, while the
    account still has its target plan in its epoch. -/
def leafDeltaRevert (b : Billing) (c : ClawbackTarget) : Option FundingAllocation :=
  c.allocation.filter fun f =>
    c.state.closed && downstreamCount b c.account.id c.facts.invoiceId = 0 &&
      c.account.planKey = f.targetPlanKey && c.account.planInterval = some f.targetInterval &&
      c.account.grantEpoch = f.grantEpoch

/-- Revert the account to the source plan of a closed leaf upgrade. -/
def revertLeaf (b : Billing) (e : Event) (c : ClawbackTarget) (f : FundingAllocation) :
    Transaction Billing := do
  let newEpoch := c.account.grantEpoch + 1
  let current ← fetch (b.accounts.find? c.account.id) (.runtimeError "account row is missing")
  let b ← b.update c.account.id fun a : Account =>
    { a with
      planKey := f.sourcePlanKey
      planInterval := some f.sourceInterval
      grantEpoch := newEpoch
      entitlementRevoked := false }
  let b ← b.update f.id fun f : FundingAllocation => { f with grantEpoch := newEpoch }
  let b ← b.insertLedger c.account.id 0 current.creditsBalance .upgradeFundingReverted newEpoch
    e.idText (some c.facts.invoiceId) none 0
  b.update f.planChangeId fun t : PlanChange =>
    { t with status := .failed, lastError := some "settlement_funding_closed" }

/-- The annual slots a refunded Invoice still allows. -/
def limitAnnualSlots (b : Billing) (c : ClawbackTarget) : Transaction Billing :=
  if c.annualFunding then
    let fundedAllowed := if c.state.closed then c.account.annualGrantsIssued else c.slotsAllowed
    let allowed := max c.account.annualGrantsIssued fundedAllowed
    b.update c.account.id fun a : Account =>
      { a with annualGrantsAllowed := min a.annualGrantsAllowed allowed }
  else
    pure b

/-- Revoke the entitlement and close its credit window. -/
def revokeEntitlement (tx : Tx) (b : Billing) (accountId : String) : Transaction Billing :=
  b.update accountId fun a : Account =>
    { a with
      grantEpoch := a.grantEpoch + 1
      entitlementRevoked := true
      creditExpiresAt := some (min (a.creditExpiresAt.getD tx.now) tx.now) }

/-- The incidents of a closure. -/
def closureIncidents (b : Billing) (c : ClawbackTarget) (reverted revoked : Bool) :
    List IncidentAction :=
  let invoiceId := c.facts.invoiceId
  let revertedIncident : List IncidentAction :=
    if reverted then
      [.observe .upgradeFundingClosedReverted invoiceId (some invoiceId) (some c.account.id)]
    else []
  let lineageIncident : List IncidentAction :=
    if revoked && c.state.closed && downstreamCount b c.account.id invoiceId ≠ 0 then
      [.observe .fundingLineageClosed s!"{invoiceId}:{c.grant.grantEpoch}" (some invoiceId)
        (some c.account.id)]
    else []
  revertedIncident ++ lineageIncident

/-- Act on the entitlement the Invoice funds. -/
def clawEntitlement (tx : Tx) (b : Billing) (e : Event) (c : ClawbackTarget) :
    Transaction Effect := do
  let (b, removed) ← clawBalance tx b e c
  let leaf := leafDeltaRevert b c
  let b ← match leaf with
    | none => pure b
    | some f => revertLeaf b e c f
  let b ← limitAnnualSlots b c
  let revoked := ((c.state.closed && leaf.isNone) || c.annualOvergrant) &&
    !c.account.entitlementRevoked
  let b ← if revoked then revokeEntitlement tx b c.account.id else pure b
  let incidents := closureIncidents b c leaf.isSome revoked
  let b ← if c.state.closed then
      b.update c.facts.invoiceId fun i : InvoiceState => { i with closureApplied := true }
    else
      pure b
  pure { billing := b, incidents
         result := c.result .handled s!"removed {creditDecimal removed} credits" }

/-- The clawback reaches the live entitlement: its epoch, its annual funding Invoice, or an
    Invoice of the active upgrade chain. -/
def reachesEntitlement (b : Billing) (c : ClawbackTarget) : Bool :=
  c.grant.grantEpoch = c.account.grantEpoch || c.annualFunding ||
    invoiceInActiveLineage b c.account.id c.account.grantEpoch c.facts.invoiceId

/-- Act on the grant, unless it belongs to an older epoch. -/
def clawGrant (tx : Tx) (b : Billing) (e : Event) (c : ClawbackTarget) : Transaction Effect :=
  if reachesEntitlement b c then
    clawEntitlement tx b e c
  else
    pure { billing := b
           result := c.result .ignored "the refunded invoice belongs to an older entitlement epoch" }

/-- Advance the refund facts of a funding allocation. -/
def refundFunding (b : Billing) (state : InvoiceState) (f : FundingAllocation) :
    Transaction Billing :=
  let refundedUnits := state.refundedUnits f.entitlementDelta
  b.update f.id fun g : FundingAllocation =>
    { g with
      refundedUnits := max g.refundedUnits refundedUnits
      status := state.fundingStatus refundedUnits }

/-- The allocation of the Invoice first, then its grant. -/
def clawFundedInvoice (tx : Tx) (b : Billing) (e : Event) (account : Account) (f : ClawbackFacts)
    (state : InvoiceState) (grant : LedgerRow) : Transaction Effect := do
  let conflict (kind : IncidentKind) (reason : String) : Effect := {
    billing := b
    incidents := [.observe kind s!"{account.id}:{f.invoiceId}" (some f.invoiceId) (some account.id)]
    result := { outcome := .ignored, reason := some reason, accountId := some account.id } }
  if grant.accountId ≠ account.id then
    pure (conflict .clawbackGrantIdentityConflict "invoice grant belongs to a different account")
  else match fundingOfInvoice b f.invoiceId with
    | none => clawGrant tx b e { account, facts := f, state, grant, allocation := none }
    | some allocation =>
        if allocation.accountId ≠ account.id then
          pure (conflict .clawbackAllocationIdentityConflict
            "funding allocation belongs to a different account")
        else do
          let b ← refundFunding b state allocation
          -- a second Event with the same cumulative closure must not recreate old-epoch debt
          if state.closed && allocation.status.isClosed then
            pure { billing := b, result := {
              outcome := .replayed
              reason := some "clawback was already applied"
              accountId := some account.id } }
          else
            clawGrant tx b e { account, facts := f, state, grant, allocation := some allocation }

/-- The newest grant or marker of an Invoice. -/
def invoiceGrant (b : Billing) (invoiceId : String) : Option LedgerRow :=
  newestBy LedgerRow.id (b.ledger.select fun r =>
    r.stripeInvoiceId = some invoiceId && r.grantSlot.isSome)

/-- The effects of `_clawback` for a known account. -/
def applyClawback (tx : Tx) (b : Billing) (e : Event) (account : Account) (f : ClawbackFacts) :
    Transaction Effect := do
  let (b, state) ← recordInvoice b (f.invoice (some account.id))
  if state.closed && state.closureApplied then
    pure { billing := b, result := {
      outcome := .replayed
      reason := some "invoice closure was already applied"
      accountId := some account.id } }
  else match invoiceGrant b f.invoiceId with
    | none => pure { billing := b, result := {
        outcome := .ignored
        reason := some "clawback stored before grant"
        accountId := some account.id } }
    | some grant => clawFundedInvoice tx b e account f state grant

/-- A clawback of an unknown customer only retains the Invoice facts. -/
def retainClawback (b : Billing) (f : ClawbackFacts) : Transaction Effect := do
  let (b, _) ← recordInvoice b (f.invoice none)
  pure {
    billing := b
    incidents := [.observe .clawbackUnknownAccount s!"{f.customerId}:{f.invoiceId}"
      (some f.invoiceId) none]
    result := {
      outcome := .ignored, reason := some "account not found; invoice flag retained" } }

/-- `EventProcessor._clawback`. -/
def clawback (cfg : Config) (tx : Tx) (b : Billing) (e : Event) : Transaction Effect :=
  (clawbackGuards cfg e).andThen b fun f =>
    match clawbackAccount b f with
    | none => retainClawback b f
    | some account => (clawbackOwner b f account).andThen b fun _ => applyClawback tx b e account f

end StripeEntitlements
