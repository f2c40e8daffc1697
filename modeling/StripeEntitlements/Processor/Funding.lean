import StripeEntitlements.Credits.PackEvents

/-!
# Invoice Funding

The helpers of `processor.py` that paid Invoices and clawbacks share: cumulative ratios,
annual slots, the Invoice state row, the funding lineage of an account, and the clawback
of one grant.
-/

namespace StripeEntitlements

open Relational

/-! ## Ratios -/

/-- `_ceil_ratio`. -/
def ceilRatio (units numerator denominator : Nat) : Nat :=
  if units = 0 || numerator = 0 then 0
  else if denominator = 0 || denominator ≤ numerator then units
  else (units * numerator + denominator - 1) / denominator

/-- `_annual_slots_allowed`: twelve slots, less the refunded share rounded half up. -/
def annualSlotsAllowed (amount refunded minimum : Nat) : Nat :=
  if amount = 0 then minimum
  else
    let remaining := amount - min refunded amount
    max (min ((24 * remaining + amount) / (2 * amount)) 12) minimum

/-! ## Rows -/

/-- `order by key desc limit 1`; of equal keys the row inserted first. -/
def newestBy {R κ : Type} [LinearOrder κ] (key : R → κ) (rows : List R) : Option R :=
  rows.foldl
    (fun best r => match best with
      | none => some r
      | some b => if key b < key r then some r else some b)
    none

theorem newestBy_isSome {R κ : Type} [LinearOrder κ] {key : R → κ} {rows : List R} {r : R}
    (hr : r ∈ rows) : (newestBy key rows).isSome := by
  have hstep : ∀ (rows : List R) (best : R), (rows.foldl (fun best r => match best with
      | none => some r
      | some b => if key b < key r then some r else some b) (some best)).isSome := by
    intro rows
    induction rows with
    | nil => intro best; rfl
    | cons x xs ih =>
      intro best
      rw [List.foldl_cons]
      dsimp only
      split
      · exact ih x
      · exact ih best
  cases rows with
  | nil => cases hr
  | cons x xs => exact hstep xs x

theorem newestBy_eq_none {R κ : Type} [LinearOrder κ] {key : R → κ} {rows : List R} :
    newestBy key rows = none ↔ rows = [] := by
  constructor
  · intro h
    refine List.eq_nil_iff_forall_not_mem.2 fun r hr => ?_
    have hsome := @newestBy_isSome R κ _ key _ _ hr
    rw [h] at hsome
    cases hsome
  · rintro rfl
    rfl

theorem newestBy_mem {R κ : Type} [LinearOrder κ] {key : R → κ} {rows : List R} {r : R}
    (h : newestBy key rows = some r) : r ∈ rows := by
  have hstep : ∀ (rows : List R) (best : Option R), rows.foldl (fun best r => match best with
      | none => some r
      | some b => if key b < key r then some r else some b) best = some r →
      r ∈ rows ∨ best = some r := by
    intro rows
    induction rows with
    | nil => intro best h; exact .inr h
    | cons x xs ih =>
      intro best h
      rw [List.foldl_cons] at h
      rcases ih _ h with hmem | hbest
      · exact .inl (List.mem_cons_of_mem _ hmem)
      · split at hbest
        · exact .inl (Option.some.inj hbest ▸ List.mem_cons_self)
        · split at hbest
          · exact .inl (Option.some.inj hbest ▸ List.mem_cons_self)
          · exact .inr hbest
  exact (hstep rows none h).resolve_right nofun

/-- `stripe_invoice_id = invoiceId and grant_slot = 1`. -/
def firstSlotGrant (b : Billing) (invoiceId : String) : Option LedgerRow :=
  b.ledger.rows.find? fun r => r.stripeInvoiceId = some invoiceId && r.grantSlot = some 1

/-- The funding allocation of an Invoice; `stripe_invoice_id` is unique. -/
def fundingOfInvoice (b : Billing) (invoiceId : String) : Option FundingAllocation :=
  b.fundings.rows.find? (·.stripeInvoiceId = invoiceId)

/-! ## Invoice state -/

/-- `fully_refunded or disputed`. -/
def InvoiceState.closed (i : InvoiceState) : Bool := i.fullyRefunded || i.disputed

/-- The monotone merge of `on conflict(invoice_id) do update`. -/
def InvoiceState.merge (old new : InvoiceState) : InvoiceState :=
  { old with
    accountId := old.accountId.or new.accountId
    amountTotal := max old.amountTotal new.amountTotal
    amountRefunded := max old.amountRefunded new.amountRefunded
    fullyRefunded := old.fullyRefunded || new.fullyRefunded
    disputed := old.disputed || new.disputed }

/-- Insert the facts of an Invoice or merge them into its row. -/
def recordInvoice (b : Billing) (facts : InvoiceState) : Transaction (Billing × InvoiceState) :=
  match b.invoices.find? facts.invoiceId with
  | none => do
      let b ← b.insert facts
      pure (b, facts)
  | some old => do
      let b ← b.update facts.invoiceId fun i : InvoiceState => i.merge facts
      pure (b, old.merge facts)

/-- The Invoice is not owned by another account. -/
def invoiceUnownedOr (b : Billing) (invoiceId accountId : String) : Bool :=
  (b.invoices.find? invoiceId).all fun i => i.accountId.isNone || i.accountId = some accountId

/-! ## Lineage -/

/-- One round of the recursive query: the rows found so far and the parents of any. -/
def lineageStep (rows chain : List FundingAllocation) : List FundingAllocation :=
  rows.filter fun r =>
    chain.any fun c => c.id = r.id || c.sourceInvoiceId = r.stripeInvoiceId

def lineageRounds (rows : List FundingAllocation) :
    Nat → List FundingAllocation → List FundingAllocation
  | 0, chain => chain
  | n + 1, chain => lineageRounds rows n (lineageStep rows chain)

/-- The allocations funded in `grantEpoch` and all their ancestors. -/
def fundingChain (b : Billing) (accountId : String) (grantEpoch : Nat) :
    List FundingAllocation :=
  let rows := b.fundings.select (·.accountId = accountId)
  lineageRounds rows rows.length (rows.filter (·.grantEpoch = grantEpoch))

/-- `_invoice_in_active_lineage`. -/
def invoiceInActiveLineage (b : Billing) (accountId : String) (grantEpoch : Nat)
    (invoiceId : String) : Bool :=
  (fundingChain b accountId grantEpoch).any fun f =>
    f.stripeInvoiceId = invoiceId || f.sourceInvoiceId = invoiceId

/-- `_latest_funding_invoice`. -/
def latestFundingInvoice (b : Billing) (accountId : String) (grantEpoch : Nat) :
    Option String :=
  let granted := (newestBy LedgerRow.id (b.ledger.select fun r =>
    r.accountId = accountId && r.grantEpoch = grantEpoch && r.grantSlot.isSome &&
      0 < r.entitlementUnits &&
      (r.reason = .subscriptionGrant || r.reason = .upgradeDeltaGrant))).bind
    LedgerRow.stripeInvoiceId
  let reverted := (newestBy FundingAllocation.id (b.fundings.select fun f =>
    f.accountId = accountId && f.grantEpoch = grantEpoch && f.status.isClosed)).map
    FundingAllocation.sourceInvoiceId
  granted.or reverted

/-! ## Clawback of one grant -/

/-- `_CLAWBACK_REASONS`. -/
def LedgerReason.isClawback : LedgerReason → Bool
  | .refundClawback | .disputeClawback | .clawbackDebtCollection => true
  | _ => false

/-- What the ledger already took back from the grant `grantId` of an Invoice. -/
def clawedBack (b : Billing) (invoiceId : String) (grantId : Nat) : Nat :=
  ((b.ledger.select fun r =>
    r.stripeInvoiceId = some invoiceId && grantId < r.id && r.reason.isClawback).map
    fun r : LedgerRow => -r.delta).sum.toNat

/-- Take `removed` atoms from the balance under the given reason. -/
def removeFromBalance (b : Billing) (accountId : String) (balance removed grantEpoch : Nat)
    (reason : LedgerReason) (eventId invoiceId : String) : Transaction Billing :=
  if removed = 0 then
    pure b
  else do
    let b ← b.update accountId fun a : Account => { a with creditsBalance := balance - removed }
    b.insertLedger accountId (-removed) (balance - removed) reason grantEpoch eventId
      (some invoiceId) none 0

/-- Record or raise the clawback debt of an Invoice in one epoch. -/
def raiseClawbackDebt (tx : Tx) (b : Billing) (key : ClawbackDebtKey) (target collected : Nat) :
    Transaction Billing :=
  if target = 0 then
    pure b
  else match b.clawbackDebts.find? key with
    | none => b.insert {
        key, targetUnits := target, collectedUnits := collected, createdAt := tx.now
        : ClawbackDebt }
    | some _ => b.update key fun d : ClawbackDebt =>
        { d with
          targetUnits := max d.targetUnits target
          collectedUnits := max d.collectedUnits collected }

/-- `_apply_clawback_to_grant`. -/
def applyClawbackToGrant (tx : Tx) (b : Billing) (accountId invoiceId : String)
    (grantId entitlementUnits amount amountRefunded : Nat) (full : Bool)
    (reason : LedgerReason) (eventId : String) : Transaction (Billing × Nat) := do
  let target := if full then entitlementUnits else ceilRatio entitlementUnits amountRefunded amount
  let already := clawedBack b invoiceId grantId
  let row ← fetch (b.accounts.find? accountId) (.runtimeError "account row is missing")
  let removed := min (target - already) row.creditsBalance
  let b ← removeFromBalance b accountId row.creditsBalance removed row.grantEpoch reason eventId
    invoiceId
  let b ← raiseClawbackDebt tx b ⟨accountId, row.grantEpoch, invoiceId⟩ target
    (min target (already + removed))
  pure (b, removed)

end StripeEntitlements
