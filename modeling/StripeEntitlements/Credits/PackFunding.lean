import StripeEntitlements.Credits.SubscriptionFunding

/-!
# Pack Funding

The part of `credit_packs.py` that credit operations share: the spendable pack balance
and the two collectors that settle durable pack debt, from a funding lot or from the
subscription balance.
-/

namespace StripeEntitlements

open Relational

/-! ## Lots -/

/-- The lots `select … where status = 'active' and expires_at > asOf order by expires_at, id`
    returns for one account. -/
def spendableLots (b : Billing) (accountId : String) (asOf : Int) : List FundingLot :=
  Table.orderBy (fun l => (toLex (l.expiresAt, l.id) : Int ×ₗ String))
    (b.lots.select fun l => l.accountId = accountId && l.status = .active && asOf < l.expiresAt)

def packBalanceAtoms (b : Billing) (accountId : String) (asOf : Int) : Nat :=
  ((spendableLots b accountId asOf).map FundingLot.remainingCredits).sum

/-- Retire what is left of a lot whose funding window has closed. -/
def FundingLot.expire (closedAt : Int) (l : FundingLot) : FundingLot :=
  { l with
    expiredCredits := l.expiredCredits + l.remainingCredits
    status := .expired
    remainingCredits := 0
    closedAt := some closedAt }

/-- The lot of a pack order; `order_id` is unique. -/
def lotOfOrder (b : Billing) (orderId : String) : Option FundingLot :=
  b.lots.rows.find? (·.orderId = orderId)

/-! ## Pack debt -/

/-- What a debt has neither collected nor released. -/
def PackDebt.outstanding (d : PackDebt) : Nat :=
  d.targetCredits - d.collectedCredits - d.releasedCredits

/-- The debts of an account that are not settled, in collection order. -/
def outstandingPackDebts (b : Billing) (accountId : String) : List PackDebt :=
  Table.orderBy (fun d => (toLex (d.createdAt, d.orderId) : Int ×ₗ String))
    (b.packDebts.select fun d =>
      d.accountId = accountId && d.collectedCredits + d.releasedCredits < d.targetCredits)

/-- Where a collection takes its atoms: the lot, or without one the subscription balance
    of `grantEpoch`. -/
def collectionSource (grantEpoch : Nat) : Option String → FundingSource
  | none => .subscription grantEpoch
  | some lotId => .creditPack lotId

/-- The debit that books a collection of `debt`. -/
def collectionDebit (tx : Tx) (b : Billing) (debt : PackDebt) (amount grantEpoch : Nat) :
    Debit where
  idempotencyKey := s!"pack-debt:{tx.uuid b.debits.rows.length}"
  accountId := debt.accountId
  amount := amount
  grantEpoch := grantEpoch
  kind := .creditPackDebtCollection
  clawbackOrderId := some debt.orderId
  createdAt := tx.now

/-- Persist the exact funding source used to collect reversible pack debt. -/
def recordDebtCollection (tx : Tx) (b : Billing) (debt : PackDebt) (amount grantEpoch : Nat)
    (lotId : Option String) : Transaction Billing := do
  let debit := collectionDebit tx b debt amount grantEpoch
  let b ← b.insert debit
  b.insertAllocation debit.idempotencyKey debt.accountId (collectionSource grantEpoch lotId) amount

/-- Advance `collected_credits` and record where the atoms came from. -/
def collectPackDebt (tx : Tx) (grantEpoch : Nat) (lotId : Option String) (b : Billing)
    (debt : PackDebt) (amount : Nat) : Transaction Billing := do
  let b ← b.update debt.orderId fun d : PackDebt =>
    { d with collectedCredits := d.collectedCredits + amount }
  recordDebtCollection tx b debt amount grantEpoch lotId

/-- Collect oldest durable pack debt from newly funded atoms before exposure. -/
def collectPackDebtsFromLot (tx : Tx) (b : Billing) (accountId lotId : String)
    (availableAtoms : Nat) : Transaction (Billing × Nat) := do
  let account ← fetch (b.accounts.find? accountId) (.keyError "account not found")
  let (b, remaining) ← drain PackDebt.outstanding
    (fun b debt amount _ => collectPackDebt tx account.grantEpoch (some lotId) b debt amount)
    (outstandingPackDebts b accountId) availableAtoms b
  let collected := availableAtoms - remaining
  if collected = 0 then
    pure (b, 0)
  else do
    let b ← b.updateWhere
      (fun l : FundingLot => l.id = lotId && collected ≤ l.remainingCredits)
      fun l => { l with remainingCredits := l.remainingCredits - collected }
    pure (b, collected)

/-- Consume current subscription atoms against cross-epoch pack debt. -/
def collectPackDebtsFromSubscription (tx : Tx) (b : Billing) (accountId : String)
    (grantEpoch : Nat) (eventId : String) : Transaction (Billing × Nat) := do
  let account ← fetch (b.accounts.find? accountId) (.keyError "account not found")
  let (b, balance) ← drain PackDebt.outstanding
    (fun b debt amount balance => do
      let b ← collectPackDebt tx grantEpoch none b debt amount
      b.insertLedger accountId (-amount) balance .creditPackDebtCollection grantEpoch eventId
        none none 0)
    (outstandingPackDebts b accountId) account.creditsBalance b
  if balance = account.creditsBalance then
    pure (b, 0)
  else do
    let b ← b.update accountId fun a : Account => { a with creditsBalance := balance }
    pure (b, account.creditsBalance - balance)

end StripeEntitlements
