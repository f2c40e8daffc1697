import StripeEntitlements.Credits.PackFunding
import StripeEntitlements.Identifiers

/-!
# Credit Service

`credits.py`: first-expiring-first-out consumption and source-safe product refunds. A
refund reverses every allocation of a product debit. Reversing a pack allocation first
relieves the debt of that pack order, which may unwind collections taken from other
sources, so the reversal recurses through the debts of other orders.
-/

namespace StripeEntitlements

open Relational

/-! ## Identifiers -/

/-- No row of an account: the driver refuses a text that is no UUID before it can look for one. -/
def accountFailure (resolved : Option String) : Failure :=
  if resolved.isSome then .keyError "account not found" else .outOfRange

/-- `_validate_idempotency_key`; `printable` is `str.isprintable` on one character. Among
    printable characters only the ASCII space is stripped as padding. -/
def validateIdempotencyKey (printable : Char → Bool) (value : String) : Transaction String :=
  if value.toList ≠ [] && value.utf8ByteSize ≤ 200 && value.toList.all printable &&
      value.toList.head? ≠ some ' ' && value.toList.getLast? ≠ some ' ' then
    .ok value
  else
    .error (.valueError
      "idempotency_key must contain 1 to 200 visible characters without padding")

/-! ## Results -/

inductive CreditOutcome where
  | charged | refunded | replayed | epochExpired
  deriving DecidableEq, Repr

structure CreditResult where
  outcome : CreditOutcome
  balance : Nat
  requested : Nat := 0
  restored : Nat := 0
  deriving DecidableEq, Repr

/-! ## Charge -/

/-- Project lazy expiry and report whether pack funding has expired. -/
def expireAccountPackLots (b : Billing) (accountId : String) (asOf : Int) :
    Transaction (Billing × Bool) := do
  let expired := (b.lots.select fun l => l.accountId = accountId && l.status = .expired) ≠ []
  let projected :=
    (b.lots.select fun l => l.accountId = accountId && l.status = .active && l.expiresAt ≤ asOf)
      ≠ []
  let b ← b.updateWhere
    (fun l : FundingLot => l.accountId = accountId && l.status = .active && l.expiresAt ≤ asOf)
    (FundingLot.expire asOf)
  pure (b, projected || expired)

/-- A source a charge may draw from. -/
inductive ChargeSource where
  | creditPack (lot : FundingLot)
  | subscription (account : Account) (expiresAt : Int)

def ChargeSource.available : ChargeSource → Nat
  | .creditPack lot => lot.remainingCredits
  | .subscription account _ => account.creditsBalance

/-- The sort key `(expires_at, source_type, id)`. -/
def ChargeSource.sortKey : ChargeSource → Int ×ₗ String ×ₗ String
  | .creditPack lot => toLex (lot.expiresAt, toLex ("credit_pack", lot.id))
  | .subscription account expiresAt => toLex (expiresAt, toLex ("subscription", account.id))

/-- The non-empty sources of an account, first-expiring first. -/
def chargeSources (account : Account) (lots : List FundingLot) (asOf : Int) :
    List ChargeSource :=
  let packs := (lots.filter (0 < ·.remainingCredits)).map ChargeSource.creditPack
  let subscription := match account.creditExpiresAt with
    | some expiresAt =>
        if subscriptionCreditsAreSpendable account asOf && 0 < account.creditsBalance then
          [ChargeSource.subscription account expiresAt]
        else []
    | none => []
  Table.orderBy ChargeSource.sortKey (packs ++ subscription)

/-- Draw `used` atoms from one source; the accumulator is `subscription_used`. -/
def drawFromSource (account : Account) (idempotencyKey : String) (s : Billing × Nat)
    (source : ChargeSource) (used _left : Nat) : Transaction (Billing × Nat) :=
  match source with
  | .subscription _ _ => do
      let b ← s.1.insertAllocation idempotencyKey account.id
        (.subscription account.grantEpoch) used
      pure (b, s.2 + used)
  | .creditPack lot => do
      let b ← s.1.updateWhere
        (fun l : FundingLot => l.id = lot.id && used ≤ l.remainingCredits)
        fun l => { l with remainingCredits := l.remainingCredits - used }
      let b ← b.insertAllocation idempotencyKey account.id (.creditPack lot.id) used
      pure (b, s.2)

/-- Why an account without enough atoms cannot be charged. -/
def chargeRefusal (account : Account) (lots : List FundingLot) (asOf : Int)
    (available : Nat) (packWindowExpired : Bool) : Failure :=
  if available = 0 && lots.isEmpty && !subscriptionCreditsAreSpendable account asOf then
    if account.subscriptionStatus ≠ .active && !packWindowExpired then
      .creditsUnavailable "subscription is not active"
    else if account.entitlementRevoked && !packWindowExpired then
      .creditsUnavailable "the paid entitlement was revoked"
    else
      .creditsUnavailable "the paid credit window has expired"
  else
    .insufficientCredits

/-- The answer to a charge whose idempotency key already exists. -/
def replayCharge (existing : Debit) (accountId : String) (amountAtoms total : Nat) :
    Transaction CreditResult :=
  if existing.accountId ≠ accountId || existing.amount ≠ amountAtoms || existing.kind ≠ .usage then
    .error (.valueError "idempotency key was already used with different parameters")
  else
    .ok { outcome := .replayed, balance := total, requested := amountAtoms
          restored := existing.restoredCredits }

/-- Persist what the subscription balance paid of a charge. -/
def chargeSubscription (b : Billing) (account : Account) (idempotencyKey : String)
    (subscriptionUsed : Nat) : Transaction Billing :=
  if subscriptionUsed = 0 then
    pure b
  else do
    let balance := account.creditsBalance - subscriptionUsed
    let b ← b.update account.id fun a : Account => { a with creditsBalance := balance }
    b.insertLedger account.id (-subscriptionUsed) balance .usageCharge account.grantEpoch
      s!"usage:{idempotencyKey}" none none 0

/-- `CreditService.charge`. -/
def charge (printable : Char → Bool) (tx : Tx) (b : Billing) (accountId : String)
    (amount : Nat) (idempotencyKey : String) : Transaction (Billing × CreditResult) := do
  require (0 < amount) (.valueError "amount must be greater than zero")
  let key ← validateIdempotencyKey printable idempotencyKey
  let account ← fetch ((uuidParameter accountId).bind b.accounts.find?)
    (accountFailure (uuidParameter accountId))
  let (b, packWindowExpired) ← expireAccountPackLots b account.id tx.wall
  let lots := spendableLots b account.id tx.wall
  -- the insert binds its amount before it can meet an existing key
  require (amount ≤ maxCreditAtoms) .outOfRange
  match b.debits.find? key with
  | some existing =>
      let total := spendableSubscriptionAtoms account tx.wall +
        (lots.map FundingLot.remainingCredits).sum
      let result ← replayCharge existing accountId amount total
      pure (b, result)
  | none =>
      let b ← b.insert {
        idempotencyKey := key
        accountId := account.id
        amount
        grantEpoch := account.grantEpoch
        createdAt := tx.now : Debit }
      let sources := chargeSources account lots tx.wall
      let available := (sources.map ChargeSource.available).sum
      require (amount ≤ available)
        (chargeRefusal account lots tx.wall available packWindowExpired)
      let ((b, subscriptionUsed), _) ← drain ChargeSource.available
        (drawFromSource account key) sources amount (b, 0)
      let b ← chargeSubscription b account key subscriptionUsed
      pure (b, { outcome := .charged, balance := available - amount, requested := amount })

/-! ## Reversing one allocation -/

/-- Return current-epoch atoms, then settle existing funding liabilities. -/
def returnSubscriptionAtoms (tx : Tx) (b : Billing) (account : Account) (amount : Nat)
    (eventId : String) (reason : LedgerReason) : Transaction (Billing × Nat) :=
  if !subscriptionCreditsAreSpendable account tx.wall then
    pure (b, 0)
  else do
    let current ← fetch (b.accounts.find? account.id) (.keyError "account not found")
    let balance ← checkedAddAtoms "refunded subscription credit balance"
      current.creditsBalance amount
    let b ← b.update account.id fun a : Account => { a with creditsBalance := balance }
    let b ← b.insertLedger account.id amount balance reason account.grantEpoch eventId
      none none 0
    let (b, _) ← collectClawbackDebts b account.id account.grantEpoch eventId
    let (b, _) ← collectPackDebtsFromSubscription tx b account.id account.grantEpoch eventId
    pure (b, amount)

/-- A collection debit of a pack debt joined with one of its outstanding allocations. -/
structure Collection where
  idempotencyKey : String
  debitAccountId : String
  debitAmount : Nat
  restoredCredits : Nat
  createdAt : Int
  allocation : Allocation
  deriving DecidableEq

def Collection.pending (c : Collection) : Nat :=
  c.allocation.amount - c.allocation.refundedAmount

/-- The collection debit an outstanding allocation belongs to, if it collected `orderId`. -/
def collectionOf (b : Billing) (orderId : String) (a : Allocation) : Option Collection :=
  if a.refundedAmount < a.amount then
    (b.debits.find? a.debitKey).bind fun d =>
      if d.kind = .creditPackDebtCollection && d.clawbackOrderId = some orderId then
        some {
          idempotencyKey := d.idempotencyKey
          debitAccountId := d.accountId
          debitAmount := d.amount
          restoredCredits := d.restoredCredits
          createdAt := d.createdAt
          allocation := a }
      else none
  else none

/-- `order by created_at, idempotency_key, allocation_id`. -/
def Collection.sortKey (c : Collection) : Int ×ₗ String ×ₗ Nat :=
  toLex (c.createdAt, toLex (c.idempotencyKey, c.allocation.id))

/-- The outstanding collections of a pack debt, oldest first. -/
def outstandingCollections (b : Billing) (orderId : String) : List Collection :=
  Table.orderBy Collection.sortKey (b.allocations.rows.filterMap (collectionOf b orderId))

/-- Reversal of `amount` atoms drawn from a source. The callee gets the event text, the
    ledger reason and the debits being unwound by the callers. -/
abbrev Restore :=
  Billing → FundingSource → Nat → String → LedgerReason → List String →
    Transaction (Billing × Nat)

/-- `update credit_debit_allocations set refunded_amount = refunded_amount + amount`. -/
def markRefunded (b : Billing) (allocationId amount : Nat) : Transaction Billing :=
  b.updateWhere
    (fun a : Allocation => a.id = allocationId && a.refundedAmount + amount ≤ a.amount)
    fun a => { a with refundedAmount := a.refundedAmount + amount }

/-- Book what a collection debit got back, and close it without outstanding allocations. -/
def markRestored (tx : Tx) (b : Billing) (key : String) (restored : Nat) :
    Transaction Billing :=
  let outstanding := b.allocations.rows.any fun a =>
    a.debitKey = key && a.refundedAmount < a.amount
  b.update key fun d : Debit =>
    { d with
      restoredCredits := restored
      refundedAt := if outstanding then d.refundedAt else some tx.now }

/-- Book the reversal of one collection on its allocation and its debit. -/
def markCollection (tx : Tx) (b : Billing) (c : Collection) (reversing restored : Nat) :
    Transaction Billing := do
  let newRestored ← checkedAddAtoms "debt-collection restored credits" c.restoredCredits restored
  let b ← markRefunded b c.allocation.id reversing
  markRestored tx b c.idempotencyKey newRestored

/-- Move `reversing` atoms of a debt from collected to released. -/
def PackDebt.unwind (reversing : Nat) (d : PackDebt) : PackDebt :=
  { d with
    collectedCredits := d.collectedCredits - reversing
    releasedCredits := d.releasedCredits + reversing }

/-- Release `released` atoms of a debt. -/
def PackDebt.release (released : Nat) (d : PackDebt) : PackDebt :=
  { d with releasedCredits := d.releasedCredits + released }

/-- Unwind `reversing` atoms of one collection; the accumulator is `recovered`. -/
def unwindCollection (restore : Restore) (tx : Tx) (account : Account) (orderId : String)
    (visiting : List String) (s : Billing × Nat) (c : Collection) (reversing _left : Nat) :
    Transaction (Billing × Nat) := do
  require (c.idempotencyKey ∉ visiting)
    (.runtimeError "credit-pack debt collection cycle detected")
  require (c.debitAccountId = account.id && c.allocation.accountId = account.id)
    (.runtimeError "credit-pack debt collection belongs to another account")
  require (c.debitAmount = c.allocation.amount)
    (.runtimeError "credit-pack debt collection allocation is inconsistent")
  let b ← s.1.updateWhere
    (fun d : PackDebt => d.orderId = orderId && reversing ≤ d.collectedCredits)
    (PackDebt.unwind reversing)
  let (b, restored) ← restore b c.allocation.source reversing
    s!"pack-debt-release:{c.idempotencyKey}" .creditPackDebtRefund (c.idempotencyKey :: visiting)
  let b ← markCollection tx b c reversing restored
  pure (b, s.2 + restored)

/-- Release uncollected debt first, then unwind collected source allocations. The result
    is `(relieved, recovered)`. -/
def relievePackDebt (restore : Restore) (tx : Tx) (b : Billing) (account : Account)
    (orderId : String) (amount : Nat) (visiting : List String) :
    Transaction (Billing × Nat × Nat) :=
  match b.packDebts.find? orderId with
  | none => pure (b, 0, 0)
  | some debt =>
      if amount = 0 then
        pure (b, 0, 0)
      else do
        require (debt.accountId = account.id)
          (.runtimeError "credit-pack clawback debt belongs to another account")
        let activeDebt := debt.targetCredits - debt.releasedCredits
        let relief := min amount activeDebt
        if relief = 0 then
          pure (b, 0, 0)
        else do
          let releaseUncollected := min relief (activeDebt - debt.collectedCredits)
          let b ← b.update orderId (PackDebt.release releaseUncollected)
          let reverseCollected := relief - releaseUncollected
          if reverseCollected = 0 then
            pure (b, relief, 0)
          else do
            let ((b, recovered), remaining) ← drain Collection.pending
              (unwindCollection restore tx account orderId visiting)
              (outstandingCollections b orderId) reverseCollected (b, 0)
            require (remaining = 0)
              (.runtimeError "credit-pack debt has no reversible funding allocation")
            pure (b, relief, recovered)

/-- Put restorable atoms back into an active lot and settle other pack debt with them. -/
def returnToLot (tx : Tx) (b : Billing) (account : Account) (order : PackOrder)
    (lot : FundingLot) (restorable : Nat) : Transaction (Billing × Nat) := do
  let headroom := order.packCredits - order.refundedCredits - lot.remainingCredits
  let returned := min restorable headroom
  if returned = 0 then
    pure (b, 0)
  else do
    let _ ← checkedAddAtoms "refunded credit-pack lot balance" lot.remainingCredits returned
    let b ← b.update lot.id fun l : FundingLot =>
      { l with remainingCredits := l.remainingCredits + returned }
    let (b, _) ← collectPackDebtsFromLot tx b account.id lot.id returned
    pure (b, returned)

/-- Retire a would-have-been return to a lot whose funding window has closed. -/
def retireToLot (b : Billing) (order : PackOrder) (lot : FundingLot) (restorable : Nat) :
    Transaction Billing := do
  let expiredHeadroom := order.packCredits - order.refundedCredits - lot.expiredCredits
  let retired := min restorable expiredHeadroom
  if retired = 0 then
    pure b
  else do
    let _ ← checkedAddAtoms "expired product-refund credits" lot.expiredCredits retired
    b.update lot.id fun l : FundingLot => { l with expiredCredits := l.expiredCredits + retired }

/-- The lot of a pack allocation, expired first where its window has closed. -/
def expireAllocationLot (tx : Tx) (b : Billing) (account : Account) (lotId : String) :
    Transaction (Billing × FundingLot) := do
  let lot ← fetch ((b.lots.find? lotId).filter (·.accountId = account.id))
    (.runtimeError "credit-pack allocation funding lot is missing or conflicting")
  if lot.status = .active && lot.expiresAt ≤ tx.wall then do
    let b ← b.update lot.id (FundingLot.expire tx.wall)
    pure (b, lot.expire tx.wall)
  else
    pure (b, lot)

/-- Put what relief left over back into the lot, as far as its status allows. -/
def settleLot (tx : Tx) (b : Billing) (account : Account) (order : PackOrder) (lot : FundingLot)
    (restorable : Nat) : Transaction (Billing × Nat) :=
  if restorable = 0 then
    pure (b, 0)
  else match lot.status with
    | .active => returnToLot tx b account order lot restorable
    | .expired => do
        let b ← retireToLot b order lot restorable
        pure (b, 0)
    | .refunded | .disputed => pure (b, 0)

/-- Reverse an allocation drawn from a pack lot; `restore` reverses the collections this
    unwinds. -/
def restoreToLot (restore : Restore) (tx : Tx) (account : Account) (b : Billing)
    (lotId : String) (amount : Nat) (visiting : List String) : Transaction (Billing × Nat) := do
  let (b, lot) ← expireAllocationLot tx b account lotId
  let order ← fetch ((b.orders.find? lot.orderId).filter (·.accountId = account.id))
    (.runtimeError "credit-pack allocation order is missing or conflicting")
  let (b, relieved, recovered) ← relievePackDebt restore tx b account order.id amount visiting
  let (b, returned) ← settleLot tx b account order lot (amount - relieved)
  pure (b, recovered + returned)

/-- Reverse one allocation without changing its refund progress marker. Every nested call
    spends one unit of fuel. -/
def restoreAllocationEffect (tx : Tx) (account : Account) : Nat → Restore
  | 0 => fun _ _ _ _ _ _ => .error .recursionLimit
  | fuel + 1 => fun b source amount eventId reason visiting =>
      match source with
      | .subscription grantEpoch =>
          if grantEpoch ≠ account.grantEpoch then
            pure (b, 0)
          else
            returnSubscriptionAtoms tx b account amount eventId reason
      | .creditPack lotId =>
          restoreToLot (restoreAllocationEffect tx account fuel) tx account b lotId amount visiting

/-! ## Refund -/

/-- A bound on the nesting of reversals: every nested call releases debt. -/
def restoreFuel (b : Billing) : Nat :=
  (b.packDebts.rows.map fun d => d.targetCredits - d.releasedCredits).sum + 1

/-- Reverse what is outstanding of the allocations of a product debit. -/
def refundAllocations (restore : Restore) (key : String) :
    List Allocation → Billing × Nat → Transaction (Billing × Nat)
  | [], s => .ok s
  | a :: rest, (b, restoredAtoms) =>
      let pending := a.amount - a.refundedAmount
      if pending = 0 then
        refundAllocations restore key rest (b, restoredAtoms)
      else do
        let (b, restored) ← restore b a.source pending s!"usage-refund:{key}" .usageRefund [key]
        let b ← markRefunded b a.id pending
        refundAllocations restore key rest (b, restoredAtoms + restored)

/-- The atoms a refund returns; a debit without allocations took the subscription balance
    of its grant epoch. -/
def reverseDebit (tx : Tx) (b : Billing) (account : Account) (debit : Debit) (key : String) :
    Transaction (Billing × Nat) :=
  let allocations := Table.orderBy Allocation.id (b.allocations.select (·.debitKey = key))
  match allocations with
  | [] =>
      if debit.grantEpoch = account.grantEpoch then
        returnSubscriptionAtoms tx b account debit.amount s!"usage-refund:{key}" .usageRefund
      else
        pure (b, 0)
  | _ :: _ =>
      refundAllocations (restoreAllocationEffect tx account (restoreFuel b)) key allocations (b, 0)

/-- The account a refund locks: the caller's, or else the owner of the debit. -/
def refundAccountId (b : Billing) (key : String) (expectedAccountId : Option String) :
    Transaction String :=
  match expectedAccountId with
  | some expected =>
      fetch (canonicalUuid expected) (.valueError "expected_account_id must be a UUID string")
  | none => do
      let snapshot ← fetch (b.debits.find? key) (.keyError "credit debit not found")
      pure snapshot.accountId

/-- `CreditService.refund`. -/
def refund (printable : Char → Bool) (tx : Tx) (b : Billing) (idempotencyKey : String)
    (expectedAccountId : Option String) : Transaction (Billing × CreditResult) := do
  let key ← validateIdempotencyKey printable idempotencyKey
  let accountId ← refundAccountId b key expectedAccountId
  let account ← fetch (b.accounts.find? accountId) (.keyError "billing account not found")
  let (b, _) ← expireAccountPackLots b account.id tx.wall
  let debit ← fetch (b.debits.find? key) (.keyError "credit debit not found")
  require (debit.accountId = account.id) .debitOwnerMismatch
  require (debit.kind = .usage)
    (.keyError "credit debit is not a refundable product operation")
  if debit.refundedAt.isSome then
    pure (b, {
      outcome := .replayed
      balance := spendableSubscriptionAtoms account tx.wall + packBalanceAtoms b account.id tx.wall
      requested := debit.amount
      restored := debit.restoredCredits })
  else do
    let (b, restoredAtoms) ← reverseDebit tx b account debit key
    let persistedRestored ← checkedAddAtoms "product-operation restored credits"
      debit.restoredCredits restoredAtoms
    require (persistedRestored ≤ debit.amount)
      (.runtimeError "restored credits exceed the original product debit")
    let b ← b.update key fun d : Debit =>
      { d with restoredCredits := persistedRestored, refundedAt := some tx.now }
    let refreshed ← fetch (b.accounts.find? account.id) (.keyError "billing account not found")
    pure (b, {
      outcome := if restoredAtoms = 0 then .epochExpired else .refunded
      balance :=
        spendableSubscriptionAtoms refreshed tx.wall + packBalanceAtoms b account.id tx.wall
      requested := debit.amount
      restored := persistedRestored })

end StripeEntitlements
