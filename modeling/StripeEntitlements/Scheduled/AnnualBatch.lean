import Mathlib.Data.List.Lex
import Mathlib.Data.Prod.Lex
import StripeEntitlements.Parity.PricePolicy
import StripeEntitlements.Relational.Rotation
import StripeEntitlements.Runs

/-!
# Annual Batches

`run_annual_grant_batch` of `scheduled.py` and `runAnnualGrantBatch` of `scheduled.ts`: one page
of the accounts that are due, in the order of `updated_at`, each handed to `grant_due` with a
Subscription snapshot. The two loops are the same; the workers differ in the price policy and
in the clock they read.

## Main definitions

- `dueAccounts` — the page of a batch
- `attemptCandidate` — what a batch does with one account
- `runAnnualGrantBatch` — the batch
-/

namespace StripeEntitlements

open Relational

/-! ## The TypeScript worker -/

namespace TypeScript

/-- `priceMatches` of `grantDue`. -/
def annualPriceMatches (cfg : Config) (snapshot : SubscriptionSnapshot) (plan : Plan) : Bool :=
  snapshot.itemsComplete && snapshot.quantity = some 1 && snapshot.resolvedPrice.any fun price =>
    catalogPriceMatches cfg.unicode.lower price {
      currency := plan.currency
      unitAmount := plan.amount .year
      interval := "year"
      productLine := cfg.productLine
      planKey := plan.key
      lookupKey := some (cfg.catalog.lookupKey plan .year)
      requireActive := false }

/-- The remote snapshot agrees with the local annual plan. -/
def annualPlanGuards (cfg : Config) (account : Account) (accountId : String)
    (snapshot : SubscriptionSnapshot) : Guarded Plan := do
  let mismatch := Stop.returned
    [.observe .annualPlanMismatch (annualMismatchKey account accountId)
      account.fundingInvoiceId (some account.id)]
    { outcome := .ignored, reason := some "remote and local annual plans differ"
      accountId := some accountId }
  let (plan, interval) ← fetch (cfg.catalog.parseLookupKey snapshot.lookupKey) mismatch
  require (plan.key = account.planKey && interval = .year &&
    snapshot.currentPeriodEnd.isSome &&
    snapshot.currentPeriodEnd = account.entitlementPeriodEnd &&
    snapshot.currentPeriodEnd = account.currentPeriodEnd &&
    annualPriceMatches cfg snapshot plan) mismatch
  pure plan

/-- The effects of `grantDue`; a missing funding Invoice is answered before it is looked up. -/
def applyAnnualGrant (cfg : Config) (tx : Tx) (b : Billing) (account : Account) (plan : Plan)
    (accountId : String) (now : Int) : Transaction Effect :=
  if account.annualGrantsIssued < annualTargetSlot cfg account now ∧
      account.fundingInvoiceId = none then
    .ok {
      billing := b
      incidents := [.resolveAnnualMismatch (annualMismatchKey account accountId)]
      result := {
        outcome := .ignored
        reason := some "funding invoice state is missing"
        accountId := some accountId } }
  else
    StripeEntitlements.applyAnnualGrant cfg tx b account plan accountId now

/-- `grantDue`: without a time it reads `clock_timestamp()`. -/
def grantDue (cfg : Config) (tx : Tx) (b : Billing) (accountId : String) (now : Option Int)
    (snapshot : SubscriptionSnapshot) : Transaction Effect :=
  let now := now.getD tx.wall
  let guards : Guarded (Account × Plan) := do
    let account ← annualAccountGuards b accountId now snapshot
    let plan ← annualPlanGuards cfg account accountId snapshot
    pure (account, plan)
  guards.andThen b fun (account, plan) => applyAnnualGrant cfg tx b account plan accountId now

end TypeScript

/-! ## Candidates -/

/-- The database, and the column `updated_at` of its accounts. -/
structure AnnualScan where
  db : Db
  updatedAt : String → Int

/-- The `where` of `due_accounts`. -/
def Account.isDue (cfg : Config) (now : Int) (a : Account) : Bool :=
  a.planInterval = some .year && a.subscriptionStatus = .active && !a.entitlementRevoked &&
    a.entitlementPeriodEnd.any (now < ·) && a.fundingInvoiceId.isSome &&
    a.annualGrantsIssued < a.annualGrantsAllowed &&
    a.annualAnchor.any fun anchor => cfg.addMonths anchor a.annualGrantsIssued ≤ now

/-- `(updated_at, id)`. -/
def AnnualScan.position (s : AnnualScan) (id : String) : ℤ ×ₗ List Char :=
  toLex (s.updatedAt id, id.toList)

/-- The due accounts that no other argument excludes. -/
def AnnualScan.due (cfg : Config) (s : AnnualScan) (now : Int) (excluded : List String) :
    List Account :=
  s.db.billing.accounts.select fun a => a.isDue cfg now && !excluded.contains a.id

/-- `AnnualGrantService.due_accounts`. -/
def dueAccounts (cfg : Config) (s : AnnualScan) (now : Int) (limit : Nat)
    (excluded : List String := []) : List Account :=
  page (fun a => s.position a.id) limit (s.due cfg now excluded)

/-- `AnnualGrantService.defer_candidate`, and the `updated_at` of other updates. -/
def AnnualScan.stamp (s : AnnualScan) (accountId : String) (time : Int) : AnnualScan :=
  { s with updatedAt := Function.update s.updatedAt accountId time }

/-- `AnnualGrantService.record_failure`; a batch goes on without it. -/
def AnnualScan.recordFailure (tx : Tx) (s : AnnualScan) (a : Account) : AnnualScan :=
  match applyIncident tx none s.db.incidents
      (.observe .annualGrantFailed (annualMismatchKey a a.id) none (some a.id)) with
  | .ok incidents => { s with db := { s.db with incidents } }
  | .error _ => s

/-! ## One candidate -/

/-- `grant_due` of a worker. -/
abbrev AnnualWorker := Tx → Billing → String → SubscriptionSnapshot → Transaction Effect

def pythonAnnualWorker (cfg : Config) : AnnualWorker := fun tx b accountId snapshot =>
  grantDue cfg tx b accountId none snapshot

def TypeScript.annualWorker (cfg : Config) : AnnualWorker := fun tx b accountId snapshot =>
  TypeScript.grantDue cfg tx b accountId none snapshot

/-- What a batch finds outside: the snapshots that Stripe answers with, and the accounts whose
    transaction is not lost on the way. -/
structure AnnualRemote where
  snapshot : Option String → Option SubscriptionSnapshot
  connected : String → Bool

/-- The times of a batch: of its page, and for each candidate of its transaction and of its
    deferral. -/
structure BatchClock where
  selectedAt : Int
  tx : String → Tx
  deferredAt : String → Int

/-- `grant_due` as it commits, if it does. -/
def annualTransaction (worker : AnnualWorker) (tx : Tx) (db : Db) (accountId : String)
    (snapshot : SubscriptionSnapshot) : Transaction (Db × ProcessResult) := do
  let effect ← worker tx db.billing accountId snapshot
  let incidents ← effect.incidents.foldlM (applyIncident tx none) db.incidents
  pure ({ db with billing := effect.billing, incidents }, effect.result)

/-- The answers of `grant_due` that come with `updated_at=now()`. -/
def ProcessResult.stampsAccount (r : ProcessResult) : Bool :=
  r.outcome = .handled || r.reason = some "funding invoice is closed"

/-- What became of one candidate. -/
inductive Attempt where
  | snapshotFailed
  | grantFailed
  | returned (outcome : EventOutcome)
  deriving DecidableEq, Repr

/-- The body of the loop. -/
def attemptCandidate (worker : AnnualWorker) (remote : AnnualRemote) (clock : BatchClock)
    (s : AnnualScan) (a : Account) : AnnualScan × Attempt :=
  let tx := clock.tx a.id
  match remote.snapshot a.stripeSubscriptionId with
  | none => ((s.recordFailure tx a).stamp a.id (clock.deferredAt a.id), .snapshotFailed)
  | some snapshot =>
      match annualTransaction worker tx s.db a.id snapshot, remote.connected a.id with
      | .ok (db, result), true =>
          let s := { s with db }
          let s := if result.stampsAccount then s.stamp a.id tx.now else s
          let s := if result.outcome = .ignored then s.stamp a.id (clock.deferredAt a.id) else s
          (s, .returned result.outcome)
      -- the loop goes on, and the candidate keeps its place
      | _, _ => (s, .grantFailed)

/-! ## The batch -/

/-- The candidates one after another. -/
def attemptAll (worker : AnnualWorker) (remote : AnnualRemote) (clock : BatchClock) :
    AnnualScan → List Account → AnnualScan × List Attempt
  | s, [] => (s, [])
  | s, a :: rest =>
      let (s, attempt) := attemptCandidate worker remote clock s a
      let (s, attempts) := attemptAll worker remote clock s rest
      (s, attempt :: attempts)

structure AnnualGrantBatchResult where
  attempted : Nat
  handled : Nat
  replayed : Nat
  ignored : Nat
  failures : Nat
  deriving DecidableEq, Repr

def AnnualGrantBatchResult.of (attempts : List Attempt) : AnnualGrantBatchResult where
  attempted := attempts.length
  handled := attempts.count (.returned .handled)
  replayed := attempts.count (.returned .replayed)
  ignored := attempts.count (.returned .ignored)
  failures := attempts.countP fun attempt =>
    attempt = .snapshotFailed || attempt = .grantFailed || attempt = .returned .duplicate

/-- `run_annual_grant_batch`, where every deferral succeeds. -/
def runAnnualGrantBatch (cfg : Config) (worker : AnnualWorker) (remote : AnnualRemote)
    (clock : BatchClock) (limit : Int) (s : AnnualScan) :
    Transaction (AnnualScan × AnnualGrantBatchResult) := do
  require (1 ≤ limit && limit ≤ 100)
    (.valueError "annual grant batch limit must be an integer between 1 and 100")
  let candidates := dueAccounts cfg s clock.selectedAt limit.toNat
  let (s, attempts) := attemptAll worker remote clock s candidates
  pure (s, .of attempts)

end StripeEntitlements
