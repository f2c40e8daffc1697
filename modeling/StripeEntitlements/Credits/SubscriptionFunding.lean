import StripeEntitlements.Relational.Drain
import StripeEntitlements.Statements
import Mathlib.Data.Prod.Lex
import Mathlib.Data.String.Basic

/-!
# Subscription Funding

`credit_amount.py`, `subscription_state.py` and `clawbacks.py`: when the subscription
balance of an account may be spent, and how returned atoms settle the Invoice clawback
debt of the current grant epoch first.
-/

namespace StripeEntitlements

open Relational

/-! ## Nat -/

/-- `bounds.POSTGRES_BIGINT_MAX`. -/
def postgresBigintMax : Nat := 2 ^ 63 - 1

/-- `MAX_CREDIT_ATOMS`. -/
def maxCreditAtoms : Nat := postgresBigintMax

/-- Add two atom quantities with an explicit bigint bound check. They are natural numbers, so the
    check for negative operands has no counterpart. -/
def checkedAddAtoms (field : String) (left right : Nat) : Transaction Nat :=
  if maxCreditAtoms < left || maxCreditAtoms < right then
    .error (.valueError s!"{field} operands must be non-negative PostgreSQL bigint integers")
  else if maxCreditAtoms - right < left then
    .error (.overflow s!"{field} exceeds the PostgreSQL bigint atom range")
  else
    .ok (left + right)

/-- `credit_decimal`: whole credits and up to six fractional digits. The amount is a natural
    number, so the check for a negative one has no counterpart. -/
def creditDecimal (atoms : Nat) : String :=
  let fractional := atoms % 1000000
  let digits := (toString fractional).toList
  let padded := List.replicate (6 - digits.length) '0' ++ digits
  let trimmed := (padded.reverse.dropWhile (· = '0')).reverse
  if fractional = 0 then toString (atoms / 1000000)
  else s!"{atoms / 1000000}.{String.ofList trimmed}"

theorem checkedAddAtoms_eq_ok {field : String} {left right sum : Nat} :
    checkedAddAtoms field left right = .ok sum ↔
      sum = left + right ∧ left + right ≤ maxCreditAtoms := by
  unfold checkedAddAtoms
  split
  case isTrue h =>
    simp only [Bool.or_eq_true, decide_eq_true_eq] at h
    simp only [reduceCtorEq, false_iff, not_and]
    intro _
    omega
  case isFalse h =>
    simp only [Bool.or_eq_true, decide_eq_true_eq, not_or] at h
    split
    · simp only [reduceCtorEq, false_iff, not_and]
      intro _
      omega
    · constructor
      · intro heq
        cases heq
        exact ⟨rfl, by omega⟩
      · rintro ⟨rfl, -⟩
        rfl

/-! ## Spendability -/

/-- Whether the stored subscription funding is spendable at `asOf`. -/
def subscriptionCreditsAreSpendable (account : Account) (asOf : Int) : Bool :=
  account.subscriptionStatus = .active && !account.entitlementRevoked &&
    account.creditExpiresAt.any (asOf < ·)

def spendableSubscriptionAtoms (account : Account) (asOf : Int) : Nat :=
  if subscriptionCreditsAreSpendable account asOf then account.creditsBalance else 0

/-! ## Invoice clawback debt -/

/-- `target_units - collected_units`. -/
def ClawbackDebt.outstanding (d : ClawbackDebt) : Nat := d.targetUnits - d.collectedUnits

/-- The debts of one account and grant epoch that are not fully collected, in collection
    order. -/
def outstandingClawbackDebts (b : Billing) (accountId : String) (grantEpoch : Nat) :
    List ClawbackDebt :=
  Table.orderBy (fun d => (toLex (d.createdAt, d.key.stripeInvoiceId) : Int ×ₗ String))
    (b.clawbackDebts.select fun d =>
      d.key.accountId = accountId && d.key.grantEpoch = grantEpoch &&
        d.collectedUnits < d.targetUnits)

/-- One iteration: book `amount` against `debt`, leaving `balance`. -/
def collectClawbackDebt (accountId : String) (grantEpoch : Nat) (eventId : String)
    (b : Billing) (debt : ClawbackDebt) (amount balance : Nat) : Transaction Billing := do
  let b ← b.update ⟨accountId, grantEpoch, debt.key.stripeInvoiceId⟩ fun d : ClawbackDebt =>
    { d with collectedUnits := d.collectedUnits + amount }
  b.insertLedger accountId (-amount) balance .clawbackDebtCollection grantEpoch eventId
    (some debt.key.stripeInvoiceId) none 0

/-- Consume newly returned credits against current-epoch funding debt. -/
def collectClawbackDebts (b : Billing) (accountId : String) (grantEpoch : Nat)
    (eventId : String) : Transaction (Billing × Nat) := do
  let account ← fetch (b.accounts.find? accountId) (.keyError "account not found")
  let (b, balance) ← drain ClawbackDebt.outstanding
    (collectClawbackDebt accountId grantEpoch eventId)
    (outstandingClawbackDebts b accountId grantEpoch) account.creditsBalance b
  let collected := account.creditsBalance - balance
  if collected = 0 then
    pure (b, 0)
  else do
    let b ← b.update accountId fun a : Account => { a with creditsBalance := balance }
    pure (b, collected)

end StripeEntitlements
