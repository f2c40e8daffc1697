import StripeEntitlements.Credits.PackFunding

/-!
# What the Collectors Change

One lemma per statement group of `SubscriptionFunding` and `PackFunding` that says which
rows it wrote. Later results cite these and never unfold the collectors.

## Main results

- `collectPackDebt_eq_ok` — one pack-debt collection: debt, debit and allocation rows
- `collectPackDebtsFromLot_eq_ok`, `collectPackDebtsFromSubscription_eq_ok`,
  `collectClawbackDebts_eq_ok` — a collector is its loop and one final balance update
-/

namespace StripeEntitlements

open Relational

variable {tx : Tx} {b b' : Billing}

/-! ## Pack debt -/

/-- One collection advances the debt and adds one debit with one allocation. -/
theorem collectPackDebt_eq_ok {grantEpoch amount : Nat} {lotId : Option String} {debt : PackDebt}
    (h : collectPackDebt tx grantEpoch lotId b debt amount = .ok b') :
    ∃ debts debits allocations,
      b.packDebts.update? debt.orderId
        (fun d => { d with collectedCredits := d.collectedCredits + amount }) = some debts ∧
      b.debits.insert? (collectionDebit tx b debt amount grantEpoch) = some debits ∧
      b.lotReferenced debt.accountId (collectionSource grantEpoch lotId) = true ∧
      b.allocations.insert? (b.newAllocation (collectionDebit tx b debt amount grantEpoch).idempotencyKey
        debt.accountId (collectionSource grantEpoch lotId) amount) = some allocations ∧
      b' = { b with packDebts := debts, debits := debits, allocations := allocations } := by
  simp only [collectPackDebt, recordDebtCollection, bind_eq_ok, Billing.update_eq_ok,
    Billing.insert_eq_ok, Billing.insertAllocation_eq_ok, Stored.table, Stored.install] at h
  obtain ⟨b₁, ⟨debts, hdebts, rfl⟩, b₂, ⟨debits, hdebits, rfl⟩, hlot, allocations, hall, rfl⟩ := h
  exact ⟨debts, debits, allocations, hdebts, hdebits, hlot, hall, rfl⟩

/-- The lot collector: the loop, then one decrement of the lot. -/
theorem collectPackDebtsFromLot_eq_ok {accountId lotId : String} {availableAtoms collected : Nat}
    (h : collectPackDebtsFromLot tx b accountId lotId availableAtoms = .ok (b', collected)) :
    ∃ account b₁ remaining,
      b.accounts.find? accountId = some account ∧
      drain PackDebt.outstanding
        (fun b debt amount _ => collectPackDebt tx account.grantEpoch (some lotId) b debt amount)
        (outstandingPackDebts b accountId) availableAtoms b = .ok (b₁, remaining) ∧
      collected = availableAtoms - remaining ∧
      ∃ lots, b₁.lots.updateWhere?
          (fun l => l.id = lotId && collected ≤ l.remainingCredits)
          (fun l => { l with remainingCredits := l.remainingCredits - collected }) = some lots ∧
        b' = { b₁ with lots := lots } := by
  simp only [collectPackDebtsFromLot, bind_eq_ok, fetch_eq_ok] at h
  obtain ⟨account, haccount, ⟨b₁, remaining⟩, hdrain, h⟩ := h
  refine ⟨account, b₁, remaining, haccount, hdrain, ?_⟩
  split at h
  case isTrue hzero =>
    rw [pure_eq_ok] at h
    cases h
    refine ⟨hzero.symm, b₁.lots, ?_, rfl⟩
    exact Table.updateWhere?_of_fixed fun l _ _ => rfl
  case isFalse hpos =>
    simp only [bind_eq_ok, Billing.updateWhere_eq_ok, pure_eq_ok, Stored.table,
      Stored.install] at h
    obtain ⟨_, ⟨lots, hlots, rfl⟩, heq⟩ := h
    cases heq
    exact ⟨rfl, lots, hlots, rfl⟩

/-- The subscription collector: the loop, then the new balance. -/
theorem collectPackDebtsFromSubscription_eq_ok {accountId eventId : String}
    {grantEpoch collected : Nat}
    (h : collectPackDebtsFromSubscription tx b accountId grantEpoch eventId = .ok (b', collected)) :
    ∃ account b₁ balance,
      b.accounts.find? accountId = some account ∧
      drain PackDebt.outstanding
        (fun b debt amount balance => do
          let b ← collectPackDebt tx grantEpoch none b debt amount
          b.insertLedger accountId (-amount) balance .creditPackDebtCollection grantEpoch eventId
            none none 0)
        (outstandingPackDebts b accountId) account.creditsBalance b = .ok (b₁, balance) ∧
      collected = account.creditsBalance - balance ∧
      (balance = account.creditsBalance ∧ b' = b₁ ∨
        ∃ accounts, b₁.accounts.update? accountId
            (fun a => { a with creditsBalance := balance }) = some accounts ∧
          b' = { b₁ with accounts := accounts }) := by
  simp only [collectPackDebtsFromSubscription, bind_eq_ok, fetch_eq_ok] at h
  obtain ⟨account, haccount, ⟨b₁, balance⟩, hdrain, h⟩ := h
  refine ⟨account, b₁, balance, haccount, by simpa only [bind_eq_ok] using hdrain, ?_⟩
  split at h
  case isTrue hsame =>
    rw [pure_eq_ok] at h
    cases h
    exact ⟨by omega, .inl ⟨hsame, rfl⟩⟩
  case isFalse =>
    simp only [bind_eq_ok, Billing.update_eq_ok, pure_eq_ok, Stored.table, Stored.install] at h
    obtain ⟨_, ⟨accounts, haccounts, rfl⟩, heq⟩ := h
    cases heq
    exact ⟨rfl, .inr ⟨accounts, haccounts, rfl⟩⟩

/-! ## Invoice clawback debt -/

/-- The clawback collector: the loop, then the new balance. -/
theorem collectClawbackDebts_eq_ok {accountId eventId : String} {grantEpoch collected : Nat}
    (h : collectClawbackDebts b accountId grantEpoch eventId = .ok (b', collected)) :
    ∃ account b₁ balance,
      b.accounts.find? accountId = some account ∧
      drain ClawbackDebt.outstanding (collectClawbackDebt accountId grantEpoch eventId)
        (outstandingClawbackDebts b accountId grantEpoch) account.creditsBalance b =
          .ok (b₁, balance) ∧
      collected = account.creditsBalance - balance ∧
      (collected = 0 ∧ b' = b₁ ∨
        ∃ accounts, b₁.accounts.update? accountId
            (fun a => { a with creditsBalance := balance }) = some accounts ∧
          b' = { b₁ with accounts := accounts }) := by
  simp only [collectClawbackDebts, bind_eq_ok, fetch_eq_ok] at h
  obtain ⟨account, haccount, ⟨b₁, balance⟩, hdrain, h⟩ := h
  refine ⟨account, b₁, balance, haccount, hdrain, ?_⟩
  split at h
  case isTrue hzero =>
    rw [pure_eq_ok] at h
    cases h
    exact ⟨hzero.symm, .inl ⟨rfl, rfl⟩⟩
  case isFalse =>
    simp only [bind_eq_ok, Billing.update_eq_ok, pure_eq_ok, Stored.table, Stored.install] at h
    obtain ⟨_, ⟨accounts, haccounts, rfl⟩, heq⟩ := h
    cases heq
    exact ⟨rfl, .inr ⟨accounts, haccounts, rfl⟩⟩

end StripeEntitlements
