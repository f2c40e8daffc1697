import StripeEntitlements.Credits.ServiceFrame
import StripeEntitlements.Ledger.Postings

/-!
# Charges and Product Refunds Seen From the Balance

However deep a product refund recurses, the subscription balance and the ledger only see a
sequence of returns, each followed by its collectors; a charge writes them once. Everything
else these operations do happens in the lots, debits, allocations and pack debts.

## Main results

- `refund_returns` — a product refund is a sequence of returns to the balance
- `charge_pays` — a charge draws once from the balance
- `refund_rebalanced`, `charge_rebalanced` — both are postings of the balance
-/

namespace StripeEntitlements

open Relational

variable {tx : Tx} {account : Account} {b b' : Billing}

/-! ## Steps that leave the books alone -/

/-- The accounts, the ledger, the Invoices, what they owe, the intents and the claims stay as
    they are. -/
structure SameBooks (b b' : Billing) : Prop where
  accounts : b'.accounts = b.accounts
  ledger : b'.ledger = b.ledger
  clawbackDebts : b'.clawbackDebts = b.clawbackDebts
  invoices : b'.invoices = b.invoices
  fundings : b'.fundings = b.fundings
  planChanges : b'.planChanges = b.planChanges
  claims : b'.claims = b.claims

namespace SameBooks

theorem refl (b : Billing) : SameBooks b b := ⟨rfl, rfl, rfl, rfl, rfl, rfl, rfl⟩

theorem trans {b'' : Billing} (h : SameBooks b b') (h' : SameBooks b' b'') : SameBooks b b'' where
  accounts := h'.accounts.trans h.accounts
  ledger := h'.ledger.trans h.ledger
  clawbackDebts := h'.clawbackDebts.trans h.clawbackDebts
  invoices := h'.invoices.trans h.invoices
  fundings := h'.fundings.trans h.fundings
  planChanges := h'.planChanges.trans h.planChanges
  claims := h'.claims.trans h.claims

theorem rebalanced {k : String} (h : SameBooks b b') : Rebalanced k b b' :=
  .of_eq h.accounts h.ledger

theorem collectPackDebtsFromLot {accountId lotId : String} {available collected : Nat}
    (h : collectPackDebtsFromLot tx b accountId lotId available = .ok (b', collected)) :
    SameBooks b b' := by
  obtain ⟨_, b₁, _, -, hdrain, -, lots, -, rfl⟩ := collectPackDebtsFromLot_eq_ok h
  have hloop : SameBooks b b₁ := by
    refine drain_rule (P := fun _ s => SameBooks b s) ?_ (.refl b) hdrain
    intro debt amount left s s' _ _ hs hrun
    obtain ⟨debts, debits, allocations, -, -, -, -, rfl⟩ := collectPackDebt_eq_ok hrun
    exact hs.trans ⟨rfl, rfl, rfl, rfl, rfl, rfl, rfl⟩
  exact hloop.trans ⟨rfl, rfl, rfl, rfl, rfl, rfl, rfl⟩

theorem settleLot {order : PackOrder} {lot : FundingLot} {restorable returned : Nat}
    (h : settleLot tx b account order lot restorable = .ok (b', returned)) : SameBooks b b' := by
  rcases settleLot_eq_ok h with ⟨-, rfl⟩ | ⟨-, -, lots, _, -, hcollect⟩ | ⟨-, lots, -, rfl⟩
  · exact .refl _
  · have hlots : SameBooks b { b with lots := lots } := ⟨rfl, rfl, rfl, rfl, rfl, rfl, rfl⟩
    exact hlots.trans (collectPackDebtsFromLot hcollect)
  · exact ⟨rfl, rfl, rfl, rfl, rfl, rfl, rfl⟩

theorem expireAccountPackLots {accountId : String} {asOf : Int} {expired : Bool}
    (h : expireAccountPackLots b accountId asOf = .ok (b', expired)) : SameBooks b b' := by
  simp only [StripeEntitlements.expireAccountPackLots, bind_eq_ok, Billing.updateWhere_eq_ok,
    pure_eq_ok] at h
  obtain ⟨_, ⟨lots, -, rfl⟩, heq⟩ := h
  cases heq
  exact ⟨rfl, rfl, rfl, rfl, rfl, rfl, rfl⟩

theorem insertAllocation {key accountId : String} {source : FundingSource} {amount : Nat}
    (h : b.insertAllocation key accountId source amount = .ok b') : SameBooks b b' := by
  obtain ⟨-, allocations, -, rfl⟩ := Billing.insertAllocation_eq_ok.1 h
  exact ⟨rfl, rfl, rfl, rfl, rfl, rfl, rfl⟩

end SameBooks

/-! ## Product refunds -/

/-- One step of a product refund, seen from the books of the account it locked. -/
inductive ReturnStep (tx : Tx) (account : Account) : Billing → Billing → Prop
  | silent {b b' : Billing} (h : SameBooks b b') : ReturnStep tx account b b'
  | returned {b b' : Billing} {amount : Nat} {eventId : String} {reason : LedgerReason}
      (hspendable : subscriptionCreditsAreSpendable account tx.wall = true)
      (hreason : reason.isReturn)
      (h : returnSubscriptionAtoms tx b account amount eventId reason = .ok (b', amount)) :
      ReturnStep tx account b b'

/-- A sequence of such steps. -/
abbrev Returns (tx : Tx) (account : Account) : Billing → Billing → Prop :=
  Relation.ReflTransGen (ReturnStep tx account)

theorem Returns.silent (h : SameBooks b b') : Returns tx account b b' := .single (.silent h)

/-- A reversal is a sequence of returns, however its debts unwind. -/
theorem restoreAllocationEffect_returns {fuel : Nat} {source : FundingSource} {n restored : Nat}
    {eventId : String} {reason : LedgerReason} {visiting : List String} (hreason : reason.isReturn)
    (h : restoreAllocationEffect tx account fuel b source n eventId reason visiting =
      .ok (b', restored)) : Returns tx account b b' := by
  -- only the return of atoms to the balance posts; every other write of a reversal is silent
  refine restore_induction (P := fun _ b _ _ b' => Returns tx account b b')
    (Q := fun _ _ b _ b' => Returns tx account b b') ?_ ?_ ?_ ?_ ?_ ?_ hreason h
  · intro visiting b epoch n _
    exact .refl
  · intro visiting b n eventId reason b' hspendable hreason hrun
    exact .single (.returned hspendable hreason hrun)
  · intro visiting orderId b
    exact .refl
  · intro visiting orderId b d debts r _ _ _ _
    exact .silent ⟨rfl, rfl, rfl, rfl, rfl, rfl, rfl⟩
  -- release, callee, mark: the callee's returns stand between two silent writes
  · intro visiting orderId b r k a s s₁ s₂ s' hs _ hu hcallee
    obtain ⟨debts, -, rfl⟩ := hu.release
    obtain ⟨allocations, debits, f, -, -, -, rfl⟩ := hu.mark
    have hrelease : Returns tx account s { s with packDebts := debts } :=
      .silent ⟨rfl, rfl, rfl, rfl, rfl, rfl, rfl⟩
    have hmark : Returns tx account s₂ { s₂ with allocations := allocations, debits := debits } :=
      .silent ⟨rfl, rfl, rfl, rfl, rfl, rfl, rfl⟩
    exact ((hs.trans hrelease).trans hcallee).trans hmark
  -- the lot's expiry and its settlement leave the books alone
  · intro visiting b lotId n b₁ lot order b₂ b' returned hexpire _ _ _ hrelieve hsettle
    obtain ⟨_, lots, -, -, -, rfl⟩ := expireAllocationLot_eq_ok hexpire
    have hlots : Returns tx account b { b with lots := lots } :=
      .silent ⟨rfl, rfl, rfl, rfl, rfl, rfl, rfl⟩
    exact (hlots.trans hrelieve).trans (Returns.silent (.settleLot hsettle))

theorem refundAllocations_returns {fuel total total' : Nat} {key : String}
    {rows : List Allocation}
    (h : refundAllocations (restoreAllocationEffect tx account fuel) key rows (b, total) =
      .ok (b', total')) : Returns tx account b b' := by
  induction rows generalizing b total with
  | nil =>
    cases h
    exact .refl
  | cons a rest ih =>
    simp only [refundAllocations] at h
    split at h
    · exact ih h
    · simp only [bind_eq_ok, markRefunded, Billing.updateWhere_eq_ok] at h
      obtain ⟨⟨b₁, restored⟩, hrestore, _, ⟨allocations, -, rfl⟩, h⟩ := h
      have hmark : Returns tx account b₁ { b₁ with allocations := allocations } :=
        .silent ⟨rfl, rfl, rfl, rfl, rfl, rfl, rfl⟩
      exact ((restoreAllocationEffect_returns (.inl rfl) hrestore).trans hmark).trans (ih h)

theorem reverseDebit_returns {debit : Debit} {key : String} {restored : Nat}
    (h : reverseDebit tx b account debit key = .ok (b', restored)) : Returns tx account b b' := by
  simp only [reverseDebit] at h
  split at h
  · split at h
    · rcases returnSubscriptionAtoms_eq_ok h with ⟨-, rfl, -⟩ | ⟨hspendable, rfl, -⟩
      · exact .refl
      · exact .single (.returned hspendable (.inl rfl) h)
    · rw [pure_eq_ok] at h
      cases h
      exact .refl
  · exact refundAllocations_returns h

/-- **A product refund** is a sequence of returns to the account it locked. -/
theorem refund_returns {printable : Char → Bool} {idempotencyKey : String}
    {expectedAccountId : Option String} {result : CreditResult}
    (h : refund printable tx b idempotencyKey expectedAccountId = .ok (b', result)) :
    ∃ account, b.accounts.find? account.id = some account ∧ Returns tx account b b' := by
  obtain ⟨account, b₁, expired, debit, haccount, hexpire, -, -, -, hcase⟩ := refund_eq_ok h
  refine ⟨account, haccount, ?_⟩
  have hexpired : Returns tx account b b₁ := .silent (.expireAccountPackLots hexpire)
  rcases hcase with ⟨-, rfl, -⟩ | ⟨-, b₂, restored, debits, hreverse, -, rfl, -⟩
  · exact hexpired
  · have hdebit : Returns tx account b₂ { b₂ with debits := debits } :=
      .silent ⟨rfl, rfl, rfl, rfl, rfl, rfl, rfl⟩
    exact (hexpired.trans (reverseDebit_returns hreverse)).trans hdebit

theorem Returns.rebalanced (h : Returns tx account b b') : Rebalanced account.id b b' := by
  induction h with
  | refl => exact .refl _ _
  | tail _ hstep ih =>
    cases hstep with
    | silent hs => exact ih.trans hs.rebalanced
    | returned _ _ hrun => exact ih.trans (returnSubscriptionAtoms_posts hrun)

/-- A product refund posts to the balance of one account. -/
theorem refund_rebalanced {printable : Char → Bool} {idempotencyKey : String}
    {expectedAccountId : Option String} {result : CreditResult}
    (h : refund printable tx b idempotencyKey expectedAccountId = .ok (b', result)) :
    ∃ account balance, Posts account (account.withBalance balance) b b' := by
  obtain ⟨account, haccount, hreturns⟩ := refund_returns h
  obtain ⟨balance, hposted⟩ := hreturns.rebalanced account haccount
  exact ⟨account, balance, hposted⟩

/-! ## Charges -/

/-- What a source may still take from the subscription balance. -/
def ChargeSource.subscriptionCap : ChargeSource → Nat
  | .creditPack _ => 0
  | .subscription account _ => account.creditsBalance

/-- The subscription is offered at most once. -/
theorem chargeSources_cap (account : Account) (lots : List FundingLot) (asOf : Int) :
    ((chargeSources account lots asOf).map ChargeSource.subscriptionCap).sum ≤
      account.creditsBalance := by
  have hpacks : ∀ rows : List FundingLot,
      ((rows.map ChargeSource.creditPack).map ChargeSource.subscriptionCap).sum = 0 := by
    intro rows
    induction rows with
    | nil => rfl
    | cons l rows ih => simpa [ChargeSource.subscriptionCap] using ih
  unfold chargeSources
  rw [((Table.orderBy_perm _ _).map _).sum_eq, List.map_append, List.sum_append, hpacks, zero_add]
  split
  · split
    · simp [ChargeSource.subscriptionCap]
    · simp
  · simp

/-- Drawing from a source leaves the books alone. -/
theorem drawFromSource_books {key : String} {source : ChargeSource} {used left total total' : Nat}
    (hused : used ≤ source.available)
    (h : drawFromSource account key (b, total) source used left = .ok (b', total')) :
    SameBooks b b' ∧ total' ≤ total + source.subscriptionCap := by
  cases source with
  | subscription a expiresAt =>
    simp only [drawFromSource, bind_eq_ok, pure_eq_ok] at h
    obtain ⟨b₁, hinsert, heq⟩ := h
    cases heq
    exact ⟨.insertAllocation hinsert, Nat.add_le_add_left hused total⟩
  | creditPack lot =>
    simp only [drawFromSource, bind_eq_ok, Billing.updateWhere_eq_ok, pure_eq_ok, Stored.table,
      Stored.install] at h
    obtain ⟨_, ⟨lots, -, rfl⟩, b₁, hinsert, heq⟩ := h
    cases heq
    have hlots : SameBooks b { b with lots := lots } := ⟨rfl, rfl, rfl, rfl, rfl, rfl, rfl⟩
    exact ⟨hlots.trans (.insertAllocation hinsert), Nat.le_add_right _ _⟩

/-- **A charge** draws once from the balance of the account it locked, and at most what is
    there. -/
theorem charge_pays {printable : Char → Bool} {accountId idempotencyKey : String} {amount : Nat}
    {result : CreditResult}
    (h : charge printable tx b accountId amount idempotencyKey = .ok (b', result)) :
    ∃ account key used b₁, b.accounts.find? account.id = some account ∧
      used ≤ account.creditsBalance ∧ SameBooks b b₁ ∧
      chargeSubscription b₁ account key used = .ok b' := by
  simp only [charge, bind_eq_ok, fetch_eq_ok, Option.bind_eq_some_iff] at h
  obtain ⟨-, -, key, -, account, ⟨id, -, haccount⟩, ⟨b₁, expired⟩, hexpire, -, -, h⟩ := h
  have hid : account.id = id := Table.find?_key haccount
  have hexpired := SameBooks.expireAccountPackLots hexpire
  refine ⟨account, key, ?_⟩
  -- a replay pays nothing; a new debit is drained and then paid
  split at h
  · simp only [bind_eq_ok, pure_eq_ok] at h
    obtain ⟨_, -, heq⟩ := h
    cases heq
    exact ⟨0, b', hid ▸ haccount, Nat.zero_le _, hexpired, if_pos rfl⟩
  · simp only [bind_eq_ok, Billing.insert_eq_ok, pure_eq_ok, Stored.table, Stored.install] at h
    obtain ⟨_, ⟨debits, -, rfl⟩, -, -, ⟨⟨b₂, used⟩, left⟩, hdrain, b₃, hpay, heq⟩ := h
    cases heq
    have hdebit : SameBooks b { b₁ with debits := debits } :=
      hexpired.trans ⟨rfl, rfl, rfl, rfl, rfl, rfl, rfl⟩
    -- loop invariant: the atoms drawn and the caps still ahead stay within the balance
    obtain ⟨rest, hbooks, hcap⟩ := drain_invariant
      (P := fun sources _ (s : Billing × Nat) => SameBooks b s.1 ∧
        s.2 + (sources.map ChargeSource.subscriptionCap).sum ≤ account.creditsBalance) (by
        rintro source sources used left ⟨s, total⟩ ⟨s', total'⟩ _ hle _ ⟨hs, htotal⟩ hrun
        obtain ⟨hs', htotal'⟩ := drawFromSource_books hle hrun
        simp only [List.map_cons, List.sum_cons] at htotal
        exact ⟨hs.trans hs', by dsimp only at htotal ⊢; omega⟩)
      -- at the start nothing is drawn, and the caps of the sources are within the balance
      ⟨hdebit, by
        have := chargeSources_cap account (spendableLots b₁ account.id tx.wall) tx.wall
        simpa using this⟩ hdrain
    exact ⟨used, b₂, hid ▸ haccount, by dsimp only at hcap; omega, hbooks, hpay⟩

theorem chargeSubscription_posts {b₀ : Billing} {key : String} {used : Nat}
    (haccount : b.accounts.find? account.id = some account) (hused : used ≤ account.creditsBalance)
    (hsame : SameBooks b b₀) (h : chargeSubscription b₀ account key used = .ok b') :
    Posts account (account.withBalance (account.creditsBalance - used)) b b' := by
  unfold chargeSubscription at h
  split at h
  case isTrue hzero =>
    rw [pure_eq_ok] at h
    subst h hzero
    rw [Posts, hsame.accounts, hsame.ledger]
    exact .refl haccount _
  case isFalse =>
    simp only [bind_eq_ok, Billing.update_eq_ok, Stored.table, Stored.install] at h
    obtain ⟨_, ⟨accounts, hupdate, rfl⟩, hledger⟩ := h
    obtain ⟨hentries, haccounts⟩ :=
      Entries.insertLedger (x := account.creditsBalance) hledger (by omega)
    rw [hsame.accounts] at hupdate
    rw [Posts, haccounts, ← hsame.ledger]
    exact .update haccount hupdate (fun _ => rfl) hentries

/-- A charge posts to the balance of one account. -/
theorem charge_rebalanced {printable : Char → Bool} {accountId idempotencyKey : String}
    {amount : Nat} {result : CreditResult}
    (h : charge printable tx b accountId amount idempotencyKey = .ok (b', result)) :
    ∃ account balance, Posts account (account.withBalance balance) b b' := by
  obtain ⟨account, key, used, b₁, haccount, hused, hsame, hpay⟩ := charge_pays h
  exact ⟨account, _, chargeSubscription_posts haccount hused hsame hpay⟩

end StripeEntitlements
