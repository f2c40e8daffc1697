import StripeEntitlements.Processor.Quiet
import StripeEntitlements.Relational.Agreement

/-!
# Restated Accounts

Some Events only restate what Stripe says of a Subscription: its status, its period and the
cursor move, and the credits stay. Two states that differ by such facts give every statement
of a product refund the same rows, so a refund runs alike from both, as long as it sees the
subscription balance as spendable in both or in neither.

## Main definitions

- `Restated` — the states agree on what refunds read and write, up to the accounts' status

## Main results

- `Restated.returnSubscriptionAtoms`, `Restated.collectPackDebtsFromLot` — the collectors
  and returns agree
-/

namespace StripeEntitlements

open Relational

variable {tx : Tx} {b b' : Billing} {account account' : Account}

/-! ## Restated states -/

/-- The states agree on everything a product refund reads or writes, except for what an
    account says apart from its balance and its epoch. -/
structure Restated (b b' : Billing) : Prop extends Quiet b b' where
  orders : b'.orders = b.orders
  lots : b'.lots = b.lots
  packDebts : b'.packDebts = b.packDebts
  clawbackDebts : b'.clawbackDebts = b.clawbackDebts

/-- Two results with the same answer over restated states. -/
def Restated.Answers {α : Type} (s s' : Billing × α) : Prop := Restated s.1 s'.1 ∧ s.2 = s'.2

/-- The tables restated states share. -/
class Shared (R : Type) {K : outParam Type} [Relation R K] [Stored R] : Prop where
  table {b b' : Billing} : Restated b b' → Stored.table b' = (Stored.table b : Table R)
  install {b b' : Billing} (t : Table R) :
    Restated b b' → Restated (Stored.install b t) (Stored.install b' t)

instance : Shared LedgerRow := ⟨fun h => h.ledger, fun _ h => { h with ledger := rfl }⟩
instance : Shared Debit := ⟨fun h => h.debits, fun _ h => { h with debits := rfl }⟩
instance : Shared Allocation :=
  ⟨fun h => h.allocations, fun _ h => { h with allocations := rfl }⟩
instance : Shared FundingLot := ⟨fun h => h.lots, fun _ h => { h with lots := rfl }⟩
instance : Shared PackDebt := ⟨fun h => h.packDebts, fun _ h => { h with packDebts := rfl }⟩
instance : Shared ClawbackDebt :=
  ⟨fun h => h.clawbackDebts, fun _ h => { h with clawbackDebts := rfl }⟩

theorem Account.credits_eq : account'.credits = account.credits ↔ account'.id = account.id ∧
    account'.creditsBalance = account.creditsBalance ∧
      account'.grantEpoch = account.grantEpoch := by
  simp only [Account.credits, Prod.mk.injEq]

namespace Restated

theorem refl (b : Billing) : Restated b b := ⟨.refl b, rfl, rfl, rfl, rfl⟩

theorem trans {b'' : Billing} (h : Restated b b') (h' : Restated b' b'') : Restated b b'' where
  toQuiet := h.toQuiet.trans h'.toQuiet
  orders := h'.orders.trans h.orders
  lots := h'.lots.trans h.lots
  packDebts := h'.packDebts.trans h.packDebts
  clawbackDebts := h'.clawbackDebts.trans h.clawbackDebts

/-! ### Statements -/

section

variable {R K : Type} [Relation R K] [DecidableEq K] [Stored R] [Shared R]

omit [DecidableEq K] in
/-- A statement on a shared table. -/
theorem commit (h : Restated b b') (t : Option (Table R)) :
    Agree Restated (do let t ← statement t; pure (Stored.install b t))
      (do let t ← statement t; pure (Stored.install b' t)) :=
  .same _ fun t _ => .pure (Shared.install t h)

theorem update (h : Restated b b') (k : K) (f : R → R) :
    Agree Restated (b.update k f) (b'.update k f) := by
  unfold Billing.update
  rw [Shared.table h]
  exact h.commit _

theorem updateWhere (h : Restated b b') (p : R → Bool) (f : R → R) :
    Agree Restated (b.updateWhere p f) (b'.updateWhere p f) := by
  unfold Billing.updateWhere
  rw [Shared.table h]
  exact h.commit _

theorem insert (h : Restated b b') (r : R) : Agree Restated (b.insert r) (b'.insert r) := by
  unfold Billing.insert
  rw [Shared.table h]
  exact h.commit _

end

theorem insertLedger (h : Restated b b') {accountId : String} {delta : Int} {balanceAfter : Nat}
    {reason : LedgerReason} {grantEpoch : Nat} {eventId : String} {invoiceId : Option String}
    {slot : Option Nat} {units : Nat} :
    Agree Restated
      (b.insertLedger accountId delta balanceAfter reason grantEpoch eventId invoiceId slot units)
      (b'.insertLedger accountId delta balanceAfter reason grantEpoch eventId invoiceId slot
        units) := by
  unfold Billing.insertLedger
  rw [h.ledger]
  exact h.insert _

theorem insertAllocation (h : Restated b b') {key accountId : String} {source : FundingSource}
    {amount : Nat} :
    Agree Restated (b.insertAllocation key accountId source amount)
      (b'.insertAllocation key accountId source amount) := by
  have href : b'.lotReferenced accountId source = b.lotReferenced accountId source := by
    cases source with
    | subscription epoch => rfl
    | creditPack lotId =>
      simp only [Billing.lotReferenced]
      rw [h.lots]
  have hnew : b'.newAllocation key accountId source amount =
      b.newAllocation key accountId source amount := by
    unfold Billing.newAllocation
    rw [h.allocations]
  unfold Billing.insertAllocation
  rw [href, hnew]
  exact .same _ fun _ _ => h.insert _

/-- The accounts are found under the same ids, with the same credits. -/
theorem find_credits (h : Restated b b') (k : String) :
    (b'.accounts.find? k).map Account.credits = (b.accounts.find? k).map Account.credits := by
  have hfind : ∀ rows : List Account, (rows.find? (·.id = k)).map Account.credits =
      (rows.map Account.credits).find? (·.1 = k) := by
    intro rows
    rw [List.find?_map]
    rfl
  show ((b'.accounts.rows.find? (·.id = k)).map _) = (b.accounts.rows.find? (·.id = k)).map _
  rw [hfind, hfind, h.credits]

theorem fetchAccount (h : Restated b b') (k : String) (failure : Failure) :
    Agree (fun a a' : Account => a'.credits = a.credits) (fetch (b.accounts.find? k) failure)
      (fetch (b'.accounts.find? k) failure) := by
  have haccount := h.find_credits k
  cases ha : b.accounts.find? k with
  | none =>
    rw [ha, Option.map_none, Option.map_eq_none_iff] at haccount
    rw [haccount]
    exact .error failure
  | some a =>
    rw [ha, Option.map_some, Option.map_eq_some_iff] at haccount
    obtain ⟨a', ha', hsame⟩ := haccount
    rw [ha']
    exact .ok hsame

/-- A new balance. No constraint reads a balance, so the statement succeeds. -/
theorem setBalance (h : Restated b b') (k : String) (balance : Nat) :
    Agree Restated (b.update k fun a : Account => { a with creditsBalance := balance })
      (b'.update k fun a : Account => { a with creditsBalance := balance }) := by
  have hset : ∀ b : Billing, ∃ t, b.accounts.update? k
      (fun a : Account => { a with creditsBalance := balance }) = some t := by
    intro b
    refine Table.update?_isSome (fun _ => rfl) (fun _ => rfl) fun ix hix r => ?_
    simp only [Relation.indexes, List.mem_cons, List.not_mem_nil, or_false] at hix
    rcases hix with rfl | rfl | rfl <;> rfl
  -- the new credits of a row are a function of its old ones
  have hcredits : ∀ (b : Billing) t, b.accounts.update? k
      (fun a : Account => { a with creditsBalance := balance }) = some t →
      t.rows.map Account.credits = (b.accounts.rows.map Account.credits).map fun c =>
        if c.1 = k then (c.1, balance, c.2.2) else c := by
    intro b t ht
    rw [Table.update?_eq_some.1 ht, List.map_map, List.map_map]
    refine List.map_congr_left fun a _ => ?_
    simp only [Function.comp_apply]
    show Account.credits (if a.id = k then _ else a) = if a.id = k then _ else _
    split <;> rfl
  obtain ⟨t, ht⟩ := hset b
  obtain ⟨t', ht'⟩ := hset b'
  have hb : b.update k (fun a : Account => { a with creditsBalance := balance }) =
      .ok { b with accounts := t } := Billing.update_eq_ok.2 ⟨t, ht, rfl⟩
  have hb' : b'.update k (fun a : Account => { a with creditsBalance := balance }) =
      .ok { b' with accounts := t' } := Billing.update_eq_ok.2 ⟨t', ht', rfl⟩
  rw [hb, hb']
  refine .ok { h with credits := ?_ }
  show t'.rows.map Account.credits = t.rows.map Account.credits
  rw [hcredits b t ht, hcredits b' t' ht', h.credits]

/-! ### Collectors -/

theorem outstandingPackDebts (h : Restated b b') (accountId : String) :
    outstandingPackDebts b' accountId = outstandingPackDebts b accountId := by
  unfold StripeEntitlements.outstandingPackDebts
  rw [h.packDebts]

theorem outstandingClawbackDebts (h : Restated b b') (accountId : String) (grantEpoch : Nat) :
    outstandingClawbackDebts b' accountId grantEpoch =
      outstandingClawbackDebts b accountId grantEpoch := by
  unfold StripeEntitlements.outstandingClawbackDebts
  rw [h.clawbackDebts]

theorem collectPackDebt (h : Restated b b') {grantEpoch amount : Nat} {lotId : Option String}
    {debt : PackDebt} :
    Agree Restated (collectPackDebt tx grantEpoch lotId b debt amount)
      (collectPackDebt tx grantEpoch lotId b' debt amount) := by
  unfold StripeEntitlements.collectPackDebt
  refine (h.update _ _).bind fun s s' _ hs => ?_
  have hdebit : collectionDebit tx s' debt amount grantEpoch =
      collectionDebit tx s debt amount grantEpoch := by
    unfold collectionDebit
    rw [hs.debits]
  unfold recordDebtCollection
  rw [hdebit]
  apply (hs.insert _).bind
  exact fun _ _ _ hs => hs.insertAllocation

theorem collectPackDebtsFromLot (h : Restated b b') {accountId lotId : String}
    {available : Nat} :
    Agree Answers (collectPackDebtsFromLot tx b accountId lotId available)
      (collectPackDebtsFromLot tx b' accountId lotId available) := by
  unfold StripeEntitlements.collectPackDebtsFromLot
  refine (h.fetchAccount _ _).bind fun a a' _ ha => ?_
  obtain ⟨-, -, hepoch⟩ := Account.credits_eq.1 ha
  rw [h.outstandingPackDebts, hepoch]
  refine Agree.bind (R := Answers) (Agree.drain (R := Restated) ?_ h) ?_
  · exact fun _ _ _ _ s s' hs => hs.collectPackDebt
  rintro ⟨s, left⟩ ⟨s', _⟩ - ⟨hs, rfl⟩
  dsimp only at hs ⊢
  split
  · exact .pure ⟨hs, rfl⟩
  · exact (hs.updateWhere _ _).bind fun _ _ _ hs => .pure ⟨hs, rfl⟩

theorem collectPackDebtsFromSubscription (h : Restated b b') {accountId eventId : String}
    {grantEpoch : Nat} :
    Agree Answers (collectPackDebtsFromSubscription tx b accountId grantEpoch eventId)
      (collectPackDebtsFromSubscription tx b' accountId grantEpoch eventId) := by
  unfold StripeEntitlements.collectPackDebtsFromSubscription
  refine (h.fetchAccount _ _).bind fun a a' _ ha => ?_
  obtain ⟨-, hbalance, -⟩ := Account.credits_eq.1 ha
  rw [h.outstandingPackDebts, hbalance]
  refine Agree.bind (R := Answers) (Agree.drain (R := Restated) ?_ h) ?_
  · exact fun _ _ _ _ s s' hs => hs.collectPackDebt.bind fun _ _ _ hs => hs.insertLedger
  rintro ⟨s, left⟩ ⟨s', _⟩ - ⟨hs, rfl⟩
  dsimp only at hs ⊢
  split
  · exact .pure ⟨hs, rfl⟩
  · exact (hs.setBalance _ _).bind fun _ _ _ hs => .pure ⟨hs, rfl⟩

theorem collectClawbackDebts (h : Restated b b') {accountId eventId : String}
    {grantEpoch : Nat} :
    Agree Answers (collectClawbackDebts b accountId grantEpoch eventId)
      (collectClawbackDebts b' accountId grantEpoch eventId) := by
  unfold StripeEntitlements.collectClawbackDebts
  refine (h.fetchAccount _ _).bind fun a a' _ ha => ?_
  obtain ⟨-, hbalance, -⟩ := Account.credits_eq.1 ha
  rw [h.outstandingClawbackDebts, hbalance]
  refine Agree.bind (R := Answers) (Agree.drain (R := Restated) ?_ h) ?_
  · exact fun _ _ _ _ s s' hs => (hs.update _ _).bind fun _ _ _ hs => hs.insertLedger
  rintro ⟨s, left⟩ ⟨s', _⟩ - ⟨hs, rfl⟩
  dsimp only at hs ⊢
  split
  · exact .pure ⟨hs, rfl⟩
  · exact (hs.setBalance _ _).bind fun _ _ _ hs => .pure ⟨hs, rfl⟩

/-- A return to two snapshots of one account that are both spendable, or both not. -/
theorem returnSubscriptionAtoms (h : Restated b b') (ha : account'.credits = account.credits)
    (hsame : subscriptionCreditsAreSpendable account' tx.wall =
      subscriptionCreditsAreSpendable account tx.wall)
    {amount : Nat} {eventId : String} {reason : LedgerReason} :
    Agree Answers (returnSubscriptionAtoms tx b account amount eventId reason)
      (returnSubscriptionAtoms tx b' account' amount eventId reason) := by
  obtain ⟨hid, -, hepoch⟩ := Account.credits_eq.1 ha
  unfold StripeEntitlements.returnSubscriptionAtoms
  rw [hsame, hid, hepoch]
  split
  · exact .pure ⟨h, rfl⟩
  refine (h.fetchAccount _ _).bind fun c c' _ hc => ?_
  rw [(Account.credits_eq.1 hc).2.1]
  refine .same _ fun balance _ => ?_
  refine (h.setBalance _ _).bind fun _ _ _ hs => ?_
  refine hs.insertLedger.bind fun _ _ _ hs => ?_
  refine hs.collectClawbackDebts.bind fun s s' _ hs => ?_
  refine hs.1.collectPackDebtsFromSubscription.bind fun s s' _ hs => ?_
  exact .pure ⟨hs.1, rfl⟩

end Restated

end StripeEntitlements
