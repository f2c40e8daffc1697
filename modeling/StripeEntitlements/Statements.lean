import StripeEntitlements.Schema

/-!
# SQL Statements

Single statements of the transactions, as functions on `Billing`. Each one names the
table it writes by the type of the row it carries, so the code modules read like the
`execute` calls of the source.

## Main results

- `bind_eq_ok` — what it means that a transaction did not raise
- `Billing.update_eq_ok`, `Billing.insert_eq_ok` — what one statement changed
- `Billing.update_of_fixed` — a statement that writes what is already there
-/

namespace StripeEntitlements

open Relational

/-! ## Transactions -/

section

variable {ε α β : Type}

/-- A sequence of two computations ends normally when both do. -/
theorem bind_eq_ok {x : Except ε α} {f : α → Except ε β} {b : β} :
    (x >>= f) = .ok b ↔ ∃ a, x = .ok a ∧ f a = .ok b := by
  cases x with
  | error e =>
    constructor
    · intro h
      cases h
    · rintro ⟨a, h, -⟩
      cases h
  | ok a =>
    constructor
    · intro h
      exact ⟨a, rfl, h⟩
    · rintro ⟨a', h, hf⟩
      cases h
      exact hf

theorem pure_eq_ok {a b : α} : (pure a : Except ε α) = .ok b ↔ a = b :=
  ⟨fun h => Except.ok.inj h, fun h => congrArg Except.ok h⟩

theorem map_eq_ok {x : Except ε α} {f : α → β} {b : β} :
    x.map f = .ok b ↔ ∃ a, x = .ok a ∧ f a = b := by
  cases x <;> simp [Except.map]

/-- Stop with `e` unless `p` holds. -/
def require (p : Bool) (e : ε) : Except ε Unit := if p then .ok () else .error e

@[simp] theorem require_eq_ok {p : Bool} {e : ε} {u : Unit} :
    require p e = .ok u ↔ p = true := by
  cases p <;> simp [require]

theorem forM_eq_ok {ε α : Type} {f : α → Except ε Unit} {xs : List α} :
    xs.forM f = .ok () ↔ ∀ x ∈ xs, f x = .ok () := by
  induction xs with
  | nil => simp [pure, Except.pure]
  | cons x xs ih =>
    change (f x >>= fun _ => xs.forM f) = .ok () ↔ _
    rw [bind_eq_ok]
    constructor
    · rintro ⟨_, hx, hxs⟩
      exact List.forall_mem_cons.2 ⟨hx, ih.1 hxs⟩
    · intro h
      exact ⟨(), h x List.mem_cons_self, ih.2 fun y hy => h y (List.mem_cons_of_mem _ hy)⟩

/-- The row a `fetchrow` returned, or stop with `e`. -/
def fetch (row : Option α) (e : ε) : Except ε α :=
  match row with
  | some a => .ok a
  | none => .error e

@[simp] theorem fetch_eq_ok {row : Option α} {e : ε} {a : α} :
    fetch row e = .ok a ↔ row = some a := by
  cases row <;> simp [fetch]

end

/-! ## Tables of the database -/

/-- Where the rows of type `R` live. -/
class Stored (R : Type) {K : outParam Type} [Relation R K] where
  table : Billing → Table R
  install : Billing → Table R → Billing

instance : Stored Account := ⟨Billing.accounts, fun b t => { b with accounts := t }⟩
instance : Stored InvoiceState := ⟨Billing.invoices, fun b t => { b with invoices := t }⟩
instance : Stored LedgerRow := ⟨Billing.ledger, fun b t => { b with ledger := t }⟩
instance : Stored Debit := ⟨Billing.debits, fun b t => { b with debits := t }⟩
instance : Stored Allocation := ⟨Billing.allocations, fun b t => { b with allocations := t }⟩
instance : Stored PackOrder := ⟨Billing.orders, fun b t => { b with orders := t }⟩
instance : Stored FundingLot := ⟨Billing.lots, fun b t => { b with lots := t }⟩
instance : Stored PackDebt := ⟨Billing.packDebts, fun b t => { b with packDebts := t }⟩
instance : Stored PlanChange := ⟨Billing.planChanges, fun b t => { b with planChanges := t }⟩
instance : Stored FundingAllocation := ⟨Billing.fundings, fun b t => { b with fundings := t }⟩
instance : Stored ClawbackDebt :=
  ⟨Billing.clawbackDebts, fun b t => { b with clawbackDebts := t }⟩
instance : Stored CheckoutClaim := ⟨Billing.claims, fun b t => { b with claims := t }⟩

namespace Billing

variable {R K : Type} [Relation R K] [DecidableEq K] [Stored R]

/-- `update … set f where key = k`. -/
def update (b : Billing) (k : K) (f : R → R) : Transaction Billing := do
  let t ← statement ((Stored.table b).update? k f)
  pure (Stored.install b t)

/-- `update … set f where p`. -/
def updateWhere (b : Billing) (p : R → Bool) (f : R → R) : Transaction Billing := do
  let t ← statement ((Stored.table b).updateWhere? p f)
  pure (Stored.install b t)

/-- `insert into … values (r)`. -/
def insert (b : Billing) (r : R) : Transaction Billing := do
  let t ← statement ((Stored.table b).insert? r)
  pure (Stored.install b t)

theorem update_eq_ok {b b' : Billing} {k : K} {f : R → R} :
    b.update k f = .ok b' ↔
      ∃ t, (Stored.table b).update? k f = some t ∧ Stored.install b t = b' := by
  simp only [update, bind_eq_ok, statement_eq_ok, pure_eq_ok]

theorem updateWhere_eq_ok {b b' : Billing} {p : R → Bool} {f : R → R} :
    b.updateWhere p f = .ok b' ↔
      ∃ t, (Stored.table b).updateWhere? p f = some t ∧ Stored.install b t = b' := by
  simp only [updateWhere, bind_eq_ok, statement_eq_ok, pure_eq_ok]

theorem insert_eq_ok {b b' : Billing} {r : R} :
    b.insert r = .ok b' ↔
      ∃ t, (Stored.table b).insert? r = some t ∧ Stored.install b t = b' := by
  simp only [insert, bind_eq_ok, statement_eq_ok, pure_eq_ok]

/-- Writing back the rows that were read changes nothing. -/
class LawfulStored (R : Type) {K : outParam Type} [Relation R K] [Stored R] : Prop where
  install_table : ∀ b : Billing, Stored.install b (Stored.table b : Table R) = b

instance : LawfulStored Account := ⟨fun _ => rfl⟩
instance : LawfulStored InvoiceState := ⟨fun _ => rfl⟩
instance : LawfulStored PackOrder := ⟨fun _ => rfl⟩
instance : LawfulStored PlanChange := ⟨fun _ => rfl⟩
instance : LawfulStored FundingAllocation := ⟨fun _ => rfl⟩
instance : LawfulStored ClawbackDebt := ⟨fun _ => rfl⟩

/-- A statement that writes what is already there changes nothing. -/
theorem updateWhere_of_fixed [LawfulStored R] {b : Billing} {p : R → Bool} {f : R → R}
    (h : ∀ r ∈ (Stored.table b : Table R).rows, p r = true → f r = r) :
    b.updateWhere p f = .ok b := by
  rw [updateWhere_eq_ok]
  exact ⟨_, Table.updateWhere?_of_fixed h, LawfulStored.install_table b⟩

theorem update_of_fixed [LawfulStored R] {b : Billing} {k : K} {f : R → R}
    (h : ∀ r, (Stored.table b : Table R).find? k = some r → f r = r) : b.update k f = .ok b := by
  rw [update_eq_ok]
  refine ⟨_, Table.update?_of_fixed fun r hr hk => h r ?_, LawfulStored.install_table b⟩
  exact Table.find?_eq_some_iff.2 ⟨hr, hk⟩

end Billing

/-- The next value of a `bigserial` column. -/
def nextSerial {R : Type} (serial : R → Nat) (rows : List R) : Nat :=
  (rows.map serial).foldr max 0 + 1

theorem lt_nextSerial {R : Type} {serial : R → Nat} {rows : List R} {r : R} (hr : r ∈ rows) :
    serial r < nextSerial serial rows := by
  induction rows with
  | nil => cases hr
  | cons x xs ih =>
    simp only [nextSerial, List.map_cons, List.foldr_cons]
    rcases List.mem_cons.1 hr with rfl | hr
    · omega
    · have := ih hr
      simp only [nextSerial] at this
      omega

namespace Billing

/-- `insert into credit_ledger(…)`. -/
def insertLedger (b : Billing) (accountId : String) (delta : Int) (balanceAfter : Nat)
    (reason : LedgerReason) (grantEpoch : Nat) (stripeEventId : String)
    (stripeInvoiceId : Option String) (grantSlot : Option Nat) (entitlementUnits : Nat) :
    Transaction Billing :=
  b.insert {
    id := nextSerial LedgerRow.id b.ledger.rows
    accountId, delta, balanceAfter, entitlementUnits, reason, grantEpoch
    stripeEventId, stripeInvoiceId, grantSlot : LedgerRow }

/-- The foreign key `credit_debit_allocations_lot_account_fk`. -/
def lotReferenced (b : Billing) (accountId : String) : FundingSource → Bool
  | .subscription _ => true
  | .creditPack lotId => (b.lots.find? lotId).any (·.accountId = accountId)

/-- A new row of `credit_debit_allocations`. -/
def newAllocation (b : Billing) (debitKey accountId : String) (source : FundingSource)
    (amount : Nat) : Allocation where
  id := nextSerial Allocation.id b.allocations.rows
  debitKey := debitKey
  accountId := accountId
  source := source
  amount := amount

/-- `insert into credit_debit_allocations(…)`. -/
def insertAllocation (b : Billing) (debitKey accountId : String) (source : FundingSource)
    (amount : Nat) : Transaction Billing := do
  require (b.lotReferenced accountId source) .constraint
  b.insert (b.newAllocation debitKey accountId source amount)

theorem insertAllocation_eq_ok {b b' : Billing} {debitKey accountId : String}
    {source : FundingSource} {amount : Nat} :
    b.insertAllocation debitKey accountId source amount = .ok b' ↔
      b.lotReferenced accountId source = true ∧
      ∃ t, b.allocations.insert? (b.newAllocation debitKey accountId source amount) = some t ∧
        { b with allocations := t } = b' := by
  simp only [insertAllocation, bind_eq_ok, require_eq_ok, insert_eq_ok, exists_and_left,
    exists_const, Stored.table, Stored.install]

end Billing

end StripeEntitlements
