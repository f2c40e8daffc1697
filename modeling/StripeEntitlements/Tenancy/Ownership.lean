import StripeEntitlements.Relational.Tenancy
import StripeEntitlements.Statements

/-!
# Ownership

Every business row but an unclaimed Invoice names the account that owns it. Rows refer to
other rows of the same account: a lot to its order, an allocation to its debit, a grant to
its Invoice, an upgrade funding to its Invoice and plan change.

## Main definitions

- `Tenanted` — the owner column of a table, and the rows of its account a row refers to
- `Ownership` — every stored row is anchored in rows of its own account
- `Acts` — a transaction on behalf of one account, or of nobody
- `Acts.updateWhere`, `Acts.insert` — the statements of such a transaction
-/

namespace StripeEntitlements

open Relational

/-! ## Owner columns -/

/-- The account a row belongs to. -/
class Owned (R : Type) where
  owner : R → Option String

instance : Owned Account := ⟨fun a => some a.id⟩
instance : Owned InvoiceState := ⟨InvoiceState.accountId⟩
instance : Owned LedgerRow := ⟨fun r => some r.accountId⟩
instance : Owned Debit := ⟨fun d => some d.accountId⟩
instance : Owned Allocation := ⟨fun a => some a.accountId⟩
instance : Owned PackOrder := ⟨fun o => some o.accountId⟩
instance : Owned FundingLot := ⟨fun l => some l.accountId⟩
instance : Owned PackDebt := ⟨fun d => some d.accountId⟩
instance : Owned PlanChange := ⟨fun c => some c.accountId⟩
instance : Owned FundingAllocation := ⟨fun f => some f.accountId⟩
instance : Owned ClawbackDebt := ⟨fun d => some d.key.accountId⟩
instance : Owned CheckoutClaim := ⟨fun c => some c.accountId⟩

/-- The row `k` of the table of `R` is there and belongs to the account. -/
def Billing.owns (b : Billing) (R : Type) {K : Type} [Relation R K] [DecidableEq K] [Stored R]
    [Owned R] (k : K) (accountId : String) : Prop :=
  (Stored.table b : Table R).Owns Owned.owner k accountId

/-- The rows of the table of `R` that belong to the account. -/
def Billing.rowsOf (b : Billing) (R : Type) {K : Type} [Relation R K] [Stored R] [Owned R]
    (accountId : String) : List R :=
  (Stored.table b : Table R).ownedBy Owned.owner accountId

/-- A row that was found belongs to its owner. -/
theorem Billing.owns_of_find {b : Billing} {R K : Type} [Relation R K] [DecidableEq K] [Stored R]
    [Owned R] {k : K} {r : R} {accountId : String}
    (h : (Stored.table b : Table R).find? k = some r) (howner : Owned.owner r = some accountId) :
    b.owns R k accountId :=
  ⟨r, h, howner⟩

/-- A stored account owns itself. -/
theorem Billing.owns_account {b : Billing} {a : Account} (h : a ∈ b.accounts.rows) :
    b.owns Account a.id a.id :=
  Table.Owns.of_mem h rfl

/-! ## Anchored rows -/

/-- The rows of its own account a row refers to. -/
class Anchored (R : Type) where
  anchored : Billing → R → Prop

/-- An annual plan is funded by an Invoice of the account. -/
instance : Anchored Account where
  anchored b a := (∀ i, a.fundingInvoiceId = some i → b.owns InvoiceState i a.id) ∧
    (a.planInterval = some .year → a.fundingInvoiceId.isSome)

/-- The owner of an Invoice is an account. -/
instance : Anchored InvoiceState where
  anchored b i := ∀ owner, i.accountId = some owner → b.owns Account owner owner

/-- A grant belongs to the owner of its Invoice. -/
instance : Anchored LedgerRow where
  anchored b r := ∀ i, r.stripeInvoiceId = some i → r.grantSlot.isSome →
    b.owns InvoiceState i r.accountId

instance : Anchored Debit := ⟨fun _ _ => True⟩
instance : Anchored Allocation := ⟨fun b a => b.owns Debit a.debitKey a.accountId⟩
instance : Anchored PackOrder := ⟨fun _ _ => True⟩
instance : Anchored FundingLot := ⟨fun b l => b.owns PackOrder l.orderId l.accountId⟩
instance : Anchored PackDebt := ⟨fun b d => b.owns PackOrder d.orderId d.accountId⟩
instance : Anchored PlanChange := ⟨fun _ _ => True⟩

/-- An upgrade funding belongs to the owner of its Invoice and of its plan change. -/
instance : Anchored FundingAllocation where
  anchored b f := b.owns InvoiceState f.stripeInvoiceId f.accountId ∧
    b.owns PlanChange f.planChangeId f.accountId

instance : Anchored ClawbackDebt := ⟨fun _ _ => True⟩

/-- Every stored row refers to rows of its own account. -/
structure Ownership (b : Billing) : Prop where
  accounts : ∀ a ∈ b.accounts.rows, Anchored.anchored b a
  invoices : ∀ i ∈ b.invoices.rows, Anchored.anchored b i
  ledger : ∀ r ∈ b.ledger.rows, Anchored.anchored b r
  allocations : ∀ a ∈ b.allocations.rows, Anchored.anchored b a
  lots : ∀ l ∈ b.lots.rows, Anchored.anchored b l
  packDebts : ∀ d ∈ b.packDebts.rows, Anchored.anchored b d
  fundings : ∀ f ∈ b.fundings.rows, Anchored.anchored b f

theorem Ownership.empty : Ownership .empty where
  accounts _ h := absurd h List.not_mem_nil
  invoices _ h := absurd h List.not_mem_nil
  ledger _ h := absurd h List.not_mem_nil
  allocations _ h := absurd h List.not_mem_nil
  lots _ h := absurd h List.not_mem_nil
  packDebts _ h := absurd h List.not_mem_nil
  fundings _ h := absurd h List.not_mem_nil

/-! ## Owned rows that stay -/

/-- The rows that others refer to stay with their owners. -/
structure Keeps (b b' : Billing) : Prop where
  accounts : ∀ k x, b.owns Account k x → b'.owns Account k x
  invoices : ∀ k x, b.owns InvoiceState k x → b'.owns InvoiceState k x
  debits : ∀ k x, b.owns Debit k x → b'.owns Debit k x
  orders : ∀ k x, b.owns PackOrder k x → b'.owns PackOrder k x
  planChanges : ∀ k x, b.owns PlanChange k x → b'.owns PlanChange k x

/-- A row stays anchored while the rows it refers to stay. -/
class LawfulAnchored (R : Type) [Anchored R] : Prop where
  mono : ∀ {b b' : Billing}, Keeps b b' → ∀ r : R, Anchored.anchored b r → Anchored.anchored b' r

instance : LawfulAnchored Account :=
  ⟨fun h _ ha => ⟨fun i hi => h.invoices _ _ (ha.1 i hi), ha.2⟩⟩
instance : LawfulAnchored InvoiceState := ⟨fun h _ hi owner ho => h.accounts _ _ (hi owner ho)⟩
instance : LawfulAnchored LedgerRow :=
  ⟨fun h _ hr i hi hslot => h.invoices _ _ (hr i hi hslot)⟩
instance : LawfulAnchored Allocation := ⟨fun h _ ha => h.debits _ _ ha⟩
instance : LawfulAnchored FundingLot := ⟨fun h _ hl => h.orders _ _ hl⟩
instance : LawfulAnchored PackDebt := ⟨fun h _ hd => h.orders _ _ hd⟩
instance : LawfulAnchored FundingAllocation :=
  ⟨fun h _ hf => ⟨h.invoices _ _ hf.1, h.planChanges _ _ hf.2⟩⟩

/-- Every row afterwards was there before, or is anchored. -/
structure Retains (b b' : Billing) : Prop where
  accounts : ∀ a ∈ b'.accounts.rows, a ∈ b.accounts.rows ∨ Anchored.anchored b' a := by
    exact fun _ h => .inl h
  invoices : ∀ i ∈ b'.invoices.rows, i ∈ b.invoices.rows ∨ Anchored.anchored b' i := by
    exact fun _ h => .inl h
  ledger : ∀ r ∈ b'.ledger.rows, r ∈ b.ledger.rows ∨ Anchored.anchored b' r := by
    exact fun _ h => .inl h
  allocations : ∀ a ∈ b'.allocations.rows, a ∈ b.allocations.rows ∨ Anchored.anchored b' a := by
    exact fun _ h => .inl h
  lots : ∀ l ∈ b'.lots.rows, l ∈ b.lots.rows ∨ Anchored.anchored b' l := by
    exact fun _ h => .inl h
  packDebts : ∀ d ∈ b'.packDebts.rows, d ∈ b.packDebts.rows ∨ Anchored.anchored b' d := by
    exact fun _ h => .inl h
  fundings : ∀ f ∈ b'.fundings.rows, f ∈ b.fundings.rows ∨ Anchored.anchored b' f := by
    exact fun _ h => .inl h

theorem Ownership.mono {b b' : Billing} (hb : Ownership b) (h : Keeps b b') (hr : Retains b b') :
    Ownership b' where
  accounts a ha := (hr.accounts a ha).elim (fun h' => LawfulAnchored.mono h a (hb.accounts a h')) id
  invoices i hi := (hr.invoices i hi).elim (fun h' => LawfulAnchored.mono h i (hb.invoices i h')) id
  ledger r hr' := (hr.ledger r hr').elim (fun h' => LawfulAnchored.mono h r (hb.ledger r h')) id
  allocations a ha :=
    (hr.allocations a ha).elim (fun h' => LawfulAnchored.mono h a (hb.allocations a h')) id
  lots l hl := (hr.lots l hl).elim (fun h' => LawfulAnchored.mono h l (hb.lots l h')) id
  packDebts d hd :=
    (hr.packDebts d hd).elim (fun h' => LawfulAnchored.mono h d (hb.packDebts d h')) id
  fundings f hf := (hr.fundings f hf).elim (fun h' => LawfulAnchored.mono h f (hb.fundings f h')) id

/-! ## Transactions on behalf of an account -/

/-- A transaction that acts for `who`: the rows of every other account stay as they are, rows
    keep their owners, and every row stays anchored. -/
structure Acts (who : Option String) (b b' : Billing) : Prop where
  accounts : Table.Confined Owned.owner who b.accounts b'.accounts
  invoices : Table.Confined Owned.owner who b.invoices b'.invoices
  ledger : Table.Confined Owned.owner who b.ledger b'.ledger
  debits : Table.Confined Owned.owner who b.debits b'.debits
  allocations : Table.Confined Owned.owner who b.allocations b'.allocations
  orders : Table.Confined Owned.owner who b.orders b'.orders
  lots : Table.Confined Owned.owner who b.lots b'.lots
  packDebts : Table.Confined Owned.owner who b.packDebts b'.packDebts
  planChanges : Table.Confined Owned.owner who b.planChanges b'.planChanges
  fundings : Table.Confined Owned.owner who b.fundings b'.fundings
  clawbackDebts : Table.Confined Owned.owner who b.clawbackDebts b'.clawbackDebts
  claims : ∀ x, who ≠ some x → b'.rowsOf CheckoutClaim x = b.rowsOf CheckoutClaim x
  ownership : Ownership b'

namespace Acts

variable {who : Option String} {b b' b'' : Billing}

theorem refl (hb : Ownership b) : Acts who b b where
  accounts := .refl _
  invoices := .refl _
  ledger := .refl _
  debits := .refl _
  allocations := .refl _
  orders := .refl _
  lots := .refl _
  packDebts := .refl _
  planChanges := .refl _
  fundings := .refl _
  clawbackDebts := .refl _
  claims _ _ := rfl
  ownership := hb

theorem trans (h : Acts who b b') (h' : Acts who b' b'') : Acts who b b'' where
  accounts := h.accounts.trans h'.accounts
  invoices := h.invoices.trans h'.invoices
  ledger := h.ledger.trans h'.ledger
  debits := h.debits.trans h'.debits
  allocations := h.allocations.trans h'.allocations
  orders := h.orders.trans h'.orders
  lots := h.lots.trans h'.lots
  packDebts := h.packDebts.trans h'.packDebts
  planChanges := h.planChanges.trans h'.planChanges
  fundings := h.fundings.trans h'.fundings
  clawbackDebts := h.clawbackDebts.trans h'.clawbackDebts
  claims x hx := (h'.claims x hx).trans (h.claims x hx)
  ownership := h'.ownership

end Acts

/-- The stored rows are anchored, and installing a confined table is a transaction if its new
    rows are. -/
class Acting (R : Type) {K : outParam Type} [Relation R K] [DecidableEq K] [Stored R] [Owned R]
    [Anchored R] : Prop where
  anchored : ∀ {b : Billing}, Ownership b → ∀ r ∈ (Stored.table b : Table R).rows,
    Anchored.anchored b r
  install : ∀ {who : Option String} {b : Billing} {t : Table R}, Ownership b →
    Table.Confined Owned.owner who (Stored.table b) t →
    (∀ r ∈ t.rows, r ∈ (Stored.table b : Table R).rows ∨ Anchored.anchored b r) →
    Acts who b (Stored.install b t)

section

variable {b : Billing}

theorem Keeps.refl (b : Billing) : Keeps b b where
  accounts _ _ h := h
  invoices _ _ h := h
  debits _ _ h := h
  orders _ _ h := h
  planChanges _ _ h := h

instance : Acting Account where
  anchored hb := hb.accounts
  install {who b t} hb h hrows := by
    have hkeeps : Keeps b { b with accounts := t } := { Keeps.refl b with accounts := h.keeps }
    exact { Acts.refl hb with
      accounts := h
      ownership := hb.mono hkeeps
        { accounts := fun a ha => (hrows a ha).imp_right (LawfulAnchored.mono hkeeps a) } }

instance : Acting InvoiceState where
  anchored hb := hb.invoices
  install {who b t} hb h hrows := by
    have hkeeps : Keeps b { b with invoices := t } := { Keeps.refl b with invoices := h.keeps }
    exact { Acts.refl hb with
      invoices := h
      ownership := hb.mono hkeeps
        { invoices := fun i hi => (hrows i hi).imp_right (LawfulAnchored.mono hkeeps i) } }

instance : Acting LedgerRow where
  anchored hb := hb.ledger
  install {who b t} hb h hrows := by
    have hkeeps : Keeps b { b with ledger := t } := { Keeps.refl b with }
    exact { Acts.refl hb with
      ledger := h
      ownership := hb.mono hkeeps
        { ledger := fun r hr => (hrows r hr).imp_right (LawfulAnchored.mono hkeeps r) } }

instance : Acting Debit where
  anchored _ _ _ := trivial
  install {who b t} hb h _ := by
    have hkeeps : Keeps b { b with debits := t } := { Keeps.refl b with debits := h.keeps }
    exact { Acts.refl hb with debits := h, ownership := hb.mono hkeeps {} }

instance : Acting Allocation where
  anchored hb := hb.allocations
  install {who b t} hb h hrows := by
    have hkeeps : Keeps b { b with allocations := t } := { Keeps.refl b with }
    exact { Acts.refl hb with
      allocations := h
      ownership := hb.mono hkeeps
        { allocations := fun a ha => (hrows a ha).imp_right (LawfulAnchored.mono hkeeps a) } }

instance : Acting PackOrder where
  anchored _ _ _ := trivial
  install {who b t} hb h _ := by
    have hkeeps : Keeps b { b with orders := t } := { Keeps.refl b with orders := h.keeps }
    exact { Acts.refl hb with orders := h, ownership := hb.mono hkeeps {} }

instance : Acting FundingLot where
  anchored hb := hb.lots
  install {who b t} hb h hrows := by
    have hkeeps : Keeps b { b with lots := t } := { Keeps.refl b with }
    exact { Acts.refl hb with
      lots := h
      ownership := hb.mono hkeeps
        { lots := fun l hl => (hrows l hl).imp_right (LawfulAnchored.mono hkeeps l) } }

instance : Acting PackDebt where
  anchored hb := hb.packDebts
  install {who b t} hb h hrows := by
    have hkeeps : Keeps b { b with packDebts := t } := { Keeps.refl b with }
    exact { Acts.refl hb with
      packDebts := h
      ownership := hb.mono hkeeps
        { packDebts := fun d hd => (hrows d hd).imp_right (LawfulAnchored.mono hkeeps d) } }

instance : Acting PlanChange where
  anchored _ _ _ := trivial
  install {who b t} hb h _ := by
    have hkeeps : Keeps b { b with planChanges := t } :=
      { Keeps.refl b with planChanges := h.keeps }
    exact { Acts.refl hb with planChanges := h, ownership := hb.mono hkeeps {} }

instance : Acting FundingAllocation where
  anchored hb := hb.fundings
  install {who b t} hb h hrows := by
    have hkeeps : Keeps b { b with fundings := t } := { Keeps.refl b with }
    exact { Acts.refl hb with
      fundings := h
      ownership := hb.mono hkeeps
        { fundings := fun f hf => (hrows f hf).imp_right (LawfulAnchored.mono hkeeps f) } }

instance : Acting ClawbackDebt where
  anchored _ _ _ := trivial
  install {who b t} hb h _ := by
    have hkeeps : Keeps b { b with clawbackDebts := t } := { Keeps.refl b with }
    exact { Acts.refl hb with clawbackDebts := h, ownership := hb.mono hkeeps {} }

end

/-! ## Statements -/

namespace Acts

section

variable {R K : Type} [Relation R K] [DecidableEq K] [Stored R] [Owned R] [Anchored R] [Acting R]
  {who : Option String} {A : String} {b : Billing} {t : Table R}

/-- An update that may adopt rows without an owner. -/
theorem adopt {p : R → Bool} {f : R → R} (hb : Ownership b)
    (h : (Stored.table b : Table R).updateWhere? p f = some t)
    (hkey : ∀ r : R, Relation.key (f r) = Relation.key r)
    (hwho : ∀ r ∈ (Stored.table b : Table R).rows, p r = true →
      Owned.owner r = who ∧ Owned.owner (f r) = who ∨
      Owned.owner r = none ∧ (Owned.owner (f r) = none ∨ Owned.owner (f r) = who))
    (hanchor : ∀ r ∈ (Stored.table b : Table R).rows, p r = true → Anchored.anchored b r →
      Anchored.anchored b (f r)) : Acts who b (Stored.install b t) := by
  refine Acting.install hb (.adopt h hkey hwho) fun r' hr' => ?_
  rw [Table.updateWhere?_eq_some.1 h] at hr'
  obtain ⟨r, hr, rfl⟩ := List.mem_map.1 hr'
  split
  case isTrue hp => exact .inr (hanchor r hr hp (Acting.anchored hb r hr))
  case isFalse => exact .inl hr

/-- `update … set f where p` on rows of the account. -/
theorem updateWhere {p : R → Bool} {f : R → R} (hb : Ownership b)
    (h : (Stored.table b : Table R).updateWhere? p f = some t)
    (hkey : ∀ r : R, Relation.key (f r) = Relation.key r)
    (howner : ∀ r : R, Owned.owner (f r) = Owned.owner r)
    (hwho : ∀ r ∈ (Stored.table b : Table R).rows, p r = true → Owned.owner r = who)
    (hanchor : ∀ r : R, Anchored.anchored b r → Anchored.anchored b (f r)) :
    Acts who b (Stored.install b t) :=
  adopt hb h hkey (fun r hr hp => .inl ⟨hwho r hr hp, (howner r).trans (hwho r hr hp)⟩)
    fun r _ _ hr => hanchor r hr

/-- `update … set f where key = k` on a row of the account. -/
theorem update {k : K} {f : R → R} (hb : Ownership b)
    (h : (Stored.table b : Table R).update? k f = some t)
    (hkey : ∀ r : R, Relation.key (f r) = Relation.key r)
    (howner : ∀ r : R, Owned.owner (f r) = Owned.owner r) (hown : b.owns R k A)
    (hanchor : ∀ r : R, Anchored.anchored b r → Anchored.anchored b (f r)) :
    Acts (some A) b (Stored.install b t) :=
  updateWhere hb h hkey howner
    (fun _ hr hk => hown.owner_eq hr (of_decide_eq_true hk)) hanchor

/-- A statement `update … set f where key = k` that succeeded on a row of the account. -/
theorem set {k : K} {f : R → R} {b' : Billing} (hb : Ownership b) (h : b.update k f = .ok b')
    (hkey : ∀ r : R, Relation.key (f r) = Relation.key r)
    (howner : ∀ r : R, Owned.owner (f r) = Owned.owner r) (hown : b.owns R k A)
    (hanchor : ∀ r : R, Anchored.anchored b r → Anchored.anchored b (f r)) :
    Acts (some A) b b' := by
  obtain ⟨t, ht, rfl⟩ := Billing.update_eq_ok.1 h
  exact update hb ht hkey howner hown hanchor

/-- `insert into …` a row of the account. -/
theorem insert {r : R} (hb : Ownership b) (h : (Stored.table b : Table R).insert? r = some t)
    (hwho : Owned.owner r = none ∨ Owned.owner r = who) (hanchor : Anchored.anchored b r) :
    Acts who b (Stored.install b t) := by
  refine Acting.install hb (.insert h hwho) fun r' hr' => ?_
  rw [Table.insert?_eq_some.1 h] at hr'
  rcases List.mem_append.1 hr' with hr' | hr'
  · exact .inl hr'
  · exact .inr (List.mem_singleton.1 hr' ▸ hanchor)

end

section

variable {who : Option String} {accountId : String} {b b' : Billing}

/-- An update of the account row that keeps its funding anchored. -/
theorem updateAccount {f : Account → Account} (hb : Ownership b)
    (h : b.update accountId f = .ok b') (hid : ∀ a, (f a).id = a.id)
    (hanchor : ∀ a ∈ b.accounts.rows, a.id = accountId → Anchored.anchored b a →
      Anchored.anchored b (f a)) : Acts (some accountId) b b' := by
  rw [Billing.update_eq_ok] at h
  obtain ⟨accounts, haccounts, rfl⟩ := h
  have hself : ∀ a : Account, decide (Relation.key a = accountId) = true →
      Owned.owner a = some accountId := fun a ha => congrArg some (of_decide_eq_true ha)
  refine adopt hb haccounts hid (fun a _ ha => .inl ⟨hself a ha, ?_⟩)
    fun a ha hk => hanchor a ha (of_decide_eq_true hk)
  exact (congrArg some (hid a)).trans (hself a ha)

/-- An update of the account row that leaves its plan interval and its funding Invoice. -/
theorem setAccount {f : Account → Account} (hb : Ownership b)
    (h : b.update accountId f = .ok b')
    (hf : ∀ a, ((f a).id, (f a).planInterval, (f a).fundingInvoiceId) =
      (a.id, a.planInterval, a.fundingInvoiceId)) : Acts (some accountId) b b' := by
  simp only [Prod.mk.injEq] at hf
  refine updateAccount hb h (fun a => (hf a).1) fun a _ _ ha => ?_
  obtain ⟨hid, hinterval, hfunding⟩ := hf a
  refine ⟨fun i hi => ?_, fun hyear => ?_⟩
  · rw [hid]
    exact ha.1 i (hfunding.symm.trans hi)
  · rw [hfunding]
    exact ha.2 (hinterval.symm.trans hyear)

/-- A ledger row of the account; one that funds a slot belongs to the owner of its Invoice. -/
theorem insertLedger {delta : Int} {balance epoch units : Nat} {reason : LedgerReason}
    {eventId : String} {invoiceId : Option String} {slot : Option Nat} (hb : Ownership b)
    (h : b.insertLedger accountId delta balance reason epoch eventId invoiceId slot units = .ok b')
    (hanchor : ∀ i, invoiceId = some i → slot.isSome → b.owns InvoiceState i accountId) :
    Acts (some accountId) b b' := by
  rw [Billing.insertLedger, Billing.insert_eq_ok] at h
  obtain ⟨ledger, hledger, rfl⟩ := h
  exact insert hb hledger (.inr rfl) hanchor

/-- A ledger row of the account that funds no slot. -/
theorem insertEntry {delta : Int} {balance epoch : Nat} {reason : LedgerReason}
    {eventId : String} {invoiceId : Option String} (hb : Ownership b)
    (h : b.insertLedger accountId delta balance reason epoch eventId invoiceId none 0 = .ok b') :
    Acts (some accountId) b b' :=
  insertLedger hb h fun _ _ hslot => by simp at hslot

/-- An allocation of a debit of the account. -/
theorem insertAllocation {debitKey : String} {source : FundingSource} {amount : Nat}
    (hb : Ownership b) (h : b.insertAllocation debitKey accountId source amount = .ok b')
    (hdebit : b.owns Debit debitKey accountId) : Acts (some accountId) b b' := by
  obtain ⟨-, allocations, hallocations, rfl⟩ := Billing.insertAllocation_eq_ok.1 h
  exact insert hb hallocations (.inr rfl) hdebit

/-- Deleting Checkout claims of the account. -/
theorem deleteClaims {p : CheckoutClaim → Bool} (hb : Ownership b)
    (hwho : ∀ c ∈ b.claims.rows, p c = true → some c.accountId = who) :
    Acts who b { b with claims := b.claims.deleteWhere p } :=
  { refl hb with
    claims := fun x hx => by
      show (b.claims.deleteWhere p).ownedBy Owned.owner x = b.claims.ownedBy Owned.owner x
      exact Table.ownedBy_deleteWhere hwho hx
    ownership := hb.mono { Keeps.refl b with } {} }

end

end Acts

end StripeEntitlements
