import StripeEntitlements.Reference
import StripeEntitlements.Tenancy.Handlers
import StripeEntitlements.Tenancy.Invoices

/-!
# Tenant Isolation

Every Event is attributed to at most one account, and every credit operation locks one. No row
of another account changes, an Invoice keeps its first owner, and so the facts of an Invoice
are out of reach for the Events of another account.

## Main results

- `attributed` — the account an Event is attributed to
- `Operation.acts` — an operation acts for the account it resolved to
- `KeptReachable.ownership` — in every reachable state rows refer to rows of their own account
- `tenants_isolated` — tenant isolation and Invoice ownership
-/

namespace StripeEntitlements

open Relational

/-! ## Attribution -/

/-- The account an Event is attributed to: by the metadata of a pack, by `_lock_account`, by the
    customer or Invoice of a Charge, or by the claim of an expired Session. -/
def attributed (cfg : Config) (b : Billing) (e : Event) : Option String :=
  let locked (metadata : Json) : Option String :=
    (lockAccount cfg.unicode b e.object metadata).map Account.id
  match e.kind with
  | .paymentIntentSucceeded => (packOrderMetadata cfg e.object).map PackIdentity.accountId
  | .invoicePaid | .invoicePaymentFailed => locked (subscriptionMetadata e.object)
  | .customerSubscriptionUpdated | .customerSubscriptionDeleted => locked (e.object.get "metadata")
  | .chargeRefunded | .chargeDisputeCreated =>
      ((packChargeIdentity cfg e).map PackIdentity.accountId).or
        ((clawbackGuards cfg e).toOption.bind fun f => (clawbackAccount b f).map Account.id)
  | .checkoutSessionCompleted =>
      (packSessionAccount cfg b e).or (locked (e.object.get "metadata"))
  | .checkoutSessionExpired =>
      (packSessionAccount cfg b e).or ((expiredClaim b e).map CheckoutClaim.accountId)
  | .unsupported => none

/-- **Attribution**: a handler acts for the account its Event is attributed to. The attribution
    follows the lookups of the handlers themselves: by customer, by Subscription, by the order of a
    pack, or by the owner of the Invoice. -/
theorem dispatch_acts {cfg : Config} {tx : Tx} {b : Billing} {e : Event} {effect : Effect}
    (hb : Ownership b) (h : dispatch cfg tx b e = .ok effect) :
    Acts (attributed cfg b e) b effect.billing := by
  -- A Charge is attributed to its pack, and to the account of its Invoice when it has none.
  have hcharge : (packClawback cfg tx b e).getD (clawback cfg tx b e) = .ok effect →
      Acts (((packChargeIdentity cfg e).map PackIdentity.accountId).or
        ((clawbackGuards cfg e).toOption.bind fun f => (clawbackAccount b f).map Account.id)) b
        effect.billing := by
    intro h
    cases hpack : packClawback cfg tx b e with
    | some run =>
      rw [hpack, Option.getD_some] at h
      obtain ⟨identity, hidentity, hacts⟩ := packClawback_acts hb hpack h
      rw [hidentity]
      exact hacts
    | none =>
      rw [hpack, Option.getD_none] at h
      rw [packChargeIdentity_none hpack]
      exact clawback_acts hb h
  unfold dispatch at h
  -- One handler for each kind of Event; each acts for the account it resolves.
  split at h
  all_goals unfold attributed
  case h_1 hkind => simpa only [hkind] using paymentSucceeded_acts hb h
  case h_2 hkind => simpa only [hkind] using invoicePaid_acts hb h
  case h_3 hkind => simpa only [hkind] using paymentFailed_acts hb h
  case h_4 hkind => simpa only [hkind] using subscriptionUpdated_acts hb h
  case h_5 hkind => simpa only [hkind] using subscriptionDeleted_acts hb h
  case h_6 hkind => simpa only [hkind] using hcharge h
  case h_7 hkind => simpa only [hkind] using hcharge h
  -- A Checkout Session is one of a pack first, and one of a subscription otherwise.
  case h_8 hkind =>
    simp only [hkind]
    cases hpack : packCheckoutEvent cfg b e with
    | some run =>
      rw [hpack, Option.getD_some] at h
      obtain ⟨accountId, haccount, hacts⟩ := packCheckoutEvent_acts hb hpack h
      rw [haccount]
      exact hacts
    | none =>
      rw [hpack, Option.getD_none] at h
      rw [packSessionAccount_none hpack]
      exact checkoutCompleted_acts hb h
  case h_9 hkind =>
    simp only [hkind]
    cases hpack : packCheckoutEvent cfg b e with
    | some run =>
      rw [hpack, Option.getD_some] at h
      obtain ⟨accountId, haccount, hacts⟩ := packCheckoutEvent_acts hb hpack h
      rw [haccount]
      exact hacts
    | none =>
      rw [hpack, Option.getD_none] at h
      rw [packSessionAccount_none hpack]
      exact checkoutExpired_acts hb h
  -- Events of other kinds change nothing.
  case h_10 hkind =>
    rw [pure_eq_ok] at h
    exact h ▸ .refl hb

/-! ## Operations -/

/-- An Event or credit operation, with the account it resolved to. -/
inductive Operation (cfg : Config) : Option String → Db → Db → Prop
  | event {tx : Tx} {db db' : Db} {e : Event} {result : ProcessResult}
      (h : process cfg tx db e = .ok (db', result)) :
      Operation cfg (attributed cfg db.billing e) db db'
  | charge {tx : Tx} {db : Db} {b : Billing} {accountId idempotencyKey : String} {amount : Nat}
      {result : CreditResult}
      (h : StripeEntitlements.charge cfg.unicode.isPrintable tx db.billing accountId amount
        idempotencyKey = .ok (b, result)) :
      Operation cfg (uuidParameter accountId) db { db with billing := b }
  | refund {tx : Tx} {db : Db} {b : Billing} {idempotencyKey accountId : String}
      {expectedAccountId : Option String} {result : CreditResult}
      (hresolved : refundAccountId db.billing idempotencyKey expectedAccountId = .ok accountId)
      (h : StripeEntitlements.refund cfg.unicode.isPrintable tx db.billing idempotencyKey
        expectedAccountId = .ok (b, result)) :
      Operation cfg (some accountId) db { db with billing := b }
  | annual {tx : Tx} {db : Db} {accountId : String} {now : Option Int}
      {snapshot : SubscriptionSnapshot} {effect : Effect} {incidents : Table Incident}
      (h : grantDue cfg tx db.billing accountId now snapshot = .ok effect)
      (hincidents : effect.incidents.foldlM (applyIncident tx none) db.incidents =
        .ok incidents) :
      Operation cfg (uuidParameter accountId) db
        { db with billing := effect.billing, incidents }

section

variable {cfg : Config} {who : Option String} {db db' db'' : Db}

theorem Operation.commits (h : Operation cfg who db db') : Commits cfg db db' := by
  cases h with
  | event h => exact .event h
  | charge h => exact .charge h
  | refund _ h => exact .refund h
  | annual h hincidents => exact .annual h hincidents

/-- A transaction is an operation, or it belongs to the rest of the application. -/
theorem Commits.operation (h : Commits cfg db db') :
    (∃ who, Operation cfg who db db') ∨ Outside db.billing db'.billing := by
  cases h with
  | event h => exact .inl ⟨_, .event h⟩
  | charge h => exact .inl ⟨_, .charge h⟩
  | refund h =>
    obtain ⟨debit, -, hresolved⟩ := refund_resolved h
    exact .inl ⟨_, .refund hresolved h⟩
  | annual h hincidents => exact .inl ⟨_, .annual h hincidents⟩
  | outside h => exact .inr h

/-- **An operation acts for the account it resolved to.** -/
theorem Operation.acts (hb : Ownership db.billing) (h : Operation cfg who db db') :
    Acts who db.billing db'.billing := by
  cases h with
  | event h =>
    rcases process_billing h with heq | ⟨effect, heffect, heq⟩
    · rw [heq]
      exact .refl hb
    · rw [heq]
      exact dispatch_acts hb heffect
  | charge h => exact charge_acts hb h
  | refund hresolved h => exact refund_acts hb hresolved h
  | annual h _ => exact grantDue_acts hb h

/-! ## Runs -/

/-- A transaction that neither deletes a plan change nor hands it to another account: no
    statement on `billing_plan_changes` does. -/
structure KeptCommits (cfg : Config) (db db' : Db) : Prop where
  commits : Commits cfg db db'
  planChanges : ∀ k owner, db.billing.owns PlanChange k owner → db'.billing.owns PlanChange k owner

/-- A run of such transactions. -/
abbrev KeptRuns (cfg : Config) : Db → Db → Prop := Relation.ReflTransGen (KeptCommits cfg)

/-- The states of the runs that start at the migrated database. -/
abbrev KeptReachable (cfg : Config) : Db → Prop := KeptRuns cfg Db.empty

/-- The rest of the application opens accounts and reserves orders, and leaves the owners of all
    others. -/
theorem Outside.keeps {b b' : Billing} (h : Outside b b')
    (hplans : ∀ k owner, b.owns PlanChange k owner → b'.owns PlanChange k owner) : Keeps b b' where
  -- An account keeps its id, whatever the rest of the application does to it.
  accounts k owner := by
    rintro ⟨a, ha, howner⟩
    obtain ⟨a', ha', hstatic⟩ := h.after (Table.find?_mem ha)
    have hid : a'.id = a.id := (congrArg Account.id hstatic :)
    have hkey : a.id = k := Table.find?_key ha
    have hself : a.id = owner := Option.some.inj howner
    exact ⟨a', Table.find?_eq_some_iff.2 ⟨ha', hid.trans hkey⟩,
      congrArg some (hid.trans hself)⟩
  invoices k owner := by
    unfold Billing.owns
    simp only [Stored.table, h.invoices]
    exact fun h => h
  debits k owner := by
    unfold Billing.owns
    simp only [Stored.table, h.debits]
    exact fun h => h
  -- An order may be claimed or released meanwhile, which leaves its id and its account.
  orders k owner := by
    rintro ⟨o, ho, howner⟩
    obtain ⟨reserved, hrows, -⟩ := h.orders
    have hmem : o.unclaimed ∈ b'.orders.rows.map PackOrder.unclaimed := by
      rw [hrows]
      exact List.mem_append_left _ (List.mem_map_of_mem (Table.find?_mem ho))
    obtain ⟨o', ho', hstatic⟩ := List.mem_map.1 hmem
    have hid : o'.id = o.id := (congrArg PackOrder.id hstatic :)
    have haccount : o'.accountId = o.accountId := (congrArg PackOrder.accountId hstatic :)
    have hkey : o.id = k := Table.find?_key ho
    exact ⟨o', Table.find?_eq_some_iff.2 ⟨ho', hid.trans hkey⟩,
      (congrArg some haccount).trans howner⟩
  planChanges := hplans

theorem Ownership.outside {b b' : Billing} (hb : Ownership b) (h : Outside b b')
    (hplans : ∀ k owner, b.owns PlanChange k owner → b'.owns PlanChange k owner) :
    Ownership b' := by
  have hkeeps := h.keeps hplans
  refine hb.mono hkeeps {
    accounts := fun a ha => .inr ?_
    invoices := fun i hi => .inl (h.invoices ▸ hi)
    ledger := fun r hr => .inl (h.ledger ▸ hr)
    allocations := fun x hx => .inl (h.allocations ▸ hx)
    lots := fun l hl => .inl (h.lots ▸ hl)
    packDebts := fun d hd => .inl (h.packDebts ▸ hd)
    fundings := fun f hf => .inl (h.fundings ▸ hf) }
  -- The account was there before, or has just been opened without a plan and a funding.
  rcases h.before ha with ⟨a₀, ha₀, hstatic⟩ | hopened
  · -- the stamp of the reconciler is not read by the anchor
    have hid : a₀.id = a.id := (congrArg Account.id hstatic :)
    have hinterval : a₀.planInterval = a.planInterval :=
      (congrArg Account.planInterval hstatic :)
    have hfunding : a₀.fundingInvoiceId = a.fundingInvoiceId :=
      (congrArg Account.fundingInvoiceId hstatic :)
    obtain ⟨howned, hsome⟩ := LawfulAnchored.mono hkeeps a₀ (hb.accounts a₀ ha₀)
    rw [hfunding, hid] at howned
    rw [hinterval, hfunding] at hsome
    exact ⟨howned, hsome⟩
  · have hfunding : a.fundingInvoiceId = none := (congrArg Account.fundingInvoiceId hopened :)
    have hinterval : a.planInterval = none := (congrArg Account.planInterval hopened :)
    refine ⟨fun i hi => ?_, fun hyear => ?_⟩
    · rw [hfunding] at hi
      cases hi
    · rw [hinterval] at hyear
      cases hyear

theorem KeptCommits.ownership (h : KeptCommits cfg db db') (hb : Ownership db.billing) :
    Ownership db'.billing := by
  rcases h.commits.operation with ⟨who, hoperation⟩ | houtside
  · exact (hoperation.acts hb).ownership
  · exact hb.outside houtside h.planChanges

theorem KeptRuns.ownership (h : KeptRuns cfg db db') (hb : Ownership db.billing) :
    Ownership db'.billing := by
  induction h with
  | refl => exact hb
  | tail _ hcommit ih => exact hcommit.ownership ih

/-- **Ownership**: in every reachable state rows refer to rows of their own account. -/
theorem KeptReachable.ownership (h : KeptReachable cfg db) : Ownership db.billing :=
  KeptRuns.ownership h .empty

/-- An operation keeps the plan changes, so it continues such a run. -/
theorem KeptReachable.operation (h : KeptReachable cfg db) (ho : Operation cfg who db db') :
    KeptReachable cfg db' :=
  h.tail ⟨ho.commits, (ho.acts h.ownership).planChanges.keeps⟩

/-- An Invoice keeps its owner for the rest of the run. -/
theorem KeptRuns.invoice_owner (h : KeptRuns cfg db db') (hb : Ownership db.billing)
    {invoiceId owner : String} (howns : db.billing.owns InvoiceState invoiceId owner) :
    db'.billing.owns InvoiceState invoiceId owner := by
  induction h with
  | refl => exact howns
  | tail hrun hcommit ih =>
    rcases hcommit.commits.operation with ⟨who, hoperation⟩ | houtside
    · exact (hoperation.acts (KeptRuns.ownership hrun hb)).invoices.keeps _ _ ih
    · exact (houtside.keeps hcommit.planChanges).invoices _ _ ih

end

/-! ## Isolation -/

/-- All rows of one account. -/
structure Tenant where
  accounts : List Account
  invoices : List InvoiceState
  ledger : List LedgerRow
  debits : List Debit
  allocations : List Allocation
  orders : List PackOrder
  lots : List FundingLot
  packDebts : List PackDebt
  planChanges : List PlanChange
  fundings : List FundingAllocation
  clawbackDebts : List ClawbackDebt
  claims : List CheckoutClaim

def Billing.tenant (b : Billing) (accountId : String) : Tenant where
  accounts := b.rowsOf Account accountId
  invoices := b.rowsOf InvoiceState accountId
  ledger := b.rowsOf LedgerRow accountId
  debits := b.rowsOf Debit accountId
  allocations := b.rowsOf Allocation accountId
  orders := b.rowsOf PackOrder accountId
  lots := b.rowsOf FundingLot accountId
  packDebts := b.rowsOf PackDebt accountId
  planChanges := b.rowsOf PlanChange accountId
  fundings := b.rowsOf FundingAllocation accountId
  clawbackDebts := b.rowsOf ClawbackDebt accountId
  claims := b.rowsOf CheckoutClaim accountId

theorem Acts.tenant {who : Option String} {b b' : Billing} (h : Acts who b b') {accountId : String}
    (hother : who ≠ some accountId) : b'.tenant accountId = b.tenant accountId := by
  simp only [Billing.tenant, Tenant.mk.injEq]
  exact ⟨h.accounts.others _ hother, h.invoices.others _ hother, h.ledger.others _ hother,
    h.debits.others _ hother, h.allocations.others _ hother, h.orders.others _ hother,
    h.lots.others _ hother, h.packDebts.others _ hother, h.planChanges.others _ hother,
    h.fundings.others _ hother, h.clawbackDebts.others _ hother, h.claims _ hother⟩

/-- The Invoice belongs to the account: by its row, by a grant or by a funding allocation. -/
def InvoiceOf (b : Billing) (invoiceId accountId : String) : Prop :=
  b.owns InvoiceState invoiceId accountId ∨
  (∃ r ∈ b.ledger.rows, r.stripeInvoiceId = some invoiceId ∧ r.grantSlot.isSome ∧
    r.accountId = accountId) ∨
  ∃ f ∈ b.fundings.rows, f.stripeInvoiceId = invoiceId ∧ f.accountId = accountId

/-- Grants and fundings belong to the owner of the Invoice row. -/
theorem Ownership.invoice {b : Billing} (hb : Ownership b) {invoiceId accountId : String}
    (h : InvoiceOf b invoiceId accountId) : b.owns InvoiceState invoiceId accountId := by
  rcases h with h | ⟨r, hr, hinvoice, hslot, rfl⟩ | ⟨f, hf, rfl, rfl⟩
  · exact h
  · exact hb.ledger r hr invoiceId hinvoice hslot
  · exact (hb.fundings f hf).1

/-- The Invoice row of another account stays as it is. -/
theorem Acts.invoice {who : Option String} {b b' : Billing} (h : Acts who b b')
    {invoiceId accountId : String} (hother : who ≠ some accountId)
    (howns : b.owns InvoiceState invoiceId accountId) :
    b'.invoices.find? invoiceId = b.invoices.find? invoiceId := by
  obtain ⟨i, hi, howner⟩ := howns
  have hrow : i ∈ b.rowsOf InvoiceState accountId :=
    List.mem_filter.2 ⟨Table.find?_mem hi, decide_eq_true howner⟩
  have hrow' : i ∈ b'.rowsOf InvoiceState accountId := by
    rw [show b'.rowsOf InvoiceState accountId = _ from h.invoices.others _ hother]
    exact hrow
  have hkey : i.invoiceId = invoiceId := Table.find?_key hi
  have hfind : b'.invoices.find? invoiceId = some i :=
    Table.find?_eq_some_iff.2 ⟨List.mem_of_mem_filter hrow', hkey⟩
  exact hfind.trans hi.symm

/-- **Tenant isolation**: an Event or credit operation that resolved to one account leaves every
    row of every other account as it was, and the whole row of every Invoice that another account
    owns, by itself, by a grant or by a funding allocation. The owner of an Invoice, once set,
    stays for the rest of every run. -/
theorem tenants_isolated {cfg : Config} {db : Db} (hdb : KeptReachable cfg db) :
    (∀ who db', Operation cfg who db db' → ∀ accountId, who ≠ some accountId →
      db'.billing.tenant accountId = db.billing.tenant accountId ∧
      ∀ invoiceId, InvoiceOf db.billing invoiceId accountId →
        db'.billing.invoices.find? invoiceId = db.billing.invoices.find? invoiceId) ∧
    ∀ db', KeptRuns cfg db db' → ∀ invoiceId owner,
      db.billing.owns InvoiceState invoiceId owner →
      db'.billing.owns InvoiceState invoiceId owner := by
  have hb := hdb.ownership
  refine ⟨fun who db' ho accountId hother => ?_, fun db' hrun invoiceId owner howns => ?_⟩
  · have hacts := ho.acts hb
    exact ⟨hacts.tenant hother, fun invoiceId hinvoice =>
      hacts.invoice hother (hb.invoice hinvoice)⟩
  · exact KeptRuns.invoice_owner hrun hb howns

/-! ## A refund of a foreign Invoice -/

def neighbourId : String := "00000000-0000-0000-0000-000000000002"

/-- The pack a second customer buys. -/
def neighbourPack : PackOrder :=
  { packOrder "00000000-0000-0000-0000-00000000000c" with accountId := neighbourId }

/-- The payment of the pack, by the customer of the neighbour. -/
def neighbourPayment : Event :=
  stripeEvent "evt_neighbour" "payment_intent.succeeded" 0
    ((packPaymentIntent neighbourPack).map fun (key, value) =>
      if key = "customer" then (key, .str "cus_2") else (key, value))

/-- A refund of the neighbour that names the Invoice of the first customer. -/
def foreignRefund : Event :=
  stripeEvent "evt_foreign" "charge.refunded" 300 [
    ("id", .str "ch_2"), ("customer", .str "cus_2"), ("invoice", .str "in_1"),
    ("amount", .int 4900), ("amount_refunded", .int 4900), ("refunded", .bool true)]

/-- Two accounts were opened; one reserved a Checkout, the other a pack. -/
def tenantsDb : Db :=
  { Db.empty with
    billing := { Billing.empty with
      accounts := ⟨[{ id := referenceAccountId, externalRef := "user" },
        { id := neighbourId, externalRef := "neighbour" }], by decide, by decide, by decide⟩
      orders := .singleton neighbourPack rfl
      claims := .singleton {
        accountId := referenceAccountId, claimToken := "claim", planKey := "pro"
        planInterval := .month, expiresAt := 0 } rfl } }

theorem tenantsDb_reachable : KeptReachable referenceConfig tenantsDb := by
  have hopened : Outside Db.empty.billing tenantsDb.billing :=
    ⟨⟨_, rfl, by
        intro a ha
        rcases List.mem_pair.1 ha with rfl | rfl <;> rfl⟩,
      ⟨[_], rfl, by
        intro o ho
        rw [List.mem_singleton.1 ho]
        rfl⟩, rfl, rfl, rfl, rfl, rfl, rfl, rfl, rfl,
      fun _ hc => absurd hc List.not_mem_nil⟩
  refine .single ⟨.outside hopened, fun k owner => ?_⟩
  rintro ⟨c, hc, -⟩
  cases hc

/-- Both customers pay, and then the neighbour refunds the Invoice of the other. -/
def foreignRefundRun : Transaction (Db × Db) := do
  let (db, _) ← process referenceConfig (referenceTx 0) tenantsDb paidFirst
  let (db, _) ← process referenceConfig (referenceTx 1) db neighbourPayment
  let (db', _) ← process referenceConfig (referenceTx 2) db foreignRefund
  pure (db, db')

theorem tenants_isolated_foreignRefund :
    ∃ db db', KeptReachable referenceConfig db ∧
      Operation referenceConfig (some neighbourId) db db' ∧
      db'.billing.tenant referenceAccountId = db.billing.tenant referenceAccountId ∧
      InvoiceOf db.billing "in_1" referenceAccountId ∧
      db'.billing.invoices.find? "in_1" = db.billing.invoices.find? "in_1" := by
  have hok : foreignRefundRun.map (fun s =>
      (attributed referenceConfig s.1.billing foreignRefund,
        (s.1.billing.invoices.find? "in_1").bind InvoiceState.accountId)) =
      .ok (some neighbourId, some referenceAccountId) := by decide +kernel
  simp only [foreignRefundRun, map_eq_ok, bind_eq_ok, pure_eq_ok] at hok
  obtain ⟨_, ⟨⟨db₁, _⟩, hpaid, ⟨db₂, _⟩, hpack, ⟨db₃, _⟩, hrefund, rfl⟩, hfacts⟩ := hok
  simp only [Prod.mk.injEq] at hfacts
  obtain ⟨hwho, howner⟩ := hfacts
  have hdb : KeptReachable referenceConfig db₂ :=
    (tenantsDb_reachable.operation (.event hpaid)).operation (.event hpack)
  have hforeign : Operation referenceConfig (some neighbourId) db₂ db₃ := by
    rw [← hwho]
    exact .event hrefund
  obtain ⟨i, hi, haccount⟩ := Option.bind_eq_some_iff.1 howner
  have hinvoice : InvoiceOf db₂.billing "in_1" referenceAccountId := .inl ⟨i, hi, haccount⟩
  obtain ⟨htenant, hrow⟩ := (tenants_isolated hdb).1 _ _ hforeign referenceAccountId (by decide)
  exact ⟨db₂, db₃, hdb, hforeign, htenant, hinvoice, hrow _ hinvoice⟩

end StripeEntitlements
