import StripeEntitlements.Identity.Guards
import StripeEntitlements.Scheduled.SlotUpkeep

/-!
# The Slots of Annual Invoices

An annual Invoice funds up to twelve monthly slots. The paid Invoice sets the counters of the
account from its own row, the worker raises what was issued, and a refund lowers what is allowed;
each of the three reads the Invoice and the account and writes both. A funded account is always
within the slots its Invoice covers.

## Main results

- `SlotFunding` — the account and the Invoice that funds its slots agree
- `SlotBooks` — every funded account has such an Invoice
- `Reachable.slotBooks` — in every run
-/

namespace StripeEntitlements

open Relational

variable {cfg : Config} {tx : Tx} {b b' : Billing} {e : Event} {effect : Effect}

/-! ## Accounts and their slots -/

/-- The funding of the slots stays, and an annual plan is not taken up. -/
structure KeepsFunding (a a' : Account) : Prop where
  id : a'.id = a.id
  funding : a'.fundingInvoiceId = a.fundingInvoiceId
  issued : a'.annualGrantsIssued = a.annualGrantsIssued
  annual : a'.planInterval = some .year → a.planInterval = some .year

/-- The slots stay with their funding. -/
structure KeepsSlots (a a' : Account) : Prop extends KeepsFunding a a' where
  allowed : a'.annualGrantsAllowed = a.annualGrantsAllowed

theorem KeepsSlots.refl (a : Account) : KeepsSlots a a := ⟨⟨rfl, rfl, rfl, id⟩, rfl⟩

theorem KeepsSlots.of_static {a a' : Account} (h : a'.static = a.static) : KeepsSlots a a' where
  id := (congrArg Account.id h :)
  funding := (congrArg Account.fundingInvoiceId h :)
  issued := (congrArg Account.annualGrantsIssued h :)
  annual hyear := (congrArg Account.planInterval h :).symm.trans hyear
  allowed := (congrArg Account.annualGrantsAllowed h :)

/-- No Invoice funds slots. -/
def Account.Unfunded (a : Account) : Prop :=
  a.fundingInvoiceId = none ∧ a.planInterval ≠ some .year

/-- Every account keeps its slots, or has none. -/
def SlotsStay (b b' : Billing) : Prop :=
  ∀ a' ∈ b'.accounts.rows, a'.Unfunded ∨ ∃ a ∈ b.accounts.rows, KeepsSlots a a'

namespace SlotsStay

theorem of_eq (h : b'.accounts = b.accounts) : SlotsStay b b' :=
  fun a ha => .inr ⟨a, h ▸ ha, .refl a⟩

theorem of_posts {a a' : Account} (h : Posts a a' b b') (ha : a'.Unfunded ∨ KeepsSlots a a') :
    SlotsStay b b' := by
  intro c hc
  rcases h.mem_after hc with rfl | ⟨-, hold⟩
  · exact ha.imp_right fun hkeeps => ⟨a, Table.find?_mem h.before, hkeeps⟩
  · exact .inr ⟨c, hold, .refl c⟩

theorem outside (h : Outside b b') : SlotsStay b b' := by
  intro a ha
  rcases h.before ha with ⟨a₀, ha₀, hstatic⟩ | hopened
  · exact .inr ⟨a₀, ha₀, ⟨(congrArg Account.id hstatic :).symm,
      (congrArg Account.fundingInvoiceId hstatic :).symm,
      (congrArg Account.annualGrantsIssued hstatic :).symm,
      fun hyear => (congrArg Account.planInterval hstatic :).trans hyear⟩,
      (congrArg Account.annualGrantsAllowed hstatic :).symm⟩
  · have hinterval : a.planInterval = none := (congrArg Account.planInterval hopened :)
    refine .inl ⟨(congrArg Account.fundingInvoiceId hopened :), ?_⟩
    rw [hinterval]
    exact (Option.some_ne_none _).symm

end SlotsStay

/-! ## Funded accounts -/

/-- The Invoice is begun, its slots belong to the account, and it paid for no upgrade. -/
structure SlotsOf (b : Billing) (invoiceId accountId : String) : Prop where
  begun : Begun b invoiceId
  owned : ∀ r ∈ b.ledger.rows, r.stripeInvoiceId = some invoiceId → r.grantSlot.isSome = true →
    r.accountId = accountId
  plain : ∀ f ∈ b.fundings.rows, f.stripeInvoiceId ≠ invoiceId

section

variable {invoiceId accountId : String} {only upgraded : Option String} {P : LedgerRow → Prop}

theorem SlotsOf.upkeep (hs : SlotsOf b invoiceId accountId) (h : Upkeep only upgraded P b b')
    (hP : ∀ r, P r → r.stripeInvoiceId = some invoiceId → r.accountId = accountId)
    (hupgraded : some invoiceId ≠ upgraded) : SlotsOf b' invoiceId accountId where
  begun := .upkeep h hs.begun
  owned r hr hinvoice hslot := by
    rcases h.ledger.mem_or hr with hold | hnew
    · exact hs.owned r hold hinvoice hslot
    · exact hP r (hnew hslot) hinvoice
  plain f hf hinvoice := by
    rcases h.upgrades f hf with hnew | ⟨f₀, hf₀, hsame⟩
    · exact hupgraded (hinvoice ▸ hnew)
    · exact hs.plain f₀ hf₀ (hsame.trans hinvoice)

/-- The slots of an Invoice that was not begun before. -/
theorem SlotsOf.begins (hs : SlotsBegin b) (hfree : ¬Begun b invoiceId)
    (h : Upkeep only none P b b')
    (hP : ∀ r, P r → r.stripeInvoiceId = some invoiceId → r.accountId = accountId)
    (hbegun : Begun b' invoiceId) : SlotsOf b' invoiceId accountId where
  begun := hbegun
  owned r hr hinvoice hslot := by
    rcases h.ledger.mem_or hr with hold | hnew
    · exact absurd (hs.slots r hold _ hinvoice hslot) hfree
    · exact hP r (hnew hslot) hinvoice
  plain f hf hinvoice := by
    obtain ⟨f₀, hf₀, hsame⟩ := (h.upgrades f hf).resolve_left (Option.some_ne_none _)
    exact hfree (hsame.trans hinvoice ▸ hs.upgrades f₀ hf₀)

end

/-- The slots an Invoice covers for an account that was issued some: all it was issued stay, a
    closed Invoice covers no other. -/
def InvoiceState.coveredSlots (i : InvoiceState) (issued : Nat) : Nat :=
  max issued (if i.closed then issued else annualSlotsAllowed i.amountTotal i.amountRefunded 0)

/-- The Invoice funds the slots of the account, and covers what the account is allowed. -/
structure SlotFunding (b : Billing) (a : Account) (i : InvoiceState) : Prop where
  stored : b.invoices.find? i.invoiceId = some i
  funding : a.fundingInvoiceId = some i.invoiceId
  owner : i.accountId = some a.id
  slots : SlotsOf b i.invoiceId a.id
  closure : i.closureApplied = true → i.closed = true
  first : 1 ≤ a.annualGrantsIssued
  within : a.annualGrantsIssued ≤ a.annualGrantsAllowed
  covered : a.annualGrantsAllowed ≤ i.coveredSlots a.annualGrantsIssued

/-- Slots begin with the first one, and every funded account is covered. -/
structure SlotBooks (b : Billing) : Prop extends SlotsBegin b where
  annual : ∀ a ∈ b.accounts.rows, a.planInterval = some .year → a.fundingInvoiceId.isSome = true
  funded : ∀ a ∈ b.accounts.rows, ∀ k, a.fundingInvoiceId = some k → ∃ i, SlotFunding b a i

section

variable {a a' : Account} {i : InvoiceState} {only upgraded : Option String}
  {P : LedgerRow → Prop}

/-- A funded account whose Invoice a transaction did not write. -/
theorem SlotFunding.upkeep (hf : SlotFunding b a i) (hk : KeepsSlots a a')
    (h : Upkeep only upgraded P b b')
    (hP : ∀ r, P r → r.stripeInvoiceId = some i.invoiceId → r.accountId = a.id)
    (honly : some i.invoiceId ≠ only) (hupgraded : some i.invoiceId ≠ upgraded) :
    SlotFunding b' a' i where
  stored := (h.invoices _ honly).trans hf.stored
  funding := hk.funding.trans hf.funding
  owner := hk.id ▸ hf.owner
  slots := hk.id ▸ hf.slots.upkeep h hP hupgraded
  closure := hf.closure
  first := hk.issued ▸ hf.first
  within := by
    rw [hk.issued, hk.allowed]
    exact hf.within
  covered := by
    rw [hk.issued, hk.allowed]
    exact hf.covered

/-- A transaction that only touches Invoices which fund no account. -/
theorem SlotBooks.stay (hs : SlotBooks b) (h : Upkeep only upgraded P b b') (hbegin : SlotsBegin b')
    (hstay : SlotsStay b b')
    (hfree : ∀ k, some k = only ∨ some k = upgraded ∨
      (∃ r, P r ∧ r.stripeInvoiceId = some k) → ¬Begun b k) : SlotBooks b' where
  toSlotsBegin := hbegin
  annual a' ha' hyear := by
    rcases hstay a' ha' with hnone | ⟨a, ha, hk⟩
    · exact absurd hyear hnone.2
    · rw [hk.funding]
      exact hs.annual a ha (hk.annual hyear)
  funded a' ha' k hfunding := by
    rcases hstay a' ha' with hnone | ⟨a, ha, hk⟩
    · exact absurd (hnone.1.symm.trans hfunding) (Option.some_ne_none k).symm
    · obtain ⟨i, hi⟩ := hs.funded a ha k (hk.funding ▸ hfunding)
      have hbegun := hi.slots.begun
      exact ⟨i, hi.upkeep hk h
        (fun r hr hinvoice => absurd hbegun (hfree _ (.inr (.inr ⟨r, hr, hinvoice⟩))))
        (fun honly => hfree _ (.inl honly) hbegun)
        fun hupgraded => hfree _ (.inr (.inl hupgraded)) hbegun⟩

theorem SlotBooks.aside (hs : SlotBooks b) (h : Aside b b') (hstay : SlotsStay b b') :
    SlotBooks b' := by
  refine hs.stay h (hs.toSlotsBegin.aside h) hstay ?_
  rintro k (hk | hk | ⟨_, hP, -⟩)
  · exact absurd hk (Option.some_ne_none k)
  · exact absurd hk (Option.some_ne_none k)
  · exact hP.elim

end

/-! ## Paid Invoices -/

/-- A whole period was granted: the account takes the period, and the first slot of its Invoice. -/
structure GrantsPeriod (cfg : Config) (b : Billing) (e : Event) (p : PaidInvoice) (t : PeriodTerms)
    (b' : Billing) : Prop where
  free : firstSlotGrant b p.invoiceId = none
  facts : PeriodFacts b e p t
  opened : (periodSlots p t (recordedInvoice b (p.periodFacts t))).blocked = false
  upkeep : Upkeep (some p.invoiceId) none (FirstSlot p) b b'
  begun : Begun b' p.invoiceId
  recorded : b'.invoices.find? p.invoiceId =
    some ((recordedInvoice b (p.periodFacts t)).begun t.plan.monthlyCredits)
  posted : ∃ balance, Posts p.account ((projectPeriod cfg e p t
    (periodSlots p t (recordedInvoice b (p.periodFacts t))) p.account).withBalance balance) b b'

/-- What a paid Invoice did to the slots: nothing, a first slot that funds no account, or a whole
    period. -/
inductive PaidSlots (cfg : Config) (b : Billing) (e : Event) (b' : Billing) : Prop
  | aside (h : Aside b b') (hstay : SlotsStay b b')
  | other {p : PaidInvoice} (hfree : firstSlotGrant b p.invoiceId = none)
      (h : Upkeep (some p.invoiceId) (some p.invoiceId) (OtherSlot p) b b')
      (hbegun : Begun b' p.invoiceId) (hstay : SlotsStay b b')
  | period {p : PaidInvoice} {t : PeriodTerms} (h : GrantsPeriod cfg b e p t b')

theorem applyPeriod_slots {p : PaidInvoice} {t : PeriodTerms} {transition : Option PlanChange}
    (hrow : b.accounts.find? p.account.id = some p.account)
    (hfree : firstSlotGrant b p.invoiceId = none)
    (hguards : periodGuards b e p t = .ok transition)
    (h : applyPeriod cfg tx b e p t transition = .ok effect) :
    PaidSlots cfg b e effect.billing := by
  have hposts := applyPeriod_posts hrow h
  obtain ⟨invoices, hrecords, h⟩ := applyPeriod_eq_ok h
  have hrecorded : Upkeep (some p.invoiceId) none (fun _ => False) b
      { b with invoices := invoices } := .records hrecords
  split at h
  case isTrue hblocked =>
    obtain ⟨hblock, hbegun⟩ := blockPeriod_upkeep h
    have hposted := hposts.resolve_right fun hopen => by
      rw [hblocked] at hopen
      exact Bool.noConfusion hopen.1
    exact .other hfree (Upkeep.trans (.records hrecords) hblock).upgrade hbegun
      (.of_posts hposted.2 (.inr (.refl _)))
  case isFalse hopen =>
    obtain ⟨hgrant, hbegun, hinvoice⟩ := grantPeriod_upkeep h hrecords.found
    obtain ⟨hopened, hposted⟩ := hposts.resolve_left fun hblocked => hopen hblocked.1
    exact .period ⟨hfree, periodGuards_facts hguards, hopened,
      .trans (.records hrecords) hgrant, hbegun, hinvoice, hposted⟩

theorem invoicePaid_slots (hs : SlotsBegin b) (h : invoicePaid cfg tx b e = .ok effect) :
    PaidSlots cfg b e effect.billing := by
  have hquiet : effect.billing = b → PaidSlots cfg b e effect.billing := fun hb =>
    .aside (.of_same hb) (.of_eq (hb ▸ rfl))
  rcases Guarded.andThen_eq_ok h with ⟨hb, -⟩ | ⟨p, hp, h⟩
  · exact hquiet hb
  have hrow := paidInvoiceGuards_row hp
  split at h
  -- an upgrade keeps the funding, whatever its Invoice leaves behind
  case h_1 transition hintent =>
    rcases Guarded.andThen_eq_ok h with ⟨hb, -⟩ | ⟨f, hf, h⟩
    · exact hquiet hb
    have hfree := (deltaGuards_eq_ok hf).1
    obtain ⟨hupkeep, hbegun⟩ := applyDelta_upkeep hs hfree h
    refine .other hfree hupkeep hbegun ?_
    rcases applyDelta_posts hrow h with ⟨-, hposted⟩ | ⟨-, newBalance, balance, hposted⟩
    · exact .of_posts hposted (.inr (.refl _))
    · refine .of_posts hposted (.inr ⟨⟨rfl, rfl, rfl, fun hyear => ?_⟩, rfl⟩)
      cases hyear
  case h_2 hintent =>
    rcases Guarded.andThen_eq_ok h with ⟨hb, -⟩ | ⟨t, ht, h⟩
    · exact hquiet hb
    cases hslot : firstSlotGrant b p.invoiceId with
    | some existing =>
      simp only [hslot] at h
      refine .aside (replayPeriod_aside h) ?_
      rcases replayPeriod_posts hrow h with ⟨-, hunposted⟩ | ⟨-, -, hposted⟩
      · exact .of_eq hunposted.accounts
      · exact .of_posts hposted (.inr ⟨⟨rfl, rfl, rfl, id⟩, rfl⟩)
    | none =>
      simp only [hslot] at h
      rcases Guarded.andThen_eq_ok h with ⟨hb, -⟩ | ⟨transition, hguards, h⟩
      · exact hquiet hb
      exact applyPeriod_slots hrow hslot hguards h

theorem recordedInvoice_owner {facts : InvoiceState} {owner : String}
    (hfacts : facts.accountId = some owner)
    (hunowned : invoiceUnownedOr b facts.invoiceId owner = true) :
    (recordedInvoice b facts).accountId = some owner := by
  unfold recordedInvoice
  cases hold : b.invoices.find? facts.invoiceId with
  | none => exact hfacts
  | some old =>
    simp only [invoiceUnownedOr, hold, Option.all_some, Bool.or_eq_true,
      Option.isNone_iff_eq_none, decide_eq_true_eq] at hunowned
    simp only [InvoiceState.merge, hfacts]
    rcases hunowned with hnone | hsame
    · rw [hnone, Option.none_or]
    · rw [hsame, Option.or_self]

theorem recordedInvoice_closureApplied {facts : InvoiceState} (hs : SlotsBegin b)
    (hfacts : facts.closureApplied = false) (hfree : ¬Begun b facts.invoiceId) :
    (recordedInvoice b facts).closureApplied = false := by
  unfold recordedInvoice
  cases hold : b.invoices.find? facts.invoiceId with
  | none => exact hfacts
  | some old =>
    refine Bool.eq_false_iff.2 fun hclosed => hfree ?_
    exact Table.find?_key hold ▸ hs.closures old (Table.find?_mem hold) hclosed

/-- The Invoice of a granted period was not closed before, and is the account's. -/
theorem GrantsPeriod.funding {p : PaidInvoice} {t : PeriodTerms} {a' : Account} {k : String}
    (hs : SlotsBegin b) (h : GrantsPeriod cfg b e p t b')
    (ha' : b'.accounts.find? p.account.id = some a') (hk : a'.fundingInvoiceId = some k) :
    ∃ i, SlotFunding b' a' i ∧ i.invoiceId = p.invoiceId ∧ i.closed = false ∧
      1 ≤ annualSlotsAllowed i.amountTotal i.amountRefunded 0 := by
  obtain ⟨balance, hposted⟩ := h.posted
  have hafter : (projectPeriod cfg e p t (periodSlots p t (recordedInvoice b (p.periodFacts t)))
      p.account).withBalance balance = a' := Option.some.inj (hposted.after.symm.trans ha')
  have hfree := not_begun h.free
  have hopened := h.opened
  -- only a yearly plan has its slots funded by the Invoice
  cases hinterval : t.interval with
  | month =>
    have hnone : a'.fundingInvoiceId = none := by
      rw [← hafter]
      simp only [projectPeriod, Account.withBalance, periodSlots, hinterval]
    exact absurd (hnone.symm.trans hk) (Option.some_ne_none k).symm
  | year =>
    simp only [periodSlots, hinterval, decide_eq_false_iff_not, Nat.not_lt] at hopened
    -- the Invoice covers a slot, so it is not closed
    have hopen : (recordedInvoice b (p.periodFacts t)).closed = false := by
      cases hclosed : (recordedInvoice b (p.periodFacts t)).closed with
      | false => rfl
      | true => simp [hclosed] at hopened
    simp only [hopen, Bool.false_eq_true, if_false] at hopened
    have hid : (recordedInvoice b (p.periodFacts t)).invoiceId = p.invoiceId :=
      Table.find?_key h.recorded
    have hcolumns : a'.id = p.account.id ∧ a'.fundingInvoiceId = some p.invoiceId ∧
        a'.annualGrantsIssued = 1 ∧ a'.annualGrantsAllowed =
          max 1 (annualSlotsAllowed (recordedInvoice b (p.periodFacts t)).amountTotal
            (recordedInvoice b (p.periodFacts t)).amountRefunded 0) := by
      rw [← hafter]
      simp only [projectPeriod, Account.withBalance, periodSlots, hinterval, hopen,
        Bool.false_eq_true, if_false, and_self]
    obtain ⟨haccount, hfunding, hissued, hallowed⟩ := hcolumns
    refine ⟨(recordedInvoice b (p.periodFacts t)).begun t.plan.monthlyCredits, {
      stored := hid ▸ h.recorded
      funding := hfunding.trans (congrArg some hid.symm)
      owner := haccount ▸ recordedInvoice_owner rfl h.facts.owner
      slots := ?_
      closure := fun hclosed => ?_
      first := hissued.ge
      within := by omega
      covered := ?_ }, hid, hopen, hopened⟩
    · have hslots : SlotsOf b' p.invoiceId p.account.id :=
        .begins hs hfree h.upkeep (fun r hr _ => hr.account) h.begun
      rw [haccount]
      exact hid ▸ hslots
    · have hnot : (recordedInvoice b (p.periodFacts t)).closureApplied = false :=
        recordedInvoice_closureApplied hs rfl hfree
      exact absurd (hclosed.symm.trans hnot) Bool.noConfusion
    · rw [hallowed, hissued]
      change _ ≤ InvoiceState.coveredSlots (recordedInvoice b (p.periodFacts t)) 1
      simp only [InvoiceState.coveredSlots, hopen, Bool.false_eq_true, if_false, le_refl]

theorem SlotBooks.paid (hs : SlotBooks b) (h : PaidSlots cfg b e b') : SlotBooks b' := by
  cases h with
  | aside h hstay => exact hs.aside h hstay
  | @other p hfree h hbegun hstay =>
    have hbegin := hs.toSlotsBegin.upkeep h
      (fun r i hr hinvoice => Option.some.inj (hr.1.invoice.symm.trans hinvoice) ▸ hbegun)
      (fun i honly _ _ => Option.some.inj honly ▸ hbegun)
      fun k hk => Option.some.inj hk ▸ hbegun
    refine hs.stay h hbegin hstay ?_
    rintro k (hk | hk | ⟨r, hr, hinvoice⟩)
    · exact Option.some.inj hk ▸ not_begun hfree
    · exact Option.some.inj hk ▸ not_begun hfree
    · exact Option.some.inj (hr.1.invoice.symm.trans hinvoice) ▸ not_begun hfree
  | @period p t h =>
    have hfree := not_begun h.free
    obtain ⟨balance, hposted⟩ := h.posted
    have hbegin := hs.toSlotsBegin.upkeep h.upkeep
      (fun r i hr hinvoice => Option.some.inj (hr.invoice.symm.trans hinvoice) ▸ h.begun)
      (fun i honly _ _ => Option.some.inj honly ▸ h.begun)
      fun k hk => absurd hk (Option.some_ne_none k)
    refine { toSlotsBegin := hbegin, annual := fun a' ha' hyear => ?_,
             funded := fun a' ha' k hk => ?_ }
    -- the account of the period is funded by its Invoice, any other one as before
    · rcases hposted.mem_after ha' with rfl | ⟨-, hold⟩
      · cases hinterval : t.interval with
        | year => simp only [projectPeriod, Account.withBalance, periodSlots, hinterval,
            Option.isSome_some]
        | month =>
          simp only [projectPeriod, Account.withBalance, hinterval, Option.some.injEq] at hyear
          cases hyear
      · exact hs.annual a' hold hyear
    · rcases hposted.mem_after ha' with heq | ⟨-, hold⟩
      · have hfound := hposted.after
        rw [← heq] at hfound
        obtain ⟨i, hi, -⟩ := h.funding hs.toSlotsBegin hfound hk
        exact ⟨i, hi⟩
      · obtain ⟨i, hi⟩ := hs.funded a' hold k hk
        have hne : i.invoiceId ≠ p.invoiceId := fun heq => hfree (heq ▸ hi.slots.begun)
        exact ⟨i, hi.upkeep (.refl a') h.upkeep
          (fun r hr hinvoice => absurd (Option.some.inj (hinvoice.symm.trans hr.invoice)) hne)
          (fun honly => hne (Option.some.inj honly)) (Option.some_ne_none _)⟩

/-! ## Clawbacks -/

/-- The account a clawback leaves, but for what it allows. -/
theorem ClawbackTarget.Locked.after_keeps {c : ClawbackTarget} {leaf : Option FundingAllocation}
    (hlocked : c.Locked cfg b e) (hleaf : c.Reverts leaf) (tx : Tx) (balance : Nat) :
    KeepsFunding c.account ((c.after tx leaf).withBalance balance) ∧
      ((c.after tx leaf).withBalance balance).stripeCustomerId = c.account.stripeCustomerId ∧
      ((c.after tx leaf).withBalance balance).annualGrantsAllowed =
        if c.annualFunding then
          min c.account.annualGrantsAllowed (c.state.coveredSlots c.account.annualGrantsIssued)
        else
          c.account.annualGrantsAllowed := by
  have hcovered : max c.account.annualGrantsIssued c.fundedAllowed =
      c.state.coveredSlots c.account.annualGrantsIssued := rfl
  rw [← hcovered]
  cases leaf with
  | none =>
    refine ⟨⟨?_, ?_, ?_, ?_⟩, ?_, ?_⟩ <;> unfold ClawbackTarget.after <;> split <;>
      first | rfl | exact id
  | some f =>
    -- an upgrade reverts to a monthly plan
    have hmonth : f.sourceInterval = .month := by
      obtain ⟨-, -, -, -, hallocation⟩ := hleaf f rfl
      have hfound := hlocked.allocation.trans hallocation
      have hcheck := b.fundings.valid.checked f (List.mem_of_find?_eq_some hfound)
      simp only [Relation.check, Bool.and_eq_true, decide_eq_true_eq] at hcheck
      tauto
    refine ⟨⟨?_, ?_, ?_, fun hyear => ?_⟩, ?_, ?_⟩
    rotate_left 3
    · have hinterval : ((c.after tx (some f)).withBalance balance).planInterval =
          some f.sourceInterval := by
        unfold ClawbackTarget.after
        split <;> rfl
      rw [hinterval, hmonth] at hyear
      cases hyear
    all_goals
      unfold ClawbackTarget.after
      split <;> rfl

/-- The Invoice row once the facts of a clawback were merged; a closure may have been applied. -/
structure Recorded (f : ClawbackFacts) (a : Account) (i i' : InvoiceState) : Prop where
  row : i' = { i.merge (f.invoice (some a.id)) with closureApplied := i'.closureApplied }
  closure : i'.closureApplied = true → i'.closed = true

/-- The clawback is about the funding Invoice of the account, and names its customer. -/
def Reaches (f : ClawbackFacts) (a : Account) (i : InvoiceState) : Prop :=
  i.invoiceId = f.invoiceId ∧ a.stripeCustomerId = some f.customerId

/-- What a clawback did to a funded account and its Invoice. -/
inductive Claws (f : ClawbackFacts) (a : Account) (i : InvoiceState) :
    Account → InvoiceState → Prop
  | reached {a' : Account} {i' : InvoiceState} (hreaches : Reaches f a i)
      (hkeeps : KeepsFunding a a') (hrecorded : Recorded f a i i')
      (hallowed : a'.annualGrantsAllowed =
        min a.annualGrantsAllowed (i'.coveredSlots a.annualGrantsIssued)) : Claws f a i a' i'
  | missed {a' : Account} (hmissed : ¬Reaches f a i) (hkeeps : KeepsSlots a a') :
      Claws f a i a' i

section

variable {f : ClawbackFacts} {a : Account} {i : InvoiceState}

theorem SlotFunding.recordedInvoice (hi : SlotFunding b a i) {facts : InvoiceState}
    (hfacts : facts.invoiceId = i.invoiceId) : recordedInvoice b facts = i.merge facts := by
  simp only [StripeEntitlements.recordedInvoice, hfacts, hi.stored]

/-- A clawback of the funding Invoice finds the account, by its customer or as the owner. -/
theorem SlotFunding.clawbackAccount (hi : SlotFunding b a i) (ha : a ∈ b.accounts.rows)
    (hinvoice : i.invoiceId = f.invoiceId) : ∃ c, clawbackAccount b f = some c := by
  have hfound : b.invoices.find? f.invoiceId = some i := hinvoice ▸ hi.stored
  cases hcustomer : b.accounts.rows.find? (·.stripeCustomerId = some f.customerId) with
  | some c => exact ⟨c, by rw [StripeEntitlements.clawbackAccount, hcustomer, Option.some_or]⟩
  | none =>
    refine ⟨a, ?_⟩
    rw [StripeEntitlements.clawbackAccount, hcustomer, Option.none_or, hfound, Option.bind_some,
      hi.owner, Option.bind_some]
    exact Table.find?_of_mem ha

/-- A clawback that passed the owner checks is of the account the Invoice funds. -/
theorem SlotFunding.clawed (hi : SlotFunding b a i) (ha : a ∈ b.accounts.rows) {c : Account}
    (hc : StripeEntitlements.clawbackAccount b f = some c) (howner : clawbackOwner b f c = .ok ())
    (hinvoice : i.invoiceId = f.invoiceId) : c = a ∧ Reaches f a i := by
  have hfound : b.invoices.find? f.invoiceId = some i := hinvoice ▸ hi.stored
  have hcustomer := clawbackOwner_eq_ok howner
  simp only [clawbackOwner, bind_eq_ok, require_eq_ok, invoiceUnownedOr, hfound, Option.all_some,
    hi.owner, Option.isNone_some, Bool.false_or, decide_eq_true_eq, Option.some.injEq] at howner
  obtain ⟨_, -, hid⟩ := howner
  have hsame : c = a := b.accounts.eq_of_key_eq (clawbackAccount_mem hc) ha hid.symm
  exact ⟨hsame, hinvoice, hsame ▸ hcustomer⟩

/-- A clawback that reaches the account passes the owner checks. -/
theorem Reaches.owner (h : Reaches f a i) (hi : SlotFunding b a i) (ha : a ∈ b.accounts.rows) :
    clawbackAccount b f = some a ∧ clawbackOwner b f a = .ok () := by
  have hfound : b.invoices.find? f.invoiceId = some i := h.1 ▸ hi.stored
  refine ⟨clawbackAccount_of_customer ha h.2, ?_⟩
  simp only [clawbackOwner, h.2, invoiceUnownedOr, hfound, hi.owner, bind_eq_ok, require_eq_ok,
    Option.all_some, decide_true, Bool.or_true, exists_const, and_self]

/-- Where a clawback of the funding Invoice stops, the account is within what is left. -/
theorem SlotFunding.stops (hi : SlotFunding b a i)
    (h : ClawbackStops b f a (StripeEntitlements.recordedInvoice b (f.invoice (some a.id))))
    (hinvoice : i.invoiceId = f.invoiceId) :
    i.closureApplied = true ∧ a.annualGrantsAllowed = a.annualGrantsIssued := by
  have hrecorded : StripeEntitlements.recordedInvoice b (f.invoice (some a.id)) =
      i.merge (f.invoice (some a.id)) := hi.recordedInvoice hinvoice.symm
  obtain ⟨r, hr, hbegun, hslot⟩ := hi.slots.begun
  have hgranted : ∃ grant, invoiceGrant b f.invoiceId = some grant :=
    Option.isSome_iff_exists.1 (newestBy_isSome (List.mem_filter.2
      ⟨hr, by simp [hbegun, hslot, hinvoice]⟩))
  cases h with
  | closed hclosed happlied =>
    rw [hrecorded] at happlied
    have hcovered := hi.covered
    rw [InvoiceState.coveredSlots, if_pos (hi.closure happlied), max_self] at hcovered
    exact ⟨happlied, le_antisymm hcovered hi.within⟩
  | ungranted hnone =>
    obtain ⟨grant, hgrant⟩ := hgranted
    exact absurd (hnone.symm.trans hgrant) (Option.some_ne_none grant).symm
  | foreign hgrant hforeign =>
    have hmem := List.mem_filter.1 (newestBy_mem hgrant)
    simp only [Bool.and_eq_true, decide_eq_true_eq] at hmem
    exact absurd (hi.slots.owned _ hmem.1 (hinvoice ▸ hmem.2.1) hmem.2.2) hforeign
  | funding hallocation =>
    have hkey := List.find?_some hallocation
    rw [decide_eq_true_eq] at hkey
    have hnamed := hi.slots.plain _ (List.mem_of_find?_eq_some hallocation)
    exact absurd (hkey.trans hinvoice.symm) hnamed
  | older _ _ hannual => exact absurd (hi.funding.trans (congrArg some hinvoice)) hannual

/-- The entitlement of a funded account after a clawback of its Invoice. -/
theorem SlotFunding.clawedEntitlement {c : ClawbackTarget} {b₁ : Billing} (hi : SlotFunding b a i)
    (hlocked : c.Locked cfg b e) (haccount : c.account = a) (hfacts : c.facts = f)
    (hreaches : Reaches f a i) (h : clawEntitlement tx b₁ e c = .ok effect)
    (haccounts : b₁.accounts = b.accounts)
    (hfound : b₁.invoices.find? f.invoiceId = some (i.merge (f.invoice (some a.id)))) :
    ∃ a' i', effect.billing.accounts.find? a.id = some a' ∧
      effect.billing.invoices.find? i.invoiceId = some i' ∧
      a'.stripeCustomerId = a.stripeCustomerId ∧ Claws f a i a' i' := by
  subst haccount hfacts
  have hlocked₁ : b₁.accounts.find? c.account.id = some c.account := haccounts ▸ hlocked.row
  obtain ⟨b₂, -, balance, -, hposted⟩ := clawEntitlement_posts hlocked₁ h
  have hleaf : c.Reverts (leafDeltaRevert b₂ c) := leafDeltaRevert_reverts
  obtain ⟨hkeeps, hcustomer, hallowed⟩ := hlocked.after_keeps hleaf tx balance
  have hmark := (clawEntitlement_clawed h).2
  rw [hfound, Option.map_some, ← hreaches.1] at hmark
  have hstate : c.state = i.merge (c.facts.invoice (some c.account.id)) :=
    hlocked.state.trans (hi.recordedInvoice hreaches.1.symm)
  have hfunds : c.annualFunding = true :=
    decide_eq_true (hi.funding.trans (congrArg some hreaches.1))
  rw [if_pos hfunds] at hallowed
  refine ⟨_, _, hposted.after, hmark, hcustomer, .reached hreaches hkeeps ?_ ?_⟩
  · constructor
    · split <;> rfl
    · intro happlied
      split at happlied
      case isTrue hclosed =>
        rw [if_pos hclosed]
        exact hstate ▸ hclosed
      case isFalse hopen =>
        rw [if_neg hopen]
        have hold := hi.closure happlied
        simp only [InvoiceState.closed, InvoiceState.merge, Bool.or_eq_true] at hold ⊢
        tauto
  · rw [hallowed, hstate]
    congr 1
    split <;> rfl

/-- **A clawback** of the funding Invoice leaves the account what the Invoice still covers; one of
    another Invoice or customer leaves both alone. -/
theorem clawback_claws (hi : SlotFunding b a i) (ha : a ∈ b.accounts.rows)
    (hf : clawbackGuards cfg e = .ok f) (h : clawback cfg tx b e = .ok effect) :
    ∃ a' i', effect.billing.accounts.find? a.id = some a' ∧
      effect.billing.invoices.find? i.invoiceId = some i' ∧
      a'.stripeCustomerId = a.stripeCustomerId ∧ Claws f a i a' i' := by
  have hrow := Table.find?_of_mem ha
  rcases clawback_eq_ok h with ⟨hb, hstop⟩ | ⟨f', invoices, hf', hend⟩
  · obtain ⟨c, hc, howner⟩ := hstop f hf
    refine ⟨a, i, hb ▸ hrow, hb ▸ hi.stored, rfl, .missed (fun hreaches => ?_) (.refl a)⟩
    obtain ⟨hsame, hpasses⟩ := hreaches.owner hi ha
    cases hsame.symm.trans hc
    exact howner hpasses
  have hfacts : f' = f := Except.ok.inj (hf'.symm.trans hf)
  subst hfacts
  by_cases hinvoice : i.invoiceId = f'.invoiceId
  -- the funding Invoice: the account is found, and it is the one whose facts are recorded
  · rcases hend with ⟨hnone, -, -⟩ | ⟨c, fundings, hc, howner, hrecords, hend⟩
    · obtain ⟨c, hc⟩ := hi.clawbackAccount ha hinvoice
      exact absurd (hnone.symm.trans hc) (Option.some_ne_none c).symm
    · obtain ⟨rfl, hreaches⟩ := hi.clawed ha hc howner hinvoice
      have hfound : ({ b with invoices := invoices, fundings := fundings } :
          Billing).invoices.find? f'.invoiceId = some (i.merge (f'.invoice (some c.id))) :=
        hrecords.found.trans (congrArg some (hi.recordedInvoice hinvoice.symm))
      rcases hend with ⟨hstops, hb⟩ | ⟨target, haccount, htarget, hlocked, h⟩
      · obtain ⟨happlied, hissued⟩ := hi.stops hstops hinvoice
        have hclosed : (i.merge (f'.invoice (some c.id))).closed = true := by
          have hold := hi.closure happlied
          simp only [InvoiceState.closed, InvoiceState.merge, Bool.or_eq_true] at hold ⊢
          tauto
        refine ⟨c, _, hb ▸ hrow, hinvoice ▸ hb ▸ hfound, rfl,
          .reached hreaches (KeepsSlots.refl c).toKeepsFunding ⟨rfl, fun _ => hclosed⟩ ?_⟩
        rw [InvoiceState.coveredSlots, if_pos hclosed, max_self, hissued, min_self]
      · exact hi.clawedEntitlement hlocked haccount htarget hreaches h rfl hfound
  -- another Invoice: its facts are no concern of the account
  · have hmissed : ¬Reaches f' a i := fun hreaches => hinvoice hreaches.1
    have hpass : ∀ b₁ : Billing, b₁.accounts = b.accounts →
        (∀ k, k ≠ f'.invoiceId → b₁.invoices.find? k = b.invoices.find? k) →
        b₁.accounts.find? a.id = some a ∧ b₁.invoices.find? i.invoiceId = some i := by
      intro b₁ haccounts hothers
      exact ⟨haccounts ▸ hrow, (hothers _ hinvoice).trans hi.stored⟩
    rcases hend with ⟨-, hrecords, hb⟩ | ⟨c, fundings, hc, howner, hrecords, ⟨-, hb⟩ |
      ⟨target, haccount, htarget, hlocked, h⟩⟩
    · obtain ⟨ha', hi'⟩ := hpass effect.billing (hb ▸ rfl) (hb ▸ hrecords.others)
      exact ⟨a, i, ha', hi', rfl, .missed hmissed (.refl a)⟩
    · obtain ⟨ha', hi'⟩ := hpass effect.billing (hb ▸ rfl) (hb ▸ hrecords.others)
      exact ⟨a, i, ha', hi', rfl, .missed hmissed (.refl a)⟩
    · subst htarget
      have hupkeep := hrecords.upkeep.trans (clawEntitlement_upkeep h)
      have hstored : effect.billing.invoices.find? i.invoiceId = some i :=
        (hupkeep.invoices _ fun heq => hinvoice (Option.some.inj heq)).trans hi.stored
      have hlocked₁ : ({ b with invoices := invoices, fundings := fundings } :
          Billing).accounts.find? target.account.id = some target.account := hlocked.row
      obtain ⟨b₂, -, balance, -, hposted⟩ := clawEntitlement_posts hlocked₁ h
      rcases hposted.mem_cases ha with ⟨rfl, hafter⟩ | ⟨-, hafter⟩
      · have hleaf : target.Reverts (leafDeltaRevert b₂ target) := leafDeltaRevert_reverts
        obtain ⟨hkeeps, hcustomer, hallowed⟩ := hlocked.after_keeps hleaf tx balance
        have hnot : ¬target.annualFunding = true := fun hfunds =>
          hinvoice (Option.some.inj (hi.funding.symm.trans (of_decide_eq_true hfunds)))
        rw [if_neg hnot] at hallowed
        exact ⟨_, i, hafter, hstored, hcustomer, .missed hmissed ⟨hkeeps, hallowed⟩⟩
      · exact ⟨a, i, hafter, hstored, rfl, .missed hmissed (.refl a)⟩

theorem clawback_accounts (h : clawback cfg tx b e = .ok effect) :
    ∀ a' ∈ effect.billing.accounts.rows, ∃ a ∈ b.accounts.rows, KeepsFunding a a' := by
  intro a' ha'
  rcases clawback_posts h with hunposted | ⟨c, leaf, balance, hlocked, hleaf, hposted⟩
  · exact ⟨a', hunposted.accounts ▸ ha', (KeepsSlots.refl a').toKeepsFunding⟩
  · rcases hposted.mem_after ha' with rfl | ⟨-, hold⟩
    · exact ⟨c.account, Table.find?_mem hposted.before, (hlocked.after_keeps hleaf tx balance).1⟩
    · exact ⟨a', hold, (KeepsSlots.refl a').toKeepsFunding⟩

/-- A clawback takes no slot, and closes no Invoice before its first one. -/
theorem clawback_upkeep (hs : SlotsBegin b) (hf : clawbackGuards cfg e = .ok f)
    (h : clawback cfg tx b e = .ok effect) :
    Upkeep (some f.invoiceId) none (fun _ => False) b effect.billing ∧
      ∀ i, effect.billing.invoices.find? f.invoiceId = some i → i.closureApplied = true →
        Begun b f.invoiceId := by
  -- recorded facts close nothing by themselves
  have hrecorded : ∀ (owner : Option String) (invoices : Table InvoiceState) (i : InvoiceState),
      Records b (f.invoice owner) invoices → invoices.find? f.invoiceId = some i →
      i.closureApplied = true → Begun b f.invoiceId := by
    intro owner invoices i hrecords hi happlied
    by_contra hfree
    have hnot : (recordedInvoice b (f.invoice owner)).closureApplied = false :=
      recordedInvoice_closureApplied hs rfl hfree
    have hsame : recordedInvoice b (f.invoice owner) = i :=
      Option.some.inj (hrecords.found.symm.trans hi)
    exact absurd (happlied.symm.trans (hsame ▸ hnot)) Bool.noConfusion
  rcases clawback_eq_ok h with ⟨hb, -⟩ | ⟨f', invoices, hf', hend⟩
  · refine ⟨.of_same hb, fun i hi happlied => ?_⟩
    rw [hb] at hi
    exact Table.find?_key hi ▸ hs.closures i (Table.find?_mem hi) happlied
  have hfacts : f' = f := Except.ok.inj (hf'.symm.trans hf)
  subst hfacts
  rcases hend with ⟨-, hrecords, hb⟩ | ⟨c, fundings, -, -, hrecords, ⟨-, hb⟩ |
    ⟨target, -, htarget, hlocked, h⟩⟩
  · rw [hb]
    exact ⟨.records hrecords, fun i => hrecorded _ _ i hrecords⟩
  · rw [hb]
    exact ⟨hrecords.upkeep, fun i => hrecorded _ _ i hrecords.toRecords⟩
  · subst htarget
    refine ⟨hrecords.upkeep.trans (clawEntitlement_upkeep h), fun _ _ _ => ?_⟩
    -- the grant the clawback acts on is a slot of the Invoice
    have hgrant := List.mem_filter.1 (newestBy_mem hlocked.grant)
    simp only [Bool.and_eq_true, decide_eq_true_eq] at hgrant
    exact hs.slots _ hgrant.1 _ hgrant.2.1 hgrant.2.2

/-- A clawed account is funded by the Invoice as the clawback left it. -/
theorem SlotFunding.claws {a' : Account} {i' : InvoiceState} {only : Option String}
    (hi : SlotFunding b a i) (h : Claws f a i a' i')
    (hstored : b'.invoices.find? i.invoiceId = some i')
    (hupkeep : Upkeep only none (fun _ => False) b b') : SlotFunding b' a' i' := by
  have hslots : SlotsOf b' i.invoiceId a.id :=
    hi.slots.upkeep hupkeep (fun _ hr => hr.elim) (Option.some_ne_none _)
  have hid : i'.invoiceId = i.invoiceId := Table.find?_key hstored
  cases h with
  | reached hreaches hkeeps hrecorded hallowed =>
    have howner : i'.accountId = some a.id := by
      rw [hrecorded.row]
      simp only [InvoiceState.merge, hi.owner, Option.some_or]
    have hwithin := hi.within
    refine {
      stored := hid.symm ▸ hstored
      funding := (hkeeps.funding.trans hi.funding).trans (congrArg some hid.symm)
      owner := hkeeps.id ▸ howner
      slots := ?_
      closure := hrecorded.closure
      first := hkeeps.issued ▸ hi.first
      within := ?_
      covered := ?_ }
    · rw [hkeeps.id, hid]
      exact hslots
    · rw [hkeeps.issued, hallowed]
      exact le_min hwithin (le_max_left _ _)
    · rw [hkeeps.issued, hallowed]
      exact min_le_right _ _
  | missed hmissed hkeeps =>
    exact {
      stored := hstored
      funding := hkeeps.funding.trans hi.funding
      owner := hkeeps.id ▸ hi.owner
      slots := hkeeps.id ▸ hslots
      closure := hi.closure
      first := hkeeps.issued ▸ hi.first
      within := by rw [hkeeps.issued, hkeeps.allowed]; exact hi.within
      covered := by rw [hkeeps.issued, hkeeps.allowed]; exact hi.covered }

theorem SlotBooks.clawback (hs : SlotBooks b) (h : clawback cfg tx b e = .ok effect) :
    SlotBooks effect.billing := by
  rcases Guarded.andThen_eq_ok h with ⟨hb, -⟩ | ⟨f, hf, -⟩
  · exact hb ▸ hs
  obtain ⟨hupkeep, hclosures⟩ := clawback_upkeep hs.toSlotsBegin hf h
  have hbegin := hs.toSlotsBegin.upkeep hupkeep (fun _ _ hr => hr.elim)
    (fun i honly hi happlied => by
      have hkey := Option.some.inj honly
      exact hkey ▸ .upkeep hupkeep (hclosures i (hkey ▸ hi) happlied))
    fun k hk => absurd hk (Option.some_ne_none k)
  refine { toSlotsBegin := hbegin, annual := fun a' ha' hyear => ?_,
           funded := fun a' ha' k hk => ?_ }
  · obtain ⟨a, ha, hkeeps⟩ := clawback_accounts h a' ha'
    rw [hkeeps.funding]
    exact hs.annual a ha (hkeeps.annual hyear)
  · obtain ⟨a, ha, hkeeps⟩ := clawback_accounts h a' ha'
    obtain ⟨i, hi⟩ := hs.funded a ha k (hkeeps.funding ▸ hk)
    obtain ⟨c, i', hc, hi', -, hclaws⟩ := clawback_claws hi ha hf h
    have hsame : c = a' :=
      Option.some.inj (hc.symm.trans (hkeeps.id ▸ Table.find?_of_mem ha'))
    exact ⟨i', hsame ▸ hi.claws hclaws hi' hupkeep⟩

end

/-! ## The annual worker -/

theorem annualAccountGuards_annual {accountId : String} {now : Int}
    {snapshot : SubscriptionSnapshot} {account : Account}
    (h : annualAccountGuards b accountId now snapshot = .ok account) :
    account.planInterval = some .year := by
  simp only [annualAccountGuards, bind_eq_ok, fetch_eq_ok, require_eq_ok, pure_eq_ok,
    Bool.and_eq_true, decide_eq_true_eq] at h
  obtain ⟨_, -, _, ⟨-, hyear⟩, _, -, _, -, _, -, _, -, rfl⟩ := h
  exact hyear

/-- A slot the worker granted to a funded account. -/
structure GrantsSlot (cfg : Config) (b : Billing) (account : Account) (i : InvoiceState)
    (slot : Nat) (b' : Billing) : Prop where
  funding : SlotFunding b account i
  opened : i.closed = false
  later : account.annualGrantsIssued < slot
  allowed : slot ≤ account.annualGrantsAllowed
  upkeep : Upkeep (some i.invoiceId) none (AnnualSlot account i.invoiceId slot) b b'
  recorded : b'.invoices.find? i.invoiceId = some { i with grantsIssued := max i.grantsIssued slot }
  posted : ∃ plan balance,
    Posts account ((projectAnnualSlot cfg account plan slot account).withBalance balance) b b'

/-- What the worker did to the slots: nothing, an end of the allowance, or one slot. -/
inductive WorkerSlots (cfg : Config) (b b' : Billing) : Prop
  | aside (h : b' = b)
  | ended {account : Account} {i : InvoiceState} (hfunding : SlotFunding b account i)
      (h : Aside b b')
      (hposted : Posts account { account with annualGrantsAllowed := account.annualGrantsIssued }
        b b')
  | granted {account : Account} {i : InvoiceState} {slot : Nat}
      (h : GrantsSlot cfg b account i slot b')

theorem grantDue_slots {accountId : String} {now : Option Int} {snapshot : SubscriptionSnapshot}
    (hs : SlotBooks b) (h : grantDue cfg tx b accountId now snapshot = .ok effect) :
    WorkerSlots cfg b effect.billing := by
  rcases grantDue_eq_ok h with hb | ⟨account, plan, state, haccount, hplan, hslot, hstate, hend⟩
  · exact .aside hb
  have hrow := annualAccountGuards_row haccount
  have hmem := Table.find?_mem hrow
  -- an annual plan is funded, so the worker finds the Invoice of the account
  obtain ⟨k, hk⟩ := Option.isSome_iff_exists.1
    (hs.annual account hmem (annualAccountGuards_annual haccount))
  obtain ⟨i, hi⟩ := hs.funded account hmem k hk
  rw [hi.funding, Option.getD_some] at hstate hend
  have hsame : i = state := Option.some.inj (hi.stored.symm.trans hstate)
  subst hsame
  rcases hend with ⟨-, accounts, haccounts, hb⟩ | ⟨hopen, hgrant⟩
  · refine .ended hi (hb ▸ .of_eq rfl rfl rfl) ?_
    have hposted := Posting.update
      (f := fun a => { a with annualGrantsAllowed := a.annualGrantsIssued }) hrow haccounts
      (fun _ => rfl) (.refl _ _ b.ledger)
    rw [hb]
    exact hposted
  · obtain ⟨hupkeep, hrecorded⟩ := grantAnnualSlot_upkeep hgrant hi.stored
    obtain ⟨balance, hposted⟩ := grantAnnualSlot_posts hrow hgrant
    have hallowed : annualTargetSlot cfg account (now.getD tx.now) ≤ account.annualGrantsAllowed :=
      (min_le_left _ _).trans (min_le_right _ _)
    exact .granted ⟨hi, hopen, hslot, hallowed, hupkeep, hrecorded, plan, balance, hposted⟩

/-- A granted slot is one the Invoice covers. -/
theorem GrantsSlot.covered {account : Account} {i : InvoiceState} {slot : Nat}
    (h : GrantsSlot cfg b account i slot b') :
    slot ≤ annualSlotsAllowed i.amountTotal i.amountRefunded 0 := by
  have hcovered := h.funding.covered
  rw [InvoiceState.coveredSlots, h.opened, if_neg Bool.false_ne_true] at hcovered
  have hlater := h.later
  have hallowed := h.allowed
  omega

theorem SlotBooks.worker (hs : SlotBooks b) (h : WorkerSlots cfg b b') : SlotBooks b' := by
  cases h with
  | aside h => exact h ▸ hs
  | @ended account i hi h hposted =>
    refine { toSlotsBegin := hs.toSlotsBegin.aside h, annual := fun a' ha' hyear => ?_,
             funded := fun a' ha' k hk => ?_ }
    · rcases hposted.mem_after ha' with rfl | ⟨-, hold⟩
      · exact hs.annual account (Table.find?_mem hposted.before) hyear
      · exact hs.annual a' hold hyear
    · rcases hposted.mem_after ha' with rfl | ⟨-, hold⟩
      · refine ⟨i, {
          stored := (h.invoices _ (Option.some_ne_none _)).trans hi.stored
          funding := hi.funding
          owner := hi.owner
          slots := hi.slots.upkeep h (fun _ hr => hr.elim) (Option.some_ne_none _)
          closure := hi.closure
          first := hi.first
          within := le_refl _
          covered := le_max_left _ _ }⟩
      · obtain ⟨j, hj⟩ := hs.funded a' hold k hk
        exact ⟨j, hj.upkeep (.refl a') h (fun _ hr => hr.elim) (Option.some_ne_none _)
          (Option.some_ne_none _)⟩
  | @granted account i slot h =>
    obtain ⟨plan, balance, hposted⟩ := h.posted
    have hi := h.funding
    have hbegun : Begun b' i.invoiceId := .upkeep h.upkeep hi.slots.begun
    have hbegin := hs.toSlotsBegin.upkeep h.upkeep
      (fun r k hr hinvoice => Option.some.inj (hr.invoice.symm.trans hinvoice) ▸ hbegun)
      (fun j honly _ _ => (Option.some.inj honly).symm ▸ hbegun)
      fun k hk => absurd hk (Option.some_ne_none k)
    refine { toSlotsBegin := hbegin, annual := fun a' ha' hyear => ?_,
             funded := fun a' ha' k hk => ?_ }
    · rcases hposted.mem_after ha' with rfl | ⟨-, hold⟩
      · exact hs.annual account (Table.find?_mem hposted.before) hyear
      · exact hs.annual a' hold hyear
    · rcases hposted.mem_after ha' with rfl | ⟨hne, hold⟩
      -- the slot raises what was issued, and the Invoice covers it
      · have hlater := h.later
        have hfirst := hi.first
        have hcovered := hi.covered
        refine ⟨{ i with grantsIssued := max i.grantsIssued slot }, {
          stored := h.recorded
          funding := hi.funding
          owner := hi.owner
          slots := hi.slots.upkeep h.upkeep (fun r hr _ => hr.account) (Option.some_ne_none _)
          closure := hi.closure
          first := hfirst.trans hlater.le
          within := h.allowed
          covered := ?_ }⟩
        refine hcovered.trans ?_
        rw [InvoiceState.coveredSlots, h.opened, if_neg Bool.false_ne_true]
        change _ ≤ max slot (if i.closed then slot else
          annualSlotsAllowed i.amountTotal i.amountRefunded 0)
        rw [h.opened, if_neg Bool.false_ne_true]
        exact max_le_max_right _ hlater.le
      -- an Invoice funds one account, so the others have another
      · obtain ⟨j, hj⟩ := hs.funded a' hold k hk
        have hother : j.invoiceId ≠ i.invoiceId := by
          intro heq
          have hsame : j = i := Option.some.inj (hj.stored.symm.trans (heq ▸ hi.stored))
          exact hne (Option.some.inj (hj.owner.symm.trans (hsame ▸ hi.owner)))
        exact ⟨j, hj.upkeep (.refl a') h.upkeep
          (fun r hr hinvoice => absurd (Option.some.inj (hinvoice.symm.trans hr.invoice)) hother)
          (fun honly => hother (Option.some.inj honly)) (Option.some_ne_none _)⟩

/-! ## Every transaction -/

theorem BindsCustomer.slotsStay (h : BindsCustomer b b') : SlotsStay b b' := by
  rcases h with hsame | ⟨a, customerId, accounts, -, hposted, hsame⟩
  · exact .of_eq hsame.accounts
  · exact .of_posts (hsame.unposted.after hposted) (.inr ⟨⟨rfl, rfl, rfl, id⟩, rfl⟩)

/-- Of the projections only those of paid Invoices and clawbacks touch the slots. A deletion leaves
    none. -/
theorem Projects.slotsStay (h : Projects cfg tx b e b') (hpaid : e.kind ≠ .invoicePaid)
    (hrefund : e.kind ≠ .chargeRefunded) (hdispute : e.kind ≠ .chargeDisputeCreated) :
    SlotsStay b b' := by
  rcases h with hunposted | ⟨a, a', hposted, hprojected⟩
  · exact .of_eq hunposted.accounts
  refine .of_posts hposted ?_
  cases hprojected with
  | customer => exact .inr ⟨⟨rfl, rfl, rfl, id⟩, rfl⟩
  | marked hkind => exact absurd hkind hpaid
  | replayed hkind => exact absurd hkind hpaid
  | period hkind => exact absurd hkind hpaid
  | delta hkind => exact absurd hkind hpaid
  | renewal => exact .inr ⟨⟨rfl, rfl, rfl, id⟩, rfl⟩
  | updated => exact .inr ⟨⟨rfl, rfl, rfl, id⟩, rfl⟩
  | deleted => exact .inl ⟨rfl, (Option.some_ne_none _).symm⟩
  | completed => exact .inr ⟨⟨rfl, rfl, rfl, id⟩, rfl⟩
  | clawed hkind => exact (hkind.elim hrefund hdispute).elim

/-- What an Event did to the slots. -/
inductive EventSlots (cfg : Config) (tx : Tx) (b : Billing) (e : Event) : Billing → Prop
  | quiet {b' : Billing} (h : Aside b b') (hstay : SlotsStay b b') : EventSlots cfg tx b e b'
  | paid {b' : Billing} (hkind : e.kind = .invoicePaid) (h : PaidSlots cfg b e b') :
      EventSlots cfg tx b e b'
  | clawed {effect : Effect} (hkind : e.kind = .chargeRefunded ∨ e.kind = .chargeDisputeCreated)
      (h : clawback cfg tx b e = .ok effect) : EventSlots cfg tx b e effect.billing

theorem dispatch_slots (hs : SlotsBegin b) (h : dispatch cfg tx b e = .ok effect) :
    EventSlots cfg tx b e effect.billing := by
  have hposts := dispatch_posts h
  have hbinds : BindsCustomer b effect.billing → EventSlots cfg tx b e effect.billing :=
    fun hbinds => .quiet hbinds.aside hbinds.slotsStay
  unfold dispatch at h
  cases hkind : e.kind <;> simp only [hkind] at h
  case paymentIntentSucceeded => exact hbinds (paymentSucceeded_binds h)
  case invoicePaid => exact .paid hkind (invoicePaid_slots hs h)
  case invoicePaymentFailed =>
    exact .quiet (paymentFailed_aside h) (hposts.slotsStay (by simp [hkind]) (by simp [hkind])
      (by simp [hkind]))
  case customerSubscriptionUpdated =>
    exact .quiet (subscriptionUpdated_aside h) (hposts.slotsStay (by simp [hkind]) (by simp [hkind])
      (by simp [hkind]))
  case customerSubscriptionDeleted =>
    exact .quiet (subscriptionDeleted_aside h) (hposts.slotsStay (by simp [hkind]) (by simp [hkind])
      (by simp [hkind]))
  case chargeRefunded | chargeDisputeCreated =>
    cases hpack : packClawback cfg tx b e with
    | none =>
      rw [hpack] at h
      exact .clawed (by simp [hkind]) h
    | some run =>
      rw [hpack] at h
      exact hbinds (packClawback_binds hpack h)
  case checkoutSessionCompleted =>
    cases hpack : packCheckoutEvent cfg b e with
    | none =>
      rw [hpack] at h
      exact .quiet (checkoutCompleted_aside h) (hposts.slotsStay (by simp [hkind])
        (by simp [hkind]) (by simp [hkind]))
    | some run =>
      rw [hpack] at h
      exact hbinds (packCheckoutEvent_binds hpack h)
  case checkoutSessionExpired =>
    cases hpack : packCheckoutEvent cfg b e with
    | none =>
      rw [hpack] at h
      exact .quiet (checkoutExpired_aside h) (.of_eq (checkoutExpired_unposted h).accounts)
    | some run =>
      rw [hpack] at h
      exact hbinds (packCheckoutEvent_binds hpack h)
  case unsupported =>
    rw [pure_eq_ok] at h
    exact .quiet (.of_same (h ▸ rfl)) (.of_eq (h ▸ rfl))

theorem SlotBooks.event (hs : SlotBooks b) (h : EventSlots cfg tx b e b') : SlotBooks b' := by
  cases h with
  | quiet h hstay => exact hs.aside h hstay
  | paid _ h => exact hs.paid h
  | clawed _ h => exact hs.clawback h

/-- **Every transaction** keeps the funded accounts within their Invoices. -/
theorem SlotBooks.commits {db db' : Db} (hs : SlotBooks db.billing) (h : Commits cfg db db') :
    SlotBooks db'.billing := by
  cases h with
  | event h =>
    rcases process_billing h with hb | ⟨effect, hdispatch, hb⟩
    · exact hb ▸ hs
    · exact hb ▸ hs.event (dispatch_slots hs.toSlotsBegin hdispatch)
  | charge h =>
    obtain ⟨account, balance, hposted⟩ := charge_rebalanced h
    exact hs.aside (.settlement (charge_frame h).settlement)
      (.of_posts hposted (.inr ⟨⟨rfl, rfl, rfl, id⟩, rfl⟩))
  | refund h =>
    obtain ⟨account, balance, hposted⟩ := refund_rebalanced h
    exact hs.aside (.settlement (refund_frame h).settlement)
      (.of_posts hposted (.inr ⟨⟨rfl, rfl, rfl, id⟩, rfl⟩))
  | annual h => exact hs.worker (grantDue_slots hs h)
  | outside h => exact hs.aside (.of_eq h.invoices h.ledger h.fundings) (.outside h)

theorem SlotBooks.empty : SlotBooks .empty where
  slots _ h := absurd h List.not_mem_nil
  closures _ h := absurd h List.not_mem_nil
  upgrades _ h := absurd h List.not_mem_nil
  annual _ h := absurd h List.not_mem_nil
  funded _ h := absurd h List.not_mem_nil

end StripeEntitlements
