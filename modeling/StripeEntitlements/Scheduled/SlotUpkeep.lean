import StripeEntitlements.Ledger.EventPostings

/-!
# The Slots a Transaction Takes

A slot of an Invoice is a ledger row with its number. The paid Invoice takes the first one, a
grant of the annual worker a later one, and nothing else takes any. What one transaction did to
the Invoices, to the slots in the ledger and to the upgrades is its upkeep.

## Main results

- `Upkeep` — one Invoice at most is written, and every new slot is as described
- `SlotsBegin` — no other slot, no closure and no upgrade of an Invoice is before its first slot
- `grantPeriod_upkeep`, `applyDelta_upkeep`, `clawEntitlement_upkeep`, `grantAnnualSlot_upkeep` —
  what the handlers take
-/

namespace StripeEntitlements

open Relational

variable {cfg : Config} {tx : Tx} {b b' b'' : Billing} {e : Event} {effect : Effect}

/-! ## Upkeep -/

/-- What a transaction did to the Invoices, the slots and the upgrades: it wrote the Invoice
    `only` at most, every new slot satisfies `P`, and it upgraded from the Invoice `upgraded` at
    most. -/
structure Upkeep (only upgraded : Option String) (P : LedgerRow → Prop) (b b' : Billing) :
    Prop where
  invoices : ∀ k, some k ≠ only → b'.invoices.find? k = b.invoices.find? k
  ledger : Table.Appends (fun r => r.grantSlot.isSome = true → P r) b.ledger b'.ledger
  upgrades : ∀ f ∈ b'.fundings.rows, some f.stripeInvoiceId = upgraded ∨
    ∃ f₀ ∈ b.fundings.rows, f₀.stripeInvoiceId = f.stripeInvoiceId

/-- No Invoice, no slot and no upgrade is written. -/
abbrev Aside : Billing → Billing → Prop := Upkeep none none fun _ => False

namespace Upkeep

variable {only upgraded : Option String} {P : LedgerRow → Prop}

theorem of_eq (hinvoices : b'.invoices = b.invoices) (hledger : b'.ledger = b.ledger)
    (hfundings : b'.fundings = b.fundings) : Upkeep only upgraded P b b' where
  invoices _ _ := by rw [hinvoices]
  ledger := by
    rw [hledger]
    exact .refl _
  upgrades f hf := .inr ⟨f, hfundings ▸ hf, rfl⟩

theorem refl (b : Billing) : Upkeep only upgraded P b b := of_eq rfl rfl rfl

theorem of_same (h : b' = b) : Upkeep only upgraded P b b' := by
  rw [h]
  exact refl b

theorem trans (h : Upkeep only upgraded P b b') (h' : Upkeep only upgraded P b' b'') :
    Upkeep only upgraded P b b'' where
  invoices k hk := (h'.invoices k hk).trans (h.invoices k hk)
  ledger := h.ledger.trans h'.ledger
  upgrades f hf := by
    rcases h'.upgrades f hf with hnew | ⟨f₁, hf₁, hsame₁⟩
    · exact .inl hnew
    · rcases h.upgrades f₁ hf₁ with hnew | ⟨f₀, hf₀, hsame₀⟩
      · exact .inl (hsame₁ ▸ hnew)
      · exact .inr ⟨f₀, hf₀, hsame₀.trans hsame₁⟩

/-- A transaction that wrote nothing of the kind satisfies every description. -/
theorem widen (h : Aside b b') : Upkeep only upgraded P b b' where
  invoices k _ := h.invoices k (Option.some_ne_none k)
  ledger := by
    obtain ⟨rows, hrows, hnone⟩ := h.ledger
    exact ⟨rows, hrows, fun r hr hslot => (hnone r hr hslot).elim⟩
  upgrades f hf := .inr ((h.upgrades f hf).resolve_left (Option.some_ne_none _))

theorem upgrade (h : Upkeep only none P b b') : Upkeep only upgraded P b b' where
  invoices := h.invoices
  ledger := h.ledger
  upgrades f hf := .inr ((h.upgrades f hf).resolve_left (Option.some_ne_none _))

theorem loosen (h : Upkeep none none P b b') : Upkeep only upgraded P b b' where
  invoices k _ := h.invoices k (Option.some_ne_none k)
  ledger := h.ledger
  upgrades := h.upgrade.upgrades

/-- Credits that move outside the slots. -/
theorem of_settles (hinvoices : b'.invoices = b.invoices)
    (hledger : Table.Appends LedgerRow.Settles b.ledger b'.ledger)
    (hfundings : b'.fundings = b.fundings) : Upkeep only upgraded P b b' where
  invoices _ _ := by rw [hinvoices]
  ledger := by
    obtain ⟨rows, hrows, hsettles⟩ := hledger
    refine ⟨rows, hrows, fun r hr hslot => ?_⟩
    rw [(hsettles r hr).slot] at hslot
    cases hslot
  upgrades f hf := .inr ⟨f, hfundings ▸ hf, rfl⟩

theorem settlement (h : Settlement b b') : Upkeep only upgraded P b b' :=
  of_settles h.invoices h.ledger h.fundings

theorem records {facts : InvoiceState} {invoices : Table InvoiceState}
    (h : Records b facts invoices) :
    Upkeep (some facts.invoiceId) upgraded P b { b with invoices := invoices } where
  invoices k hk := h.others k fun heq => hk (congrArg some heq)
  ledger := .refl _
  upgrades f hf := .inr ⟨f, hf, rfl⟩

theorem updateInvoice {k : String} {f : InvoiceState → InvoiceState} {t : Table InvoiceState}
    (h : b.invoices.update? k f = some t) (hf : ∀ i, (f i).invoiceId = i.invoiceId) :
    Upkeep (some k) upgraded P b { b with invoices := t } where
  invoices _ hk := Table.find?_update_ne h hf fun heq => hk (congrArg some heq)
  ledger := .refl _
  upgrades f hf := .inr ⟨f, hf, rfl⟩

theorem insertLedger {accountId eventId : String} {delta : Int} {balance epoch units : Nat}
    {reason : LedgerReason} {invoiceId : Option String} {slot : Option Nat}
    (h : b.insertLedger accountId delta balance reason epoch eventId invoiceId slot units = .ok b')
    (hP : ∀ r : LedgerRow, r.accountId = accountId → r.reason = reason →
      r.stripeInvoiceId = invoiceId → r.grantSlot = slot → slot.isSome = true → P r) :
    Upkeep only upgraded P b b' := by
  rw [Billing.insertLedger, Billing.insert_eq_ok] at h
  obtain ⟨ledger, hledger, rfl⟩ := h
  exact ⟨fun _ _ => rfl, .insert hledger (hP _ rfl rfl rfl rfl), fun f hf => .inr ⟨f, hf, rfl⟩⟩

theorem sameUpgrades {fundings : Table FundingAllocation} (h : SameUpgrades b.fundings fundings) :
    Upkeep only upgraded P b { b with fundings := fundings } where
  invoices _ _ := rfl
  ledger := .refl _
  upgrades f hf := by
    have hmem : f.stripeInvoiceId ∈ b.fundings.rows.map FundingAllocation.stripeInvoiceId :=
      h ▸ List.mem_map_of_mem hf
    exact .inr (List.mem_map.1 hmem)

theorem insertFunding {f : FundingAllocation} {fundings : Table FundingAllocation}
    (h : b.fundings.insert? f = some fundings) :
    Upkeep only (some f.stripeInvoiceId) P b { b with fundings := fundings } where
  invoices _ _ := rfl
  ledger := .refl _
  upgrades g hg := by
    change g ∈ fundings.rows at hg
    rw [Table.insert?_eq_some.1 h, List.mem_append, List.mem_singleton] at hg
    rcases hg with hg | rfl
    · exact .inr ⟨g, hg, rfl⟩
    · exact .inl rfl

end Upkeep

/-! ## Handlers aside -/

theorem SameBooks.aside (h : SameBooks b b') : Aside b b' := .of_eq h.invoices h.ledger h.fundings

theorem BindsCustomer.aside (h : BindsCustomer b b') : Aside b b' := by
  rcases h with hsame | ⟨_, _, _, -, -, hsame⟩
  · exact hsame.aside
  · exact .of_eq hsame.invoices hsame.ledger hsame.fundings

theorem paymentFailed_aside (h : paymentFailed cfg b e = .ok effect) : Aside b effect.billing := by
  rcases Guarded.andThen_eq_ok h with ⟨hb, -⟩ | ⟨f, -, h⟩
  · exact .of_same hb
  split at h
  · rcases failPlanChange_eq_ok h with ⟨hb, -⟩ | ⟨_, planChanges, -, -, -, hb⟩
    · exact .of_same hb
    · exact hb ▸ .of_eq rfl rfl rfl
  · rcases failRenewal_eq_ok h with ⟨-, hb⟩ | ⟨-, accounts, -, hb⟩
    · exact .of_same hb
    · exact hb ▸ .of_eq rfl rfl rfl

theorem subscriptionUpdated_aside (h : subscriptionUpdated cfg b e = .ok effect) :
    Aside b effect.billing := by
  rcases Guarded.andThen_eq_ok h with ⟨hb, -⟩ | ⟨f, -, h⟩
  · exact .of_same hb
  unfold applySubscription at h
  split at h
  · rw [pure_eq_ok] at h
    exact .of_same (h ▸ rfl)
  · simp only [bind_eq_ok, Billing.update_eq_ok, pure_eq_ok] at h
    obtain ⟨_, ⟨accounts, -, rfl⟩, rfl⟩ := h
    simp only [consumeClaim]
    split <;> exact .of_eq rfl rfl rfl

theorem subscriptionDeleted_aside (h : subscriptionDeleted cfg b e = .ok effect) :
    Aside b effect.billing := by
  rcases Guarded.andThen_eq_ok h with ⟨hb, -⟩ | ⟨account, -, h⟩
  · exact .of_same hb
  simp only [applyDeletion, bind_eq_ok, Billing.update_eq_ok] at h
  obtain ⟨_, ⟨accounts, -, rfl⟩, h⟩ := h
  split at h
  · simp only [bind_eq_ok, pure_eq_ok, Billing.updateWhere_eq_ok] at h
    obtain ⟨_, rfl, _, ⟨planChanges, -, rfl⟩, rfl⟩ := h
    exact .of_eq rfl rfl rfl
  · simp only [bind_eq_ok, pure_eq_ok, Billing.updateWhere_eq_ok] at h
    obtain ⟨b₁, hledger, _, ⟨planChanges, -, rfl⟩, rfl⟩ := h
    -- the revocation is an entry without a slot
    have hrevoked : Aside b b₁ := by
      refine Upkeep.trans ?_ (.insertLedger hledger fun _ _ _ _ _ hslot => Bool.noConfusion hslot)
      exact .of_eq rfl rfl rfl
    exact hrevoked.trans (.of_eq rfl rfl rfl)

theorem checkoutCompleted_aside (h : checkoutCompleted cfg b e = .ok effect) :
    Aside b effect.billing := by
  rcases Guarded.andThen_eq_ok h with ⟨hb, -⟩ | ⟨s, -, h⟩
  · exact .of_same hb
  simp only [bind_eq_ok, Billing.update_eq_ok, pure_eq_ok] at h
  obtain ⟨_, ⟨accounts, -, rfl⟩, rfl⟩ := h
  exact .of_eq rfl rfl rfl

theorem checkoutExpired_aside (h : checkoutExpired b e = .ok effect) : Aside b effect.billing := by
  rcases checkoutExpired_eq_ok h with hb | ⟨hb, -⟩
  · exact hb ▸ .of_eq rfl rfl rfl
  · exact .of_same hb

/-! ## Begun Invoices -/

/-- The first slot of the Invoice is taken. -/
def Begun (b : Billing) (invoiceId : String) : Prop :=
  ∃ r ∈ b.ledger.rows, r.stripeInvoiceId = some invoiceId ∧ r.grantSlot = some 1

theorem not_begun {invoiceId : String} (h : firstSlotGrant b invoiceId = none) :
    ¬Begun b invoiceId := by
  rintro ⟨r, hr, hinvoice, hslot⟩
  have hfound := firstSlotGrant_of_mem hr hinvoice hslot
  rw [h] at hfound
  cases hfound

theorem Begun.upkeep {invoiceId : String} {only upgraded : Option String} {P : LedgerRow → Prop}
    (h : Upkeep only upgraded P b b') (hb : Begun b invoiceId) : Begun b' invoiceId := by
  obtain ⟨r, hr, hbegun⟩ := hb
  exact ⟨r, h.ledger.mem hr, hbegun⟩

theorem Begun.insertLedger {accountId eventId invoiceId : String} {delta : Int}
    {balance epoch units : Nat} {reason : LedgerReason}
    (h : b.insertLedger accountId delta balance reason epoch eventId (some invoiceId) (some 1)
      units = .ok b') : Begun b' invoiceId := by
  rw [Billing.insertLedger, Billing.insert_eq_ok] at h
  obtain ⟨ledger, hledger, rfl⟩ := h
  have hrows := Table.insert?_eq_some.1 hledger
  exact ⟨_, hrows ▸ List.mem_append_right _ (List.mem_singleton_self _), rfl, rfl⟩

/-- What the code relies on when it looks for a first slot: no other slot, no closure and no
    upgrade of an Invoice comes before it. -/
structure SlotsBegin (b : Billing) : Prop where
  slots : ∀ r ∈ b.ledger.rows, ∀ i, r.stripeInvoiceId = some i → r.grantSlot.isSome = true →
    Begun b i
  closures : ∀ i ∈ b.invoices.rows, i.closureApplied = true → Begun b i.invoiceId
  upgrades : ∀ f ∈ b.fundings.rows, Begun b f.stripeInvoiceId

theorem SlotsBegin.upkeep {only upgraded : Option String} {P : LedgerRow → Prop}
    (hs : SlotsBegin b) (h : Upkeep only upgraded P b b')
    (hslots : ∀ r i, P r → r.stripeInvoiceId = some i → Begun b' i)
    (hclosures : ∀ i, some i.invoiceId = only → b'.invoices.find? i.invoiceId = some i →
      i.closureApplied = true → Begun b' i.invoiceId)
    (hupgrades : ∀ k, some k = upgraded → Begun b' k) : SlotsBegin b' where
  slots r hr i hinvoice hslot := by
    rcases h.ledger.mem_or hr with hold | hnew
    · exact .upkeep h (hs.slots r hold i hinvoice hslot)
    · exact hslots r i (hnew hslot) hinvoice
  closures i hi hclosed := by
    by_cases honly : some i.invoiceId = only
    · exact hclosures i honly (Table.find?_of_mem hi) hclosed
    · have hold := (h.invoices _ honly).symm.trans (Table.find?_of_mem hi)
      exact .upkeep h (hs.closures i (Table.find?_mem hold) hclosed)
  upgrades f hf := by
    rcases h.upgrades f hf with hnew | ⟨f₀, hf₀, hsame⟩
    · exact hupgrades _ hnew
    · exact hsame ▸ .upkeep h (hs.upgrades f₀ hf₀)

theorem SlotsBegin.aside (hs : SlotsBegin b) (h : Aside b b') : SlotsBegin b' :=
  hs.upkeep h (fun _ _ hP => hP.elim) (fun _ honly => absurd honly (Option.some_ne_none _))
    fun _ hk => absurd hk (Option.some_ne_none _)

/-! ## Paid Invoices -/

/-- The first slot of the paid Invoice, in the ledger of its account. -/
structure FirstSlot (p : PaidInvoice) (r : LedgerRow) : Prop where
  account : r.accountId = p.account.id
  invoice : r.stripeInvoiceId = some p.invoiceId
  slot : r.grantSlot = some 1

/-- A first slot that is a marker, or belongs to an upgrade. -/
def OtherSlot (p : PaidInvoice) (r : LedgerRow) : Prop :=
  FirstSlot p r ∧ r.reason ≠ .subscriptionGrant

section

variable {p : PaidInvoice} {t : PeriodTerms} {transition : Option PlanChange}

theorem settleTransition_aside {c : PlanChange} {invoiceId : String} {status : PlanChangeStatus}
    {lastError : Option String}
    (h : settleTransition b c invoiceId status lastError = .ok b') : Aside b b' := by
  obtain ⟨planChanges, rfl, -⟩ := settleTransition_eq_ok h
  exact .of_eq rfl rfl rfl

theorem replayPeriod_aside {existing : LedgerRow}
    (h : replayPeriod b e p existing = .ok effect) : Aside b effect.billing := by
  rcases Guarded.andThen_eq_ok h with ⟨hb, -⟩ | ⟨_, -, h⟩
  · exact .of_same hb
  split at h
  · simp only [bind_eq_ok, Billing.update_eq_ok, pure_eq_ok] at h
    obtain ⟨_, ⟨accounts, -, rfl⟩, rfl⟩ := h
    exact .of_eq rfl rfl rfl
  · simp only [bind_eq_ok, pure_eq_ok] at h
    obtain ⟨_, rfl, rfl⟩ := h
    exact .refl b

theorem blockPeriod_upkeep (h : blockPeriod b e p t transition = .ok effect) :
    Upkeep (some p.invoiceId) none (OtherSlot p) b effect.billing ∧
      Begun effect.billing p.invoiceId := by
  simp only [blockPeriod, bind_eq_ok, Billing.update_eq_ok] at h
  obtain ⟨b₁, hledger, _, ⟨invoices, hinvoices, rfl⟩, h⟩ := h
  have hmarked : Upkeep none none (OtherSlot p) b b₁ :=
    .insertLedger hledger fun r haccount hreason hinvoice hslot _ =>
      ⟨⟨haccount, hinvoice, hslot⟩, by rw [hreason]; exact LedgerReason.noConfusion⟩
  have hclosed : Upkeep (some p.invoiceId) none (OtherSlot p) b { b₁ with invoices := invoices } :=
    hmarked.loosen.trans (.updateInvoice hinvoices fun _ => rfl)
  -- the intent that is failed with it is no upkeep
  have hrest : Aside { b₁ with invoices := invoices } effect.billing := by
    cases transition with
    | none =>
      simp only [bind_eq_ok, pure_eq_ok] at h
      obtain ⟨_, rfl, rfl⟩ := h
      exact .refl _
    | some c =>
      simp only [bind_eq_ok, pure_eq_ok] at h
      obtain ⟨b₂, hsettle, rfl⟩ := h
      exact settleTransition_aside hsettle
  have hbegun : Begun b₁ p.invoiceId := .insertLedger hledger
  exact ⟨hclosed.trans hrest.widen, .upkeep hrest hbegun⟩

/-- The row of an Invoice whose first slot was granted. -/
def InvoiceState.begun (i : InvoiceState) (units : Nat) : InvoiceState :=
  { i with grantUnitsPerSlot := units, grantsIssued := 1 }

/-- A granted period leaves the row of its Invoice as recorded, with one slot issued. -/
theorem grantPeriod_upkeep {slots : PeriodSlots} {state i : InvoiceState}
    (h : grantPeriod cfg tx b e p t slots state transition = .ok effect)
    (hi : b.invoices.find? p.invoiceId = some i) :
    Upkeep (some p.invoiceId) none (FirstSlot p) b effect.billing ∧
      Begun effect.billing p.invoiceId ∧
      effect.billing.invoices.find? p.invoiceId =
        some (i.begun t.plan.monthlyCredits) := by
  simp only [grantPeriod, bind_eq_ok, Billing.update_eq_ok, Stored.table, Stored.install] at h
  obtain ⟨_, ⟨accounts, -, rfl⟩, b₁, hledger, _, ⟨invoices, hinvoices, rfl⟩, b₂, hsettle,
    hcomplete⟩ := h
  have hprojected : Aside b { b with accounts := accounts } := .of_eq rfl rfl rfl
  have hslot : Upkeep none none (FirstSlot p) { b with accounts := accounts } b₁ :=
    .insertLedger hledger fun r haccount _ hinvoice hslot _ => ⟨haccount, hinvoice, hslot⟩
  have hgranted : Upkeep none none (FirstSlot p) b b₁ := hprojected.widen.trans hslot
  -- the settlement moves the balance, and the intent is no upkeep
  have hrest : Aside { b₁ with invoices := invoices } effect.billing := by
    refine .trans (.settlement (settlePeriod_settlement hsettle)) ?_
    simp only [completeTransition] at hcomplete
    split at hcomplete
    · rw [pure_eq_ok] at hcomplete
      exact .of_same (hcomplete ▸ rfl)
    · simp only [bind_eq_ok, pure_eq_ok] at hcomplete
      obtain ⟨b₃, htransition, rfl⟩ := hcomplete
      exact settleTransition_aside htransition
  have hbegun : Begun b₁ p.invoiceId := .insertLedger hledger
  refine ⟨(hgranted.loosen.trans (.updateInvoice hinvoices fun _ => rfl)).trans hrest.widen,
    .upkeep hrest hbegun, ?_⟩
  have hfind := Table.find?_update_self hinvoices fun _ => rfl
  rw [hgranted.invoices _ (Option.some_ne_none _), hi] at hfind
  exact (hrest.invoices _ (Option.some_ne_none _)).trans hfind

end

/-! ## Paid upgrades -/

section

variable {p : PaidInvoice} {transition : PlanChange} {f : DeltaFunding}

theorem blockDelta_upkeep (h : blockDelta b e p transition f = .ok effect) :
    Upkeep (some p.invoiceId) none (OtherSlot p) b effect.billing ∧
      Begun effect.billing p.invoiceId := by
  simp only [blockDelta, bind_eq_ok, Billing.update_eq_ok, pure_eq_ok] at h
  obtain ⟨b₁, hledger, _, ⟨invoices, hinvoices, rfl⟩, _, ⟨planChanges, -, rfl⟩, rfl⟩ := h
  have hmarked : Upkeep none none (OtherSlot p) b b₁ :=
    .insertLedger hledger fun r haccount hreason hinvoice hslot _ =>
      ⟨⟨haccount, hinvoice, hslot⟩, by rw [hreason]; exact LedgerReason.noConfusion⟩
  have hclosed : Upkeep (some p.invoiceId) none (OtherSlot p) b { b₁ with invoices := invoices } :=
    hmarked.loosen.trans (.updateInvoice hinvoices fun _ => rfl)
  have hbegun : Begun b₁ p.invoiceId := Begun.insertLedger hledger
  exact ⟨hclosed.trans (.of_eq rfl rfl rfl), hbegun⟩

theorem grantDelta_upkeep {state : InvoiceState}
    (h : grantDelta tx b e p transition f state = .ok effect) :
    Upkeep (some p.invoiceId) none (OtherSlot p) b effect.billing ∧
      Begun effect.billing p.invoiceId := by
  simp only [grantDelta, bind_eq_ok, Billing.update_eq_ok, pure_eq_ok] at h
  obtain ⟨_, -, _, ⟨accounts, -, rfl⟩, b₁, hledger, _, ⟨invoices, hinvoices, rfl⟩, b₂, hsettle, _,
    ⟨planChanges, -, rfl⟩, rfl⟩ := h
  have hprojected : Aside b { b with accounts := accounts } := .of_eq rfl rfl rfl
  have hslot : Upkeep none none (OtherSlot p) { b with accounts := accounts } b₁ :=
    .insertLedger hledger fun r haccount hreason hinvoice hslot _ =>
      ⟨⟨haccount, hinvoice, hslot⟩, by rw [hreason]; exact LedgerReason.noConfusion⟩
  have hgranted : Upkeep none none (OtherSlot p) b b₁ := hprojected.widen.trans hslot
  have hrest : Aside { b₁ with invoices := invoices } { b₂ with planChanges := planChanges } :=
    .trans (.settlement (settleDelta_settlement hsettle)) (.of_eq rfl rfl rfl)
  have hbegun : Begun b₁ p.invoiceId := .insertLedger hledger
  exact ⟨(hgranted.loosen.trans (.updateInvoice hinvoices fun _ => rfl)).trans hrest.widen,
    .upkeep hrest hbegun⟩

/-- An upgrade whose first slot is free finds no allocation, and takes the slot. -/
theorem applyDelta_upkeep (hs : SlotsBegin b) (hfree : firstSlotGrant b p.invoiceId = none)
    (h : applyDelta tx b e p transition f = .ok effect) :
    Upkeep (some p.invoiceId) (some p.invoiceId) (OtherSlot p) b effect.billing ∧
      Begun effect.billing p.invoiceId := by
  obtain ⟨invoices, hrecords, ⟨hconflict, -⟩ | ⟨-, fundings, hinsert, h⟩⟩ := applyDelta_eq_ok h
  · obtain ⟨g, hg⟩ := Option.isSome_iff_exists.1 hconflict
    have hkey := List.find?_some hg
    rw [decide_eq_true_eq] at hkey
    exact absurd (hkey ▸ hs.upgrades g (List.mem_of_find?_eq_some hg)) (not_begun hfree)
  have hinsert : ({ b with invoices := invoices } : Billing).fundings.insert? _ = some fundings :=
    hinsert
  have hfunded : Upkeep (some p.invoiceId) (some p.invoiceId) (OtherSlot p) b
      { b with invoices := invoices, fundings := fundings } :=
    .trans (.records hrecords) (.insertFunding hinsert)
  split at h
  case isTrue =>
    obtain ⟨hblocked, hbegun⟩ := blockDelta_upkeep h
    exact ⟨hfunded.trans hblocked.upgrade, hbegun⟩
  case isFalse =>
    obtain ⟨hgranted, hbegun⟩ := grantDelta_upkeep h
    exact ⟨hfunded.trans hgranted.upgrade, hbegun⟩

end

/-! ## Clawbacks -/

theorem revertLeaf_aside {c : ClawbackTarget} {f : FundingAllocation}
    (h : revertLeaf b e c f = .ok b') : Aside b b' := by
  simp only [revertLeaf, bind_eq_ok, Billing.update_eq_ok, Stored.table, Stored.install] at h
  obtain ⟨_, -, _, ⟨accounts, -, rfl⟩, _, ⟨fundings, hfundings, rfl⟩, b₁, hledger, planChanges, -,
    rfl⟩ := h
  have hreverted : Aside b { b with accounts := accounts, fundings := fundings } :=
    { Upkeep.sameUpgrades (.update hfundings fun _ => rfl) with }
  have hentry : Aside { b with accounts := accounts, fundings := fundings } b₁ :=
    .insertLedger hledger fun _ _ _ _ _ hslot => Bool.noConfusion hslot
  exact (hreverted.trans hentry).trans (.of_eq rfl rfl rfl)

theorem limitAnnualSlots_aside {c : ClawbackTarget} (h : limitAnnualSlots b c = .ok b') :
    Aside b b' := by
  unfold limitAnnualSlots at h
  split at h
  · rw [Billing.update_eq_ok] at h
    obtain ⟨accounts, -, rfl⟩ := h
    exact .of_eq rfl rfl rfl
  · rw [pure_eq_ok] at h
    exact .of_same h.symm

/-- A clawback of the entitlement takes no slot; it may mark its Invoice as closed. -/
theorem clawEntitlement_upkeep {c : ClawbackTarget} (h : clawEntitlement tx b e c = .ok effect) :
    Upkeep (some c.facts.invoiceId) none (fun _ => False) b effect.billing := by
  obtain ⟨b₁, removed, b₂, b₃, b₄, hb₁, hb₂, hb₃, hb₄, hlast⟩ := clawEntitlement_eq_ok h
  have h₁ : Aside b b₁ := .settlement (clawBalance_settlement hb₁)
  have h₂ : Aside b₁ b₂ := by
    split at hb₂
    · exact .of_same hb₂
    · exact revertLeaf_aside hb₂
  have h₃ : Aside b₂ b₃ := limitAnnualSlots_aside hb₃
  have h₄ : Aside b₃ b₄ := by
    split at hb₄
    · rw [revokeEntitlement, Billing.update_eq_ok] at hb₄
      obtain ⟨accounts, -, rfl⟩ := hb₄
      exact .of_eq rfl rfl rfl
    · exact .of_same hb₄
  refine (((h₁.trans h₂).trans h₃).trans h₄).widen.trans ?_
  split at hlast
  · rw [Billing.update_eq_ok] at hlast
    obtain ⟨invoices, hinvoices, hb⟩ := hlast
    exact hb ▸ .updateInvoice hinvoices fun _ => rfl
  · exact .of_same hlast

theorem RecordsClawback.upkeep {facts : InvoiceState} {invoices : Table InvoiceState}
    {fundings : Table FundingAllocation} (h : RecordsClawback b facts invoices fundings) :
    Upkeep (some facts.invoiceId) none (fun _ => False) b
      { b with invoices := invoices, fundings := fundings } := by
  have hrecords : Upkeep (some facts.invoiceId) none (fun _ => False) b
      { b with invoices := invoices } := .records h.toRecords
  have hupgrades : Aside b { b with fundings := fundings } := .sameUpgrades h.upgrades
  exact { hrecords with upgrades := hupgrades.upgrades }

/-! ## The annual worker -/

/-- The slot of the Invoice, in the ledger of the account. -/
structure AnnualSlot (account : Account) (invoiceId : String) (slot : Nat) (r : LedgerRow) :
    Prop where
  account : r.accountId = account.id
  invoice : r.stripeInvoiceId = some invoiceId
  slot : r.grantSlot = some slot

/-- A granted slot leaves the row of its Invoice but for the slots it counts. -/
theorem grantAnnualSlot_upkeep {account : Account} {plan : Plan} {invoiceId : String} {slot : Nat}
    {i : InvoiceState} (h : grantAnnualSlot cfg tx b account plan invoiceId slot = .ok b')
    (hi : b.invoices.find? invoiceId = some i) :
    Upkeep (some invoiceId) none (AnnualSlot account invoiceId slot) b b' ∧
      b'.invoices.find? invoiceId = some { i with grantsIssued := max i.grantsIssued slot } := by
  simp only [grantAnnualSlot, bind_eq_ok, Billing.update_eq_ok, pure_eq_ok, Stored.table,
    Stored.install] at h
  obtain ⟨_, ⟨accounts, -, rfl⟩, b₁, hledger, _, ⟨invoices, hinvoices, rfl⟩, ⟨b₂, _⟩, hcollect,
    rfl⟩ := h
  have hprojected : Aside b { b with accounts := accounts } := .of_eq rfl rfl rfl
  have hslot : Upkeep none none (AnnualSlot account invoiceId slot) { b with accounts := accounts }
      b₁ :=
    .insertLedger hledger fun r haccount _ hinvoice hslot _ => ⟨haccount, hinvoice, hslot⟩
  have hgranted := hprojected.widen.trans hslot
  have hrest : Aside { b₁ with invoices := invoices } b₂ :=
    .settlement (collectPackDebtsFromSubscription_frame hcollect).settlement
  refine ⟨(hgranted.loosen.trans (.updateInvoice hinvoices fun _ => rfl)).trans hrest.widen, ?_⟩
  have hfind := Table.find?_update_self hinvoices fun _ => rfl
  rw [hgranted.invoices _ (Option.some_ne_none _), hi] at hfind
  exact (hrest.invoices _ (Option.some_ne_none _)).trans hfind

end StripeEntitlements
