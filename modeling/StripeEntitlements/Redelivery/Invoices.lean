import StripeEntitlements.Processor.Settlement
import StripeEntitlements.Redelivery.Events

/-!
# Redelivered Invoices

A second delivery of `invoice.paid` finds the first slot of its Invoice taken. It changes
nothing where the account is already past the Event, which every branch of the first
delivery ensures but one: a whole-period Invoice whose funding was closed before it was paid
leaves a marker without advancing the cursor, and the replay then projects the paid status.

## Main results

- `SpentInvoice.unchanged` — an Invoice whose account is past the Event changes nothing
- `invoicePaid_redelivered` — outside the blocked branch the second delivery changes nothing
- `invoicePaid_blocked` — after the blocked branch it does
-/

namespace StripeEntitlements

open Relational

variable {cfg : Config} {tx tx' : Tx} {b b' : Billing} {e : Event} {id : Json}
  {effect effect' : Effect}

/-! ## The ordering cursor -/

theorem wins_of_static {a a' : Account} (h : a'.static = a.static) : wins a' e = wins a e :=
  (congrArg (wins · e) h : wins a'.static e = wins a.static e)

/-- An account that took the order of an Event does not take it again. -/
theorem wins_projected {a a' : Account} (he : e.remoteVerified = false)
    (h : a'.cursor = if wins a e then projectionOrder a e else a.cursor) : wins a' e = false := by
  simp only [wins, he, Bool.false_eq_true, if_false, eventWins] at h ⊢
  rw [h]
  unfold projectionOrder
  cases hlt : cursorLt a.cursor e.order with
  | false => simpa using hlt
  | true => simp [cursorLt]

/-! ## Recorded facts -/

/-- The row already holds the facts. -/
structure InvoiceState.Knows (s facts : InvoiceState) : Prop where
  account : s.accountId.isSome ∨ facts.accountId = none
  total : facts.amountTotal ≤ s.amountTotal
  refunded : facts.amountRefunded ≤ s.amountRefunded
  full : facts.fullyRefunded = true → s.fullyRefunded = true
  disputed : facts.disputed = true → s.disputed = true

theorem InvoiceState.Knows.merge_eq {s facts : InvoiceState} (h : s.Knows facts) :
    s.merge facts = s := by
  obtain ⟨haccount, htotal, hrefunded, hfull, hdisputed⟩ := h
  have hid : s.accountId.or facts.accountId = s.accountId := by
    rcases haccount with hs | hf
    · obtain ⟨a, ha⟩ := Option.isSome_iff_exists.1 hs
      rw [ha]
      rfl
    · rw [hf, Option.or_none]
  have hclosed : (s.fullyRefunded || facts.fullyRefunded) = s.fullyRefunded := by
    cases hf : facts.fullyRefunded with
    | false => rw [Bool.or_false]
    | true => rw [hfull hf]; rfl
  have hdispute : (s.disputed || facts.disputed) = s.disputed := by
    cases hf : facts.disputed with
    | false => rw [Bool.or_false]
    | true => rw [hdisputed hf]; rfl
  unfold InvoiceState.merge
  rw [hid, Nat.max_eq_left htotal, Nat.max_eq_left hrefunded, hclosed, hdispute]

theorem InvoiceState.merge_knows (s facts : InvoiceState) : (s.merge facts).Knows facts where
  account := by
    cases hs : s.accountId with
    | some => exact .inl (by simp [merge, hs])
    | none => cases hf : facts.accountId <;> simp [merge, hs, hf]
  total := Nat.le_max_right _ _
  refunded := Nat.le_max_right _ _
  full h := by simp [merge, h]
  disputed h := by simp [merge, h]

theorem recordedInvoice_knows (b : Billing) (facts : InvoiceState) :
    (recordedInvoice b facts).Knows facts := by
  unfold recordedInvoice
  split
  · refine ⟨?_, le_refl _, le_refl _, fun h => h, fun h => h⟩
    cases facts.accountId <;> simp
  · exact InvoiceState.merge_knows _ _

/-- Recording known facts changes nothing. -/
theorem recordInvoice_of_knows {facts s : InvoiceState}
    (hs : b.invoices.find? facts.invoiceId = some s) (h : s.Knows facts) :
    recordInvoice b facts = .ok (b, s) := by
  have hupdate : b.update facts.invoiceId (fun i : InvoiceState => i.merge facts) = .ok b := by
    refine Billing.update_of_fixed fun r hr => ?_
    have : r = s := Option.some.inj (hr.symm.trans hs)
    exact this ▸ h.merge_eq
  simp only [recordInvoice, hs, hupdate, h.merge_eq]
  rfl

/-! ## Spent Invoices -/

/-- The first slot of an Invoice is taken by an account that is past the Event. -/
def SpentInvoice (b : Billing) (e : Event) : Prop :=
  ∃ r ∈ b.ledger.rows, r.stripeInvoiceId = some (e.object.get "id").text ∧
    r.grantSlot = some 1 ∧ ∀ a, b.accounts.find? r.accountId = some a → wins a e = false

theorem firstSlotGrant_of_mem {r : LedgerRow} {invoiceId : String} (hr : r ∈ b.ledger.rows)
    (hinvoice : r.stripeInvoiceId = some invoiceId) (hslot : r.grantSlot = some 1) :
    firstSlotGrant b invoiceId = some r := by
  have hsome : (firstSlotGrant b invoiceId).isSome :=
    List.find?_isSome.2 ⟨r, hr, by simp [hinvoice, hslot]⟩
  obtain ⟨r', hr'⟩ := Option.isSome_iff_exists.1 hsome
  have hkey := List.find?_some hr'
  simp only [Bool.and_eq_true, decide_eq_true_eq] at hkey
  have heq : r' = r := by
    refine b.ledger.eq_of_index_eq (List.mem_singleton.2 rfl) (List.mem_of_find?_eq_some hr') hr
      (x := [invoiceId, toString 1]) ?_ ?_
    · simp [hkey.1, hkey.2]
    · simp [hinvoice, hslot]
  rw [hr', heq]

namespace SpentInvoice

theorem of_eq (h : SpentInvoice b e) (haccounts : b'.accounts = b.accounts)
    (hledger : b'.ledger = b.ledger) : SpentInvoice b' e := by
  unfold SpentInvoice
  rw [haccounts, hledger]
  exact h

theorem settlement (h : SpentInvoice b e) (hs : Settlement b b') : SpentInvoice b' e := by
  obtain ⟨r, hr, hinvoice, hslot, hwins⟩ := h
  refine ⟨r, hs.ledger.mem hr, hinvoice, hslot, fun a' ha' => ?_⟩
  obtain ⟨a, ha, hstatic⟩ := hs.account_inv ha'
  rw [wins_of_static hstatic.symm]
  exact hwins a ha

end SpentInvoice

theorem paidInvoiceGuards_eq_ok {p : PaidInvoice} (h : paidInvoiceGuards cfg b e = .ok p) :
    p.invoice = e.object ∧ p.invoiceId = (e.object.get "id").text ∧
      lockAccount cfg.unicode b e.object (subscriptionMetadata e.object) = some p.account := by
  simp only [paidInvoiceGuards, bind_eq_ok, fetch_eq_ok, require_eq_ok] at h
  obtain ⟨account, haccount, _, -, _, -, _, -, h⟩ := h
  split at h
  all_goals
    simp only [bind_eq_ok, require_eq_ok, pure_eq_ok] at h
    obtain ⟨_, -, _, -, _, -, _, -, rfl⟩ := h
    exact ⟨rfl, rfl, haccount⟩

theorem paidInvoiceGuards_congr (h : b'.accounts = b.accounts) :
    paidInvoiceGuards cfg b' e = paidInvoiceGuards cfg b e := by
  simp only [paidInvoiceGuards, lockAccount_congr h]

/-- A replayed slot of an account that is past the Event. -/
theorem replayPeriod_unchanged {p : PaidInvoice} {existing : LedgerRow}
    (hwins : existing.accountId = p.account.id → wins p.account e = false)
    (h : replayPeriod b e p existing = .ok effect) : effect.billing = b := by
  rcases Guarded.andThen_eq_ok h with ⟨hb, -⟩ | ⟨_, howner, h⟩
  · exact hb
  · simp only [replayOwner, require_eq_ok, decide_eq_true_eq] at howner
    rw [hwins howner] at h
    simp only [Bool.false_eq_true, if_false, bind_eq_ok, pure_eq_ok] at h
    obtain ⟨_, rfl, rfl⟩ := h
    rfl

/-- The delta path stops at a taken slot. -/
theorem invoicePaidProratedDelta_taken {p : PaidInvoice} {transition : PlanChange}
    {existing : LedgerRow} (hslot : firstSlotGrant b p.invoiceId = some existing)
    (h : invoicePaidProratedDelta cfg tx b e p transition = .ok effect) :
    effect.billing = b := by
  rcases Guarded.andThen_eq_ok h with ⟨hb, -⟩ | ⟨f, hguards, -⟩
  · exact hb
  · simp only [deltaGuards, hslot, bind_eq_ok] at hguards
    obtain ⟨_, -, hstop⟩ := hguards
    cases hstop

/-- **A spent Invoice changes nothing**, whichever path its delivery takes. -/
theorem SpentInvoice.unchanged (h : SpentInvoice b e)
    (hrun : invoicePaid cfg tx b e = .ok effect) : effect.billing = b := by
  obtain ⟨r, hr, hinvoice, hslot, hwins⟩ := h
  rcases Guarded.andThen_eq_ok hrun with ⟨hb, -⟩ | ⟨p, hp, hrun⟩
  · exact hb
  obtain ⟨-, hid, hlock⟩ := paidInvoiceGuards_eq_ok hp
  have htaken : firstSlotGrant b p.invoiceId = some r :=
    hid ▸ firstSlotGrant_of_mem hr hinvoice hslot
  split at hrun
  · exact invoicePaidProratedDelta_taken htaken hrun
  · rcases Guarded.andThen_eq_ok hrun with ⟨hb, -⟩ | ⟨t, -, hrun⟩
    · exact hb
    · simp only [htaken] at hrun
      refine replayPeriod_unchanged (fun howner => hwins p.account ?_) hrun
      rw [howner]
      exact Table.find?_of_mem (lockAccount_mem hlock)

/-! ## What the branches leave behind -/

/-- A replay leaves the account past the Event. -/
theorem replayPeriod_spent {p : PaidInvoice} {existing : LedgerRow}
    (he : e.remoteVerified = false) (hp : paidInvoiceGuards cfg b e = .ok p)
    (hslot : firstSlotGrant b p.invoiceId = some existing)
    (howner : existing.accountId = p.account.id)
    (h : replayPeriod b e p existing = .ok effect) : SpentInvoice effect.billing e := by
  obtain ⟨-, hid, hlock⟩ := paidInvoiceGuards_eq_ok hp
  have hkey := List.find?_some hslot
  simp only [Bool.and_eq_true, decide_eq_true_eq] at hkey
  have hrow : b.accounts.find? p.account.id = some p.account :=
    Table.find?_of_mem (lockAccount_mem hlock)
  -- the slot's owner is the account, so the owner check does not stop the replay
  rcases Guarded.andThen_eq_ok h with ⟨-, hstop⟩ | ⟨_, -, h⟩
  · exact absurd (require_eq_ok.2 (decide_eq_true howner)) (hstop ())
  have hmem := List.mem_of_find?_eq_some hslot
  split at h
  -- a winning replay stamps the account with the Event, which cannot win a second time
  case isTrue hwins =>
    simp only [bind_eq_ok, Billing.update_eq_ok, pure_eq_ok, Stored.table, Stored.install] at h
    obtain ⟨_, ⟨accounts, haccounts, rfl⟩, rfl⟩ := h
    refine ⟨existing, hmem, hid ▸ hkey.1, hkey.2, fun a ha => ?_⟩
    have hfind := Table.find?_update_self haccounts fun _ => rfl
    rw [howner] at ha
    rw [hrow, Option.map_some] at hfind
    rw [hfind, Option.some.injEq] at ha
    subst ha
    exact wins_projected he (by rw [if_pos hwins]; rfl)
  -- a losing replay stays behind the cursor as it is
  case isFalse hwins =>
    simp only [bind_eq_ok, pure_eq_ok] at h
    obtain ⟨_, rfl, rfl⟩ := h
    refine ⟨existing, hmem, hid ▸ hkey.1, hkey.2, fun a ha => ?_⟩
    rw [howner, hrow, Option.some.injEq] at ha
    subst ha
    simpa using hwins

/-- A granted slot whose projection takes the order of a winning Event. -/
theorem spent_of_grant {p : PaidInvoice} {f : Account → Account} {accounts : Table Account}
    {b₁ : Billing} {delta : Int} {balance epoch units : Nat} {reason : LedgerReason}
    {eventId : String} (he : e.remoteVerified = false) (hp : paidInvoiceGuards cfg b e = .ok p)
    {b₀ : Billing} (hb₀ : b₀.accounts = b.accounts)
    (haccounts : b₀.accounts.update? p.account.id f = some accounts)
    (hid : ∀ a, (f a).id = a.id)
    (hcursor : (f p.account).cursor =
      if wins p.account e then projectionOrder p.account e else p.account.cursor)
    (hledger : ({ b₀ with accounts := accounts } : Billing).insertLedger p.account.id delta
      balance reason epoch eventId (some p.invoiceId) (some 1) units = .ok b₁) :
    SpentInvoice b₁ e := by
  obtain ⟨-, hinvoice, hlock⟩ := paidInvoiceGuards_eq_ok hp
  rw [Billing.insertLedger, Billing.insert_eq_ok] at hledger
  obtain ⟨ledger, hinsert, rfl⟩ := hledger
  have hrows := Table.insert?_eq_some.1 hinsert
  refine ⟨_, hrows ▸ List.mem_append_right _ (List.mem_singleton.2 rfl), ?_, rfl, fun a ha => ?_⟩
  · rw [hinvoice]
  · have hfind := Table.find?_update_self haccounts hid
    have hrow : b₀.accounts.find? p.account.id = some p.account :=
      hb₀ ▸ Table.find?_of_mem (lockAccount_mem hlock)
    rw [hrow, Option.map_some] at hfind
    have : f p.account = a := Option.some.inj (hfind.symm.trans ha)
    exact wins_projected he (this ▸ hcursor)

theorem completeTransition_spent {p : PaidInvoice} {t : PeriodTerms}
    {transition : Option PlanChange} (hs : SpentInvoice b e)
    (h : completeTransition b p t transition = .ok effect) : SpentInvoice effect.billing e := by
  simp only [completeTransition] at h
  split at h
  · rw [pure_eq_ok] at h
    exact h ▸ hs
  · simp only [bind_eq_ok, pure_eq_ok] at h
    obtain ⟨b₁, hsettle, rfl⟩ := h
    obtain ⟨planChanges, rfl, -⟩ := settleTransition_eq_ok hsettle
    exact hs.of_eq rfl rfl

theorem grantPeriod_spent {p : PaidInvoice} {t : PeriodTerms} {slots : PeriodSlots}
    {state : InvoiceState} {transition : Option PlanChange} {b₀ : Billing}
    (he : e.remoteVerified = false) (hp : paidInvoiceGuards cfg b e = .ok p)
    (h : grantPeriod cfg tx b₀ e p t slots state transition = .ok effect)
    (hb₀ : b₀.accounts = b.accounts) :
    SpentInvoice effect.billing e := by
  simp only [grantPeriod, bind_eq_ok, Billing.update_eq_ok, Stored.table, Stored.install] at h
  obtain ⟨_, ⟨accounts, haccounts, rfl⟩, b₁, hledger, _, ⟨invoices, -, rfl⟩, b₂, hsettle,
    hcomplete⟩ := h
  have hgrant : SpentInvoice b₁ e := by
    refine spent_of_grant he hp hb₀ haccounts (fun _ => rfl) ?_ hledger
    simp only [projectPeriod, Account.cursor]
  have hinvoice : SpentInvoice { b₁ with invoices := invoices } e := hgrant.of_eq rfl rfl
  exact completeTransition_spent (hinvoice.settlement (settlePeriod_settlement hsettle)) hcomplete

theorem grantDelta_spent {p : PaidInvoice} {transition : PlanChange} {f : DeltaFunding}
    {state : InvoiceState} {b₀ : Billing} (he : e.remoteVerified = false)
    (hp : paidInvoiceGuards cfg b e = .ok p)
    (h : grantDelta tx b₀ e p transition f state = .ok effect)
    (hb₀ : b₀.accounts = b.accounts) :
    SpentInvoice effect.billing e := by
  simp only [grantDelta, bind_eq_ok, Billing.update_eq_ok, pure_eq_ok, Stored.table,
    Stored.install] at h
  obtain ⟨_, -, _, ⟨accounts, haccounts, rfl⟩, b₁, hledger, _, ⟨invoices, -, rfl⟩, b₂, hsettle,
    _, ⟨planChanges, -, rfl⟩, rfl⟩ := h
  have hgrant : SpentInvoice b₁ e := by
    refine spent_of_grant he hp hb₀ haccounts (fun _ => rfl) ?_ hledger
    simp only [projectDelta, Account.cursor]
  have hinvoice : SpentInvoice { b₁ with invoices := invoices } e := hgrant.of_eq rfl rfl
  exact (hinvoice.settlement (settleDelta_settlement hsettle)).of_eq rfl rfl

/-! ## The delta path -/

theorem invoicePaid_eq {p : PaidInvoice} (hp : paidInvoiceGuards cfg b e = .ok p) :
    invoicePaid cfg tx b e = match proratedTransition b p with
      | some transition => invoicePaidProratedDelta cfg tx b e p transition
      | none => invoicePaidPeriod cfg tx b e p := by
  unfold invoicePaid
  rw [hp]
  rfl

theorem deltaGuards_eq_ok {p : PaidInvoice} {transition : PlanChange} {f : DeltaFunding}
    (h : deltaGuards cfg b p transition = .ok f) :
    firstSlotGrant b p.invoiceId = none ∧
      parseProratedDeltaShape cfg p transition = .ok f.shape := by
  unfold deltaGuards at h
  split at h
  · simp only [bind_eq_ok] at h
    obtain ⟨_, -, hstop⟩ := h
    cases hstop
  · simp only [bind_eq_ok, require_eq_ok, fetch_eq_ok, pure_eq_ok] at h
    obtain ⟨_, -, shape, hshape, _, -, _, -, _, -, rfl⟩ := h
    exact ⟨by assumption, hshape⟩

/-- What a delta Invoice records about itself. -/
def PaidInvoice.deltaFacts (p : PaidInvoice) (f : DeltaFunding) : InvoiceState where
  invoiceId := p.invoiceId
  accountId := some p.account.id
  amountTotal := f.shape.amountPaid.toNat

/-- The three ends of the delta path. -/
theorem applyDelta_eq_ok {p : PaidInvoice} {transition : PlanChange} {f : DeltaFunding}
    (h : applyDelta tx b e p transition f = .ok effect) :
    ∃ invoices, Records b (p.deltaFacts f) invoices ∧
      (((fundingOfInvoice b p.invoiceId).isSome ∧
          effect.billing = { b with invoices := invoices }) ∨
        (fundingOfInvoice b p.invoiceId = none ∧ ∃ fundings,
          b.fundings.insert? (deltaAllocation { b with invoices := invoices } e p transition f
            (recordedInvoice b (p.deltaFacts f))) = some fundings ∧
          if (recordedInvoice b (p.deltaFacts f)).closed then
            blockDelta { b with invoices := invoices, fundings := fundings } e p transition f =
              .ok effect
          else
            grantDelta tx { b with invoices := invoices, fundings := fundings } e p transition f
              (recordedInvoice b (p.deltaFacts f)) = .ok effect)) := by
  -- the Invoice is recorded, then its allocation looked for, then the closure
  simp only [applyDelta, bind_eq_ok] at h
  obtain ⟨⟨b₁, state⟩, hrecord, h⟩ := h
  obtain ⟨rfl, invoices, rfl, hrecords⟩ := recordInvoice_eq_ok hrecord
  refine ⟨invoices, hrecords, ?_⟩
  split at h
  case isTrue hsome =>
    rw [pure_eq_ok] at h
    exact .inl ⟨hsome, h ▸ rfl⟩
  case isFalse hnone =>
    simp only [bind_eq_ok, Billing.insert_eq_ok, Stored.table, Stored.install] at h
    obtain ⟨_, ⟨fundings, hinsert, rfl⟩, h⟩ := h
    refine .inr ⟨Option.not_isSome_iff_eq_none.1 hnone, fundings, hinsert, ?_⟩
    split at h
    case isTrue hclosed => exact (if_pos hclosed).mpr h
    case isFalse hopen => exact (if_neg hopen).mpr h

theorem proratedTransition_spec {p : PaidInvoice} {transition : PlanChange}
    (h : proratedTransition b p = some transition) :
    p.billingReason = .subscriptionUpdate ∧
      p.subscriptionId = some transition.stripeSubscriptionId ∧
      transition ∈ b.planChanges.rows ∧ transition.accountId = p.account.id ∧
      transition.transitionPolicy = .proratedDelta := by
  unfold proratedTransition at h
  split at h
  case h_1 subscriptionId hreason hsubscription =>
    have hmem := List.mem_filter.1 (newestBy_mem h)
    simp only [Bool.and_eq_true, decide_eq_true_eq] at hmem
    obtain ⟨hrow, ⟨⟨haccount, hsub⟩, hpolicy⟩, -⟩ := hmem
    exact ⟨hreason, hsub ▸ hsubscription, hrow, haccount, hpolicy⟩
  case h_2 => cases h

/-- A prorated intent bound to the Invoice keeps the Invoice on the delta path. -/
theorem proratedTransition_bound {p : PaidInvoice} {c : PlanChange}
    (hreason : p.billingReason = .subscriptionUpdate) (hrow : c ∈ b.planChanges.rows)
    (hsubscription : p.subscriptionId = some c.stripeSubscriptionId) (haccount : c.accountId = p.account.id)
    (hpolicy : c.transitionPolicy = .proratedDelta)
    (hbound : c.settlementInvoiceId = some p.invoiceId) :
    ∃ transition, proratedTransition b p = some transition := by
  rw [← Option.isSome_iff_exists]
  unfold proratedTransition
  rw [hreason, hsubscription]
  exact newestBy_isSome (List.mem_filter.2 ⟨hrow, by simp [haccount, hpolicy, hbound]⟩)

/-- A taken slot on the delta path changes nothing. -/
theorem invoicePaid_delta_taken {p : PaidInvoice} {transition : PlanChange} {marker : LedgerRow}
    (hp : paidInvoiceGuards cfg b e = .ok p)
    (hselected : proratedTransition b p = some transition) (hmarker : marker ∈ b.ledger.rows)
    (hinvoice : marker.stripeInvoiceId = some p.invoiceId) (hslot : marker.grantSlot = some 1)
    (h : invoicePaid cfg tx b e = .ok effect) : effect.billing = b := by
  rw [invoicePaid_eq hp] at h
  simp only [hselected] at h
  exact invoicePaidProratedDelta_taken (firstSlotGrant_of_mem hmarker hinvoice hslot) h

/-- A blocked delta Invoice keeps its intent selected, and the delta path stops at its
    marker. -/
theorem blockDelta_redelivered {p : PaidInvoice} {transition : PlanChange} {f : DeltaFunding}
    {b₀ : Billing} (hp : paidInvoiceGuards cfg b e = .ok p)
    (hselected : proratedTransition b p = some transition)
    (h : blockDelta b₀ e p transition f = .ok effect) (hb₀ : b₀.accounts = b.accounts)
    (hplan : b₀.planChanges = b.planChanges)
    (h' : invoicePaid cfg tx' effect.billing (e.redelivered id) = .ok effect') :
    effect'.billing = effect.billing := by
  simp only [blockDelta, bind_eq_ok, Billing.insertLedger, Billing.insert_eq_ok,
    Billing.update_eq_ok, pure_eq_ok, Stored.table, Stored.install] at h
  obtain ⟨_, ⟨ledger, hledger, rfl⟩, _, ⟨invoices, -, rfl⟩, _, ⟨planChanges, hplans, rfl⟩, rfl⟩ :=
    h
  obtain ⟨hreason, hsubscription, hrow, haccount, hpolicy⟩ := proratedTransition_spec hselected
  have hp' : paidInvoiceGuards cfg { b₀ with
      ledger := ledger, invoices := invoices, planChanges := planChanges } (e.redelivered id) =
      .ok p := (paidInvoiceGuards_congr hb₀).trans hp
  have hbound := Table.find?_update_self hplans fun _ => rfl
  rw [hplan, show b.planChanges.find? transition.id = some transition from
    Table.find?_of_mem hrow] at hbound
  obtain ⟨c, hc⟩ := proratedTransition_bound (b := { b₀ with
    ledger := ledger, invoices := invoices, planChanges := planChanges }) hreason
    (Table.find?_mem hbound) hsubscription haccount hpolicy rfl
  have hmarker := Table.find?_mem ((Table.find?_insert hledger _).trans (if_pos rfl))
  exact invoicePaid_delta_taken hp' hc hmarker rfl rfl h'

/-- A delta Invoice that already has its allocation only records its facts again. -/
theorem applyDelta_recorded {p : PaidInvoice} {transition : PlanChange} {f : DeltaFunding}
    {s : InvoiceState} (hfunded : (fundingOfInvoice b p.invoiceId).isSome)
    (hs : b.invoices.find? p.invoiceId = some s) (hknows : s.Knows (p.deltaFacts f))
    (h : applyDelta tx b e p transition f = .ok effect) : effect.billing = b := by
  have hrecord : recordInvoice b (p.deltaFacts f) = .ok (b, s) := recordInvoice_of_knows hs hknows
  simp only [applyDelta, bind_eq_ok] at h
  obtain ⟨⟨b₁, state⟩, hrecord', h⟩ := h
  have heq := hrecord'.symm.trans hrecord
  cases heq
  simp only [hfunded, if_true, pure_eq_ok] at h
  exact h ▸ rfl

theorem invoicePaidProratedDelta_redelivered {p : PaidInvoice} {transition : PlanChange}
    (he : e.remoteVerified = false) (hp : paidInvoiceGuards cfg b e = .ok p)
    (hselected : proratedTransition b p = some transition)
    (h : invoicePaidProratedDelta cfg tx b e p transition = .ok effect)
    (h' : invoicePaid cfg tx' effect.billing (e.redelivered id) = .ok effect') :
    effect'.billing = effect.billing := by
  rcases Guarded.andThen_eq_ok h with ⟨hb, hstop⟩ | ⟨f, hguards, h⟩
  · -- the intent is still the selected one and its guards still stop
    rw [hb] at h' ⊢
    rw [invoicePaid_eq (e := e.redelivered id) hp] at h'
    simp only [hselected] at h'
    exact Guarded.andThen_stops hstop rfl h'
  -- a delta that found its allocation, was blocked, or was granted
  obtain ⟨invoices, hrecords, ⟨hfunded, hb⟩ | ⟨-, fundings, -, h⟩⟩ := applyDelta_eq_ok h
  · rw [hb] at h' ⊢
    have hp' : paidInvoiceGuards cfg { b with invoices := invoices } (e.redelivered id) = .ok p :=
      (paidInvoiceGuards_congr rfl).trans hp
    rw [invoicePaid_eq hp'] at h'
    simp only [show proratedTransition { b with invoices := invoices } p = some transition from
      hselected] at h'
    -- the second delivery finds the allocation as well, whatever the guards say now
    rcases Guarded.andThen_eq_ok h' with ⟨hb', -⟩ | ⟨f', hguards', h'⟩
    · exact hb'
    · have hshape : f'.shape = f.shape := Except.ok.inj
        ((deltaGuards_eq_ok hguards').2.symm.trans (deltaGuards_eq_ok hguards).2)
      have hfacts : p.deltaFacts f' = p.deltaFacts f := by
        simp only [PaidInvoice.deltaFacts, hshape]
      refine applyDelta_recorded hfunded hrecords.found ?_ h'
      rw [hfacts]
      exact recordedInvoice_knows b _
  -- granted or blocked, the period slot or the marker now stands in the way
  · split at h
    · exact blockDelta_redelivered hp hselected h rfl rfl h'
    · exact (grantDelta_spent he hp h rfl).unchanged (e := e.redelivered id) h'

/-! ## The whole-period path -/

/-- What a whole-period Invoice records about itself. -/
def PaidInvoice.periodFacts (p : PaidInvoice) (t : PeriodTerms) : InvoiceState where
  invoiceId := p.invoiceId
  accountId := some p.account.id
  amountTotal := t.plan.amount t.interval

/-- The Event pays a whole period whose funding is closed already, it beats the cursor of its
    account, and the intent it closes does not put it on the delta path. -/
def paysClosedPeriod (cfg : Config) (b : Billing) (e : Event) : Bool :=
  (paidInvoiceGuards cfg b e).toOption.any fun p =>
    (proratedTransition b p).isNone && (periodTerms cfg p).toOption.any fun t =>
      (firstSlotGrant b p.invoiceId).isNone && (periodGuards b e p t).toOption.any fun transition =>
        (periodSlots p t (recordedInvoice b (p.periodFacts t))).blocked && wins p.account e &&
          !(p.billingReason = .subscriptionUpdate &&
            transition.any (·.transitionPolicy = .proratedDelta))

theorem paysClosedPeriod_iff :
    paysClosedPeriod cfg b e = true ↔ ∃ p t transition,
      paidInvoiceGuards cfg b e = .ok p ∧ proratedTransition b p = none ∧
      periodTerms cfg p = .ok t ∧ firstSlotGrant b p.invoiceId = none ∧
      periodGuards b e p t = .ok transition ∧
      (periodSlots p t (recordedInvoice b (p.periodFacts t))).blocked = true ∧
      wins p.account e = true ∧
      ¬(p.billingReason = .subscriptionUpdate ∧
        ∃ c, transition = some c ∧ c.transitionPolicy = .proratedDelta) := by
  simp only [paysClosedPeriod, Option.any_eq_true, toOption_eq_some, Bool.and_eq_true,
    Option.isNone_iff_eq_none, Bool.not_eq_true', ← Bool.not_eq_true, decide_eq_true_eq]
  constructor
  · rintro ⟨p, hp, hnone, t, ht, hslot, transition, hguards, ⟨hblocked, hwins⟩, hintent⟩
    exact ⟨p, t, transition, hp, hnone, ht, hslot, hguards, hblocked, hwins, hintent⟩
  · rintro ⟨p, t, transition, hp, hnone, ht, hslot, hguards, hblocked, hwins, hintent⟩
    exact ⟨p, hp, hnone, t, ht, hslot, transition, hguards, ⟨hblocked, hwins⟩, hintent⟩

/-- A blocked period leaves a marker of the account, and closes the intent it would have
    settled. -/
theorem blockPeriod_eq_ok {p : PaidInvoice} {t : PeriodTerms} {transition : Option PlanChange}
    (h : blockPeriod b e p t transition = .ok effect) :
    ∃ marker ledger invoices, marker.accountId = p.account.id ∧
      marker.stripeInvoiceId = some p.invoiceId ∧ marker.grantSlot = some 1 ∧
      b.ledger.insert? marker = some ledger ∧
      match transition with
      | none => effect.billing = { b with ledger := ledger, invoices := invoices }
      | some c => settleTransition { b with ledger := ledger, invoices := invoices } c p.invoiceId
          .failed (some "invoice_funding_closed") = .ok effect.billing := by
  simp only [blockPeriod, bind_eq_ok, Billing.insertLedger, Billing.insert_eq_ok,
    Billing.update_eq_ok, Stored.table, Stored.install] at h
  obtain ⟨_, ⟨ledger, hledger, rfl⟩, _, ⟨invoices, -, rfl⟩, h⟩ := h
  refine ⟨_, ledger, invoices, rfl, rfl, rfl, hledger, ?_⟩
  cases transition with
  | none =>
    simp only [bind_eq_ok, pure_eq_ok] at h
    obtain ⟨_, rfl, rfl⟩ := h
    rfl
  | some transition =>
    simp only [bind_eq_ok, pure_eq_ok] at h
    obtain ⟨_, hsettle, rfl⟩ := h
    exact hsettle

theorem applyPeriod_eq_ok {p : PaidInvoice} {t : PeriodTerms} {transition : Option PlanChange}
    (h : applyPeriod cfg tx b e p t transition = .ok effect) :
    ∃ invoices, Records b (p.periodFacts t) invoices ∧
      if (periodSlots p t (recordedInvoice b (p.periodFacts t))).blocked then
        blockPeriod { b with invoices := invoices } e p t transition = .ok effect
      else
        grantPeriod cfg tx { b with invoices := invoices } e p t
          (periodSlots p t (recordedInvoice b (p.periodFacts t)))
          (recordedInvoice b (p.periodFacts t)) transition = .ok effect := by
  simp only [applyPeriod, bind_eq_ok] at h
  obtain ⟨⟨b₁, state⟩, hrecord, h⟩ := h
  obtain ⟨rfl, invoices, rfl, hrecords⟩ := recordInvoice_eq_ok hrecord
  refine ⟨invoices, hrecords, ?_⟩
  split at h
  case isTrue hblocked => exact (if_pos hblocked).mpr h
  case isFalse hopen => exact (if_neg hopen).mpr h

theorem targetTransition_spec {p : PaidInvoice} {t : PeriodTerms} {c : PlanChange}
    {statuses : PlanChangeStatus → Bool} (h : targetTransition b p t statuses = some c) :
    c ∈ b.planChanges.rows ∧ c.accountId = p.account.id ∧
      p.subscriptionId = some c.stripeSubscriptionId ∧
      (c.settlementInvoiceId = none ∨ c.settlementInvoiceId = some p.invoiceId) ∧
      statuses c.status = true := by
  have hmem := List.mem_filter.1 (newestBy_mem h)
  simp only [Bool.and_eq_true, Bool.or_eq_true, decide_eq_true_eq, Option.isNone_iff_eq_none]
    at hmem
  obtain ⟨hrow, ⟨⟨⟨⟨haccount, hsubscription⟩, -⟩, -⟩, hbound⟩, hstatus⟩ := hmem
  exact ⟨hrow, haccount, hsubscription.symm, hbound, hstatus⟩

/-- The intent a whole-period Invoice needs is one of its target that is free to settle. -/
theorem periodGuards_intent {p : PaidInvoice} {t : PeriodTerms} {c : PlanChange}
    (h : periodGuards b e p t = .ok (some c)) :
    targetTransition b p t PlanChangeStatus.authorizes = some c := by
  simp only [periodGuards, bind_eq_ok, pure_eq_ok] at h
  obtain ⟨_, -, transition, hintent, _, -, _, -, _, -, _, -, _, -, _, -, rfl⟩ := h
  unfold intentGuard at hintent
  split at hintent
  · simp only [bind_eq_ok, fetch_eq_ok, pure_eq_ok] at hintent
    obtain ⟨c', hc, _, -, heq⟩ := hintent
    cases heq
    exact hc
  · rw [pure_eq_ok] at hintent
    cases hintent

/-- Where the blocked period closed a prorated intent, its redelivery takes the delta path. -/
theorem blockPeriod_delta {p : PaidInvoice} {t : PeriodTerms} {c : PlanChange} {b₀ : Billing}
    (hp : paidInvoiceGuards cfg b e = .ok p)
    (hreason : p.billingReason = .subscriptionUpdate)
    (hintent : targetTransition b p t PlanChangeStatus.authorizes = some c)
    (hpolicy : c.transitionPolicy = .proratedDelta)
    (h : blockPeriod b₀ e p t (some c) = .ok effect) (hb₀ : b₀.accounts = b.accounts)
    (hplan : b₀.planChanges = b.planChanges)
    (h' : invoicePaid cfg tx' effect.billing (e.redelivered id) = .ok effect') :
    effect'.billing = effect.billing := by
  -- the blocked period left a marker row and settled the intent with this Invoice
  obtain ⟨marker, ledger, invoices, howner, hinvoice, hslot, hinsert, hsettle⟩ :=
    blockPeriod_eq_ok h
  obtain ⟨planChanges, hb, -, hplans⟩ := settleTransition_eq_ok hsettle
  rw [hb] at h' ⊢
  obtain ⟨hrow, haccount, hsubscription, hbound, -⟩ := targetTransition_spec hintent
  have hp' : paidInvoiceGuards cfg { b₀ with
      ledger := ledger, invoices := invoices, planChanges := planChanges } (e.redelivered id) =
      .ok p := (paidInvoiceGuards_congr hb₀).trans hp
  have hfind := Table.find?_update_self hplans fun _ => rfl
  rw [show b₀.planChanges.find? c.id = some c from hplan ▸ Table.find?_of_mem hrow] at hfind
  -- the settled intent names the Invoice that settled it
  have hsettled : c.settlementInvoiceId.or (some p.invoiceId) = some p.invoiceId := by
    rcases hbound with hnone | hsome
    · rw [hnone, Option.none_or]
    · rw [hsome, Option.some_or]
  -- so the second delivery selects it as prorated, and meets the marker there
  obtain ⟨c', hc'⟩ := proratedTransition_bound (b := { b₀ with
    ledger := ledger, invoices := invoices, planChanges := planChanges }) hreason
    (Table.find?_mem hfind) hsubscription haccount hpolicy hsettled
  have hmarker := Table.find?_mem ((Table.find?_insert hinsert _).trans (if_pos rfl))
  exact invoicePaid_delta_taken hp' hc' hmarker hinvoice hslot h'

/-- A blocked period of an account that is past the Event. -/
theorem blockPeriod_spent {p : PaidInvoice} {t : PeriodTerms} {transition : Option PlanChange}
    {b₀ : Billing} (hp : paidInvoiceGuards cfg b e = .ok p) (hwins : wins p.account e = false)
    (h : blockPeriod b₀ e p t transition = .ok effect) (hb₀ : b₀.accounts = b.accounts) :
    SpentInvoice effect.billing e := by
  obtain ⟨marker, ledger, invoices, howner, hinvoice, hslot, hinsert, hend⟩ := blockPeriod_eq_ok h
  obtain ⟨-, hid, hlock⟩ := paidInvoiceGuards_eq_ok hp
  have hmarked : SpentInvoice { b₀ with ledger := ledger, invoices := invoices } e := by
    refine ⟨marker, ?_, hid ▸ hinvoice, hslot, fun a ha => ?_⟩
    · exact Table.find?_mem ((Table.find?_insert hinsert _).trans (if_pos rfl))
    · have hrow : b₀.accounts.find? p.account.id = some p.account :=
        hb₀ ▸ Table.find?_of_mem (lockAccount_mem hlock)
      rw [howner] at ha
      have : p.account = a := Option.some.inj (hrow.symm.trans ha)
      exact this ▸ hwins
  cases transition with
  | none =>
    simp only at hend
    exact hend ▸ hmarked
  | some c =>
    obtain ⟨planChanges, hb, -⟩ := settleTransition_eq_ok hend
    rw [hb]
    exact hmarked.of_eq rfl rfl

theorem invoicePaidPeriod_redelivered {p : PaidInvoice} (he : e.remoteVerified = false)
    (hclosed : paysClosedPeriod cfg b e = false) (hp : paidInvoiceGuards cfg b e = .ok p)
    (hselected : proratedTransition b p = none)
    (h : invoicePaidPeriod cfg tx b e p = .ok effect)
    (h' : invoicePaid cfg tx' effect.billing (e.redelivered id) = .ok effect') :
    effect'.billing = effect.billing := by
  -- with the same database the second delivery takes the period path too
  have hagain : invoicePaid cfg tx' b (e.redelivered id) =
      invoicePaidPeriod cfg tx' b (e.redelivered id) p := by
    rw [invoicePaid_eq (e := e.redelivered id) hp]
    simp only [hselected]
  rcases Guarded.andThen_eq_ok h with ⟨hb, hstop⟩ | ⟨t, ht, h⟩
  · rw [hb] at h' ⊢
    exact Guarded.andThen_stops hstop rfl (hagain ▸ h')
  -- the slot of the period decides what is left for the second delivery
  cases hslot : firstSlotGrant b p.invoiceId with
  | some existing =>
    simp only [hslot] at h
    -- a replay of the account's own slot; a foreign slot is refused twice
    by_cases howner : existing.accountId = p.account.id
    · exact (replayPeriod_spent he hp hslot howner h).unchanged (e := e.redelivered id) h'
    · rw [replayPeriod_unchanged (fun heq => absurd heq howner) h] at h' ⊢
      rw [hagain, invoicePaidPeriod, ht] at h'
      simp only [Guarded.andThen, hslot] at h'
      exact replayPeriod_unchanged (fun heq => absurd heq howner) h'
  | none =>
    simp only [hslot] at h
    rcases Guarded.andThen_eq_ok h with ⟨hb, hstop⟩ | ⟨transition, hguards, h⟩
    · rw [hb] at h' ⊢
      rw [hagain, invoicePaidPeriod, ht] at h'
      simp only [Guarded.andThen, hslot] at h'
      exact Guarded.andThen_stops hstop rfl h'
    -- a granted period leaves its slot behind, a blocked one only a marker
    · obtain ⟨invoices, -, h⟩ := applyPeriod_eq_ok h
      split at h
      case isTrue hblocked =>
        by_cases hdelta : p.billingReason = .subscriptionUpdate ∧
            ∃ c, transition = some c ∧ c.transitionPolicy = .proratedDelta
        · obtain ⟨hreason, c, rfl, hpolicy⟩ := hdelta
          exact blockPeriod_delta hp hreason (periodGuards_intent hguards) hpolicy h rfl rfl h'
        · -- the marker does not advance the cursor, so the Event must not beat it
          have hwins : wins p.account e = false := by
            rw [← Bool.not_eq_true] at hclosed ⊢
            exact fun hwins => hclosed (paysClosedPeriod_iff.2
              ⟨p, t, transition, hp, hselected, ht, hslot, hguards, hblocked, hwins, hdelta⟩)
          exact (blockPeriod_spent hp hwins h rfl).unchanged (e := e.redelivered id) h'
      case isFalse =>
        exact (grantPeriod_spent he hp h rfl).unchanged (e := e.redelivered id) h'

/-- **Outside the blocked branch** a second delivery of a paid Invoice changes nothing. -/
theorem invoicePaid_redelivered (he : e.remoteVerified = false)
    (hclosed : paysClosedPeriod cfg b e = false)
    (h : invoicePaid cfg tx b e = .ok effect)
    (h' : invoicePaid cfg tx' effect.billing (e.redelivered id) = .ok effect') :
    effect'.billing = effect.billing := by
  rcases Guarded.andThen_eq_ok h with ⟨hb, hstop⟩ | ⟨p, hp, h⟩
  · rw [hb] at h' ⊢
    exact Guarded.andThen_stops hstop rfl h'
  split at h
  case h_1 transition hselected =>
    exact invoicePaidProratedDelta_redelivered he hp hselected h h'
  case h_2 hselected => exact invoicePaidPeriod_redelivered he hclosed hp hselected h h'

/-! ## After the blocked branch -/

/-- A prorated intent stays unselected when another intent of the account is closed. -/
theorem settleTransition_unselected {p : PaidInvoice} {c : PlanChange}
    {planChanges : Table PlanChange} {f : PlanChange → PlanChange}
    (hselected : proratedTransition b p = none)
    (hplans : b.planChanges.update? c.id f = some planChanges)
    (hrow : c ∈ b.planChanges.rows) (hf : (f c).transitionPolicy = c.transitionPolicy)
    (hdelta : ¬(p.billingReason = .subscriptionUpdate ∧ c.transitionPolicy = .proratedDelta)) :
    proratedTransition { b with planChanges := planChanges } p = none := by
  -- the selection is over the pending delta intents, so a settled one of another policy is not in
  -- it
  unfold proratedTransition at hselected ⊢
  split
  case h_1 subscriptionId hreason hsubscription =>
    simp only [hreason, hsubscription, newestBy_eq_none, Table.select,
      List.filter_eq_nil_iff] at hselected ⊢
    intro r hr hkey
    rw [Table.update?_eq_some.1 hplans] at hr
    obtain ⟨r₀, hr₀, heq⟩ := List.mem_map.1 hr
    split at heq
    case isTrue hid =>
      have : r₀ = c := b.planChanges.eq_of_key_eq hr₀ hrow hid
      subst this heq
      simp only [Bool.and_eq_true, decide_eq_true_eq, hf] at hkey
      exact hdelta ⟨hreason, hkey.1.2⟩
    case isFalse =>
      subst heq
      exact hselected r₀ hr₀ hkey
  case h_2 => rfl

/-- **After the blocked branch** the second delivery takes the order of the Event and projects
    the paid status. -/
theorem invoicePaid_blocked (he : e.remoteVerified = false)
    (hclosed : paysClosedPeriod cfg b e = true) (h : invoicePaid cfg tx b e = .ok effect) :
    ∃ effect', invoicePaid cfg tx' effect.billing (e.redelivered id) = .ok effect' ∧
      effect'.incidents = [] ∧ effect'.billing ≠ effect.billing := by
  obtain ⟨p, t, transition, hp, hselected, ht, hslot, hguards, hblocked, hwins, hdelta⟩ :=
    paysClosedPeriod_iff.1 hclosed
  obtain ⟨-, hid, hlock⟩ := paidInvoiceGuards_eq_ok hp
  rw [invoicePaid_eq hp] at h
  simp only [hselected, invoicePaidPeriod, ht, Guarded.andThen, hslot, hguards] at h
  obtain ⟨invoices, -, h⟩ := applyPeriod_eq_ok h
  rw [if_pos hblocked] at h
  obtain ⟨marker, ledger, invoices', howner, hinvoice, hfirst, hinsert, hend⟩ :=
    blockPeriod_eq_ok h
  -- what the first delivery left of the tables the second one reads
  have hafter : effect.billing.accounts = b.accounts ∧ effect.billing.ledger = ledger ∧
      proratedTransition effect.billing p = none := by
    cases transition with
    | none =>
      simp only at hend
      rw [hend]
      exact ⟨rfl, rfl, hselected⟩
    | some c =>
      obtain ⟨planChanges, hb, -, hplans⟩ := settleTransition_eq_ok hend
      rw [hb]
      obtain ⟨hrow, -⟩ := targetTransition_spec (periodGuards_intent hguards)
      exact ⟨rfl, rfl, settleTransition_unselected hselected hplans hrow rfl
        fun hd => hdelta ⟨hd.1, c, rfl, hd.2⟩⟩
  obtain ⟨haccounts, hledger, hstill⟩ := hafter
  have htaken : firstSlotGrant effect.billing p.invoiceId = some marker := by
    refine firstSlotGrant_of_mem ?_ hinvoice hfirst
    rw [hledger]
    exact Table.find?_mem ((Table.find?_insert hinsert _).trans (if_pos rfl))
  have hrow : effect.billing.accounts.find? p.account.id = some p.account :=
    haccounts ▸ Table.find?_of_mem (lockAccount_mem hlock)
  let f : Account → Account := fun a =>
    { a with
      eventCreated := (projectionOrder p.account e).1
      eventRank := (projectionOrder p.account e).2
      subscriptionStatus := .active }
  obtain ⟨accounts, hupdate⟩ : ∃ accounts,
      effect.billing.accounts.update? p.account.id f = some accounts := by
    refine Table.update?_isSome (fun _ => rfl) (fun _ => rfl) fun ix hix r => ?_
    simp only [Relation.indexes, List.mem_cons, List.not_mem_nil, or_false] at hix
    rcases hix with rfl | rfl | rfl <;> rfl
  refine ⟨{ billing := { effect.billing with accounts := accounts }, result := p.replayed },
    ?_, rfl, fun heq => ?_⟩
  · have hp' : paidInvoiceGuards cfg effect.billing (e.redelivered id) = .ok p :=
      (paidInvoiceGuards_congr haccounts).trans hp
    have hprojection : effect.billing.update p.account.id f =
        .ok { effect.billing with accounts := accounts } :=
      Billing.update_eq_ok.2 ⟨accounts, hupdate, rfl⟩
    rw [invoicePaid_eq hp']
    simp only [hstill, invoicePaidPeriod, ht, Guarded.andThen, htaken, replayPeriod, replayOwner,
      howner, decide_true, require, if_true, wins_redelivered, hwins]
    change (effect.billing.update p.account.id f >>= fun b => pure _) = _
    rw [hprojection]
    rfl
  · -- the cursor of the account moved
    have hfind := Table.find?_update_self hupdate fun _ => rfl
    have hsame : accounts = effect.billing.accounts := congrArg Billing.accounts heq
    rw [hsame, hrow, Option.map_some, Option.some.injEq] at hfind
    have hcursor : p.account.cursor = projectionOrder p.account e := by
      conv_lhs => rw [hfind]
      rfl
    simp only [wins, he, Bool.false_eq_true, if_false, eventWins] at hwins
    rw [projectionOrder, if_pos hwins] at hcursor
    rw [hcursor] at hwins
    simp [cursorLt] at hwins

end StripeEntitlements
