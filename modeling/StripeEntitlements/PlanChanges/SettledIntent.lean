import StripeEntitlements.PlanChanges.Settleable

/-!
# The Intent of a Paid Invoice

A paid Invoice settles one intent. Three selections choose it: the prorated one, the one that a
plan change needs, and the one that a granted period completes along the way.

## Main results

- `settledIntent` — the intent that an accepted Invoice settles
- `invoicePaid_settles` — no other row of the plan changes is written
- `settledIntent_spec` — what the selections say about the row they find
- `process_moves` — an account moves to the target of the settled intent
-/

namespace StripeEntitlements

open Relational

variable {cfg : Config} {tx : Tx} {b b' : Billing} {e : Event} {effect : Effect}
  {p : PaidInvoice} {c r : PlanChange}

/-! ## The settled intent -/

/-- The intent that an Invoice settles, once it has passed the guards of its path. -/
def PaidInvoice.selectedIntent (cfg : Config) (b : Billing) (e : Event) (p : PaidInvoice) :
    Option PlanChange :=
  match proratedTransition b p with
  | some c => (deltaGuards cfg b p c).toOption.map fun _ => c
  | none => do
      let t ← (periodTerms cfg p).toOption
      let transition ← ((periodGuards b e p t).toOption).filter fun _ =>
        (firstSlotGrant b p.invoiceId).isNone
      transition.or (targetTransition b p t PlanChangeStatus.settlesAlong)

/-- The accepted Invoice of a paid Event, and the intent it settles. -/
def settledIntent (cfg : Config) (b : Billing) (e : Event) : Option (PaidInvoice × PlanChange) := do
  let p ← (paidInvoiceGuards cfg b e).toOption
  let c ← p.selectedIntent cfg b e
  pure (p, c)

theorem settledIntent_eq_some :
    settledIntent cfg b e = some (p, c) ↔
      paidInvoiceGuards cfg b e = .ok p ∧ p.selectedIntent cfg b e = some c := by
  simp [settledIntent, Option.bind_eq_some_iff, toOption_eq_some]

/-- An Invoice that selects no intent settles none. -/
theorem settledIntent_eq_none
    (h : ∀ p, paidInvoiceGuards cfg b e = .ok p → ∀ c, p.selectedIntent cfg b e ≠ some c) :
    settledIntent cfg b e = none := by
  refine Option.eq_none_iff_forall_ne_some.2 fun ⟨p, c⟩ hsome => ?_
  obtain ⟨hp, hc⟩ := settledIntent_eq_some.1 hsome
  exact h p hp c hc

/-- An Invoice on the delta path settles the intent that led it there. -/
theorem selectedIntent_delta (h : proratedTransition b p = some r) :
    p.selectedIntent cfg b e = some c ↔ c = r ∧ ∃ f, deltaGuards cfg b p r = .ok f := by
  unfold PaidInvoice.selectedIntent
  simp only [h]
  constructor
  · intro hselected
    obtain ⟨f, hf, rfl⟩ := Option.map_eq_some_iff.1 hselected
    exact ⟨rfl, f, toOption_eq_some.1 hf⟩
  · rintro ⟨rfl, f, hf⟩
    rw [hf]
    rfl

/-- An Invoice of a whole period settles the intent it needs, or one it meets on the way. -/
theorem selectedIntent_period (h : proratedTransition b p = none) :
    p.selectedIntent cfg b e = some c ↔
      ∃ t transition, periodTerms cfg p = .ok t ∧ firstSlotGrant b p.invoiceId = none ∧
        periodGuards b e p t = .ok transition ∧
        transition.or (targetTransition b p t PlanChangeStatus.settlesAlong) = some c := by
  unfold PaidInvoice.selectedIntent
  simp only [h, Option.bind_eq_bind, Option.bind_eq_some_iff, toOption_eq_some,
    Option.filter_eq_some_iff, Option.isNone_iff_eq_none]
  constructor
  · rintro ⟨t, ht, transition, ⟨hguards, hfree⟩, hc⟩
    exact ⟨t, transition, ht, hfree, hguards, hc⟩
  · rintro ⟨t, transition, ht, hfree, hguards, hc⟩
    exact ⟨t, ht, transition, ⟨hguards, hfree⟩, hc⟩

/-! ## The rows it writes -/

theorem targetTransition_congr {t : PeriodTerms} {statuses : PlanChangeStatus → Bool}
    (h : b'.planChanges = b.planChanges) :
    targetTransition b' p t statuses = targetTransition b p t statuses := by
  simp only [targetTransition, h]

/-- What a paid Invoice does to the intents: it writes the one it settles, if there is one. -/
inductive IntentSettlement (cfg : Config) (b : Billing) (e : Event) (effect : Effect) : Prop
  | kept (h : effect.billing.planChanges = b.planChanges)
      (hnone : effect.result.outcome = .handled → settledIntent cfg b e = none)
  | settled {p : PaidInvoice} {c : PlanChange} {f : PlanChange → PlanChange}
      (h : settledIntent cfg b e = some (p, c))
      (hupdate : b.planChanges.update? c.id f = some effect.billing.planChanges)
      (hid : ∀ x : PlanChange, (f x).id = x.id)
      (hstatus : effect.result.outcome = .handled → (f c).status = .completed)

theorem applyDelta_settles {f : DeltaFunding} (hp : paidInvoiceGuards cfg b e = .ok p)
    (hselected : proratedTransition b p = some c) (hguards : deltaGuards cfg b p c = .ok f)
    (h : applyDelta tx b e p c f = .ok effect) : IntentSettlement cfg b e effect := by
  have hintent : settledIntent cfg b e = some (p, c) :=
    settledIntent_eq_some.2 ⟨hp, (selectedIntent_delta hselected).2 ⟨rfl, f, hguards⟩⟩
  -- an Invoice with an allocation is refused, a closed one fails its intent, any other completes it
  simp only [applyDelta, bind_eq_ok] at h
  obtain ⟨⟨b₁, state⟩, hrecord, h⟩ := h
  obtain ⟨-, invoices, rfl, -⟩ := recordInvoice_eq_ok hrecord
  split at h
  · rw [pure_eq_ok] at h
    subst h
    exact .kept rfl fun hhandled => by cases hhandled
  rw [bind_eq_ok] at h
  obtain ⟨b₂, hinsert, h⟩ := h
  rw [Billing.insert_eq_ok] at hinsert
  obtain ⟨fundings, -, rfl⟩ := hinsert
  split at h
  · simp only [blockDelta, bind_eq_ok, Billing.update_eq_ok, Billing.insertLedger,
      Billing.insert_eq_ok, pure_eq_ok] at h
    obtain ⟨_, ⟨ledger, -, rfl⟩, _, ⟨invoices', -, rfl⟩, _, ⟨planChanges, hupdate, rfl⟩, rfl⟩ := h
    exact .settled hintent hupdate (fun _ => rfl) fun hhandled => by cases hhandled
  · simp only [grantDelta, bind_eq_ok, Billing.update_eq_ok, Billing.insertLedger,
      Billing.insert_eq_ok, pure_eq_ok] at h
    obtain ⟨_, -, _, ⟨accounts, -, rfl⟩, _, ⟨ledger, -, rfl⟩, _, ⟨invoices', -, rfl⟩, b₂, hsettle,
      _, ⟨planChanges, hupdate, rfl⟩, rfl⟩ := h
    simp only [Stored.table, (settleDelta_settlement hsettle).planChanges, Stored.install]
      at hupdate
    exact .settled hintent hupdate (fun _ => rfl) fun _ => rfl

theorem applyPeriod_settles {t : PeriodTerms} {transition : Option PlanChange}
    (hp : paidInvoiceGuards cfg b e = .ok p) (hselected : proratedTransition b p = none)
    (ht : periodTerms cfg p = .ok t) (hfree : firstSlotGrant b p.invoiceId = none)
    (hguards : periodGuards b e p t = .ok transition)
    (h : applyPeriod cfg tx b e p t transition = .ok effect) :
    IntentSettlement cfg b e effect := by
  have hselects : ∀ c, transition.or (targetTransition b p t PlanChangeStatus.settlesAlong) =
      some c → settledIntent cfg b e = some (p, c) := fun c hc =>
    settledIntent_eq_some.2
      ⟨hp, (selectedIntent_period hselected).2 ⟨t, transition, ht, hfree, hguards, hc⟩⟩
  obtain ⟨invoices, -, h⟩ := applyPeriod_eq_ok h
  split at h
  -- a blocked period fails the intent it needed, and leaves any other alone
  · simp only [blockPeriod, bind_eq_ok, Billing.update_eq_ok, Billing.insertLedger,
      Billing.insert_eq_ok] at h
    obtain ⟨_, ⟨ledger, -, rfl⟩, _, ⟨invoices', -, rfl⟩, h⟩ := h
    cases transition with
    | none =>
      simp only [bind_eq_ok, pure_eq_ok] at h
      obtain ⟨_, rfl, rfl⟩ := h
      exact .kept rfl fun hhandled => by cases hhandled
    | some c =>
      simp only [bind_eq_ok, pure_eq_ok] at h
      obtain ⟨b₂, hsettle, rfl⟩ := h
      obtain ⟨planChanges, rfl, -, hupdate⟩ := settleTransition_eq_ok hsettle
      exact .settled (hselects c rfl) hupdate (fun _ => rfl) fun hhandled => by cases hhandled
  -- a granted one completes the intent it needed, or the one it meets
  · simp only [grantPeriod, bind_eq_ok, Billing.update_eq_ok, Billing.insertLedger,
      Billing.insert_eq_ok] at h
    obtain ⟨_, ⟨accounts, -, rfl⟩, _, ⟨ledger, -, rfl⟩, _, ⟨invoices', -, rfl⟩, b₂, hsettle,
      hcomplete⟩ := h
    have hsame : b₂.planChanges = b.planChanges := (settlePeriod_settlement hsettle).planChanges
    simp only [completeTransition, targetTransition_congr hsame] at hcomplete
    split at hcomplete
    case h_1 hnone =>
      rw [pure_eq_ok] at hcomplete
      subst hcomplete
      refine .kept hsame fun _ => settledIntent_eq_none fun p' hp' c hc => ?_
      cases hp.symm.trans hp'
      obtain ⟨t', transition', ht', -, hguards', hc'⟩ := (selectedIntent_period hselected).1 hc
      cases ht.symm.trans ht'
      cases hguards.symm.trans hguards'
      rw [hnone] at hc'
      cases hc'
    case h_2 c hc =>
      simp only [bind_eq_ok, pure_eq_ok] at hcomplete
      obtain ⟨b₃, hsettled, rfl⟩ := hcomplete
      obtain ⟨planChanges, rfl, -, hupdate⟩ := settleTransition_eq_ok hsettled
      rw [hsame] at hupdate
      exact .settled (hselects c hc) hupdate (fun _ => rfl) fun _ => rfl

/-- **A paid Invoice** writes the intent it settles, and no other row of the plan changes. -/
theorem invoicePaid_settles (h : invoicePaid cfg tx b e = .ok effect) :
    IntentSettlement cfg b e effect := by
  -- wherever a guard stops the Invoice, nothing is written and no intent is settled
  rcases Guarded.andThen_eq_ok h with ⟨hb, hstopped⟩ | ⟨p, hp, h⟩
  · exact .kept (hb ▸ rfl) fun _ => settledIntent_eq_none fun p hp => absurd hp (hstopped p)
  have hunselected : effect.billing.planChanges = b.planChanges →
      (∀ c, p.selectedIntent cfg b e ≠ some c) → IntentSettlement cfg b e effect := by
    intro hkept hnone
    refine .kept hkept fun _ => settledIntent_eq_none fun p' hp' => ?_
    cases hp.symm.trans hp'
    exact hnone
  split at h
  case h_1 c hselected =>
    rcases Guarded.andThen_eq_ok h with ⟨hb, hstopped⟩ | ⟨f, hguards, h⟩
    · refine hunselected (hb ▸ rfl) fun c' hc' => ?_
      obtain ⟨-, f, hf⟩ := (selectedIntent_delta hselected).1 hc'
      exact hstopped f hf
    · exact applyDelta_settles hp hselected hguards h
  case h_2 hselected =>
    rcases Guarded.andThen_eq_ok h with ⟨hb, hstopped⟩ | ⟨t, ht, h⟩
    · refine hunselected (hb ▸ rfl) fun c hc => ?_
      obtain ⟨t, -, ht, -⟩ := (selectedIntent_period hselected).1 hc
      exact hstopped t ht
    split at h
    case h_1 existing hslot =>
      have htaken : ∀ c, p.selectedIntent cfg b e ≠ some c := by
        intro c hc
        obtain ⟨-, -, -, hfree, -⟩ := (selectedIntent_period hselected).1 hc
        rw [hslot] at hfree
        cases hfree
      rcases Guarded.andThen_eq_ok h with ⟨hb, -⟩ | ⟨_, -, h⟩
      · exact hunselected (hb ▸ rfl) htaken
      -- the replay may project the paid status, on the account alone
      split at h
      · simp only [bind_eq_ok, Billing.update_eq_ok, pure_eq_ok] at h
        obtain ⟨_, ⟨accounts, -, rfl⟩, rfl⟩ := h
        exact hunselected rfl htaken
      · simp only [bind_eq_ok, pure_eq_ok] at h
        obtain ⟨_, rfl, rfl⟩ := h
        exact hunselected rfl htaken
    case h_2 hfree =>
      rcases Guarded.andThen_eq_ok h with ⟨hb, hstopped⟩ | ⟨transition, hguards, h⟩
      · refine hunselected (hb ▸ rfl) fun c hc => ?_
        obtain ⟨t', transition, ht', -, hguards, -⟩ := (selectedIntent_period hselected).1 hc
        cases ht.symm.trans ht'
        exact hstopped transition hguards
      · exact applyPeriod_settles hp hselected ht hfree hguards h

/-! ## What the selections say -/

/-- The Invoice of a paid Event. -/
def Event.invoiceId (e : Event) : String := (e.object.get "id").text

theorem PlanChangeStatus.awaitsInvoice_authorizes {s : PlanChangeStatus}
    (h : s.awaitsInvoice = true) : s.authorizes = true := by
  cases s <;> first | rfl | cases h

theorem PlanChangeStatus.settlesAlong_authorizes {s : PlanChangeStatus}
    (h : s.settlesAlong = true) : s.authorizes = true := by
  cases s <;> first | rfl | cases h

/-- The prorated selection asks for a status only of a row that is not bound yet. -/
theorem proratedTransition_authority (h : proratedTransition b p = some c) :
    c.settlementInvoiceId = some p.invoiceId ∨
      (c.settlementInvoiceId = none ∧ c.status.authorizes = true) := by
  unfold proratedTransition at h
  split at h
  case h_1 =>
    have hmem := List.mem_filter.1 (newestBy_mem h)
    simp only [Bool.and_eq_true, Bool.or_eq_true, decide_eq_true_eq, Option.isNone_iff_eq_none]
      at hmem
    obtain ⟨-, -, hbound | ⟨⟨hunbound, -⟩, hstatus⟩⟩ := hmem
    · exact .inl hbound
    · exact .inr ⟨hunbound, PlanChangeStatus.awaitsInvoice_authorizes hstatus⟩
  case h_2 => cases h

/-- The intent of a whole period is one of its target, whichever selection found it. -/
theorem periodIntent_spec {t : PeriodTerms} {transition : Option PlanChange}
    (hguards : periodGuards b e p t = .ok transition)
    (h : transition.or (targetTransition b p t PlanChangeStatus.settlesAlong) = some c) :
    ∃ statuses : PlanChangeStatus → Bool, targetTransition b p t statuses = some c ∧
      ∀ s, statuses s = true → s.authorizes = true := by
  cases transition with
  | some c' =>
    cases h
    exact ⟨_, periodGuards_intent hguards, fun _ hs => hs⟩
  | none => exact ⟨_, h, fun _ => PlanChangeStatus.settlesAlong_authorizes⟩

/-- What the selections say about the intent they find. -/
theorem settledIntent_spec (h : settledIntent cfg b e = some (p, c)) :
    p.invoiceId = e.invoiceId ∧ c ∈ b.planChanges.rows ∧ c.accountId = p.account.id ∧
      (c.settlementInvoiceId = some p.invoiceId ∨ c.settlementInvoiceId = none) ∧
      (c.settlementInvoiceId = none → c.status.authorizes = true) := by
  obtain ⟨hp, hc⟩ := settledIntent_eq_some.1 h
  refine ⟨(paidInvoiceGuards_eq_ok hp).2.1, ?_⟩
  cases hselected : proratedTransition b p with
  | some r =>
    obtain ⟨rfl, -⟩ := (selectedIntent_delta hselected).1 hc
    obtain ⟨-, -, hrow, haccount, -⟩ := proratedTransition_spec hselected
    have hauthority := proratedTransition_authority hselected
    refine ⟨hrow, haccount, hauthority.imp id And.left, fun hunbound => ?_⟩
    rcases hauthority with hbound | ⟨-, hstatus⟩
    · rw [hunbound] at hbound
      cases hbound
    · exact hstatus
  | none =>
    obtain ⟨t, transition, -, -, hguards, hc⟩ := (selectedIntent_period hselected).1 hc
    obtain ⟨statuses, htarget, hstatuses⟩ := periodIntent_spec hguards hc
    obtain ⟨hrow, haccount, -, hbound, hstatus⟩ := targetTransition_spec htarget
    exact ⟨hrow, haccount, hbound.symm, fun _ => hstatuses _ hstatus⟩

/-! ## The processed Event -/

/-- A handled Event is the work of its handler. -/
theorem process_handled {db db' : Db} {result : ProcessResult}
    (h : process cfg tx db e = .ok (db', result)) (hhandled : result.outcome = .handled) :
    ∃ effect, dispatch cfg tx db.billing e = .ok effect ∧ db'.billing = effect.billing ∧
      effect.result.outcome = .handled := by
  -- each stop of the processor answers otherwise
  unfold process at h
  split at h
  · cases h
    cases hhandled
  split at h
  · cases h
    cases hhandled
  split at h
  · cases h
    cases hhandled
  split at h
  · cases h
    cases hhandled
  simp only [bind_eq_ok, pure_eq_ok] at h
  obtain ⟨effect, hclaimed, incidents, -, inbox, -, heq⟩ := h
  cases heq
  unfold processClaimed at hclaimed
  split at hclaimed
  · cases hclaimed
    cases hhandled
  split at hclaimed
  · cases hclaimed
    cases hhandled
  · exact ⟨effect, hclaimed, rfl, hhandled⟩

/-- A processed Invoice writes the intent it settles, or none. -/
theorem process_settles {db db' : Db} {result : ProcessResult} (hkind : e.kind = .invoicePaid)
    (h : process cfg tx db e = .ok (db', result)) :
    db'.billing.planChanges = db.billing.planChanges ∨ ∃ p c f,
      settledIntent cfg db.billing e = some (p, c) ∧ (∀ x : PlanChange, (f x).id = x.id) ∧
      db.billing.planChanges.update? c.id f = some db'.billing.planChanges := by
  rcases process_billing h with hb | ⟨effect, hdispatch, hb⟩
  · exact .inl (hb ▸ rfl)
  rw [dispatch, hkind] at hdispatch
  rw [hb]
  cases invoicePaid_settles hdispatch with
  | kept hkept _ => exact .inl hkept
  | settled hc hupdate hid _ => exact .inr ⟨_, _, _, hc, hid, hupdate⟩

/-- A handled Invoice completes the intent it settles. -/
theorem process_completes {db db' : Db} {result : ProcessResult} (hkind : e.kind = .invoicePaid)
    (h : process cfg tx db e = .ok (db', result)) (hhandled : result.outcome = .handled)
    (hc : settledIntent cfg db.billing e = some (p, c)) :
    ∃ c' ∈ db'.billing.planChanges.rows, c'.id = c.id ∧ c'.status = .completed := by
  obtain ⟨effect, hdispatch, hb, hhandled⟩ := process_handled h hhandled
  rw [dispatch, hkind] at hdispatch
  rw [hb]
  cases invoicePaid_settles hdispatch with
  | kept _ hnone =>
    rw [hnone hhandled] at hc
    cases hc
  | settled hc' hupdate hid hstatus =>
    cases hc.symm.trans hc'
    refine ⟨_, ?_, hid c, hstatus hhandled⟩
    rw [Table.update?_eq_some.1 hupdate]
    exact List.mem_map.2 ⟨c, (settledIntent_spec hc).2.1, if_pos rfl⟩

theorem paidInvoiceGuards_reason (h : paidInvoiceGuards cfg b e = .ok p) :
    (e.object.get "billing_reason").asStr.bind BillingReason.parse = some p.billingReason := by
  simp only [paidInvoiceGuards, bind_eq_ok, fetch_eq_ok, require_eq_ok] at h
  obtain ⟨_, -, _, -, _, -, reason, hreason, h⟩ := h
  split at h
  all_goals
    simp only [bind_eq_ok, require_eq_ok, pure_eq_ok] at h
    obtain ⟨_, -, _, -, _, -, _, -, rfl⟩ := h
    exact hreason

theorem BillingReason.parse_create {text : String}
    (h : BillingReason.parse text = some .subscriptionCreate) : text = "subscription_create" := by
  unfold BillingReason.parse at h
  split at h
  · rfl
  all_goals cases h

/-- A period that moves the plan outside a first Invoice has the intent it needs. -/
theorem periodGuards_moves {t : PeriodTerms} {transition : Option PlanChange}
    (h : periodGuards b e p t = .ok transition) (hreason : p.billingReason ≠ .subscriptionCreate)
    (hmoved : ¬(t.plan.key = p.account.planKey ∧ some t.interval = p.account.planInterval)) :
    ∃ c, transition = some c := by
  have hneeds : needsIntent p t = true := by
    cases hp : p.billingReason with
    | subscriptionCreate => exact absurd hp hreason
    | subscriptionCycle =>
      rw [not_and_or] at hmoved
      simpa [needsIntent, hp] using hmoved
    | subscriptionUpdate => simp [needsIntent, hp]
  simp only [periodGuards, bind_eq_ok, pure_eq_ok] at h
  obtain ⟨_, -, transition, hintent, _, -, _, -, _, -, _, -, _, -, _, -, rfl⟩ := h
  rw [intentGuard, if_pos hneeds] at hintent
  simp only [bind_eq_ok, pure_eq_ok] at hintent
  obtain ⟨c, -, _, -, rfl⟩ := hintent
  exact ⟨c, rfl⟩

/-- An intent is selected for the plan and the interval that the period pays. -/
theorem targetTransition_target {t : PeriodTerms} {statuses : PlanChangeStatus → Bool}
    (h : targetTransition b p t statuses = some c) :
    c.targetPlanKey = t.plan.key ∧ c.targetInterval = t.interval := by
  have hmem := List.mem_filter.1 (newestBy_mem h)
  simp only [Bool.and_eq_true, decide_eq_true_eq] at hmem
  obtain ⟨-, ⟨⟨⟨-, htarget⟩, hinterval⟩, -⟩, -⟩ := hmem
  exact ⟨htarget, hinterval⟩

/-- A delta Invoice pays the monthly target of its intent. -/
theorem deltaGuards_target {f : DeltaFunding} (h : deltaGuards cfg b p c = .ok f) :
    f.shape.targetPlan.key = c.targetPlanKey ∧ c.targetInterval = .month := by
  have hshape := (deltaGuards_eq_ok h).2
  refine ⟨?_, ?_⟩
  · have hfound := (parseProratedDeltaShape_spec hshape).2.1
    simpa using List.find?_some hfound
  · simp only [parseProratedDeltaShape, bind_eq_ok, require_eq_ok, Bool.and_eq_true,
      decide_eq_true_eq] at hshape
    obtain ⟨_, -, _, -, _, -, _, -, _, ⟨⟨-, hmonth⟩, -⟩, -⟩ := hshape
    exact hmonth

/-- The plan that a paid Event moves an account to is the target of the settled intent. -/
theorem process_moves {db db' : Db} {result : ProcessResult} {k : String} {a a' : Account}
    (hkind : e.kind = .invoicePaid) (h : process cfg tx db e = .ok (db', result))
    (hreason : (e.object.get "billing_reason").asStr ≠ some "subscription_create")
    (ha : db.billing.accounts.find? k = some a) (ha' : db'.billing.accounts.find? k = some a')
    (hmoved : (a'.planKey, a'.planInterval) ≠ (a.planKey, a.planInterval)) :
    ∃ p c, settledIntent cfg db.billing e = some (p, c) ∧ c.accountId = k ∧
      a'.planKey = c.targetPlanKey ∧ a'.planInterval = some c.targetInterval := by
  have hid : a.id = k := Table.find?_key ha
  rcases process_account h ha ha' with hstatic | ⟨-, hprojected⟩
  · have hkey := congrArg Account.planKey hstatic
    have hinterval := congrArg Account.planInterval hstatic
    exact absurd (Prod.ext hkey hinterval) hmoved
  -- only a period and a delta write a plan
  cases hprojected with
  | customer => exact absurd rfl hmoved
  | marked => exact absurd rfl hmoved
  | replayed => exact absurd rfl hmoved
  | @period p t transition balance _ hp hintent ht hfree hguards hopen =>
    have hcreate : p.billingReason ≠ .subscriptionCreate := by
      intro hp'
      have hparse := paidInvoiceGuards_reason hp
      rw [hp'] at hparse
      obtain ⟨text, htext, hparse⟩ := Option.bind_eq_some_iff.1 hparse
      exact hreason (htext.trans (congrArg some (BillingReason.parse_create hparse)))
    obtain ⟨c, rfl⟩ := periodGuards_moves hguards hcreate fun ⟨hkey, hinterval⟩ =>
      hmoved (Prod.ext hkey hinterval)
    obtain ⟨htarget, hinterval⟩ := targetTransition_target (periodGuards_intent hguards)
    obtain ⟨-, haccount, -⟩ := targetTransition_spec (periodGuards_intent hguards)
    refine ⟨p, c, settledIntent_eq_some.2 ⟨hp, ?_⟩, haccount.trans hid, htarget.symm,
      congrArg some hinterval.symm⟩
    exact (selectedIntent_period hintent).2 ⟨t, some c, ht, hfree, hguards, rfl⟩
  | @delta p c f newBalance balance _ hp hintent hguards =>
    obtain ⟨htarget, hmonth⟩ := deltaGuards_target hguards
    obtain ⟨-, -, -, haccount, -⟩ := proratedTransition_spec hintent
    refine ⟨p, c, settledIntent_eq_some.2 ⟨hp, ?_⟩, haccount.trans hid, htarget,
      congrArg some hmonth.symm⟩
    exact (selectedIntent_delta hintent).2 ⟨rfl, f, hguards⟩
  | renewal hkind' => rw [hkind] at hkind'; cases hkind'
  | updated hkind' => rw [hkind] at hkind'; cases hkind'
  | deleted hkind' => rw [hkind] at hkind'; cases hkind'
  | completed hkind' => rw [hkind] at hkind'; cases hkind'
  | clawed hkind' => rw [hkind] at hkind'; rcases hkind' with hkind' | hkind' <;> cases hkind'

end StripeEntitlements
