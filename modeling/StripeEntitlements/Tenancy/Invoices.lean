import StripeEntitlements.Annual
import StripeEntitlements.Identity.Guards
import StripeEntitlements.Redelivery.Clawbacks
import StripeEntitlements.Tenancy.Credits

/-!
# Invoice Handlers Act for One Account

Paid Invoices, clawbacks and annual grants merge facts into an Invoice row by an upsert. The
row is adopted when it has no owner yet; the ownership checks before the upsert exclude every
other account, and so the grants and funding allocations of the Invoice stay with its owner.

## Main results

- `recordInvoice_acts` — the upsert adopts an unowned Invoice and no other
- `invoicePaid_acts`, `clawback_acts`, `grantDue_acts`
-/

namespace StripeEntitlements

open Relational

variable {cfg : Config} {tx : Tx} {b b' : Billing} {e : Event} {effect : Effect}

/-! ## The Invoice upsert -/

/-- Facts go to an Invoice of their account or to one without an owner. -/
theorem recordInvoice_acts {facts state : InvoiceState} (hb : Ownership b)
    (h : recordInvoice b facts = .ok (b', state))
    (hrow : ∀ owner, facts.accountId = some owner → b.owns Account owner owner)
    (hunowned : ∀ i, b.invoices.find? facts.invoiceId = some i →
      i.accountId = none ∨ i.accountId = facts.accountId) :
    Acts facts.accountId b b' ∧
      ∀ owner, facts.accountId = some owner → b'.owns InvoiceState facts.invoiceId owner := by
  unfold recordInvoice at h
  cases hold : b.invoices.find? facts.invoiceId with
  | none =>
    simp only [hold, bind_eq_ok, Billing.insert_eq_ok, pure_eq_ok] at h
    obtain ⟨_, ⟨invoices, hinsert, rfl⟩, heq⟩ := h
    cases heq
    exact ⟨.insert hb hinsert (.inr rfl) hrow, fun _ howner => Table.Owns.insert hinsert howner⟩
  | some old =>
    simp only [hold, bind_eq_ok, Billing.update_eq_ok, pure_eq_ok] at h
    obtain ⟨_, ⟨invoices, hupdate, rfl⟩, heq⟩ := h
    cases heq
    -- the row at this key is the one the check read
    have hcases : ∀ i ∈ b.invoices.rows, i.invoiceId = facts.invoiceId →
        i.accountId = none ∨ i.accountId = facts.accountId := fun i hi hid =>
      hunowned i (Table.find?_eq_some_iff.2 ⟨hi, hid⟩)
    have hmerged : ∀ i ∈ b.invoices.rows, i.invoiceId = facts.invoiceId →
        (i.merge facts).accountId = facts.accountId := by
      intro i hi hid
      show i.accountId.or facts.accountId = facts.accountId
      rcases hcases i hi hid with hnone | hsame
      · rw [hnone, Option.none_or]
      · rw [hsame, Option.or_self]
    refine ⟨.adopt hb hupdate (fun _ => rfl) (fun i hi hp => ?_) fun i hi hp _ owner howner => ?_,
      fun owner howner => ?_⟩
    · have hid := of_decide_eq_true hp
      rcases hcases i hi hid with hnone | hsame
      · exact .inr ⟨hnone, .inr (hmerged i hi hid)⟩
      · exact .inl ⟨hsame, hmerged i hi hid⟩
    · rw [hmerged i hi (of_decide_eq_true hp)] at howner
      exact hrow owner howner
    · have hfind := Table.find?_update_self hupdate fun _ => rfl
      rw [show (Stored.table b : Table InvoiceState).find? facts.invoiceId = some old from hold]
        at hfind
      exact ⟨_, hfind, (hmerged old (Table.find?_mem hold) (Table.find?_key hold)).trans howner⟩

/-- The check before the upsert of an account. -/
theorem invoiceUnownedOr_eq_true {invoiceId accountId : String}
    (h : invoiceUnownedOr b invoiceId accountId = true) (i : InvoiceState)
    (hi : b.invoices.find? invoiceId = some i) :
    i.accountId = none ∨ i.accountId = some accountId := by
  simpa [invoiceUnownedOr, hi] using h

/-- Facts without an account go to an Invoice without an owner: an owner would be an account,
    and the clawback would have found it. -/
theorem retainClawback_acts {f : ClawbackFacts} (hb : Ownership b)
    (hnone : clawbackAccount b f = none) (h : retainClawback b f = .ok effect) :
    Acts none b effect.billing := by
  simp only [retainClawback, bind_eq_ok, pure_eq_ok] at h
  obtain ⟨⟨b₁, state⟩, hrecord, rfl⟩ := h
  refine (recordInvoice_acts hb hrecord
    (fun owner howner => absurd howner.symm (Option.some_ne_none owner)) fun i hi => ?_).1
  refine .inl (Option.eq_none_iff_forall_ne_some.2 fun owner howner => ?_)
  obtain ⟨a, ha, -⟩ := hb.invoices i (Table.find?_mem hi) owner howner
  have hfind : b.invoices.find? f.invoiceId = some i := hi
  simp only [clawbackAccount, Option.or_eq_none_iff, hfind, Option.bind_some, howner] at hnone
  exact absurd (ha.symm.trans hnone.2) (Option.some_ne_none a)

/-! ## Clawback of one grant -/

theorem removeFromBalance_acts {accountId eventId invoiceId : String}
    {balance removed grantEpoch : Nat} {reason : LedgerReason} (hb : Ownership b)
    (h : removeFromBalance b accountId balance removed grantEpoch reason eventId invoiceId =
      .ok b') : Acts (some accountId) b b' := by
  rcases removeFromBalance_eq_ok h with ⟨-, rfl⟩ | ⟨-, accounts, haccounts, hledger⟩
  · exact .refl hb
  · have h₁ : Acts (some accountId) b { b with accounts := accounts } :=
      .setAccount hb (Billing.update_eq_ok.2 ⟨accounts, haccounts, rfl⟩) fun _ => rfl
    exact h₁.trans (.insertEntry h₁.ownership hledger)

theorem raiseClawbackDebt_acts {key : ClawbackDebtKey} {target collected : Nat}
    (hb : Ownership b) (h : raiseClawbackDebt tx b key target collected = .ok b') :
    Acts (some key.accountId) b b' := by
  unfold raiseClawbackDebt at h
  split at h
  · rw [pure_eq_ok] at h
    exact h ▸ .refl hb
  split at h
  · rw [Billing.insert_eq_ok] at h
    obtain ⟨debts, hinsert, rfl⟩ := h
    exact .insert hb hinsert (.inr rfl) trivial
  · rename_i debt hdebt
    have hkey : debt.key = key := Table.find?_key hdebt
    exact .set hb h (fun _ => rfl) (fun _ => rfl)
      (Billing.owns_of_find hdebt (congrArg (fun k : ClawbackDebtKey => some k.accountId) hkey))
      fun _ _ => trivial

theorem applyClawbackToGrant_acts {accountId invoiceId eventId : String}
    {grantId units amount amountRefunded removed : Nat} {full : Bool} {reason : LedgerReason}
    (hb : Ownership b)
    (h : applyClawbackToGrant tx b accountId invoiceId grantId units amount amountRefunded full
      reason eventId = .ok (b', removed)) : Acts (some accountId) b b' := by
  obtain ⟨_, _, b₁, -, -, -, hremove, hdebt⟩ := applyClawbackToGrant_eq_ok h
  have h₁ := removeFromBalance_acts hb hremove
  exact h₁.trans (raiseClawbackDebt_acts h₁.ownership hdebt)

/-! ## Plan changes -/

theorem settleTransition_acts {transition : PlanChange} {invoiceId accountId : String}
    {status : PlanChangeStatus} {lastError : Option String} (hb : Ownership b)
    (hown : b.owns PlanChange transition.id accountId)
    (h : settleTransition b transition invoiceId status lastError = .ok b') :
    Acts (some accountId) b b' := by
  obtain ⟨planChanges, rfl, -, hupdate⟩ := settleTransition_eq_ok h
  exact .update hb hupdate (fun _ => rfl) (fun _ => rfl) hown fun _ _ => trivial

/-- The intent of a whole-period Invoice belongs to the account. -/
theorem targetTransition_owned {p : PaidInvoice} {t : PeriodTerms} {c : PlanChange}
    {statuses : PlanChangeStatus → Bool} (h : targetTransition b p t statuses = some c) :
    b.owns PlanChange c.id p.account.id := by
  obtain ⟨hrow, haccount, -⟩ := targetTransition_spec h
  rw [← haccount]
  exact Table.Owns.of_mem hrow rfl

/-! ## Whole-period Invoices -/

theorem replayPeriod_acts {p : PaidInvoice} {existing : LedgerRow} (hb : Ownership b)
    (h : replayPeriod b e p existing = .ok effect) :
    Acts (some p.account.id) b effect.billing := by
  rcases Guarded.andThen_eq_ok h with ⟨heq, -⟩ | ⟨_, -, h⟩
  · rw [heq]
    exact .refl hb
  split at h
  · simp only [bind_eq_ok, pure_eq_ok] at h
    obtain ⟨b₁, hupdate, rfl⟩ := h
    exact .setAccount hb hupdate fun _ => rfl
  · simp only [bind_eq_ok, pure_eq_ok] at h
    obtain ⟨_, rfl, rfl⟩ := h
    exact .refl hb

theorem settlePeriod_acts {p : PaidInvoice} {t : PeriodTerms} {state : InvoiceState}
    {grantId : Nat} (hb : Ownership b) (h : settlePeriod tx b e p t state grantId = .ok b') :
    Acts (some p.account.id) b b' := by
  unfold settlePeriod at h
  split at h
  · simp only [bind_eq_ok, pure_eq_ok] at h
    obtain ⟨⟨b₁, _⟩, hclaw, _, rfl, ⟨b₂, _⟩, hpack, rfl⟩ := h
    have h₁ := applyClawbackToGrant_acts hb hclaw
    exact h₁.trans (collectPackDebtsFromSubscription_acts h₁.ownership hpack)
  · simp only [bind_eq_ok, pure_eq_ok] at h
    obtain ⟨_, rfl, ⟨b₂, _⟩, hpack, rfl⟩ := h
    exact collectPackDebtsFromSubscription_acts hb hpack

theorem completeTransition_acts {p : PaidInvoice} {t : PeriodTerms}
    {transition : Option PlanChange} (hb : Ownership b)
    (hown : ∀ c, transition = some c → b.owns PlanChange c.id p.account.id)
    (h : completeTransition b p t transition = .ok effect) :
    Acts (some p.account.id) b effect.billing := by
  simp only [completeTransition] at h
  split at h
  · rw [pure_eq_ok] at h
    exact h ▸ .refl hb
  · rename_i c hc
    simp only [bind_eq_ok, pure_eq_ok] at h
    obtain ⟨b₁, hsettle, rfl⟩ := h
    refine settleTransition_acts hb ?_ hsettle
    rcases Option.or_eq_some_iff.1 hc with hgiven | ⟨-, hfound⟩
    · exact hown c hgiven
    · exact targetTransition_owned hfound

theorem blockPeriod_acts {p : PaidInvoice} {t : PeriodTerms} {transition : Option PlanChange}
    (hb : Ownership b) (hinvoice : b.owns InvoiceState p.invoiceId p.account.id)
    (hown : ∀ c, transition = some c → b.owns PlanChange c.id p.account.id)
    (h : blockPeriod b e p t transition = .ok effect) :
    Acts (some p.account.id) b effect.billing := by
  simp only [blockPeriod, bind_eq_ok] at h
  obtain ⟨b₁, hledger, b₂, hupdate, h⟩ := h
  have h₁ : Acts (some p.account.id) b b₁ :=
    .insertLedger hb hledger fun i hi _ => Option.some.inj hi ▸ hinvoice
  have h₂ : Acts (some p.account.id) b₁ b₂ :=
    .set h₁.ownership hupdate (fun _ => rfl) (fun _ => rfl) (h₁.invoices.keeps _ _ hinvoice)
      fun _ h => h
  have h₁₂ := h₁.trans h₂
  cases transition with
  | none =>
    simp only [bind_eq_ok, pure_eq_ok] at h
    obtain ⟨_, rfl, rfl⟩ := h
    exact h₁₂
  | some c =>
    simp only [bind_eq_ok, pure_eq_ok] at h
    obtain ⟨b₃, hsettle, rfl⟩ := h
    exact h₁₂.trans (settleTransition_acts h₁₂.ownership
      (h₁₂.planChanges.keeps _ _ (hown c rfl)) hsettle)

theorem grantPeriod_acts {p : PaidInvoice} {t : PeriodTerms} {state state' : InvoiceState}
    {transition : Option PlanChange} (hb : Ownership b)
    (hinvoice : b.owns InvoiceState p.invoiceId p.account.id)
    (hown : ∀ c, transition = some c → b.owns PlanChange c.id p.account.id)
    (h : grantPeriod cfg tx b e p t (periodSlots p t state) state' transition = .ok effect) :
    Acts (some p.account.id) b effect.billing := by
  simp only [grantPeriod, bind_eq_ok] at h
  obtain ⟨b₁, hproject, b₂, hledger, b₃, hupdate, b₄, hsettle, h⟩ := h
  -- an annual period is funded by this Invoice, a monthly one by none
  have h₁ : Acts (some p.account.id) b b₁ := by
    refine .updateAccount hb hproject (fun _ => rfl) fun a _ hid _ => ⟨fun i hi => ?_, fun hyear => ?_⟩
    · show b.owns InvoiceState i a.id
      rw [hid]
      unfold projectPeriod periodSlots at hi
      split at hi
      · exact Option.some.inj hi ▸ hinvoice
      · cases hi
    · have hinterval : t.interval = .year := Option.some.inj hyear
      simp [projectPeriod, periodSlots, hinterval]
  have h₂ : Acts (some p.account.id) b₁ b₂ :=
    .insertLedger h₁.ownership hledger fun i hi _ =>
      Option.some.inj hi ▸ h₁.invoices.keeps _ _ hinvoice
  have h₁₂ := h₁.trans h₂
  have h₃ : Acts (some p.account.id) b₂ b₃ :=
    .set h₂.ownership hupdate (fun _ => rfl) (fun _ => rfl) (h₁₂.invoices.keeps _ _ hinvoice)
      fun _ h => h
  have h₄ := settlePeriod_acts h₃.ownership hsettle
  have hgranted := (h₁₂.trans h₃).trans h₄
  exact hgranted.trans (completeTransition_acts hgranted.ownership
    (fun c hc => hgranted.planChanges.keeps _ _ (hown c hc)) h)

theorem applyPeriod_acts {p : PaidInvoice} {t : PeriodTerms} {transition : Option PlanChange}
    (hb : Ownership b) (haccount : p.account ∈ b.accounts.rows)
    (hguards : periodGuards b e p t = .ok transition)
    (h : applyPeriod cfg tx b e p t transition = .ok effect) :
    Acts (some p.account.id) b effect.billing := by
  simp only [applyPeriod, bind_eq_ok] at h
  obtain ⟨⟨b₁, state⟩, hrecord, h⟩ := h
  obtain ⟨h₁, hinvoice⟩ := recordInvoice_acts hb hrecord
    (fun owner howner => Option.some.inj howner ▸ Billing.owns_account haccount)
    (invoiceUnownedOr_eq_true (periodGuards_facts hguards).owner)
  have hown : ∀ c, transition = some c → b₁.owns PlanChange c.id p.account.id := by
    rintro c rfl
    exact h₁.planChanges.keeps _ _ (targetTransition_owned (periodGuards_intent hguards))
  split at h
  · exact h₁.trans (blockPeriod_acts h₁.ownership (hinvoice _ rfl) hown h)
  · exact h₁.trans (grantPeriod_acts h₁.ownership (hinvoice _ rfl) hown h)

theorem invoicePaidPeriod_acts {p : PaidInvoice} (hb : Ownership b)
    (haccount : p.account ∈ b.accounts.rows)
    (h : invoicePaidPeriod cfg tx b e p = .ok effect) :
    Acts (some p.account.id) b effect.billing := by
  rcases Guarded.andThen_eq_ok h with ⟨heq, -⟩ | ⟨t, -, h⟩
  · rw [heq]
    exact .refl hb
  split at h
  · exact replayPeriod_acts hb h
  rcases Guarded.andThen_eq_ok h with ⟨heq, -⟩ | ⟨transition, hguards, h⟩
  · rw [heq]
    exact .refl hb
  · exact applyPeriod_acts hb haccount hguards h

/-! ## Prorated upgrades -/

theorem deltaGuards_unowned {p : PaidInvoice} {transition : PlanChange} {f : DeltaFunding}
    (h : deltaGuards cfg b p transition = .ok f) :
    invoiceUnownedOr b p.invoiceId p.account.id = true := by
  unfold deltaGuards at h
  split at h
  · simp only [bind_eq_ok] at h
    obtain ⟨_, -, hstop⟩ := h
    cases hstop
  · simp only [bind_eq_ok, require_eq_ok] at h
    obtain ⟨_, -, _, -, _, -, _, hunowned, -⟩ := h
    exact hunowned

theorem settleDelta_acts {p : PaidInvoice} {f : DeltaFunding} {state : InvoiceState}
    {grantId : Nat} (hb : Ownership b) (h : settleDelta tx b e p f state grantId = .ok b') :
    Acts (some p.account.id) b b' := by
  simp only [settleDelta, bind_eq_ok] at h
  obtain ⟨⟨b₁, _⟩, hclaw, ⟨b₂, _⟩, hpack, h⟩ := h
  have h₁ := collectClawbackDebts_acts hb hclaw
  have h₂ := collectPackDebtsFromSubscription_acts h₁.ownership hpack
  have h₁₂ := h₁.trans h₂
  split at h
  · rw [pure_eq_ok] at h
    exact h ▸ h₁₂
  · simp only [bind_eq_ok, pure_eq_ok] at h
    obtain ⟨⟨_, _⟩, hown, rfl⟩ := h
    exact h₁₂.trans (applyClawbackToGrant_acts h₁₂.ownership hown)

section

variable {p : PaidInvoice} {transition : PlanChange} {f : DeltaFunding}

theorem blockDelta_acts (hb : Ownership b)
    (hinvoice : b.owns InvoiceState p.invoiceId p.account.id)
    (hown : b.owns PlanChange transition.id p.account.id)
    (h : blockDelta b e p transition f = .ok effect) :
    Acts (some p.account.id) b effect.billing := by
  simp only [blockDelta, bind_eq_ok, pure_eq_ok] at h
  obtain ⟨b₁, hledger, b₂, hupdate, b₃, hclose, rfl⟩ := h
  have h₁ : Acts (some p.account.id) b b₁ :=
    .insertLedger hb hledger fun i hi _ => Option.some.inj hi ▸ hinvoice
  have h₂ : Acts (some p.account.id) b₁ b₂ :=
    .set h₁.ownership hupdate (fun _ => rfl) (fun _ => rfl) (h₁.invoices.keeps _ _ hinvoice)
      fun _ h => h
  have h₁₂ := h₁.trans h₂
  exact h₁₂.trans (.set h₁₂.ownership hclose (fun _ => rfl) (fun _ => rfl)
    (h₁₂.planChanges.keeps _ _ hown) fun _ _ => trivial)

theorem grantDelta_acts {state : InvoiceState} (hb : Ownership b)
    (hinvoice : b.owns InvoiceState p.invoiceId p.account.id)
    (hown : b.owns PlanChange transition.id p.account.id)
    (h : grantDelta tx b e p transition f state = .ok effect) :
    Acts (some p.account.id) b effect.billing := by
  simp only [grantDelta, bind_eq_ok, pure_eq_ok] at h
  obtain ⟨_, -, b₁, hproject, b₂, hledger, b₃, hupdate, b₄, hsettle, b₅, hcomplete, rfl⟩ := h
  -- an upgraded plan is monthly
  have h₁ : Acts (some p.account.id) b b₁ := by
    refine .updateAccount hb hproject (fun _ => rfl) fun a _ _ ha => ⟨ha.1, fun hyear => ?_⟩
    cases hyear
  have h₂ : Acts (some p.account.id) b₁ b₂ :=
    .insertLedger h₁.ownership hledger fun i hi _ =>
      Option.some.inj hi ▸ h₁.invoices.keeps _ _ hinvoice
  have h₁₂ := h₁.trans h₂
  have h₃ : Acts (some p.account.id) b₂ b₃ :=
    .set h₂.ownership hupdate (fun _ => rfl) (fun _ => rfl) (h₁₂.invoices.keeps _ _ hinvoice)
      fun _ h => h
  have hgranted := (h₁₂.trans h₃).trans (settleDelta_acts h₃.ownership hsettle)
  exact hgranted.trans (.set hgranted.ownership hcomplete (fun _ => rfl) (fun _ => rfl)
    (hgranted.planChanges.keeps _ _ hown) fun _ _ => trivial)

theorem invoicePaidProratedDelta_acts (hb : Ownership b)
    (haccount : p.account ∈ b.accounts.rows)
    (hintent : proratedTransition b p = some transition)
    (h : invoicePaidProratedDelta cfg tx b e p transition = .ok effect) :
    Acts (some p.account.id) b effect.billing := by
  -- A guard that fails leaves the database as it is.
  rcases Guarded.andThen_eq_ok h with ⟨heq, -⟩ | ⟨f, hguards, h⟩
  · rw [heq]
    exact .refl hb
  simp only [applyDelta, bind_eq_ok] at h
  obtain ⟨⟨b₁, state⟩, hrecord, h⟩ := h
  obtain ⟨h₁, hinvoice⟩ := recordInvoice_acts hb hrecord
    (fun owner howner => Option.some.inj howner ▸ Billing.owns_account haccount)
    (invoiceUnownedOr_eq_true (deltaGuards_unowned hguards))
  -- An Invoice with an allocation already is recorded and nothing more.
  split at h
  · rw [pure_eq_ok] at h
    exact h ▸ h₁
  simp only [bind_eq_ok, Billing.insert_eq_ok] at h
  obtain ⟨_, ⟨fundings, hinsert, rfl⟩, h⟩ := h
  -- The transition is a plan change of this account, and so is the allocation it funds.
  obtain ⟨-, -, hrow, hintentOwner, -⟩ := proratedTransition_spec hintent
  have hown : b.owns PlanChange transition.id p.account.id := by
    rw [← hintentOwner]
    exact Table.Owns.of_mem hrow rfl
  have hinvoice₁ := hinvoice _ rfl
  have hown₁ := h₁.planChanges.keeps _ _ hown
  have h₂ : Acts (some p.account.id) b₁ { b₁ with fundings := fundings } :=
    .insert h₁.ownership hinsert (.inr rfl) ⟨hinvoice₁, hown₁⟩
  refine (h₁.trans h₂).trans ?_
  -- Both endings, the blocked one and the granted one, act for the account.
  split at h
  · exact blockDelta_acts h₂.ownership hinvoice₁ hown₁ h
  · exact grantDelta_acts h₂.ownership hinvoice₁ hown₁ h

end

/-- **Paid Invoices** act for the account they were attributed to. -/
theorem invoicePaid_acts (hb : Ownership b) (h : invoicePaid cfg tx b e = .ok effect) :
    Acts ((lockAccount cfg.unicode b e.object (subscriptionMetadata e.object)).map Account.id) b
      effect.billing := by
  rcases Guarded.andThen_eq_ok h with ⟨heq, -⟩ | ⟨p, hguards, h⟩
  · rw [heq]
    exact .refl hb
  obtain ⟨-, -, hlock⟩ := paidInvoiceGuards_eq_ok hguards
  rw [hlock]
  have haccount := lockAccount_mem hlock
  split at h
  case h_1 transition hintent => exact invoicePaidProratedDelta_acts hb haccount hintent h
  case h_2 => exact invoicePaidPeriod_acts hb haccount h

/-! ## Clawbacks -/

section

variable {c : ClawbackTarget}

theorem clawBalance_acts {removed : Nat} (hb : Ownership b)
    (h : clawBalance tx b e c = .ok (b', removed)) : Acts (some c.account.id) b b' := by
  unfold clawBalance at h
  split at h
  · simp only [bind_eq_ok, pure_eq_ok] at h
    obtain ⟨_, hremove, heq⟩ := h
    cases heq
    exact removeFromBalance_acts hb hremove
  · exact applyClawbackToGrant_acts hb h

theorem revertLeaf_acts {f : FundingAllocation} (hb : Ownership b)
    (hfunding : ∃ g, b.fundings.find? f.id = some g ∧ g.accountId = c.account.id ∧
      g.planChangeId = f.planChangeId) (hmonthly : f.sourceInterval = .month)
    (h : revertLeaf b e c f = .ok b') : Acts (some c.account.id) b b' := by
  simp only [revertLeaf, bind_eq_ok] at h
  obtain ⟨_, -, b₁, hproject, b₂, hmove, b₃, hledger, hfail⟩ := h
  obtain ⟨g, hg, howner, hplan⟩ := hfunding
  -- the plan change of a funding belongs to its account
  have hchange : b.owns PlanChange f.planChangeId c.account.id := by
    rw [← howner, ← hplan]
    exact (hb.fundings g (Table.find?_mem hg)).2
  have h₁ : Acts (some c.account.id) b b₁ := by
    refine .updateAccount hb hproject (fun _ => rfl) fun a _ _ ha => ⟨ha.1, fun hyear => ?_⟩
    rw [show f.sourceInterval = .year from Option.some.inj hyear] at hmonthly
    cases hmonthly
  have hfunding : b.owns FundingAllocation f.id c.account.id :=
    Billing.owns_of_find hg (congrArg some howner)
  have h₂ : Acts (some c.account.id) b₁ b₂ :=
    .set h₁.ownership hmove (fun _ => rfl) (fun _ => rfl) (h₁.fundings.keeps _ _ hfunding)
      fun _ h => h
  have h₁₂ := h₁.trans h₂
  have h₃ : Acts (some c.account.id) b₂ b₃ := .insertEntry h₁₂.ownership hledger
  have hmoved := h₁₂.trans h₃
  exact hmoved.trans (.set hmoved.ownership hfail (fun _ => rfl) (fun _ => rfl)
    (hmoved.planChanges.keeps _ _ hchange) fun _ _ => trivial)

theorem limitAnnualSlots_acts (hb : Ownership b) (h : limitAnnualSlots b c = .ok b') :
    Acts (some c.account.id) b b' := by
  unfold limitAnnualSlots at h
  split at h
  · exact .setAccount hb h fun _ => rfl
  · rw [pure_eq_ok] at h
    exact h ▸ .refl hb

/-- The rows a clawback target names belong to its account. -/
structure ClawbackTarget.Owned (b : Billing) (c : ClawbackTarget) : Prop where
  invoice : b.owns InvoiceState c.facts.invoiceId c.account.id
  allocation : ∀ f, c.allocation = some f → f.sourceInterval = .month ∧
    ∃ g, b.fundings.find? f.id = some g ∧ g.accountId = c.account.id ∧
      g.planChangeId = f.planChangeId

theorem clawEntitlement_acts (hb : Ownership b) (hc : c.Owned b)
    (h : clawEntitlement tx b e c = .ok effect) : Acts (some c.account.id) b effect.billing := by
  obtain ⟨b₁, removed, b₂, b₃, b₄, hbalance, hleaf, hlimit, hrevoke, hlast⟩ :=
    clawEntitlement_eq_ok h
  -- Balance, funding, slots and plan in turn, each on the rows of the account.
  have h₁ := clawBalance_acts hb hbalance
  have h₂ : Acts (some c.account.id) b₁ b₂ := by
    -- A funding is reverted only if the grant has one, and then it is the account's own.
    split at hleaf
    · rw [hleaf]
      exact .refl h₁.ownership
    · rename_i f hf
      obtain ⟨hmonthly, hfunding⟩ := hc.allocation f (Option.filter_eq_some_iff.1 hf).1
      rw [← (clawBalance_settlement hbalance).fundings] at hfunding
      exact revertLeaf_acts h₁.ownership hfunding hmonthly hleaf
  have h₃ := limitAnnualSlots_acts h₂.ownership hlimit
  have h₄ : Acts (some c.account.id) b₃ b₄ := by
    split at hrevoke
    · exact .setAccount h₃.ownership hrevoke fun _ => rfl
    · rw [hrevoke]
      exact .refl h₃.ownership
  -- The Invoice row is still the account's, and is marked last.
  have hclawed := ((h₁.trans h₂).trans h₃).trans h₄
  split at hlast
  · exact hclawed.trans (.set hclawed.ownership hlast (fun _ => rfl) (fun _ => rfl)
      (hclawed.invoices.keeps _ _ hc.invoice) fun _ h => h)
  · rw [hlast]
    exact hclawed

theorem clawGrant_acts (hb : Ownership b) (hc : c.Owned b)
    (h : clawGrant tx b e c = .ok effect) : Acts (some c.account.id) b effect.billing := by
  unfold clawGrant at h
  split at h
  · exact clawEntitlement_acts hb hc h
  · rw [pure_eq_ok] at h
    exact h ▸ .refl hb

end

theorem FundingAllocation.monthly {f : FundingAllocation} (hf : f ∈ b.fundings.rows) :
    f.sourceInterval = .month := by
  have hcheck := b.fundings.valid.checked f hf
  simp only [Relation.check, Bool.and_eq_true, decide_eq_true_eq] at hcheck
  exact hcheck.1.1.1.1.2

theorem clawFundedInvoice_acts {account : Account} {f : ClawbackFacts} {state : InvoiceState}
    {grant : LedgerRow} (hb : Ownership b) (hinvoice : b.owns InvoiceState f.invoiceId account.id)
    (h : clawFundedInvoice tx b e account f state grant = .ok effect) :
    Acts (some account.id) b effect.billing := by
  unfold clawFundedInvoice at h
  -- A clawback that is recorded already changes nothing.
  split at h
  · rw [pure_eq_ok] at h
    exact h ▸ .refl hb
  -- Without an allocation the grant is clawed back by itself.
  split at h
  · exact clawGrant_acts (c := { account, facts := f, state, grant, allocation := none }) hb
      ⟨hinvoice, nofun⟩ h
  rename_i allocation hallocation
  -- An allocation of another account is refused before anything is written.
  split at h
  · rw [pure_eq_ok] at h
    exact h ▸ .refl hb
  rename_i howner
  rw [ne_eq, Decidable.not_not] at howner
  rw [bind_eq_ok] at h
  obtain ⟨b₁, hrefund, h⟩ := h
  have hrow : allocation ∈ b.fundings.rows := List.mem_of_find?_eq_some hallocation
  have hfind : b.fundings.find? allocation.id = some allocation := Table.find?_of_mem hrow
  -- The refund is recorded on the allocation, which belongs to the account.
  have h₁ : Acts (some account.id) b b₁ :=
    .set hb hrefund (fun _ => rfl) (fun _ => rfl)
      (Billing.owns_of_find hfind (congrArg some howner)) fun _ h => h
  split at h
  · rw [pure_eq_ok] at h
    exact h ▸ h₁
  refine h₁.trans (clawGrant_acts
    (c := { account, facts := f, state, grant, allocation := some allocation }) h₁.ownership
    ⟨h₁.invoices.keeps _ _ hinvoice, fun g hg => ?_⟩ h)
  -- So the allocation that the clawback reads is the one that was just updated.
  obtain rfl : allocation = g := Option.some.inj hg
  refine ⟨FundingAllocation.monthly hrow, ?_⟩
  rw [refundFunding, Billing.update_eq_ok] at hrefund
  obtain ⟨fundings, hupdate, rfl⟩ := hrefund
  have hself := Table.find?_update_self hupdate fun _ => rfl
  rw [show (Stored.table b : Table FundingAllocation).find? allocation.id = some allocation
    from hfind] at hself
  exact ⟨_, hself, howner, rfl⟩

/-- A clawback of a known account that passed the ownership checks. -/
theorem applyClawback_acts {account : Account} {f : ClawbackFacts} (hb : Ownership b)
    (haccount : account ∈ b.accounts.rows)
    (hunowned : invoiceUnownedOr b f.invoiceId account.id = true)
    (h : applyClawback tx b e account f = .ok effect) :
    Acts (some account.id) b effect.billing := by
  simp only [applyClawback, bind_eq_ok] at h
  obtain ⟨⟨b₁, state⟩, hrecord, h⟩ := h
  obtain ⟨h₁, hinvoice⟩ := recordInvoice_acts hb hrecord
    (fun owner howner => Option.some.inj howner ▸ Billing.owns_account haccount)
    (invoiceUnownedOr_eq_true hunowned)
  split at h
  · rw [pure_eq_ok] at h
    exact h ▸ h₁
  split at h
  · rw [pure_eq_ok] at h
    exact h ▸ h₁
  · exact h₁.trans (clawFundedInvoice_acts h₁.ownership (hinvoice _ rfl) h)

theorem clawbackOwner_unowned {f : ClawbackFacts} {account : Account} {u : Unit}
    (h : clawbackOwner b f account = .ok u) :
    invoiceUnownedOr b f.invoiceId account.id = true := by
  simp only [clawbackOwner, bind_eq_ok, require_eq_ok] at h
  obtain ⟨_, -, hunowned⟩ := h
  exact hunowned

/-- **Clawbacks** act for the account of the customer, or else of the Invoice. -/
theorem clawback_acts (hb : Ownership b) (h : clawback cfg tx b e = .ok effect) :
    Acts ((clawbackGuards cfg e).toOption.bind fun f => (clawbackAccount b f).map Account.id) b
      effect.billing := by
  rcases Guarded.andThen_eq_ok h with ⟨heq, -⟩ | ⟨f, hguards, h⟩
  · rw [heq]
    exact .refl hb
  rw [hguards]
  show Acts ((clawbackAccount b f).map Account.id) b effect.billing
  split at h
  case h_1 hnone =>
    rw [hnone]
    exact retainClawback_acts hb hnone h
  case h_2 account haccount =>
    rw [haccount]
    rcases Guarded.andThen_eq_ok h with ⟨heq, -⟩ | ⟨_, howner, h⟩
    · rw [heq]
      exact .refl hb
    · exact applyClawback_acts hb (clawbackAccount_mem haccount) (clawbackOwner_unowned howner) h

/-! ## Annual grants -/

/-- An annual plan has a funding Invoice of its account. -/
theorem Ownership.fundingInvoice (hb : Ownership b) {account : Account}
    (haccount : account ∈ b.accounts.rows) (hyear : account.planInterval = some .year) :
    b.owns InvoiceState (account.fundingInvoiceId.getD "None") account.id := by
  obtain ⟨howned, hsome⟩ := hb.accounts account haccount
  obtain ⟨invoiceId, hfunding⟩ := Option.isSome_iff_exists.1 (hsome hyear)
  rw [hfunding]
  exact howned invoiceId hfunding

theorem grantAnnualSlot_acts {account : Account} {plan : Plan} {invoiceId : String} {slot : Nat}
    (hb : Ownership b) (hinvoice : b.owns InvoiceState invoiceId account.id)
    (h : grantAnnualSlot cfg tx b account plan invoiceId slot = .ok b') :
    Acts (some account.id) b b' := by
  simp only [grantAnnualSlot, bind_eq_ok, pure_eq_ok] at h
  obtain ⟨b₁, hproject, b₂, hledger, b₃, hupdate, ⟨b₄, _⟩, hpack, rfl⟩ := h
  have h₁ : Acts (some account.id) b b₁ := .setAccount hb hproject fun _ => rfl
  have h₂ : Acts (some account.id) b₁ b₂ :=
    .insertLedger h₁.ownership hledger fun i hi _ =>
      Option.some.inj hi ▸ h₁.invoices.keeps _ _ hinvoice
  have h₁₂ := h₁.trans h₂
  have h₃ : Acts (some account.id) b₂ b₃ :=
    .set h₂.ownership hupdate (fun _ => rfl) (fun _ => rfl) (h₁₂.invoices.keeps _ _ hinvoice)
      fun _ h => h
  exact (h₁₂.trans h₃).trans (collectPackDebtsFromSubscription_acts h₃.ownership hpack)

/-- **Annual grants** act for the account they name. -/
theorem grantDue_acts {accountId : String} {now : Option Int} {snapshot : SubscriptionSnapshot}
    (hb : Ownership b) (h : grantDue cfg tx b accountId now snapshot = .ok effect) :
    Acts (uuidParameter accountId) b effect.billing := by
  -- A guard that fails leaves the database as it is.
  rcases Guarded.andThen_eq_ok h with ⟨heq, -⟩ | ⟨⟨account, plan⟩, hguards, h⟩
  · rw [heq]
    exact .refl hb
  simp only [bind_eq_ok, pure_eq_ok, annualAccountGuards, fetch_eq_ok, require_eq_ok,
    Bool.and_eq_true, decide_eq_true_eq] at hguards
  -- The guards find the account by the parameter, on an annual plan.
  obtain ⟨_, ⟨account', hfetch, _, ⟨-, hyear⟩, _, -, _, -, _, -, _, -, rfl⟩, plan', -, heq⟩ := hguards
  cases heq
  obtain ⟨id, hcanonical, hfind⟩ := Option.bind_eq_some_iff.1 hfetch
  obtain rfl : account.id = id := Table.find?_key hfind
  rw [hcanonical]
  -- An annual account is funded by an Invoice of its own.
  have hinvoice := hb.fundingInvoice (Table.find?_mem hfind) hyear
  simp only [applyAnnualGrant] at h
  -- A slot that is not due, or that is granted already, changes nothing.
  split at h
  · rw [pure_eq_ok] at h
    exact h ▸ .refl hb
  split at h
  · rw [pure_eq_ok] at h
    exact h ▸ .refl hb
  -- A period that is over is closed; otherwise the slot is granted from the Invoice.
  split at h
  · simp only [bind_eq_ok, pure_eq_ok] at h
    obtain ⟨b₁, hclose, rfl⟩ := h
    exact .setAccount hb hclose fun _ => rfl
  · simp only [bind_eq_ok, pure_eq_ok] at h
    obtain ⟨b₁, hgrant, rfl⟩ := h
    exact grantAnnualSlot_acts hb hinvoice hgrant

end StripeEntitlements
