import StripeEntitlements.Ledger.Postings
import StripeEntitlements.Redelivery.Invoices

/-!
# Postings of Paid Invoices

A paid Invoice replays a slot, marks a closed one, or replaces the entitlement of the
account it locked and settles what it owes. Each is one posting of that account.

## Main results

- `replayPeriod_posts`, `applyPeriod_posts`, `applyDelta_posts` — the three ends of
  `_invoice_paid`
- `applyClawbackToGrant_posts` — a clawback of one grant takes from the balance
-/

namespace StripeEntitlements

open Relational

variable {cfg : Config} {tx : Tx} {b b' : Billing} {e : Event} {effect : Effect}

/-- Neither an account nor the ledger was written. -/
structure Unposted (b b' : Billing) : Prop where
  accounts : b'.accounts = b.accounts
  ledger : b'.ledger = b.ledger

namespace Unposted

theorem refl (b : Billing) : Unposted b b := ⟨rfl, rfl⟩

theorem of_eq (h : b' = b) : Unposted b b' := h ▸ refl b

theorem rebalanced {k : String} (h : Unposted b b') : Rebalanced k b b' :=
  .of_eq h.accounts h.ledger

theorem after {a a' : Account} {b'' : Billing} (h : Unposted b' b'') (hp : Posts a a' b b') :
    Posts a a' b b'' := by
  rw [Posts, h.accounts, h.ledger]
  exact hp

end Unposted

/-- A posting of one account row and one ledger row. -/
theorem Posting.entry {a : Account} {f : Account → Account} {b₀ : Billing}
    {accounts : Table Account} {delta : Int} {reason : LedgerReason} {epoch units : Nat}
    {eventId : String} {invoiceId : Option String} {slot : Option Nat}
    (ha : b.accounts.find? a.id = some a) (hid : ∀ a, (f a).id = a.id)
    (haccounts : b.accounts.update? a.id f = some accounts)
    (h : b₀.insertLedger a.id delta (f a).creditsBalance reason epoch eventId invoiceId slot units =
      .ok b') (hdelta : ((f a).creditsBalance : Int) = a.creditsBalance + delta)
    (hb₀ : b₀.accounts = accounts) (hledger : b₀.ledger = b.ledger) : Posts a (f a) b b' := by
  obtain ⟨hentries, hsame⟩ := Entries.insertLedger h hdelta
  rw [Posts, hsame, hb₀, ← hledger]
  exact .update ha haccounts hid hentries

/-! ## Clawbacks of one grant -/

theorem removeFromBalance_posts {a : Account} {removed epoch : Nat} {reason : LedgerReason}
    {eventId invoiceId : String} (ha : b.accounts.find? a.id = some a)
    (hle : removed ≤ a.creditsBalance)
    (h : removeFromBalance b a.id a.creditsBalance removed epoch reason eventId invoiceId =
      .ok b') : Posts a (a.withBalance (a.creditsBalance - removed)) b b' := by
  rcases removeFromBalance_eq_ok h with ⟨rfl, rfl⟩ | ⟨-, accounts, haccounts, hledger⟩
  · exact .refl ha _
  · have hdelta : ((a.creditsBalance - removed : Nat) : Int) = a.creditsBalance + -removed := by
      omega
    exact Posting.entry (f := fun x => { x with creditsBalance := a.creditsBalance - removed })
      ha (fun _ => rfl) haccounts hledger hdelta rfl rfl

theorem applyClawbackToGrant_posts {a : Account} {invoiceId eventId : String}
    {grantId units amount amountRefunded removed : Nat} {full : Bool} {reason : LedgerReason}
    (ha : b.accounts.find? a.id = some a)
    (h : applyClawbackToGrant tx b a.id invoiceId grantId units amount amountRefunded full reason
      eventId = .ok (b', removed)) :
    Posts a (a.withBalance (a.creditsBalance - removed)) b b' := by
  obtain ⟨_, row, b₁, -, hrow, hremoved, hremove, hdebt⟩ := applyClawbackToGrant_eq_ok h
  have hsame : a = row := Option.some.inj (ha.symm.trans hrow)
  subst hsame
  obtain ⟨debts, rfl⟩ := raiseClawbackDebt_eq_ok hdebt
  have hposted := removeFromBalance_posts ha (by omega) hremove
  exact hposted

theorem applyClawbackToGrant_rebalanced {k invoiceId eventId : String}
    {grantId units amount amountRefunded removed : Nat} {full : Bool} {reason : LedgerReason}
    (h : applyClawbackToGrant tx b k invoiceId grantId units amount amountRefunded full reason
      eventId = .ok (b', removed)) : Rebalanced k b b' := by
  intro a ha
  have hid : a.id = k := Table.find?_key ha
  subst hid
  exact ⟨_, applyClawbackToGrant_posts ha h⟩

/-! ## Whole periods -/

/-- A replayed slot projects the paid status. -/
def Account.repaid (e : Event) (a : Account) : Account :=
  { a with
    eventCreated := (projectionOrder a e).1
    eventRank := (projectionOrder a e).2
    subscriptionStatus := .active }

theorem replayPeriod_posts {p : PaidInvoice} {existing : LedgerRow}
    (hrow : b.accounts.find? p.account.id = some p.account)
    (h : replayPeriod b e p existing = .ok effect) :
    (¬(existing.accountId = p.account.id ∧ wins p.account e = true) ∧
        Unposted b effect.billing) ∨
      (existing.accountId = p.account.id ∧ wins p.account e = true ∧
        Posts p.account (p.account.repaid e) b effect.billing) := by
  -- a foreign slot stops the replay before anything is written
  rcases Guarded.andThen_eq_ok h with ⟨hb, hstop⟩ | ⟨_, howner, h⟩
  · refine .inl ⟨fun howner => hstop () ?_, .of_eq hb⟩
    simp only [replayOwner, require_eq_ok, decide_eq_true_eq]
    exact howner.1
  simp only [replayOwner, require_eq_ok, decide_eq_true_eq] at howner
  -- the replay writes status and order when the Event wins, and nothing otherwise
  split at h
  case isTrue hwins =>
    simp only [bind_eq_ok, Billing.update_eq_ok, pure_eq_ok, Stored.table, Stored.install] at h
    obtain ⟨_, ⟨accounts, haccounts, rfl⟩, rfl⟩ := h
    refine .inr ⟨howner, hwins, ?_⟩
    exact Posting.update (f := fun a => { a with
      eventCreated := (projectionOrder p.account e).1
      eventRank := (projectionOrder p.account e).2
      subscriptionStatus := .active }) hrow haccounts (fun _ => rfl) (.refl _ _ _)
  case isFalse hloses =>
    simp only [bind_eq_ok, pure_eq_ok] at h
    obtain ⟨_, rfl, rfl⟩ := h
    exact .inl ⟨fun hboth => hloses hboth.2, .refl b⟩

theorem settlePeriod_rebalanced {p : PaidInvoice} {t : PeriodTerms} {state : InvoiceState}
    {grantId : Nat} (h : settlePeriod tx b e p t state grantId = .ok b') :
    Rebalanced p.account.id b b' := by
  unfold settlePeriod at h
  split at h
  · simp only [bind_eq_ok, pure_eq_ok] at h
    obtain ⟨⟨b₁, _⟩, hclaw, _, rfl, ⟨b₂, _⟩, hpack, rfl⟩ := h
    exact (applyClawbackToGrant_rebalanced hclaw).trans
      (collectPackDebtsFromSubscription_rebalanced hpack)
  · simp only [bind_eq_ok, pure_eq_ok] at h
    obtain ⟨_, rfl, ⟨b₂, _⟩, hpack, rfl⟩ := h
    exact collectPackDebtsFromSubscription_rebalanced hpack

theorem completeTransition_unposted {p : PaidInvoice} {t : PeriodTerms}
    {transition : Option PlanChange} (h : completeTransition b p t transition = .ok effect) :
    Unposted b effect.billing := by
  simp only [completeTransition] at h
  split at h
  · rw [pure_eq_ok] at h
    exact .of_eq (h ▸ rfl)
  · simp only [bind_eq_ok, pure_eq_ok] at h
    obtain ⟨b₁, hsettle, rfl⟩ := h
    obtain ⟨planChanges, rfl, -⟩ := settleTransition_eq_ok hsettle
    exact ⟨rfl, rfl⟩

theorem blockPeriod_posts {p : PaidInvoice} {t : PeriodTerms} {transition : Option PlanChange}
    (hrow : b.accounts.find? p.account.id = some p.account)
    (h : blockPeriod b e p t transition = .ok effect) :
    Posts p.account p.account b effect.billing := by
  simp only [blockPeriod, bind_eq_ok, Billing.update_eq_ok] at h
  obtain ⟨b₁, hledger, _, ⟨invoices, -, rfl⟩, h⟩ := h
  obtain ⟨hentries, haccounts⟩ :=
    Entries.insertLedger (x := p.account.creditsBalance) hledger (by omega)
  have hmarked : Posts p.account p.account b b₁ := by
    rw [Posts, haccounts]
    exact ⟨hrow, hrow, fun _ _ => rfl, hentries⟩
  cases transition with
  | none =>
    simp only [bind_eq_ok, pure_eq_ok] at h
    obtain ⟨_, rfl, rfl⟩ := h
    exact hmarked
  | some c =>
    simp only [bind_eq_ok, pure_eq_ok] at h
    obtain ⟨b₂, hsettle, rfl⟩ := h
    obtain ⟨planChanges, rfl, -⟩ := settleTransition_eq_ok hsettle
    exact hmarked

theorem grantPeriod_posts {p : PaidInvoice} {t : PeriodTerms} {slots : PeriodSlots}
    {state : InvoiceState} {transition : Option PlanChange}
    (hrow : b.accounts.find? p.account.id = some p.account)
    (h : grantPeriod cfg tx b e p t slots state transition = .ok effect) :
    ∃ balance, Posts p.account ((projectPeriod cfg e p t slots p.account).withBalance balance) b
      effect.billing := by
  simp only [grantPeriod, bind_eq_ok, Billing.update_eq_ok, Stored.table, Stored.install] at h
  obtain ⟨_, ⟨accounts, haccounts, rfl⟩, b₁, hledger, _, ⟨invoices, -, rfl⟩, b₂, hsettle,
    hcomplete⟩ := h
  have hgranted : Posts p.account (projectPeriod cfg e p t slots p.account) b b₁ := by
    refine .entry hrow (fun _ => rfl) haccounts hledger ?_ rfl rfl
    simp only [projectPeriod]
    omega
  have hsettled : Rebalanced p.account.id b₁ effect.billing := by
    have hinvoice : Rebalanced p.account.id b₁ { b₁ with invoices := invoices } := .of_eq rfl rfl
    exact (hinvoice.trans (settlePeriod_rebalanced hsettle)).trans
      (completeTransition_unposted hcomplete).rebalanced
  obtain ⟨balance, hposted⟩ := Rebalanced.after hgranted hsettled
  exact ⟨balance, hposted⟩

/-- A whole period marks its closed Invoice, or replaces the entitlement. -/
theorem applyPeriod_posts {p : PaidInvoice} {t : PeriodTerms} {transition : Option PlanChange}
    (hrow : b.accounts.find? p.account.id = some p.account)
    (h : applyPeriod cfg tx b e p t transition = .ok effect) :
    ((periodSlots p t (recordedInvoice b (p.periodFacts t))).blocked = true ∧
      Posts p.account p.account b effect.billing) ∨
    ((periodSlots p t (recordedInvoice b (p.periodFacts t))).blocked = false ∧
      ∃ balance, Posts p.account ((projectPeriod cfg e p t
        (periodSlots p t (recordedInvoice b (p.periodFacts t))) p.account).withBalance balance) b
        effect.billing) := by
  obtain ⟨invoices, -, h⟩ := applyPeriod_eq_ok h
  split at h
  case isTrue hblocked =>
    have hmarked := blockPeriod_posts (b := { b with invoices := invoices }) hrow h
    exact .inl ⟨hblocked, hmarked⟩
  case isFalse hopen =>
    obtain ⟨balance, hgranted⟩ := grantPeriod_posts (b := { b with invoices := invoices }) hrow h
    exact .inr ⟨by simpa using hopen, balance, hgranted⟩

/-! ## Prorated upgrades -/

theorem settleDelta_rebalanced {p : PaidInvoice} {f : DeltaFunding} {state : InvoiceState}
    {grantId : Nat} (h : settleDelta tx b e p f state grantId = .ok b') :
    Rebalanced p.account.id b b' := by
  simp only [settleDelta, bind_eq_ok] at h
  obtain ⟨⟨b₁, _⟩, hclaw, ⟨b₂, _⟩, hpack, h⟩ := h
  have hcollected : Rebalanced p.account.id b b₂ :=
    (collectClawbackDebts_rebalanced hclaw).trans (collectPackDebtsFromSubscription_rebalanced hpack)
  split at h
  · rw [pure_eq_ok] at h
    exact h ▸ hcollected
  · simp only [bind_eq_ok, pure_eq_ok] at h
    obtain ⟨⟨_, _⟩, hown, rfl⟩ := h
    exact hcollected.trans (applyClawbackToGrant_rebalanced hown)

/-- An upgrade finds its allocation or a closed Invoice, or adds the credit difference. -/
theorem applyDelta_posts {p : PaidInvoice} {transition : PlanChange} {f : DeltaFunding}
    (hrow : b.accounts.find? p.account.id = some p.account)
    (h : applyDelta tx b e p transition f = .ok effect) :
    (((fundingOfInvoice b p.invoiceId).isSome = true ∨
        (recordedInvoice b (p.deltaFacts f)).closed = true) ∧
      Posts p.account p.account b effect.billing) ∨
    ((recordedInvoice b (p.deltaFacts f)).closed = false ∧ ∃ newBalance balance,
      Posts p.account ((projectDelta e p f newBalance p.account).withBalance balance) b
        effect.billing) := by
  -- an existing allocation of the Invoice is a conflict and stops the delta
  obtain ⟨invoices, -, ⟨hconflict, hb⟩ | ⟨-, fundings, -, h⟩⟩ := applyDelta_eq_ok h
  · refine .inl ⟨.inl hconflict, ?_⟩
    rw [hb]
    exact .refl hrow _
  split at h
  -- a closed Invoice is recorded by a zero row
  case isTrue hclosed =>
    simp only [blockDelta, bind_eq_ok, Billing.update_eq_ok, pure_eq_ok] at h
    obtain ⟨b₁, hledger, _, ⟨invoices', -, rfl⟩, _, ⟨planChanges, -, rfl⟩, rfl⟩ := h
    obtain ⟨hentries, haccounts⟩ :=
      Entries.insertLedger (x := p.account.creditsBalance) hledger (by omega)
    refine .inl ⟨.inr hclosed, ?_⟩
    change Posting _ _ _ b₁.accounts _ b₁.ledger
    rw [haccounts]
    exact ⟨hrow, hrow, fun _ _ => rfl, hentries⟩
  case isFalse hopen =>
    simp only [grantDelta, bind_eq_ok, checkedAddAtoms_eq_ok, Billing.update_eq_ok, pure_eq_ok,
      Stored.table, Stored.install] at h
    obtain ⟨newBalance, ⟨hsum, -⟩, _, ⟨accounts, haccounts, rfl⟩, b₁, hledger, _,
      ⟨invoices', -, rfl⟩, b₂, hsettle, _, ⟨planChanges, -, rfl⟩, rfl⟩ := h
    -- the upgrade is posted first; settling the debts of the account only moves the balance
    have hgranted : Posts p.account (projectDelta e p f newBalance p.account) b b₁ := by
      refine .entry hrow (fun _ => rfl) haccounts hledger ?_ rfl rfl
      simp only [projectDelta]
      omega
    have hsettled : Rebalanced p.account.id b₁ { b₂ with planChanges := planChanges } := by
      have hinvoice : Rebalanced p.account.id b₁ { b₁ with invoices := invoices' } := .of_eq rfl rfl
      have hplan : Rebalanced p.account.id b₂ { b₂ with planChanges := planChanges } :=
        .of_eq rfl rfl
      exact (hinvoice.trans (settleDelta_rebalanced hsettle)).trans hplan
    obtain ⟨balance, hposted⟩ := Rebalanced.after hgranted hsettled
    exact .inr ⟨by simpa using hopen, newBalance, balance, hposted⟩

end StripeEntitlements
