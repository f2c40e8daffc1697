import StripeEntitlements.Redelivery.Invoices

/-!
# Redelivered Invoice Clawbacks

A second refund or dispute of an Invoice records the same cumulative facts. A closure is
marked as applied; a partial refund already removed what the balance covers and keeps the
rest as debt, so repeating it removes nothing.

## Main results

- `RecoveriesTake` — the ledger never books a recovery that gives atoms
- `applyClawbackToGrant_again` — repeating a clawback of a grant removes nothing
- `clawback_redelivered` — the second delivery changes nothing
-/

namespace StripeEntitlements

open Relational

variable {cfg : Config} {tx tx' : Tx} {b b' : Billing} {e : Event} {id : Json}
  {effect effect' : Effect}

/-! ## Recoveries -/

/-- Every recovery in the ledger takes atoms. -/
def RecoveriesTake (b : Billing) : Prop :=
  ∀ r ∈ b.ledger.rows, r.reason.isRecovery = true → r.delta ≤ 0

theorem RecoveriesTake.settlement (h : RecoveriesTake b) (hs : Settlement b b') :
    RecoveriesTake b' := by
  intro r hr hreason
  rcases hs.ledger.mem_or hr with hold | hnew
  · exact h r hold hreason
  · exact hnew.recovery hreason

theorem RecoveriesTake.of_eq (h : RecoveriesTake b) (hledger : b'.ledger = b.ledger) :
    RecoveriesTake b' := by
  unfold RecoveriesTake
  rw [hledger]
  exact h

/-- What selected recoveries took. -/
theorem taken_nonneg (h : RecoveriesTake b) {p : LedgerRow → Bool}
    (hp : ∀ r, p r = true → r.reason.isRecovery = true) :
    0 ≤ ((b.ledger.select p).map fun r : LedgerRow => -r.delta).sum := by
  refine List.sum_nonneg fun x hx => ?_
  obtain ⟨r, hr, rfl⟩ := List.mem_map.1 hx
  obtain ⟨hmem, hpr⟩ := List.mem_filter.1 hr
  have := h r hmem (hp r hpr)
  omega

/-- A further recovery of `removed` atoms adds them to what was taken. -/
theorem taken_insert (h : RecoveriesTake b) {p : LedgerRow → Bool} {r : LedgerRow}
    {ledger : Table LedgerRow} {removed : Nat}
    (hp : ∀ r, p r = true → r.reason.isRecovery = true)
    (hinsert : b.ledger.insert? r = some ledger) (hr : p r = true) (hdelta : r.delta = -removed) :
    ((ledger.select p).map fun r : LedgerRow => -r.delta).sum.toNat =
      ((b.ledger.select p).map fun r : LedgerRow => -r.delta).sum.toNat + removed := by
  have hnonneg := taken_nonneg h hp
  have hrow : [r].filter p = [r] := by simp [hr]
  rw [Table.select, Table.insert?_eq_some.1 hinsert, List.filter_append, hrow, List.map_append,
    List.sum_append]
  simp only [List.map_cons, List.map_nil, List.sum_cons, List.sum_nil, add_zero, hdelta, neg_neg]
  change (((b.ledger.select p).map fun r : LedgerRow => -r.delta).sum + (removed : ℤ)).toNat = _
  omega

theorem LedgerReason.isClawback.recovery {reason : LedgerReason} (h : reason.isClawback = true) :
    reason.isRecovery = true := by
  cases reason <;> first | rfl | cases h

/-! ## Clawback of one grant -/

/-- Removing a clawed share adds it to what was clawed back from the grant. -/
theorem removeFromBalance_clawedBack {accountId invoiceId eventId : String}
    {balance removed grantEpoch grantId : Nat} {reason : LedgerReason} (hs : RecoveriesTake b)
    (hgrant : ∃ r ∈ b.ledger.rows, r.id = grantId) (hreason : reason.isClawback = true)
    (h : removeFromBalance b accountId balance removed grantEpoch reason eventId invoiceId =
      .ok b') : clawedBack b' invoiceId grantId = clawedBack b invoiceId grantId + removed := by
  rcases removeFromBalance_eq_ok h with ⟨rfl, rfl⟩ | ⟨-, accounts, -, hledger⟩
  · rfl
  rw [Billing.insertLedger, Billing.insert_eq_ok] at hledger
  obtain ⟨ledger, hinsert, rfl⟩ := hledger
  obtain ⟨r, hr, rfl⟩ := hgrant
  have hlt : r.id < nextSerial LedgerRow.id b.ledger.rows := lt_nextSerial hr
  refine taken_insert hs (fun r hr => ?_) hinsert ?_ rfl
  · simp only [Bool.and_eq_true] at hr
    exact LedgerReason.isClawback.recovery hr.2
  · simp [hlt, hreason]

/-- The balance after a removal. -/
theorem removeFromBalance_account {accountId invoiceId eventId : String}
    {removed grantEpoch : Nat} {reason : LedgerReason} {row : Account}
    (hrow : b.accounts.find? accountId = some row)
    (h : removeFromBalance b accountId row.creditsBalance removed grantEpoch reason eventId
      invoiceId = .ok b') :
    b'.accounts.find? accountId =
      some { row with creditsBalance := row.creditsBalance - removed } := by
  rcases removeFromBalance_eq_ok h with ⟨rfl, rfl⟩ | ⟨-, accounts, haccounts, hledger⟩
  · exact hrow
  · rw [Billing.insertLedger, Billing.insert_eq_ok] at hledger
    obtain ⟨ledger, -, rfl⟩ := hledger
    have hself := Table.find?_update_self haccounts fun _ => rfl
    rw [hrow] at hself
    exact hself

/-- What annual refunds removed, after one more removal. -/
theorem removeFromBalance_overgrant {accountId invoiceId eventId : String}
    {balance removed grantEpoch : Nat} (hs : RecoveriesTake b)
    (h : removeFromBalance b accountId balance removed grantEpoch .annualRefundOvergrant eventId
      invoiceId = .ok b') :
    overgrantRemoved b' invoiceId = overgrantRemoved b invoiceId + removed := by
  rcases removeFromBalance_eq_ok h with ⟨rfl, rfl⟩ | ⟨-, accounts, -, hledger⟩
  · rfl
  rw [Billing.insertLedger, Billing.insert_eq_ok] at hledger
  obtain ⟨ledger, hinsert, rfl⟩ := hledger
  refine taken_insert hs (fun r hr => ?_) hinsert (by simp) rfl
  simp only [Bool.and_eq_true, decide_eq_true_eq] at hr
  rw [hr.2]
  rfl

/-- Raising a recorded debt to the same facts changes nothing. -/
theorem raiseClawbackDebt_again {key : ClawbackDebtKey} {target collected : Nat}
    (h : raiseClawbackDebt tx b key target collected = .ok b') :
    raiseClawbackDebt tx' b' key target collected = .ok b' := by
  unfold raiseClawbackDebt at h ⊢
  split at h
  case isTrue hzero =>
    rw [if_pos hzero]
    rfl
  -- after the first call the debt covers both facts, so the maxima are what is stored
  case isFalse hpos =>
    rw [if_neg hpos]
    have hraised : ∃ d, b'.clawbackDebts.find? key = some d ∧ target ≤ d.targetUnits ∧
        collected ≤ d.collectedUnits := by
      split at h
      case h_1 hnone =>
        rw [Billing.insert_eq_ok] at h
        obtain ⟨debts, hinsert, rfl⟩ := h
        exact ⟨_, (Table.find?_insert hinsert _).trans (if_pos rfl), le_refl _, le_refl _⟩
      case h_2 d hd =>
        rw [Billing.update_eq_ok] at h
        obtain ⟨debts, hupdate, rfl⟩ := h
        have hself := Table.find?_update_self hupdate fun _ => rfl
        rw [show (Stored.table b : Table ClawbackDebt).find? key = some d from hd] at hself
        exact ⟨_, hself, Nat.le_max_right _ _, Nat.le_max_right _ _⟩
    obtain ⟨d, hd, htarget, hcollected⟩ := hraised
    simp only [hd]
    refine Billing.update_of_fixed fun r hr => ?_
    have : d = r := Option.some.inj (hd.symm.trans hr)
    subst this
    rw [Nat.max_eq_left htarget, Nat.max_eq_left hcollected]

/-- **Repeating a clawback of a grant removes nothing** and raises no debt. The first one took what
    the balance had and owes the rest up to the target, so the second one finds the same target
    met. -/
theorem applyClawbackToGrant_again {accountId invoiceId eventId eventId' : String}
    {grantId units amount amountRefunded removed : Nat} {full : Bool}
    {reason reason' : LedgerReason} (hs : RecoveriesTake b)
    (hgrant : ∃ r ∈ b.ledger.rows, r.id = grantId) (hreason : reason.isClawback = true)
    (h : applyClawbackToGrant tx b accountId invoiceId grantId units amount amountRefunded full
      reason eventId = .ok (b', removed)) :
    applyClawbackToGrant tx' b' accountId invoiceId grantId units amount amountRefunded full
      reason' eventId' = .ok (b', 0) := by
  -- what was clawed back has grown by what the balance lost
  obtain ⟨target, row, b₁, htarget, hrow, hremoved, hremove, hdebt⟩ := applyClawbackToGrant_eq_ok h
  have hclawed := removeFromBalance_clawedBack hs hgrant hreason hremove
  have haccount := removeFromBalance_account hrow hremove
  obtain ⟨debts, hb⟩ := raiseClawbackDebt_eq_ok hdebt
  obtain ⟨row', haccount', hbalance, hepoch⟩ : ∃ row', b'.accounts.find? accountId = some row' ∧
      row'.creditsBalance = row.creditsBalance - removed ∧ row'.grantEpoch = row.grantEpoch := by
    rw [hb]
    exact ⟨_, haccount, rfl, rfl⟩
  have hclawed' : clawedBack b' invoiceId grantId =
      clawedBack b invoiceId grantId + removed := hb ▸ hclawed
  -- so either the target is reached or the balance is empty
  have hzero : min (target - (clawedBack b invoiceId grantId + removed))
      (row.creditsBalance - removed) = 0 := by omega
  simp only [applyClawbackToGrant, haccount', fetch, bind_eq_ok, pure_eq_ok, ← htarget, hclawed']
  refine ⟨row', rfl, ?_⟩
  simp only [hbalance, hepoch, hzero]
  -- nothing is removed the second time, and the debt is raised to the same facts
  refine ⟨b', ?_, b', ?_, rfl⟩
  · rw [removeFromBalance, if_pos rfl]
    rfl
  · rw [add_zero]
    exact raiseClawbackDebt_again hdebt

/-! ## The entitlement of an open Invoice -/

/-- The atoms the annual slots of the Invoice were granted in excess. -/
def ClawbackTarget.annualExcess (c : ClawbackTarget) : Nat :=
  (c.account.annualGrantsIssued - c.slotsAllowed) * c.state.grantUnitsPerSlot

def ClawbackTarget.reason (c : ClawbackTarget) : LedgerReason :=
  if c.facts.dispute then .disputeClawback else .refundClawback

/-- A clawback of an open Invoice has nothing left to do. -/
structure ClawbackTarget.Settled (b : Billing) (c : ClawbackTarget) : Prop where
  /-- The excess slots were taken back, or nothing is left to take. -/
  excess : c.annualFunding = true →
    min (c.annualExcess - overgrantRemoved b c.facts.invoiceId) c.account.creditsBalance = 0
  limited : c.annualFunding = true → ∀ a, b.accounts.find? c.account.id = some a →
    a.annualGrantsAllowed ≤ max c.account.annualGrantsIssued c.slotsAllowed
  revoked : c.annualOvergrant = true → c.account.entitlementRevoked = true
  /-- The refunded share was taken back, as far as the balance covered it. -/
  share : c.annualFunding = false → ∀ (tx : Tx) (eventId : String),
    applyClawbackToGrant tx b c.account.id c.facts.invoiceId c.grant.id c.grant.entitlementUnits
      c.state.amountTotal c.state.amountRefunded c.state.closed c.reason eventId = .ok (b, 0)

theorem ClawbackTarget.Settled.of_annual {c : ClawbackTarget} (hannual : c.annualFunding = true)
    (hexcess : min (c.annualExcess - overgrantRemoved b c.facts.invoiceId)
      c.account.creditsBalance = 0)
    (ha : b.accounts.find? c.account.id = some c.account)
    (hallowed : c.account.annualGrantsAllowed ≤ max c.account.annualGrantsIssued c.slotsAllowed)
    (hrevoked : c.annualOvergrant = true → c.account.entitlementRevoked = true) :
    c.Settled b where
  excess _ := hexcess
  limited _ a ha' := by
    rw [ha] at ha'
    cases ha'
    exact hallowed
  revoked := hrevoked
  share hf := absurd (hannual.symm.trans hf) Bool.noConfusion

theorem clawEntitlement_settled {c : ClawbackTarget} (hopen : c.state.closed = false)
    (hsettled : c.Settled b) (h : clawEntitlement tx b e c = .ok effect) : effect.billing = b := by
  -- each write of the clawback is shown to write what is there
  have hbalance : clawBalance tx b e c = .ok (b, 0) := by
    unfold clawBalance
    -- an annual funding claws its excess, any other its share of the grant
    cases hannual : c.annualFunding with
    | true =>
      simp only [hopen, Bool.not_false, Bool.and_self, if_true]
      change (do
        let b' ← removeFromBalance b c.account.id c.account.creditsBalance
          (min (c.annualExcess - overgrantRemoved b c.facts.invoiceId) c.account.creditsBalance)
          c.account.grantEpoch .annualRefundOvergrant e.idText c.facts.invoiceId
        pure (b', min (c.annualExcess - overgrantRemoved b c.facts.invoiceId)
          c.account.creditsBalance)) = _
      rw [hsettled.excess hannual, removeFromBalance, if_pos rfl]
      rfl
    | false =>
      simp only [Bool.false_and, Bool.false_eq_true, if_false]
      exact hsettled.share hannual tx e.idText
  -- an open Invoice reverts no leaf
  have hleaf : leafDeltaRevert b c = none := by
    simp [leafDeltaRevert, hopen]
  -- the annual slots are at their limit already
  have hslots : limitAnnualSlots b c = .ok b := by
    unfold limitAnnualSlots
    split
    case isTrue hannual =>
      refine Billing.update_of_fixed fun a ha => ?_
      have := hsettled.limited hannual a ha
      simp only [hopen, Bool.false_eq_true, if_false]
      rw [Nat.min_eq_left (by omega)]
    case isFalse => rfl
  -- the entitlement is revoked already, or nothing asks for it
  have hrevoked : (((c.state.closed && (none : Option FundingAllocation).isNone) ||
      c.annualOvergrant) && !c.account.entitlementRevoked) = false := by
    cases hover : c.annualOvergrant with
    | true => simp [hsettled.revoked hover]
    | false => simp [hopen]
  -- so the state after each step is the state before it
  obtain ⟨b₁, removed, b₂, b₃, b₄, hb₁, hb₂, hb₃, hb₄, hlast⟩ := clawEntitlement_eq_ok h
  cases hbalance.symm.trans hb₁
  simp only [hleaf] at hb₂ hb₄
  subst hb₂
  cases hslots.symm.trans hb₃
  rw [if_neg (by rw [hrevoked]; exact Bool.false_ne_true)] at hb₄
  rw [if_neg (by rw [hopen]; exact Bool.false_ne_true)] at hlast
  exact hlast.trans hb₄

/-! ## What a clawback of the entitlement keeps -/

/-- An account without the columns a clawback of the entitlement writes. -/
def Account.kept (a : Account) : Account :=
  { a with
    planKey := ""
    planInterval := none
    creditsBalance := 0
    grantEpoch := 0
    annualGrantsAllowed := 0
    creditExpiresAt := none
    entitlementRevoked := false }

structure Clawed (b b' : Billing) : Prop where
  accounts : b'.accounts.rows.map Account.kept = b.accounts.rows.map Account.kept
  ledger : Table.Appends LedgerRow.Settles b.ledger b'.ledger

namespace Clawed

variable {b'' : Billing}

theorem refl (b : Billing) : Clawed b b := ⟨rfl, .refl _⟩

theorem trans (h : Clawed b b') (h' : Clawed b' b'') : Clawed b b'' :=
  ⟨h'.accounts.trans h.accounts, h.ledger.trans h'.ledger⟩

theorem of_settlement (h : Settlement b b') : Clawed b b' := by
  refine ⟨?_, h.ledger⟩
  have hkept : ∀ t : Table Account,
      t.rows.map Account.kept = (t.rows.map Account.static).map Account.kept := fun t => by
    rw [List.map_map]
    rfl
  rw [hkept, hkept, h.accounts]

theorem of_eq (haccounts : b'.accounts = b.accounts) (hledger : b'.ledger = b.ledger) :
    Clawed b b' := by
  refine ⟨by rw [haccounts], ?_⟩
  rw [hledger]
  exact .refl _

theorem update {k : String} {f : Account → Account} (h : b.update k f = .ok b')
    (hf : ∀ a, (f a).kept = a.kept) : Clawed b b' := by
  rw [Billing.update_eq_ok] at h
  obtain ⟨accounts, haccounts, rfl⟩ := h
  exact ⟨Table.map_updateWhere hf haccounts, .refl _⟩

theorem account (h : Clawed b b') {k : String} {a : Account} (ha : b.accounts.find? k = some a) :
    ∃ a', b'.accounts.find? k = some a' ∧ a'.kept = a.kept :=
  (Table.Grows.of_map_eq h.accounts).find? Account.id (fun _ => rfl) ha

theorem invoiceGrant_eq (h : Clawed b b') (invoiceId : String) :
    invoiceGrant b' invoiceId = invoiceGrant b invoiceId := by
  rw [invoiceGrant, h.ledger.select_eq fun r hr => by simp [hr.slot]]
  rfl

end Clawed

theorem clawBalance_settlement {c : ClawbackTarget} {removed : Nat}
    (h : clawBalance tx b e c = .ok (b', removed)) : Settlement b b' := by
  unfold clawBalance at h
  split at h
  · simp only [bind_eq_ok, pure_eq_ok] at h
    obtain ⟨b₁, hremove, heq⟩ := h
    cases heq
    exact removeFromBalance_settlement hremove
  · exact applyClawbackToGrant_settlement h

theorem revertLeaf_clawed {c : ClawbackTarget} {f : FundingAllocation}
    (h : revertLeaf b e c f = .ok b') : Clawed b b' ∧ b'.invoices = b.invoices := by
  simp only [revertLeaf, bind_eq_ok, Billing.insertLedger, Billing.insert_eq_ok] at h
  obtain ⟨_, -, b₁, haccount, _, hfunding, _, ⟨ledger, hledger, rfl⟩, hplan⟩ := h
  have h₁ : Clawed b b₁ := .update haccount fun _ => rfl
  rw [Billing.update_eq_ok] at haccount hfunding hplan
  obtain ⟨accounts, -, rfl⟩ := haccount
  obtain ⟨fundings, -, rfl⟩ := hfunding
  obtain ⟨planChanges, -, rfl⟩ := hplan
  refine ⟨h₁.trans ⟨rfl, ?_⟩, rfl⟩
  exact .insert hledger ⟨rfl, rfl, fun hr => by cases hr⟩

theorem limitAnnualSlots_clawed {c : ClawbackTarget} (h : limitAnnualSlots b c = .ok b') :
    Clawed b b' ∧ b'.invoices = b.invoices := by
  unfold limitAnnualSlots at h
  split at h
  · have hclawed : Clawed b b' := .update h fun _ => rfl
    rw [Billing.update_eq_ok] at h
    obtain ⟨_, -, rfl⟩ := h
    exact ⟨hclawed, rfl⟩
  · rw [pure_eq_ok] at h
    exact h ▸ ⟨.refl _, rfl⟩

theorem revokeEntitlement_clawed {accountId : String}
    (h : revokeEntitlement tx b accountId = .ok b') : Clawed b b' ∧ b'.invoices = b.invoices := by
  have hclawed : Clawed b b' := .update h fun _ => rfl
  rw [revokeEntitlement, Billing.update_eq_ok] at h
  obtain ⟨_, -, rfl⟩ := h
  exact ⟨hclawed, rfl⟩

/-- A closure is marked on its Invoice; a partial refund leaves the Invoice alone. -/
theorem clawEntitlement_clawed {c : ClawbackTarget} (h : clawEntitlement tx b e c = .ok effect) :
    Clawed b effect.billing ∧
      effect.billing.invoices.find? c.facts.invoiceId =
        (b.invoices.find? c.facts.invoiceId).map fun i =>
          if c.state.closed then { i with closureApplied := true } else i := by
  -- balance, leaf, slots and entitlement leave the Invoice rows alone; the last step marks it
  obtain ⟨b₁, removed, b₂, b₃, b₄, hb₁, hb₂, hb₃, hb₄, hlast⟩ := clawEntitlement_eq_ok h
  have hs₁ := clawBalance_settlement hb₁
  have h₂ : Clawed b₁ b₂ ∧ b₂.invoices = b₁.invoices := by
    split at hb₂
    · exact hb₂ ▸ ⟨.refl _, rfl⟩
    · exact revertLeaf_clawed hb₂
  have h₃ := limitAnnualSlots_clawed hb₃
  have h₄ : Clawed b₃ b₄ ∧ b₄.invoices = b₃.invoices := by
    split at hb₄
    · exact revokeEntitlement_clawed hb₄
    · exact hb₄ ▸ ⟨.refl _, rfl⟩
  have hclawed : Clawed b b₄ := ((Clawed.of_settlement hs₁).trans h₂.1).trans (h₃.1.trans h₄.1)
  have hinvoices : b₄.invoices = b.invoices :=
    h₄.2.trans (h₃.2.trans (h₂.2.trans hs₁.invoices))
  -- only a closure is marked
  cases hclosed : c.state.closed with
  | true =>
    rw [if_pos hclosed, Billing.update_eq_ok] at hlast
    obtain ⟨invoices, hupdate, hbilling⟩ := hlast
    rw [← hbilling]
    have hself := Table.find?_update_self hupdate fun _ => rfl
    simp only [Stored.table, hinvoices] at hself
    exact ⟨hclawed.trans (.of_eq rfl rfl), hself⟩
  | false =>
    rw [if_neg (by rw [hclosed]; exact Bool.false_ne_true)] at hlast
    rw [hlast, hinvoices]
    exact ⟨hclawed, by simp⟩

/-! ## A first clawback of an open Invoice -/

/-- A clawback of an open Invoice leaves nothing to do for a second one. -/
theorem clawEntitlement_open {c : ClawbackTarget} (hs : RecoveriesTake b)
    (hrow : b.accounts.find? c.account.id = some c.account)
    (hgrant : c.grant ∈ b.ledger.rows) (hopen : c.state.closed = false)
    (h : clawEntitlement tx b e c = .ok effect) :
    ∃ a, effect.billing.accounts.find? c.account.id = some a ∧
      ({ c with account := a } : ClawbackTarget).Settled effect.billing ∧
      effect.billing.fundings = b.fundings := by
  obtain ⟨b₁, removed, b₂, b₃, b₄, hb₁, hb₂, hb₃, hb₄, hlast⟩ := clawEntitlement_eq_ok h
  have hleaf : leafDeltaRevert b₁ c = none := by simp [leafDeltaRevert, hopen]
  simp only [hleaf] at hb₂ hb₄
  subst hb₂
  rw [if_neg (by rw [hopen]; exact Bool.false_ne_true)] at hlast
  subst hlast
  cases hannual : c.annualFunding with
  | false =>
    have hover : c.annualOvergrant = false := by simp [ClawbackTarget.annualOvergrant, hannual]
    simp only [limitAnnualSlots, hannual, Bool.false_eq_true, if_false, pure_eq_ok] at hb₃
    subst hb₃
    rw [if_neg (by simp [hopen, hover])] at hb₄
    simp only [clawBalance, hannual, Bool.false_and, Bool.false_eq_true, if_false] at hb₁
    obtain ⟨a, ha, hstatic⟩ := (applyClawbackToGrant_settlement hb₁).account hrow
    have hid : a.id = c.account.id := Account.id_of_static hstatic
    have hannual' : ({ c with account := a } : ClawbackTarget).annualFunding = false := by
      have hfunding : a.fundingInvoiceId = c.account.fundingInvoiceId :=
        (congrArg Account.fundingInvoiceId hstatic :)
      rw [← hannual]
      simp only [ClawbackTarget.annualFunding, hfunding]
    have hover' : ({ c with account := a } : ClawbackTarget).annualOvergrant = false := by
      simp [ClawbackTarget.annualOvergrant, hannual']
    rw [hb₄]
    refine ⟨a, ha, ⟨?_, ?_, ?_, ?_⟩,
      (applyClawbackToGrant_settlement hb₁).fundings⟩
    · exact fun hf => absurd (hannual'.symm.trans hf) Bool.false_ne_true
    · exact fun hf => absurd (hannual'.symm.trans hf) Bool.false_ne_true
    · exact fun hf => absurd (hover'.symm.trans hf) Bool.false_ne_true
    · intro _ tx' eventId
      have hreason : c.reason.isClawback = true := by
        unfold ClawbackTarget.reason
        split <;> rfl
      rw [show ({ c with account := a } : ClawbackTarget).account.id = c.account.id from hid]
      exact applyClawbackToGrant_again hs ⟨_, hgrant, rfl⟩ hreason hb₁
  | true =>
    simp only [clawBalance, hannual, hopen, Bool.not_false, Bool.and_self, if_true, bind_eq_ok,
      pure_eq_ok] at hb₁
    obtain ⟨b₁', hremove, heq⟩ := hb₁
    obtain ⟨rfl, hremoved⟩ := Prod.mk.inj heq
    rw [hremoved] at hremove
    have ha₁ := removeFromBalance_account hrow hremove
    have htaken := removeFromBalance_overgrant hs hremove
    have hs₁ := removeFromBalance_settlement hremove
    simp only [limitAnnualSlots, hannual, hopen, Bool.false_eq_true, if_true, if_false] at hb₃
    rw [Billing.update_eq_ok] at hb₃
    obtain ⟨accounts₃, haccounts₃, rfl⟩ := hb₃
    have ha₃ := Table.find?_update_self haccounts₃ fun _ => rfl
    simp only [Stored.table, ha₁, Option.map_some] at ha₃
    -- nothing of the excess is left once the removal is booked
    have hexcess : min (c.annualExcess - overgrantRemoved b₁' c.facts.invoiceId)
        (c.account.creditsBalance - removed) = 0 := by
      rw [htaken]
      have : removed =
          min (c.annualExcess - overgrantRemoved b c.facts.invoiceId) c.account.creditsBalance :=
        hremoved.symm
      omega
    split at hb₄
    case isTrue hrevoke =>
      rw [revokeEntitlement, Billing.update_eq_ok] at hb₄
      obtain ⟨accounts₄, haccounts₄, hbilling⟩ := hb₄
      have ha₄ := Table.find?_update_self haccounts₄ fun _ => rfl
      simp only [Stored.table, Stored.install, ha₃, Option.map_some] at ha₄
      rw [← hbilling]
      exact ⟨_, ha₄, .of_annual hannual hexcess ha₄ (Nat.min_le_right _ _) fun _ => rfl,
        hs₁.fundings⟩
    case isFalse hrevoke =>
      rw [hb₄]
      refine ⟨_, ha₃, .of_annual hannual hexcess ha₃ (Nat.min_le_right _ _) fun hover => ?_,
        hs₁.fundings⟩
      have hover' : c.annualOvergrant = true := hover
      simpa [hover', hopen] using hrevoke

/-! ## The funding allocation -/

theorem fundingOfInvoice_of_mem {f : FundingAllocation} (hf : f ∈ b.fundings.rows) :
    fundingOfInvoice b f.stripeInvoiceId = some f := by
  have hsome : (fundingOfInvoice b f.stripeInvoiceId).isSome :=
    List.find?_isSome.2 ⟨f, hf, decide_eq_true rfl⟩
  obtain ⟨f', hf'⟩ := Option.isSome_iff_exists.1 hsome
  have hinvoice := List.find?_some hf'
  simp only [decide_eq_true_eq] at hinvoice
  rw [hf', b.fundings.eq_of_index_eq
    (show (fun f : FundingAllocation => some [f.stripeInvoiceId]) ∈ Relation.indexes by
      simp [Relation.indexes])
    (List.mem_of_find?_eq_some hf') hf (x := [f.stripeInvoiceId]) (by simp [hinvoice]) rfl]

/-- Advancing an allocation to the same facts changes nothing. -/
theorem refundFunding_again {state : InvoiceState} {f : FundingAllocation}
    (hf : fundingOfInvoice b f.stripeInvoiceId = some f)
    (h : refundFunding b state f = .ok b') :
    ∃ fundings f', b' = { b with fundings := fundings } ∧
      fundingOfInvoice b' f.stripeInvoiceId = some f' ∧
      (state.closed = true → f'.status.isClosed = true) ∧
      ∀ b'' : Billing, b''.fundings = b'.fundings → refundFunding b'' state f' = .ok b'' := by
  simp only [refundFunding, Billing.update_eq_ok] at h
  obtain ⟨fundings, hupdate, rfl⟩ := h
  have hself := Table.find?_update_self hupdate fun _ => rfl
  rw [show (Stored.table b : Table FundingAllocation).find? f.id = some f from
    Table.find?_of_mem (List.mem_of_find?_eq_some hf), Option.map_some] at hself
  -- the allocation after the first advance shows the larger of what it had and what it got
  obtain ⟨f', hfind, hinvoice, hdelta, hrefunded, hstatus⟩ : ∃ f',
      fundings.find? f.id = some f' ∧ f'.stripeInvoiceId = f.stripeInvoiceId ∧
        f'.entitlementDelta = f.entitlementDelta ∧
        f'.refundedUnits = max f.refundedUnits (state.refundedUnits f.entitlementDelta) ∧
        f'.status = state.fundingStatus (state.refundedUnits f.entitlementDelta) :=
    ⟨_, hself, rfl, rfl, rfl, rfl⟩
  have hmem := Table.find?_mem hfind
  -- it is still the Invoice's allocation, closed if the Invoice is, and fixed under a repeat
  refine ⟨fundings, f', rfl, ?_, fun hclosed => ?_, fun b'' hfundings => ?_⟩
  · rw [← hinvoice]
    exact fundingOfInvoice_of_mem (b := Stored.install b fundings) hmem
  · simp only [InvoiceState.closed, Bool.or_eq_true] at hclosed
    rw [hstatus, InvoiceState.fundingStatus]
    rcases hclosed with hfull | hdisputed
    · rw [if_pos hfull]
      split <;> rfl
    · rw [if_pos hdisputed]
      rfl
  -- the repeat writes the same status and the same maximum
  · refine Billing.update_of_fixed fun r hr => ?_
    have hid : f'.id = f.id := Table.find?_key hfind
    have : f' = r := by
      rw [hid, show (Stored.table b'' : Table FundingAllocation) = fundings from hfundings,
        hfind] at hr
      exact Option.some.inj hr
    subst this
    have hunits : max f'.refundedUnits (state.refundedUnits f'.entitlementDelta) =
        f'.refundedUnits := by
      rw [hdelta]
      omega
    rw [hunits, hdelta, ← hstatus, ← hdelta]

/-! ## The second delivery -/

/-- Once a clawback ran, repeating it for the rows it left changes nothing, unless its
    Invoice is closed with nothing left to apply. -/
structure Repeats (b' : Billing) (account : Account) (f : ClawbackFacts) (state : InvoiceState)
    (grant : LedgerRow) (a : Account) (s : InvoiceState) : Prop where
  row : b'.accounts.find? account.id = some a
  kept : a.kept = account.kept
  invoice : b'.invoices.find? f.invoiceId = some s
  marked : s = state ∨ s = { state with closureApplied := true }
  granted : invoiceGrant b' f.invoiceId = some grant
  again : (s.closed && s.closureApplied) = false →
    ∀ (tx : Tx) (e : Event) (effect : Effect),
      clawFundedInvoice tx b' e a f s grant = .ok effect → effect.billing = b'

section

variable {account : Account} {f : ClawbackFacts} {state : InvoiceState} {grant : LedgerRow}

theorem invoiceGrant_mem {invoiceId : String} (h : invoiceGrant b invoiceId = some grant) :
    grant ∈ b.ledger.rows := (List.mem_filter.1 (newestBy_mem h)).1

/-- A clawback that changed nothing changes nothing again. -/
theorem Repeats.of_unchanged (haccount : b.accounts.find? account.id = some account)
    (hinvoice : b.invoices.find? f.invoiceId = some state)
    (hgrant : invoiceGrant b f.invoiceId = some grant)
    (hagain : ∀ (tx : Tx) (e : Event) (effect : Effect),
      clawFundedInvoice tx b e account f state grant = .ok effect → effect.billing = b) :
    Repeats b account f state grant account state :=
  ⟨haccount, rfl, hinvoice, .inl rfl, hgrant, fun _ => hagain⟩

/-- What a clawback of the grant leaves: an older entitlement alone, a closure marked on its
    Invoice, or an open Invoice with nothing left to do. -/
theorem clawGrant_cases {c : ClawbackTarget} (hs : RecoveriesTake b)
    (hrow : b.accounts.find? c.account.id = some c.account)
    (hgrant : c.grant ∈ b.ledger.rows) (h : clawGrant tx b e c = .ok effect) :
    (reachesEntitlement b c = false ∧ effect.billing = b) ∨
    (Clawed b effect.billing ∧
      effect.billing.invoices.find? c.facts.invoiceId =
        (b.invoices.find? c.facts.invoiceId).map (fun i =>
          if c.state.closed then { i with closureApplied := true } else i) ∧
      (c.state.closed = false → ∃ a, effect.billing.accounts.find? c.account.id = some a ∧
        ({ c with account := a } : ClawbackTarget).Settled effect.billing ∧
        effect.billing.fundings = b.fundings)) := by
  unfold clawGrant at h
  split at h
  case isTrue =>
    obtain ⟨hclawed, hinvoice⟩ := clawEntitlement_clawed h
    exact .inr ⟨hclawed, hinvoice, fun hopen => clawEntitlement_open hs hrow hgrant hopen h⟩
  case isFalse hreaches =>
    rw [pure_eq_ok] at h
    exact .inl ⟨by simpa using hreaches, h ▸ rfl⟩

theorem clawGrant_older {c : ClawbackTarget} (hreaches : reachesEntitlement b c = false)
    (h : clawGrant tx b e c = .ok effect) : effect.billing = b := by
  rw [clawGrant, if_neg (by rw [hreaches]; exact Bool.false_ne_true), pure_eq_ok] at h
  exact h ▸ rfl

theorem clawGrant_settled {c : ClawbackTarget} (hopen : c.state.closed = false)
    (hsettled : c.Settled b) (h : clawGrant tx b e c = .ok effect) : effect.billing = b := by
  unfold clawGrant at h
  split at h
  · exact clawEntitlement_settled hopen hsettled h
  · rw [pure_eq_ok] at h
    exact h ▸ rfl

/-- When neither the allocation nor the grant has anything left, nothing changes. -/
theorem clawFundedInvoice_again
    (hrefund : ∀ x, fundingOfInvoice b f.invoiceId = some x →
      refundFunding b state x = .ok b ∧ (state.closed = true → x.status.isClosed = true))
    (hclaw : ∀ x, fundingOfInvoice b f.invoiceId = x → (x.isSome = true → state.closed = false) →
      ∀ effect, clawGrant tx b e ⟨account, f, state, grant, x⟩ = .ok effect → effect.billing = b)
    (h : clawFundedInvoice tx b e account f state grant = .ok effect) : effect.billing = b := by
  simp only [clawFundedInvoice] at h
  -- a foreign Invoice stops before anything is written
  split at h
  · rw [pure_eq_ok] at h
    exact h ▸ rfl
  · cases hfunding : fundingOfInvoice b f.invoiceId with
    | none =>
      simp only [hfunding] at h
      exact hclaw none hfunding (fun hsome => by cases hsome) _ h
    -- the allocation does not move, and a closed one stops the clawback there
    | some x =>
      simp only [hfunding] at h
      obtain ⟨hfixed, hclosed⟩ := hrefund x hfunding
      split at h
      · rw [pure_eq_ok] at h
        exact h ▸ rfl
      · rw [bind_eq_ok] at h
        obtain ⟨b₁, hb₁, h⟩ := h
        cases hfixed.symm.trans hb₁
        split at h
        · rw [pure_eq_ok] at h
          exact h ▸ rfl
        case isFalse hreplayed =>
          -- what goes on to the grant is an open Invoice
          refine hclaw (some x) hfunding (fun _ => ?_) _ h
          by_contra hnot
          have hstate : state.closed = true := by simpa using hnot
          exact hreplayed (by simp [hstate, hclosed hstate])

theorem Repeats.of_clawGrant {x : Option FundingAllocation} (hs : RecoveriesTake b)
    (hrow : b.accounts.find? account.id = some account)
    (hinvoice : b.invoices.find? f.invoiceId = some state)
    (hgrant : invoiceGrant b f.invoiceId = some grant)
    (hrefund : ∀ x, fundingOfInvoice b f.invoiceId = some x →
      (∀ b' : Billing, b'.fundings = b.fundings → refundFunding b' state x = .ok b') ∧
        (state.closed = true → x.status.isClosed = true))
    (h : clawGrant tx b e ⟨account, f, state, grant, x⟩ = .ok effect) :
    ∃ a s, Repeats effect.billing account f state grant a s := by
  rcases clawGrant_cases hs hrow (invoiceGrant_mem hgrant) h with
    ⟨hreaches, hb⟩ | ⟨hclawed, hmarked, hopen⟩
  · -- an older epoch stays older
    rw [hb]
    refine ⟨account, state, .of_unchanged hrow hinvoice hgrant fun tx' e' effect' h' => ?_⟩
    refine clawFundedInvoice_again (fun x hx => ?_) (fun x _ _ _ hclaw => ?_) h'
    · exact ⟨(hrefund x hx).1 b rfl, (hrefund x hx).2⟩
    · exact clawGrant_older (c := ⟨account, f, state, grant, x⟩) hreaches hclaw
  -- the current epoch: the clawback was applied, and a closure is marked on the Invoice
  · rw [hinvoice, Option.map_some] at hmarked
    have hgrant' := (hclawed.invoiceGrant_eq f.invoiceId).trans hgrant
    cases hclosed : state.closed with
    -- a marked closure is replayed from then on
    | true =>
      obtain ⟨a, ha, hkept⟩ := hclawed.account hrow
      refine ⟨a, _, ha, hkept, hmarked, ?_, hgrant', fun hagain => ?_⟩
      · rw [if_pos hclosed]
        exact .inr rfl
      · rw [if_pos hclosed] at hagain
        rw [show ({ state with closureApplied := true } : InvoiceState).closed = true from
          hclosed] at hagain
        exact absurd hagain Bool.noConfusion
    -- a partial refund left the grant settled, so the repeat finds nothing to take
    | false =>
      obtain ⟨a, ha, hsettled, hfundings⟩ := hopen hclosed
      obtain ⟨a', ha', hkept⟩ := hclawed.account hrow
      have hsame : a' = a := Option.some.inj (ha'.symm.trans ha)
      subst hsame
      rw [if_neg (by rw [hclosed]; exact Bool.false_ne_true)] at hmarked
      refine ⟨a', state, ha, hkept, hmarked, .inl rfl, hgrant', fun _ tx' e' effect' h' => ?_⟩
      refine clawFundedInvoice_again (fun x hx => ?_) (fun x _ _ _ hclaw => ?_) h'
      · rw [fundingOfInvoice, hfundings] at hx
        exact ⟨(hrefund x hx).1 _ hfundings, (hrefund x hx).2⟩
      · exact clawGrant_settled (c := ⟨a', f, state, grant, x⟩) hclosed
          ⟨hsettled.excess, hsettled.limited, hsettled.revoked, hsettled.share⟩ hclaw

theorem clawFundedInvoice_repeats (hs : RecoveriesTake b)
    (hrow : b.accounts.find? account.id = some account)
    (hinvoice : b.invoices.find? f.invoiceId = some state)
    (hgrant : invoiceGrant b f.invoiceId = some grant)
    (h : clawFundedInvoice tx b e account f state grant = .ok effect) :
    ∃ a s, Repeats effect.billing account f state grant a s := by
  simp only [clawFundedInvoice] at h
  split at h
  -- a foreign Invoice and a conflicting funding stop in the same place again
  case isTrue howner =>
    rw [pure_eq_ok] at h
    subst h
    refine ⟨account, state, .of_unchanged hrow hinvoice hgrant fun tx' e' effect' h' => ?_⟩
    simp only [clawFundedInvoice, if_pos howner, pure_eq_ok] at h'
    exact h' ▸ rfl
  case isFalse howner =>
    cases hfunding : fundingOfInvoice b f.invoiceId with
    | none =>
      simp only [hfunding] at h
      exact Repeats.of_clawGrant hs hrow hinvoice hgrant (fun x hx => by rw [hfunding] at hx; cases hx) h
    | some x =>
      simp only [hfunding] at h
      split at h
      case isTrue hconflict =>
        rw [pure_eq_ok] at h
        subst h
        refine ⟨account, state, .of_unchanged hrow hinvoice hgrant fun tx' e' effect' h' => ?_⟩
        simp only [clawFundedInvoice, if_neg howner, hfunding, if_pos hconflict, pure_eq_ok] at h'
        exact h' ▸ rfl
      case isFalse =>
        rw [bind_eq_ok] at h
        -- the allocation has advanced, and advances no further
        obtain ⟨b₁, hb₁, h⟩ := h
        have hx : x.stripeInvoiceId = f.invoiceId := by
          simpa using List.find?_some hfunding
        obtain ⟨fundings, x', rfl, hfind, hclosed, hfixed⟩ := refundFunding_again (hx ▸ hfunding) hb₁
        have hrefund : ∀ y, fundingOfInvoice { b with fundings := fundings } f.invoiceId = some y →
            (∀ b' : Billing, b'.fundings = fundings → refundFunding b' state y = .ok b') ∧
              (state.closed = true → y.status.isClosed = true) := by
          intro y hy
          rw [← hx, hfind] at hy
          cases hy
          exact ⟨hfixed, hclosed⟩
        split at h
        case isTrue hreplayed =>
          rw [pure_eq_ok] at h
          subst h
          refine ⟨account, state, .of_unchanged hrow hinvoice hgrant fun tx' e' effect' h' => ?_⟩
          refine clawFundedInvoice_again (fun y hy => ?_) (fun y hy hopen _ _ => ?_) h'
          · exact ⟨(hrefund y hy).1 _ rfl, (hrefund y hy).2⟩
          · -- a closed allocation never reaches the grant
            rw [← hx, hfind] at hy
            have hstate := hopen (by rw [← hy]; rfl)
            simp [hstate] at hreplayed
        case isFalse =>
          exact Repeats.of_clawGrant (b := { b with fundings := fundings }) hs hrow hinvoice hgrant
            hrefund h

end

theorem clawbackGuards_redelivered :
    (clawbackGuards cfg (e.redelivered id)).toOption = (clawbackGuards cfg e).toOption := by
  simp only [clawbackGuards, toOption_bind, toOption_fetch, toOption_require, toOption_pure]
  rfl

/-- The account with the customer of the facts is the account of the clawback. -/
theorem clawbackAccount_of_customer {f : ClawbackFacts} {a : Account} (ha : a ∈ b.accounts.rows)
    (hcustomer : a.stripeCustomerId = some f.customerId) : clawbackAccount b f = some a := by
  have hsome : (b.accounts.rows.find? (·.stripeCustomerId = some f.customerId)).isSome :=
    List.find?_isSome.2 ⟨a, ha, by simp [hcustomer]⟩
  obtain ⟨a', ha'⟩ := Option.isSome_iff_exists.1 hsome
  have hsame := List.find?_some ha'
  simp only [decide_eq_true_eq] at hsame
  have : a' = a := b.accounts.eq_of_index_eq
    (show (fun a : Account => a.stripeCustomerId.map ([·])) ∈ Relation.indexes by
      simp [Relation.indexes])
    (List.mem_of_find?_eq_some ha') ha (x := [f.customerId]) (by simp [hsame])
    (by simp [hcustomer])
  rw [clawbackAccount, ha', this]
  rfl

theorem clawbackAccount_mem {f : ClawbackFacts} {a : Account} (h : clawbackAccount b f = some a) :
    a ∈ b.accounts.rows := by
  simp only [clawbackAccount, Option.or_eq_some_iff, Option.bind_eq_some_iff] at h
  rcases h with h | ⟨-, _, -, _, -, h⟩
  · exact List.mem_of_find?_eq_some h
  · exact Table.find?_mem h

theorem retainClawback_redelivered {f : ClawbackFacts} (hnone : clawbackAccount b f = none)
    (h : retainClawback b f = .ok effect) :
    clawbackAccount effect.billing f = none ∧
      ∀ effect', retainClawback effect.billing f = .ok effect' →
        effect'.billing = effect.billing := by
  simp only [retainClawback, bind_eq_ok, pure_eq_ok] at h
  obtain ⟨⟨b₁, state⟩, hrecord, rfl⟩ := h
  obtain ⟨hstate, invoices, rfl, hrecords⟩ := recordInvoice_eq_ok hrecord
  have hfind : invoices.find? f.invoiceId = some state := hstate ▸ hrecords.found
  have hknows := recordedInvoice_knows b (f.invoice none)
  refine ⟨?_, fun effect' h' => ?_⟩
  -- no account has this Customer, and the retained Invoice names none either
  · simp only [clawbackAccount, Option.or_eq_none_iff, Option.bind_eq_none_iff] at hnone ⊢
    refine ⟨hnone.1, fun i hi accountId haccount => ?_⟩
    cases hi.symm.trans hfind
    rw [hstate, recordedInvoice] at haccount
    split at haccount
    · cases haccount
    case h_2 old hold =>
      simp only [InvoiceState.merge, ClawbackFacts.invoice, Option.or_none] at haccount
      exact hnone.2 old hold accountId haccount
  -- the recorded facts contain these, so recording them again writes the same row
  · simp only [retainClawback, bind_eq_ok, pure_eq_ok] at h'
    obtain ⟨⟨b₂, state'⟩, hrecord', rfl⟩ := h'
    rw [recordInvoice_of_knows hfind (hstate ▸ hknows)] at hrecord'
    cases hrecord'
    rfl

/-- The second delivery to a known account finds what the first one left. -/
theorem applyClawback_redelivered {account : Account} {f : ClawbackFacts}
    (hs : RecoveriesTake b) (hrow : b.accounts.find? account.id = some account)
    (h : applyClawback tx b e account f = .ok effect) :
    ∃ a, effect.billing.accounts.find? account.id = some a ∧ a.kept = account.kept ∧
      ∀ (tx : Tx) (e : Event) (effect' : Effect),
        applyClawback tx effect.billing e a f = .ok effect' →
          effect'.billing = effect.billing := by
  simp only [applyClawback, bind_eq_ok] at h
  obtain ⟨⟨b₁, state⟩, hrecord, h⟩ := h
  obtain ⟨hstate, invoices, rfl, hrecords⟩ := recordInvoice_eq_ok hrecord
  have hfind : invoices.find? f.invoiceId = some state := hstate ▸ hrecords.found
  have hknows : state.Knows (f.invoice (some account.id)) := hstate ▸ recordedInvoice_knows b _
  -- a second delivery knows its facts, and goes on from the marked row
  have hsecond : ∀ (b' : Billing) (a : Account) (s : InvoiceState), a.id = account.id →
      (s = state ∨ s = { state with closureApplied := true }) →
      b'.invoices.find? f.invoiceId = some s →
      recordInvoice b' (f.invoice (some a.id)) = .ok (b', s) := by
    intro b' a s hid hmarked hs
    rw [hid]
    refine recordInvoice_of_knows hs ?_
    rcases hmarked with rfl | rfl
    · exact hknows
    · exact ⟨hknows.account, hknows.total, hknows.refunded, hknows.full, hknows.disputed⟩
  dsimp only at h
  split at h
  case isTrue hreplayed =>
    rw [pure_eq_ok] at h
    subst h
    refine ⟨account, hrow, rfl, fun tx' e' effect' h' => ?_⟩
    rw [applyClawback, hsecond _ account state rfl (.inl rfl) hfind] at h'
    simp only [bind_eq_ok, Except.ok.injEq] at h'
    obtain ⟨_, rfl, h'⟩ := h'
    dsimp only at h'
    rw [if_pos hreplayed, pure_eq_ok] at h'
    exact h' ▸ rfl
  case isFalse hreplayed =>
    cases hgrant : invoiceGrant { b with invoices := invoices } f.invoiceId with
    | none =>
      simp only [hgrant, pure_eq_ok] at h
      subst h
      refine ⟨account, hrow, rfl, fun tx' e' effect' h' => ?_⟩
      rw [applyClawback, hsecond _ account state rfl (.inl rfl) hfind] at h'
      simp only [bind_eq_ok, Except.ok.injEq] at h'
      obtain ⟨_, rfl, h'⟩ := h'
      simp only [if_neg hreplayed, hgrant, pure_eq_ok] at h'
      exact h' ▸ rfl
    | some grant =>
      simp only [hgrant] at h
      obtain ⟨a, s, hrepeats⟩ := clawFundedInvoice_repeats
        (b := { b with invoices := invoices }) hs hrow hfind hgrant h
      refine ⟨a, hrepeats.row, hrepeats.kept, fun tx' e' effect' h' => ?_⟩
      have hid : a.id = account.id := (congrArg Account.id hrepeats.kept :)
      rw [applyClawback, hsecond _ a s hid hrepeats.marked hrepeats.invoice] at h'
      simp only [bind_eq_ok, Except.ok.injEq] at h'
      obtain ⟨_, rfl, h'⟩ := h'
      dsimp only at h'
      split at h'
      case isTrue =>
        rw [pure_eq_ok] at h'
        exact h' ▸ rfl
      case isFalse hopen =>
        simp only [hrepeats.granted] at h'
        exact hrepeats.again (by simpa using hopen) _ _ _ h'

theorem clawbackOwner_eq_ok {f : ClawbackFacts} {account : Account} {u : Unit}
    (h : clawbackOwner b f account = .ok u) : account.stripeCustomerId = some f.customerId := by
  simp only [clawbackOwner, bind_eq_ok, require_eq_ok, decide_eq_true_eq] at h
  obtain ⟨_, hcustomer, -⟩ := h
  exact hcustomer

/-- **A second clawback changes nothing**: closures are marked, and what a partial refund took
    or left as debt is not taken again. -/
theorem clawback_redelivered (hs : RecoveriesTake b) (h : clawback cfg tx b e = .ok effect)
    (h' : clawback cfg tx' effect.billing (e.redelivered id) = .ok effect') :
    effect'.billing = effect.billing := by
  -- an Event that a guard stopped is stopped by the same guard again
  rcases Guarded.andThen_eq_ok h with ⟨hb, hstop⟩ | ⟨f, hf, h⟩
  · rw [hb] at h' ⊢
    exact Guarded.andThen_stops hstop clawbackGuards_redelivered h'
  rcases Guarded.andThen_eq_ok h' with ⟨hb', -⟩ | ⟨f', hf', h'⟩
  · exact hb'
  -- the facts are read from the payload, which the redelivery keeps
  have hsame : f' = f := by
    have hopt : (clawbackGuards cfg (e.redelivered id)).toOption =
        (clawbackGuards cfg e).toOption := clawbackGuards_redelivered
    rw [hf, hf'] at hopt
    exact Option.some.inj hopt
  subst hsame
  -- an unknown Customer is retained, a known one clawed; the second call takes the same branch
  cases haccount : clawbackAccount b f' with
  | none =>
    simp only [haccount] at h
    obtain ⟨hnone, hagain⟩ := retainClawback_redelivered haccount h
    simp only [hnone] at h'
    exact hagain _ h'
  | some account =>
    simp only [haccount] at h
    rcases Guarded.andThen_eq_ok h with ⟨hb, hstop⟩ | ⟨u, howner, h⟩
    · rw [hb] at h' ⊢
      simp only [haccount] at h'
      exact Guarded.andThen_stops hstop rfl h'
    · have hrow := Table.find?_of_mem (clawbackAccount_mem haccount)
      -- after the first call every second one writes nothing
      obtain ⟨a, ha, hkept, hagain⟩ := applyClawback_redelivered hs hrow h
      have hcustomer : a.stripeCustomerId = some f'.customerId :=
        (congrArg Account.stripeCustomerId hkept :).trans (clawbackOwner_eq_ok howner)
      simp only [clawbackAccount_of_customer (Table.find?_mem ha) hcustomer] at h'
      rcases Guarded.andThen_eq_ok h' with ⟨hb', -⟩ | ⟨_, -, h'⟩
      · exact hb'
      · exact hagain _ _ _ h'

end StripeEntitlements
