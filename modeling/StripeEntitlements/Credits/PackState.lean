import StripeEntitlements.Credits.Unwinding

/-!
# Credit-Pack State

`assert_credit_pack_state`, the deferred trigger of the pack tables, and the two sums its
equations are about: what one lot still holds or has given away, and how far the collected
column of a debt is ahead of its collection allocations. Both sums are taken relative to a
set of debits that callers are unwinding, whose rows are not counted.

## Main results

- `PackState` — the trigger passes for every order, and closed lots are fully refunded
- `Moves` — a step shifts the sums by known amounts, and steps compose
- `Moves.collectPackDebtsFromLot`, `Moves.returnSubscriptionAtoms` — the collectors and
  returns shift nothing
-/

namespace StripeEntitlements

open Relational

/-! ## The trigger -/

/-- `amount - refunded_amount`. -/
def Allocation.outstanding (a : Allocation) : ℤ := a.amount - a.refundedAmount

theorem Allocation.outstanding_nonneg {t : Table Allocation} {a : Allocation} (ha : a ∈ t.rows) :
    0 ≤ a.outstanding := by
  have hcheck := t.valid.checked a ha
  simp only [Relation.check, Bool.and_eq_true, decide_eq_true_eq] at hcheck
  unfold outstanding
  omega

/-- One column of the debt of an order, zero without a debt. -/
def debtColumn (b : Billing) (orderId : String) (column : PackDebt → Nat) : ℤ :=
  (b.packDebts.find? orderId).elim 0 fun d => column d

/-- `allocated_outstanding`. -/
def allocatedOutstanding (b : Billing) (lotId : String) : ℤ :=
  ((b.allocations.select fun a => a.source = .creditPack lotId).map Allocation.outstanding).sum

/-- The debit of the allocation collects for `orderId`. -/
def collectsFor (b : Billing) (orderId : String) (a : Allocation) : Bool :=
  (b.debits.find? a.debitKey).any fun d =>
    d.kind = .creditPackDebtCollection && d.clawbackOrderId = some orderId

theorem collectsFor_iff {b : Billing} {orderId : String} {a : Allocation} :
    collectsFor b orderId a = true ↔ ∃ d, b.debits.find? a.debitKey = some d ∧
      d.kind = .creditPackDebtCollection ∧ d.clawbackOrderId = some orderId := by
  simp [collectsFor, Option.any_eq_true]

/-- `collection_outstanding`. -/
def collectionOutstanding (b : Billing) (orderId : String) : ℤ :=
  ((b.allocations.select (collectsFor b orderId)).map Allocation.outstanding).sum

/-- The equations of one order and its lot. -/
def packEquations (b : Billing) (order : PackOrder) (lot : FundingLot) : Bool :=
  lot.originalCredits = order.packCredits &&
    (order.refundedCredits : ℤ) =
      lot.cashClawedBackCredits + debtColumn b order.id PackDebt.targetCredits &&
    debtColumn b order.id PackDebt.collectedCredits = collectionOutstanding b order.id &&
    (order.packCredits : ℤ) =
      lot.remainingCredits + lot.expiredCredits + lot.cashClawedBackCredits +
        debtColumn b order.id PackDebt.releasedCredits + allocatedOutstanding b lot.id

/-- `assert_credit_pack_state`; `false` is a raised `check_violation`. -/
def assertCreditPackState (b : Billing) (orderId : String) : Bool :=
  match b.orders.find? orderId with
  | none => true
  | some order =>
      match lotOfOrder b orderId with
      | none => (b.packDebts.find? orderId).isNone
      | some lot => packEquations b order lot

/-! ## Consistent pack funding -/

/-- The foreign keys of the debit tables. -/
structure PackReferences (b : Billing) : Prop where
  debit : ∀ a ∈ b.allocations.rows, (b.debits.find? a.debitKey).isSome
  lot : ∀ a ∈ b.allocations.rows, ∀ lotId, a.source = .creditPack lotId →
    (b.lots.find? lotId).isSome
  debt : ∀ d ∈ b.debits.rows, ∀ orderId, d.clawbackOrderId = some orderId →
    (b.packDebts.find? orderId).isSome

/-- No referenced row goes away, and every row refers to what an earlier row referred to. -/
theorem PackReferences.mono {b b' : Billing} (h : PackReferences b)
    (hdebits : ∀ key, (b.debits.find? key).isSome → (b'.debits.find? key).isSome)
    (hlots : ∀ lotId, (b.lots.find? lotId).isSome → (b'.lots.find? lotId).isSome)
    (hdebts : ∀ orderId, (b.packDebts.find? orderId).isSome → (b'.packDebts.find? orderId).isSome)
    (hallocations : ∀ a' ∈ b'.allocations.rows, ∃ a ∈ b.allocations.rows,
      a'.debitKey = a.debitKey ∧ a'.source = a.source)
    (hrows : ∀ d' ∈ b'.debits.rows, ∃ d ∈ b.debits.rows, d'.clawbackOrderId = d.clawbackOrderId) :
    PackReferences b' where
  debit a' ha' := by
    obtain ⟨a, ha, hkey, -⟩ := hallocations a' ha'
    rw [hkey]
    exact hdebits _ (h.debit a ha)
  lot a' ha' lotId hsource := by
    obtain ⟨a, ha, -, hs⟩ := hallocations a' ha'
    exact hlots _ (h.lot a ha lotId (hs ▸ hsource))
  debt d' hd' orderId horder := by
    obtain ⟨d, hd, ho⟩ := hrows d' hd'
    exact hdebts _ (h.debt d hd orderId (ho ▸ horder))

/-- The lot was closed by a full refund or a dispute. -/
def FundingLot.isTerminal (l : FundingLot) : Bool := l.status = .refunded || l.status = .disputed

/-- The pack tables are consistent: the trigger passes for every order, and a lot is only
    closed by a refund of the whole pack. -/
structure PackState (b : Billing) : Prop where
  references : PackReferences b
  passes : ∀ orderId, assertCreditPackState b orderId = true
  terminal : ∀ lot ∈ b.lots.rows, lot.isTerminal = true → ∀ order,
    b.orders.find? lot.orderId = some order → order.refundedCredits = order.packCredits

theorem lotOfOrder_eq_some {b : Billing} {orderId : String} {lot : FundingLot} :
    lotOfOrder b orderId = some lot ↔ lot ∈ b.lots.rows ∧ lot.orderId = orderId := by
  unfold lotOfOrder
  constructor
  · intro h
    exact ⟨List.mem_of_find?_eq_some h, by simpa using List.find?_some h⟩
  · rintro ⟨hlot, rfl⟩
    have hsome : (b.lots.rows.find? (·.orderId = lot.orderId)).isSome := by
      rw [List.find?_isSome]
      exact ⟨lot, hlot, by simp⟩
    obtain ⟨lot', hlot'⟩ := Option.isSome_iff_exists.1 hsome
    have horder : lot'.orderId = lot.orderId := by simpa using List.find?_some hlot'
    -- `order_id` is a unique index
    have heq : lot' = lot :=
      b.lots.eq_of_index_eq List.mem_cons_self
        (List.mem_of_find?_eq_some hlot') hlot (by rw [horder]) rfl
    rw [hlot', heq]

theorem PackState.equations {b : Billing} (h : PackState b) {lot : FundingLot}
    {order : PackOrder} (hlot : lot ∈ b.lots.rows)
    (horder : b.orders.find? lot.orderId = some order) : packEquations b order lot = true := by
  have hpass := h.passes lot.orderId
  rw [assertCreditPackState, horder, lotOfOrder_eq_some.2 ⟨hlot, rfl⟩] at hpass
  exact hpass

/-! ## The two sums -/

/-- What a lot holds or has retired. -/
def FundingLot.stock (l : FundingLot) : ℤ :=
  l.remainingCredits + l.expiredCredits + l.cashClawedBackCredits

/-- The outstanding atoms an allocation took from a lot, unless its debit is unwound. -/
def lotWeight (visiting : List String) (lotId : String) (a : Allocation) : ℤ :=
  if a.source = .creditPack lotId ∧ a.debitKey ∉ visiting then a.outstanding else 0

/-- The outstanding atoms an allocation collected for an order, unless its debit is
    unwound. -/
def collectionWeight (b : Billing) (visiting : List String) (orderId : String)
    (a : Allocation) : ℤ :=
  if collectsFor b orderId a = true ∧ a.debitKey ∉ visiting then a.outstanding else 0

/-- Everything the pack atoms of one lot have become. -/
def held (visiting : List String) (b : Billing) (lotId : String) : ℤ :=
  ((b.lots.find? lotId).elim 0 fun l =>
    l.stock + debtColumn b l.orderId PackDebt.releasedCredits) +
    b.allocations.total (lotWeight visiting lotId)

/-- The collected column of a debt beyond its outstanding collections. -/
def covered (visiting : List String) (b : Billing) (orderId : String) : ℤ :=
  debtColumn b orderId PackDebt.collectedCredits -
    b.allocations.total (collectionWeight b visiting orderId)

/-- The foreign keys hold, and every visited key has its debit. -/
structure Linked (visiting : List String) (b : Billing) : Prop where
  references : PackReferences b
  visiting : ∀ key ∈ visiting, (b.debits.find? key).isSome

/-- A step that keeps the debit and allocation rows up to their progress. -/
theorem Linked.mono {visiting : List String} {b b' : Billing} (h : Linked visiting b)
    (hdebits : ∀ key, (b.debits.find? key).isSome → (b'.debits.find? key).isSome)
    (hlots : ∀ lotId, (b.lots.find? lotId).isSome → (b'.lots.find? lotId).isSome)
    (hdebts : ∀ orderId, (b.packDebts.find? orderId).isSome → (b'.packDebts.find? orderId).isSome)
    (hallocations : ∀ a' ∈ b'.allocations.rows, ∃ a ∈ b.allocations.rows,
      a'.debitKey = a.debitKey ∧ a'.source = a.source)
    (hrows : ∀ d' ∈ b'.debits.rows, ∃ d ∈ b.debits.rows, d'.clawbackOrderId = d.clawbackOrderId) :
    Linked visiting b' :=
  ⟨h.references.mono hdebits hlots hdebts hallocations hrows,
    fun key hkey => hdebits key (h.visiting key hkey)⟩

/-- A step that shifts what each lot holds by `lots` and what each debt covers by `debts`,
    for every subset of the visited debits. -/
structure Moves (visiting : List String) (lots debts : String → ℤ) (b b' : Billing) :
    Prop where
  held : ∀ hidden ⊆ visiting, ∀ lotId, held hidden b' lotId = held hidden b lotId + lots lotId
  covered : ∀ hidden ⊆ visiting, ∀ orderId,
    covered hidden b' orderId = covered hidden b orderId + debts orderId
  linked : Linked visiting b'
  closed : ∀ l' ∈ b'.lots.rows, l'.isTerminal = true →
    ∃ l ∈ b.lots.rows, l.id = l'.id ∧ l.isTerminal = true

namespace Moves

variable {visiting : List String} {lots lots' debts debts' : String → ℤ} {b b' b'' : Billing}

theorem refl (h : Linked visiting b) : Moves visiting 0 0 b b where
  held _ _ _ := (add_zero _).symm
  covered _ _ _ := (add_zero _).symm
  linked := h
  closed l hl hterminal := ⟨l, hl, rfl, hterminal⟩

theorem trans (h : Moves visiting lots debts b b') (h' : Moves visiting lots' debts' b' b'') :
    Moves visiting (lots + lots') (debts + debts') b b'' where
  held hidden hsub lotId := by
    rw [h'.held hidden hsub, h.held hidden hsub, Pi.add_apply, add_assoc]
  covered hidden hsub orderId := by
    rw [h'.covered hidden hsub, h.covered hidden hsub, Pi.add_apply, add_assoc]
  linked := h'.linked
  closed l'' hl'' hterminal'' := by
    obtain ⟨l', hl', hid', hterminal'⟩ := h'.closed l'' hl'' hterminal''
    obtain ⟨l, hl, hid, hterminal⟩ := h.closed l' hl' hterminal'
    exact ⟨l, hl, hid.trans hid', hterminal⟩

theorem congr (h : Moves visiting lots debts b b') (hlots : ∀ lotId, lots lotId = lots' lotId)
    (hdebts : ∀ orderId, debts orderId = debts' orderId) :
    Moves visiting lots' debts' b b' := by
  have hl : lots = lots' := funext hlots
  have hd : debts = debts' := funext hdebts
  subst hl hd
  exact h

/-- Two steps that shift nothing. -/
theorem trans_zero (h : Moves visiting 0 0 b b') (h' : Moves visiting 0 0 b' b'') :
    Moves visiting 0 0 b b'' :=
  (h.trans h').congr (fun _ => rfl) fun _ => rfl

/-- Fewer visited debits. -/
theorem of_subset {visiting' : List String} (h : Moves visiting lots debts b b')
    (hsub : visiting' ⊆ visiting) : Moves visiting' lots debts b b' where
  held hidden hs := h.held hidden (List.Subset.trans hs hsub)
  covered hidden hs := h.covered hidden (List.Subset.trans hs hsub)
  linked := ⟨h.linked.references, fun key hkey => h.linked.visiting key (hsub hkey)⟩
  closed := h.closed

/-! ### Single statements -/

/-- Tables other than lots, debts, debits and allocations do not matter. -/
theorem of_eq (h : Linked visiting b) (hlots : b'.lots = b.lots)
    (hdebts : b'.packDebts = b.packDebts) (hdebits : b'.debits = b.debits)
    (hallocations : b'.allocations = b.allocations) : Moves visiting 0 0 b b' where
  held hidden _ lotId := by
    simp only [StripeEntitlements.held, debtColumn, hlots, hdebts, hallocations, Pi.zero_apply,
      add_zero]
  -- a collection's weight reads the debit it belongs to, and the debits are the same
  covered hidden _ orderId := by
    have hcollects : ∀ a, collectsFor b' orderId a = collectsFor b orderId a := by
      intro a
      rw [collectsFor, collectsFor, hdebits]
    have hweight : collectionWeight b' hidden orderId = collectionWeight b hidden orderId := by
      funext a
      simp only [collectionWeight, hcollects]
    simp only [StripeEntitlements.covered, debtColumn, hdebts, hallocations, hweight,
      Pi.zero_apply, add_zero]
  linked := by
    refine h.mono (fun _ => ?_) (fun _ => ?_) (fun _ => ?_) (fun a ha => ?_) fun d hd => ?_
    · rw [hdebits]
      exact id
    · rw [hlots]
      exact id
    · rw [hdebts]
      exact id
    · exact ⟨a, hallocations ▸ ha, rfl, rfl⟩
    · exact ⟨d, hdebits ▸ hd, rfl⟩
  closed l hl hterminal := ⟨l, hlots ▸ hl, rfl, hterminal⟩

theorem insertLedger {accountId : String} {delta : Int} {balanceAfter : Nat}
    {reason : LedgerReason} {grantEpoch : Nat} {eventId : String} {invoiceId : Option String}
    {slot : Option Nat} {units : Nat} (hl : Linked visiting b)
    (h : b.insertLedger accountId delta balanceAfter reason grantEpoch eventId invoiceId slot units
      = .ok b') : Moves visiting 0 0 b b' := by
  rw [Billing.insertLedger, Billing.insert_eq_ok] at h
  obtain ⟨t, -, rfl⟩ := h
  exact of_eq hl rfl rfl rfl rfl

/-- An update that keeps the stock of every lot it touches. -/
theorem updateLots {p : FundingLot → Bool} {f : FundingLot → FundingLot} {t : Table FundingLot}
    (hl : Linked visiting b) (h : b.lots.updateWhere? p f = some t)
    (hstatic : ∀ l, (f l).static = l.static)
    (hstock : ∀ l ∈ b.lots.rows, p l = true → (f l).stock = l.stock)
    (hterminal : ∀ l, (f l).isTerminal = true → l.isTerminal = true) :
    Moves visiting 0 0 b { b with lots := t } where
  held hidden _ lotId := by
    have hid : ∀ l, (f l).id = l.id := fun l => FundingLot.id_of_static (hstatic l)
    have horder : ∀ l, (f l).orderId = l.orderId := fun l =>
      FundingLot.orderId_of_static (hstatic l)
    simp only [StripeEntitlements.held, debtColumn, Table.find?_updateWhere h hid, Pi.zero_apply,
      add_zero]
    -- the lot of this id is updated or not; either way its stock is the same
    cases hfind : b.lots.find? lotId with
    | none => rfl
    | some l =>
      simp only [Option.map_some, Option.elim_some]
      split
      case isTrue hp => rw [hstock l (Table.find?_mem hfind) hp, horder]
      case isFalse => rfl
  covered _ _ _ := (add_zero _).symm
  linked := by
    refine hl.mono (fun _ => id) (fun lotId hlot => ?_) (fun _ => id)
      (fun a ha => ⟨a, ha, rfl, rfl⟩) fun d hd => ⟨d, hd, rfl⟩
    have hid : ∀ l, (f l).id = l.id := fun l => FundingLot.id_of_static (hstatic l)
    rw [Table.find?_updateWhere h hid, Option.isSome_map]
    exact hlot
  -- a lot that is terminal afterwards was one before, row by row
  closed l' hl' hterminal' := by
    change l' ∈ t.rows at hl'
    rw [Table.updateWhere?_eq_some.1 h] at hl'
    obtain ⟨l, hl, rfl⟩ := List.mem_map.1 hl'
    split at hterminal'
    case isTrue hp =>
      rw [if_pos hp]
      exact ⟨l, hl, (FundingLot.id_of_static (hstatic l)).symm, hterminal l hterminal'⟩
    case isFalse hp =>
      rw [if_neg hp]
      exact ⟨l, hl, rfl, hterminal'⟩

/-- An update of one lot. -/
theorem updateLot {k : String} {f : FundingLot → FundingLot} {l : FundingLot}
    {t : Table FundingLot} (hl : Linked visiting b) (hfind : b.lots.find? k = some l)
    (h : b.lots.update? k f = some t) (hstatic : ∀ l, (f l).static = l.static)
    (hterminal : ∀ l, (f l).isTerminal = true → l.isTerminal = true) :
    Moves visiting (fun lotId => if lotId = k then (f l).stock - l.stock else 0) 0
      b { b with lots := t } where
  held hidden _ lotId := by
    have hid : ∀ l, (f l).id = l.id := fun l => FundingLot.id_of_static (hstatic l)
    have horder : (f l).orderId = l.orderId := FundingLot.orderId_of_static (hstatic l)
    -- only the lot of key `k` moves, by the change of its own stock
    by_cases hk : lotId = k
    · subst hk
      simp only [StripeEntitlements.held, debtColumn, Table.find?_update_self h hid, hfind,
        Option.map_some, Option.elim_some, horder, if_true]
      ring
    · simp only [StripeEntitlements.held, debtColumn, Table.find?_update_ne h hid hk, if_neg hk,
        add_zero]
  covered _ _ _ := (add_zero _).symm
  linked := by
    refine hl.mono (fun _ => id) (fun lotId hlot => ?_) (fun _ => id)
      (fun a ha => ⟨a, ha, rfl, rfl⟩) fun d hd => ⟨d, hd, rfl⟩
    have hid : ∀ l, (f l).id = l.id := fun l => FundingLot.id_of_static (hstatic l)
    rw [Table.find?_updateWhere h hid, Option.isSome_map]
    exact hlot
  closed l' hl' hterminal' := by
    change l' ∈ t.rows at hl'
    rw [Table.update?_eq_some.1 h] at hl'
    obtain ⟨l, hl, rfl⟩ := List.mem_map.1 hl'
    split at hterminal'
    case isTrue hp =>
      rw [if_pos hp]
      exact ⟨l, hl, (FundingLot.id_of_static (hstatic l)).symm, hterminal l hterminal'⟩
    case isFalse hp =>
      rw [if_neg hp]
      exact ⟨l, hl, rfl, hterminal'⟩

/-- The lot with this id belongs to the order. -/
def lotFunds (b : Billing) (orderId lotId : String) : Bool :=
  (b.lots.find? lotId).any fun l => l.orderId = orderId

/-- An update of the progress of one debt. -/
theorem updateDebt {orderId : String} {f : PackDebt → PackDebt} {d : PackDebt}
    {t : Table PackDebt} (hl : Linked visiting b) (hfind : b.packDebts.find? orderId = some d)
    (h : b.packDebts.update? orderId f = some t) (hkey : ∀ d, (f d).orderId = d.orderId) :
    Moves visiting
      (fun lotId => if lotFunds b orderId lotId then
        ((f d).releasedCredits : ℤ) - d.releasedCredits else 0)
      (fun orderId' => if orderId' = orderId then
        ((f d).collectedCredits : ℤ) - d.collectedCredits else 0)
      b { b with packDebts := t } where
  held hidden _ lotId := by
    simp only [StripeEntitlements.held, debtColumn, lotFunds]
    -- a lot's held column reads the debt of its order, so only that order's lot moves
    rcases Option.eq_none_or_eq_some (b.lots.find? lotId) with hlot | ⟨l, hlot⟩
    · simp [hlot]
    · simp only [hlot, Option.elim_some, Option.any_some, decide_eq_true_eq]
      by_cases horder : l.orderId = orderId
      · rw [if_pos horder, horder, Table.find?_update_self h hkey, hfind]
        simp only [Option.map_some, Option.elim_some]
        ring
      · rw [if_neg horder, Table.find?_update_ne h hkey horder, add_zero]
  covered hidden _ orderId' := by
    have hweight : collectionWeight { b with packDebts := t } hidden orderId' =
        collectionWeight b hidden orderId' := rfl
    simp only [StripeEntitlements.covered, debtColumn, hweight]
    -- covered atoms move with the collected column of this debt alone
    by_cases horder : orderId' = orderId
    · rw [if_pos horder, horder, Table.find?_update_self h hkey, hfind]
      simp only [Option.map_some, Option.elim_some]
      ring
    · rw [if_neg horder, Table.find?_update_ne h hkey horder, add_zero]
  linked := by
    refine hl.mono (fun _ => id) (fun _ => id) (fun orderId' hdebt => ?_)
      (fun a ha => ⟨a, ha, rfl, rfl⟩) fun d hd => ⟨d, hd, rfl⟩
    rw [Table.find?_updateWhere h hkey, Option.isSome_map]
    exact hdebt
  closed l hl hterminal := ⟨l, hl, rfl, hterminal⟩

/-- A new debit: no allocation refers to it yet. -/
theorem insertDebit {r : Debit} {t : Table Debit} (hl : Linked visiting b)
    (hdebt : ∀ orderId, r.clawbackOrderId = some orderId → (b.packDebts.find? orderId).isSome)
    (h : b.debits.insert? r = some t) : Moves visiting 0 0 b { b with debits := t } where
  held _ _ _ := (add_zero _).symm
  covered hidden _ orderId := by
    have htotal : b.allocations.total (collectionWeight { b with debits := t } hidden orderId) =
        b.allocations.total (collectionWeight b hidden orderId) := by
      unfold Table.total
      congr 1
      refine List.map_congr_left fun a ha => ?_
      -- the new debit's key is on no allocation, because every allocation has its debit already
      have hne : Relation.key r ≠ a.debitKey := by
        intro heq
        have hsome := hl.references.debit a ha
        rw [← heq, Table.find?_eq_none_of_insert h] at hsome
        cases hsome
      have hcollects : collectsFor { b with debits := t } orderId a = collectsFor b orderId a := by
        simp only [collectsFor, Table.find?_insert h, if_neg hne]
      simp only [collectionWeight, hcollects]
    simp only [StripeEntitlements.covered, debtColumn, Pi.zero_apply, add_zero]
    exact congrArg _ htotal
  linked := by
    have hgrow : ∀ key, (b.debits.find? key).isSome → (t.find? key).isSome := by
      intro key hkey
      rw [Table.find?_insert h]
      split
      · rfl
      · exact hkey
    refine ⟨⟨fun a ha => hgrow _ (hl.references.debit a ha), hl.references.lot, ?_⟩,
      fun key hkey => hgrow _ (hl.visiting key hkey)⟩
    intro d hd orderId horder
    change d ∈ t.rows at hd
    rw [Table.insert?_eq_some.1 h, List.mem_append, List.mem_singleton] at hd
    -- the new debit refers to a debt by hypothesis, the others still do
    rcases hd with hd | rfl
    · exact hl.references.debt d hd orderId horder
    · exact hdebt orderId horder
  closed l hl hterminal := ⟨l, hl, rfl, hterminal⟩

/-- Refund facts on a debit. -/
theorem updateDebit {key : String} {f : Debit → Debit} {t : Table Debit}
    (hl : Linked visiting b) (h : b.debits.update? key f = some t)
    (hf : ∀ d, (f d).static = d.static) : Moves visiting 0 0 b { b with debits := t } := by
  have hkey : ∀ d, (f d).idempotencyKey = d.idempotencyKey := fun d =>
    Debit.key_of_static (hf d)
  have hkind : ∀ d, (f d).kind = d.kind := fun d => Debit.kind_of_static (hf d)
  have horder : ∀ d, (f d).clawbackOrderId = d.clawbackOrderId := fun d =>
    Debit.order_of_static (hf d)
  -- the update keeps kind and order, the only columns of a debit that a collection reads
  have hcollects : ∀ orderId a, collectsFor { b with debits := t } orderId a =
      collectsFor b orderId a := by
    intro orderId a
    simp only [collectsFor, Table.find?_updateWhere h hkey]
    cases b.debits.find? a.debitKey with
    | none => rfl
    | some d =>
      simp only [Option.map_some, Option.any_some]
      split
      · rw [hkind, horder]
      · rfl
  have hgrow : ∀ key', (b.debits.find? key').isSome → (t.find? key').isSome := by
    intro key' hkey'
    rw [Table.find?_updateWhere h hkey, Option.isSome_map]
    exact hkey'
  have hrows : ∀ d' ∈ t.rows, ∃ d ∈ b.debits.rows, d'.clawbackOrderId = d.clawbackOrderId := by
    intro d' hd'
    rw [Table.update?_eq_some.1 h] at hd'
    obtain ⟨d, hd, rfl⟩ := List.mem_map.1 hd'
    refine ⟨d, hd, ?_⟩
    split
    · exact horder d
    · rfl
  refine ⟨fun _ _ _ => (add_zero _).symm, fun hidden _ orderId => ?_,
    hl.mono hgrow (fun _ => id) (fun _ => id) (fun a ha => ⟨a, ha, rfl, rfl⟩) hrows,
    fun l hl hterminal => ⟨l, hl, rfl, hterminal⟩⟩
  have hweight : collectionWeight { b with debits := t } hidden orderId =
      collectionWeight b hidden orderId := by
    funext a
    simp only [collectionWeight, hcollects]
  simp only [StripeEntitlements.covered, debtColumn, hweight, Pi.zero_apply, add_zero]

/-- What a new or changed allocation adds to a lot. -/
def lotShift (source : FundingSource) (amount : ℤ) (lotId : String) : ℤ :=
  if source = .creditPack lotId then amount else 0

/-- What an allocation that grows by `amount` takes from the debt it collects for. -/
def debtShift (b : Billing) (a : Allocation) (amount : ℤ) (orderId : String) : ℤ :=
  if collectsFor b orderId a then amount else 0

private theorem lotWeight_eq {hidden : List String} {a : Allocation} (h : a.debitKey ∉ hidden)
    (lotId : String) : lotWeight hidden lotId a = lotShift a.source a.outstanding lotId := by
  simp only [lotWeight, lotShift, h, not_false_eq_true, and_true]

private theorem collectionWeight_eq {hidden : List String} {a : Allocation}
    (h : a.debitKey ∉ hidden) (orderId : String) :
    collectionWeight b hidden orderId a = debtShift b a a.outstanding orderId := by
  simp only [collectionWeight, debtShift, h, not_false_eq_true, and_true]

/-- A new allocation of an existing debit. -/
theorem insertAllocation {a : Allocation} {t : Table Allocation} (hl : Linked visiting b)
    (h : b.allocations.insert? a = some t) (hdebit : (b.debits.find? a.debitKey).isSome)
    (hlot : b.lotReferenced a.accountId a.source = true) (hvisit : a.debitKey ∉ visiting) :
    Moves visiting (lotShift a.source a.outstanding) (debtShift b a (-a.outstanding))
      b { b with allocations := t } where
  -- the debit is not hidden, so the new row counts with its outstanding atoms
  held hidden hsub lotId := by
    simp only [StripeEntitlements.held, debtColumn, Table.total_insert h,
      lotWeight_eq fun hin => hvisit (hsub hin)]
    ring
  -- and it covers the debt of its order if the debit is a collection
  covered hidden hsub orderId := by
    have htotal : t.total (collectionWeight { b with allocations := t } hidden orderId) =
        b.allocations.total (collectionWeight b hidden orderId) +
          debtShift b a a.outstanding orderId := by
      rw [← collectionWeight_eq fun hin => hvisit (hsub hin)]
      exact Table.total_insert h
    simp only [StripeEntitlements.covered, debtColumn, htotal, debtShift]
    split <;> ring
  linked := by
    have hmem : ∀ a' ∈ t.rows, a' ∈ b.allocations.rows ∨ a' = a := by
      intro a' ha'
      rwa [Table.insert?_eq_some.1 h, List.mem_append, List.mem_singleton] at ha'
    refine ⟨⟨fun a' ha' => ?_, fun a' ha' lotId hsource => ?_, hl.references.debt⟩, hl.visiting⟩
    · rcases hmem a' ha' with ha' | rfl
      · exact hl.references.debit a' ha'
      · exact hdebit
    -- the new allocation's own lot exists, as its foreign key demands
    · rcases hmem a' ha' with ha' | rfl
      · exact hl.references.lot a' ha' lotId hsource
      · rw [hsource, Billing.lotReferenced, Option.any_eq_true] at hlot
        obtain ⟨l, hl, -⟩ := hlot
        exact Option.isSome_iff_exists.2 ⟨l, hl⟩
  closed l hl hterminal := ⟨l, hl, rfl, hterminal⟩

/-- Refund progress on one allocation. -/
theorem updateAllocation {id : Nat} {f : Allocation → Allocation} {a : Allocation}
    {t : Table Allocation} (hl : Linked visiting b) (hfind : b.allocations.find? id = some a)
    (h : b.allocations.update? id f = some t) (hf : ∀ a, (f a).static = a.static)
    (hvisit : a.debitKey ∉ visiting) :
    Moves visiting (lotShift a.source ((f a).outstanding - a.outstanding))
      (debtShift b a (a.outstanding - (f a).outstanding)) b { b with allocations := t } where
  held hidden hsub lotId := by
    have hkey : (f a).debitKey = a.debitKey := Allocation.debitKey_of_static (hf a)
    have hsource : (f a).source = a.source := Allocation.source_of_static (hf a)
    have hout : a.debitKey ∉ hidden := fun hin => hvisit (hsub hin)
    -- the sum changes by the row's own change, and its debit is not hidden
    simp only [StripeEntitlements.held, debtColumn, Table.total_update h hfind,
      lotWeight_eq hout, lotWeight_eq (hkey ▸ hout : (f a).debitKey ∉ hidden), hsource, lotShift]
    split <;> ring
  covered hidden hsub orderId := by
    have hkey : (f a).debitKey = a.debitKey := Allocation.debitKey_of_static (hf a)
    have hout : a.debitKey ∉ hidden := fun hin => hvisit (hsub hin)
    have hcollects : collectsFor b orderId (f a) = collectsFor b orderId a := by
      rw [collectsFor, collectsFor, hkey]
    have htotal : t.total (collectionWeight { b with allocations := t } hidden orderId) =
        b.allocations.total (collectionWeight b hidden orderId) +
          (collectionWeight b hidden orderId (f a) - collectionWeight b hidden orderId a) :=
      Table.total_update h hfind
    simp only [StripeEntitlements.covered, debtColumn, htotal, collectionWeight_eq hout,
      collectionWeight_eq (hkey ▸ hout : (f a).debitKey ∉ hidden), debtShift, hcollects]
    split <;> ring
  linked := by
    refine hl.mono (fun _ h => h) (fun _ h => h) (fun _ h => h) (fun a' ha' => ?_)
      fun d hd => ⟨d, hd, rfl⟩
    change a' ∈ t.rows at ha'
    -- key and source are static, so the references of the row are the old ones
    rw [Table.update?_eq_some.1 h] at ha'
    obtain ⟨r, hr, rfl⟩ := List.mem_map.1 ha'
    refine ⟨r, hr, ?_⟩
    split
    · exact ⟨Allocation.debitKey_of_static (hf r), Allocation.source_of_static (hf r)⟩
    · exact ⟨rfl, rfl⟩
  closed l hl hterminal := ⟨l, hl, rfl, hterminal⟩

end Moves

/-! ## Reading the trigger as equations -/

/-- The pack equations of one order and its lot, over all allocations. -/
structure Conserved (b : Billing) (order : PackOrder) (lot : FundingLot) : Prop where
  original : lot.originalCredits = order.packCredits
  refunded : (order.refundedCredits : ℤ) =
    lot.cashClawedBackCredits + debtColumn b lot.orderId PackDebt.targetCredits
  collected : covered [] b lot.orderId = 0
  held : held [] b lot.id = order.packCredits
  terminal : lot.isTerminal = true → order.refundedCredits = order.packCredits

theorem packEquations_iff {b : Billing} {order : PackOrder} {lot : FundingLot}
    (hlot : lot ∈ b.lots.rows) (horder : lot.orderId = order.id) :
    packEquations b order lot = true ↔
      lot.originalCredits = order.packCredits ∧
      (order.refundedCredits : ℤ) =
        lot.cashClawedBackCredits + debtColumn b lot.orderId PackDebt.targetCredits ∧
      covered [] b lot.orderId = 0 ∧ held [] b lot.id = order.packCredits := by
  have hallocated : b.allocations.total (lotWeight [] lot.id) = allocatedOutstanding b lot.id :=
    Table.total_ite (fun a => by simp) b.allocations
  have hcollection : b.allocations.total (collectionWeight b [] order.id) =
      collectionOutstanding b order.id :=
    Table.total_ite (fun a => by simp) b.allocations
  have hfind : b.lots.find? lot.id = some lot := Table.find?_of_mem hlot
  unfold packEquations covered held FundingLot.stock
  rw [hallocated, horder, hcollection, hfind, Option.elim_some, horder]
  simp only [Bool.and_eq_true, decide_eq_true_eq, and_assoc, sub_eq_zero]
  refine and_congr_right fun _ => and_congr_right fun _ => and_congr_right fun _ => ?_
  constructor <;> intro h <;> linarith

/-- The pack tables are consistent exactly when the foreign keys hold, no debt comes before
    its lot, and every lot is conserved. -/
theorem packState_iff {b : Billing} : PackState b ↔
    PackReferences b ∧
    (∀ orderId order, b.orders.find? orderId = some order → lotOfOrder b orderId = none →
      b.packDebts.find? orderId = none) ∧
    ∀ lot ∈ b.lots.rows, ∀ order, b.orders.find? lot.orderId = some order →
      Conserved b order lot := by
  constructor
  -- the assertion per order is evaluated at an order with a lot and at one without
  · intro h
    refine ⟨h.references, fun orderId order horder hlot => ?_, fun lot hlot order horder => ?_⟩
    · have hpass := h.passes orderId
      rw [assertCreditPackState, horder, hlot] at hpass
      exact Option.isNone_iff_eq_none.1 hpass
    · have hid : lot.orderId = order.id := (Table.find?_key horder).symm
      obtain ⟨horiginal, hrefunded, hcovered, hheld⟩ :=
        (packEquations_iff hlot hid).1 (h.equations hlot horder)
      exact ⟨horiginal, hrefunded, hcovered, hheld,
        fun hterminal => h.terminal lot hlot hterminal order horder⟩
  -- conversely the assertion is met order by order
  · rintro ⟨hreferences, hunfunded, hconserved⟩
    refine ⟨hreferences, fun orderId => ?_, fun lot hlot hterminal order horder =>
      (hconserved lot hlot order horder).terminal hterminal⟩
    unfold assertCreditPackState
    cases horder : b.orders.find? orderId with
    | none => rfl
    | some order =>
      cases hlot : lotOfOrder b orderId with
      | none => exact Option.isNone_iff_eq_none.2 (hunfunded orderId order horder hlot)
      | some lot =>
        obtain ⟨hmem, rfl⟩ := lotOfOrder_eq_some.1 hlot
        have hc := hconserved lot hmem order horder
        exact (packEquations_iff hmem (Table.find?_key horder).symm).2
          ⟨hc.original, hc.refunded, hc.collected, hc.held⟩

end StripeEntitlements
