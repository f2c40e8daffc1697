import StripeEntitlements.Credits.PackState

/-!
# Credit-Pack Conservation

How collections and reversals shift what lots hold and debts cover. The clamps of the code are slack: what a product refund cannot release as debt fits
back into its lot, and what a collection is unwound by was collected.

## Main results

- `restore_moves` — a reversal adds the reversed atoms to its lot and covers every debt
- `le_lotHeadroom` — the headroom clamp of a settlement never bites
-/

namespace StripeEntitlements

open Relational

variable {tx : Tx} {account : Account} {visiting : List String} {b b' : Billing}

/-! ## Collectors -/

namespace Moves

/-- One collection: the atoms leave the lot as an allocation, and the debt covers them. -/
theorem collect {grantEpoch amount : Nat} {lotId : Option String} {debt : PackDebt}
    (hl : Linked visiting b) (hdebt : (b.packDebts.find? debt.orderId).isSome)
    (h : collectPackDebt tx grantEpoch lotId b debt amount = .ok b') :
    Moves visiting (fun lotId' => if lotId = some lotId' then (amount : ℤ) else 0) 0 b b' := by
  obtain ⟨debts, debits, allocations, hdebts, hdebits, hlot, hall, rfl⟩ := collectPackDebt_eq_ok h
  obtain ⟨d, hd⟩ := Option.isSome_iff_exists.1 hdebt
  let debit := collectionDebit tx b debt amount grantEpoch
  have h₁ := updateDebt hl hd hdebts fun _ => rfl
  have hdebt' : ∀ orderId, debit.clawbackOrderId = some orderId →
      (debts.find? orderId).isSome := by
    rintro orderId horder
    obtain rfl : debt.orderId = orderId := Option.some.inj horder
    have hfind := Table.find?_update_self hdebts fun _ => rfl
    rw [hfind, Option.isSome_map]
    exact hdebt
  have h₂ := insertDebit h₁.linked hdebt' hdebits
  -- the debit is new, so no caller is unwinding it
  have hfresh : debit.idempotencyKey ∉ visiting := by
    intro hin
    have hsome := hl.visiting _ hin
    have hnone : b.debits.find? debit.idempotencyKey = none :=
      Table.find?_eq_none_of_insert hdebits
    rw [hnone] at hsome
    cases hsome
  have hdebit : debits.find? debit.idempotencyKey = some debit := by
    rw [Table.find?_insert hdebits]
    exact if_pos rfl
  have h₃ := insertAllocation h₂.linked hall (by exact Option.isSome_iff_exists.2 ⟨_, hdebit⟩)
    hlot hfresh
  refine ((h₁.trans h₂).trans h₃).congr (fun lotId' => ?_) fun orderId => ?_
  · simp only [Pi.add_apply, Pi.zero_apply, lotShift, Billing.newAllocation,
      Allocation.outstanding]
    cases lotId <;> simp [collectionSource]
  · have hcollects : collectsFor { b with packDebts := debts, debits := debits } orderId
        (b.newAllocation debit.idempotencyKey debt.accountId
          (collectionSource grantEpoch lotId) amount) = decide (orderId = debt.orderId) := by
      change Option.any _ (debits.find? debit.idempotencyKey) = _
      rw [hdebit]
      simp [debit, collectionDebit, eq_comm]
    simp only [Pi.add_apply, Pi.zero_apply, debtShift]
    erw [hcollects]
    by_cases horder : orderId = debt.orderId <;>
      simp [horder, Allocation.outstanding, Billing.newAllocation]

/-- A loop of collections over the outstanding debts moves what it collected. -/
theorem drain_collect {grantEpoch available left : Nat} {lotId : Option String}
    {accountId : String} {body : Billing → PackDebt → Nat → Nat → Transaction Billing}
    (hl : Linked visiting b)
    (hbody : ∀ s debt amount left s', body s debt amount left = .ok s' →
      ∃ s₁, collectPackDebt tx grantEpoch lotId s debt amount = .ok s₁ ∧
        s'.lots = s₁.lots ∧ s'.packDebts = s₁.packDebts ∧ s'.debits = s₁.debits ∧
        s'.allocations = s₁.allocations)
    (h : drain PackDebt.outstanding body (outstandingPackDebts b accountId) available b =
      .ok (b', left)) :
    Moves visiting (fun lotId' => if lotId = some lotId' then (available : ℤ) - left else 0) 0
      b b' ∧ b'.lots = b.lots ∧ left ≤ available ∧
      (left < available → ∀ id, lotId = some id → (b.lots.find? id).isSome) := by
  -- every debt in the drain order is a stored row
  have hstart : ∀ d ∈ outstandingPackDebts b accountId,
      (b.packDebts.find? d.orderId).isSome := by
    intro d hd
    rw [outstandingPackDebts, Table.mem_orderBy] at hd
    exact Option.isSome_iff_exists.2 ⟨d, Table.find?_of_mem (List.mem_of_mem_filter hd)⟩
  -- loop invariant: the debts ahead are stored, and the source has given what the loop consumed
  obtain ⟨_, -, hend⟩ := drain_invariant
    (P := fun debts left s => (∀ d ∈ debts, (s.packDebts.find? d.orderId).isSome) ∧
      Moves visiting (fun lotId' => if lotId = some lotId' then (available : ℤ) - left else 0) 0
        b s ∧ s.lots = b.lots ∧ left ≤ available ∧
      (left < available → ∀ id, lotId = some id → (b.lots.find? id).isSome)) (by
    rintro debt debts amount left s s' _ _ _ ⟨hdebts, hmoves, hlots, hle, hsource⟩ hrun
    obtain ⟨s₁, hcollect, h₁, h₂, h₃, h₄⟩ := hbody s debt amount left s' hrun
    have hstep := collect hmoves.linked (hdebts debt List.mem_cons_self) hcollect
    have hend := hstep.trans (of_eq hstep.linked h₁ h₂ h₃ h₄)
    -- the collection writes the debt, an adjustment debit and its allocation, and no lot
    obtain ⟨debtRows, _, _, hdebtRows, -, hreferenced, -, rfl⟩ := collectPackDebt_eq_ok hcollect
    refine ⟨fun d hd => ?_, (hmoves.trans hend).congr (fun lotId' => ?_) fun _ => rfl,
      h₁.trans hlots, by omega, fun _ id hid => ?_⟩
    · have hkept := Table.find?_updateWhere hdebtRows (fun _ => rfl) d.orderId
      rw [h₂]
      change (debtRows.find? d.orderId).isSome
      rw [hkept, Option.isSome_map]
      exact hdebts d (List.mem_cons_of_mem _ hd)
    · simp only [Pi.add_apply, Pi.zero_apply]
      split <;> omega
    · -- the inserted allocation refers to an existing lot
      subst hid
      rw [← hlots]
      simp only [collectionSource, Billing.lotReferenced] at hreferenced
      rcases Option.eq_none_or_eq_some (s.lots.find? id) with hnone | ⟨l, hsome⟩
      · simp [hnone] at hreferenced
      · simp [hsome])
    ⟨hstart, (Moves.refl hl).congr (fun _ => by simp) fun _ => rfl, rfl, le_refl _,
      fun hlt => absurd hlt (lt_irrefl _)⟩ h
  exact hend

/-- Collecting from a lot, at most what it still holds, moves nothing overall. -/
theorem collectPackDebtsFromLot {accountId lotId : String} {available collected : Nat}
    (hl : Linked visiting b)
    (hlot : ∀ l, b.lots.find? lotId = some l → available ≤ l.remainingCredits)
    (h : collectPackDebtsFromLot tx b accountId lotId available = .ok (b', collected)) :
    Moves visiting 0 0 b b' := by
  -- the loop first, then the source lot pays what the loop collected
  obtain ⟨a, b₁, remaining, -, hdrain, hcollected, lots, hlots, rfl⟩ :=
    collectPackDebtsFromLot_eq_ok h
  obtain ⟨hmoves, hsame, hle, hsource⟩ := drain_collect hl
    (fun s debt amount left s' hrun => ⟨s', hrun, rfl, rfl, rfl, rfl⟩) hdrain
  rw [← hsame] at hlot hsource
  rcases Option.eq_none_or_eq_some (b₁.lots.find? lotId) with hnone | ⟨l, hl'⟩
  · -- no collection can refer to a missing lot
    have hnothing : collected = 0 := by
      by_contra hne
      have hsome := hsource (by omega) lotId rfl
      rw [hnone] at hsome
      cases hsome
    have hfixed := updateLots hmoves.linked hlots (fun _ => rfl)
      (fun l _ _ => by simp [FundingLot.stock, hnothing]) fun _ h => h
    refine (hmoves.trans hfixed).congr (fun lotId' => ?_) fun _ => rfl
    simp only [Pi.add_apply, Pi.zero_apply]
    split <;> omega
  -- the source holds what is asked of it, so the guarded update is an update by key
  · have hroom := hlot l hl'
    have hexact : b₁.lots.update? lotId
        (fun l => { l with remainingCredits := l.remainingCredits - collected }) = some lots := by
      rw [← hlots]
      exact Table.update?_of_guarded hl' (by simp only [decide_eq_true_eq]; omega)
    have hupdate := updateLot hmoves.linked hl' hexact (fun _ => rfl) fun _ h => h
    refine (hmoves.trans hupdate).congr (fun lotId' => ?_) fun _ => rfl
    simp only [Pi.add_apply, Pi.zero_apply, FundingLot.stock]
    -- the allocations of the loop hold what it collected, and the row loses as much
    by_cases hid : lotId' = lotId
    · subst hid
      simp only [if_true]
      omega
    · rw [if_neg hid, if_neg fun heq => hid (Option.some.inj heq).symm, add_zero]

theorem collectPackDebtsFromSubscription {accountId eventId : String}
    {grantEpoch collected : Nat} (hl : Linked visiting b)
    (h : collectPackDebtsFromSubscription tx b accountId grantEpoch eventId = .ok (b', collected)) :
    Moves visiting 0 0 b b' := by
  obtain ⟨_, b₁, _, -, hdrain, -, hend⟩ := collectPackDebtsFromSubscription_eq_ok h
  have hloop := drain_collect hl (fun s debt amount left s' hrun => by
    obtain ⟨s₁, hcollect, -, hsame⟩ := subscriptionCollection_eq_ok hrun
    exact ⟨s₁, hcollect, hsame⟩) hdrain
  have hmoves : Moves visiting 0 0 b b₁ := hloop.1.congr (fun _ => if_neg nofun) fun _ => rfl
  rcases hend with ⟨-, rfl⟩ | ⟨accounts, haccounts, rfl⟩
  · exact hmoves
  · exact hmoves.trans_zero (of_eq hmoves.linked rfl rfl rfl rfl)

/-- Invoice clawback debt is not pack debt. -/
theorem collectClawbackDebts {accountId eventId : String} {grantEpoch collected : Nat}
    (hl : Linked visiting b)
    (h : collectClawbackDebts b accountId grantEpoch eventId = .ok (b', collected)) :
    Moves visiting 0 0 b b' := by
  obtain ⟨_, b₁, _, -, hdrain, -, hend⟩ := collectClawbackDebts_eq_ok h
  have hloop : Moves visiting 0 0 b b₁ := by
    refine drain_rule (P := fun _ s => Moves visiting 0 0 b s) ?_ (refl hl) hdrain
    intro _ _ _ s s' _ _ hs hbody
    simp only [collectClawbackDebt, bind_eq_ok, Billing.update_eq_ok] at hbody
    obtain ⟨_, ⟨debts, hdebts, rfl⟩, hledger⟩ := hbody
    have hdebt : Moves visiting 0 0 s { s with clawbackDebts := debts } :=
      of_eq hs.linked rfl rfl rfl rfl
    exact (hs.trans_zero hdebt).trans_zero (insertLedger hdebt.linked hledger)
  rcases hend with ⟨-, rfl⟩ | ⟨accounts, haccounts, rfl⟩
  · exact hloop
  · exact hloop.trans_zero (of_eq hloop.linked rfl rfl rfl rfl)

theorem returnSubscriptionAtoms {amount returned : Nat} {eventId : String}
    {reason : LedgerReason} (hl : Linked visiting b)
    (h : returnSubscriptionAtoms tx b account amount eventId reason = .ok (b', returned)) :
    Moves visiting 0 0 b b' := by
  rcases returnSubscriptionAtoms_eq_ok h with ⟨-, rfl, -⟩ |
    ⟨-, -, _, accounts, b₁, b₂, _, _, -, haccounts, hledger, hclaw, hpack⟩
  · exact refl hl
  · have h₁ : Moves visiting 0 0 b { b with accounts := accounts } := of_eq hl rfl rfl rfl rfl
    have h₂ := h₁.trans_zero (insertLedger h₁.linked hledger)
    have h₃ := h₂.trans_zero (collectClawbackDebts h₂.linked hclaw)
    exact h₃.trans_zero (collectPackDebtsFromSubscription h₃.linked hpack)

end Moves

/-! ## Room for a reversal -/

/-- The lot of an order has room for `extra` more atoms. -/
structure Fits (visiting : List String) (b : Billing) (extra : ℤ) (order : PackOrder)
    (lot : FundingLot) : Prop where
  room : held visiting b lot.id + extra ≤ order.packCredits
  refunded : (order.refundedCredits : ℤ) =
    lot.cashClawedBackCredits + debtColumn b lot.orderId PackDebt.targetCredits
  covered : 0 ≤ covered visiting b lot.orderId
  terminal : lot.isTerminal = true → order.refundedCredits = order.packCredits

/-- Every lot has room for its share of `extra`. -/
def Fit (visiting : List String) (extra : String → ℤ) (b : Billing) : Prop :=
  ∀ lot ∈ b.lots.rows, ∀ order, b.orders.find? lot.orderId = some order →
    Fits visiting b (extra lot.id) order lot

theorem debtColumn_target {b b' : Billing} (h : CreditFrame b b') (orderId : String) :
    debtColumn b' orderId PackDebt.targetCredits =
      debtColumn b orderId PackDebt.targetCredits := by
  have hgrows : Table.Grows PackDebt.static b.packDebts b'.packDebts := .of_map_eq h.packDebts
  have hback : Table.Grows PackDebt.static b'.packDebts b.packDebts := .of_map_eq h.packDebts.symm
  unfold debtColumn
  cases hd : b.packDebts.find? orderId with
  | none =>
    cases hd' : b'.packDebts.find? orderId with
    | none => rfl
    | some d' =>
      obtain ⟨d, hfind, -⟩ := hback.find? PackDebt.orderId (fun _ => rfl) hd'
      rw [hd] at hfind
      cases hfind
  | some d =>
    obtain ⟨d', hfind, hs⟩ := hgrows.find? PackDebt.orderId (fun _ => rfl) hd
    rw [hfind]
    exact congrArg Nat.cast (PackDebt.target_of_static hs)

/-- A step that covers every debt uses up the room it shifts. -/
theorem Fit.step {extra lots : String → ℤ} (h : Fit visiting extra b) (hf : CreditFrame b b')
    (hm : Moves visiting lots 0 b b') : Fit visiting (extra - lots) b' := by
  intro lot' hlot' order horder
  have hmem : lot'.static ∈ b.lots.rows.map FundingLot.static := by
    rw [← hf.lots]
    exact List.mem_map_of_mem hlot'
  obtain ⟨lot, hlot, hstatic⟩ := List.mem_map.1 hmem
  have hid := FundingLot.id_of_static hstatic
  have horderId := FundingLot.orderId_of_static hstatic
  rw [hf.orders, ← horderId] at horder
  have hfits := h lot hlot order horder
  refine ⟨?_, ?_, ?_, fun hterminal => ?_⟩
  · have hroom := hfits.room
    rw [← hid, hm.held visiting (List.Subset.refl _), Pi.sub_apply]
    linarith
  · rw [← horderId, debtColumn_target hf, ← FundingLot.clawed_of_static hstatic]
    exact hfits.refunded
  · rw [← horderId, hm.covered visiting (List.Subset.refl _), Pi.zero_apply, add_zero]
    exact hfits.covered
  · obtain ⟨l, hl, hlid, hlterminal⟩ := hm.closed lot' hlot' hterminal
    have : l = lot := b.lots.eq_of_key_eq hl hlot (hlid.trans hid.symm)
    exact hfits.terminal (this ▸ hlterminal)

theorem Fit.congr {extra extra' : String → ℤ} (h : Fit visiting extra b)
    (heq : ∀ lot ∈ b.lots.rows, extra lot.id = extra' lot.id) : Fit visiting extra' b := by
  intro lot hlot order horder
  rw [← heq lot hlot]
  exact h lot hlot order horder

/-! ## Hiding the rows of one debit -/

/-- Hiding a debit takes at least the outstanding atoms of one of its rows from the sum. -/
theorem held_visit {a : Allocation} (ha : a ∈ b.allocations.rows)
    (hvisit : a.debitKey ∉ visiting) (lotId : String) :
    held (a.debitKey :: visiting) b lotId + Moves.lotShift a.source a.outstanding lotId ≤
      held visiting b lotId := by
  have hle : ∀ r ∈ b.allocations.rows,
      lotWeight (a.debitKey :: visiting) lotId r ≤ lotWeight visiting lotId r := by
    intro r hr
    have hnonneg := Allocation.outstanding_nonneg hr
    unfold lotWeight
    by_cases hsource : r.source = .creditPack lotId <;>
      by_cases hin : r.debitKey ∈ visiting <;> simp [hsource, hin]
    split <;> omega
  have htotal := Table.total_add_le hle ha
  have hrow : lotWeight visiting lotId a - lotWeight (a.debitKey :: visiting) lotId a =
      Moves.lotShift a.source a.outstanding lotId := by
    simp [lotWeight, Moves.lotShift, hvisit]
  unfold held
  linarith

/-- Hiding a debit uncovers at least the outstanding atoms of one of its rows. -/
theorem covered_visit {a : Allocation} (ha : a ∈ b.allocations.rows)
    (hvisit : a.debitKey ∉ visiting) (orderId : String) :
    covered visiting b orderId + Moves.debtShift b a a.outstanding orderId ≤
      covered (a.debitKey :: visiting) b orderId := by
  have hle : ∀ r ∈ b.allocations.rows, collectionWeight b (a.debitKey :: visiting) orderId r ≤
      collectionWeight b visiting orderId r := by
    intro r hr
    have hnonneg := Allocation.outstanding_nonneg hr
    unfold collectionWeight
    by_cases hcollects : collectsFor b orderId r = true <;>
      by_cases hin : r.debitKey ∈ visiting <;> simp [hcollects, hin]
    split <;> omega
  have htotal := Table.total_add_le hle ha
  have hrow : collectionWeight b visiting orderId a -
      collectionWeight b (a.debitKey :: visiting) orderId a =
        Moves.debtShift b a a.outstanding orderId := by
    simp [collectionWeight, Moves.debtShift, hvisit]
  unfold covered
  linarith

/-- What one outstanding row collected is in the collected column. -/
theorem le_collected {a : Allocation} (ha : a ∈ b.allocations.rows)
    (hvisit : a.debitKey ∉ visiting) {orderId : String} (hcollects : collectsFor b orderId a = true)
    (hcovered : 0 ≤ covered visiting b orderId) :
    a.outstanding ≤ debtColumn b orderId PackDebt.collectedCredits := by
  have hnonneg : ∀ r ∈ b.allocations.rows, 0 ≤ collectionWeight b visiting orderId r := by
    intro r hr
    unfold collectionWeight
    split
    · exact Allocation.outstanding_nonneg hr
    · exact le_refl _
  have hle := Table.le_total hnonneg ha
  have hrow : collectionWeight b visiting orderId a = a.outstanding := by
    simp [collectionWeight, hcollects, hvisit]
  unfold covered at hcovered
  linarith

/-- The lot of an order is the only lot that funds it. -/
theorem lotFunds_iff {lot : FundingLot} (hlot : lot ∈ b.lots.rows) {lotId : String} :
    Moves.lotFunds b lot.orderId lotId = true ↔ lotId = lot.id := by
  unfold Moves.lotFunds
  rw [Option.any_eq_true]
  constructor
  · rintro ⟨l, hl, horder⟩
    have heq : l = lot :=
      b.lots.eq_of_index_eq List.mem_cons_self (Table.find?_mem hl) hlot
        (by rw [of_decide_eq_true horder]) rfl
    exact (Table.find?_key hl).symm.trans (congrArg FundingLot.id heq)
  · rintro rfl
    exact ⟨lot, Table.find?_of_mem hlot, by simp⟩

/-! ## Reversals -/

/-- What relief of an order by `n` atoms adds to its lot. -/
def reliefShift (b : Billing) (orderId : String) (n : ℤ) (lotId : String) : ℤ :=
  if Moves.lotFunds b orderId lotId then n else 0

theorem lotFunds_frame (hf : CreditFrame b b') (orderId lotId : String) :
    Moves.lotFunds b' orderId lotId = Moves.lotFunds b orderId lotId := by
  have hgrows : Table.Grows FundingLot.static b.lots b'.lots := .of_map_eq hf.lots
  have hback : Table.Grows FundingLot.static b'.lots b.lots := .of_map_eq hf.lots.symm
  unfold Moves.lotFunds
  cases hl : b.lots.find? lotId with
  | none =>
    cases hl' : b'.lots.find? lotId with
    | none => rfl
    | some l' =>
      obtain ⟨l, hfind, -⟩ := hback.find? FundingLot.id (fun _ => rfl) hl'
      rw [hl] at hfind
      cases hfind
  | some l =>
    obtain ⟨l', hfind, hs⟩ := hgrows.find? FundingLot.id (fun _ => rfl) hl
    rw [hfind, Option.any_some, Option.any_some, FundingLot.orderId_of_static hs]

/-- Reversing `n` atoms of a source, given room for them. -/
def RestoreMoves (visiting : List String) (b : Billing) (source : FundingSource) (n : Nat)
    (b' : Billing) : Prop :=
  Linked visiting b → Fit visiting (Moves.lotShift source n) b →
    Moves visiting (Moves.lotShift source n) 0 b b'

/-- Relieving the debt of an order by `n` of at most `total` atoms. -/
def ReliefMoves (visiting : List String) (orderId : String) (b : Billing) (n : Nat)
    (b' : Billing) : Prop :=
  Linked visiting b → 0 ≤ covered visiting b orderId → ∀ total : Nat, n ≤ total →
    Fit visiting (reliefShift b orderId total) b → Moves visiting (reliefShift b orderId n) 0 b b'

namespace Releases

variable {orderId : String} {a : Allocation} {k : Nat} {b₁ : Billing}

/-- An unwinding collects for the order it relieves. -/
theorem collects (hr : Releases visiting orderId a k b b₁) (orderId' : String) :
    collectsFor b orderId' a = decide (orderId' = orderId) := by
  obtain ⟨e, he, hkind, horder⟩ := hr.debit
  simp [collectsFor, he, hkind, horder, eq_comm]

theorem outstanding (hr : Releases visiting orderId a k b b₁) : a.refundedAmount < a.amount := by
  have hpos := hr.pos
  have hle := hr.le
  omega

/-- The debt has collected the atoms of the collection being unwound. -/
theorem debt (hr : Releases visiting orderId a k b b₁) (hcovered : 0 ≤ covered visiting b orderId) :
    ∃ d debts, b.packDebts.find? orderId = some d ∧
      b.packDebts.update? orderId (PackDebt.unwind k) = some debts ∧
      b₁ = { b with packDebts := debts } ∧ k ≤ d.collectedCredits := by
  have hcollects : collectsFor b orderId a = true := by simp [hr.collects]
  obtain ⟨debts, hdebts, hb₁⟩ := hr.release
  have hle := le_collected hr.row hr.unvisited hcollects hcovered
  have hout : (k : ℤ) ≤ a.outstanding := by
    have := hr.le
    unfold Allocation.outstanding
    omega
  have hpos := hr.pos
  cases hd : b.packDebts.find? orderId with
  | none =>
    -- a debt without a row has collected nothing
    simp only [debtColumn, hd, Option.elim_none] at hle
    omega
  | some d =>
    simp only [debtColumn, hd, Option.elim_some] at hle
    have hk : k ≤ d.collectedCredits := by omega
    exact ⟨d, debts, rfl, (Table.update?_of_guarded hd (by simpa using hk)).trans hdebts, hb₁, hk⟩

/-- The debt moves the atoms of one collection from collected to released. -/
theorem moves (hr : Releases visiting orderId a k b b₁) (hl : Linked visiting b)
    (hcovered : 0 ≤ covered visiting b orderId) :
    Moves visiting (reliefShift b orderId k)
      (fun orderId' => if orderId' = orderId then -(k : ℤ) else 0) b b₁ := by
  obtain ⟨d, debts, hd, hdebts, rfl, hk⟩ := hr.debt hcovered
  refine (Moves.updateDebt hl hd hdebts fun _ => rfl).congr (fun lotId => ?_) fun orderId' => ?_
  · simp [reliefShift, PackDebt.unwind]
  · simp only [PackDebt.unwind]
    split <;> omega

/-- With the debit of `a` hidden there is room for the atoms the callee puts back. -/
theorem room {extra : String → ℤ} (hr : Releases visiting orderId a k b b₁)
    (hl : Linked visiting b) (hcovered : 0 ≤ covered visiting b orderId)
    (hfit : Fit visiting extra b) (hextra : ∀ lotId, reliefShift b orderId k lotId ≤ extra lotId) :
    Linked (a.debitKey :: visiting) b₁ ∧
      Fit (a.debitKey :: visiting) (Moves.lotShift a.source k) b₁ := by
  have hmoves := hr.moves hl hcovered
  have hcollects := hr.collects
  obtain ⟨e, he, -⟩ := hr.debit
  obtain ⟨debts, hdebts, rfl⟩ := hr.release
  have hle := hr.le
  have hout : (k : ℤ) ≤ a.outstanding := by
    unfold Allocation.outstanding
    omega
  refine ⟨⟨hmoves.linked.references, fun key hkey => ?_⟩, fun lot hlot order horder => ?_⟩
  -- the hidden debit is the one that holds `a`; the others stay hidden
  · rcases List.mem_cons.1 hkey with rfl | hkey
    · exact Option.isSome_iff_exists.2 ⟨e, he⟩
    · exact hmoves.linked.visiting key hkey
  -- each lot's fit is reread after the release, with the shift of hiding `a`
  have hf := hfit lot hlot order horder
  have hframe : CreditFrame b { b with packDebts := debts } :=
    .updatePackDebts hdebts fun _ => rfl
  refine ⟨?_, ?_, ?_, hf.terminal⟩
  -- held atoms: hiding `a` frees exactly what the callee is to put back
  · have hhide := held_visit (b := { b with packDebts := debts }) hr.row hr.unvisited lot.id
    have hheld := hmoves.held visiting (List.Subset.refl _) lot.id
    have hroom := hf.room
    have hextra := hextra lot.id
    unfold Moves.lotShift at hhide ⊢
    by_cases hsource : a.source = .creditPack lot.id
    · rw [if_pos hsource] at hhide ⊢
      omega
    · rw [if_neg hsource] at hhide ⊢
      omega
  · rw [debtColumn_target hframe]
    exact hf.refunded
  -- covered atoms: only a collection for this order leaves the covered sum
  · have hhide := covered_visit (b := { b with packDebts := debts }) hr.row hr.unvisited lot.orderId
    have hcov := hmoves.covered visiting (List.Subset.refl _) lot.orderId
    have hpos := hf.covered
    have hsame : Moves.debtShift { b with packDebts := debts } a a.outstanding lot.orderId =
        if lot.orderId = orderId then a.outstanding else 0 := by
      simp only [Moves.debtShift, show collectsFor { b with packDebts := debts } lot.orderId a =
        collectsFor b lot.orderId a from rfl, hcollects, decide_eq_true_eq]
    rw [hsame] at hhide
    split at hcov <;> simp_all <;> omega

end Releases

/-- Unwinding one collection extends relief by the atoms it unwinds. -/
theorem unwind_moves {orderId : String} {r k : Nat} {a : Allocation} {s s₁ s₂ s' : Billing}
    (hq : ReliefMoves visiting orderId b r s) (hkept : Kept visiting b s)
    (hu : Unwinds account visiting orderId a k s s₁ s₂ s')
    (hp : RestoreMoves (a.debitKey :: visiting) s₁ a.source k s₂) :
    ReliefMoves visiting orderId b (r + k) s' := by
  intro hl hcovered total hle hfit
  have hm := hq hl hcovered total (by omega) hfit
  have hcov : 0 ≤ covered visiting s orderId := by
    rw [hm.covered visiting (List.Subset.refl _), Pi.zero_apply, add_zero]
    exact hcovered
  have hrelease := hu.releases.moves hm.linked hcov
  obtain ⟨hlinked₁, hfit₁⟩ := hu.releases.room hm.linked hcov (hfit.step hkept.frame hm)
    fun lotId => by
      simp only [Pi.sub_apply, reliefShift, lotFunds_frame hkept.frame]
      split <;> omega
  have hcallee := (hp hlinked₁ hfit₁).of_subset (List.subset_cons_self _ _)
  -- marking takes the same atoms from the allocation of `a`
  obtain ⟨e, he, hkind, horder⟩ := hu.debit
  obtain ⟨debts, hdebts, hs₁⟩ := hu.release
  obtain ⟨allocations, debits, f, hallocations, hdebits, hf, hs'⟩ := hu.mark
  have hrow₁ : a ∈ s₁.allocations.rows := hs₁ ▸ hu.row
  have hdebit₁ : s₁.debits.find? a.debitKey = some e := hs₁ ▸ he
  have hle' := hu.le
  have hrow₂ : s₂.allocations.find? a.id = some a :=
    Table.find?_of_mem (hu.callee.untouched a hrow₁ List.mem_cons_self)
  have hmark := Moves.updateAllocation hcallee.linked hrow₂ hallocations (fun _ => rfl)
    hu.unvisited
  have hcollects₂ : ∀ orderId', collectsFor s₂ orderId' a = decide (orderId' = orderId) := by
    intro orderId'
    obtain ⟨e', he', hs⟩ :=
      hu.callee.frame.debits.find? Debit.idempotencyKey (fun _ => rfl) hdebit₁
    simp [collectsFor, he', Debit.kind_of_static hs, Debit.order_of_static hs, hkind, horder,
      eq_comm]
  have hend := hmark.trans (Moves.updateDebit hmark.linked hdebits hf)
  rw [hs']
  refine (((hm.trans hrelease).trans hcallee).trans hend).congr (fun lotId => ?_)
    fun orderId' => ?_
  · simp only [Pi.add_apply, Pi.zero_apply, reliefShift, lotFunds_frame hkept.frame,
      Moves.lotShift, Allocation.outstanding]
    split <;> split <;> omega
  · simp only [Pi.add_apply, Pi.zero_apply, Moves.debtShift, hcollects₂, decide_eq_true_eq,
      Allocation.outstanding]
    split <;> omega

theorem FundingLot.stock_expire (closedAt : Int) (l : FundingLot) :
    (l.expire closedAt).stock = l.stock := by
  simp only [stock, expire]
  push_cast
  ring

/-- Lazy expiry of an allocation's lot moves its atoms between two columns. -/
theorem expireAllocationLot_moves {lotId : String} {lot : FundingLot} (hl : Linked visiting b)
    (h : expireAllocationLot tx b account lotId = .ok (b', lot)) :
    Moves visiting 0 0 b b' ∧ b'.lots.find? lotId = some lot := by
  obtain ⟨l, lots, hfind, -, hcase, rfl⟩ := expireAllocationLot_eq_ok h
  have hid := Table.find?_key hfind
  rcases hcase with ⟨-, -, rfl, hlots⟩ | ⟨-, rfl, rfl⟩
  · refine ⟨.updateLots hl hlots (fun _ => rfl) (fun l _ _ => l.stock_expire _)
      fun l hterminal => ?_, ?_⟩
    · simp [FundingLot.isTerminal, FundingLot.expire] at hterminal
    · have hfind' := Table.find?_update_self hlots fun _ => rfl
      rw [show l.id = lotId from hid, hfind] at hfind'
      exact hfind'
  · exact ⟨.refl hl, hfind⟩

/-- What relief left over fits into the lot: the headroom clamp never bites. -/
theorem le_lotHeadroom {order : PackOrder} {lot : FundingLot} {n : Nat}
    (hlot : lot ∈ b.lots.rows) (hf : Fits visiting b n order lot)
    (hpos : 0 < n - reliefOf b lot.orderId n) :
    n - reliefOf b lot.orderId n ≤ lotHeadroom order lot := by
  have hroom := hf.room
  have hrefunded := hf.refunded
  have hterminal := hf.terminal
  have htotal : 0 ≤ b.allocations.total (lotWeight visiting lot.id) := by
    refine Table.total_nonneg _ fun r hr => ?_
    unfold lotWeight
    split
    · exact Allocation.outstanding_nonneg hr
    · exact le_refl _
  have hfind : b.lots.find? lot.id = some lot := Table.find?_of_mem hlot
  unfold held at hroom
  rw [hfind, Option.elim_some] at hroom
  simp only [debtColumn, FundingLot.stock] at hroom hrefunded
  unfold reliefOf at hpos ⊢
  unfold lotHeadroom
  unfold FundingLot.isTerminal at hterminal
  -- the debt is fully released, so the pack equation bounds what is left over
  cases hd : b.packDebts.find? lot.orderId with
  | none =>
    simp only [hd, Option.elim_none] at hroom hrefunded hpos ⊢
    cases hstatus : lot.status <;> simp only [hstatus] at hterminal ⊢ <;> simp at hterminal <;>
      omega
  | some d =>
    simp only [hd, Option.elim_some] at hroom hrefunded hpos ⊢
    cases hstatus : lot.status <;> simp only [hstatus] at hterminal ⊢ <;> simp at hterminal <;>
      omega

/-- Settling puts exactly the restorable atoms back when they fit. -/
theorem settleLot_moves {order : PackOrder} {lot l : FundingLot} {restorable returned : Nat}
    (hl : Linked visiting b) (hfind : b.lots.find? lot.id = some l)
    (hfits : 0 < restorable → restorable ≤ lotHeadroom order lot)
    (h : settleLot tx b account order lot restorable = .ok (b', returned)) :
    Moves visiting (fun lotId => if lotId = lot.id then (restorable : ℤ) else 0) 0 b b' := by
  have hmin : min restorable (lotHeadroom order lot) = restorable := by omega
  -- nothing to restore, an open lot that collects with what it got back, or a closed lot
  rcases settleLot_eq_ok h with ⟨hzero, rfl⟩ | ⟨-, -, lots, _, hlots, hcollect⟩ |
    ⟨-, lots, hlots, rfl⟩
  · refine (Moves.refl hl).congr (fun lotId => ?_) fun _ => rfl
    rw [show restorable = 0 by omega]
    simp
  -- the restored atoms are on the lot before the collection asks for them
  · rw [hmin] at hlots hcollect
    have hput := Moves.updateLot hl hfind hlots (fun _ => rfl) fun _ h => h
    have hroom : ∀ l', lots.find? lot.id = some l' → restorable ≤ l'.remainingCredits := by
      intro l' hl'
      have hself := Table.find?_update_self hlots fun _ => rfl
      rw [hfind, hl', Option.map_some, Option.some.injEq] at hself
      subst hself
      exact Nat.le_add_left _ _
    have hcol := Moves.collectPackDebtsFromLot hput.linked hroom hcollect
    refine (hput.trans hcol).congr (fun lotId => ?_) fun _ => rfl
    simp only [Pi.add_apply, Pi.zero_apply, FundingLot.stock]
    split <;> omega
  · rw [hmin] at hlots
    refine (Moves.updateLot hl hfind hlots (fun _ => rfl) fun _ h => h).congr (fun lotId => ?_)
      fun _ => rfl
    simp only [FundingLot.stock]
    split <;> omega

theorem reliefOf_le (b : Billing) (orderId : String) (n : Nat) : reliefOf b orderId n ≤ n := by
  unfold reliefOf
  split
  · exact Nat.zero_le _
  · exact Nat.min_le_left _ _

/-- After the lazy expiry of the lot there is room for its atoms, and for relief of its
    order. -/
theorem lot_room {lotId : String} {n : Nat} {b₁ : Billing} {lot : FundingLot} {order : PackOrder}
    (hl : Linked visiting b) (hfit : Fit visiting (Moves.lotShift (.creditPack lotId) n) b)
    (hexpire : expireAllocationLot tx b account lotId = .ok (b₁, lot))
    (horder : b₁.orders.find? lot.orderId = some order) :
    Fits visiting b₁ n order lot ∧ Fit visiting (reliefShift b₁ lot.orderId n) b₁ := by
  obtain ⟨hexp, hfind⟩ := expireAllocationLot_moves hl hexpire
  have hexpired : Kept [] b b₁ := .expireAllocationLot hexpire
  have hlot := Table.find?_mem hfind
  have hid : lot.id = lotId := Table.find?_key hfind
  have hfit₁ : Fit visiting (Moves.lotShift (.creditPack lotId) n) b₁ :=
    (hfit.step hexpired.frame hexp).congr fun _ _ => sub_zero _
  have hfits := hfit₁ lot hlot order horder
  rw [Moves.lotShift, if_pos (by rw [hid])] at hfits
  refine ⟨hfits, hfit₁.congr fun l _ => ?_⟩
  simp only [Moves.lotShift, reliefShift, lotFunds_iff hlot, FundingSource.creditPack.injEq, hid,
    eq_comm]

/-- A lot reversal puts all of its atoms back, as released debt or into the lot. -/
theorem lot_moves {lotId : String} {n returned : Nat} {b₁ b₂ : Billing} {lot : FundingLot}
    {order : PackOrder} (hexpire : expireAllocationLot tx b account lotId = .ok (b₁, lot))
    (horder : b₁.orders.find? lot.orderId = some order) (hkept : Kept visiting b₁ b₂)
    (hq : ReliefMoves visiting order.id b₁ (reliefOf b₁ order.id n) b₂)
    (hsettle : settleLot tx b₂ account order lot (n - reliefOf b₁ order.id n) =
      .ok (b', returned)) : RestoreMoves visiting b (.creditPack lotId) n b' := by
  -- expiry first, then the debt relief, then the lot itself
  intro hl hfit
  obtain ⟨hexp, hfind⟩ := expireAllocationLot_moves hl hexpire
  -- the room left after the relief is what the lot takes back
  obtain ⟨hfits, hrelief⟩ := lot_room hl hfit hexpire horder
  have hlot := Table.find?_mem hfind
  have hid : lot.id = lotId := Table.find?_key hfind
  have horderId : order.id = lot.orderId := Table.find?_key horder
  rw [horderId] at hq hsettle
  have hle := reliefOf_le b₁ lot.orderId n
  have hm := hq hexp.linked hfits.covered n hle hrelief
  -- the relief keeps the static columns, so the lot is still stored when it is settled
  obtain ⟨l, hl₂, -⟩ : ∃ l, b₂.lots.find? lot.id = some l ∧ l.static = lot.static := by
    have hgrows : Table.Grows FundingLot.static b₁.lots b₂.lots := .of_map_eq hkept.frame.lots
    exact hgrows.find? FundingLot.id (fun _ => rfl) (hid ▸ hfind)
  have hput := settleLot_moves hm.linked hl₂ (fun hpos => le_lotHeadroom hlot hfits hpos) hsettle
  refine ((hexp.trans hm).trans hput).congr (fun lotId' => ?_) fun _ => rfl
  simp only [Pi.add_apply, Pi.zero_apply, Moves.lotShift, reliefShift, lotFunds_iff hlot,
    FundingSource.creditPack.injEq, hid]
  by_cases heq : lotId' = lotId
  · simp only [heq, if_true]
    omega
  · simp [heq, Ne.symm heq]

/-- **A reversal is exact**: given room, it adds the reversed atoms to its lot, and the
    collected columns stay equal to their collections. -/
theorem restore_moves {fuel : Nat} {source : FundingSource} {n restored : Nat}
    {eventId : String} {reason : LedgerReason} (hreason : reason.isReturn)
    (h : restoreAllocationEffect tx account fuel b source n eventId reason visiting =
      .ok (b', restored)) : RestoreMoves visiting b source n b' := by
  -- mutual recursion of restoring and relieving: the six cases are those of `restore_induction`
  refine restore_induction (P := RestoreMoves) (Q := ReliefMoves) ?_ ?_ ?_ ?_ ?_ ?_ hreason h
  -- an expired subscription epoch returns nothing
  case refine_1 =>
    intro visiting b epoch n _ hl _
    exact (Moves.refl hl).congr (fun _ => (if_neg nofun).symm) fun _ => rfl
  -- the current epoch returns atoms to the balance, which no pack equation reads
  case refine_2 =>
    intro visiting b n eventId reason b' _ _ hreturn hl _
    exact (Moves.returnSubscriptionAtoms hl hreturn).congr (fun _ => (if_neg nofun).symm)
      fun _ => rfl
  -- no debt to relieve
  case refine_3 =>
    intro visiting orderId b hl _ _ _ _
    exact (Moves.refl hl).congr (fun _ => by simp [reliefShift]) fun _ => rfl
  -- the debt covers less from now on, which is a release and not a shift
  case refine_4 =>
    intro visiting orderId b d debts r hd _ _ hdebts hl _ _ _ _
    refine (Moves.updateDebt hl hd hdebts fun _ => rfl).congr (fun lotId => ?_) fun orderId' => ?_
    · simp [reliefShift, PackDebt.release]
    · simp [PackDebt.release]
  -- a collection for the order is unwound by restoring what it took from its own source
  case refine_5 =>
    intro visiting orderId b r k a s s₁ s₂ s' hq hkept hu hp
    exact unwind_moves hq hkept hu hp
  -- an atom of a lot first relieves debt, and the rest settles the lot
  case refine_6 =>
    intro visiting b lotId n b₁ lot order b₂ b' returned hexpire horder _ hkept hq hsettle
    exact lot_moves hexpire horder hkept hq hsettle

end StripeEntitlements
