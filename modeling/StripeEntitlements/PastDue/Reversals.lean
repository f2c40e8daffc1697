import StripeEntitlements.PastDue.Restated

/-!
# Refunds of Restated Accounts

A product refund reverses every allocation of its debit, and unwinds pack debt on the way. Run
from two restated states it takes the same steps, as long as each return to the subscription
balance finds it spendable in both or in neither. Where it is spendable in one only, the
refund still runs alike when nothing of the current epoch can be reached: not by the debit
itself, and not by a collection it unwinds.

## Main definitions

- `Untapped` — no collection of pack debt took atoms of an account's epoch that are still
  outstanding
- `Alike` — the refund reaches the subscription balance alike from both states, or not at all

## Main results

- `restoreAllocationEffect_untapped` — a reversal that returns nothing taps nothing
- `refund_agrees` — a refund runs alike from restated states
-/

namespace StripeEntitlements

open Relational

variable {tx : Tx} {b b' : Billing} {account account' : Account} {owner : String} {epoch : Nat}

/-! ## What collections took -/

/-- Outstanding atoms that an account drew from its epoch were all drawn by product debits. The
    epochs of other accounts count on their own: their allocations say nothing here. -/
def Untapped (accountId : String) (epoch : Nat) (b : Billing) : Prop :=
  ∀ a ∈ b.allocations.rows, a.accountId = accountId → a.source = .subscription epoch →
    a.refundedAmount < a.amount → ∃ d, b.debits.find? a.debitKey = some d ∧ d.kind = .usage

namespace Untapped

theorem of_eq (h : Untapped owner epoch b) (hdebits : b'.debits = b.debits)
    (hallocations : b'.allocations = b.allocations) : Untapped owner epoch b' := by
  unfold Untapped
  rw [hdebits, hallocations]
  exact h

/-- An outstanding collection drew from something else. -/
theorem collection (h : Untapped owner epoch b) {orderId : String} {c : Collection}
    (hc : c ∈ outstandingCollections b orderId) (howner : c.allocation.accountId = owner) :
    c.allocation.source ≠ .subscription epoch := by
  rw [outstandingCollections, Table.mem_orderBy, List.mem_filterMap] at hc
  obtain ⟨a, ha, hof⟩ := hc
  obtain ⟨hlt, d, hdebit, hkind, -, rfl⟩ := collectionOf_eq_some.1 hof
  intro hsource
  obtain ⟨d', hdebit', hkind'⟩ := h a ha howner hsource hlt
  rw [hdebit, Option.some.injEq] at hdebit'
  rw [← hdebit', hkind] at hkind'
  cases hkind'

/-- A collection from a lot. -/
theorem collectPackDebt (h : Untapped owner epoch b) {grantEpoch amount : Nat} {lotId : String}
    {debt : PackDebt} (hrun : collectPackDebt tx grantEpoch (some lotId) b debt amount = .ok b') :
    Untapped owner epoch b' := by
  obtain ⟨_, debits, allocations, -, hdebits, -, hall, rfl⟩ := collectPackDebt_eq_ok hrun
  intro a ha howner hsource hlt
  change a ∈ allocations.rows at ha
  rw [Table.insert?_eq_some.1 hall, List.mem_append, List.mem_singleton] at ha
  rcases ha with ha | rfl
  · obtain ⟨d, hdebit, hkind⟩ := h a ha howner hsource hlt
    refine ⟨d, ?_, hkind⟩
    show debits.find? a.debitKey = some d
    rw [Table.find?_insert hdebits, if_neg, hdebit]
    -- the key of the new debit is fresh
    intro heq
    rw [← heq, Table.find?_eq_none_of_insert hdebits] at hdebit
    cases hdebit
  · cases hsource

theorem collectPackDebtsFromLot (h : Untapped owner epoch b) {accountId lotId : String}
    {available collected : Nat}
    (hrun : collectPackDebtsFromLot tx b accountId lotId available = .ok (b', collected)) :
    Untapped owner epoch b' := by
  obtain ⟨_, b₁, _, -, hdrain, -, lots, -, rfl⟩ := collectPackDebtsFromLot_eq_ok hrun
  have hloop : Untapped owner epoch b₁ := drain_rule (P := fun _ s => Untapped owner epoch s)
    (fun _ _ _ _ _ _ _ hs hbody => hs.collectPackDebt hbody) h hdrain
  exact hloop.of_eq rfl rfl

theorem expireAllocationLot (h : Untapped owner epoch b) {lotId : String} {lot : FundingLot}
    (hrun : expireAllocationLot tx b account lotId = .ok (b', lot)) : Untapped owner epoch b' := by
  obtain ⟨_, lots, -, -, -, rfl⟩ := expireAllocationLot_eq_ok hrun
  exact h.of_eq rfl rfl

theorem settleLot (h : Untapped owner epoch b) {order : PackOrder} {lot : FundingLot}
    {restorable returned : Nat}
    (hrun : settleLot tx b account order lot restorable = .ok (b', returned)) :
    Untapped owner epoch b' := by
  rcases settleLot_eq_ok hrun with ⟨-, rfl⟩ | ⟨-, -, lots, _, -, hcollect⟩ | ⟨-, lots, -, rfl⟩
  · exact h
  · have hlots : Untapped owner epoch { b with lots := lots } := h.of_eq rfl rfl
    exact hlots.collectPackDebtsFromLot hcollect
  · exact h.of_eq rfl rfl

/-- Refund progress of allocations. -/
theorem updateAllocations (h : Untapped owner epoch b) {p : Allocation → Bool} {n : Nat}
    {t : Table Allocation} (ht : b.allocations.updateWhere? p
      (fun a => { a with refundedAmount := a.refundedAmount + n }) = some t) :
    Untapped owner epoch { b with allocations := t } := by
  intro a' ha' howner hsource hlt
  change a' ∈ t.rows at ha'
  rw [Table.updateWhere?_eq_some.1 ht] at ha'
  obtain ⟨a, ha, rfl⟩ := List.mem_map.1 ha'
  by_cases hp : p a = true
  · -- more is refunded of the row than before
    rw [if_pos hp] at howner hsource hlt ⊢
    exact h a ha howner hsource (by dsimp only at hlt; omega)
  · rw [if_neg hp] at howner hsource hlt ⊢
    exact h a ha howner hsource hlt

/-- Refund facts of a debit. -/
theorem updateDebit (h : Untapped owner epoch b) {key : String} {f : Debit → Debit} {t : Table Debit}
    (ht : b.debits.update? key f = some t) (hf : ∀ d, (f d).static = d.static) :
    Untapped owner epoch { b with debits := t } := by
  intro a ha howner hsource hlt
  obtain ⟨d, hdebit, hkind⟩ := h a ha howner hsource hlt
  have hkey : ∀ d, Relation.key (f d) = Relation.key d := fun d => Debit.key_of_static (hf d)
  refine ⟨if d.idempotencyKey = key then f d else d, ?_, ?_⟩
  · show t.find? a.debitKey = _
    rw [Table.find?_updateWhere ht hkey, hdebit, Option.map_some, Option.some.injEq]
    simp only [decide_eq_true_eq]
    rfl
  · split
    · rw [Debit.kind_of_static (hf d), hkind]
    · exact hkind

theorem markCollection (h : Untapped owner epoch b) {c : Collection} {reversing restored : Nat}
    (hrun : markCollection tx b c reversing restored = .ok b') : Untapped owner epoch b' := by
  obtain ⟨allocations, debits, f, hallocations, hdebits, hf, rfl⟩ := markCollection_eq_ok hrun
  have hmarked : Untapped owner epoch { b with allocations := allocations } :=
    h.updateAllocations hallocations
  exact hmarked.updateDebit hdebits hf

end Untapped

/-- **A reversal that returns nothing to the balance taps nothing.** Collections from the epoch of
    the account would have been unwound into its balance; where there are none before, there are
    none after. -/
theorem restoreAllocationEffect_untapped
    (hclosed : subscriptionCreditsAreSpendable account tx.wall = false)
    {fuel n restored : Nat} {source : FundingSource} {eventId : String} {reason : LedgerReason}
    {visiting : List String} (hreason : reason.isReturn)
    (hrun : restoreAllocationEffect tx account fuel b source n eventId reason visiting =
      .ok (b', restored)) (h : Untapped owner epoch b) : Untapped owner epoch b' := by
  -- the balance is closed, so the only write that taps the epoch never happens
  refine restore_induction (P := fun _ b _ _ b' => Untapped owner epoch b → Untapped owner epoch b')
    (Q := fun _ _ b _ b' => Untapped owner epoch b → Untapped owner epoch b') ?_ ?_ ?_ ?_ ?_ ?_ hreason hrun h
  case refine_1 => exact fun _ _ _ _ _ h => h
  -- the current epoch would have to be spendable
  case refine_2 =>
    intro _ _ _ _ _ _ hspendable
    rw [hclosed] at hspendable
    cases hspendable
  case refine_3 => exact fun _ _ _ h => h
  case refine_4 => exact fun _ _ _ _ _ _ _ _ _ _ h => h.of_eq rfl rfl
  -- release and mark leave every allocation's source and outstanding columns to the callee
  case refine_5 =>
    intro _ _ b r k a s s₁ s₂ s' hq _ hunwind hp h
    obtain ⟨_, -, hs₁⟩ := hunwind.release
    obtain ⟨allocations, debits, f, hallocations, hdebits, hf, hs'⟩ := hunwind.mark
    have hcallee : Untapped owner epoch s₂ := hp (by rw [hs₁]; exact (hq h).of_eq rfl rfl)
    have hmarked : Untapped owner epoch { s₂ with allocations := allocations } :=
      hcallee.updateAllocations hallocations
    rw [hs']
    exact hmarked.updateDebit hdebits hf
  case refine_6 =>
    intro _ b _ _ b₁ _ _ b₂ _ _ hexpire _ _ _ hq hsettle h
    exact (hq (h.expireAllocationLot hexpire)).settleLot hsettle

/-! ## Reversals run alike -/

/-- The subscription balance is spendable for both accounts or for neither; or it is not for
    the second one, and collections took nothing of the epoch that a refund could return. -/
def Alike (tx : Tx) (account account' : Account) (b' : Billing) : Prop :=
  subscriptionCreditsAreSpendable account' tx.wall =
      subscriptionCreditsAreSpendable account tx.wall ∨
    subscriptionCreditsAreSpendable account' tx.wall = false ∧ Untapped account.id account.grantEpoch b'

/-- The same for the reversal of atoms drawn from one source. -/
def AlikeFrom (tx : Tx) (account account' : Account) (source : FundingSource) (b' : Billing) :
    Prop :=
  Alike tx account account' b' ∧
    (subscriptionCreditsAreSpendable account' tx.wall =
        subscriptionCreditsAreSpendable account tx.wall ∨
      source ≠ .subscription account.grantEpoch)

theorem Alike.imp {b₁ : Billing} (h : Alike tx account account' b')
    (hstep : subscriptionCreditsAreSpendable account' tx.wall = false →
      Untapped account.id account.grantEpoch b' → Untapped account.id account.grantEpoch b₁) :
    Alike tx account account' b₁ :=
  Or.imp_right (fun h => ⟨h.1, hstep h.1 h.2⟩) h

/-- Two reversals run alike, and neither taps what is untapped. -/
structure RestoresAlike (tx : Tx) (account account' : Account) (restore restore' : Restore) :
    Prop where
  agrees {b b' : Billing} {source : FundingSource} {n : Nat} {eventId : String}
    {reason : LedgerReason} {visiting : List String} : reason.isReturn → Restated b b' →
    AlikeFrom tx account account' source b' →
    Agree Restated.Answers (restore b source n eventId reason visiting)
      (restore' b' source n eventId reason visiting)
  untapped {b' b₁ : Billing} {source : FundingSource} {n restored : Nat} {eventId : String}
    {reason : LedgerReason} {visiting : List String} :
    subscriptionCreditsAreSpendable account' tx.wall = false → reason.isReturn →
    restore' b' source n eventId reason visiting = .ok (b₁, restored) →
    Untapped account.id account.grantEpoch b' → Untapped account.id account.grantEpoch b₁

namespace Restated

theorem outstandingCollections (h : Restated b b') (orderId : String) :
    outstandingCollections b' orderId = outstandingCollections b orderId := by
  have hof : collectionOf b' orderId = collectionOf b orderId := by
    funext a
    unfold collectionOf
    rw [h.debits]
  unfold StripeEntitlements.outstandingCollections
  rw [hof, h.allocations]

theorem markCollection (h : Restated b b') {c : Collection} {reversing restored : Nat} :
    Agree Restated (markCollection tx b c reversing restored)
      (markCollection tx b' c reversing restored) := by
  unfold StripeEntitlements.markCollection
  refine .same _ fun newRestored _ => ?_
  refine (h.updateWhere _ _).bind fun s s' _ hs => ?_
  unfold markRestored
  rw [hs.allocations]
  exact hs.update _ _

theorem expireAllocationLot (h : Restated b b') (hid : account'.id = account.id)
    {lotId : String} :
    Agree Answers (expireAllocationLot tx b account lotId)
      (expireAllocationLot tx b' account' lotId) := by
  unfold StripeEntitlements.expireAllocationLot
  rw [h.lots, hid]
  refine .same _ fun lot _ => ?_
  split
  · exact (h.update _ _).bind fun _ _ _ hs => .pure ⟨hs, rfl⟩
  · exact .pure ⟨h, rfl⟩

theorem settleLot (h : Restated b b') (hid : account'.id = account.id) {order : PackOrder}
    {lot : FundingLot} {restorable : Nat} :
    Agree Answers (settleLot tx b account order lot restorable)
      (settleLot tx b' account' order lot restorable) := by
  unfold StripeEntitlements.settleLot
  split
  · exact .pure ⟨h, rfl⟩
  cases lot.status with
  | active =>
    unfold returnToLot
    dsimp only
    split
    · exact .pure ⟨h, rfl⟩
    · rw [hid]
      refine .same _ fun _ _ => (h.update _ _).bind fun _ _ _ hs => ?_
      exact hs.collectPackDebtsFromLot.bind fun _ _ _ hs => .pure ⟨hs.1, rfl⟩
  | expired =>
    refine Agree.bind (R := Restated) ?_ fun _ _ _ hs => .pure ⟨hs, rfl⟩
    unfold retireToLot
    dsimp only
    split
    · exact .pure h
    · exact .same _ fun _ _ => h.update _ _
  | refunded | disputed => exact .pure ⟨h, rfl⟩

end Restated

section

variable {restore restore' : Restore} {orderId : String} {visiting : List String}

/-- Unwinding one collection. One that another account's allocation recorded is refused before
    anything is reversed. -/
theorem RestoresAlike.unwindCollection (hr : RestoresAlike tx account account' restore restore')
    (hid : account'.id = account.id) {s s' : Billing × Nat} (hs : Restated.Answers s s')
    (halike : Alike tx account account' s'.1) {c : Collection}
    (hc : c.allocation.accountId = account.id →
      AlikeFrom tx account account' c.allocation.source s'.1) {reversing left : Nat} :
    Agree (fun t t' : Billing × Nat => Restated.Answers t t' ∧ Alike tx account account' t'.1)
      (unwindCollection restore tx account orderId visiting s c reversing left)
      (unwindCollection restore' tx account' orderId visiting s' c reversing left) := by
  unfold StripeEntitlements.unwindCollection
  rw [hid]
  -- both sides refuse a collection that another account's allocation recorded
  refine .same _ fun _ _ => .same _ fun _ howned => .same _ fun _ _ => ?_
  rw [require_eq_ok, Bool.and_eq_true, decide_eq_true_eq, decide_eq_true_eq] at howned
  refine (hs.1.updateWhere _ _).bind fun t t' ht' ht => ?_
  rw [Billing.updateWhere_eq_ok] at ht'
  obtain ⟨debts, -, rfl⟩ := ht'
  have hdebts : Untapped account.id account.grantEpoch s'.1 →
      Untapped account.id account.grantEpoch { s'.1 with packDebts := debts } := fun h => h.of_eq rfl rfl
  -- the source of the collection is the owner's, so the callee may be compared
  have hfrom : AlikeFrom tx account account' c.allocation.source
      { s'.1 with packDebts := debts } := ⟨halike.imp fun _ => hdebts, (hc howned.2).2⟩
  refine (hr.agrees (.inr rfl) ht hfrom).bind ?_
  rintro ⟨u, restored⟩ ⟨u', _⟩ hu' ⟨hu, rfl⟩
  dsimp only at hu hu' ⊢
  refine hu.markCollection.bind fun v v' hv' hv => .pure ⟨⟨hv, ?_⟩, ?_⟩
  · rw [hs.2]
  -- what the callee left untapped the mark leaves untapped
  · refine halike.imp fun hclosed huntapped => ?_
    exact (hr.untapped hclosed (.inr rfl) hu' (hdebts huntapped)).markCollection hv'

/-- Relieving the debt of an order. -/
theorem RestoresAlike.relievePackDebt (hr : RestoresAlike tx account account' restore restore')
    (hid : account'.id = account.id) (h : Restated b b') (halike : Alike tx account account' b')
    {amount : Nat} :
    Agree (fun s s' : Billing × Nat × Nat =>
        Restated.Answers s s' ∧ Alike tx account account' s'.1)
      (relievePackDebt restore tx b account orderId amount visiting)
      (relievePackDebt restore' tx b' account' orderId amount visiting) := by
  unfold StripeEntitlements.relievePackDebt
  rw [h.packDebts]
  cases b.packDebts.find? orderId with
  | none => exact .pure ⟨⟨h, rfl⟩, halike⟩
  | some debt =>
    dsimp only
    split
    · exact .pure ⟨⟨h, rfl⟩, halike⟩
    rw [hid]
    refine .same _ fun _ _ => ?_
    split
    · exact .pure ⟨⟨h, rfl⟩, halike⟩
    refine (h.update _ _).bind fun t t' ht' ht => ?_
    rw [Billing.update_eq_ok] at ht'
    obtain ⟨debts, -, rfl⟩ := ht'
    have hreleased : Alike tx account account' { b' with packDebts := debts } :=
      halike.imp fun _ h => h.of_eq rfl rfl
    split
    · exact .pure ⟨⟨ht, rfl⟩, hreleased⟩
    rw [ht.outstandingCollections]
    refine Agree.bind (R := fun p q : (Billing × Nat) × Nat =>
      (Restated.Answers p.1 q.1 ∧ Alike tx account account' q.1.1) ∧ p.2 = q.2)
      (Agree.drain (R := fun s s' : Billing × Nat =>
        Restated.Answers s s' ∧ Alike tx account account' s'.1) ?_ ⟨⟨ht, rfl⟩, hreleased⟩) ?_
    · intro c hc reversing left s s' hs
      refine hr.unwindCollection hid hs.1 hs.2 fun howner => ⟨hs.2, ?_⟩
      -- a collection of the account's debt did not take what is untapped
      rcases hreleased with hsame | ⟨-, huntapped⟩
      · exact .inl hsame
      · exact .inr (huntapped.collection ((ht.outstandingCollections orderId).symm ▸ hc) howner)
    · rintro ⟨⟨s, recovered⟩, left⟩ ⟨⟨s', _⟩, _⟩ - ⟨⟨⟨hs, rfl⟩, hs'⟩, rfl⟩
      exact .same _ fun _ _ => .pure ⟨⟨hs, rfl⟩, hs'⟩

end

/-- **Reversals run alike.** From states that differ in the status of the account only, a reversal
    makes the same moves; the status matters where atoms return to the balance, and both accounts
    read it alike or nothing returns. -/
theorem restoreAllocationEffect_agrees (hcredits : account'.credits = account.credits)
    (fuel : Nat) : RestoresAlike tx account account' (restoreAllocationEffect tx account fuel)
      (restoreAllocationEffect tx account' fuel) := by
  obtain ⟨hid, -, hepoch⟩ := Account.credits_eq.1 hcredits
  refine ⟨?_, fun hclosed hreason hrun =>
    restoreAllocationEffect_untapped hclosed hreason hrun⟩
  -- induction on the fuel, together with what the callee leaves untapped
  induction fuel with
  | zero => exact fun _ _ _ => .error _
  | succ fuel ih =>
    intro b b' source n eventId reason visiting _ h hfrom
    cases source with
    -- the one place where the sides could differ: returning atoms of the current epoch
    | subscription epoch =>
      simp only [restoreAllocationEffect]
      rw [hepoch]
      split
      · exact .pure ⟨h, rfl⟩
      case isFalse heq =>
        rw [ne_eq, Decidable.not_not] at heq
        subst heq
        exact h.returnSubscriptionAtoms hcredits (hfrom.2.resolve_right fun hne => hne rfl)
    -- a lot is expired, relieved and settled by the same calls on both sides
    | creditPack lotId =>
      have hr : RestoresAlike tx account account' (restoreAllocationEffect tx account fuel)
          (restoreAllocationEffect tx account' fuel) :=
        ⟨ih, fun hclosed hreason hrun => restoreAllocationEffect_untapped hclosed hreason hrun⟩
      simp only [restoreAllocationEffect]
      unfold restoreToLot
      refine (h.expireAllocationLot hid).bind ?_
      rintro ⟨s, lot⟩ ⟨s', _⟩ hexpire ⟨hs, rfl⟩
      dsimp only at hs hexpire ⊢
      rw [hs.orders, hid]
      refine .same _ fun order _ => ?_
      have halike : Alike tx account account' s' :=
        hfrom.1.imp fun _ huntapped => huntapped.expireAllocationLot hexpire
      refine (hr.relievePackDebt hid hs halike).bind ?_
      rintro ⟨t, relieved, recovered⟩ ⟨t', _, _⟩ - ⟨⟨ht, heq⟩, -⟩
      cases heq
      refine (ht.settleLot hid).bind ?_
      rintro ⟨u, returned⟩ ⟨u', _⟩ - ⟨hu, rfl⟩
      exact .pure ⟨hu, rfl⟩

end StripeEntitlements
