import StripeEntitlements.Packs.Progress

/-!
# Books of Product Debits

A product debit is drawn from its allocations once, and only its own refund returns
anything to it. The refund therefore restores at most what was charged.

## Main results

- `restoreAllocationEffect_le` — a reversal restores at most what it reverses
- `reverseDebit_le` — a refund restores at most the amount of its debit
- `Reachable.debitBooks` — the books of every run
-/

namespace StripeEntitlements

open Relational

variable {cfg : Config} {tx : Tx} {account : Account} {visiting : List String}
  {db : Db} {b b' : Billing}

/-! ## What a reversal restores -/

/-- A settlement returns at most what is restorable. -/
theorem settleLot_le {order : PackOrder} {lot : FundingLot} {restorable returned : Nat}
    (h : settleLot tx b account order lot restorable = .ok (b', returned)) :
    returned ≤ restorable := by
  unfold settleLot at h
  split at h
  · rw [pure_eq_ok] at h
    cases h
    exact Nat.zero_le _
  -- an active lot gets back what it has room for; no other status returns anything
  cases hstatus : lot.status with
  | active =>
    simp only [hstatus, returnToLot] at h
    split at h
    · rw [pure_eq_ok] at h
      cases h
      exact Nat.zero_le _
    · simp only [bind_eq_ok, pure_eq_ok] at h
      obtain ⟨_, -, _, -, _, -, heq⟩ := h
      cases heq
      exact Nat.min_le_left _ _
  | expired =>
    simp only [hstatus, bind_eq_ok, pure_eq_ok] at h
    obtain ⟨_, -, heq⟩ := h
    cases heq
    exact Nat.zero_le _
  | refunded | disputed =>
    simp only [hstatus, pure_eq_ok] at h
    cases h
    exact Nat.zero_le _

/-- Relief recovers at most what it relieves, where its callees do. -/
theorem relievePackDebt_le {restore : Restore} {orderId : String} {amount relieved recovered : Nat}
    (hrestore : ∀ b source n eventId reason visiting b' restored,
      restore b source n eventId reason visiting = .ok (b', restored) → restored ≤ n)
    (h : relievePackDebt restore tx b account orderId amount visiting =
      .ok (b', relieved, recovered)) : recovered ≤ relieved ∧ relieved ≤ amount := by
  obtain ⟨hrelieved, hcase⟩ := relievePackDebt_eq_ok h
  refine ⟨?_, hrelieved ▸ reliefOf_le b orderId amount⟩
  rcases hcase with ⟨-, rfl, -⟩ | ⟨d, debts, released, -, -, -, -, -, hcase⟩
  · exact Nat.zero_le _
  rcases hcase with ⟨-, rfl, -⟩ | ⟨hlt, hdrain⟩
  · exact Nat.zero_le _
  have hloop := drain_rule
    (P := fun left (s : Billing × Nat) => s.2 + left ≤ relieved - released) (by
      rintro c k left ⟨s, r⟩ ⟨s', r'⟩ _ _ hle hbody
      obtain ⟨_, _, restored, -, -, -, hrun, -, rfl⟩ := unwindCollection_eq_ok hbody
      have hcallee := hrestore _ _ _ _ _ _ _ _ hrun
      dsimp only at hle ⊢
      omega)
    (by simp) hdrain
  dsimp only at hloop
  omega

/-- **A reversal restores at most what it reverses**: what the debt of the lot takes first and what
    the lot takes back are parts of it, and a closed epoch takes nothing. -/
theorem restoreAllocationEffect_le (fuel : Nat) : ∀ b source n eventId reason visiting b' restored,
    restoreAllocationEffect tx account fuel b source n eventId reason visiting =
      .ok (b', restored) → restored ≤ n := by
  -- induction on the depth, as the reversal of a collection reverses its source in turn
  induction fuel with
  | zero =>
    intro b source n eventId reason visiting b' restored h
    cases h
  | succ fuel ih =>
    intro b source n eventId reason visiting b' restored h
    cases source with
    | subscription epoch =>
      simp only [restoreAllocationEffect] at h
      -- a closed epoch returns nothing, the current one all of it
      split at h
      · rw [pure_eq_ok] at h
        cases h
        exact Nat.zero_le _
      · rcases returnSubscriptionAtoms_eq_ok h with ⟨-, -, rfl⟩ | ⟨-, rfl, -⟩
        · exact Nat.zero_le _
        · exact le_refl _
    | creditPack lotId =>
      simp only [restoreAllocationEffect] at h
      -- what the debt relief recovers and what the lot takes back are parts of what it was given
      obtain ⟨_, _, _, _, relieved, recovered, returned, -, -, -, hrelieve, hsettle, rfl⟩ :=
        restoreToLot_eq_ok h
      obtain ⟨hrecovered, hrelieved⟩ := relievePackDebt_le ih hrelieve
      have hreturned := settleLot_le hsettle
      omega

/-- Reversing allocations restores at most what is outstanding of them. -/
theorem refundAllocations_le {fuel total total' : Nat} {key : String} {rows : List Allocation}
    (h : refundAllocations (restoreAllocationEffect tx account fuel) key rows (b, total) =
      .ok (b', total')) :
    total' ≤ total + (rows.map fun a => a.amount - a.refundedAmount).sum := by
  induction rows generalizing b total with
  | nil =>
    cases h
    exact Nat.le_add_right _ _
  | cons a rest ih =>
    simp only [refundAllocations] at h
    rw [List.map_cons, List.sum_cons]
    split at h
    case isTrue hzero =>
      have hrest := ih h
      omega
    case isFalse =>
      simp only [bind_eq_ok] at h
      obtain ⟨⟨b₁, restored⟩, hrestore, b₂, -, h⟩ := h
      have hcallee := restoreAllocationEffect_le fuel _ _ _ _ _ _ _ _ hrestore
      have hrest := ih h
      omega

/-- A refund of a debit is progress. -/
theorem refundAllocations_progress {fuel total total' : Nat} {key : String}
    {rows : List Allocation}
    (h : refundAllocations (restoreAllocationEffect tx account fuel) key rows (b, total) =
      .ok (b', total')) : Progress b b' := by
  induction rows generalizing b total with
  | nil =>
    cases h
    exact .refl _
  | cons a rest ih =>
    simp only [refundAllocations] at h
    split at h
    · exact ih h
    · simp only [bind_eq_ok] at h
      obtain ⟨⟨b₁, restored⟩, hrestore, b₂, hmark, h⟩ := h
      exact ((restore_progress (.inl rfl) hrestore).trans (.markRefunded hmark)).trans (ih h)

theorem reverseDebit_progress {debit : Debit} {key : String} {restored : Nat}
    (h : reverseDebit tx b account debit key = .ok (b', restored)) : Progress b b' := by
  unfold reverseDebit at h
  dsimp only at h
  split at h
  · split at h
    · exact .returnSubscriptionAtoms (.inl rfl) h
    · rw [pure_eq_ok] at h
      cases h
      exact .refl b
  · exact refundAllocations_progress h

/-! ## Books -/

/-- The atoms a debit was allocated from its sources. -/
def allocated (b : Billing) (key : String) : Nat :=
  ((allocationsOf b key).map Allocation.amount).sum

/-- A product debit is allocated at most once, and restored by its refund only. -/
structure DebitBooks (b : Billing) : Prop where
  unrestored : ∀ d ∈ b.debits.rows, d.kind = .usage → d.refundedAt = none → d.restoredCredits = 0
  funded : ∀ d ∈ b.debits.rows, d.kind = .usage → allocated b d.idempotencyKey ≤ d.amount

/-- **A refund restores at most the amount of its debit**, since the allocations of a debit add up
    to it and each is restored at most once. -/
theorem reverseDebit_le {debit : Debit} {key : String} {restored : Nat}
    (hfunded : allocated b key ≤ debit.amount)
    (h : reverseDebit tx b account debit key = .ok (b', restored)) : restored ≤ debit.amount := by
  unfold reverseDebit at h
  dsimp only at h
  split at h
  · split at h
    · rcases returnSubscriptionAtoms_eq_ok h with ⟨-, -, rfl⟩ | ⟨-, rfl, -⟩
      · exact Nat.zero_le _
      · exact le_refl _
    · rw [pure_eq_ok] at h
      cases h
      exact Nat.zero_le _
  case h_2 =>
    have hle := refundAllocations_le h
    have hperm := Table.orderBy_perm Allocation.id (b.allocations.select (·.debitKey = key))
    rw [(hperm.map _).sum_eq, zero_add] at hle
    refine le_trans (le_trans hle ?_) hfunded
    rw [allocated, allocationsOf, List.map_map]
    exact List.sum_le_sum fun a _ => Nat.sub_le _ _

namespace DebitBooks

theorem of_eq (h : DebitBooks b) (hdebits : b'.debits = b.debits)
    (hallocations : b'.allocations = b.allocations) : DebitBooks b' where
  unrestored := hdebits ▸ h.unrestored
  funded d hd hkind := by
    rw [allocated, allocationsOf, hallocations]
    exact h.funded d (hdebits ▸ hd) hkind

theorem progress (h : DebitBooks b) (hp : Progress b b') : DebitBooks b' := by
  have hold : ∀ d ∈ b'.debits.rows, d.kind = .usage → b.debits.find? d.idempotencyKey = some d :=
    fun d hd hkind => (hp.product _ d hkind).1 (Table.find?_of_mem hd)
  refine ⟨fun d hd hkind => h.unrestored d (Table.find?_mem (hold d hd hkind)) hkind,
    fun d hd hkind => ?_⟩
  have hfind := hold d hd hkind
  rw [allocated, hp.allocations _ (Option.isSome_iff_exists.2 ⟨d, hfind⟩)]
  exact h.funded d (Table.find?_mem hfind) hkind

/-- One allocation more. -/
theorem allocated_insert {key accountId : String} {source : FundingSource} {used : Nat}
    (h : b.insertAllocation key accountId source used = .ok b') (k : String) :
    allocated b' k = allocated b k + if key = k then used else 0 := by
  rw [Billing.insertAllocation_eq_ok] at h
  obtain ⟨-, allocations, hall, rfl⟩ := h
  simp only [allocated, allocationsOf, Table.select, Table.insert?_eq_some.1 hall,
    List.filter_append, List.map_append, List.sum_append]
  congr 1
  by_cases hk : key = k <;> simp [Billing.newAllocation, hk, Allocation.static]

theorem drawFromSource {key : String} {source : ChargeSource} {used left total total' : Nat}
    (h : drawFromSource account key (b, total) source used left = .ok (b', total')) :
    b'.debits = b.debits ∧ ∀ k, allocated b' k = allocated b k + if key = k then used else 0 := by
  have hdebits : ∀ {s s' : Billing} {accountId : String} {source : FundingSource},
      s.insertAllocation key accountId source used = .ok s' → s'.debits = s.debits := by
    intro s s' accountId source hinsert
    rw [Billing.insertAllocation_eq_ok] at hinsert
    obtain ⟨-, _, -, rfl⟩ := hinsert
    rfl
  cases source with
  | subscription a expiresAt =>
    simp only [StripeEntitlements.drawFromSource, bind_eq_ok, pure_eq_ok] at h
    obtain ⟨b₁, hinsert, heq⟩ := h
    cases heq
    exact ⟨hdebits hinsert, allocated_insert hinsert⟩
  | creditPack lot =>
    simp only [StripeEntitlements.drawFromSource, bind_eq_ok, Billing.updateWhere_eq_ok,
      pure_eq_ok, Stored.table, Stored.install] at h
    obtain ⟨_, ⟨lots, -, rfl⟩, b₁, hinsert, heq⟩ := h
    cases heq
    have hsame := hdebits hinsert
    have hallocated := allocated_insert hinsert
    exact ⟨hsame, hallocated⟩

/-- A charge allocates what it draws, and no more than its amount. -/
theorem charge {printable : Char → Bool} {accountId idempotencyKey : String} {amount : Nat}
    {result : CreditResult} (h : DebitBooks b) (hrefs : PackReferences b)
    (hrun : charge printable tx b accountId amount idempotencyKey = .ok (b', result)) :
    DebitBooks b' := by
  simp only [StripeEntitlements.charge, bind_eq_ok] at hrun
  obtain ⟨-, -, key, -, account, -, ⟨b₁, expired⟩, hexpire, -, -, hrun⟩ := hrun
  have h₁ := h.progress (.expireAccountPackLots hexpire)
  have hl : Linked [] b := ⟨hrefs, by simp⟩
  have hl₁ := (expireAccountPackLots_moves hl hexpire).1.linked
  -- a replay only expires lots
  split at hrun
  · simp only [bind_eq_ok, pure_eq_ok] at hrun
    obtain ⟨_, -, heq⟩ := hrun
    cases heq
    exact h₁
  · simp only [bind_eq_ok, Billing.insert_eq_ok, pure_eq_ok, Stored.table, Stored.install] at hrun
    obtain ⟨_, ⟨debits, hdebits, rfl⟩, -, -, ⟨⟨b₂, used⟩, left⟩, hdrain, b₃, hsubscription, heq⟩ :=
      hrun
    cases heq
    have hnew : b₁.debits.find? key = none := Table.find?_eq_none_of_insert hdebits
    -- no allocation can be of a debit that was not there
    have hfresh : allocated b₁ key = 0 := by
      have hnone : b₁.allocations.select (·.debitKey = key) = [] := by
        refine List.filter_eq_nil_iff.2 fun a ha hkey => ?_
        have hsome := hl₁.references.debit a ha
        rw [of_decide_eq_true hkey, hnew] at hsome
        cases hsome
      rw [allocated, allocationsOf, hnone]
      rfl
    -- loop invariant: what is allocated to this debit is the amount less what is left to draw
    obtain ⟨hsame, hallocated⟩ := drain_rule
      (P := fun left (s : Billing × Nat) => s.1.debits = debits ∧ left ≤ amount ∧
        ∀ k, allocated s.1 k = allocated b₁ k + if key = k then amount - left else 0) (by
      rintro source used left ⟨s, total⟩ ⟨s', total'⟩ _ _ ⟨hs, hle, hall⟩ hdraw
      obtain ⟨hs', hall'⟩ := drawFromSource hdraw
      refine ⟨hs'.trans hs, by omega, fun k => ?_⟩
      rw [hall', hall]
      split <;> omega)
      ⟨rfl, le_refl _, fun k => by simp [allocated, allocationsOf]⟩ hdrain
    have hpaid : SamePacks b₂ b' := chargeSubscription_packs hsubscription
    refine DebitBooks.of_eq (b := b₂) ⟨fun d hd hkind hnone => ?_, fun d hd hkind => ?_⟩
      hpaid.debits hpaid.allocations
    all_goals
      rw [hsame, Table.insert?_eq_some.1 hdebits, List.mem_append, List.mem_singleton] at hd
    · rcases hd with hd | rfl
      · exact h₁.unrestored d hd hkind hnone
      · rfl
    · rw [hallocated.2]
      rcases hd with hd | rfl
      · have hne : key ≠ d.idempotencyKey := by
          rintro rfl
          rw [show b₁.debits.find? d.idempotencyKey = some d from Table.find?_of_mem hd] at hnew
          cases hnew
        rw [if_neg hne]
        exact h₁.funded d hd hkind
      · rw [if_pos rfl, hfresh]
        dsimp only
        omega

/-- A refund marks its debit as refunded. -/
theorem refund {printable : Char → Bool} {idempotencyKey : String}
    {expectedAccountId : Option String} {result : CreditResult} (h : DebitBooks b)
    (hrun : refund printable tx b idempotencyKey expectedAccountId = .ok (b', result)) :
    DebitBooks b' := by
  obtain ⟨account, b₁, expired, debit, -, hexpire, hdebit, -, hkind, hcase⟩ := refund_eq_ok hrun
  have h₁ := h.progress (.expireAccountPackLots hexpire)
  -- a repeated refund changes nothing; the first one marks the debit last
  rcases hcase with ⟨-, rfl, -⟩ | ⟨-, b₂, restored, debits, hreverse, hdebits, rfl, -⟩
  · exact h₁
  have h₂ := h₁.progress (reverseDebit_progress hreverse)
  -- the mark changes refund columns only, and it is the one that sets `refundedAt`
  have hrow : ∀ d' ∈ debits.rows, ∃ d ∈ b₂.debits.rows, d'.static = d.static ∧
      (d' = d ∨ d'.refundedAt.isSome) := by
    intro d' hd'
    rw [Table.update?_eq_some.1 hdebits] at hd'
    obtain ⟨d, hd, rfl⟩ := List.mem_map.1 hd'
    refine ⟨d, hd, ?_⟩
    split
    · exact ⟨rfl, .inr rfl⟩
    · exact ⟨rfl, .inl rfl⟩
  refine ⟨fun d' hd' hkind' hnone => ?_, fun d' hd' hkind' => ?_⟩
  -- a debit that is still unrefunded was not the one marked
  · obtain ⟨d, hd, -, rfl | hsome⟩ := hrow d' hd'
    · exact h₂.unrestored d' hd hkind' hnone
    · rw [hnone] at hsome
      cases hsome
  · obtain ⟨d, hd, hs, -⟩ := hrow d' hd'
    have hamount : d'.amount = d.amount := (congrArg Debit.amount hs :)
    rw [Debit.key_of_static hs, hamount]
    exact h₂.funded d hd ((Debit.kind_of_static hs).symm.trans hkind')

theorem payment {p : PackPayment} {effect : Effect} (h : DebitBooks b)
    (hrun : applyPackPayment tx b p = .ok effect) : DebitBooks effect.billing := by
  obtain ⟨orders, accounts, -, -, ⟨-, heq⟩ | ⟨-, lots, -, hcase⟩⟩ := applyPackPayment_eq_ok hrun
  · rw [heq]
    exact h.of_eq rfl rfl
  have hlots : DebitBooks { b with orders := orders, accounts := accounts, lots := lots } :=
    h.of_eq rfl rfl
  rcases hcase with heq | ⟨-, _, hcollect⟩
  · rw [heq]
    exact hlots
  · exact hlots.progress (.collectPackDebtsFromLot hcollect)

theorem steps (h : DebitBooks b) (hsteps : PackSteps tx b b') : DebitBooks b' :=
  hsteps.keeps (fun hsame hs => hs.of_eq hsame.debits hsame.allocations)
    (fun hcollect hs => hs.progress (.collectPackDebtsFromSubscription hcollect)) h

theorem transition (h : DebitBooks b) (hb : PackBooks b) (ht : PackTransition cfg b b') :
    DebitBooks b' := by
  cases ht with
  | event he =>
    cases he with
    | steps hs => exact h.steps hs
    | payment _ _ hrun heq => exact heq ▸ h.payment hrun
    | clawback _ hrun heq =>
      have hclaws := applyPackClawback_clawsBack hrun
      rw [heq]
      exact h.of_eq hclaws.debits hclaws.allocations
  | steps hs => exact h.steps hs
  | charge hrun => exact h.charge hb.state.references hrun
  | refund hrun => exact h.refund hrun
  | outside ho => exact h.of_eq ho.debits ho.allocations

theorem empty : DebitBooks Billing.empty where
  unrestored _ hd := absurd hd List.not_mem_nil
  funded _ hd := absurd hd List.not_mem_nil

end DebitBooks

/-- The books of every run. -/
theorem Reachable.debitBooks (h : Reachable cfg db) : DebitBooks db.billing :=
  (h.invariant (P := fun b => PackBooks b ∧ DebitBooks b) ⟨.empty, .empty⟩ fun _ _ hcommit hb =>
    ⟨hb.1.transition hcommit.packs, hb.2.transition hb.1 hcommit.packs⟩).2

end StripeEntitlements
