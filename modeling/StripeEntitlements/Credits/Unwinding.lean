import StripeEntitlements.Credits.Reversal

/-!
# Unwinding Collections

The loop of `_relieve_pack_debt` fetches its collection rows once and reverses them one by
one, through nested reversals. The rows it has not reached yet stay exact, because the
order it relieves is frozen for its callees.

## Main results

- `restoreAllocationEffect_keeps` — a reversal keeps the credit frame, and it leaves the
  debt and the collections of an order alone while a caller is unwinding them
- `restore_induction` — the induction rule for reversals: a lot reversal is an expiry, a
  sequence of releases and exact unwindings of the debt of its order, and a settlement
-/

namespace StripeEntitlements

open Relational

variable {tx : Tx} {account : Account} {restore : Restore}

/-! ## Exact unwinding -/

/-- A reversal that keeps what its callers need. -/
def Restore.Keeps (restore : Restore) : Prop :=
  ∀ b source n eventId reason visiting b' restored, reason.isReturn →
    restore b source n eventId reason visiting = .ok (b', restored) → Kept visiting b b'

/-- One collection of `orderId` unwound by `k` atoms: the callee `b₁ ⟶ b₂` runs after the
    debt moved the atoms to released and before the allocation `a` records them. -/
structure Unwinds (account : Account) (visiting : List String) (orderId : String)
    (a : Allocation) (k : Nat) (b b₁ b₂ b' : Billing) : Prop where
  owner : a.accountId = account.id
  pos : 0 < k
  le : a.refundedAmount + k ≤ a.amount
  unvisited : a.debitKey ∉ visiting
  row : a ∈ b.allocations.rows
  debit : ∃ d, b.debits.find? a.debitKey = some d ∧ d.kind = .creditPackDebtCollection ∧
    d.clawbackOrderId = some orderId
  release : ∃ debts, b.packDebts.updateWhere?
    (fun d => d.orderId = orderId && k ≤ d.collectedCredits) (PackDebt.unwind k) = some debts ∧
    b₁ = { b with packDebts := debts }
  callee : Kept (a.debitKey :: visiting) b₁ b₂
  mark : ∃ allocations debits f,
    b₂.allocations.update? a.id (fun a => { a with refundedAmount := a.refundedAmount + k })
      = some allocations ∧
    b₂.debits.update? a.debitKey f = some debits ∧ (∀ d, (f d).static = d.static) ∧
    b' = { b₂ with allocations := allocations, debits := debits }

/-- The first half of an unwinding: the debt moves `k` atoms of the collection `a` from
    collected to released. -/
structure Releases (visiting : List String) (orderId : String) (a : Allocation) (k : Nat)
    (b b₁ : Billing) : Prop where
  pos : 0 < k
  le : a.refundedAmount + k ≤ a.amount
  unvisited : a.debitKey ∉ visiting
  row : a ∈ b.allocations.rows
  debit : ∃ d, b.debits.find? a.debitKey = some d ∧ d.kind = .creditPackDebtCollection ∧
    d.clawbackOrderId = some orderId
  release : ∃ debts, b.packDebts.updateWhere?
    (fun d => d.orderId = orderId && k ≤ d.collectedCredits) (PackDebt.unwind k) = some debts ∧
    b₁ = { b with packDebts := debts }

theorem Unwinds.releases {visiting : List String} {orderId : String} {a : Allocation} {k : Nat}
    {b b₁ b₂ b' : Billing} (h : Unwinds account visiting orderId a k b b₁ b₂ b') :
    Releases visiting orderId a k b b₁ :=
  ⟨h.pos, h.le, h.unvisited, h.row, h.debit, h.release⟩

/-- The collections `xs` are exactly what is outstanding of a settled debt, as long as
    there is something left to unwind. -/
structure Unwinding (orderId : String) (xs : List Collection) (left : Nat) (b : Billing) :
    Prop where
  settled : ∃ d, b.packDebts.find? orderId = some d ∧
    d.targetCredits = d.collectedCredits + d.releasedCredits
  rows : 0 < left →
    Table.orderBy Collection.sortKey (collectionCores b orderId) = xs.map Collection.core

namespace Unwinding

variable {orderId : String} {b b' : Billing}

theorem of_sameDebt {xs : List Collection} {left : Nat} (h : Unwinding orderId xs left b)
    (hs : SameDebt orderId b b') : Unwinding orderId xs left b' where
  settled := by rw [hs.debt]; exact h.settled
  rows := by rw [hs.collections]; exact h.rows

/-- Once everything uncollected is released the debt is settled and its rows are exact. -/
theorem start {d : PackDebt} {debts : Table PackDebt} {released : Nat} (left : Nat)
    (hd : b.packDebts.find? orderId = some d)
    (hall : released = d.targetCredits - d.releasedCredits - d.collectedCredits)
    (hdebts : b.packDebts.update? orderId (PackDebt.release released) = some debts) :
    Unwinding orderId (outstandingCollections { b with packDebts := debts } orderId) left
      { b with packDebts := debts } := by
  refine ⟨⟨PackDebt.release released d, ?_, ?_⟩, fun _ => (outstandingCollections_core _ _).symm⟩
  · have hfind := Table.find?_update_self hdebts fun _ => rfl
    rw [hd] at hfind
    exact hfind
  · have hcheck := b.packDebts.valid.checked d (Table.find?_mem hd)
    simp only [Relation.check, Bool.and_eq_true, decide_eq_true_eq] at hcheck
    simp only [PackDebt.release]
    omega

/-- Moving atoms from collected to released leaves a settled debt settled. -/
theorem release {xs : List Collection} {left k : Nat} {debts : Table PackDebt}
    (h : Unwinding orderId xs left b)
    (hdebts : b.packDebts.updateWhere? (fun d => d.orderId = orderId && k ≤ d.collectedCredits)
      (PackDebt.unwind k) = some debts) :
    Unwinding orderId xs left { b with packDebts := debts } where
  settled := by
    obtain ⟨d, hd, hsettled⟩ := h.settled
    have hfind := Table.find?_updateWhere hdebts (fun _ => rfl) orderId
    rw [hd, Option.map_some] at hfind
    refine ⟨_, hfind, ?_⟩
    split
    case isTrue hk =>
      simp only [Bool.and_eq_true, decide_eq_true_eq] at hk
      simp only [PackDebt.unwind]
      omega
    case isFalse => exact hsettled
  rows := h.rows

/-- The collection a caller is unwinding freezes its order for the callee. -/
theorem frozen {c : Collection} {xs : List Collection} {left : Nat} {visiting : List String}
    (h : Unwinding orderId (c :: xs) left b) (hleft : 0 < left) :
    Frozen (c.idempotencyKey :: visiting) orderId b where
  settled := h.settled
  oldest := ⟨c.core, xs.map Collection.core, h.rows hleft, List.mem_cons_self⟩

/-- The snapshot of the collection being unwound is still exact. -/
theorem current {c : Collection} {xs : List Collection} {left : Nat}
    (h : Unwinding orderId (c :: xs) left b) (hleft : 0 < left) :
    c.allocation ∈ b.allocations.rows ∧
      ∃ c', collectionOf b orderId c.allocation = some c' ∧ c'.core = c.core := by
  have hmem : c.core ∈ collectionCores b orderId := by
    have hfirst : c.core ∈ Table.orderBy Collection.sortKey (collectionCores b orderId) := by
      rw [h.rows hleft]
      exact List.mem_cons_self
    exact Table.mem_orderBy.1 hfirst
  obtain ⟨a, ha, hcore⟩ := List.mem_filterMap.1 hmem
  obtain ⟨c', hc', hcc'⟩ := Option.map_eq_some_iff.1 hcore
  have halloc : a = c.allocation := by
    obtain ⟨-, d, -, -, -, rfl⟩ := collectionOf_eq_some.1 hc'
    exact congrArg Collection.allocation hcc'
  subst halloc
  exact ⟨ha, c', hc', hcc'⟩

/-- The collection being unwound belongs to its debit. -/
theorem key {c : Collection} {xs : List Collection} {left : Nat}
    (h : Unwinding orderId (c :: xs) left b) (hleft : 0 < left) :
    c.allocation.debitKey = c.idempotencyKey := by
  obtain ⟨-, c', hc', hcore⟩ := h.current hleft
  obtain ⟨-, d, hd, -, -, rfl⟩ := collectionOf_eq_some.1 hc'
  exact (Table.find?_key hd).symm.trans (congrArg Collection.idempotencyKey hcore)

/-- An unwinding starts by releasing atoms of the first collection. -/
theorem releases {visiting : List String} {c : Collection} {xs : List Collection} {k left : Nat}
    {debts : Table PackDebt} (h : Unwinding orderId (c :: xs) left b) (hleft : 0 < left)
    (hk : 0 < k) (hle : k ≤ c.pending) (hvisit : c.idempotencyKey ∉ visiting)
    (hdebts : b.packDebts.updateWhere? (fun d => d.orderId = orderId && k ≤ d.collectedCredits)
      (PackDebt.unwind k) = some debts) :
    Releases visiting orderId c.allocation k b { b with packDebts := debts } := by
  obtain ⟨hrow, c', hc', -⟩ := h.current hleft
  obtain ⟨hlt, d, hd, hkind, horder, -⟩ := collectionOf_eq_some.1 hc'
  unfold Collection.pending at hle
  exact ⟨hk, by omega, (h.key hleft) ▸ hvisit, hrow, ⟨d, hd, hkind, horder⟩, debts, hdebts, rfl⟩

/-- Two outstanding collections with one sort key are the same row. -/
theorem sortKey_injOn {c c' : Collection} (hc : c ∈ collectionCores b orderId)
    (hc' : c' ∈ collectionCores b orderId) (h : c.sortKey = c'.sortKey) : c = c' := by
  obtain ⟨a, ha, hcore⟩ := List.mem_filterMap.1 hc
  obtain ⟨a', ha', hcore'⟩ := List.mem_filterMap.1 hc'
  obtain ⟨e, he, rfl⟩ := Option.map_eq_some_iff.1 hcore
  obtain ⟨e', he', rfl⟩ := Option.map_eq_some_iff.1 hcore'
  have hid : e.allocation.id = e'.allocation.id :=
    congrArg (fun k : Int ×ₗ String ×ₗ Nat => (ofLex (ofLex k).2).2) h
  have halloc : ∀ {a : Allocation} {e : Collection}, collectionOf b orderId a = some e →
      e.allocation = a := by
    intro a e he
    obtain ⟨-, d, -, -, -, rfl⟩ := collectionOf_eq_some.1 he
    rfl
  rw [halloc he, halloc he'] at hid
  have : a = a' := b.allocations.eq_of_key_eq ha ha' hid
  subst this
  rw [he, Option.some.injEq] at he'
  rw [he']

/-- Marking the first collection as fully refunded removes it from the outstanding rows. -/
theorem mark {c : Collection} {xs : List Collection} {left k : Nat}
    {allocations : Table Allocation} (h : Unwinding orderId (c :: xs) (k + left) b)
    (hk : 0 < k) (hfull : 0 < left → k = c.pending)
    (hmark : b.allocations.update? c.allocation.id
      (fun a => { a with refundedAmount := a.refundedAmount + k }) = some allocations) :
    Unwinding orderId xs left { b with allocations := allocations } where
  settled := h.settled
  rows := by
    intro hleft
    obtain ⟨hrow, c', hc', hcore⟩ := h.current (by omega)
    have hpending := (collectionOf_eq_some.1 hc').1
    have hk := hfull hleft
    unfold Collection.pending at hk
    obtain ⟨before, after, hrows, hrows'⟩ := Table.update?_split hrow hmark
    -- the marked row is no longer outstanding
    have hgone : collectionOf b orderId
        { c.allocation with refundedAmount := c.allocation.refundedAmount + k } = none := by
      rw [Option.eq_none_iff_forall_ne_some]
      intro e he
      have := (collectionOf_eq_some.1 he).1
      dsimp only at this
      omega
    have hperm : (c.core :: collectionCores { b with allocations := allocations } orderId).Perm
        (collectionCores b orderId) := by
      have hafter : collectionCores { b with allocations := allocations } orderId =
          allocations.rows.filterMap fun a => (collectionOf b orderId a).map Collection.core := rfl
      rw [hafter, collectionCores, hrows, hrows', List.filterMap_append, List.filterMap_append,
        List.filterMap_cons_none (by rw [hgone]; rfl),
        List.filterMap_cons_some (by rw [hc', Option.map_some, hcore])]
      exact List.perm_middle.symm
    have hold := h.rows (by omega)
    rw [List.map_cons] at hold
    refine Table.orderBy_eq_of_perm (fun e he e' he' => ?_) ?_ ?_
    · exact sortKey_injOn he he'
    · have hsorted := Table.orderBy_pairwise Collection.sortKey (collectionCores b orderId)
      rw [hold] at hsorted
      exact hsorted.of_cons
    · refine List.Perm.cons_inv (a := c.core) ?_
      rw [← hold]
      exact (Table.orderBy_perm _ _).trans hperm.symm

/-- One iteration of an exact loop unwinds the row it was given and stays exact. -/
theorem step {visiting : List String} {c : Collection} {xs : List Collection}
    {k left recovered recovered' : Nat} (hkeeps : restore.Keeps)
    (h : Unwinding orderId (c :: xs) (k + left) b) (hk : 0 < k) (hle : k ≤ c.pending)
    (hfull : 0 < left → k = c.pending)
    (hrun : unwindCollection restore tx account orderId visiting (b, recovered) c k left =
      .ok (b', recovered')) :
    Unwinding orderId xs left b' ∧ ∃ b₁ b₂ restored eventId,
      Unwinds account visiting orderId c.allocation k b b₁ b₂ b' ∧
      restore b₁ c.allocation.source k eventId .creditPackDebtRefund
        (c.allocation.debitKey :: visiting) = .ok (b₂, restored) := by
  obtain ⟨debts, b₂, restored, hvisit, howner, hdebts, hrestore, hmark, -⟩ :=
    unwindCollection_eq_ok hrun
  have hreleases := h.releases (by omega) hk hle hvisit hdebts
  have hkey := h.key (by omega)
  rw [← hkey] at hrestore
  -- the callee leaves the order alone, so the snapshot of `c` is exact when it is marked
  have hkept := hkeeps _ _ _ _ _ _ _ _ (.inr rfl) hrestore
  have hreleased := h.release hdebts
  have hfrozen : Frozen (c.idempotencyKey :: visiting) orderId { b with packDebts := debts } :=
    hreleased.frozen (by omega)
  have hb₂ := hreleased.of_sameDebt (hkept.frozen orderId (hkey ▸ hfrozen))
  have hrow₂ := (hb₂.current (by omega)).1
  unfold Collection.pending at hle
  obtain ⟨allocations, debits, f, hallocations, hdebits, hf, rfl⟩ := markCollection_eq_ok hmark
  have hexact : b₂.allocations.update? c.allocation.id
      (fun a => { a with refundedAmount := a.refundedAmount + k }) = some allocations := by
    rw [← hallocations]
    exact Table.update?_of_guarded (Table.find?_of_mem hrow₂) (by
      simp only [decide_eq_true_eq]
      omega)
  rw [← hkey] at hdebits
  have hmarked : Unwinding orderId xs left { b₂ with allocations := allocations } :=
    hb₂.mark hk hfull hexact
  refine ⟨hmarked.of_sameDebt (.updateDebit hdebits hf), { b with packDebts := debts }, b₂,
    restored, _, ?_, hrestore⟩
  exact {
    owner := howner
    pos := hk
    le := hreleases.le
    unvisited := hreleases.unvisited
    row := hreleases.row
    debit := hreleases.debit
    release := hreleases.release
    callee := hkept
    mark := ⟨allocations, debits, f, hexact, hdebits, hf, rfl⟩ }

/-- An iteration of an exact loop keeps what the callers of the loop need: its own order
    is not frozen for them, because its oldest collection is not being visited. -/
theorem kept {visiting : List String} {c : Collection} {xs : List Collection} {k left : Nat}
    {b₁ b₂ : Billing} (h : Unwinding orderId (c :: xs) left b) (hleft : 0 < left)
    (hu : Unwinds account visiting orderId c.allocation k b b₁ b₂ b') :
    Kept visiting b b' := by
  obtain ⟨d, hd, hkind, horder⟩ := hu.debit
  obtain ⟨debts, hdebts, hb₁⟩ := hu.release
  obtain ⟨allocations, debits, f, hallocations, hdebits, hf, hb'⟩ := hu.mark
  have hcallee := hu.callee
  subst hb₁ hb'
  have hkey := h.key hleft
  have hrow₂ : c.allocation ∈ b₂.allocations.rows :=
    hcallee.untouched _ hu.row List.mem_cons_self
  refine ⟨?_, fun orderId' hfrozen => ?_, fun a ha hv => ?_⟩
  · have h₁ : CreditFrame b { b with packDebts := debts } :=
      .updatePackDebts hdebts fun _ => rfl
    have h₂ : CreditFrame b₂ { b₂ with allocations := allocations } :=
      .updateAllocations hallocations fun _ => rfl
    exact ((h₁.trans hcallee.frame).trans h₂).trans (.updateDebit hdebits hf)
  · have hne : orderId ≠ orderId' := by
      rintro rfl
      obtain ⟨e, es, hes, he⟩ := hfrozen.oldest
      rw [h.rows hleft, List.map_cons, List.cons.injEq] at hes
      rw [← hes.1] at he
      exact hu.unvisited (hkey.symm ▸ he)
    have h₁ : SameDebt orderId' b { b with packDebts := debts } := by
      refine .updatePackDebts hdebts (fun _ => rfl) fun e he => ?_
      simp only [he, Ne.symm hne, decide_false, Bool.false_and]
    have h₂ := hcallee.frozen orderId' (hfrozen.of_sameDebt h₁).mono
    have h₃ : SameDebt orderId' b₂ { b₂ with allocations := allocations } := by
      refine .updateAllocation hallocations (fun _ => rfl) fun a ha e he => ?_
      have hsame : c.allocation = a :=
        b₂.allocations.eq_of_key_eq hrow₂ (Table.find?_mem ha) (Table.find?_key ha).symm
      subst hsame
      -- the debit found before the callee ran is still the one of this allocation
      obtain ⟨d', hd', hs⟩ := hcallee.frame.debits.find? Debit.idempotencyKey (fun _ => rfl) hd
      rw [hd', Option.some.injEq] at he
      subst he
      rw [Debit.order_of_static hs, horder]
      exact fun heq => hne (Option.some.inj heq)
    exact ((h₁.trans h₂).trans h₃).trans (.updateDebit hdebits hf)
  · have hmem : a ∈ b₂.allocations.rows :=
      hcallee.untouched a ha (List.mem_cons_of_mem _ hv)
    have hid : a.id ≠ c.allocation.id := by
      intro hid
      have : a = c.allocation := b₂.allocations.eq_of_key_eq hmem hrow₂ hid
      exact hu.unvisited (this ▸ hv)
    change a ∈ allocations.rows
    rw [Table.update?_eq_some.1 hallocations]
    exact List.mem_map.2 ⟨a, hmem, if_neg hid⟩

end Unwinding

/-! ## The induction rule -/

/-- Relief of a frozen order succeeds only where there is nothing to relieve. -/
theorem relieve_frozen {visiting : List String} {orderId : String} {b b' : Billing}
    {amount relieved recovered : Nat} (hfrozen : Frozen visiting orderId b)
    (h : relievePackDebt restore tx b account orderId amount visiting =
      .ok (b', relieved, recovered)) : relieved = 0 ∧ b' = b := by
  obtain ⟨-, ⟨hzero, -, hb⟩ | ⟨d, debts, released, hpos, hd, -, hreleased, -, hcase⟩⟩ :=
    relievePackDebt_eq_ok h
  -- nothing was relieved
  · exact ⟨hzero, hb⟩
  · obtain ⟨d', hd', hsettled⟩ := hfrozen.settled
    rw [hd, Option.some.injEq] at hd'
    subst hd'
    -- a frozen debt has nothing left to release, and its oldest collection is being unwound
    rcases hcase with ⟨heq, -⟩ | ⟨-, hdrain⟩
    · omega
    -- the drain starts with that collection, whose debit is among the visited ones
    · exfalso
      obtain ⟨e, es, hes, hvisit⟩ := hfrozen.oldest
      have hcores : (outstandingCollections { b with packDebts := debts } orderId).map
          Collection.core = e :: es := by
        rw [outstandingCollections_core]
        exact hes
      obtain ⟨c, cs, hcs, hc, -⟩ := List.map_eq_cons_iff.1 hcores
      rw [hcs] at hdrain
      have hpending : 0 < c.pending := by
        have hmem : c ∈ outstandingCollections { b with packDebts := debts } orderId :=
          hcs ▸ List.mem_cons_self
        obtain ⟨a, -, ha⟩ := mem_outstandingCollections.1 hmem
        obtain ⟨hlt, -, -, -, -, rfl⟩ := collectionOf_eq_some.1 ha
        simp only [Collection.pending]
        omega
      -- unwinding it would raise, so the drain cannot have succeeded
      rcases drain_cons_eq_ok hdrain with ⟨hzero, -, hleft⟩ | ⟨-, ⟨s, r⟩, hbody, -⟩
      · omega
      · obtain ⟨_, _, _, hnot, -⟩ := unwindCollection_eq_ok hbody
        exact hnot (by rw [← hc] at hvisit; exact hvisit)

/-- Releasing debt of an order that is not frozen. -/
theorem Kept.release {visiting : List String} {orderId : String} {b : Billing}
    {debts : Table PackDebt} {r : Nat} (hfrozen : ¬ Frozen visiting orderId b)
    (hdebts : b.packDebts.update? orderId (PackDebt.release r) = some debts) :
    Kept visiting b { b with packDebts := debts } := by
  refine ⟨.updatePackDebts hdebts fun _ => rfl, fun orderId' hf => ?_, fun a ha _ => ha⟩
  refine .updatePackDebts hdebts (fun _ => rfl) fun e he => ?_
  have hne : orderId' ≠ orderId := fun heq => hfrozen (heq ▸ hf)
  exact decide_eq_false fun heq : e.orderId = orderId => hne (he.symm.trans heq)

/-- **Relief rule**: relief is a release of uncollected debt followed by exact unwindings of
    single collections. `Q` collects what is relieved so far. -/
theorem relieve_rule {visiting : List String} {orderId : String} {b b' : Billing}
    {amount relieved recovered : Nat} {Q : Nat → Billing → Prop} (hkeeps : restore.Keeps)
    (unrelieved : Q 0 b)
    (release : ∀ d debts r, b.packDebts.find? orderId = some d → d.accountId = account.id →
      r ≤ d.targetCredits - d.releasedCredits - d.collectedCredits →
      b.packDebts.update? orderId (PackDebt.release r) = some debts →
      Kept visiting b { b with packDebts := debts } → Q r { b with packDebts := debts })
    (unwind : ∀ r k a s s₁ s₂ s' restored eventId, Q r s → Kept visiting s s' →
      Unwinds account visiting orderId a k s s₁ s₂ s' →
      restore s₁ a.source k eventId .creditPackDebtRefund (a.debitKey :: visiting) =
        .ok (s₂, restored) → Q (r + k) s')
    (h : relievePackDebt restore tx b account orderId amount visiting =
      .ok (b', relieved, recovered)) : Q relieved b' := by
  -- a frozen order relieves nothing; otherwise its debt is released before any collection is
  -- unwound
  by_cases hfrozen : Frozen visiting orderId b
  · obtain ⟨rfl, rfl⟩ := relieve_frozen hfrozen h
    exact unrelieved
  obtain ⟨-, ⟨rfl, -, rfl⟩ | ⟨d, debts, released, hpos, hd, howner, hreleased, hdebts, hcase⟩⟩ :=
    relievePackDebt_eq_ok h
  · exact unrelieved
  -- the debits being visited keep their own debts, since they are not of this order
  have hkept : Kept visiting b { b with packDebts := debts } := .release hfrozen hdebts
  have hfirst := release d debts released hd howner (by omega) hdebts hkept
  rcases hcase with ⟨rfl, -, rfl⟩ | ⟨hlt, hdrain⟩
  · exact hfirst
  have hstart := Unwinding.start (relieved - released) hd (by omega) hdebts
  -- loop invariant: the collections ahead are those of the order, and `Q` holds of what is
  -- relieved
  obtain ⟨_, -, hleft, hend⟩ := drain_invariant
    (P := fun xs left (s : Billing × Nat) => Unwinding orderId xs left s.1 ∧ left ≤ relieved ∧
      Q (relieved - left) s.1) (by
      rintro c xs k left ⟨s, r⟩ ⟨s', r'⟩ hk hle hfull ⟨hrows, hbound, hq⟩ hrun
      obtain ⟨hrows', s₁, s₂, restored, eventId, hu, hrestore⟩ :=
        hrows.step hkeeps hk hle hfull hrun
      have hnext := unwind _ k _ _ _ _ _ _ _ hq (hrows.kept (by omega) hu) hu hrestore
      rw [show relieved - (k + left) + k = relieved - left by omega] at hnext
      exact ⟨hrows', by omega, hnext⟩)
    ⟨hstart, by omega, by rw [show relieved - (relieved - released) = released by omega]; exact hfirst⟩
    hdrain
  simpa using hend

theorem relievePackDebt_kept {visiting : List String} {orderId : String} {b b' : Billing}
    {amount relieved recovered : Nat} (hkeeps : restore.Keeps)
    (h : relievePackDebt restore tx b account orderId amount visiting =
      .ok (b', relieved, recovered)) : Kept visiting b b' :=
  relieve_rule (Q := fun _ s => Kept visiting b s) hkeeps (.refl _ b)
    (fun _ _ _ _ _ _ _ hkept => hkept) (fun _ _ _ _ _ _ _ _ _ hq hkept _ _ => hq.trans hkept) h

/-- Reversals keep the credit frame and everything their callers are unwinding. -/
theorem restoreAllocationEffect_keeps (tx : Tx) (account : Account) (fuel : Nat) :
    (restoreAllocationEffect tx account fuel).Keeps := by
  induction fuel with
  | zero =>
    intro b source n eventId reason visiting b' restored hreason h
    cases h
  | succ fuel ih =>
    intro b source n eventId reason visiting b' restored hreason h
    cases source with
    | subscription epoch =>
      simp only [restoreAllocationEffect] at h
      split at h
      · rw [pure_eq_ok] at h
        cases h
        exact .refl _ b
      · exact .returnSubscriptionAtoms hreason h
    | creditPack lotId =>
      simp only [restoreAllocationEffect] at h
      obtain ⟨_, _, _, _, _, _, _, hexpire, -, -, hrelieve, hsettle, -⟩ := restoreToLot_eq_ok h
      exact ((Kept.expireAllocationLot hexpire).trans (relievePackDebt_kept ih hrelieve)).trans
        (.settleLot hsettle)

/-- **Induction rule for reversals.** `P visiting b source n b'` speaks about reversing `n`
    atoms of a source, `Q visiting orderId b n b'` about relieving the debt of an order by
    `n` atoms. -/
theorem restore_induction {P : List String → Billing → FundingSource → Nat → Billing → Prop}
    {Q : List String → String → Billing → Nat → Billing → Prop}
    (stale : ∀ visiting b epoch n,
      epoch ≠ account.grantEpoch ∨ subscriptionCreditsAreSpendable account tx.wall = false →
      P visiting b (.subscription epoch) n b)
    (subscription : ∀ visiting b n eventId reason b',
      subscriptionCreditsAreSpendable account tx.wall = true → reason.isReturn →
      returnSubscriptionAtoms tx b account n eventId reason = .ok (b', n) →
      P visiting b (.subscription account.grantEpoch) n b')
    (unrelieved : ∀ visiting orderId b, Q visiting orderId b 0 b)
    (release : ∀ visiting orderId b d debts r,
      b.packDebts.find? orderId = some d → d.accountId = account.id →
      r ≤ d.targetCredits - d.releasedCredits - d.collectedCredits →
      b.packDebts.update? orderId (PackDebt.release r) = some debts →
      Q visiting orderId b r { b with packDebts := debts })
    (unwind : ∀ visiting orderId b r k a s s₁ s₂ s', Q visiting orderId b r s →
      Kept visiting b s → Unwinds account visiting orderId a k s s₁ s₂ s' →
      P (a.debitKey :: visiting) s₁ a.source k s₂ → Q visiting orderId b (r + k) s')
    (lot : ∀ visiting b lotId n b₁ lot order b₂ b' returned,
      expireAllocationLot tx b account lotId = .ok (b₁, lot) →
      b₁.orders.find? lot.orderId = some order → order.accountId = account.id →
      Kept visiting b₁ b₂ → Q visiting order.id b₁ (reliefOf b₁ order.id n) b₂ →
      settleLot tx b₂ account order lot (n - reliefOf b₁ order.id n) = .ok (b', returned) →
      P visiting b (.creditPack lotId) n b')
    {fuel : Nat} {b b' : Billing} {source : FundingSource} {n restored : Nat} {eventId : String}
    {reason : LedgerReason} {visiting : List String} (hreason : reason.isReturn)
    (h : restoreAllocationEffect tx account fuel b source n eventId reason visiting =
      .ok (b', restored)) : P visiting b source n b' := by
  -- induction on the depth of the recursion; it is the same for restoring and relieving
  induction fuel generalizing b b' source n restored eventId reason visiting with
  | zero => cases h
  | succ fuel ih =>
    cases source with
    | subscription epoch =>
      -- an older epoch is stale; the current one returns atoms while the subscription can be
      -- spent
      simp only [restoreAllocationEffect] at h
      split at h
      case isTrue hepoch =>
        rw [pure_eq_ok] at h
        cases h
        exact stale _ _ _ _ (.inl hepoch)
      case isFalse hepoch =>
        rw [ne_eq, Decidable.not_not] at hepoch
        subst hepoch
        rcases returnSubscriptionAtoms_eq_ok h with ⟨hsp, rfl, rfl⟩ | ⟨hsp, rfl, -⟩
        · exact stale _ _ _ _ (.inr hsp)
        · exact subscription _ _ _ _ _ _ hsp hreason h
    | creditPack lotId =>
      -- a lot: expiry, relief of its order's debt, settlement of the rest
      simp only [restoreAllocationEffect] at h
      obtain ⟨b₁, l, order, b₂, relieved, recovered, returned, hexpire, horder, howner, hrelieve,
        hsettle, -⟩ := restoreToLot_eq_ok h
      have hkeeps := restoreAllocationEffect_keeps tx account fuel
      have hrelieved : relieved = reliefOf b₁ order.id n := (relievePackDebt_eq_ok hrelieve).1
      -- the relief rule, with the induction hypothesis at each collection it unwinds
      have hq := relieve_rule
        (Q := fun r s => Kept visiting b₁ s ∧ Q visiting order.id b₁ r s) hkeeps
        ⟨.refl _ _, unrelieved _ _ _⟩
        (fun d debts r hd hdebt hle hdebts hkept =>
          ⟨hkept, release _ _ _ d debts r hd hdebt hle hdebts⟩)
        (fun r k a s s₁ s₂ s' _ _ hs hkept hu hrestore =>
          ⟨hs.1.trans hkept, unwind _ _ _ r k a s s₁ s₂ s' hs.2 hs.1 hu (ih (.inr rfl) hrestore)⟩)
        hrelieve
      rw [hrelieved] at hq hsettle
      exact lot _ _ _ _ b₁ l order b₂ b' returned hexpire horder howner hq.1 hq.2 hsettle

end StripeEntitlements
