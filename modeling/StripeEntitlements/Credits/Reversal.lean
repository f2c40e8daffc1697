import StripeEntitlements.Credits.CreditFrame

/-!
# Reversing Allocations

`_restore_allocation_effect` and `_relieve_pack_debt` call each other through the debts of
other orders. This module says once what each step of a reversal writes, and what it
leaves alone while a caller is unwinding the collections of an order.

## Main results

- `relievePackDebt_eq_ok`, `restoreToLot_eq_ok`, `settleLot_eq_ok` — the steps
- `SameDebt` — the debt of an order and its outstanding collections are untouched
- `Kept` — what a step keeps for callers that are unwinding collections
-/

namespace StripeEntitlements

open Relational

variable {tx : Tx} {account : Account} {restore : Restore}

/-! ## What the steps do -/

theorem unwindCollection_eq_ok {orderId : String} {visiting : List String} {b b' : Billing}
    {recovered recovered' : Nat} {c : Collection} {reversing left : Nat}
    (h : unwindCollection restore tx account orderId visiting (b, recovered) c reversing left =
      .ok (b', recovered')) :
    ∃ debts b₂ restored,
      c.idempotencyKey ∉ visiting ∧ c.allocation.accountId = account.id ∧
      b.packDebts.updateWhere? (fun d => d.orderId = orderId && reversing ≤ d.collectedCredits)
        (PackDebt.unwind reversing) = some debts ∧
      restore { b with packDebts := debts } c.allocation.source reversing
        s!"pack-debt-release:{c.idempotencyKey}" .creditPackDebtRefund
        (c.idempotencyKey :: visiting) = .ok (b₂, restored) ∧
      markCollection tx b₂ c reversing restored = .ok b' ∧
      recovered' = recovered + restored := by
  simp only [unwindCollection, bind_eq_ok, require_eq_ok, Billing.updateWhere_eq_ok, pure_eq_ok,
    Stored.table, Stored.install] at h
  obtain ⟨-, hvisit, -, howner, -, -, _, ⟨debts, hdebts, rfl⟩, ⟨b₂, restored⟩, hrestore, b₃,
    hmark, heq⟩ := h
  cases heq
  simp only [Bool.and_eq_true, decide_eq_true_eq] at howner
  exact ⟨debts, b₂, restored, by simpa using hvisit, howner.2, hdebts, hrestore, hmark, rfl⟩

/-- How much of `amount` the debt of an order absorbs. -/
def reliefOf (b : Billing) (orderId : String) (amount : Nat) : Nat :=
  match b.packDebts.find? orderId with
  | none => 0
  | some d => min amount (d.targetCredits - d.releasedCredits)

/-- Relief is nothing, or a release of uncollected debt and then a loop over collections. -/
theorem relievePackDebt_eq_ok {orderId : String} {visiting : List String} {b b' : Billing}
    {amount relieved recovered : Nat}
    (h : relievePackDebt restore tx b account orderId amount visiting =
      .ok (b', relieved, recovered)) :
    relieved = reliefOf b orderId amount ∧
    (relieved = 0 ∧ recovered = 0 ∧ b' = b ∨
      ∃ d debts released, 0 < relieved ∧
        b.packDebts.find? orderId = some d ∧ d.accountId = account.id ∧
        released = min relieved (d.targetCredits - d.releasedCredits - d.collectedCredits) ∧
        b.packDebts.update? orderId (PackDebt.release released) = some debts ∧
        (relieved = released ∧ recovered = 0 ∧ b' = { b with packDebts := debts } ∨
          released < relieved ∧
          drain Collection.pending (unwindCollection restore tx account orderId visiting)
            (outstandingCollections { b with packDebts := debts } orderId) (relieved - released)
            ({ b with packDebts := debts }, 0) = .ok ((b', recovered), 0))) := by
  -- no debt of this order, nothing to relieve
  unfold relievePackDebt at h
  unfold reliefOf
  split at h
  case h_1 hnone =>
    rw [pure_eq_ok] at h
    cases h
    simp [hnone]
  case h_2 d hd =>
    simp only [hd]
    split at h
    case isTrue hzero =>
      rw [pure_eq_ok] at h
      cases h
      simp [hzero]
    -- the debt belongs to the account that is refunded, as the source requires
    case isFalse hpos =>
      simp only [bind_eq_ok, require_eq_ok, decide_eq_true_eq] at h
      obtain ⟨-, howner, h⟩ := h
      split at h
      case isTrue hrelief =>
        rw [pure_eq_ok] at h
        cases h
        exact ⟨hrelief.symm, .inl ⟨rfl, rfl, rfl⟩⟩
      case isFalse hrelief =>
        -- first the part of the debt that nobody has collected is released
        simp only [bind_eq_ok, Billing.update_eq_ok, Stored.table, Stored.install] at h
        obtain ⟨_, ⟨debts, hdebts, rfl⟩, h⟩ := h
        split at h
        -- that was all of it
        case isTrue hreverse =>
          rw [pure_eq_ok] at h
          cases h
          refine ⟨rfl, .inr ⟨d, debts, _, by omega, rfl, howner, rfl, hdebts,
            .inl ⟨by omega, rfl, rfl⟩⟩⟩
        -- the rest was collected, so collections are unwound until nothing remains
        case isFalse hreverse =>
          simp only [bind_eq_ok, require_eq_ok, pure_eq_ok] at h
          obtain ⟨⟨⟨b₁, recovered₁⟩, remaining⟩, hdrain, -, hremaining, heq⟩ := h
          cases heq
          simp only [decide_eq_true_eq] at hremaining
          subst hremaining
          exact ⟨rfl, .inr ⟨d, debts, _, by omega, rfl, howner, rfl, hdebts, .inr ⟨by omega, hdrain⟩⟩⟩

/-- A lot reversal is an expiry, relief and a settlement. -/
theorem restoreToLot_eq_ok {b b' : Billing} {lotId : String} {amount restored : Nat}
    {visiting : List String}
    (h : restoreToLot restore tx account b lotId amount visiting = .ok (b', restored)) :
    ∃ b₁ lot order b₂ relieved recovered returned,
      expireAllocationLot tx b account lotId = .ok (b₁, lot) ∧
      b₁.orders.find? lot.orderId = some order ∧ order.accountId = account.id ∧
      relievePackDebt restore tx b₁ account order.id amount visiting =
        .ok (b₂, relieved, recovered) ∧
      settleLot tx b₂ account order lot (amount - relieved) = .ok (b', returned) ∧
      restored = recovered + returned := by
  simp only [restoreToLot, bind_eq_ok, fetch_eq_ok, Option.filter_eq_some_iff,
    decide_eq_true_eq, pure_eq_ok] at h
  obtain ⟨⟨b₁, lot⟩, hexpire, order, ⟨horder, howner⟩, ⟨b₂, relieved, recovered⟩, hrelieve,
    ⟨b₃, returned⟩, hsettle, heq⟩ := h
  cases heq
  exact ⟨b₁, lot, order, b₂, relieved, recovered, returned, hexpire, horder, howner, hrelieve,
    hsettle, rfl⟩

/-- The lot of an allocation, after it expired where its window has closed. -/
theorem expireAllocationLot_eq_ok {b b' : Billing} {lotId : String} {lot : FundingLot}
    (h : expireAllocationLot tx b account lotId = .ok (b', lot)) :
    ∃ l lots, b.lots.find? lotId = some l ∧ l.accountId = account.id ∧
      (l.status = .active ∧ l.expiresAt ≤ tx.wall ∧ lot = l.expire tx.wall ∧
          b.lots.update? l.id (FundingLot.expire tx.wall) = some lots ∨
        ¬(l.status = .active ∧ l.expiresAt ≤ tx.wall) ∧ lot = l ∧ lots = b.lots) ∧
      b' = { b with lots := lots } := by
  simp only [expireAllocationLot, bind_eq_ok, fetch_eq_ok, Option.filter_eq_some_iff,
    decide_eq_true_eq] at h
  obtain ⟨l, ⟨hl, howner⟩, h⟩ := h
  split at h
  case isTrue hexpired =>
    simp only [Bool.and_eq_true, decide_eq_true_eq] at hexpired
    simp only [bind_eq_ok, Billing.update_eq_ok, pure_eq_ok, Stored.table, Stored.install] at h
    obtain ⟨_, ⟨lots, hlots, rfl⟩, heq⟩ := h
    cases heq
    exact ⟨l, lots, hl, howner, .inl ⟨hexpired.1, hexpired.2, rfl, hlots⟩, rfl⟩
  case isFalse hlive =>
    simp only [Bool.and_eq_true, decide_eq_true_eq] at hlive
    rw [pure_eq_ok] at h
    cases h
    exact ⟨lot, b.lots, hl, howner, .inr ⟨hlive, rfl, rfl⟩, rfl⟩

/-- What the lot can still take back. -/
def lotHeadroom (order : PackOrder) (lot : FundingLot) : Nat :=
  match lot.status with
  | .active => order.packCredits - order.refundedCredits - lot.remainingCredits
  | .expired => order.packCredits - order.refundedCredits - lot.expiredCredits
  | .refunded | .disputed => 0

/-- A settlement puts the restorable atoms back up to the headroom: into the remaining
    atoms of an active lot, or into the expired atoms of an expired one. -/
theorem settleLot_eq_ok {b b' : Billing} {order : PackOrder} {lot : FundingLot}
    {restorable returned : Nat}
    (h : settleLot tx b account order lot restorable = .ok (b', returned)) :
    (min restorable (lotHeadroom order lot) = 0 ∧ b' = b) ∨
    (lot.status = .active ∧ 0 < restorable ∧ ∃ lots collected,
      b.lots.update? lot.id (fun l => { l with
        remainingCredits := l.remainingCredits + min restorable (lotHeadroom order lot) })
        = some lots ∧
      collectPackDebtsFromLot tx { b with lots := lots } account.id lot.id
        (min restorable (lotHeadroom order lot)) = .ok (b', collected)) ∨
    (lot.status = .expired ∧ ∃ lots,
      b.lots.update? lot.id (fun l => { l with
        expiredCredits := l.expiredCredits + min restorable (lotHeadroom order lot) })
        = some lots ∧ b' = { b with lots := lots }) := by
  -- nothing to restore first, then one branch for each status of the lot
  unfold settleLot at h
  split at h
  case isTrue hzero =>
    rw [pure_eq_ok] at h
    cases h
    exact .inl ⟨by omega, rfl⟩
  case isFalse =>
    cases hstatus : lot.status with
    -- an active lot takes the atoms back and offers them to the account's debts
    | active =>
      simp only [hstatus, returnToLot] at h
      simp only [lotHeadroom, hstatus]
      split at h
      case isTrue hzero =>
        rw [pure_eq_ok] at h
        cases h
        exact .inl ⟨hzero, rfl⟩
      case isFalse =>
        simp only [bind_eq_ok, Billing.update_eq_ok, pure_eq_ok, Stored.table,
          Stored.install] at h
        obtain ⟨_, -, _, ⟨lots, hlots, rfl⟩, ⟨b₁, collected⟩, hcollect, heq⟩ := h
        cases heq
        exact .inr (.inl ⟨by simp, by omega, lots, collected, hlots, hcollect⟩)
    -- an expired lot takes them back as expired atoms
    | expired =>
      simp only [hstatus, bind_eq_ok, retireToLot] at h
      simp only [lotHeadroom, hstatus]
      obtain ⟨b₁, hretire, heq⟩ := h
      rw [pure_eq_ok] at heq
      cases heq
      split at hretire
      case isTrue hzero =>
        rw [pure_eq_ok] at hretire
        exact .inl ⟨hzero, hretire.symm⟩
      case isFalse =>
        simp only [bind_eq_ok, Billing.update_eq_ok, Stored.table, Stored.install] at hretire
        obtain ⟨_, -, lots, hlots, rfl⟩ := hretire
        exact .inr (.inr ⟨by simp, lots, hlots, rfl⟩)
    -- a refunded or disputed lot takes nothing back
    | refunded | disputed =>
      simp only [hstatus, pure_eq_ok] at h
      cases h
      exact .inl ⟨by simp [lotHeadroom, hstatus], rfl⟩

/-- Booking a collection writes one allocation and its debit. -/
theorem markCollection_eq_ok {b b' : Billing} {c : Collection} {reversing restored : Nat}
    (h : markCollection tx b c reversing restored = .ok b') :
    ∃ allocations debits f,
      b.allocations.updateWhere?
        (fun a => a.id = c.allocation.id && a.refundedAmount + reversing ≤ a.amount)
        (fun a => { a with refundedAmount := a.refundedAmount + reversing }) = some allocations ∧
      b.debits.update? c.idempotencyKey f = some debits ∧ (∀ d, (f d).static = d.static) ∧
      b' = { b with allocations := allocations, debits := debits } := by
  simp only [markCollection, markRefunded, markRestored, bind_eq_ok, Billing.updateWhere_eq_ok,
    Billing.update_eq_ok, Stored.table, Stored.install] at h
  obtain ⟨_, -, _, ⟨allocations, hallocations, rfl⟩, debits, hdebits, rfl⟩ := h
  exact ⟨allocations, debits, _, hallocations, hdebits, fun _ => rfl, rfl⟩

/-- A refund expires lots, and then replays or reverses the debit. -/
theorem refund_eq_ok {printable : Char → Bool} {b b' : Billing} {idempotencyKey : String}
    {expectedAccountId : Option String} {result : CreditResult}
    (h : refund printable tx b idempotencyKey expectedAccountId = .ok (b', result)) :
    ∃ account b₁ expired debit,
      b.accounts.find? account.id = some account ∧
      expireAccountPackLots b account.id tx.wall = .ok (b₁, expired) ∧
      b₁.debits.find? idempotencyKey = some debit ∧ debit.accountId = account.id ∧
      debit.kind = .usage ∧
      (debit.refundedAt.isSome ∧ b' = b₁ ∧ result.restored = debit.restoredCredits ∨
        debit.refundedAt = none ∧ ∃ b₂ restored debits,
          reverseDebit tx b₁ account debit idempotencyKey = .ok (b₂, restored) ∧
          b₂.debits.update? idempotencyKey (fun d => { d with
            restoredCredits := debit.restoredCredits + restored
            refundedAt := some tx.now }) = some debits ∧
          b' = { b₂ with debits := debits } ∧
          result.restored = debit.restoredCredits + restored) := by
  -- key, account, expiry and the debit, each with the check that the source makes on it
  simp only [refund, bind_eq_ok, fetch_eq_ok, require_eq_ok, decide_eq_true_eq] at h
  obtain ⟨key, hkey, accountId, -, account, haccount, ⟨b₁, expired⟩, hexpire, debit, hdebit, -,
    howner, -, hkind, h⟩ := h
  -- a valid key is used as it is
  obtain rfl : idempotencyKey = key := by
    unfold validateIdempotencyKey at hkey
    split at hkey
    · exact Except.ok.inj hkey
    · cases hkey
  have hid : account.id = accountId := Table.find?_key haccount
  refine ⟨account, b₁, expired, debit, hid ▸ haccount, hexpire, hdebit, howner, hkind, ?_⟩
  -- a refunded debit answers with what it restored then
  split at h
  case isTrue hsome =>
    rw [pure_eq_ok] at h
    cases h
    exact .inl ⟨hsome, rfl, rfl⟩
  -- the reversal, then the debit records what came back
  case isFalse hnone =>
    simp only [bind_eq_ok, checkedAddAtoms_eq_ok, require_eq_ok, Billing.update_eq_ok,
      fetch_eq_ok, pure_eq_ok, Stored.table, Stored.install] at h
    obtain ⟨⟨b₂, restored⟩, hreverse, _, ⟨rfl, -⟩, -, -, _, ⟨debits, hdebits, rfl⟩, _, -, heq⟩ := h
    cases heq
    exact .inr ⟨by simpa using hnone, b₂, restored, debits, hreverse, hdebits, rfl, rfl⟩

/-! ## Collections of one debt -/

/-- A collection without what its debit already got back. -/
def Collection.core (c : Collection) : Collection := { c with restoredCredits := 0 }

/-- The outstanding collections of an order in row order. -/
def collectionCores (b : Billing) (orderId : String) : List Collection :=
  b.allocations.rows.filterMap fun a => (collectionOf b orderId a).map Collection.core

theorem outstandingCollections_core (b : Billing) (orderId : String) :
    (outstandingCollections b orderId).map Collection.core =
      Table.orderBy Collection.sortKey (collectionCores b orderId) := by
  have hkey : ∀ c : Collection, c.core.sortKey = c.sortKey := fun _ => rfl
  rw [outstandingCollections, collectionCores, Table.map_orderBy hkey, List.map_filterMap]

theorem collectionOf_eq_some {b : Billing} {orderId : String} {a : Allocation} {c : Collection} :
    collectionOf b orderId a = some c ↔
      a.refundedAmount < a.amount ∧ ∃ d, b.debits.find? a.debitKey = some d ∧
        d.kind = .creditPackDebtCollection ∧ d.clawbackOrderId = some orderId ∧
        c = {
          idempotencyKey := d.idempotencyKey
          debitAccountId := d.accountId
          debitAmount := d.amount
          restoredCredits := d.restoredCredits
          createdAt := d.createdAt
          allocation := a } := by
  unfold collectionOf
  split
  -- an allocation with atoms outstanding is a collection exactly when its debit is one
  case isTrue hlt =>
    simp only [Option.bind_eq_some_iff, hlt, true_and]
    refine exists_congr fun d => and_congr_right fun _ => ?_
    split
    case isTrue hd =>
      simp only [Bool.and_eq_true, decide_eq_true_eq] at hd
      simp only [hd.1, hd.2, Option.some.injEq, true_and]
      exact eq_comm
    case isFalse hd =>
      simp only [Bool.and_eq_true, decide_eq_true_eq] at hd
      simp only [reduceCtorEq, false_iff]
      rintro ⟨hkind, horder, -⟩
      exact hd ⟨hkind, horder⟩
  -- a refunded allocation is no collection, whatever its debit
  case isFalse hge =>
    simp [hge]

theorem mem_outstandingCollections {b : Billing} {orderId : String} {c : Collection} :
    c ∈ outstandingCollections b orderId ↔
      ∃ a ∈ b.allocations.rows, collectionOf b orderId a = some c := by
  simp [outstandingCollections, List.mem_filterMap]

/-! ## Leaving a debt alone -/

/-- The debt of an order and its outstanding collections are the same. -/
structure SameDebt (orderId : String) (b b' : Billing) : Prop where
  debt : b'.packDebts.find? orderId = b.packDebts.find? orderId
  collections : collectionCores b' orderId = collectionCores b orderId

namespace SameDebt

variable {orderId : String} {b b' b'' : Billing}

theorem refl (orderId : String) (b : Billing) : SameDebt orderId b b := ⟨rfl, rfl⟩

theorem trans (h : SameDebt orderId b b') (h' : SameDebt orderId b' b'') :
    SameDebt orderId b b'' :=
  ⟨h'.debt.trans h.debt, h'.collections.trans h.collections⟩

/-- Tables other than debts, debits and allocations do not matter. -/
theorem of_eq (hdebts : b'.packDebts = b.packDebts) (hdebits : b'.debits = b.debits)
    (hallocations : b'.allocations = b.allocations) : SameDebt orderId b b' where
  debt := by rw [hdebts]
  collections := by
    unfold collectionCores collectionOf
    rw [hdebits, hallocations]

/-- An update of other orders' debts. -/
theorem updatePackDebts {p : PackDebt → Bool} {f : PackDebt → PackDebt} {t : Table PackDebt}
    (h : b.packDebts.updateWhere? p f = some t) (hf : ∀ d, (f d).orderId = d.orderId)
    (hp : ∀ d, d.orderId = orderId → p d = false) :
    SameDebt orderId b { b with packDebts := t } where
  debt := by
    change t.find? orderId = b.packDebts.find? orderId
    rw [Table.find?_updateWhere h hf]
    cases hd : b.packDebts.find? orderId with
    | none => rfl
    | some d => simp [hp d (Table.find?_key hd)]
  collections := rfl

/-- A new collection debit of another order. -/
theorem insertDebit {r : Debit} {t : Table Debit} (h : b.debits.insert? r = some t)
    (hr : r.clawbackOrderId ≠ some orderId) : SameDebt orderId b { b with debits := t } where
  debt := rfl
  collections := by
    unfold collectionCores
    refine List.filterMap_congr fun a _ => ?_
    congr 1
    unfold collectionOf
    simp only [Table.find?_insert h]
    split
    case isTrue =>
      by_cases hk : Relation.key r = a.debitKey
      · simp only [← hk, Table.find?_eq_none_of_insert h, Option.bind_none]
        simp [hr]
      · simp only [if_neg hk]
    case isFalse => rfl

/-- A new allocation of a debit that collects for another order. -/
theorem insertAllocation {r : Allocation} {t : Table Allocation}
    (h : b.allocations.insert? r = some t)
    (hr : ∀ d, b.debits.find? r.debitKey = some d → d.clawbackOrderId ≠ some orderId) :
    SameDebt orderId b { b with allocations := t } where
  debt := rfl
  collections := by
    have hnone : collectionOf b orderId r = none := by
      rw [Option.eq_none_iff_forall_ne_some]
      intro c hc
      obtain ⟨-, d, hd, -, horder, -⟩ := collectionOf_eq_some.1 hc
      exact hr d hd horder
    change (t.rows.filterMap fun a => (collectionOf b orderId a).map Collection.core) = _
    rw [Table.insert?_eq_some.1 h, List.filterMap_append]
    simp [hnone, collectionCores]

/-- Refund progress on an allocation of a debit that collects for another order. -/
theorem updateAllocation {id : Nat} {f : Allocation → Allocation} {t : Table Allocation}
    (h : b.allocations.update? id f = some t) (hf : ∀ a, (f a).debitKey = a.debitKey)
    (hother : ∀ a, b.allocations.find? id = some a → ∀ d, b.debits.find? a.debitKey = some d →
      d.clawbackOrderId ≠ some orderId) :
    SameDebt orderId b { b with allocations := t } where
  debt := rfl
  collections := by
    change (t.rows.filterMap fun a => (collectionOf b orderId a).map Collection.core) = _
    rw [Table.update?_eq_some.1 h, List.filterMap_map]
    refine List.filterMap_congr fun a ha => ?_
    simp only [Function.comp_apply]
    split
    case isTrue hid =>
      -- neither the old nor the new row collects for `orderId`
      have hfind : b.allocations.find? id = some a := Table.find?_eq_some_iff.2 ⟨ha, hid⟩
      have hnone : ∀ a' : Allocation, a'.debitKey = a.debitKey →
          collectionOf b orderId a' = none := by
        intro a' hkey
        rw [Option.eq_none_iff_forall_ne_some]
        intro c hc
        obtain ⟨-, d, hd, -, horder, -⟩ := collectionOf_eq_some.1 hc
        exact hother a hfind d (hkey ▸ hd) horder
      rw [hnone _ (hf a), hnone a rfl]
    case isFalse => rfl

/-- Refund facts on a debit. -/
theorem updateDebit {key : String} {f : Debit → Debit} {t : Table Debit}
    (h : b.debits.update? key f = some t) (hf : ∀ d, (f d).static = d.static) :
    SameDebt orderId b { b with debits := t } where
  debt := rfl
  collections := by
    -- `core` drops the one refund column that a collection carries; the rest of it is static
    have hkey : ∀ d, (f d).idempotencyKey = d.idempotencyKey := fun d =>
      Debit.key_of_static (hf d)
    have hkind : ∀ d, (f d).kind = d.kind := fun d => Debit.kind_of_static (hf d)
    have horder : ∀ d, (f d).clawbackOrderId = d.clawbackOrderId := fun d =>
      Debit.order_of_static (hf d)
    have haccount : ∀ d, (f d).accountId = d.accountId := fun d =>
      (congrArg Debit.accountId (hf d) :)
    have hamount : ∀ d, (f d).amount = d.amount := fun d => (congrArg Debit.amount (hf d) :)
    have hcreated : ∀ d, (f d).createdAt = d.createdAt := fun d =>
      (congrArg Debit.createdAt (hf d) :)
    unfold collectionCores
    refine List.filterMap_congr fun a _ => ?_
    unfold collectionOf
    split
    case isTrue =>
      simp only [Table.find?_updateWhere h hkey]
      cases b.debits.find? a.debitKey with
      | none => rfl
      | some d =>
        simp only [Option.map_some, Option.bind_some]
        split
        · simp only [hkind, horder, hkey, haccount, hamount, hcreated]
          split <;> rfl
        · rfl
    case isFalse => rfl

/-- A collection for another order. -/
theorem collect {grantEpoch amount : Nat} {lotId : Option String} {debt : PackDebt}
    (h : collectPackDebt tx grantEpoch lotId b debt amount = .ok b')
    (hne : debt.orderId ≠ orderId) : SameDebt orderId b b' := by
  obtain ⟨debts, debits, allocations, hdebts, hdebits, -, hall, rfl⟩ := collectPackDebt_eq_ok h
  have h₁ : SameDebt orderId b { b with packDebts := debts } := by
    refine .updatePackDebts hdebts (fun _ => rfl) fun d hd => ?_
    have hkey : d.orderId ≠ debt.orderId := fun heq => hne (heq.symm.trans hd)
    exact decide_eq_false hkey
  have h₂ : SameDebt orderId { b with packDebts := debts }
      { b with packDebts := debts, debits := debits } :=
    .insertDebit hdebits fun heq => hne (Option.some.inj heq)
  refine (h₁.trans h₂).trans (.insertAllocation hall fun d hd => ?_)
  -- the debit of the new allocation is the one just inserted
  change debits.find? _ = some d at hd
  rw [Table.find?_insert hdebits] at hd
  simp only [Billing.newAllocation, Relation.key, if_true, Option.some.injEq] at hd
  subst hd
  exact fun heq => hne (Option.some.inj heq)

end SameDebt

/-! ## Orders being unwound -/

/-- The debt of an order has nothing left to collect, and a caller is unwinding its oldest
    outstanding collection. -/
structure Frozen (visiting : List String) (orderId : String) (b : Billing) : Prop where
  settled : ∃ d, b.packDebts.find? orderId = some d ∧
    d.targetCredits = d.collectedCredits + d.releasedCredits
  oldest : ∃ c cs, Table.orderBy Collection.sortKey (collectionCores b orderId) = c :: cs ∧
    c.idempotencyKey ∈ visiting

theorem Frozen.of_sameDebt {visiting : List String} {orderId : String} {b b' : Billing}
    (h : Frozen visiting orderId b) (hs : SameDebt orderId b b') :
    Frozen visiting orderId b' where
  settled := by rw [hs.debt]; exact h.settled
  oldest := by rw [hs.collections]; exact h.oldest

theorem Frozen.mono {visiting : List String} {orderId key : String} {b : Billing}
    (h : Frozen visiting orderId b) : Frozen (key :: visiting) orderId b where
  settled := h.settled
  oldest := by
    obtain ⟨c, cs, hcs, hc⟩ := h.oldest
    exact ⟨c, cs, hcs, List.mem_cons_of_mem _ hc⟩

/-- An unsettled debt is not one of a frozen order. -/
theorem Frozen.ne_of_outstanding {visiting : List String} {orderId accountId : String}
    {b : Billing} (h : Frozen visiting orderId b) {d : PackDebt}
    (hd : d ∈ outstandingPackDebts b accountId) : d.orderId ≠ orderId := by
  rintro rfl
  obtain ⟨d', hd', hsettled⟩ := h.settled
  rw [outstandingPackDebts, Table.mem_orderBy, Table.select, List.mem_filter] at hd
  obtain ⟨hmem, hlt⟩ := hd
  have hfind : b.packDebts.find? d.orderId = some d := Table.find?_of_mem hmem
  rw [hfind, Option.some.injEq] at hd'
  subst hd'
  simp only [Bool.and_eq_true, decide_eq_true_eq] at hlt
  omega

/-- What a reversal keeps while the debits in `visiting` are being unwound. -/
structure Kept (visiting : List String) (b b' : Billing) : Prop where
  frame : CreditFrame b b'
  frozen : ∀ orderId, Frozen visiting orderId b → SameDebt orderId b b'
  untouched : ∀ a ∈ b.allocations.rows, a.debitKey ∈ visiting → a ∈ b'.allocations.rows

namespace Kept

variable {visiting : List String} {b b' b'' : Billing}

theorem refl (visiting : List String) (b : Billing) : Kept visiting b b where
  frame := .refl b
  frozen _ _ := .refl _ b
  untouched _ ha _ := ha

theorem trans (h : Kept visiting b b') (h' : Kept visiting b' b'') : Kept visiting b b'' where
  frame := h.frame.trans h'.frame
  frozen orderId hf :=
    (h.frozen orderId hf).trans (h'.frozen orderId (hf.of_sameDebt (h.frozen orderId hf)))
  untouched a ha hv := h'.untouched a (h.untouched a ha hv) hv

/-- A step that keeps the frame and writes no debt, debit or allocation. -/
theorem of_frame (hf : CreditFrame b b') (hdebts : b'.packDebts = b.packDebts)
    (hdebits : b'.debits = b.debits) (hallocations : b'.allocations = b.allocations) :
    Kept visiting b b' where
  frame := hf
  frozen _ _ := .of_eq hdebts hdebits hallocations
  untouched _ ha _ := hallocations ▸ ha

theorem updateAccount {k : String} {f : Account → Account} {t : Table Account}
    (h : b.accounts.update? k f = some t) (hf : ∀ a, (f a).static = a.static) :
    Kept visiting b { b with accounts := t } :=
  of_frame (.updateAccount h hf) rfl rfl rfl

theorem updateLots {p : FundingLot → Bool} {f : FundingLot → FundingLot} {t : Table FundingLot}
    (h : b.lots.updateWhere? p f = some t) (hf : ∀ l, (f l).static = l.static) :
    Kept visiting b { b with lots := t } :=
  of_frame (.updateLots h hf) rfl rfl rfl

theorem insertLedger {accountId : String} {delta : Int} {balanceAfter : Nat}
    {reason : LedgerReason} {grantEpoch : Nat} {eventId : String} {invoiceId : Option String}
    (h : b.insertLedger accountId delta balanceAfter reason grantEpoch eventId invoiceId none 0
      = .ok b') (hreason : reason.isRecovery = true → delta ≤ 0) : Kept visiting b b' := by
  have hf := CreditFrame.insertLedger h hreason
  rw [Billing.insertLedger, Billing.insert_eq_ok] at h
  obtain ⟨t, -, rfl⟩ := h
  exact of_frame hf rfl rfl rfl

/-! ### Collectors -/

/-- What one iteration of a pack-debt collector does for the order of its debt. -/
structure Collects (orderId : String) (b b' : Billing) : Prop where
  frame : CreditFrame b b'
  appended : b.allocations.rows <+: b'.allocations.rows
  others : ∀ orderId', orderId ≠ orderId' → SameDebt orderId' b b'

theorem collects {grantEpoch amount : Nat} {lotId : Option String} {debt : PackDebt}
    (h : collectPackDebt tx grantEpoch lotId b debt amount = .ok b') :
    Collects debt.orderId b b' where
  frame := collectPackDebt_frame h
  appended := by
    obtain ⟨_, _, allocations, -, -, -, hall, rfl⟩ := collectPackDebt_eq_ok h
    change _ <+: allocations.rows
    rw [Table.insert?_eq_some.1 hall]
    exact List.prefix_append _ _
  others orderId hne := SameDebt.collect h hne

/-- A loop of collections over the outstanding debts of a state. -/
theorem drain_collects {body : Billing → PackDebt → Nat → Nat → Transaction Billing}
    {accountId : String} {available left : Nat}
    (hbody : ∀ s debt amount left s', body s debt amount left = .ok s' →
      Collects debt.orderId s s')
    (h : drain PackDebt.outstanding body (outstandingPackDebts b accountId) available b =
      .ok (b', left)) : Kept visiting b b' := by
  have hstep : CreditFrame b b' ∧ b.allocations.rows <+: b'.allocations.rows := by
    refine drain_rule (P := fun _ s => CreditFrame b s ∧ b.allocations.rows <+: s.allocations.rows)
      ?_ ⟨.refl b, List.prefix_refl _⟩ h
    intro debt amount left s s' _ _ hs hrun
    have hc := hbody s debt amount left s' hrun
    exact ⟨hs.1.trans hc.frame, hs.2.trans hc.appended⟩
  refine ⟨hstep.1, fun orderId hfrozen => ?_, fun a ha _ => hstep.2.subset ha⟩
  -- the debts the loop still has to visit are those of other orders
  obtain ⟨_, -, hsame⟩ := drain_invariant
    (P := fun debts _ s => (∀ d ∈ debts, d.orderId ≠ orderId) ∧ SameDebt orderId b s) (by
      intro debt debts amount left s s' _ _ _ hs hrun
      have hne := hs.1 debt List.mem_cons_self
      exact ⟨fun d hd => hs.1 d (List.mem_cons_of_mem _ hd),
        hs.2.trans ((hbody s debt amount left s' hrun).others orderId hne)⟩)
    ⟨fun d hd => hfrozen.ne_of_outstanding hd, SameDebt.refl orderId b⟩ h
  exact hsame

theorem collectPackDebtsFromLot {accountId lotId : String} {available collected : Nat}
    (h : collectPackDebtsFromLot tx b accountId lotId available = .ok (b', collected)) :
    Kept visiting b b' := by
  obtain ⟨_, b₁, _, -, hdrain, -, lots, hlots, rfl⟩ := collectPackDebtsFromLot_eq_ok h
  have hloop : Kept visiting b b₁ :=
    drain_collects (fun s debt amount left s' hrun => collects hrun) hdrain
  exact hloop.trans (.updateLots hlots fun _ => rfl)

theorem collectPackDebtsFromSubscription {accountId eventId : String} {grantEpoch collected : Nat}
    (h : collectPackDebtsFromSubscription tx b accountId grantEpoch eventId = .ok (b', collected)) :
    Kept visiting b b' := by
  obtain ⟨_, b₁, _, -, hdrain, -, hend⟩ := collectPackDebtsFromSubscription_eq_ok h
  have hloop : Kept visiting b b₁ := by
    refine drain_collects (fun s debt amount left s' hrun => ?_) hdrain
    simp only [bind_eq_ok] at hrun
    obtain ⟨s₁, hcollect, hledger⟩ := hrun
    have hc := collects hcollect
    have hl : Kept [] s₁ s' := .insertLedger hledger nofun
    rw [Billing.insertLedger, Billing.insert_eq_ok] at hledger
    obtain ⟨t, -, rfl⟩ := hledger
    exact ⟨hc.frame.trans hl.frame, hc.appended, fun orderId hne =>
      (hc.others orderId hne).trans (.of_eq rfl rfl rfl)⟩
  rcases hend with ⟨-, rfl⟩ | ⟨accounts, haccounts, rfl⟩
  · exact hloop
  · exact hloop.trans (.updateAccount haccounts fun _ => rfl)

/-- Invoice clawback debt has nothing to do with pack debt. -/
theorem collectClawbackDebts {accountId eventId : String} {grantEpoch collected : Nat}
    (h : collectClawbackDebts b accountId grantEpoch eventId = .ok (b', collected)) :
    Kept visiting b b' := by
  obtain ⟨_, b₁, _, -, hdrain, -, hend⟩ := collectClawbackDebts_eq_ok h
  have hloop : Kept visiting b b₁ := by
    refine drain_rule (P := fun _ s => Kept visiting b s) ?_ (.refl _ b) hdrain
    intro _ _ _ s s' _ _ hs hbody
    simp only [collectClawbackDebt, bind_eq_ok, Billing.update_eq_ok] at hbody
    obtain ⟨_, ⟨debts, hdebts, rfl⟩, hledger⟩ := hbody
    have hdebt : Kept visiting s { s with clawbackDebts := debts } :=
      .of_frame (.updateClawbackDebt hdebts fun _ => rfl) rfl rfl rfl
    exact (hs.trans hdebt).trans (.insertLedger hledger fun _ => by omega)
  rcases hend with ⟨-, rfl⟩ | ⟨accounts, haccounts, rfl⟩
  · exact hloop
  · exact hloop.trans (.updateAccount haccounts fun _ => rfl)

theorem returnSubscriptionAtoms {amount returned : Nat} {eventId : String}
    {reason : LedgerReason} (hreason : reason.isReturn)
    (h : returnSubscriptionAtoms tx b account amount eventId reason = .ok (b', returned)) :
    Kept visiting b b' := by
  rcases returnSubscriptionAtoms_eq_ok h with ⟨-, rfl, -⟩ |
    ⟨-, -, _, accounts, _, _, _, _, -, haccounts, hledger, hclaw, hpack⟩
  · exact .refl _ _
  · have h₁ : Kept visiting b { b with accounts := accounts } :=
      .updateAccount haccounts fun _ => rfl
    have h₂ : Kept visiting _ _ :=
      .insertLedger hledger fun hr => by simp [hreason.not_recovery] at hr
    exact ((h₁.trans h₂).trans (.collectClawbackDebts hclaw)).trans
      (.collectPackDebtsFromSubscription hpack)

/-! ### Steps of a reversal -/

theorem expireAllocationLot {lotId : String} {lot : FundingLot}
    (h : expireAllocationLot tx b account lotId = .ok (b', lot)) : Kept visiting b b' := by
  obtain ⟨l, lots, -, -, hcase, rfl⟩ := expireAllocationLot_eq_ok h
  rcases hcase with ⟨-, -, -, hlots⟩ | ⟨-, -, rfl⟩
  · exact .updateLots hlots fun _ => rfl
  · exact .refl _ b

theorem settleLot {order : PackOrder} {lot : FundingLot} {restorable returned : Nat}
    (h : settleLot tx b account order lot restorable = .ok (b', returned)) :
    Kept visiting b b' := by
  rcases settleLot_eq_ok h with ⟨-, rfl⟩ | ⟨-, -, lots, _, hlots, hcollect⟩ |
    ⟨-, lots, hlots, rfl⟩
  · exact .refl _ _
  · have h₁ : Kept visiting b { b with lots := lots } := .updateLots hlots fun _ => rfl
    exact h₁.trans (.collectPackDebtsFromLot hcollect)
  · exact .updateLots hlots fun _ => rfl

end Kept

end StripeEntitlements
