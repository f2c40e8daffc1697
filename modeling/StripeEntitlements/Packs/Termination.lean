import StripeEntitlements.Packs.Chronicle
import StripeEntitlements.Packs.Debits
import StripeEntitlements.Reference

/-!
# Termination of Refunds

A reversal unwinds the collections of other orders before it returns. Every nested call
first releases debt, so the nesting ends. By the chronicle a nested call only meets
collections that are younger than the ones its callers are unwinding, and the collected
columns are exact, so the guards against cycles and missing collections never fire.

## Main results

- `restore_steady` — a reversal raises none of the failures of an unwinding
- `Reachable.refund_unwinds` — no cycle of collections, and no refund rejected by one
-/

namespace StripeEntitlements

open Relational

variable {cfg : Config} {tx : Tx} {account : Account} {visiting : List String}
  {db : Db} {b b' : Billing} {orderId : String}

/-! ## Failures of an unwinding -/

/-- What `_relieve_pack_debt` and `refund` raise where collections do not unwind. -/
def unwindingFailures : List Failure :=
  [.recursionLimit,
    .runtimeError "credit-pack debt collection cycle detected",
    .runtimeError "credit-pack debt has no reversible funding allocation",
    .runtimeError "restored credits exceed the original product debit"]

/-- A transaction that raises none of these failures. -/
def Steady {α : Type} (x : Transaction α) : Prop := ∀ f ∈ unwindingFailures, x ≠ .error f

namespace Steady

variable {α β σ : Type}

theorem ok (a : α) : Steady (.ok a) := nofun

theorem error {f : Failure} (h : f ∉ unwindingFailures) : Steady (.error f : Transaction α) := by
  intro f' hf' heq
  cases heq
  exact h hf'

theorem bind {x : Transaction α} {f : α → Transaction β} (hx : Steady x)
    (hf : ∀ a, x = .ok a → Steady (f a)) : Steady (x >>= f) := by
  cases hx' : x with
  | error e =>
    intro e' he' heq
    cases heq
    exact hx e he' hx'
  | ok a => exact hf a hx'

theorem statement (o : Option α) : Steady (statement o) := by
  cases o with
  | none => exact error (by decide)
  | some a => exact ok a

theorem require {p : Bool} {e : Failure} (h : p = true ∨ e ∉ unwindingFailures) :
    Steady (require p e) := by
  cases p with
  | true => exact ok ()
  | false => exact error (h.resolve_left nofun)

theorem fetch {row : Option α} {e : Failure} (h : e ∉ unwindingFailures) :
    Steady (fetch row e) := by
  cases row with
  | none => exact error h
  | some a => exact ok a

theorem checkedAddAtoms (field : String) (left right : Nat) :
    Steady (checkedAddAtoms field left right) := by
  unfold StripeEntitlements.checkedAddAtoms
  split
  · exact error (by simp [unwindingFailures])
  · split
    · exact error (by simp [unwindingFailures])
    · exact ok _

theorem drain {γ : Type} {cap : γ → Nat} {body : σ → γ → Nat → Nat → Transaction σ}
    {xs : List γ} {available : Nat} {s : σ}
    (hbody : ∀ s x amount left, Steady (body s x amount left)) :
    Steady (drain cap body xs available s) := by
  intro f hf h
  obtain ⟨x, _, amount, left, s', -, -, -, -, hrun⟩ :=
    drain_eq_error (P := fun _ _ _ => True) (fun _ _ _ _ _ _ _ _ _ _ _ => trivial) trivial h
  exact hbody s' x amount left f hf hrun

section

variable {R K : Type} [Relation R K] [DecidableEq K] [Stored R]

theorem updateWhere (p : R → Bool) (f : R → R) : Steady (b.updateWhere p f) :=
  (statement _).bind fun _ _ => ok _

theorem update (k : K) (f : R → R) : Steady (b.update k f) :=
  (statement _).bind fun _ _ => ok _

theorem insert (r : R) : Steady (b.insert r) :=
  (statement _).bind fun _ _ => ok _

end

/-! ### Collectors -/

theorem collectPackDebt {grantEpoch amount : Nat} {lotId : Option String} {debt : PackDebt} :
    Steady (collectPackDebt tx grantEpoch lotId b debt amount) :=
  (update _ _).bind fun _ _ => (insert _).bind fun _ _ =>
    (require (.inr (by decide))).bind fun _ _ => insert _

theorem collectPackDebtsFromLot {accountId lotId : String} {available : Nat} :
    Steady (collectPackDebtsFromLot tx b accountId lotId available) := by
  refine (fetch (by decide)).bind fun a _ => (drain fun _ _ _ _ => collectPackDebt).bind ?_
  rintro ⟨b₁, remaining⟩ -
  dsimp only
  split
  · exact ok _
  · exact (updateWhere _ _).bind fun _ _ => ok _

theorem collectPackDebtsFromSubscription {accountId eventId : String} {grantEpoch : Nat} :
    Steady (collectPackDebtsFromSubscription tx b accountId grantEpoch eventId) := by
  refine (fetch (by decide)).bind fun a _ =>
    (drain fun _ _ _ _ => collectPackDebt.bind fun _ _ => insert _).bind ?_
  rintro ⟨b₁, balance⟩ -
  dsimp only
  split
  · exact ok _
  · exact (update _ _).bind fun _ _ => ok _

theorem collectClawbackDebts {accountId eventId : String} {grantEpoch : Nat} :
    Steady (collectClawbackDebts b accountId grantEpoch eventId) := by
  refine (fetch (by decide)).bind fun a _ =>
    (drain fun _ _ _ _ => (update _ _).bind fun _ _ => insert _).bind ?_
  rintro ⟨b₁, balance⟩ -
  dsimp only
  split
  · exact ok _
  · exact (update _ _).bind fun _ _ => ok _

theorem returnSubscriptionAtoms {n : Nat} {eventId : String} {reason : LedgerReason} :
    Steady (returnSubscriptionAtoms tx b account n eventId reason) := by
  unfold StripeEntitlements.returnSubscriptionAtoms
  split
  · exact ok _
  · exact (fetch (by decide)).bind fun _ _ => (checkedAddAtoms _ _ _).bind fun _ _ =>
      (update _ _).bind fun _ _ => (insert _).bind fun _ _ =>
        collectClawbackDebts.bind fun _ _ => collectPackDebtsFromSubscription.bind fun _ _ => ok _

/-! ### Steps of a reversal -/

theorem expireAllocationLot {lotId : String} :
    Steady (expireAllocationLot tx b account lotId) := by
  refine (fetch (by decide)).bind fun lot _ => ?_
  split
  · exact (update _ _).bind fun _ _ => ok _
  · exact ok _

theorem settleLot {order : PackOrder} {lot : FundingLot} {restorable : Nat} :
    Steady (settleLot tx b account order lot restorable) := by
  unfold StripeEntitlements.settleLot
  split
  · exact ok _
  · cases lot.status with
    | active =>
      dsimp only [returnToLot]
      split
      · exact ok _
      · exact (checkedAddAtoms _ _ _).bind fun _ _ => (update _ _).bind fun _ _ =>
          collectPackDebtsFromLot.bind fun _ _ => ok _
    | expired =>
      dsimp only [retireToLot]
      refine bind ?_ fun _ _ => ok _
      split
      · exact ok _
      · exact (checkedAddAtoms _ _ _).bind fun _ _ => update _ _
    | refunded | disputed => exact ok _

theorem markRefunded {id n : Nat} : Steady (markRefunded b id n) := updateWhere _ _

theorem markCollection {c : Collection} {reversing restored : Nat} :
    Steady (markCollection tx b c reversing restored) :=
  (checkedAddAtoms _ _ _).bind fun _ _ => markRefunded.bind fun _ _ => update _ _

theorem expireAccountPackLots {accountId : String} {asOf : Int} :
    Steady (expireAccountPackLots b accountId asOf) :=
  (updateWhere _ _).bind fun _ _ => ok _

end Steady

/-! ## The measure -/

/-- What the debts have not released; every nested reversal releases some of it. -/
def unreleased (b : Billing) : Nat :=
  (b.packDebts.rows.map fun d => d.targetCredits - d.releasedCredits).sum

/-- The released column of the debt of an order. -/
def releasedOf (b : Billing) (orderId : String) : Nat :=
  (b.packDebts.find? orderId).elim 0 PackDebt.releasedCredits

theorem unreleased_eq (b : Billing) :
    unreleased b = ((b.packDebts.rows.map PackDebt.static).map fun d =>
      d.targetCredits - releasedOf b d.orderId).sum := by
  rw [unreleased, List.map_map]
  congr 1
  refine List.map_congr_left fun d hd => ?_
  have hfind : b.packDebts.find? d.orderId = some d := Table.find?_of_mem hd
  simp [PackDebt.static, releasedOf, hfind]

theorem Progress.releasedOf_le (h : Progress b b') (orderId : String) :
    releasedOf b orderId ≤ releasedOf b' orderId := by
  have hle := h.released orderId
  unfold debtColumn at hle
  unfold releasedOf
  cases hd : b.packDebts.find? orderId <;> cases hd' : b'.packDebts.find? orderId <;>
    simp_all

theorem Progress.unreleased_le (h : Progress b b') : unreleased b' ≤ unreleased b := by
  rw [unreleased_eq, unreleased_eq, h.frame.packDebts]
  exact List.sum_le_sum fun d _ => Nat.sub_le_sub_left (h.releasedOf_le d.orderId) _

/-- Moving atoms of a collection to released takes them from the measure. -/
theorem Releases.unreleased_lt {a : Allocation} {k : Nat} {b₁ : Billing}
    (hr : Releases visiting orderId a k b b₁) (hcovered : 0 ≤ covered visiting b orderId) :
    unreleased b₁ < unreleased b := by
  have hprogress := Progress.release hr
  obtain ⟨d, debts, hd, hdebts, rfl, hk⟩ := hr.debt hcovered
  have hpos := hr.pos
  have hcheck := b.packDebts.valid.checked d (Table.find?_mem hd)
  simp only [Relation.check, Bool.and_eq_true, decide_eq_true_eq] at hcheck
  have hkey : d.orderId = orderId := Table.find?_key hd
  have hafter : releasedOf { b with packDebts := debts } d.orderId = d.releasedCredits + k := by
    simp [releasedOf, hkey, Table.find?_update_self hdebts fun _ => rfl, hd, PackDebt.unwind]
  have hbefore : releasedOf b d.orderId = d.releasedCredits := by simp [releasedOf, hkey, hd]
  rw [unreleased_eq, unreleased_eq, hprogress.frame.packDebts]
  refine List.sum_lt_sum _ _ (fun e _ => Nat.sub_le_sub_left (hprogress.releasedOf_le e.orderId) _)
    ⟨d.static, List.mem_map_of_mem (Table.find?_mem hd), ?_⟩
  change d.targetCredits - releasedOf _ d.orderId < d.targetCredits - releasedOf b d.orderId
  rw [hafter, hbefore]
  omega

/-! ## Exact columns -/

/-- The collected column of an order is exact unless a caller is unwinding its collections. -/
def Exact (visiting : List String) (b : Billing) : Prop :=
  ∀ orderId, (∀ a ∈ b.allocations.rows, a.debitKey ∈ visiting → a.refundedAmount < a.amount →
    collectsFor b orderId a = false) → covered visiting b orderId = 0

/-- Steps that cover every debt keep the columns exact. -/
theorem Exact.step {lots : String → ℤ} (h : Exact visiting b) (hl : Linked visiting b)
    (hkept : Kept visiting b b') (hm : Moves visiting lots 0 b b') : Exact visiting b' := by
  intro orderId hfree
  rw [hm.covered visiting (List.Subset.refl _), Pi.zero_apply, add_zero]
  refine h orderId fun a ha hvisit hlt => ?_
  rw [← Progress.collectsFor hkept.frame (hl.references.debit a ha)]
  exact hfree a (hkept.untouched a ha hvisit) hvisit hlt

/-- The callee does not see the order its caller is unwinding. -/
theorem Exact.release {a : Allocation} {k : Nat} {b₁ : Billing} (h : Exact visiting b)
    (hr : Releases visiting orderId a k b b₁) (hl : Linked visiting b)
    (hcovered : 0 ≤ covered visiting b orderId) : Exact (a.debitKey :: visiting) b₁ := by
  intro z hfree
  have hmoves := (hr.moves hl hcovered).covered visiting (List.Subset.refl _) z
  have hcollects := hr.collects
  have hrow := hr.row
  have hlt := hr.outstanding
  obtain ⟨debts, -, rfl⟩ := hr.release
  have hne : z ≠ orderId := by
    rintro rfl
    have hnot := hfree a hrow List.mem_cons_self hlt
    rw [show collectsFor { b with packDebts := debts } z a = collectsFor b z a from rfl,
      hcollects] at hnot
    simp at hnot
  rw [if_neg hne, add_zero, h z fun v hv hvisit => hfree v hv (List.mem_cons_of_mem _ hvisit)]
    at hmoves
  rw [← hmoves]
  -- hiding the debit of `a` hides no row that collects for `z`
  unfold covered Table.total
  congr 2
  refine List.map_congr_left fun v hv => ?_
  unfold collectionWeight
  by_cases hcollects' : collectsFor { b with packDebts := debts } z v = true
  · by_cases hkey : v.debitKey = a.debitKey
    · have hout := Allocation.outstanding_nonneg (t := b.allocations) hv
      have hdone : ¬ v.refundedAmount < v.amount := by
        intro hlt'
        have hnot := hfree v hv (hkey ▸ List.mem_cons_self) hlt'
        rw [hcollects'] at hnot
        cases hnot
      have hzero : v.outstanding = 0 := by
        unfold Allocation.outstanding at hout ⊢
        omega
      simp [hzero]
    · simp [hcollects', hkey]
  · simp [hcollects']

/-- What the outstanding collections of an order sum to. -/
theorem outstandingCollections_sum (b : Billing) (orderId : String) :
    (((outstandingCollections b orderId).map Collection.pending).sum : ℤ) =
      b.allocations.total (collectionWeight b [] orderId) := by
  rw [outstandingCollections, ((Table.orderBy_perm _ _).map _).sum_eq, Table.total]
  have hrows : ∀ rows : List Allocation, (∀ a ∈ rows, a ∈ b.allocations.rows) →
      (((rows.filterMap (collectionOf b orderId)).map Collection.pending).sum : ℤ) =
        (rows.map (collectionWeight b [] orderId)).sum := by
    -- row by row: a collection weighs its pending atoms, any other row nothing
    intro rows hmem
    induction rows with
    | nil => rfl
    | cons a rows ih =>
      have hrest := ih fun x hx => hmem x (List.mem_cons_of_mem _ hx)
      have hout := Allocation.outstanding_nonneg (hmem a List.mem_cons_self)
      unfold Allocation.outstanding at hout
      rw [List.map_cons, List.sum_cons, ← hrest]
      cases hc : collectionOf b orderId a with
      | some c =>
        obtain ⟨hlt, d, hd, hkind, horder, rfl⟩ := collectionOf_eq_some.1 hc
        rw [List.filterMap_cons_some hc, List.map_cons, List.sum_cons]
        simp only [collectionWeight, collectsFor_iff.2 ⟨d, hd, hkind, horder⟩, Collection.pending,
          Allocation.outstanding, List.not_mem_nil, not_false_eq_true, and_true, if_true]
        push_cast
        omega
      -- a row that is no collection is refunded in full, or its debit is none of this order
      | none =>
        rw [List.filterMap_cons_none hc]
        have hzero : collectionWeight b [] orderId a = 0 := by
          unfold collectionWeight Allocation.outstanding
          split
          case isTrue hcollects =>
            obtain ⟨d, hd, hkind, horder⟩ := collectsFor_iff.1 hcollects.1
            by_contra hne
            have hsome := collectionOf_eq_some.2 ⟨by omega, d, hd, hkind, horder, rfl⟩
            rw [hc] at hsome
            cases hsome
          case isFalse => rfl
        rw [hzero, zero_add]
  exact hrows _ fun _ => id

/-! ## Reversals -/

/-- What the reversal of `n` atoms of a source needs to go through. -/
structure Reversible (visiting : List String) (b : Billing) (source : FundingSource) (n : Nat) :
    Prop where
  linked : Linked visiting b
  exact : Exact visiting b
  chronicle : Chronicle b
  above : Above visiting b (source.order b)
  fit : Fit visiting (Moves.lotShift source n) b

/-- What the relief of an order by up to `n` atoms needs to go through. -/
structure Relievable (visiting : List String) (orderId : String) (b : Billing) (n : Nat) :
    Prop where
  linked : Linked visiting b
  exact : Exact visiting b
  chronicle : Chronicle b
  above : Above visiting b (some orderId)
  covered : 0 ≤ covered visiting b orderId
  fit : Fit visiting (reliefShift b orderId n) b

namespace Relievable

variable {n : Nat}

/-- Relief by `r` atoms leaves what the rest needs. -/
theorem relief {r : Nat} {s : Billing} (h : Relievable visiting orderId b n) (hle : r ≤ n)
    (hkept : Kept visiting b s) (hq : ReliefChronicle visiting orderId b r s) :
    Relievable visiting orderId s (n - r) := by
  have hm := hq.1 h.linked h.covered n hle h.fit
  obtain ⟨hc, -⟩ := hq.2.2 h.linked h.covered n hle h.fit h.chronicle h.above
  refine ⟨hm.linked, h.exact.step h.linked hkept hm, hc, h.above.progress h.linked hq.2.1, ?_, ?_⟩
  · rw [hm.covered visiting (List.Subset.refl _), Pi.zero_apply, add_zero]
    exact h.covered
  · refine (h.fit.step hkept.frame hm).congr fun lot _ => ?_
    simp only [Pi.sub_apply, reliefShift, lotFunds_frame hkept.frame]
    split <;> omega

/-- Unwinding one collection sets its callee up. -/
theorem release {a : Allocation} {k : Nat} {s : Billing} (h : Relievable visiting orderId b n)
    (hle : k ≤ n) (hr : Releases visiting orderId a k b s) :
    Reversible (a.debitKey :: visiting) s a.source k := by
  obtain ⟨hlinked, hfit, hc, habove⟩ := release_chronicle hr h.linked h.covered h.fit
    (fun lotId => by
      simp only [reliefShift]
      split <;> omega) h.chronicle h.above
  exact ⟨hlinked, h.exact.release hr h.linked h.covered, hc, habove, hfit⟩

/-- No collection of the order is being unwound, so its collections add up. -/
theorem collected (h : Relievable visiting orderId b n) :
    debtColumn b orderId PackDebt.collectedCredits =
      ((outstandingCollections b orderId).map Collection.pending).sum := by
  have hexact := h.exact orderId fun a ha hvisit hlt => h.above.free ha hvisit hlt
  have hsame : b.allocations.total (collectionWeight b visiting orderId) =
      b.allocations.total (collectionWeight b [] orderId) := by
    unfold Table.total
    congr 1
    refine List.map_congr_left fun a ha => ?_
    have hout := Allocation.outstanding_nonneg ha
    unfold Allocation.outstanding at hout
    unfold collectionWeight Allocation.outstanding
    by_cases hvisit : a.debitKey ∈ visiting
    · by_cases hlt : a.refundedAmount < a.amount
      · simp [h.above.free ha hvisit hlt]
      · split <;> split <;> omega
    · simp [hvisit]
  unfold StripeEntitlements.covered at hexact
  rw [outstandingCollections_sum, ← hsame]
  linarith

end Relievable

section

variable {fuel : Nat}

/-- Reversals with less fuel raise none of the failures. -/
def SteadyBelow (tx : Tx) (account : Account) (fuel : Nat) : Prop :=
  ∀ b source n eventId reason visiting, unreleased b < fuel → Reversible visiting b source n →
    Steady (restoreAllocationEffect tx account fuel b source n eventId reason visiting)

/-- Unwinding the first collection of an exact loop. -/
theorem unwindCollection_steady (ih : SteadyBelow tx account fuel) {s : Billing} {c : Collection}
    {xs : List Collection} {k left n recovered : Nat} (h : Relievable visiting orderId s n)
    (hle : k ≤ n) (hfuel : unreleased s ≤ fuel) (hrows : Unwinding orderId (c :: xs) (k + left) s)
    (hk : 0 < k) (hcap : k ≤ c.pending) :
    Steady (unwindCollection (restoreAllocationEffect tx account fuel) tx account orderId visiting
      (s, recovered) c k left) := by
  obtain ⟨hrow, c', hc', -⟩ := hrows.current (by omega)
  obtain ⟨hlt, d, hd, hkind, horder, -⟩ := collectionOf_eq_some.1 hc'
  -- a caller that unwinds this collection would be younger than it
  have hvisit : c.idempotencyKey ∉ visiting := by
    intro hin
    have hfree := h.above.free hrow (hrows.key (by omega) ▸ hin) hlt
    rw [collectsFor_iff.2 ⟨d, hd, hkind, horder⟩] at hfree
    cases hfree
  refine (Steady.require (.inl (by simpa using hvisit))).bind fun _ _ => ?_
  refine (Steady.require (.inr (by decide))).bind fun _ _ => ?_
  refine (Steady.require (.inr (by decide))).bind fun _ _ => ?_
  refine (Steady.updateWhere _ _).bind fun s₁ hs₁ => ?_
  rw [Billing.updateWhere_eq_ok] at hs₁
  obtain ⟨debts, hdebts, rfl⟩ := hs₁
  have hreleases := hrows.releases (by omega) hk hcap hvisit hdebts
  have hcallee := h.release hle hreleases
  rw [hrows.key (by omega)] at hcallee
  refine (ih _ _ _ _ _ _ ?_ hcallee).bind fun _ _ => Steady.markCollection.bind fun _ _ => .ok _
  exact lt_of_lt_of_le (hreleases.unreleased_lt h.covered) hfuel

/-- What the loop of a relief keeps: `reversing` atoms are unwound after `released` were
    released. -/
structure Relieving (visiting : List String) (orderId : String) (b : Billing)
    (released reversing : Nat) (xs : List Collection) (left : Nat) (s : Billing) : Prop where
  rows : Unwinding orderId xs left s
  bound : left ≤ reversing
  kept : Kept visiting b s
  relief : ReliefChronicle visiting orderId b (released + (reversing - left)) s

theorem Relieving.step {released reversing k left recovered recovered' : Nat} {c : Collection}
    {xs : List Collection} {s s' : Billing}
    (h : Relieving visiting orderId b released reversing (c :: xs) (k + left) s) (hk : 0 < k)
    (hle : k ≤ c.pending) (hfull : 0 < left → k = c.pending)
    (hrun : unwindCollection (restoreAllocationEffect tx account fuel) tx account orderId visiting
      (s, recovered) c k left = .ok (s', recovered')) :
    Relieving visiting orderId b released reversing xs left s' := by
  have hbound := h.bound
  obtain ⟨hrows, s₁, s₂, restored, eventId, hu, hrestore⟩ :=
    h.rows.step (restoreAllocationEffect_keeps tx account fuel) hk hle hfull hrun
  have hnext := unwind_chronicle h.relief h.kept hu (restore_chronicle (.inr rfl) hrestore)
  rw [show released + (reversing - (k + left)) + k = released + (reversing - left) by omega]
    at hnext
  exact ⟨hrows, by omega, h.kept.trans (h.rows.kept (by omega) hu), hnext⟩

/-- An order whose collections nobody is unwinding is not frozen. -/
theorem Above.not_frozen (h : Above visiting b (some orderId)) : ¬ Frozen visiting orderId b := by
  intro hfrozen
  obtain ⟨c, cs, hcs, hc⟩ := hfrozen.oldest
  have hmem : c ∈ collectionCores b orderId := Table.mem_orderBy.1 (hcs ▸ List.mem_cons_self)
  obtain ⟨a, ha, hcore⟩ := List.mem_filterMap.1 hmem
  obtain ⟨c', hc', rfl⟩ := Option.map_eq_some_iff.1 hcore
  obtain ⟨hlt, e, he, hkind, horder, rfl⟩ := collectionOf_eq_some.1 hc'
  have hkey : e.idempotencyKey = a.debitKey := Table.find?_key he
  have hfree := h.free ha (hkey ▸ hc) hlt
  rw [collectsFor_iff.2 ⟨e, he, hkind, horder⟩] at hfree
  cases hfree

/-- The loop of a relief raises none of the failures, and it reverses all it was given. -/
theorem relieve_loop_steady (ih : SteadyBelow tx account fuel) {n released reversing : Nat}
    {d : PackDebt} {debts : Table PackDebt} (h : Relievable visiting orderId b n)
    (hfuel : unreleased b ≤ fuel) (hd : b.packDebts.find? orderId = some d)
    (hdebts : b.packDebts.update? orderId (PackDebt.release released) = some debts)
    (hall : released = d.targetCredits - d.releasedCredits - d.collectedCredits)
    (hle : released + reversing ≤ n) (hcollected : reversing ≤ d.collectedCredits) :
    let run := drain Collection.pending
      (unwindCollection (restoreAllocationEffect tx account fuel) tx account orderId visiting)
      (outstandingCollections { b with packDebts := debts } orderId) reversing
      ({ b with packDebts := debts }, 0)
    Steady run ∧ ∀ s remaining, run = .ok (s, remaining) → remaining = 0 := by
  -- the order is not frozen, since everything being visited lies above it
  have hkept : Kept visiting b { b with packDebts := debts } :=
    .release h.above.not_frozen hdebts
  have hq : ReliefChronicle visiting orderId b released { b with packDebts := debts } :=
    released_chronicle hd hdebts
  -- the loop's invariant at its start: the collected debt is still to be unwound
  have hstart : Relieving visiting orderId b released reversing
      (outstandingCollections { b with packDebts := debts } orderId) reversing
      { b with packDebts := debts } :=
    ⟨.start reversing hd hall hdebts, le_refl _, hkept, by rwa [Nat.sub_self, Nat.add_zero]⟩
  -- an error of the loop is an error of one unwinding, which the invariant rules out
  refine ⟨fun f hf herror => ?_, fun s remaining hdrain => ?_⟩
  · obtain ⟨c, xs, k, left, ⟨s, recovered⟩, hk, hcap, -, hs, hrun⟩ := drain_eq_error
      (P := fun xs left (s : Billing × Nat) =>
        Relieving visiting orderId b released reversing xs left s.1)
      (fun c xs k left s s' hk hcap hfull hs hrun => hs.step hk hcap hfull hrun) hstart herror
    have hbound := hs.bound
    have hrest := h.relief (by omega) hs.kept hs.relief
    exact unwindCollection_steady ih hrest (by omega) (le_trans hs.relief.2.1.unreleased_le hfuel)
      hs.rows hk hcap f hf hrun
  · -- the loop stops with nothing left: the collections add up to the collected column
    have hsum := (h.relief (by omega) hkept hq).collected
    have hcolumn : debtColumn { b with packDebts := debts } orderId PackDebt.collectedCredits =
        d.collectedCredits := by
      simp [debtColumn, Table.find?_update_self hdebts fun _ => rfl, hd, PackDebt.release]
    have hleft := drain_left (fun c hc => by
      obtain ⟨a, -, ha⟩ := mem_outstandingCollections.1 hc
      obtain ⟨hlt, -, -, -, -, rfl⟩ := collectionOf_eq_some.1 ha
      simp only [Collection.pending]
      omega) hdrain
    rw [hcolumn, Nat.cast_inj] at hsum
    omega

/-- Relief of an order raises none of the failures. -/
theorem relievePackDebt_steady (ih : SteadyBelow tx account fuel) {n : Nat}
    (h : Relievable visiting orderId b n) (hfuel : unreleased b ≤ fuel) :
    Steady (relievePackDebt (restoreAllocationEffect tx account fuel) tx b account orderId n
      visiting) := by
  unfold relievePackDebt
  -- each branch of the source, with the requirement it makes
  split
  · exact .ok _
  case h_2 d hd =>
    split
    · exact .ok _
    refine (Steady.require (.inr (by decide))).bind fun _ _ => ?_
    dsimp only
    split
    · exact .ok _
    refine (Steady.update _ _).bind fun b₁ hb₁ => ?_
    rw [Billing.update_eq_ok] at hb₁
    obtain ⟨debts, hdebts, rfl⟩ := hb₁
    split
    -- the last requirement is that nothing remains, which is what the loop lemma gives
    · exact .ok _
    · obtain ⟨hloop, hrest⟩ := relieve_loop_steady ih h hfuel hd hdebts (by omega) (by omega)
        (show min n (d.targetCredits - d.releasedCredits) -
          min (min n (d.targetCredits - d.releasedCredits))
            (d.targetCredits - d.releasedCredits - d.collectedCredits) ≤ d.collectedCredits by omega)
      refine hloop.bind ?_
      rintro ⟨⟨b₂, recovered⟩, remaining⟩ hdrain
      have hzero := hrest _ _ hdrain
      exact (Steady.require (.inl (by simpa using hzero))).bind fun _ _ => .ok _

/-- **A reversal goes through**: with more fuel than unreleased debt it raises none of the
    failures of an unwinding. -/
theorem restore_steady (tx : Tx) (account : Account) (fuel : Nat) :
    SteadyBelow tx account fuel := by
  -- induction on the fuel: the debt not yet released bounds the depth
  induction fuel with
  | zero =>
    intro b source n eventId reason visiting hfuel
    exact absurd hfuel (Nat.not_lt_zero _)
  | succ fuel ih =>
    intro b source n eventId reason visiting hfuel h
    -- the balance takes its atoms back without recursion
    cases source with
    | subscription epoch =>
      simp only [restoreAllocationEffect]
      split
      · exact .ok _
      · exact .returnSubscriptionAtoms
    -- the lot: after its expiry the order is relievable with the fuel that is left
    | creditPack lotId =>
      simp only [restoreAllocationEffect, restoreToLot]
      refine Steady.expireAllocationLot.bind ?_
      rintro ⟨b₁, lot⟩ hexpire
      refine (Steady.fetch (by decide)).bind fun order horder => ?_
      simp only [fetch_eq_ok, Option.filter_eq_some_iff, decide_eq_true_eq] at horder
      obtain ⟨hexp, hfind⟩ := expireAllocationLot_moves h.linked hexpire
      obtain ⟨hfits, hrelief⟩ := lot_room h.linked h.fit hexpire horder.1
      obtain ⟨hc₁, habove₁⟩ := h.chronicle.expireAllocationLot h.linked h.above hexpire
      have horderId : order.id = lot.orderId := Table.find?_key horder.1
      have hrelievable : Relievable visiting order.id b₁ n := by
        rw [horderId]
        exact ⟨hexp.linked, h.exact.step h.linked (.expireAllocationLot hexpire) hexp, hc₁, habove₁,
          hfits.covered, hrelief⟩
      have hle := (Progress.expireAllocationLot hexpire).unreleased_le
      exact (relievePackDebt_steady ih hrelievable (by omega)).bind fun _ _ =>
        Steady.settleLot.bind fun _ _ => .ok _

end

/-! ## Refunds -/

/-- Every collected column is exact between transactions. -/
theorem PackBooks.covered (hb : PackBooks b) (orderId : String) : covered [] b orderId = 0 := by
  -- with a debt, the order's lot makes the column exact; without one, no collection refers to it
  cases hd : b.packDebts.find? orderId with
  | some d =>
    have hkey : d.orderId = orderId := Table.find?_key hd
    obtain ⟨order, horder⟩ := Option.isSome_iff_exists.1 (hb.debtOrder d (Table.find?_mem hd))
    rw [hkey] at horder
    cases hlot : lotOfOrder b orderId with
    -- an order without a lot has no debt
    | none =>
      rw [(packState_iff.1 hb.state).2.1 orderId order horder hlot] at hd
      cases hd
    | some lot =>
      obtain ⟨hmem, rfl⟩ := lotOfOrder_eq_some.1 hlot
      exact (hb.state.conserved hmem horder).collected
  | none =>
    have hweights : b.allocations.total (collectionWeight b [] orderId) = 0 := by
      refine List.sum_eq_zero fun w hw => ?_
      obtain ⟨a, ha, rfl⟩ := List.mem_map.1 hw
      refine if_neg fun hcollects => ?_
      obtain ⟨e, he, -, horder⟩ := collectsFor_iff.1 hcollects.1
      have hsome := hb.state.references.debt e (Table.find?_mem he) orderId horder
      rw [hd] at hsome
      cases hsome
    unfold StripeEntitlements.covered debtColumn
    rw [hd, hweights]
    rfl

/-- Exact columns stay exact while a product debit is reversed. -/
theorem Exact.product {key : String} (h : ∀ orderId, covered [] b orderId = 0)
    (hdebit : ProductDebit b key) : Exact [key] b := by
  intro orderId _
  rw [← h orderId]
  unfold covered Table.total
  congr 2
  refine List.map_congr_left fun a _ => ?_
  unfold collectionWeight
  by_cases hkey : a.debitKey = key
  · simp [hdebit.collectsFor hkey]
  · simp [hkey]

/-- Reversing the allocations of a product debit raises none of the failures. -/
theorem refundAllocations_steady {fuel total : Nat} {key : String} {rows : List Allocation}
    (hs : PackState b) (hdebit : ProductDebit b key) (hc : Chronicle b)
    (hexact : ∀ orderId, covered [] b orderId = 0) (hfuel : unreleased b < fuel)
    (hrows : ∀ a ∈ rows, a ∈ b.allocations.rows ∧ a.debitKey = key)
    (hnodup : (rows.map Allocation.id).Nodup) :
    Steady (refundAllocations (restoreAllocationEffect tx account fuel) key rows (b, total)) := by
  induction rows generalizing b total with
  | nil => exact .ok _
  | cons a rest ih =>
    rw [List.map_cons, List.nodup_cons] at hnodup
    obtain ⟨ha, hkey⟩ := hrows a List.mem_cons_self
    have hrest : ∀ r ∈ rest, r ∈ b.allocations.rows ∧ r.debitKey = key := fun r hr =>
      hrows r (List.mem_cons_of_mem _ hr)
    simp only [refundAllocations]
    split
    · exact ih hs hdebit hc hexact hfuel hrest hnodup.2
    case isFalse hpending =>
      obtain ⟨hlinked, hroom⟩ := product_room hs.linked hs.fit hdebit ha hkey
      have hreversible : Reversible [key] b a.source (a.amount - a.refundedAmount) :=
        ⟨hlinked, .product hexact hdebit, hc, .product hdebit, hroom⟩
      refine (restore_steady tx account fuel _ _ _ _ _ _ hfuel hreversible).bind ?_
      rintro ⟨b₁, restored⟩ hrestore
      refine Steady.markRefunded.bind fun b₂ hmark => ?_
      -- the next allocation starts from a consistent state again
      obtain ⟨hm, hf, hkept⟩ :=
        refundAllocation_moves hs.linked hs.fit hdebit ha hkey hrestore hmark
      have hprogress := (restore_progress (.inl rfl) hrestore).trans (.markRefunded hmark)
      have hnext := hc.refundsAllocation hs hdebit
        ⟨ha, hkey, by omega, ⟨fuel, hrestore⟩, hmark⟩
      refine ih (hs.of_moves hf hm) (hdebit.frame hf) hnext (fun orderId => ?_)
        (lt_of_le_of_lt hprogress.unreleased_le hfuel) (fun r hr => ?_) hnodup.2
      · rw [hm.covered [] (List.Subset.refl _), Pi.zero_apply, add_zero, hexact]
      · have hne : r.id ≠ a.id := fun heq => hnodup.1 (heq ▸ List.mem_map_of_mem hr)
        exact ⟨hkept r (hrest r hr).1 (hrest r hr).2 hne, (hrest r hr).2⟩

theorem reverseDebit_steady {debit : Debit} {key : String} (hs : PackState b)
    (hdebit : ProductDebit b key) (hc : Chronicle b)
    (hexact : ∀ orderId, covered [] b orderId = 0) :
    Steady (reverseDebit tx b account debit key) := by
  unfold reverseDebit
  dsimp only
  split
  · split
    · exact .returnSubscriptionAtoms
    · exact .ok _
  · obtain ⟨hrows, hnodup⟩ := debitAllocations_spec b key
    exact refundAllocations_steady hs hdebit hc hexact (Nat.lt_succ_self _) hrows hnodup

/-- A refund raises none of the failures of an unwinding. -/
theorem refund_steady {printable : Char → Bool} {idempotencyKey : String}
    {expectedAccountId : Option String} (hb : PackBooks b) (hc : Chronicle b)
    (hd : DebitBooks b) :
    Steady (refund printable tx b idempotencyKey expectedAccountId) := by
  have hkey : Steady (validateIdempotencyKey printable idempotencyKey) := by
    unfold validateIdempotencyKey
    split
    · exact .ok _
    · exact .error (by decide)
  have haccount : ∀ key, Steady (refundAccountId b key expectedAccountId) := by
    intro key
    unfold refundAccountId
    split
    · exact .fetch (by decide)
    · exact (Steady.fetch (by decide)).bind fun _ _ => .ok _
  refine hkey.bind fun key _ => (haccount key).bind fun accountId _ =>
    (Steady.fetch (by decide)).bind fun account _ => ?_
  refine Steady.expireAccountPackLots.bind fun ⟨b₁, expired⟩ hexpire => ?_
  refine (Steady.fetch (by decide)).bind fun debit hdebit => ?_
  refine (Steady.require (.inr (by decide))).bind fun _ _ => ?_
  refine (Steady.require (.inr (by decide))).bind fun _ hkind => ?_
  simp only [fetch_eq_ok] at hdebit
  simp only [require_eq_ok, decide_eq_true_eq] at hkind
  split
  · exact .ok _
  case isFalse hnone =>
    obtain ⟨hm₁, hf₁⟩ := expireAccountPackLots_moves hb.state.linked hexpire
    have hs₁ := hb.state.of_moves hf₁ hm₁
    have hd₁ := hd.progress (.expireAccountPackLots hexpire)
    have hexact : ∀ orderId, covered [] b₁ orderId = 0 := fun orderId => by
      rw [hm₁.covered [] (List.Subset.refl _), hb.covered, Pi.zero_apply, add_zero]
    refine (reverseDebit_steady hs₁ ⟨debit, hdebit, hkind⟩ (hc.expireAccountPackLots hexpire)
      hexact).bind fun ⟨b₂, restored⟩ hreverse => ?_
    refine (Steady.checkedAddAtoms _ _ _).bind fun persisted hpersisted => ?_
    -- the debit was allocated and restored at most once
    have hrow := Table.find?_mem hdebit
    have hid : debit.idempotencyKey = key := Table.find?_key hdebit
    have hzero := hd₁.unrestored debit hrow hkind (by simpa using hnone)
    have hle := reverseDebit_le (hid ▸ hd₁.funded debit hrow hkind) hreverse
    rw [checkedAddAtoms_eq_ok, hzero, Nat.zero_add] at hpersisted
    refine (Steady.require (.inl ?_)).bind fun _ _ => (Steady.update _ _).bind fun _ _ =>
      (Steady.fetch (by decide)).bind fun _ _ => .ok _
    rw [hpersisted.1]
    exact decide_eq_true hle

/-! ## Runs -/

/-- The order `debtor` has a collection, not fully reversed, drawn from the lot of `funder`. -/
def CollectedFrom (b : Billing) (debtor funder : String) : Prop :=
  ∃ a ∈ b.allocations.rows, a.refundedAmount < a.amount ∧ collectsFor b debtor a = true ∧
    ∃ lot ∈ b.lots.rows, a.source = .creditPack lot.id ∧ lot.orderId = funder

instance (b : Billing) (debtor funder : String) : Decidable (CollectedFrom b debtor funder) :=
  inferInstanceAs (Decidable (∃ a ∈ b.allocations.rows, a.refundedAmount < a.amount ∧
    collectsFor b debtor a = true ∧
      ∃ lot ∈ b.lots.rows, a.source = .creditPack lot.id ∧ lot.orderId = funder))

theorem CollectedFrom.edge {debtor funder : String} (h : CollectedFrom b debtor funder) :
    ∃ id, CollectionEdge b id (some debtor) (some funder) := by
  obtain ⟨a, ha, hlt, hcollects, lot, hlot, hsource, rfl⟩ := h
  have hfind : b.lots.find? lot.id = some lot := Table.find?_of_mem hlot
  refine ⟨a.id, a, ha, rfl, hlt, ⟨debtor, rfl, hcollects⟩, ?_⟩
  rw [hsource, FundingSource.order, hfind]
  rfl

/-- No order pays, through the lots of others, for itself. -/
theorem Chronicle.acyclic (h : Chronicle b) (orderId : String) :
    ¬ Relation.TransGen (CollectedFrom b) orderId orderId := by
  intro hpath
  refine h.ascending.acyclic (some orderId) ?_
  exact Relation.TransGen.lift some (fun _ _ hedge => CollectedFrom.edge hedge) orderId orderId hpath

/-- **Refunds unwind.** In every reachable state the collections form no cycle, and no
    refund is rejected by the guards of the unwinding or runs out of nesting. -/
theorem Reachable.refund_unwinds (h : Reachable cfg db) :
    (∀ orderId, ¬ Relation.TransGen (CollectedFrom db.billing) orderId orderId) ∧
      ∀ printable tx idempotencyKey expectedAccountId, ∀ f ∈ unwindingFailures,
        refund printable tx db.billing idempotencyKey expectedAccountId ≠ .error f :=
  ⟨h.chronicle.2.acyclic, fun _ _ _ _ =>
    refund_steady h.chronicle.1 h.chronicle.2 h.debitBooks⟩

/-- The second pack paid the debt of the first one, whose product operation can be refunded. -/
theorem refund_unwinds_twoPacks :
    ∃ db, twoPacks = .ok db ∧ CollectedFrom db.billing firstPack.id secondPack.id ∧
      (∀ orderId, ¬ Relation.TransGen (CollectedFrom db.billing) orderId orderId) ∧
      ∀ f ∈ unwindingFailures, refund asciiUnicode.isPrintable (referenceTx 4) db.billing "job"
        none ≠ .error f := by
  have hok : twoPacks.map (fun db =>
      decide (CollectedFrom db.billing firstPack.id secondPack.id)) = .ok true := by
    decide +kernel
  rw [map_eq_ok] at hok
  obtain ⟨db, hrun, hcollected⟩ := hok
  obtain ⟨hacyclic, hrefund⟩ := Reachable.refund_unwinds (twoPacks_reachable hrun)
  exact ⟨db, hrun, of_decide_eq_true hcollected, hacyclic, hrefund _ _ _ _⟩

end StripeEntitlements
