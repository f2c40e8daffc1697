import StripeEntitlements.Packs.Runs

/-!
# Progress of Debits and Allocations

Collectors and reversals add collection debits with later allocation ids, advance refund
progress and release debt. They never touch a product debit, nor what a debit was
allocated from.

## Main results

- `Progress` — what a step inside the credit frame adds to debits and allocations
- `restore_progress` — every reversal is progress
-/

namespace StripeEntitlements

open Relational

variable {cfg : Config} {tx : Tx} {account : Account} {visiting : List String}
  {b b' b'' : Billing} {orderId : String}

/-! ## Progress -/

/-- The order whose lot a source draws from. -/
def FundingSource.order (b : Billing) : FundingSource → Option String
  | .subscription _ => none
  | .creditPack lotId => (b.lots.find? lotId).map FundingLot.orderId

/-- The allocations of a debit, up to their refunds. -/
def allocationsOf (b : Billing) (key : String) : List Allocation :=
  (b.allocations.select (·.debitKey = key)).map Allocation.static

/-- A step keeps product debits, allocations up to their refunds and released atoms. A new
    allocation has a later id and a new debit. -/
structure Progress (b b' : Billing) : Prop where
  frame : CreditFrame b b'
  row : ∀ a' ∈ b'.allocations.rows,
    (∃ a ∈ b.allocations.rows, a.static = a'.static ∧ a.refundedAmount ≤ a'.refundedAmount) ∨
    (∀ a ∈ b.allocations.rows, a.id < a'.id) ∧ b.debits.find? a'.debitKey = none
  allocations : ∀ key, (b.debits.find? key).isSome → allocationsOf b' key = allocationsOf b key
  product : ∀ key d, d.kind = .usage →
    (b'.debits.find? key = some d ↔ b.debits.find? key = some d)
  released : ∀ orderId, debtColumn b orderId PackDebt.releasedCredits ≤
    debtColumn b' orderId PackDebt.releasedCredits

namespace Progress

/-- Statements that write neither debits, allocations nor debts. -/
theorem of_frame (hf : CreditFrame b b') (hdebits : b'.debits = b.debits)
    (hallocations : b'.allocations = b.allocations) (hdebts : b'.packDebts = b.packDebts) :
    Progress b b' where
  frame := hf
  row a ha := .inl ⟨a, hallocations ▸ ha, rfl, le_refl _⟩
  allocations _ _ := by rw [allocationsOf, allocationsOf, hallocations]
  product _ _ _ := by rw [hdebits]
  released _ := by rw [debtColumn, debtColumn, hdebts]

theorem refl (b : Billing) : Progress b b := of_frame (.refl b) rfl rfl rfl

/-- A debit that was there is still there. -/
theorem debit_isSome (h : CreditFrame b b') {key : String} (hkey : (b.debits.find? key).isSome) :
    (b'.debits.find? key).isSome := by
  obtain ⟨d, hd⟩ := Option.isSome_iff_exists.1 hkey
  obtain ⟨d', hd', -⟩ := h.debits.find? Debit.idempotencyKey (fun _ => rfl) hd
  exact Option.isSome_iff_exists.2 ⟨d', hd'⟩

theorem trans (h : Progress b b') (h' : Progress b' b'') : Progress b b'' where
  frame := h.frame.trans h'.frame
  released k := le_trans (h.released k) (h'.released k)
  allocations key hkey :=
    (h'.allocations key (debit_isSome h.frame hkey)).trans (h.allocations key hkey)
  product key d hkind := (h'.product key d hkind).trans (h.product key d hkind)
  row a'' ha'' := by
    rcases h'.row a'' ha'' with ⟨a', ha', hstatic', hle'⟩ | ⟨hlater, hfresh⟩
    · rcases h.row a' ha' with ⟨a, ha, hstatic, hle⟩ | ⟨hlater, hfresh⟩
      · exact .inl ⟨a, ha, hstatic.trans hstatic', le_trans hle hle'⟩
      · have hid : a'.id = a''.id := (congrArg Allocation.id hstatic' :)
        have hkey : a'.debitKey = a''.debitKey := Allocation.debitKey_of_static hstatic'
        exact .inr ⟨hid ▸ hlater, hkey ▸ hfresh⟩
    · refine .inr ⟨fun a ha => ?_, ?_⟩
      · obtain ⟨a', ha', hstatic⟩ := h.frame.allocations.exists_mem ha
        have hid : a'.id = a.id := (congrArg Allocation.id hstatic :)
        exact hid ▸ hlater a' ha'
      · refine Option.eq_none_iff_forall_ne_some.2 fun d hd => ?_
        have hsome := debit_isSome h.frame (Option.isSome_iff_exists.2 ⟨d, hd⟩)
        rw [hfresh] at hsome
        cases hsome

theorem updatePackDebts {p : PackDebt → Bool} {f : PackDebt → PackDebt} {t : Table PackDebt}
    (h : b.packDebts.updateWhere? p f = some t) (hstatic : ∀ d, (f d).static = d.static)
    (hreleased : ∀ d, d.releasedCredits ≤ (f d).releasedCredits) :
    Progress b { b with packDebts := t } where
  frame := .updatePackDebts h hstatic
  row a ha := .inl ⟨a, ha, rfl, le_refl _⟩
  allocations _ _ := rfl
  product _ _ _ := .rfl
  released k := by
    simp only [debtColumn, Table.find?_updateWhere h fun d => PackDebt.orderId_of_static (hstatic d)]
    cases b.packDebts.find? k with
    | none => exact le_refl _
    | some d =>
      simp only [Option.map_some, Option.elim_some]
      split
      · exact Int.ofNat_le.2 (hreleased d)
      · exact le_refl _

/-- Refund progress on allocations, and facts on the debits of collections. -/
theorem mark {p : Allocation → Bool} {f : Allocation → Allocation} {t : Table Allocation}
    {debits : Table Debit} (h : b.allocations.updateWhere? p f = some t)
    (hstatic : ∀ a, (f a).static = a.static) (hle : ∀ a, a.refundedAmount ≤ (f a).refundedAmount)
    (hdebits : CreditFrame { b with allocations := t } { b with allocations := t, debits := debits })
    (hproduct : ∀ key d, d.kind = .usage →
      (debits.find? key = some d ↔ b.debits.find? key = some d)) :
    Progress b { b with allocations := t, debits := debits } where
  frame := (CreditFrame.updateAllocations h hstatic).trans hdebits
  row a' ha' := by
    change a' ∈ t.rows at ha'
    rw [Table.updateWhere?_eq_some.1 h] at ha'
    -- a row is updated or not; its refunded amount only grows
    obtain ⟨a, ha, rfl⟩ := List.mem_map.1 ha'
    refine .inl ⟨a, ha, ?_⟩
    split
    · exact ⟨(hstatic a).symm, hle a⟩
    · exact ⟨rfl, le_refl _⟩
  allocations key _ := by
    simp only [allocationsOf, Table.select, Table.updateWhere?_eq_some.1 h, List.filter_map,
      List.map_map]
    -- the debit of a row is static, so the allocations of a key are the same rows as before
    have hkey : ∀ a, (if p a then f a else a).debitKey = a.debitKey := by
      intro a
      split
      · exact Allocation.debitKey_of_static (hstatic a)
      · rfl
    have hsame : ∀ a, (if p a then f a else a).static = a.static := by
      intro a
      split
      · exact hstatic a
      · rfl
    simp only [Function.comp_def, hkey, hsame]
  product := hproduct
  released _ := le_refl _

theorem collect {grantEpoch amount : Nat} {lotId : Option String} {debt : PackDebt}
    (h : collectPackDebt tx grantEpoch lotId b debt amount = .ok b') : Progress b b' := by
  have hf := collectPackDebt_frame h
  obtain ⟨debts, debits, allocations, hdebts, hdebits, -, hall, rfl⟩ := collectPackDebt_eq_ok h
  -- the collection's debit is new, so no row and no product refers to it
  have hfresh : b.debits.find? (collectionDebit tx b debt amount grantEpoch).idempotencyKey = none :=
    Table.find?_eq_none_of_insert hdebits
  refine ⟨hf, fun a' ha' => ?_, fun key hkey => ?_, fun key d hkind => ?_, ?_⟩
  · change a' ∈ allocations.rows at ha'
    rw [Table.insert?_eq_some.1 hall, List.mem_append, List.mem_singleton] at ha'
    rcases ha' with ha' | rfl
    · exact .inl ⟨a', ha', rfl, le_refl _⟩
    · exact .inr ⟨fun a ha => lt_nextSerial ha, hfresh⟩
  · -- the new allocation belongs to the new debit
    have hne : (collectionDebit tx b debt amount grantEpoch).idempotencyKey ≠ key := by
      rintro rfl
      rw [hfresh] at hkey
      cases hkey
    simp [allocationsOf, Table.select, Table.insert?_eq_some.1 hall, Billing.newAllocation, hne]
  · -- the new debit is a collection
    have hinsert := Table.find?_insert hdebits key
    change debits.find? key = some d ↔ _
    by_cases heq : (collectionDebit tx b debt amount grantEpoch).idempotencyKey = key
    · rw [hinsert.trans (if_pos heq), ← heq, hfresh]
      refine iff_of_false ?_ (by simp)
      rintro hd
      cases hd
      cases hkind
    · rw [hinsert.trans (if_neg heq)]
  · exact (updatePackDebts hdebts (fun _ => rfl) fun _ => le_refl _).released

/-- A loop of collections over the outstanding debts. -/
theorem drain_collect {grantEpoch available left : Nat} {lotId : Option String}
    {accountId : String} {body : Billing → PackDebt → Nat → Nat → Transaction Billing}
    (hbody : ∀ s debt amount left s', body s debt amount left = .ok s' →
      ∃ s₁, collectPackDebt tx grantEpoch lotId s debt amount = .ok s₁ ∧ CreditFrame s₁ s' ∧
        s'.lots = s₁.lots ∧ s'.packDebts = s₁.packDebts ∧ s'.debits = s₁.debits ∧
        s'.allocations = s₁.allocations)
    (h : drain PackDebt.outstanding body (outstandingPackDebts b accountId) available b =
      .ok (b', left)) : Progress b b' := by
  refine drain_rule (P := fun _ s => Progress b s) ?_ (refl b) h
  intro debt amount left s s' _ _ hs hrun
  obtain ⟨s₁, hcollect, hframe, -, hpack, hdebits, hallocations⟩ := hbody s debt amount left s' hrun
  exact (hs.trans (collect hcollect)).trans (of_frame hframe hdebits hallocations hpack)

theorem collectPackDebtsFromLot {accountId lotId : String} {available collected : Nat}
    (h : collectPackDebtsFromLot tx b accountId lotId available = .ok (b', collected)) :
    Progress b b' := by
  obtain ⟨_, b₁, _, -, hdrain, -, lots, hlots, rfl⟩ := collectPackDebtsFromLot_eq_ok h
  have hloop : Progress b b₁ :=
    drain_collect (fun _ _ _ _ s' hrun => ⟨s', hrun, .refl _, rfl, rfl, rfl, rfl⟩) hdrain
  exact hloop.trans (of_frame (.updateLots hlots fun _ => rfl) rfl rfl rfl)

theorem collectPackDebtsFromSubscription {accountId eventId : String} {grantEpoch collected : Nat}
    (h : collectPackDebtsFromSubscription tx b accountId grantEpoch eventId =
      .ok (b', collected)) : Progress b b' := by
  obtain ⟨_, b₁, _, -, hdrain, -, hend⟩ := collectPackDebtsFromSubscription_eq_ok h
  have hloop : Progress b b₁ :=
    drain_collect (fun _ _ _ _ _ hrun => subscriptionCollection_eq_ok hrun) hdrain
  rcases hend with ⟨-, rfl⟩ | ⟨accounts, haccounts, rfl⟩
  · exact hloop
  · exact hloop.trans (of_frame (.updateAccount haccounts fun _ => rfl) rfl rfl rfl)

theorem returnSubscriptionAtoms {n returned : Nat} {eventId : String} {reason : LedgerReason}
    (hreason : reason.isReturn)
    (h : returnSubscriptionAtoms tx b account n eventId reason = .ok (b', returned)) :
    Progress b b' := by
  rcases returnSubscriptionAtoms_eq_ok h with ⟨-, rfl, -⟩ |
    ⟨-, -, current, accounts, b₁, b₂, _, _, -, haccounts, hledger, hclaw, hcollect⟩
  · exact .refl _
  have hframe : CreditFrame b b₂ :=
    ((CreditFrame.updateAccount haccounts fun _ => rfl).trans
      (.insertLedger hledger fun hrecovery => by simp [hreason.not_recovery] at hrecovery)).trans
        (collectClawbackDebts_frame hclaw)
  have haccount : SamePacks b { b with accounts := accounts } := ⟨fun _ => rfl, rfl, rfl, rfl, rfl⟩
  have hsame := (haccount.trans (insertLedger_packs hledger)).trans (collectClawbackDebts_packs hclaw)
  exact (of_frame hframe hsame.debits hsame.allocations hsame.packDebts).trans
    (collectPackDebtsFromSubscription hcollect)

theorem expireAccountPackLots {accountId : String} {asOf : Int} {expired : Bool}
    (h : expireAccountPackLots b accountId asOf = .ok (b', expired)) : Progress b b' := by
  simp only [StripeEntitlements.expireAccountPackLots, bind_eq_ok, Billing.updateWhere_eq_ok,
    pure_eq_ok, Stored.table, Stored.install] at h
  obtain ⟨_, ⟨lots, hlots, rfl⟩, heq⟩ := h
  cases heq
  exact of_frame (.updateLots hlots fun _ => rfl) rfl rfl rfl

/-! ### Steps of a reversal -/

theorem expireAllocationLot {lotId : String} {lot : FundingLot}
    (h : expireAllocationLot tx b account lotId = .ok (b', lot)) : Progress b b' := by
  have hkept : Kept [] b b' := .expireAllocationLot h
  obtain ⟨_, lots, -, -, -, rfl⟩ := expireAllocationLot_eq_ok h
  exact of_frame hkept.frame rfl rfl rfl

theorem settleLot {order : PackOrder} {lot : FundingLot} {restorable returned : Nat}
    (h : settleLot tx b account order lot restorable = .ok (b', returned)) : Progress b b' := by
  rcases settleLot_eq_ok h with ⟨-, rfl⟩ | ⟨-, -, lots, _, hlots, hcollect⟩ |
    ⟨-, lots, hlots, rfl⟩
  · exact .refl _
  · have hput : Progress b { b with lots := lots } :=
      of_frame (.updateLots hlots fun _ => rfl) rfl rfl rfl
    exact hput.trans (collectPackDebtsFromLot hcollect)
  · exact of_frame (.updateLots hlots fun _ => rfl) rfl rfl rfl

/-- The debt of a collection being unwound gives its atoms up. -/
theorem release {k : Nat} {a : Allocation} {b₁ : Billing}
    (hr : Releases visiting orderId a k b b₁) : Progress b b₁ := by
  obtain ⟨debts, hdebts, rfl⟩ := hr.release
  exact updatePackDebts hdebts (fun _ => rfl) fun d => Nat.le_add_right _ _

/-- A collection that is unwound records it. -/
theorem marked {k : Nat} {a : Allocation} {s s₁ s₂ s' : Billing}
    (hu : Unwinds account visiting orderId a k s s₁ s₂ s') : Progress s₂ s' := by
  obtain ⟨debts, hdebts, rfl⟩ := hu.release
  obtain ⟨allocations, debits, f, hallocations, hdebits, hf, rfl⟩ := hu.mark
  refine mark hallocations (fun _ => rfl) (fun _ => Nat.le_add_right _ _)
    (.updateDebit hdebits hf) fun key d hkind => ?_
  by_cases heq : key = a.debitKey
  · -- the debit of the collection is no product debit
    subst heq
    obtain ⟨e, he, hkind', -⟩ := hu.debit
    obtain ⟨e', he', hs⟩ := hu.callee.frame.debits.find? Debit.idempotencyKey (fun _ => rfl) he
    have hcollection : e'.kind = .creditPackDebtCollection := (Debit.kind_of_static hs).trans hkind'
    rw [Table.find?_update_self hdebits fun d => Debit.key_of_static (hf d), he', Option.map_some,
      Option.some.injEq, Option.some.injEq]
    constructor
    · rintro rfl
      rw [Debit.kind_of_static (hf e'), hcollection] at hkind
      cases hkind
    · rintro rfl
      rw [hcollection] at hkind
      cases hkind
  · rw [Table.find?_update_ne hdebits (fun d => Debit.key_of_static (hf d)) heq]

/-- Unwinding one collection, given that its callee is progress. -/
theorem unwind {k : Nat} {a : Allocation} {s s₁ s₂ s' : Billing}
    (hu : Unwinds account visiting orderId a k s s₁ s₂ s') (hcallee : Progress s₁ s₂) :
    Progress s s' :=
  ((release hu.releases).trans hcallee).trans (marked hu)

/-- A lot reversal, given that the relief of its order is progress. -/
theorem lot {order : PackOrder} {lotId : String} {lot : FundingLot} {n returned : Nat}
    {b₁ b₂ : Billing} (hexpire : StripeEntitlements.expireAllocationLot tx b account lotId = .ok (b₁, lot))
    (hrelief : Progress b₁ b₂)
    (hsettle : StripeEntitlements.settleLot tx b₂ account order lot n = .ok (b', returned)) :
    Progress b b' :=
  ((expireAllocationLot hexpire).trans hrelief).trans (settleLot hsettle)

/-- Refund progress of one allocation. -/
theorem markRefunded {id n : Nat} (h : markRefunded b id n = .ok b') : Progress b b' := by
  simp only [StripeEntitlements.markRefunded, Billing.updateWhere_eq_ok, Stored.table,
    Stored.install] at h
  obtain ⟨allocations, hallocations, rfl⟩ := h
  exact mark hallocations (fun _ => rfl) (fun _ => Nat.le_add_right _ _) (.refl _) fun _ _ _ => .rfl

/-! ### What progress keeps -/

/-- The order of a source is the same. -/
theorem order (h : CreditFrame b b') (source : FundingSource) : source.order b' = source.order b := by
  cases source with
  | subscription _ => rfl
  | creditPack lotId =>
    have hgrows : Table.Grows FundingLot.static b.lots b'.lots := .of_map_eq h.lots
    have hback : Table.Grows FundingLot.static b'.lots b.lots := .of_map_eq h.lots.symm
    simp only [FundingSource.order]
    cases hl : b.lots.find? lotId with
    | none =>
      cases hl' : b'.lots.find? lotId with
      | none => rfl
      | some l' =>
        obtain ⟨l, hfind, -⟩ := hback.find? FundingLot.id (fun _ => rfl) hl'
        rw [hl] at hfind
        cases hfind
    | some l =>
      obtain ⟨l', hfind, hs⟩ := hgrows.find? FundingLot.id (fun _ => rfl) hl
      rw [hfind]
      exact congrArg some (FundingLot.orderId_of_static hs)

/-- What an allocation collects for is the same. -/
theorem collectsFor (h : CreditFrame b b') {a : Allocation} (hdebit : (b.debits.find? a.debitKey).isSome)
    (orderId : String) : collectsFor b' orderId a = collectsFor b orderId a := by
  obtain ⟨d, hd⟩ := Option.isSome_iff_exists.1 hdebit
  obtain ⟨d', hd', hs⟩ := h.debits.find? Debit.idempotencyKey (fun _ => rfl) hd
  simp only [StripeEntitlements.collectsFor, hd, hd', Option.any_some, Debit.kind_of_static hs,
    Debit.order_of_static hs]

end Progress

/-- **Every reversal is progress.** -/
theorem restore_progress {fuel : Nat} {source : FundingSource} {n restored : Nat}
    {eventId : String} {reason : LedgerReason} (hreason : reason.isReturn)
    (h : restoreAllocationEffect tx account fuel b source n eventId reason visiting =
      .ok (b', restored)) : Progress b b' := by
  refine restore_induction (P := fun _ b _ _ b' => Progress b b')
    (Q := fun _ _ b _ b' => Progress b b') ?_ ?_ ?_ ?_ ?_ ?_ hreason h
  case refine_1 => exact fun _ b _ _ _ => .refl b
  case refine_2 => exact fun _ _ _ _ _ _ _ hreason hreturn => .returnSubscriptionAtoms hreason hreturn
  case refine_3 => exact fun _ _ b => .refl b
  case refine_4 =>
    intro _ _ b d debts r _ _ _ hdebts
    exact .updatePackDebts hdebts (fun _ => rfl) fun d => Nat.le_add_right _ _
  case refine_5 =>
    intro _ _ b r k a s s₁ s₂ s' hq _ hu hp
    exact hq.trans (.unwind hu hp)
  case refine_6 =>
    intro _ b lotId n b₁ lot order b₂ b' returned hexpire _ _ _ hq hsettle
    exact .lot hexpire hq hsettle

end StripeEntitlements
