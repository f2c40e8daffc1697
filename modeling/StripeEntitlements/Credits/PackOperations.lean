import StripeEntitlements.Credits.PackConservation

/-!
# Product Charges and Refunds of Pack Credits

Charges draw from exact lot rows and refunds reverse exact allocation rows, so both shift
nothing and keep consistent pack tables consistent.

## Main results

- `PackState.of_moves` — a step inside the credit frame that shifts nothing keeps the state
- `charge_moves` — a charge shifts nothing
- `refund_packState` — a refund keeps the pack state
-/

namespace StripeEntitlements

open Relational

variable {tx : Tx} {b b' : Billing}

namespace PackState

theorem linked (h : PackState b) : Linked [] b := ⟨h.references, nofun⟩

theorem conserved (h : PackState b) {lot : FundingLot} {order : PackOrder}
    (hlot : lot ∈ b.lots.rows) (horder : b.orders.find? lot.orderId = some order) :
    Conserved b order lot := (packState_iff.1 h).2.2 lot hlot order horder

/-- Consistent tables have room for what they hold. -/
theorem fit (h : PackState b) : Fit [] 0 b := by
  intro lot hlot order horder
  have hc := h.conserved hlot horder
  refine ⟨?_, hc.refunded, ?_, hc.terminal⟩
  · rw [hc.held, Pi.zero_apply, add_zero]
  · rw [hc.collected]

/-- A step inside the credit frame that shifts nothing keeps the pack state. -/
theorem of_moves (h : PackState b) (hf : CreditFrame b b') (hm : Moves [] 0 0 b b') :
    PackState b' := by
  -- the frame keeps the static columns, so a lot after the step was a lot before it
  have hlots : ∀ lot' ∈ b'.lots.rows, ∃ lot ∈ b.lots.rows, lot.static = lot'.static := by
    intro lot' hlot'
    have hmem : lot'.static ∈ b.lots.rows.map FundingLot.static := by
      rw [← hf.lots]
      exact List.mem_map_of_mem hlot'
    exact List.mem_map.1 hmem
  -- an order without a lot keeps no debt; a lot keeps its equations
  refine packState_iff.2 ⟨hm.linked.references, fun orderId order horder hnone => ?_,
    fun lot' hlot' order horder => ?_⟩
  · rw [hf.orders] at horder
    -- the order had no lot before the step either
    have hnone' : lotOfOrder b orderId = none := by
      rw [Option.eq_none_iff_forall_ne_some]
      intro lot hlot
      obtain ⟨hmem, horderId⟩ := lotOfOrder_eq_some.1 hlot
      have hmem' : lot.static ∈ b'.lots.rows.map FundingLot.static := by
        rw [hf.lots]
        exact List.mem_map_of_mem hmem
      obtain ⟨lot', hlot', hs⟩ := List.mem_map.1 hmem'
      have hsome := lotOfOrder_eq_some.2 ⟨hlot', (FundingLot.orderId_of_static hs).trans horderId⟩
      rw [hnone] at hsome
      cases hsome
    have hdebt := (packState_iff.1 h).2.1 orderId order horder hnone'
    rw [Table.find?_eq_none_iff] at hdebt ⊢
    intro d' hd'
    have hmem : d'.static ∈ b.packDebts.rows.map PackDebt.static := by
      rw [← hf.packDebts]
      exact List.mem_map_of_mem hd'
    obtain ⟨d, hd, hs⟩ := List.mem_map.1 hmem
    have hne : d.orderId ≠ orderId := hdebt d hd
    exact fun heq => hne ((PackDebt.orderId_of_static hs).trans heq)
  · obtain ⟨lot, hlot, hs⟩ := hlots lot' hlot'
    have hid := FundingLot.id_of_static hs
    have horderId := FundingLot.orderId_of_static hs
    rw [hf.orders, ← horderId] at horder
    have hc := h.conserved hlot horder
    -- each equation is carried by the column the step cannot shift
    refine ⟨?_, ?_, ?_, ?_, fun hterminal => ?_⟩
    · rw [← FundingLot.original_of_static hs]
      exact hc.original
    · rw [← horderId, debtColumn_target hf, ← FundingLot.clawed_of_static hs]
      exact hc.refunded
    · rw [← horderId, hm.covered [] (List.Subset.refl _), hc.collected]
      rfl
    · rw [← hid, hm.held [] (List.Subset.refl _), hc.held]
      exact add_zero _
    · obtain ⟨l, hl, hlid, hlterminal⟩ := hm.closed lot' hlot' hterminal
      have : l = lot := b.lots.eq_of_key_eq hl hlot (hlid.trans hid.symm)
      exact hc.terminal (this ▸ hlterminal)

/-! ## Collectors -/

theorem collectPackDebtsFromLot (h : PackState b) {accountId lotId : String}
    {available collected : Nat}
    (hlot : ∀ l, b.lots.find? lotId = some l → available ≤ l.remainingCredits)
    (hrun : collectPackDebtsFromLot tx b accountId lotId available = .ok (b', collected)) :
    PackState b' :=
  h.of_moves (collectPackDebtsFromLot_frame hrun) (.collectPackDebtsFromLot h.linked hlot hrun)

theorem collectPackDebtsFromSubscription (h : PackState b) {accountId eventId : String}
    {grantEpoch collected : Nat}
    (hrun : collectPackDebtsFromSubscription tx b accountId grantEpoch eventId =
      .ok (b', collected)) : PackState b' :=
  h.of_moves (collectPackDebtsFromSubscription_frame hrun)
    (.collectPackDebtsFromSubscription h.linked hrun)

end PackState

/-! ## Charges -/

/-- Lazy expiry of an account's lots. -/
theorem expireAccountPackLots_moves {accountId : String} {asOf : Int} {expired : Bool}
    {visiting : List String} (hl : Linked visiting b)
    (h : expireAccountPackLots b accountId asOf = .ok (b', expired)) :
    Moves visiting 0 0 b b' ∧ CreditFrame b b' := by
  simp only [expireAccountPackLots, bind_eq_ok, Billing.updateWhere_eq_ok, pure_eq_ok,
    Stored.table, Stored.install] at h
  obtain ⟨_, ⟨lots, hlots, rfl⟩, heq⟩ := h
  cases heq
  refine ⟨.updateLots hl hlots (fun _ => rfl) (fun l _ _ => l.stock_expire _)
    fun l hterminal => ?_, .updateLots hlots fun _ => rfl⟩
  simp [FundingLot.isTerminal, FundingLot.expire] at hterminal

/-- The lot a charge source draws from. -/
def ChargeSource.lotId : ChargeSource → Option String
  | .creditPack lot => some lot.id
  | .subscription _ _ => none

/-- The rows of the sources still to draw from are exact. -/
structure Drawable (sources : List ChargeSource) (b : Billing) : Prop where
  current : ∀ lot, ChargeSource.creditPack lot ∈ sources → b.lots.find? lot.id = some lot
  nodup : (sources.filterMap ChargeSource.lotId).Nodup

/-- The charge sources are pack lots and at most the subscription balance. -/
theorem chargeSources_eq (account : Account) (lots : List FundingLot) (asOf : Int) :
    ∃ subscription, chargeSources account lots asOf =
        Table.orderBy ChargeSource.sortKey
          ((lots.filter (0 < ·.remainingCredits)).map ChargeSource.creditPack ++ subscription) ∧
      subscription.filterMap ChargeSource.lotId = [] := by
  unfold chargeSources
  refine ⟨_, rfl, ?_⟩
  split
  · split <;> rfl
  · rfl

theorem chargeSources_drawable (account : Account) (accountId : String) (asOf : Int)
    (b : Billing) : Drawable (chargeSources account (spendableLots b accountId asOf) asOf) b := by
  have hlots : (spendableLots b accountId asOf).Perm
      (b.lots.select fun l => l.accountId = accountId && l.status = .active && asOf < l.expiresAt) :=
    -- the spendable lots are a selection of the table in another order
    Table.orderBy_perm _ _
  have hids : ((spendableLots b accountId asOf).map FundingLot.id).Nodup := by
    rw [(hlots.map FundingLot.id).nodup_iff]
    exact b.lots.valid.keys_nodup.sublist (List.filter_sublist.map _)
  obtain ⟨subscription, heq, hnone⟩ :=
    chargeSources_eq account (spendableLots b accountId asOf) asOf
  rw [heq]
  constructor
  -- a pack source is the current row of its lot
  · intro lot hlot
    rw [Table.mem_orderBy, List.mem_append] at hlot
    rcases hlot with hlot | hlot
    · obtain ⟨l, hl, heq⟩ := List.mem_map.1 hlot
      cases heq
      exact Table.find?_of_mem
        (List.mem_of_mem_filter (hlots.mem_iff.1 (List.mem_of_mem_filter hl)))
    · have := List.filterMap_eq_nil_iff.1 hnone _ hlot
      cases this
  -- the subscription source has no lot id, so the ids of the sources are those of the lots
  · have hpacks : (ChargeSource.lotId ∘ ChargeSource.creditPack) = some ∘ FundingLot.id := rfl
    rw [((Table.orderBy_perm _ _).filterMap _).nodup_iff, List.filterMap_append, hnone,
      List.append_nil, List.filterMap_map, hpacks, List.filterMap_eq_map]
    exact hids.sublist (List.filter_sublist.map _)

theorem Drawable.tail {source : ChargeSource} {sources : List ChargeSource}
    (h : Drawable (source :: sources) b) : Drawable sources b where
  current lot hlot := h.current lot (List.mem_cons_of_mem _ hlot)
  nodup := h.nodup.sublist ((List.sublist_cons_self _ _).filterMap _)

/-- Drawing from the first source keeps the rows of the others. -/
theorem Drawable.update {lot : FundingLot} {sources : List ChargeSource}
    {f : FundingLot → FundingLot} {t : Table FundingLot}
    (h : Drawable (.creditPack lot :: sources) b) (ht : b.lots.update? lot.id f = some t)
    (hf : ∀ l, (f l).id = l.id) : Drawable sources { b with lots := t } where
  current l hl := by
    have hne : l.id ≠ lot.id := by
      intro heq
      have hnodup := h.nodup
      rw [List.filterMap_cons_some (by rfl), List.nodup_cons] at hnodup
      exact hnodup.1 (List.mem_filterMap.2 ⟨_, hl, congrArg some heq⟩)
    change t.find? l.id = some l
    rw [Table.find?_update_ne ht hf hne]
    exact h.current l (List.mem_cons_of_mem _ hl)
  nodup := h.tail.nodup

/-- A product debit of this key, on which no debt depends. -/
def ProductDebit (b : Billing) (key : String) : Prop :=
  ∃ d, b.debits.find? key = some d ∧ d.kind = .usage

theorem ProductDebit.collectsFor {key orderId : String} {a : Allocation}
    (h : ProductDebit b key) (hkey : a.debitKey = key) : collectsFor b orderId a = false := by
  obtain ⟨d, hd, hkind⟩ := h
  simp [StripeEntitlements.collectsFor, hkey, hd, hkind]

/-- A new allocation of a product debit. -/
theorem allocate_moves {key accountId : String} {source : FundingSource} {used : Nat}
    (hl : Linked [] b) (hdebit : ProductDebit b key)
    (h : b.insertAllocation key accountId source used = .ok b') :
    Moves [] (Moves.lotShift source used) 0 b b' ∧ CreditFrame b b' ∧ b'.lots = b.lots ∧
      b'.debits = b.debits := by
  obtain ⟨hlot, t, ht, rfl⟩ := Billing.insertAllocation_eq_ok.1 h
  obtain ⟨d, hd, hkind⟩ := hdebit
  have hm := Moves.insertAllocation hl ht (Option.isSome_iff_exists.2 ⟨d, hd⟩) hlot
    List.not_mem_nil
  refine ⟨hm.congr (fun lotId => ?_) fun orderId => ?_, .insertAllocation ht, rfl, rfl⟩
  · simp [Moves.lotShift, Billing.newAllocation, Allocation.outstanding]
  · have hcollects : collectsFor b orderId (b.newAllocation key accountId source used) = false :=
      ProductDebit.collectsFor ⟨d, hd, hkind⟩ rfl
    simp [Moves.debtShift, hcollects]

/-- One draw takes atoms from a lot and records them in an allocation. -/
theorem drawFromSource_moves {account : Account} {key : String} {source : ChargeSource}
    {sources : List ChargeSource} {used left total total' : Nat} (hl : Linked [] b)
    (hdebit : ProductDebit b key) (hdraw : Drawable (source :: sources) b)
    (hle : used ≤ source.available)
    (h : drawFromSource account key (b, total) source used left = .ok (b', total')) :
    Moves [] 0 0 b b' ∧ CreditFrame b b' ∧ Drawable sources b' ∧ b'.debits = b.debits := by
  cases source with
  -- a draw from the balance is one allocation
  | subscription a expiresAt =>
    simp only [drawFromSource, bind_eq_ok, pure_eq_ok] at h
    obtain ⟨b₁, hinsert, heq⟩ := h
    cases heq
    obtain ⟨hm, hf, hlots, hdebits⟩ := allocate_moves hl hdebit hinsert
    refine ⟨hm.congr (fun _ => if_neg nofun) fun _ => rfl, hf, ?_, hdebits⟩
    exact ⟨fun lot hlot => hlots ▸ hdraw.tail.current lot hlot, hdraw.tail.nodup⟩
  -- a draw from a lot takes the atoms and then records them, and the two shifts cancel
  | creditPack lot =>
    simp only [drawFromSource, bind_eq_ok, Billing.updateWhere_eq_ok, pure_eq_ok, Stored.table,
      Stored.install] at h
    obtain ⟨_, ⟨lots, hlots, rfl⟩, b₁, hinsert, heq⟩ := h
    cases heq
    have hfind := hdraw.current lot List.mem_cons_self
    have hroom : used ≤ lot.remainingCredits := hle
    -- the guard of the update holds, so it is an update by key
    have hexact : b.lots.update? lot.id
        (fun l => { l with remainingCredits := l.remainingCredits - used }) = some lots := by
      rw [← hlots]
      exact Table.update?_of_guarded hfind (by simpa using hroom)
    have htake := Moves.updateLot hl hfind hexact (fun _ => rfl) fun _ h => h
    have hframe : CreditFrame b { b with lots := lots } := .updateLots hexact fun _ => rfl
    have hrest := hdraw.update hexact fun _ => rfl
    obtain ⟨hm, hf, hlots', hdebits⟩ := allocate_moves htake.linked hdebit hinsert
    refine ⟨(htake.trans hm).congr (fun lotId => ?_) fun _ => rfl, hframe.trans hf, ?_, hdebits⟩
    · simp only [Pi.add_apply, Pi.zero_apply, Moves.lotShift, FundingLot.stock,
        FundingSource.creditPack.injEq]
      by_cases hid : lotId = lot.id
      · subst hid
        simp only [if_true]
        omega
      · rw [if_neg hid, if_neg (Ne.symm hid), add_zero]
    · exact ⟨fun l hl => hlots' ▸ hrest.current l hl, hrest.nodup⟩

theorem chargeSubscription_moves {account : Account} {key : String} {used : Nat}
    (hl : Linked [] b) (h : chargeSubscription b account key used = .ok b') :
    Moves [] 0 0 b b' ∧ CreditFrame b b' := by
  unfold chargeSubscription at h
  split at h
  · rw [pure_eq_ok] at h
    subst h
    exact ⟨.refl hl, .refl b⟩
  · simp only [bind_eq_ok, Billing.update_eq_ok, Stored.table, Stored.install] at h
    obtain ⟨_, ⟨accounts, haccounts, rfl⟩, hledger⟩ := h
    have h₁ : Moves [] 0 0 b { b with accounts := accounts } := .of_eq hl rfl rfl rfl rfl
    have h₂ : CreditFrame b { b with accounts := accounts } :=
      .updateAccount haccounts fun _ => rfl
    exact ⟨h₁.trans_zero (.insertLedger h₁.linked hledger), h₂.trans (.insertLedger hledger (by simp))⟩

/-- A charge, replayed or not, shifts nothing. -/
theorem charge_moves {printable : Char → Bool} {accountId idempotencyKey : String} {amount : Nat}
    {result : CreditResult} (hl : Linked [] b)
    (h : charge printable tx b accountId amount idempotencyKey = .ok (b', result)) :
    Moves [] 0 0 b b' ∧ CreditFrame b b' := by
  simp only [charge, bind_eq_ok] at h
  obtain ⟨-, -, key, -, account, -, ⟨b₁, expired⟩, hexpire, -, -, h⟩ := h
  obtain ⟨hm₁, hf₁⟩ := expireAccountPackLots_moves hl hexpire
  -- the stored debit of this key answers the retry; otherwise the debit is inserted and drained
  split at h
  · simp only [bind_eq_ok, pure_eq_ok] at h
    obtain ⟨_, -, heq⟩ := h
    cases heq
    exact ⟨hm₁, hf₁⟩
  · simp only [bind_eq_ok, Billing.insert_eq_ok, pure_eq_ok, Stored.table, Stored.install] at h
    obtain ⟨_, ⟨debits, hdebits, rfl⟩, -, -, ⟨⟨b₂, used⟩, left⟩, hdrain, b₃, hsubscription, heq⟩ := h
    cases heq
    -- inserting the debit shifts nothing, since it has no pack order
    have hm₂ := Moves.insertDebit hm₁.linked (fun _ heq => by cases heq) hdebits
    have hf₂ : CreditFrame b₁ { b₁ with debits := debits } := .insertDebit hdebits
    have hdebit : ProductDebit { b₁ with debits := debits } key :=
      ⟨_, (Table.find?_insert hdebits key).trans (if_pos rfl), rfl⟩
    have hsources := chargeSources_drawable account account.id tx.wall b₁
    -- loop invariant of the drain: the sources ahead are current, and nothing has shifted so far
    obtain ⟨_, -, hm, hf, -⟩ := drain_invariant
      (P := fun sources _ (s : Billing × Nat) => Drawable sources s.1 ∧
        Moves [] 0 0 { b₁ with debits := debits } s.1 ∧
        CreditFrame { b₁ with debits := debits } s.1 ∧ ProductDebit s.1 key) (by
      rintro source sources used left ⟨s, total⟩ ⟨s', total'⟩ _ hle _ ⟨hdraw, hm, hf, hkey⟩ hrun
      obtain ⟨hm', hf', hdraw', hdebits'⟩ := drawFromSource_moves hm.linked hkey hdraw hle hrun
      refine ⟨hdraw', hm.trans_zero hm', hf.trans hf', ?_⟩
      obtain ⟨d, hd, hkind⟩ := hkey
      exact ⟨d, by rw [hdebits']; exact hd, hkind⟩)
      ⟨⟨hsources.current, hsources.nodup⟩, .refl hm₂.linked, .refl _, hdebit⟩ hdrain
    obtain ⟨hm₃, hf₃⟩ := chargeSubscription_moves hm.linked hsubscription
    exact ⟨((hm₁.trans_zero hm₂).trans_zero hm).trans_zero hm₃, ((hf₁.trans hf₂).trans hf).trans hf₃⟩

/-! ## Refunds -/

theorem ProductDebit.frame {key : String} (h : ProductDebit b key) (hf : CreditFrame b b') :
    ProductDebit b' key := by
  obtain ⟨d, hd, hkind⟩ := h
  obtain ⟨d', hd', hs⟩ := hf.debits.find? Debit.idempotencyKey (fun _ => rfl) hd
  exact ⟨d', hd', (Debit.kind_of_static hs).trans hkind⟩

/-- Hiding the rows of a product debit makes room for reversing one of them. -/
theorem Fit.visit_product {key : String} {a : Allocation} (h : Fit [] 0 b)
    (ha : a ∈ b.allocations.rows) (hkey : a.debitKey = key) :
    Fit [key] (Moves.lotShift a.source a.outstanding) b := by
  subst hkey
  intro lot hlot order horder
  have hf := h lot hlot order horder
  refine ⟨?_, hf.refunded, ?_, hf.terminal⟩
  · have hroom := hf.room
    have hhide := held_visit ha List.not_mem_nil lot.id
    simp only [Pi.zero_apply] at hroom
    linarith
  · have hcovered := hf.covered
    have hhide := covered_visit ha List.not_mem_nil lot.orderId
    have hnonneg : 0 ≤ Moves.debtShift b a a.outstanding lot.orderId := by
      unfold Moves.debtShift
      split
      · exact Allocation.outstanding_nonneg ha
      · exact le_refl _
    linarith

/-- A product debit makes room for reversing one of its allocations. -/
theorem product_room {key : String} {a : Allocation} (hl : Linked [] b) (hfit : Fit [] 0 b)
    (hdebit : ProductDebit b key) (ha : a ∈ b.allocations.rows) (hkey : a.debitKey = key) :
    Linked [key] b ∧
      Fit [key] (Moves.lotShift a.source ((a.amount - a.refundedAmount : Nat) : ℤ)) b := by
  have hnonneg := Allocation.outstanding_nonneg ha
  have hout : ((a.amount - a.refundedAmount : Nat) : ℤ) = a.outstanding := by
    unfold Allocation.outstanding at hnonneg ⊢
    omega
  refine ⟨⟨hl.references, fun k hk => ?_⟩, hout ▸ hfit.visit_product ha hkey⟩
  obtain ⟨d, hd, -⟩ := hdebit
  rw [List.mem_singleton.1 hk, hd]
  rfl

/-- Reversing one allocation of a product debit and marking it refunded shifts nothing. -/
theorem refundAllocation_moves {account : Account} {fuel restored : Nat} {key eventId : String}
    {a : Allocation} {b₁ : Billing} (hl : Linked [] b) (hfit : Fit [] 0 b)
    (hdebit : ProductDebit b key) (ha : a ∈ b.allocations.rows) (hkey : a.debitKey = key)
    (hrestore : restoreAllocationEffect tx account fuel b a.source
      (a.amount - a.refundedAmount) eventId .usageRefund [key] = .ok (b₁, restored))
    (hmark : markRefunded b₁ a.id (a.amount - a.refundedAmount) = .ok b') :
    Moves [] 0 0 b b' ∧ CreditFrame b b' ∧
      ∀ r ∈ b.allocations.rows, r.debitKey = key → r.id ≠ a.id → r ∈ b'.allocations.rows := by
  have hnonneg := Allocation.outstanding_nonneg ha
  unfold Allocation.outstanding at hnonneg
  have hkept := restoreAllocationEffect_keeps tx account fuel _ _ _ _ _ _ _ _ (.inl rfl) hrestore
  obtain ⟨hlinked, hroom⟩ := product_room hl hfit hdebit ha hkey
  have hm := (restore_moves (.inl rfl) hrestore hlinked hroom).of_subset (List.nil_subset [key])
  have ha₁ : a ∈ b₁.allocations.rows :=
    hkept.untouched a ha (by rw [hkey]; exact List.mem_cons_self)
  -- the row is exact, so the guard of the marking statement holds
  simp only [markRefunded, Billing.updateWhere_eq_ok, Stored.table, Stored.install] at hmark
  obtain ⟨allocations, hallocations, rfl⟩ := hmark
  have hexact : b₁.allocations.update? a.id (fun x : Allocation =>
      { x with refundedAmount := x.refundedAmount + (a.amount - a.refundedAmount) })
        = some allocations := by
    rw [← hallocations]
    exact Table.update?_of_guarded (Table.find?_of_mem ha₁) (by
      simp only [decide_eq_true_eq]
      omega)
  have hmarked := Moves.updateAllocation hm.linked (Table.find?_of_mem ha₁) hexact
    (fun _ => rfl) List.not_mem_nil
  have hframe : CreditFrame b₁ { b₁ with allocations := allocations } :=
    .updateAllocations hexact fun _ => rfl
  refine ⟨(hm.trans hmarked).congr (fun lotId => ?_) fun orderId => ?_,
    hkept.frame.trans hframe, fun r hr hrkey hne => ?_⟩
  · simp only [Pi.add_apply, Pi.zero_apply, Moves.lotShift, Allocation.outstanding]
    split <;> omega
  · have hcollects : collectsFor b₁ orderId a = false :=
      (hdebit.frame hkept.frame).collectsFor hkey
    simp [Moves.debtShift, hcollects]
  · change r ∈ allocations.rows
    rw [Table.update?_eq_some.1 hexact]
    exact List.mem_map.2 ⟨r, hkept.untouched r hr (by rw [hrkey]; exact List.mem_cons_self),
      if_neg hne⟩

/-- One iteration of a refund: an outstanding allocation is reversed and marked. -/
structure RefundsAllocation (tx : Tx) (account : Account) (key : String) (a : Allocation)
    (restored : Nat) (b b₁ b' : Billing) : Prop where
  row : a ∈ b.allocations.rows
  debitKey : a.debitKey = key
  pending : a.refundedAmount < a.amount
  restore : ∃ fuel, restoreAllocationEffect tx account fuel b a.source
    (a.amount - a.refundedAmount) s!"usage-refund:{key}" .usageRefund [key] = .ok (b₁, restored)
  mark : markRefunded b₁ a.id (a.amount - a.refundedAmount) = .ok b'

/-- **Loop rule** for the allocations of a product debit: an invariant of the allocations
    still to come, the atoms restored so far and the state. -/
theorem refundAllocations_rule {account : Account} {fuel total total' : Nat} {key : String}
    {rows : List Allocation} {P : List Allocation → Nat → Billing → Prop}
    (hskip : ∀ a rest total s, a.amount - a.refundedAmount = 0 → P (a :: rest) total s →
      P rest total s)
    (hstep : ∀ a rest total s s₁ s' restored, PackState s → ProductDebit s key →
      RefundsAllocation tx account key a restored s s₁ s' → P (a :: rest) total s →
      P rest (total + restored) s')
    (hs : PackState b) (hdebit : ProductDebit b key)
    (hrows : ∀ a ∈ rows, a ∈ b.allocations.rows ∧ a.debitKey = key)
    (hnodup : (rows.map Allocation.id).Nodup) (hstart : P rows total b)
    (h : refundAllocations (restoreAllocationEffect tx account fuel) key rows (b, total) =
      .ok (b', total')) : PackState b' ∧ ProductDebit b' key ∧ P [] total' b' := by
  -- induction on the allocations still to come; their rows are kept by the steps before them
  induction rows generalizing b total with
  | nil =>
    cases h
    exact ⟨hs, hdebit, hstart⟩
  | cons a rest ih =>
    rw [List.map_cons, List.nodup_cons] at hnodup
    obtain ⟨ha, hkey⟩ := hrows a List.mem_cons_self
    have hrest : ∀ r ∈ rest, r ∈ b.allocations.rows ∧ r.debitKey = key := fun r hr =>
      hrows r (List.mem_cons_of_mem _ hr)
    simp only [refundAllocations] at h
    split at h
    -- an allocation refunded in full is skipped
    case isTrue hzero => exact ih hs hdebit hrest hnodup.2 (hskip a rest total b hzero hstart) h
    case isFalse hpending =>
      simp only [bind_eq_ok] at h
      obtain ⟨⟨b₁, restored⟩, hrestore, b₂, hmark, h⟩ := h
      obtain ⟨hm, hf, hkept⟩ :=
        refundAllocation_moves hs.linked hs.fit hdebit ha hkey hrestore hmark
      -- the step marks one allocation, so the others are still the rows they were
      have hrest₂ : ∀ r ∈ rest, r ∈ b₂.allocations.rows ∧ r.debitKey = key := by
        intro r hr
        have hne : r.id ≠ a.id := fun heq => hnodup.1 (heq ▸ List.mem_map_of_mem hr)
        exact ⟨hkept r (hrest r hr).1 (hrest r hr).2 hne, (hrest r hr).2⟩
      have hnext := hstep a rest total b b₁ b₂ restored hs hdebit
        ⟨ha, hkey, by omega, ⟨fuel, hrestore⟩, hmark⟩ hstart
      exact ih (hs.of_moves hf hm) (hdebit.frame hf) hrest₂ hnodup.2 hnext h

/-- The allocations a refund reverses are those of its debit. -/
theorem debitAllocations_spec (b : Billing) (key : String) :
    (∀ a ∈ Table.orderBy Allocation.id (b.allocations.select (·.debitKey = key)),
      a ∈ b.allocations.rows ∧ a.debitKey = key) ∧
    ((Table.orderBy Allocation.id (b.allocations.select (·.debitKey = key))).map
      Allocation.id).Nodup := by
  have hperm := Table.orderBy_perm Allocation.id (b.allocations.select (·.debitKey = key))
  refine ⟨fun a ha => ?_, ?_⟩
  · have hmem := List.mem_filter.1 (hperm.mem_iff.1 ha)
    exact ⟨hmem.1, of_decide_eq_true hmem.2⟩
  · rw [(hperm.map Allocation.id).nodup_iff]
    exact b.allocations.valid.keys_nodup.sublist (List.filter_sublist.map _)

/-- **Rule for the reversal of a debit**: an invariant of the state that single returns and
    single reversals keep. -/
theorem reverseDebit_rule {account : Account} {debit : Debit} {key : String} {restored : Nat}
    {P : Billing → Prop}
    (hreturn : ∀ s s' n, PackState s → returnSubscriptionAtoms tx s account n
      s!"usage-refund:{key}" .usageRefund = .ok (s', n) → P s → P s')
    (hstep : ∀ a s s₁ s' restored, PackState s → ProductDebit s key →
      RefundsAllocation tx account key a restored s s₁ s' → P s → P s')
    (hs : PackState b) (hdebit : ProductDebit b key) (hb : P b)
    (h : reverseDebit tx b account debit key = .ok (b', restored)) : PackState b' ∧ P b' := by
  unfold reverseDebit at h
  -- a debit without allocations predates them: its atoms return to the subscription balance
  cases hrows : Table.orderBy Allocation.id (b.allocations.select (·.debitKey = key)) with
  | nil =>
    simp only [hrows] at h
    split at h
    · have hstate := hs.of_moves (returnSubscriptionAtoms_frame (.inl rfl) h)
        (.returnSubscriptionAtoms hs.linked h)
      rcases returnSubscriptionAtoms_eq_ok h with ⟨-, rfl, -⟩ | ⟨-, rfl, -⟩
      · exact ⟨hs, hb⟩
      · exact ⟨hstate, hreturn _ _ _ hs h hb⟩
    · rw [pure_eq_ok] at h
      cases h
      exact ⟨hs, hb⟩
  -- otherwise each allocation is restored, under the loop rule
  | cons first rest =>
    simp only [hrows] at h
    have hspec := debitAllocations_spec b key
    rw [hrows] at hspec
    obtain ⟨hstate, -, hend⟩ := refundAllocations_rule (P := fun _ _ s => P s)
      (fun _ _ _ _ _ hp => hp) (fun a _ _ s s₁ s' r hs hd hrefund hp => hstep a s s₁ s' r hs hd hrefund hp)
      hs hdebit hspec.1 hspec.2 hb h
    exact ⟨hstate, hend⟩

/-- **Rule for refunds**: an invariant that expiry, single returns, single reversals and the
    refund facts of the debit keep. -/
theorem refund_rule {printable : Char → Bool} {idempotencyKey : String}
    {expectedAccountId : Option String} {result : CreditResult} {P : Billing → Prop}
    (hexpired : ∀ accountId s' expired,
      expireAccountPackLots b accountId tx.wall = .ok (s', expired) → P s')
    (hreturn : ∀ account s s' n, PackState s → returnSubscriptionAtoms tx s account n
      s!"usage-refund:{idempotencyKey}" .usageRefund = .ok (s', n) → P s → P s')
    (hstep : ∀ account a s s₁ s' restored, PackState s → ProductDebit s idempotencyKey →
      RefundsAllocation tx account idempotencyKey a restored s s₁ s' → P s → P s')
    (hmark : ∀ s debits f, PackState s → s.debits.update? idempotencyKey f = some debits →
      (∀ d, (f d).static = d.static) → P s → P { s with debits := debits })
    (hs : PackState b)
    (h : refund printable tx b idempotencyKey expectedAccountId = .ok (b', result)) :
    PackState b' ∧ P b' := by
  obtain ⟨account, b₁, expired, debit, -, hexpire, hdebit, -, hkind, hcase⟩ := refund_eq_ok h
  obtain ⟨hm₁, hf₁⟩ := expireAccountPackLots_moves hs.linked hexpire
  have hs₁ := hs.of_moves hf₁ hm₁
  have hp₁ := hexpired account.id b₁ expired hexpire
  rcases hcase with ⟨-, rfl, -⟩ | ⟨-, b₂, restored, debits, hreverse, hdebits, rfl, -⟩
  · exact ⟨hs₁, hp₁⟩
  · obtain ⟨hs₂, hp₂⟩ := reverseDebit_rule (fun s s' n => hreturn account s s' n)
      (fun a s s₁ s' r => hstep account a s s₁ s' r) hs₁ ⟨debit, hdebit, hkind⟩ hp₁ hreverse
    exact ⟨hs₂.of_moves (.updateDebit hdebits fun _ => rfl)
      (.updateDebit hs₂.linked hdebits fun _ => rfl), hmark _ _ _ hs₂ hdebits (fun _ => rfl) hp₂⟩

/-- A refund, replayed or not, keeps consistent pack tables consistent. -/
theorem refund_packState {printable : Char → Bool} {idempotencyKey : String}
    {expectedAccountId : Option String} {result : CreditResult} (hs : PackState b)
    (h : refund printable tx b idempotencyKey expectedAccountId = .ok (b', result)) :
    PackState b' :=
  (refund_rule (P := fun _ => True) (fun _ _ _ _ => trivial) (fun _ _ _ _ _ _ _ => trivial)
    (fun _ _ _ _ _ _ _ _ _ _ => trivial) (fun _ _ _ _ _ _ _ => trivial) hs h).1

end StripeEntitlements
