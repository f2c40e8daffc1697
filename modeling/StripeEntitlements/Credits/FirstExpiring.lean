import StripeEntitlements.Credits.PackOperations
import StripeEntitlements.Relational.Draws

/-!
# First Expiring First

What a charge with a fresh key does. It succeeds exactly when the amount is positive and
covered by the active lots that have not expired and the spendable subscription balance, and
it empties its sources in the order of their expiry.

## Main results

- `chargeSources_sum` — the sources hold the total balance
- `charge_covered` — a covered charge draws from the first sources
- `covered_of_charge` — no other charge succeeds
- `charge_replayed` — a key that was used before
-/

namespace StripeEntitlements

open Relational

variable {tx : Tx} {b b' : Billing} {account : Account} {key : String}

/-- `total_balance_atoms`. -/
def totalBalanceAtoms (b : Billing) (account : Account) (asOf : Int) : Nat :=
  spendableSubscriptionAtoms account asOf + packBalanceAtoms b account.id asOf

/-! ## Lazy expiry -/

/-- A lot after `_expire_account_pack_lots`. -/
def FundingLot.lapse (accountId : String) (asOf : Int) (l : FundingLot) : FundingLot :=
  if l.accountId = accountId && l.status = .active && l.expiresAt ≤ asOf then l.expire asOf else l

theorem FundingLot.check_expire {l : FundingLot} (asOf : Int) (h : Relation.check l = true) :
    Relation.check (l.expire asOf) = true := by
  simp only [Relation.check, Bool.and_eq_true, decide_eq_true_eq] at h
  obtain ⟨⟨⟨hpos, hle⟩, -⟩, -⟩ := h
  have hstock : l.expiredCredits + l.remainingCredits + l.cashClawedBackCredits ≤
      l.originalCredits := by omega
  simp [Relation.check, FundingLot.expire, hpos, hstock]

theorem FundingLot.check_less {l : FundingLot} (used : Nat) (h : Relation.check l = true) :
    Relation.check { l with remainingCredits := l.remainingCredits - used } = true := by
  simp only [Relation.check, Bool.and_eq_true, Bool.or_eq_true, decide_eq_true_eq] at h
  obtain ⟨⟨⟨hpos, hle⟩, hclosed⟩, hterminal⟩ := h
  have hstock : l.remainingCredits - used + l.expiredCredits + l.cashClawedBackCredits ≤
      l.originalCredits := by omega
  have hempty : l.status = .active ∨ l.remainingCredits - used = 0 := by
    refine hterminal.imp_right fun hzero => ?_
    rw [hzero, Nat.zero_sub]
  rw [hclosed] at hempty
  simpa [Relation.check, hpos, hstock, hclosed] using hempty

/-- Lazy expiry never fails. -/
theorem expireAccountPackLots_ok (b : Billing) (accountId : String) (asOf : Int) :
    ∃ lots expired, expireAccountPackLots b accountId asOf = .ok ({ b with lots := lots }, expired) ∧
      lots.rows = b.lots.rows.map (FundingLot.lapse accountId asOf) := by
  obtain ⟨lots, hlots⟩ := Table.updateWhere?_isSome (t := b.lots)
    (p := fun l : FundingLot => l.accountId = accountId && l.status = .active && l.expiresAt ≤ asOf)
    (f := FundingLot.expire asOf) (fun _ => rfl)
    (fun l hl _ => FundingLot.check_expire asOf (b.lots.valid.checked l hl))
    (by simp [Relation.indexes, FundingLot.expire])
  have hupdate : b.updateWhere
      (fun l : FundingLot => l.accountId = accountId && l.status = .active && l.expiresAt ≤ asOf)
      (FundingLot.expire asOf) = .ok { b with lots := lots } :=
    Billing.updateWhere_eq_ok.2 ⟨lots, hlots, rfl⟩
  simp only [expireAccountPackLots, hupdate]
  exact ⟨lots, _, rfl, Table.updateWhere?_eq_some.1 hlots⟩

/-- Lazy expiry leaves the spendable lots alone. -/
theorem spendableLots_lapse {lots : Table FundingLot} {accountId : String} {asOf : Int}
    (h : lots.rows = b.lots.rows.map (FundingLot.lapse accountId asOf)) :
    spendableLots { b with lots := lots } accountId asOf = spendableLots b accountId asOf := by
  have hselect : ∀ rows : List FundingLot,
      (rows.map (FundingLot.lapse accountId asOf)).filter (fun l =>
        l.accountId = accountId && l.status = .active && asOf < l.expiresAt) =
      rows.filter fun l => l.accountId = accountId && l.status = .active && asOf < l.expiresAt := by
    intro rows
    induction rows with
    | nil => rfl
    | cons l rows ih =>
      rw [List.map_cons, List.filter_cons, List.filter_cons, ih]
      by_cases hdue : l.accountId = accountId ∧ l.status = .active ∧ l.expiresAt ≤ asOf
      · obtain ⟨howner, hactive, hpast⟩ := hdue
        simp [FundingLot.lapse, howner, hactive, hpast, FundingLot.expire]
      · have hkept : l.lapse accountId asOf = l := by
          refine if_neg fun h => hdue ?_
          simpa [and_assoc] using h
        rw [hkept]
  unfold spendableLots Table.select
  rw [h, hselect]

/-! ## The sources -/

/-- The subscription as a source, where it has something to spend. -/
def subscriptionSource (account : Account) (asOf : Int) : List ChargeSource :=
  match account.creditExpiresAt with
  | some expiresAt =>
      if subscriptionCreditsAreSpendable account asOf && 0 < account.creditsBalance then
        [ChargeSource.subscription account expiresAt]
      else []
  | none => []

theorem chargeSources_perm (account : Account) (lots : List FundingLot) (asOf : Int) :
    (chargeSources account lots asOf).Perm
      ((lots.filter (0 < ·.remainingCredits)).map ChargeSource.creditPack ++
        subscriptionSource account asOf) := Table.orderBy_perm _ _

theorem chargeSources_sorted (account : Account) (lots : List FundingLot) (asOf : Int) :
    (chargeSources account lots asOf).Pairwise fun s t => s.sortKey ≤ t.sortKey :=
  Table.orderBy_pairwise _ _

theorem mem_subscriptionSource {asOf : Int} {source : ChargeSource} :
    source ∈ subscriptionSource account asOf ↔
      ∃ expiresAt, account.creditExpiresAt = some expiresAt ∧
        source = .subscription account expiresAt ∧
        subscriptionCreditsAreSpendable account asOf = true ∧ 0 < account.creditsBalance := by
  unfold subscriptionSource
  cases account.creditExpiresAt with
  | none => simp
  | some expiresAt =>
    simp only [Option.some.injEq]
    split
    case isTrue h => simp_all
    case isFalse h => simp_all

theorem subscriptionSource_sum (account : Account) (asOf : Int) :
    ((subscriptionSource account asOf).map ChargeSource.available).sum =
      spendableSubscriptionAtoms account asOf := by
  unfold subscriptionSource spendableSubscriptionAtoms
  cases hexpires : account.creditExpiresAt with
  | none => simp [subscriptionCreditsAreSpendable, hexpires]
  | some expiresAt =>
    cases hspendable : subscriptionCreditsAreSpendable account asOf with
    | false => simp
    | true =>
      rcases Nat.eq_zero_or_pos account.creditsBalance with hzero | hpos
      · simp [hzero]
      · simp [hpos, ChargeSource.available]

theorem packSources_sum (lots : List FundingLot) :
    (((lots.filter (0 < ·.remainingCredits)).map ChargeSource.creditPack).map
      ChargeSource.available).sum = (lots.map FundingLot.remainingCredits).sum := by
  induction lots with
  | nil => rfl
  | cons l lots ih =>
    by_cases hpos : 0 < l.remainingCredits
    · simp only [List.filter_cons, hpos, decide_true, if_true, List.map_cons, List.sum_cons, ih,
        ChargeSource.available]
    · have hzero : l.remainingCredits = 0 := by omega
      simp only [List.filter_cons, hzero, lt_irrefl, decide_false, Bool.false_eq_true, if_false, ih,
        List.map_cons, List.sum_cons, zero_add]

/-- **The sources** hold the total balance. -/
theorem chargeSources_sum (b : Billing) (account : Account) (asOf : Int) :
    ((chargeSources account (spendableLots b account.id asOf) asOf).map
      ChargeSource.available).sum = totalBalanceAtoms b account asOf := by
  rw [((chargeSources_perm _ _ _).map _).sum_eq, List.map_append, List.sum_append, packSources_sum,
    subscriptionSource_sum, totalBalanceAtoms, packBalanceAtoms, Nat.add_comm]

theorem chargeSources_pos {lots : List FundingLot} {asOf : Int} :
    ∀ source ∈ chargeSources account lots asOf, 0 < source.available := by
  intro source hsource
  rcases List.mem_append.1 ((chargeSources_perm _ _ _).mem_iff.1 hsource) with hpack | hsubscription
  · obtain ⟨l, hl, rfl⟩ := List.mem_map.1 hpack
    have hpos := List.of_mem_filter hl
    exact of_decide_eq_true hpos
  · obtain ⟨_, -, rfl, -, hpos⟩ := mem_subscriptionSource.1 hsubscription
    exact hpos

/-! ## Drawing -/

def FundingSource.lotId : FundingSource → Option String
  | .creditPack lotId => some lotId
  | .subscription _ => none

/-- What an allocation of this source names. -/
def ChargeSource.fundingSource (account : Account) : ChargeSource → FundingSource
  | .creditPack lot => .creditPack lot.id
  | .subscription _ _ => .subscription account.grantEpoch

theorem ChargeSource.fundingSource_lotId (account : Account) (source : ChargeSource) :
    (source.fundingSource account).lotId = source.lotId := by
  cases source <;> rfl

/-- What is drawn from one lot, or without a lot from the subscription. -/
def drawnFrom (taken : List (ChargeSource × Nat)) (lotId : Option String) : Nat :=
  drawn (taken.filter fun d => d.1.lotId = lotId)

theorem drawnFrom_cons (d : ChargeSource × Nat) (taken : List (ChargeSource × Nat))
    (lotId : Option String) :
    drawnFrom (d :: taken) lotId =
      (if d.1.lotId = lotId then d.2 else 0) + drawnFrom taken lotId := by
  unfold drawnFrom
  rw [List.filter_cons]
  by_cases h : d.1.lotId = lotId
  · simp [h]
  · simp [h]

/-- A lot after these draws. -/
def FundingLot.draw (taken : List (ChargeSource × Nat)) (l : FundingLot) : FundingLot :=
  { l with remainingCredits := l.remainingCredits - drawnFrom taken (some l.id) }

theorem FundingLot.draw_nil (l : FundingLot) : l.draw [] = l := rfl

/-- The rows of the sources still to draw from are exact, distinct and not yet allocated. -/
structure Drawing (account : Account) (key : String) (sources : List ChargeSource) (b : Billing) :
    Prop where
  current : ∀ lot, ChargeSource.creditPack lot ∈ sources → b.lots.find? lot.id = some lot
  owned : ∀ lot, ChargeSource.creditPack lot ∈ sources → lot.accountId = account.id
  distinct : (sources.map ChargeSource.lotId).Nodup
  unallocated : ∀ a ∈ b.allocations.rows, a.debitKey = key →
    ∀ source ∈ sources, a.source.lotId ≠ source.lotId

/-- The allocations of these draws. -/
abbrev Allocates (account : Account) (key : String) (rows : List Allocation)
    (taken : List (ChargeSource × Nat)) : Prop :=
  List.Forall₂ (fun (a : Allocation) (d : ChargeSource × Nat) => a.debitKey = key ∧
    a.accountId = account.id ∧ a.source = d.1.fundingSource account ∧ a.amount = d.2 ∧
    a.refundedAmount = 0) rows taken

/-- The tables after these draws. -/
structure DrawnTables (account : Account) (key : String) (taken : List (ChargeSource × Nat))
    (b b' : Billing) : Prop where
  lots : b'.lots.rows = b.lots.rows.map (FundingLot.draw taken)
  allocations : ∃ rows, b'.allocations.rows = b.allocations.rows ++ rows ∧
    Allocates account key rows taken
  rest : b' = { b with lots := b'.lots, allocations := b'.allocations }

theorem DrawnTables.refl (account : Account) (key : String) (b : Billing) :
    DrawnTables account key [] b b where
  lots := by
    rw [show FundingLot.draw [] = fun l => l from funext FundingLot.draw_nil, List.map_id']
  allocations := ⟨[], (List.append_nil _).symm, .nil⟩
  rest := rfl

theorem DrawnTables.cons {d : ChargeSource × Nat} {taken : List (ChargeSource × Nat)}
    {b₁ : Billing} (h : DrawnTables account key [d] b b₁)
    (h' : DrawnTables account key taken b₁ b') : DrawnTables account key (d :: taken) b b' where
  lots := by
    rw [h'.lots, h.lots, List.map_map]
    refine List.map_congr_left fun l _ => ?_
    simp only [Function.comp_apply, FundingLot.draw, drawnFrom_cons]
    have hnil : drawnFrom [] (some l.id) = 0 := rfl
    rw [hnil, Nat.add_zero, Nat.sub_sub]
  allocations := by
    obtain ⟨rows, hrows, hfor⟩ := h.allocations
    obtain ⟨rows', hrows', hfor'⟩ := h'.allocations
    refine ⟨rows ++ rows', ?_, List.rel_append hfor hfor'⟩
    rw [hrows', hrows, List.append_assoc]
  rest := by
    rw [h'.rest, h.rest]

/-- An index tuple of an allocation names its debit and its lot. -/
theorem Allocation.index_eq {ix : Allocation → Option (List String)}
    (hix : ix ∈ (Relation.indexes : List (Allocation → Option (List String)))) {a a' : Allocation}
    {x : List String} (h : ix a = some x) (h' : ix a' = some x) :
    a.debitKey = a'.debitKey ∧ a.source.lotId = a'.source.lotId := by
  simp only [Relation.indexes, List.mem_cons, List.not_mem_nil, or_false] at hix
  rcases hix with rfl | rfl
  all_goals
    cases hsource : a.source <;> cases hsource' : a'.source <;>
      simp only [hsource, hsource', reduceCtorEq, Option.some.injEq] at h h'
  · rw [← h', List.cons.injEq] at h
    exact ⟨h.1, rfl⟩
  · rw [← h', List.cons.injEq, List.cons.injEq] at h
    exact ⟨h.1, congrArg some h.2.1⟩

/-- A source that the debit does not draw from yet can be allocated. -/
theorem insertAllocation_ok (source : ChargeSource) {used : Nat} (hused : 0 < used)
    (hlot : b.lotReferenced account.id (source.fundingSource account) = true)
    (hnew : ∀ a ∈ b.allocations.rows, a.debitKey = key → a.source.lotId ≠ source.lotId) :
    ∃ t, b.insertAllocation key account.id (source.fundingSource account) used =
        .ok { b with allocations := t } ∧
      t.rows = b.allocations.rows ++
        [b.newAllocation key account.id (source.fundingSource account) used] := by
  obtain ⟨t, ht⟩ := Table.insert?_isSome (t := b.allocations)
    (r := b.newAllocation key account.id (source.fundingSource account) used)
    (Table.find?_eq_none_iff.2 fun a ha => Nat.ne_of_lt (lt_nextSerial ha))
    (by simp [Relation.check, Billing.newAllocation, hused]) (by
      intro ix hix x hx a ha hax
      obtain ⟨hkey, heq⟩ := Allocation.index_eq hix hax hx
      refine hnew a ha hkey ?_
      rw [heq]
      exact source.fundingSource_lotId account)
  exact ⟨t, Billing.insertAllocation_eq_ok.2 ⟨hlot, t, ht, rfl⟩, Table.insert?_eq_some.1 ht⟩

/-- Allocating leaves the other sources as they were. -/
theorem Drawing.tail {source : ChargeSource} {sources : List ChargeSource}
    (h : Drawing account key (source :: sources) b) {used : Nat}
    {lots : Table FundingLot} {t : Table Allocation}
    (hlots : ∀ lot, ChargeSource.creditPack lot ∈ sources → lots.find? lot.id = some lot)
    (ht : t.rows = b.allocations.rows ++
      [b.newAllocation key account.id (source.fundingSource account) used]) :
    Drawing account key sources { b with lots := lots, allocations := t } where
  current := hlots
  owned lot hlot := h.owned lot (List.mem_cons_of_mem _ hlot)
  distinct := (List.nodup_cons.1 h.distinct).2
  unallocated a ha hkey s hs := by
    change a ∈ t.rows at ha
    rw [ht, List.mem_append, List.mem_singleton] at ha
    rcases ha with ha | rfl
    · exact h.unallocated a ha hkey s (List.mem_cons_of_mem _ hs)
    · intro heq
      refine (List.nodup_cons.1 h.distinct).1 (List.mem_map.2 ⟨s, hs, ?_⟩)
      rw [← heq]
      exact source.fundingSource_lotId account

/-- **One draw** succeeds, and takes what it allocates. The rows that a source is drawn from are
    distinct from those of the sources behind it, so the rest can be drawn as before. -/
theorem Drawing.step {source : ChargeSource} {sources : List ChargeSource} {used : Nat}
    (total left : Nat) (h : Drawing account key (source :: sources) b) (hused : 0 < used)
    (hle : used ≤ source.available) :
    ∃ b₁, drawFromSource account key (b, total) source used left =
        .ok (b₁, total + drawnFrom [(source, used)] none) ∧
      DrawnTables account key [(source, used)] b b₁ ∧ Drawing account key sources b₁ := by
  -- the allocation of each source still ahead is new to this debit
  have hnew := fun a ha hkey => h.unallocated a ha hkey source List.mem_cons_self
  cases source with
  | subscription a expiresAt =>
    obtain ⟨t, hinsert, ht⟩ := insertAllocation_ok (b := b)
      (.subscription a expiresAt) hused rfl hnew
    -- a draw from the balance allocates atoms and leaves every lot as it is
    have hlots : b.lots.rows.map (FundingLot.draw [(.subscription a expiresAt, used)]) =
        b.lots.rows := by
      have hid : FundingLot.draw [(.subscription a expiresAt, used)] = fun l => l := by
        funext l
        simp [FundingLot.draw, drawnFrom, ChargeSource.lotId]
      rw [hid, List.map_id']
    refine ⟨{ b with allocations := t }, ?_, ⟨hlots.symm, ⟨_, ht, ?_⟩, rfl⟩, ?_⟩
    · have hdrawn : drawnFrom [(ChargeSource.subscription a expiresAt, used)] none = used := by
        simp [drawnFrom, ChargeSource.lotId]
      have hinsert' : b.insertAllocation key account.id (.subscription account.grantEpoch) used =
        .ok { b with allocations := t } := hinsert
      simp only [drawFromSource, hinsert', hdrawn]
      rfl
    · exact .cons ⟨rfl, rfl, rfl, rfl, rfl⟩ .nil
    · exact h.tail (fun lot hlot => h.current lot (List.mem_cons_of_mem _ hlot)) ht
  | creditPack lot =>
    have hfind := h.current lot List.mem_cons_self
    have hroom : used ≤ lot.remainingCredits := hle
    obtain ⟨lots, hlots⟩ := Table.updateWhere?_isSome (t := b.lots)
      (p := fun l : FundingLot => l.id = lot.id && used ≤ l.remainingCredits)
      (f := fun l => { l with remainingCredits := l.remainingCredits - used }) (fun _ => rfl)
      (fun l hl _ => FundingLot.check_less used (b.lots.valid.checked l hl))
      (by simp [Relation.indexes])
    -- the guarded update writes the lot itself: it is current, and its id is unique
    have hrows : lots.rows = b.lots.rows.map (FundingLot.draw [(.creditPack lot, used)]) := by
      rw [Table.updateWhere?_eq_some.1 hlots]
      refine List.map_congr_left fun l hl => ?_
      by_cases hid : l.id = lot.id
      · obtain rfl : l = lot := b.lots.eq_of_key_eq hl (Table.find?_mem hfind) hid
        simp [FundingLot.draw, drawnFrom, ChargeSource.lotId, hroom]
      · simp [FundingLot.draw, drawnFrom, ChargeSource.lotId, hid, Ne.symm hid]
    -- the lots of the sources still ahead have other ids, so they stay current
    have hothers : ∀ l, ChargeSource.creditPack l ∈ sources → lots.find? l.id = some l := by
      intro l hl
      have hne : l.id ≠ lot.id := by
        intro heq
        refine (List.nodup_cons.1 h.distinct).1 (List.mem_map.2 ⟨_, hl, ?_⟩)
        exact congrArg some heq
      rw [Table.find?_updateWhere hlots (fun _ => rfl),
        h.current l (List.mem_cons_of_mem _ hl)]
      simp [hne]
    -- the allocation's foreign key: the lot drawn from is still the account's own
    have hreferenced : ({ b with lots := lots } : Billing).lotReferenced account.id
        (.creditPack lot.id) = true := by
      change (lots.find? lot.id).any (fun l : FundingLot => l.accountId = account.id) = true
      rw [Table.find?_updateWhere hlots (fun _ => rfl), hfind]
      simpa [hroom] using h.owned lot List.mem_cons_self
    obtain ⟨t, hinsert, ht⟩ := insertAllocation_ok (b := { b with lots := lots })
      (.creditPack lot) hused hreferenced hnew
    refine ⟨{ b with lots := lots, allocations := t }, ?_, ⟨hrows, ⟨_, ht, ?_⟩, rfl⟩, ?_⟩
    · have hdrawn : drawnFrom [(ChargeSource.creditPack lot, used)] none = 0 := by
        simp [drawnFrom, ChargeSource.lotId]
      have hupdate : b.updateWhere (fun l : FundingLot => l.id = lot.id && used ≤ l.remainingCredits)
          (fun l => { l with remainingCredits := l.remainingCredits - used }) =
          .ok { b with lots := lots } := Billing.updateWhere_eq_ok.2 ⟨lots, hlots, rfl⟩
      have hinsert' : ({ b with lots := lots } : Billing).insertAllocation key account.id
          (.creditPack lot.id) used = .ok { b with lots := lots, allocations := t } := hinsert
      simp only [drawFromSource, hupdate, hdrawn]
      simp only [bind, Except.bind, hinsert']
      rfl
    · exact .cons ⟨rfl, rfl, rfl, rfl, rfl⟩ .nil
    · exact h.tail hothers ht

theorem drawnFrom_append (d : ChargeSource × Nat) (taken : List (ChargeSource × Nat))
    (lotId : Option String) :
    drawnFrom (d :: taken) lotId = drawnFrom [d] lotId + drawnFrom taken lotId := by
  rw [drawnFrom_cons, drawnFrom_cons]
  rfl

/-- **All draws** succeed. -/
theorem Drawing.run {taken : List (ChargeSource × Nat)} {rest : List ChargeSource} (total : Nat)
    (h : Drawing account key (taken.map Prod.fst ++ rest) b)
    (htaken : ∀ d ∈ taken, 0 < d.2 ∧ d.2 ≤ d.1.available) :
    ∃ b', taken.foldlM (fun s d => drawFromSource account key s d.1 d.2 0) (b, total) =
        .ok (b', total + drawnFrom taken none) ∧
      DrawnTables account key taken b b' ∧ Drawing account key rest b' := by
  induction taken generalizing b total with
  | nil => exact ⟨b, rfl, .refl account key b, h⟩
  | cons d taken ih =>
    obtain ⟨source, used⟩ := d
    obtain ⟨hpos, hle⟩ := htaken _ List.mem_cons_self
    obtain ⟨b₁, hrun, htables, hdrawing⟩ := h.step total 0 hpos hle
    obtain ⟨b', hrest, htables', hdrawing'⟩ :=
      ih (total + drawnFrom [(source, used)] none) hdrawing fun d hd =>
        htaken d (List.mem_cons_of_mem _ hd)
    refine ⟨b', ?_, htables.cons htables', hdrawing'⟩
    rw [List.foldlM_cons]
    change (drawFromSource account key (b, total) source used 0 >>= _) = _
    rw [hrun, drawnFrom_append (source, used) taken, ← Nat.add_assoc]
    exact hrest

/-- The sources of a fresh debit. -/
theorem chargeSources_drawing (account : Account) (asOf : Int)
    (hfresh : ∀ a ∈ b.allocations.rows, a.debitKey ≠ key) :
    Drawing account key (chargeSources account (spendableLots b account.id asOf) asOf) b where
  -- the pack sources are the selected lots themselves; one more source may stand for the balance
  current := (chargeSources_drawable account account.id asOf b).current
  owned lot hlot := by
    rcases List.mem_append.1 ((chargeSources_perm _ _ _).mem_iff.1 hlot) with hpack | hsubscription
    -- a lot source was selected by its account
    · obtain ⟨l, hl, heq⟩ := List.mem_map.1 hpack
      cases heq
      have hselected := Table.mem_orderBy.1 (List.mem_of_mem_filter hl)
      have howner := List.of_mem_filter hselected
      simp only [Bool.and_eq_true, decide_eq_true_eq] at howner
      exact howner.1.1
    · obtain ⟨_, -, heq, -⟩ := mem_subscriptionSource.1 hsubscription
      cases heq
  distinct := by
    -- the ids of the lots are distinct, and the balance has no lot id
    have hpacks := (chargeSources_drawable account account.id asOf b).nodup
    rw [((chargeSources_perm _ _ _).map _).nodup_iff, List.map_append, List.nodup_append]
    rw [((chargeSources_perm _ _ _).filterMap _).nodup_iff, List.filterMap_append] at hpacks
    have hids := (List.nodup_append.1 hpacks).1
    refine ⟨?_, ?_, ?_⟩
    · rw [List.map_map]
      rw [List.filterMap_map] at hids
      have hsome : (ChargeSource.lotId ∘ ChargeSource.creditPack) = some ∘ FundingLot.id := rfl
      rw [hsome, List.filterMap_eq_map] at hids
      rw [hsome, ← List.map_map]
      exact hids.map (Option.some_injective _)
    · unfold subscriptionSource
      split
      · split <;> simp
      · simp
    · intro x hx y hy heq
      obtain ⟨s, hs, rfl⟩ := List.mem_map.1 hx
      obtain ⟨l, -, rfl⟩ := List.mem_map.1 hs
      obtain ⟨t, ht, rfl⟩ := List.mem_map.1 hy
      obtain ⟨_, -, rfl, -⟩ := mem_subscriptionSource.1 ht
      cases heq
  unallocated a ha hkey := absurd hkey (hfresh a ha)

/-! ## Charging -/

/-- What a charge leaves behind. -/
structure Charged (tx : Tx) (account : Account) (key : String) (amount : Nat)
    (taken : List (ChargeSource × Nat)) (b b' : Billing) : Prop where
  lots : b'.lots.rows = b.lots.rows.map fun l => (l.lapse account.id tx.wall).draw taken
  accounts : b'.accounts.rows = b.accounts.rows.map fun a =>
    if a.id = account.id then
      { a with creditsBalance := a.creditsBalance - drawnFrom taken none }
    else a
  debits : b'.debits.rows = b.debits.rows ++ [{
    idempotencyKey := key, accountId := account.id, amount, grantEpoch := account.grantEpoch
    createdAt := tx.now }]
  allocations : ∃ rows, b'.allocations.rows = b.allocations.rows ++ rows ∧
    Allocates account key rows taken
  ledger : ∃ rows, b'.ledger.rows = b.ledger.rows ++ rows ∧
    rows.map (fun r => (r.accountId, r.delta, r.balanceAfter)) =
      if drawnFrom taken none = 0 then []
      else [(account.id, -(drawnFrom taken none : Int),
        account.creditsBalance - drawnFrom taken none)]
  rest : b' = { b with
    lots := b'.lots, accounts := b'.accounts, debits := b'.debits
    allocations := b'.allocations, ledger := b'.ledger }

/-- Paying from the balance never fails. -/
theorem chargeSubscription_ok (hfind : b.accounts.find? account.id = some account) (key : String)
    (used : Nat) :
    ∃ accounts ledger rows, chargeSubscription b account key used =
        .ok { b with accounts := accounts, ledger := ledger } ∧
      accounts.rows = b.accounts.rows.map (fun a =>
        if a.id = account.id then { a with creditsBalance := a.creditsBalance - used } else a) ∧
      ledger.rows = b.ledger.rows ++ rows ∧
      rows.map (fun r => (r.accountId, r.delta, r.balanceAfter)) =
        if used = 0 then [] else [(account.id, -(used : Int), account.creditsBalance - used)] := by
  -- nothing to pay writes nothing; otherwise the account row and one ledger row are written
  by_cases hzero : used = 0
  · refine ⟨b.accounts, b.ledger, [], ?_, ?_, (List.append_nil _).symm, by simp [hzero]⟩
    · rw [chargeSubscription, if_pos hzero]
      rfl
    · have hsame : (fun a : Account => if a.id = account.id then
          { a with creditsBalance := a.creditsBalance - used } else a) = fun a => a := by
        funext a
        split
        · rw [hzero, Nat.sub_zero]
        · rfl
      rw [hsame, List.map_id']
  -- both writes satisfy their relation, so neither raises
  · obtain ⟨accounts, haccounts⟩ := Table.update?_isSome (t := b.accounts) (k := account.id)
      (f := fun a => { a with creditsBalance := account.creditsBalance - used }) (fun _ => rfl)
      (fun _ => rfl) (by simp [Relation.indexes])
    obtain ⟨ledger, hledger⟩ := Table.insert?_isSome (t := b.ledger)
      (r := {
        id := nextSerial LedgerRow.id b.ledger.rows, accountId := account.id, delta := -used
        balanceAfter := account.creditsBalance - used, entitlementUnits := 0
        reason := .usageCharge, grantEpoch := account.grantEpoch
        stripeEventId := s!"usage:{key}" : LedgerRow })
      (Table.find?_eq_none_iff.2 fun r hr => Nat.ne_of_lt (lt_nextSerial hr)) rfl
      (by simp [Relation.indexes])
    refine ⟨accounts, ledger, _, ?_, ?_, Table.insert?_eq_some.1 hledger, ?_⟩
    · have hupdate : b.update account.id (fun a : Account =>
          { a with creditsBalance := account.creditsBalance - used }) =
          .ok { b with accounts := accounts } := Billing.update_eq_ok.2 ⟨accounts, haccounts, rfl⟩
      have hinsert : ({ b with accounts := accounts } : Billing).insertLedger account.id (-used)
          (account.creditsBalance - used) .usageCharge account.grantEpoch s!"usage:{key}" none none 0 =
          .ok { b with accounts := accounts, ledger := ledger } :=
        Billing.insert_eq_ok.2 ⟨ledger, hledger, rfl⟩
      simp only [chargeSubscription, hzero, if_false, hupdate]
      exact hinsert
    -- the row read at the start is the row updated, since the account is found by its key
    · rw [Table.update?_eq_some.1 haccounts]
      refine List.map_congr_left fun a ha => ?_
      by_cases hid : a.id = account.id
      · obtain rfl : a = account := b.accounts.eq_of_key_eq ha (Table.find?_mem hfind) hid
        rfl
      · rw [if_neg hid]
        exact if_neg hid
    · rw [if_neg hzero]
      rfl

variable {printable : Char → Bool} {accountId : String} {amount : Nat}

/-- What a charge finds before it looks at its key. -/
structure Chargeable (printable : Char → Bool) (b : Billing) (accountId key : String)
    (account : Account) : Prop where
  key : validateIdempotencyKey printable key = .ok key
  named : uuidParameter accountId = some account.id
  account : b.accounts.find? account.id = some account

/-- The foreign key of the allocations: a key without a debit has none. -/
theorem unallocated_of_fresh (hdebits : ∀ a ∈ b.allocations.rows, (b.debits.find? a.debitKey).isSome)
    (hfresh : b.debits.find? key = none) : ∀ a ∈ b.allocations.rows, a.debitKey ≠ key := by
  rintro a ha rfl
  have hsome := hdebits a ha
  rw [hfresh] at hsome
  cases hsome

/-- **A covered charge** draws from the first sources: lots that are past their expiry lapse, a
    debit is opened, and the sources are emptied in order up to the one that pays the rest. What is
    written beside the debit follows from what was taken. -/
theorem charge_covered (h : Chargeable printable b accountId key account)
    (hdebits : ∀ a ∈ b.allocations.rows, (b.debits.find? a.debitKey).isSome)
    (hfresh : b.debits.find? key = none) (hpos : 0 < amount)
    (hcovered : amount ≤ totalBalanceAtoms b account tx.wall) (hrange : amount ≤ maxCreditAtoms) :
    ∃ b' taken, charge printable tx b accountId amount key = .ok (b', {
        outcome := .charged, balance := totalBalanceAtoms b account tx.wall - amount
        requested := amount }) ∧
      FirstDrawn ChargeSource.available
        (chargeSources account (spendableLots b account.id tx.wall) tx.wall) amount taken ∧
      Charged tx account key amount taken b b' := by
  -- every write of the charge is shown to satisfy its relation, so no branch raises
  obtain ⟨lots, expired, hexpire, hlots⟩ := expireAccountPackLots_ok b account.id tx.wall
  let sources := chargeSources account (spendableLots b account.id tx.wall) tx.wall
  -- the sources add up to the balance, so a covered amount is drawn from the first of them
  have hsum := chargeSources_sum b account tx.wall
  have hfirst : FirstDrawn ChargeSource.available sources amount
      (draws ChargeSource.available sources amount) :=
    draws_first chargeSources_pos hpos (hsum ▸ hcovered)
  -- lapsing expired lots does not change which lots can be spent
  have hspendable := spendableLots_lapse (b := b) hlots
  obtain ⟨debits, hinsert⟩ := Table.insert?_isSome (t := b.debits)
    (r := { idempotencyKey := key, accountId := account.id, amount
            grantEpoch := account.grantEpoch, createdAt := tx.now : Debit })
    hfresh (by simp [Relation.check, hpos]) (by simp [Relation.indexes])
  let b₁ : Billing := { b with lots := lots, debits := debits }
  have hdrawing : Drawing account key sources b₁ := by
    -- a fresh debit has no allocation, by the foreign key of the allocations
    have hfresh' : ∀ a ∈ b₁.allocations.rows, a.debitKey ≠ key :=
      unallocated_of_fresh (b := b) hdebits hfresh
    have hd := chargeSources_drawing (b := b₁) account tx.wall hfresh'
    have heq : spendableLots b₁ account.id tx.wall = spendableLots b account.id tx.wall := hspendable
    rwa [heq] at hd
  obtain ⟨rest, hrest⟩ := draws_prefix sources amount
  rw [← hrest] at hdrawing
  -- the draws succeed one by one; the account row is still the one read
  obtain ⟨b₂, hrun, htables, -⟩ := hdrawing.run 0 fun d hd => (mem_draws hd).2
  have haccount : b₂.accounts.find? account.id = some account := by
    rw [htables.rest]
    exact h.account
  obtain ⟨accounts, ledger, rows, hpay, haccounts, hledger, hposted⟩ :=
    chargeSubscription_ok haccount key (drawnFrom (draws ChargeSource.available sources amount) none)
  refine ⟨{ b₂ with accounts := accounts, ledger := ledger },
    draws ChargeSource.available sources amount, ?_, hfirst, ?_⟩
  -- the call evaluated step by step, each `require` met by a hypothesis
  · have hfind : (uuidParameter accountId).bind b.accounts.find? = some account := by
      rw [h.named]
      exact h.account
    have hbody : ∀ s x used left, drawFromSource account key s x used left =
        drawFromSource account key s x used 0 := fun s x used left => by
      -- the body does not look at what is left to draw
      cases x <;> rfl
    have hdrain := drain_eq_foldlM ChargeSource.available hbody sources amount (b₁, 0)
    rw [hrun] at hdrain
    simp only [charge, bind_eq_ok]
    refine ⟨(), require_eq_ok.2 (by simpa using hpos), key, h.key, account, fetch_eq_ok.2 hfind,
      ⟨_, expired⟩, hexpire, (), require_eq_ok.2 (by simpa using hrange), ?_⟩
    dsimp only
    rw [hfresh, hspendable]
    simp only [bind_eq_ok]
    refine ⟨b₁, Billing.insert_eq_ok.2 ⟨debits, hinsert, rfl⟩, (), require_eq_ok.2 ?_, _, hdrain,
      { b₂ with accounts := accounts, ledger := ledger }, ?_, ?_⟩
    · rw [hsum]
      simpa using hcovered
    · rw [Nat.zero_add]
      exact hpay
    · rw [hsum]
      rfl
  -- the draws touch lots and allocations only, so the other columns are as the charge wrote them
  · have hsame : b₂.accounts = b.accounts ∧ b₂.ledger = b.ledger ∧ b₂.debits = debits :=
      ⟨(congrArg Billing.accounts htables.rest :), (congrArg Billing.ledger htables.rest :),
        (congrArg Billing.debits htables.rest :)⟩
    obtain ⟨hsameAccounts, hsameLedger, hsameDebits⟩ := hsame
    rw [hsameAccounts] at haccounts
    rw [hsameLedger] at hledger
    refine ⟨?_, haccounts, ?_, htables.allocations, ⟨rows, hledger, hposted⟩, ?_⟩
    · change b₂.lots.rows = _
      rw [htables.lots]
      change lots.rows.map _ = _
      rw [hlots, List.map_map]
      rfl
    · change b₂.debits.rows = _
      rw [hsameDebits, Table.insert?_eq_some.1 hinsert]
    · rw [htables.rest]

/-- A charge with a fresh key is positive, covered and fits its column. -/
theorem covered_of_charge {result : CreditResult} (h : Chargeable printable b accountId key account)
    (hfresh : b.debits.find? key = none)
    (hrun : charge printable tx b accountId amount key = .ok (b', result)) :
    0 < amount ∧ amount ≤ totalBalanceAtoms b account tx.wall ∧ amount ≤ maxCreditAtoms := by
  obtain ⟨lots, expired, hexpire, hlots⟩ := expireAccountPackLots_ok b account.id tx.wall
  have hfind : (uuidParameter accountId).bind b.accounts.find? = some account := by
    rw [h.named]
    exact h.account
  simp only [charge, bind_eq_ok, require_eq_ok, fetch_eq_ok, hfind, h.key, Option.some.injEq,
    Except.ok.injEq] at hrun
  obtain ⟨-, hpos, _, rfl, _, rfl, _, hexpire', -, hrange, hrun⟩ := hrun
  rw [hexpire] at hexpire'
  cases hexpire'
  rw [hfresh, spendableLots_lapse (b := b) hlots] at hrun
  simp only [bind_eq_ok, require_eq_ok] at hrun
  obtain ⟨_, -, -, hcovered, -⟩ := hrun
  rw [chargeSources_sum] at hcovered
  exact ⟨of_decide_eq_true hpos, of_decide_eq_true hcovered, of_decide_eq_true hrange⟩

/-- Whether its key is fresh or not, a charge is positive and fits its column. -/
theorem charge_amount {answer : Billing × CreditResult}
    (h : charge printable tx b accountId amount key = .ok answer) :
    0 < amount ∧ amount ≤ maxCreditAtoms := by
  simp only [charge, bind_eq_ok, require_eq_ok, decide_eq_true_eq] at h
  obtain ⟨-, hpos, -, -, -, -, -, -, -, hrange, -⟩ := h
  exact ⟨hpos, hrange⟩

theorem replayCharge_eq_ok {existing : Debit} {total : Nat} {result : CreditResult}
    (h : replayCharge existing accountId amount total = .ok result) :
    existing.accountId = accountId ∧ existing.amount = amount ∧ existing.kind = .usage := by
  unfold replayCharge at h
  split at h
  case isTrue => cases h
  case isFalse hsame => simpa [and_assoc] using hsame

/-- **A replayed charge** returns the stored debit to the same account and amount, and is refused
    to any other. In both cases no table changes but the lots that lapse by the clock. -/
theorem charge_replayed (tx : Tx) {existing : Debit} (h : Chargeable printable b accountId key account)
    (hexisting : b.debits.find? key = some existing) (hpos : 0 < amount)
    (hrange : amount ≤ maxCreditAtoms) :
    ∃ lots : Table FundingLot, lots.rows = b.lots.rows.map (FundingLot.lapse account.id tx.wall) ∧
      charge printable tx b accountId amount key =
        (replayCharge existing accountId amount (totalBalanceAtoms b account tx.wall)).map
          fun result => ({ b with lots := lots }, result) := by
  obtain ⟨lots, expired, hexpire, hlots⟩ := expireAccountPackLots_ok b account.id tx.wall
  have hfind : (uuidParameter accountId).bind b.accounts.find? = some account := by
    rw [h.named]
    exact h.account
  refine ⟨lots, hlots, ?_⟩
  have hpos' : require (decide (0 < amount))
      (Failure.valueError "amount must be greater than zero") = .ok () :=
    require_eq_ok.2 (decide_eq_true hpos)
  have hrange' : require (decide (amount ≤ maxCreditAtoms)) Failure.outOfRange = .ok () :=
    require_eq_ok.2 (decide_eq_true hrange)
  have haccount : fetch ((uuidParameter accountId).bind b.accounts.find?)
      (accountFailure (uuidParameter accountId)) = .ok account := fetch_eq_ok.2 hfind
  simp only [charge, hpos', h.key, haccount, bind, Except.bind, hexpire, hrange', hexisting]
  rw [spendableLots_lapse (b := b) hlots]
  rfl

end StripeEntitlements
