import StripeEntitlements.Packs.Progress
import StripeEntitlements.Relational.Ascending

/-!
# The Chronicle of Debt Collections

A pack debt is collected from the balance of a Subscription or from the lot of another
order, and the serial id of the allocation tells when. A lot gives atoms away only while
nothing is outstanding for its own order. The ids of outstanding collections therefore
ascend along every chain from an order to the order whose lot paid for it.

## Main results

- `Chronicle` — one allocation for every collection, and ids that ascend along chains
- `restore_chronicle` — reversals keep the chronicle
- `Reachable.chronicle` — the chronicle of every run
-/

namespace StripeEntitlements

open Relational

variable {cfg : Config} {tx : Tx} {account : Account} {visiting : List String}
  {db db' : Db} {b b' b'' : Billing} {orderId : String}

/-! ## Collections as a graph -/

/-- An outstanding collection with this id for the debt of order `x`, from the lot of `y`. -/
def CollectionEdge (b : Billing) (id : Nat) (x y : Option String) : Prop :=
  ∃ a ∈ b.allocations.rows, a.id = id ∧ a.refundedAmount < a.amount ∧
    (∃ orderId, x = some orderId ∧ collectsFor b orderId a = true) ∧ y = a.source.order b

/-- Every collection has one allocation, and a chain of outstanding collections goes forward
    in time. -/
structure Chronicle (b : Billing) : Prop where
  single : ∀ a ∈ b.allocations.rows, ∀ a' ∈ b.allocations.rows, a.debitKey = a'.debitKey →
    ∀ orderId, collectsFor b orderId a = true → a.id = a'.id
  ascending : Ascending (CollectionEdge b)

/-- An order has outstanding collections, or no edge starts there. -/
theorem collectionCores_eq_nil :
    collectionCores b orderId = [] ↔
      ∀ a ∈ b.allocations.rows, a.refundedAmount < a.amount → collectsFor b orderId a = false := by
  rw [collectionCores, List.filterMap_eq_nil_iff]
  refine forall₂_congr fun a ha => ?_
  rw [Option.map_eq_none_iff, Option.eq_none_iff_forall_ne_some]
  constructor
  · intro h hlt
    rw [← Bool.not_eq_true]
    intro hcollects
    obtain ⟨d, hd, hkind, horder⟩ := collectsFor_iff.1 hcollects
    exact h _ (collectionOf_eq_some.2 ⟨hlt, d, hd, hkind, horder, rfl⟩)
  · intro h c hc
    obtain ⟨hlt, d, hd, hkind, horder, -⟩ := collectionOf_eq_some.1 hc
    rw [collectsFor_iff.2 ⟨d, hd, hkind, horder⟩] at h
    cases h hlt

namespace Progress

/-- An outstanding collection was outstanding before, or is later than all before. -/
theorem edge (h : Progress b b') (hrefs : PackReferences b) {id : Nat} {x y : Option String}
    (he : CollectionEdge b' id x y) :
    CollectionEdge b id x y ∨ ∀ a ∈ b.allocations.rows, a.id < id := by
  obtain ⟨a', ha', rfl, hlt, ⟨orderId, rfl, hcollects⟩, rfl⟩ := he
  rcases h.row a' ha' with ⟨a, ha, hstatic, hle⟩ | ⟨hlater, -⟩
  · have hkey : a.debitKey = a'.debitKey := Allocation.debitKey_of_static hstatic
    have hsource : a.source = a'.source := Allocation.source_of_static hstatic
    have hamount : a.amount = a'.amount := (congrArg Allocation.amount hstatic :)
    refine .inl ⟨a, ha, (congrArg Allocation.id hstatic :), by omega, ⟨orderId, rfl, ?_⟩, ?_⟩
    · rw [← Progress.collectsFor h.frame (hrefs.debit a ha)]
      simpa only [StripeEntitlements.collectsFor, hkey] using hcollects
    · rw [order h.frame, hsource]
  · exact .inr hlater

end Progress

/-! ## Keeping the chronicle -/

namespace Chronicle

/-- Progress without a new allocation. -/
theorem mark (h : Chronicle b) (hrefs : PackReferences b) (hp : Progress b b')
    (hold : ∀ a' ∈ b'.allocations.rows, ∃ a ∈ b.allocations.rows, a.id = a'.id) : Chronicle b' where
  -- a row whose id is old is an old row, so a collection is one of those before
  single a₁ ha₁ a₂ ha₂ hkey orderId hcollects := by
    have hrow : ∀ a' ∈ b'.allocations.rows, ∃ a ∈ b.allocations.rows, a.static = a'.static := by
      intro a' ha'
      rcases hp.row a' ha' with ⟨a, ha, hstatic, -⟩ | ⟨hlater, -⟩
      · exact ⟨a, ha, hstatic⟩
      · obtain ⟨a, ha, hid⟩ := hold a' ha'
        exact absurd (hlater a ha) (by omega)
    obtain ⟨r₁, hr₁, hs₁⟩ := hrow a₁ ha₁
    obtain ⟨r₂, hr₂, hs₂⟩ := hrow a₂ ha₂
    have hk₁ : r₁.debitKey = a₁.debitKey := Allocation.debitKey_of_static hs₁
    have hk₂ : r₂.debitKey = a₂.debitKey := Allocation.debitKey_of_static hs₂
    have hid₁ : r₁.id = a₁.id := (congrArg Allocation.id hs₁ :)
    have hid₂ : r₂.id = a₂.id := (congrArg Allocation.id hs₂ :)
    rw [← hid₁, ← hid₂]
    refine h.single r₁ hr₁ r₂ hr₂ (by rw [hk₁, hk₂, hkey]) orderId ?_
    rw [← Progress.collectsFor hp.frame (hrefs.debit r₁ hr₁)]
    simpa only [collectsFor, hk₁] using hcollects
  -- an edge comes from a row, and no row is later than the old ones
  ascending := h.ascending.mono fun id x y he => by
    rcases hp.edge hrefs he with hold' | hlater
    · exact hold'
    · obtain ⟨a', ha', rfl, -⟩ := he
      obtain ⟨a, ha, hid⟩ := hold a' ha'
      exact absurd (hlater a ha) (by omega)

/-- Statements that write no allocation. -/
theorem of_frame (h : Chronicle b) (hrefs : PackReferences b) (hf : CreditFrame b b')
    (hallocations : b'.allocations = b.allocations) : Chronicle b' where
  single a ha a' ha' hkey orderId hcollects := by
    rw [hallocations] at ha ha'
    rw [Progress.collectsFor hf (hrefs.debit a ha)] at hcollects
    exact h.single a ha a' ha' hkey orderId hcollects
  ascending := h.ascending.mono fun id x y he => by
    obtain ⟨a, ha, hid, hlt, ⟨orderId, rfl, hcollects⟩, rfl⟩ := he
    rw [hallocations] at ha
    rw [Progress.collectsFor hf (hrefs.debit a ha)] at hcollects
    exact ⟨a, ha, hid, hlt, ⟨orderId, rfl, hcollects⟩, Progress.order hf a.source⟩

/-- One collection, from a balance or from a lot whose order has nothing outstanding. -/
theorem collect {grantEpoch amount : Nat} {lotId : Option String} {debt : PackDebt}
    (h : Chronicle b) (hrefs : PackReferences b)
    (hfree : ∀ y, (collectionSource grantEpoch lotId).order b = some y →
      collectionCores b y = [] ∧ debt.orderId ≠ y)
    (hrun : collectPackDebt tx grantEpoch lotId b debt amount = .ok b') : Chronicle b' := by
  have hp := Progress.collect hrun
  obtain ⟨debts, debits, allocations, hdebts, hdebits, -, hall, rfl⟩ := collectPackDebt_eq_ok hrun
  -- the one new row belongs to the new debit and has the next serial id
  have hrow : ∀ a ∈ allocations.rows, a ∈ b.allocations.rows ∨
      a.debitKey = (collectionDebit tx b debt amount grantEpoch).idempotencyKey ∧
        a.id = nextSerial Allocation.id b.allocations.rows ∧
        a.source = collectionSource grantEpoch lotId := by
    intro a ha
    rw [Table.insert?_eq_some.1 hall, List.mem_append, List.mem_singleton] at ha
    rcases ha with ha | rfl
    · exact .inl ha
    · exact .inr ⟨rfl, rfl, rfl⟩
  -- the new debit is on no old allocation, by their foreign key
  have hfresh : ∀ a ∈ b.allocations.rows,
      a.debitKey ≠ (collectionDebit tx b debt amount grantEpoch).idempotencyKey := by
    intro a ha hkey
    have hsome := hrefs.debit a ha
    have hnone : b.debits.find? (collectionDebit tx b debt amount grantEpoch).idempotencyKey = none :=
      Table.find?_eq_none_of_insert hdebits
    rw [hkey, hnone] at hsome
    cases hsome
  -- two rows of one debit are both old or both the new one
  refine ⟨fun a ha a' ha' hkey orderId hcollects => ?_, ?_⟩
  · rcases hrow a ha with hold | ⟨hnew, hid, -⟩ <;> rcases hrow a' ha' with hold' | ⟨hnew', hid', -⟩
    · refine h.single a hold a' hold' hkey orderId ?_
      rw [← Progress.collectsFor hp.frame (hrefs.debit a hold)]
      exact hcollects
    · exact absurd (hkey.trans hnew') (hfresh a hold)
    · exact absurd (hkey.symm.trans hnew) (hfresh a' hold')
    · rw [hid, hid']
  -- only the new row can add an edge, and it is the latest
  · refine h.ascending.extend fun id x y he => ?_
    rcases hp.edge hrefs he with hold | hlater
    · exact .inl hold
    obtain ⟨a, ha, rfl, hlt, ⟨orderId, rfl, hcollects⟩, rfl⟩ := he
    -- an old row cannot have the new serial
    rcases hrow a ha with hold | ⟨hnew, -, hsource⟩
    · exact absurd (hlater a hold) (lt_irrefl _)
    refine .inr ⟨fun j z hend => ?_, fun j u v hj => ?_⟩
    · -- the new collection ends at an order with nothing outstanding
      rw [Progress.order hp.frame, hsource] at hend
      obtain ⟨a', ha', rfl, hlt', ⟨order', horder', hcollects'⟩, rfl⟩ := hend
      obtain ⟨hcores, hne⟩ := hfree order' horder'
      rcases hrow a' ha' with hold' | ⟨hnew', -⟩
      · have hfree' := collectionCores_eq_nil.1 hcores a' hold' hlt'
        rw [Progress.collectsFor hp.frame (hrefs.debit a' hold'), hfree'] at hcollects'
        cases hcollects'
      -- the new row ends at its own debt's order, which differs from the source's
      · obtain ⟨d, hd, -, horder⟩ := collectsFor_iff.1 hcollects'
        have hfind : debits.find? (collectionDebit tx b debt amount grantEpoch).idempotencyKey =
            some (collectionDebit tx b debt amount grantEpoch) :=
          (Table.find?_insert hdebits _).trans (if_pos rfl)
        change debits.find? a'.debitKey = some d at hd
        rw [hnew', hfind, Option.some.injEq] at hd
        subst hd
        exact hne (Option.some.inj horder)
    · obtain ⟨a', ha', rfl, -⟩ := hj
      exact hlater a' ha'

/-- A loop of collections over the outstanding debts. The order of the lot has nothing
    outstanding, and its own debt is not in the loop. -/
theorem drain_collect {grantEpoch available left : Nat} {lotId : Option String}
    {accountId : String} {body : Billing → PackDebt → Nat → Nat → Transaction Billing}
    (h : Chronicle b) (hrefs : PackReferences b)
    (hfree : ∀ y, (collectionSource grantEpoch lotId).order b = some y →
      collectionCores b y = [] ∧ ∀ d ∈ outstandingPackDebts b accountId, d.orderId ≠ y)
    (hbody : ∀ s debt amount left s', body s debt amount left = .ok s' →
      ∃ s₁, collectPackDebt tx grantEpoch lotId s debt amount = .ok s₁ ∧ CreditFrame s₁ s' ∧
        s'.lots = s₁.lots ∧ s'.packDebts = s₁.packDebts ∧ s'.debits = s₁.debits ∧
        s'.allocations = s₁.allocations)
    (hrun : drain PackDebt.outstanding body (outstandingPackDebts b accountId) available b =
      .ok (b', left)) : Chronicle b' ∧ PackReferences b' := by
  have hstart : ∀ d ∈ outstandingPackDebts b accountId,
      (b.packDebts.find? d.orderId).isSome := by
    intro d hd
    rw [outstandingPackDebts, Table.mem_orderBy] at hd
    exact Option.isSome_iff_exists.2 ⟨d, Table.find?_of_mem (List.mem_of_mem_filter hd)⟩
  -- loop invariant: the source's order has nothing outstanding and no debt still ahead
  obtain ⟨_, -, hlinked, hchronicle, -⟩ := drain_invariant
    (P := fun debts _ s => (∀ d ∈ debts, (s.packDebts.find? d.orderId).isSome) ∧ Linked [] s ∧
      Chronicle s ∧ Progress b s ∧
      ∀ y, (collectionSource grantEpoch lotId).order b = some y →
        collectionCores s y = [] ∧ ∀ d ∈ debts, d.orderId ≠ y) (by
    rintro debt debts amount left s s' _ _ _ ⟨hdebts, hl, hs, hp, hsource⟩ hstep
    obtain ⟨s₁, hcollect, hframe, hlots, hpack, hdebits, hallocations⟩ :=
      hbody s debt amount left s' hstep
    have hmoves := Moves.collect hl (hdebts debt List.mem_cons_self) hcollect
    have hstep₁ := Progress.collect hcollect
    -- what follows the collection in the body leaves the pack tables alone
    have hquiet : Progress s₁ s' := .of_frame hframe hdebits hallocations hpack
    have hnext : Chronicle s₁ := by
      refine hs.collect hl.references (fun y hy => ?_) hcollect
      rw [Progress.order hp.frame] at hy
      exact ⟨(hsource y hy).1, (hsource y hy).2 debt List.mem_cons_self⟩
    refine ⟨fun d hd => ?_, (Moves.of_eq hmoves.linked hlots hpack hdebits hallocations).linked,
      hnext.of_frame hmoves.linked.references hframe hallocations,
      (hp.trans hstep₁).trans hquiet, fun y hy => ⟨?_, fun d hd => ?_⟩⟩
    · obtain ⟨debtRows, _, _, hdebtRows, -, -, -, rfl⟩ := collectPackDebt_eq_ok hcollect
      rw [hpack, Table.find?_updateWhere hdebtRows fun _ => rfl, Option.isSome_map]
      exact hdebts d (List.mem_cons_of_mem _ hd)
    -- collecting for another order keeps the collections of the source's order
    · have hne := (hsource y hy).2 debt List.mem_cons_self
      rw [((SameDebt.collect hcollect hne).trans (.of_eq hpack hdebits hallocations)).collections]
      exact (hsource y hy).1
    · exact (hsource y hy).2 d (List.mem_cons_of_mem _ hd))
    ⟨hstart, ⟨hrefs, by simp⟩, h, .refl b, hfree⟩ hrun
  exact ⟨hchronicle, hlinked.references⟩

theorem collectPackDebtsFromSubscription {accountId eventId : String} {grantEpoch collected : Nat}
    (h : Chronicle b) (hrefs : PackReferences b)
    (hrun : collectPackDebtsFromSubscription tx b accountId grantEpoch eventId =
      .ok (b', collected)) : Chronicle b' := by
  obtain ⟨_, b₁, _, -, hdrain, -, hend⟩ := collectPackDebtsFromSubscription_eq_ok hrun
  have hfree : ∀ y, (collectionSource grantEpoch none).order b = some y →
      collectionCores b y = [] ∧ ∀ d ∈ outstandingPackDebts b accountId, d.orderId ≠ y := nofun
  obtain ⟨hloop, hrefs₁⟩ := h.drain_collect hrefs hfree
    (fun _ _ _ _ _ hbody => subscriptionCollection_eq_ok hbody) hdrain
  rcases hend with ⟨-, rfl⟩ | ⟨accounts, haccounts, rfl⟩
  · exact hloop
  · exact hloop.of_frame hrefs₁ (.updateAccount haccounts fun _ => rfl) rfl

/-- The lot of an order that owes nothing and has nothing outstanding settles other debts. -/
theorem collectPackDebtsFromLot {accountId lotId : String} {available collected : Nat}
    (h : Chronicle b) (hrefs : PackReferences b)
    (hfree : ∀ l, b.lots.find? lotId = some l → collectionCores b l.orderId = [] ∧
      ∀ d, b.packDebts.find? l.orderId = some d →
        d.targetCredits ≤ d.collectedCredits + d.releasedCredits)
    (hrun : collectPackDebtsFromLot tx b accountId lotId available = .ok (b', collected)) :
    Chronicle b' := by
  obtain ⟨account, b₁, _, -, hdrain, -, lots, hlots, rfl⟩ := collectPackDebtsFromLot_eq_ok hrun
  obtain ⟨hloop, hrefs₁⟩ := h.drain_collect hrefs (fun y hy => by
      obtain ⟨l, hl, rfl⟩ := Option.map_eq_some_iff.1 hy
      obtain ⟨hcores, hsettled⟩ := hfree l hl
      refine ⟨hcores, fun d hd heq => ?_⟩
      rw [outstandingPackDebts, Table.mem_orderBy] at hd
      obtain ⟨hmem, howes⟩ := List.mem_filter.1 hd
      have hle := hsettled d (heq ▸ Table.find?_of_mem hmem)
      simp only [Bool.and_eq_true, decide_eq_true_eq] at howes
      omega)
    (fun s debt amount left s' hbody => ⟨s', hbody, .refl _, rfl, rfl, rfl, rfl⟩) hdrain
  exact hloop.of_frame hrefs₁ (.updateLots hlots fun _ => rfl) rfl

end Chronicle

/-! ## Reversals -/

/-- The collections being unwound are older than every outstanding collection for `x`. -/
def Above (visiting : List String) (b : Billing) (x : Option String) : Prop :=
  ∀ v ∈ b.allocations.rows, v.debitKey ∈ visiting → v.refundedAmount < v.amount →
    ∀ orderId, collectsFor b orderId v = true → ∀ id y, CollectionEdge b id x y → v.id < id

namespace Above

variable {x : Option String}

/-- Callers keep their collections, and new ones are younger. -/
theorem progress (h : Above visiting b x) (hl : Linked visiting b) (hp : Progress b b') :
    Above visiting b' x := by
  intro v' hv' hvisit hlt order hcollects id y he
  rcases hp.row v' hv' with ⟨v, hv, hstatic, hle⟩ | ⟨-, hfresh⟩
  · have hkey : v.debitKey = v'.debitKey := Allocation.debitKey_of_static hstatic
    have hid : v.id = v'.id := (congrArg Allocation.id hstatic :)
    have hamount : v.amount = v'.amount := (congrArg Allocation.amount hstatic :)
    rw [← hid]
    rcases hp.edge hl.references he with hold | hlater
    · refine h v hv (hkey ▸ hvisit) (by omega) order ?_ id y hold
      rw [← Progress.collectsFor hp.frame (hl.references.debit v hv)]
      simpa only [collectsFor, hkey] using hcollects
    · exact hlater v hv
  · -- a visited debit is not new
    have hsome := hl.visiting _ hvisit
    rw [hfresh] at hsome
    cases hsome

/-- A product debit collects nothing, so no collection is being unwound. -/
theorem product {key : String} (hdebit : ProductDebit b key) : Above [key] b x := by
  intro v hv hvisit hlt orderId hcollects
  rw [hdebit.collectsFor (List.mem_singleton.1 hvisit)] at hcollects
  cases hcollects

/-- No collection of the order is being unwound. -/
theorem free (h : Above visiting b (some orderId)) {v : Allocation} (hv : v ∈ b.allocations.rows)
    (hvisit : v.debitKey ∈ visiting) (hlt : v.refundedAmount < v.amount) :
    collectsFor b orderId v = false := by
  rw [← Bool.not_eq_true]
  intro hcollects
  exact lt_irrefl _
    (h v hv hvisit hlt orderId hcollects v.id _ ⟨v, hv, rfl, hlt, ⟨orderId, rfl, hcollects⟩, rfl⟩)

/-- A callee unwinds collections younger than the one its caller is unwinding. -/
theorem callee (h : Above visiting b (some orderId)) (hc : Chronicle b) {a : Allocation}
    (ha : a ∈ b.allocations.rows) (hlt : a.refundedAmount < a.amount)
    (hcollects : collectsFor b orderId a = true) :
    Above (a.debitKey :: visiting) b (a.source.order b) := by
  intro v hv hvisit hlt' order hcollects' id y he
  have hedge : CollectionEdge b a.id (some orderId) (a.source.order b) :=
    ⟨a, ha, rfl, hlt, ⟨orderId, rfl, hcollects⟩, rfl⟩
  have hnext := hc.ascending hedge he
  rcases List.mem_cons.1 hvisit with hkey | hvisit
  · have hid := hc.single v hv a ha hkey order hcollects'
    omega
  · exact lt_trans (h v hv hvisit hlt' order hcollects' a.id _ hedge) hnext

end Above

/-- Reversing `n` atoms of a source keeps the chronicle, and what it is based on. -/
def RestoreChronicle (visiting : List String) (b : Billing) (source : FundingSource) (n : Nat)
    (b' : Billing) : Prop :=
  RestoreMoves visiting b source n b' ∧ Progress b b' ∧
    (Linked visiting b → Fit visiting (Moves.lotShift source n) b → Chronicle b →
      Above visiting b (source.order b) → Chronicle b')

/-- Relieving the debt of an order by `n` atoms keeps the chronicle and releases them. -/
def ReliefChronicle (visiting : List String) (orderId : String) (b : Billing) (n : Nat)
    (b' : Billing) : Prop :=
  ReliefMoves visiting orderId b n b' ∧ Progress b b' ∧
    (Linked visiting b → 0 ≤ covered visiting b orderId → ∀ total : Nat, n ≤ total →
      Fit visiting (reliefShift b orderId total) b → Chronicle b →
      Above visiting b (some orderId) → Chronicle b' ∧
        debtColumn b orderId PackDebt.releasedCredits + n ≤
          debtColumn b' orderId PackDebt.releasedCredits)

theorem returnSubscriptionAtoms_chronicle {n : Nat} {eventId : String} {reason : LedgerReason}
    (h : Chronicle b) (hl : Linked visiting b) (hreason : reason.isReturn)
    (hrun : returnSubscriptionAtoms tx b account n eventId reason = .ok (b', n)) :
    Chronicle b' := by
  rcases returnSubscriptionAtoms_eq_ok hrun with ⟨-, rfl, -⟩ |
    ⟨-, -, current, accounts, b₁, b₂, _, _, -, haccounts, hledger, hclaw, hcollect⟩
  · exact h
  have hframe : CreditFrame b b₂ :=
    ((CreditFrame.updateAccount haccounts fun _ => rfl).trans
      (.insertLedger hledger fun hrecovery => by simp [hreason.not_recovery] at hrecovery)).trans
        (collectClawbackDebts_frame hclaw)
  have haccount : SamePacks b { b with accounts := accounts } := ⟨fun _ => rfl, rfl, rfl, rfl, rfl⟩
  have hsame := (haccount.trans (insertLedger_packs hledger)).trans (collectClawbackDebts_packs hclaw)
  have hrefs₂ := (Moves.of_eq hl hsame.lots hsame.packDebts hsame.debits hsame.allocations).linked
  exact (h.of_frame hl.references hframe hsame.allocations)
    |>.collectPackDebtsFromSubscription hrefs₂.references hcollect

/-- Moving the atoms of one collection from collected to released makes room for the callee,
    and the callee unwinds younger collections. -/
theorem release_chronicle {k : Nat} {a : Allocation} {s s₁ : Billing} {extra : String → ℤ}
    (hr : Releases visiting orderId a k s s₁) (hl : Linked visiting s)
    (hcovered : 0 ≤ covered visiting s orderId) (hfit : Fit visiting extra s)
    (hextra : ∀ lotId, reliefShift s orderId k lotId ≤ extra lotId) (hc : Chronicle s)
    (habove : Above visiting s (some orderId)) :
    Linked (a.debitKey :: visiting) s₁ ∧
      Fit (a.debitKey :: visiting) (Moves.lotShift a.source k) s₁ ∧ Chronicle s₁ ∧
      Above (a.debitKey :: visiting) s₁ (a.source.order s₁) := by
  obtain ⟨hlinked₁, hfit₁⟩ := hr.room hl hcovered hfit hextra
  have hcallee := habove.callee hc hr.row hr.outstanding (by simp [hr.collects])
  have hprogress := Progress.release hr
  obtain ⟨debts, hdebts, rfl⟩ := hr.release
  exact ⟨hlinked₁, hfit₁, hc.of_frame hl.references hprogress.frame rfl, hcallee⟩

/-- Releasing uncollected debt. -/
theorem released_chronicle {d : PackDebt} {debts : Table PackDebt} {r : Nat}
    (hd : b.packDebts.find? orderId = some d)
    (hdebts : b.packDebts.update? orderId (PackDebt.release r) = some debts) :
    ReliefChronicle visiting orderId b r { b with packDebts := debts } := by
  have hrelease : Progress b { b with packDebts := debts } :=
    .updatePackDebts hdebts (fun _ => rfl) fun d => Nat.le_add_right _ _
  refine ⟨fun hl _ _ _ _ => ?_, hrelease, fun hl _ _ _ _ hc _ => ⟨?_, ?_⟩⟩
  · refine (Moves.updateDebt hl hd hdebts fun _ => rfl).congr (fun lotId => ?_) fun orderId' => ?_
    · simp [reliefShift, PackDebt.release]
    · simp [PackDebt.release]
  · exact hc.of_frame hl.references hrelease.frame rfl
  · simp [debtColumn, Table.find?_update_self hdebts fun _ => rfl, hd, PackDebt.release]

/-- Unwinding one collection keeps the chronicle. -/
theorem unwind_chronicle {r k : Nat} {a : Allocation} {s s₁ s₂ s' : Billing}
    (hq : ReliefChronicle visiting orderId b r s) (hkept : Kept visiting b s)
    (hu : Unwinds account visiting orderId a k s s₁ s₂ s')
    (hp : RestoreChronicle (a.debitKey :: visiting) s₁ a.source k s₂) :
    ReliefChronicle visiting orderId b (r + k) s' := by
  -- release, callee and mark each progress; the chronicle is kept across them in that order
  have hunwound : Progress s s' := .unwind hu hp.2.1
  refine ⟨unwind_moves hq.1 hkept hu hp.1, hq.2.1.trans hunwound,
    fun hl hcovered total hle hfit hc habove => ?_⟩
  have hm := hq.1 hl hcovered total (by omega) hfit
  obtain ⟨hs, hreleased⟩ := hq.2.2 hl hcovered total (by omega) hfit hc habove
  have hcov : 0 ≤ covered visiting s orderId := by
    rw [hm.covered visiting (List.Subset.refl _), Pi.zero_apply, add_zero]
    exact hcovered
  -- the release leaves the callee with room and with the order of the state it starts from
  obtain ⟨hlinked₁, hfit₁, hs₁, habove₁⟩ := release_chronicle hu.releases hm.linked hcov
    (hfit.step hkept.frame hm) (fun lotId => by
      simp only [Pi.sub_apply, reliefShift, lotFunds_frame hkept.frame]
      split <;> omega) hs (habove.progress hl hq.2.1)
  have hs₂ := hp.2.2 hlinked₁ hfit₁ hs₁ habove₁
  have hlinked₂ := (hp.1 hlinked₁ hfit₁).linked
  -- the covered debt exists, so the released column can be read
  obtain ⟨d, debts, hd, hdebts, rfl, -⟩ := hu.releases.debt hcov
  have hmark := Progress.marked hu
  obtain ⟨allocations, debits, f, hallocations, hdebits, hf, rfl⟩ := hu.mark
  -- the mark writes old allocations only
  refine ⟨hs₂.mark hlinked₂.references hmark fun a' ha' => ?_, ?_⟩
  · change a' ∈ allocations.rows at ha'
    rw [Table.update?_eq_some.1 hallocations] at ha'
    obtain ⟨a₀, ha₀, rfl⟩ := List.mem_map.1 ha'
    refine ⟨a₀, ha₀, ?_⟩
    split <;> rfl
  -- and the order has released `k` more, as the release counted
  · have hcolumn : debtColumn { s with packDebts := debts } orderId PackDebt.releasedCredits =
        debtColumn s orderId PackDebt.releasedCredits + k := by
      simp [debtColumn, Table.find?_update_self hdebts fun _ => rfl, hd, PackDebt.unwind]
    have hlast := (hp.2.1.trans hmark).released orderId
    push_cast
    omega

/-- Lazy expiry of an allocation's lot. -/
theorem Chronicle.expireAllocationLot {lotId : String} {lot : FundingLot} (h : Chronicle b)
    (hl : Linked visiting b) (habove : Above visiting b ((FundingSource.creditPack lotId).order b))
    (hexpire : expireAllocationLot tx b account lotId = .ok (b', lot)) :
    Chronicle b' ∧ Above visiting b' (some lot.orderId) := by
  have hprogress := Progress.expireAllocationLot hexpire
  obtain ⟨-, hfind⟩ := expireAllocationLot_moves hl hexpire
  have hsource : (FundingSource.creditPack lotId).order b = some lot.orderId := by
    rw [← Progress.order hprogress.frame, FundingSource.order, hfind]
    rfl
  obtain ⟨_, lots, -, -, -, rfl⟩ := expireAllocationLot_eq_ok hexpire
  exact ⟨h.of_frame hl.references hprogress.frame rfl, hsource ▸ habove.progress hl hprogress⟩

/-- Nothing outstanding is left of an order whose debt has collected nothing. -/
theorem cores_of_uncollected (hcovered : 0 ≤ covered visiting b orderId)
    (habove : Above visiting b (some orderId))
    (hcollected : debtColumn b orderId PackDebt.collectedCredits ≤ 0) :
    collectionCores b orderId = [] := by
  refine collectionCores_eq_nil.2 fun a ha hlt => ?_
  by_cases hvisit : a.debitKey ∈ visiting
  · exact habove.free ha hvisit hlt
  · rw [← Bool.not_eq_true]
    intro hcollects
    have hle := le_collected ha hvisit hcollects hcovered
    unfold Allocation.outstanding at hle
    omega

/-- Relief that leaves atoms over has released the whole debt. -/
theorem released_of_relieved {n : Nat} (hf : CreditFrame b b') (hlt : reliefOf b orderId n < n)
    (hreleased : debtColumn b orderId PackDebt.releasedCredits + reliefOf b orderId n ≤
      debtColumn b' orderId PackDebt.releasedCredits) {d' : PackDebt}
    (hd' : b'.packDebts.find? orderId = some d') :
    d'.collectedCredits = 0 ∧ d'.targetCredits = d'.releasedCredits := by
  have htarget := debtColumn_target hf orderId
  have hback : Table.Grows PackDebt.static b'.packDebts b.packDebts := .of_map_eq hf.packDebts.symm
  obtain ⟨d, hd, -⟩ := hback.find? PackDebt.orderId (fun _ => rfl) hd'
  simp only [debtColumn, hd, hd', Option.elim_some, reliefOf] at htarget hlt hreleased
  have hcheck := b'.packDebts.valid.checked d' (Table.find?_mem hd')
  simp only [Relation.check, Bool.and_eq_true, decide_eq_true_eq] at hcheck
  omega

/-- A lot reversal keeps the chronicle: only a lot whose order is settled gives atoms away. -/
theorem lot_chronicle {lotId : String} {n returned : Nat} {b₁ b₂ : Billing} {lot : FundingLot}
    {order : PackOrder} (hexpire : expireAllocationLot tx b account lotId = .ok (b₁, lot))
    (horder : b₁.orders.find? lot.orderId = some order) (hkept : Kept visiting b₁ b₂)
    (hq : ReliefChronicle visiting order.id b₁ (reliefOf b₁ order.id n) b₂)
    (hsettle : settleLot tx b₂ account order lot (n - reliefOf b₁ order.id n) =
      .ok (b', returned)) : RestoreChronicle visiting b (.creditPack lotId) n b' := by
  refine ⟨lot_moves hexpire horder hkept hq.1 hsettle, .lot hexpire hq.2.1 hsettle,
    fun hl hfit hc habove => ?_⟩
  obtain ⟨hexp, hfind⟩ := expireAllocationLot_moves hl hexpire
  obtain ⟨hfits, hrelief⟩ := lot_room hl hfit hexpire horder
  obtain ⟨hc₁, habove₁⟩ := hc.expireAllocationLot hl habove hexpire
  have horderId : order.id = lot.orderId := Table.find?_key horder
  rw [horderId] at hq hsettle
  have hle := reliefOf_le b₁ lot.orderId n
  have hm := hq.1 hexp.linked hfits.covered n hle hrelief
  obtain ⟨hc₂, hreleased⟩ := hq.2.2 hexp.linked hfits.covered n hle hrelief hc₁ habove₁
  have hprogress₂ := hq.2.1
  rcases settleLot_eq_ok hsettle with ⟨-, rfl⟩ | ⟨-, hpos, lots, _, hlots, hcollect⟩ |
    ⟨-, lots, hlots, rfl⟩
  · exact hc₂
  · have hput : CreditFrame b₂ { b₂ with lots := lots } := .updateLots hlots fun _ => rfl
    have hlinked : Linked visiting { b₂ with lots := lots } := by
      refine hm.linked.mono (fun _ => id) (fun k hk => ?_) (fun _ => id)
        (fun a ha => ⟨a, ha, rfl, rfl⟩) fun d hd => ⟨d, hd, rfl⟩
      rw [Table.find?_updateWhere hlots fun _ => rfl, Option.isSome_map]
      exact hk
    -- the lot gives atoms away only once its own debt is released
    have hsettled : ∀ d, b₂.packDebts.find? lot.orderId = some d →
        d.collectedCredits = 0 ∧ d.targetCredits = d.releasedCredits := fun d hd =>
      released_of_relieved hprogress₂.frame (by omega) hreleased hd
    have hcores : collectionCores b₂ lot.orderId = [] := by
      refine cores_of_uncollected ?_ (habove₁.progress hexp.linked hprogress₂) ?_
      · rw [hm.covered visiting (List.Subset.refl _), Pi.zero_apply, add_zero]
        exact hfits.covered
      · unfold debtColumn
        cases hd : b₂.packDebts.find? lot.orderId with
        | none => exact le_refl _
        | some d => simp [(hsettled d hd).1]
    refine (hc₂.of_frame hm.linked.references hput rfl).collectPackDebtsFromLot
      hlinked.references (fun l hl => ?_) hcollect
    have hgrows : Table.Grows FundingLot.static b₁.lots lots :=
      .of_map_eq ((hprogress₂.frame.trans hput).lots)
    have hid : lot.id = lotId := Table.find?_key hfind
    obtain ⟨l', hl', hstatic⟩ := hgrows.find? FundingLot.id (fun _ => rfl) hfind
    rw [← hid, show lots.find? lot.id = some l from hl, Option.some.injEq] at hl'
    subst hl'
    rw [FundingLot.orderId_of_static hstatic]
    refine ⟨hcores, fun d hd => ?_⟩
    have := (hsettled d hd).2
    omega
  · have hput : CreditFrame b₂ { b₂ with lots := lots } := .updateLots hlots fun _ => rfl
    exact hc₂.of_frame hm.linked.references hput rfl

/-- **A reversal keeps the chronicle**, as long as the collections being unwound are older than
    every outstanding one for the order of its source. What it unwinds in turn is older still, so
    it never comes back to one of them. -/
theorem restore_chronicle {fuel : Nat} {source : FundingSource} {n restored : Nat}
    {eventId : String} {reason : LedgerReason} (hreason : reason.isReturn)
    (h : restoreAllocationEffect tx account fuel b source n eventId reason visiting =
      .ok (b', restored)) : RestoreChronicle visiting b source n b' := by
  -- each case carries the moves and the progress beside the chronicle, as the next case needs
  -- them
  refine restore_induction (P := RestoreChronicle) (Q := ReliefChronicle) ?_ ?_ ?_ ?_ ?_ ?_
    hreason h
  case refine_1 =>
    intro visiting b epoch n _
    exact ⟨fun hl _ => (Moves.refl hl).congr (fun _ => (if_neg nofun).symm) fun _ => rfl,
      .refl b, fun _ _ hc _ => hc⟩
  case refine_2 =>
    intro visiting b n eventId reason b' _ hreason hreturn
    refine ⟨fun hl _ => (Moves.returnSubscriptionAtoms hl hreturn).congr
      (fun _ => (if_neg nofun).symm) fun _ => rfl, .returnSubscriptionAtoms hreason hreturn,
      fun hl _ hc _ => ?_⟩
    exact returnSubscriptionAtoms_chronicle hc hl hreason hreturn
  case refine_3 =>
    intro visiting orderId b
    exact ⟨fun hl _ _ _ _ => (Moves.refl hl).congr (fun _ => by simp [reliefShift]) fun _ => rfl,
      .refl b, fun _ _ _ _ _ hc _ => ⟨hc, by simp⟩⟩
  case refine_4 => exact fun _ _ _ _ _ _ hd _ _ hdebts => released_chronicle hd hdebts
  case refine_5 =>
    intro visiting orderId b r k a s s₁ s₂ s' hq hkept hu hp
    exact unwind_chronicle hq hkept hu hp
  case refine_6 =>
    intro visiting b lotId n b₁ lot order b₂ b' returned hexpire horder _ hkept hq hsettle
    exact lot_chronicle hexpire horder hkept hq hsettle

/-! ## Transactions -/

/-- A clawback keeps the order of every source. -/
theorem ClawsBack.order (h : ClawsBack orderId b b') (source : FundingSource) :
    source.order b' = source.order b := by
  cases source with
  | subscription _ => rfl
  | creditPack lotId =>
    have hsome := h.lots lotId
    simp only [FundingSource.order]
    cases hl' : b'.lots.find? lotId with
    | none =>
      rw [hl', Option.isSome_none, eq_comm, Option.isSome_eq_false_iff,
        Option.isNone_iff_eq_none] at hsome
      rw [hsome]
    | some l' =>
      obtain ⟨l, hl, hid, horder, -⟩ := h.lot l' (Table.find?_mem hl')
      have hkey : l'.id = lotId := Table.find?_key hl'
      have hfind : b.lots.find? lotId = some l :=
        Table.find?_eq_some_iff.2 ⟨hl, hid.symm.trans hkey⟩
      rw [hfind]
      exact congrArg some horder

namespace Chronicle

/-- Sources draw from the lots of the same orders as before. -/
theorem of_lots (h : Chronicle b) (hallocations : b'.allocations = b.allocations)
    (hdebits : b'.debits = b.debits)
    (horder : ∀ a ∈ b.allocations.rows, a.source.order b' = a.source.order b) : Chronicle b' where
  single := by
    simp only [hallocations, collectsFor, hdebits]
    exact h.single
  ascending := h.ascending.mono fun id x y he => by
    obtain ⟨a, ha, hid, hlt, ⟨orderId, rfl, hcollects⟩, rfl⟩ := he
    rw [hallocations] at ha
    refine ⟨a, ha, hid, hlt, ⟨orderId, rfl, ?_⟩, horder a ha⟩
    simpa only [collectsFor, hdebits] using hcollects

theorem samePacks (h : Chronicle b) (hsame : SamePacks b b') : Chronicle b' :=
  h.of_lots hsame.allocations hsame.debits fun a _ => by
    cases hsource : a.source <;> simp only [FundingSource.order, hsame.lots]

/-- An update of lots that keeps their orders. -/
theorem updateLots {p : FundingLot → Bool} {f : FundingLot → FundingLot} {t : Table FundingLot}
    (h : Chronicle b) (ht : b.lots.updateWhere? p f = some t)
    (hf : ∀ l, (f l).static = l.static) : Chronicle { b with lots := t } :=
  h.of_lots rfl rfl fun a _ => Progress.order (.updateLots ht hf) a.source

/-- An allocation of a product debit collects nothing. -/
theorem allocate {key accountId : String} {source : FundingSource} {used : Nat}
    (h : Chronicle b) (hdebit : ProductDebit b key)
    (hrun : b.insertAllocation key accountId source used = .ok b') : Chronicle b' := by
  rw [Billing.insertAllocation_eq_ok] at hrun
  obtain ⟨-, allocations, hall, rfl⟩ := hrun
  -- a collection's debit is none of the product's, so its row is old
  have hrow : ∀ a ∈ allocations.rows, ∀ orderId, collectsFor b orderId a = true →
      a ∈ b.allocations.rows ∧ a.debitKey ≠ key := by
    intro a ha orderId hcollects
    have hne : a.debitKey ≠ key := by
      intro hkey
      rw [hdebit.collectsFor hkey] at hcollects
      cases hcollects
    rw [Table.insert?_eq_some.1 hall, List.mem_append, List.mem_singleton] at ha
    rcases ha with ha | rfl
    · exact ⟨ha, hne⟩
    · exact absurd rfl hne
  refine ⟨fun a ha a' ha' hkey orderId hcollects => ?_, h.ascending.mono fun id x y he => ?_⟩
  · obtain ⟨hold, -⟩ := hrow a ha orderId hcollects
    have hcollects' : collectsFor b orderId a' = true := by
      rw [collectsFor, ← hkey]
      exact hcollects
    obtain ⟨hold', -⟩ := hrow a' ha' orderId hcollects'
    exact h.single a hold a' hold' hkey orderId hcollects
  · obtain ⟨a, ha, hid, hlt, ⟨orderId, rfl, hcollects⟩, rfl⟩ := he
    exact ⟨a, (hrow a ha orderId hcollects).1, hid, hlt, ⟨orderId, rfl, hcollects⟩, rfl⟩

theorem drawFromSource {key : String} {source : ChargeSource} {used left total total' : Nat}
    (h : Chronicle b) (hdebit : ProductDebit b key)
    (hrun : drawFromSource account key (b, total) source used left = .ok (b', total')) :
    Chronicle b' := by
  cases source with
  | subscription a expiresAt =>
    simp only [StripeEntitlements.drawFromSource, bind_eq_ok, pure_eq_ok] at hrun
    obtain ⟨b₁, hinsert, heq⟩ := hrun
    cases heq
    exact h.allocate hdebit hinsert
  | creditPack lot =>
    simp only [StripeEntitlements.drawFromSource, bind_eq_ok, Billing.updateWhere_eq_ok, pure_eq_ok,
      Stored.table, Stored.install] at hrun
    obtain ⟨_, ⟨lots, hlots, rfl⟩, b₁, hinsert, heq⟩ := hrun
    cases heq
    exact (h.updateLots hlots fun _ => rfl).allocate hdebit hinsert

theorem expireAccountPackLots {accountId : String} {asOf : Int} {expired : Bool}
    (h : Chronicle b) (hrun : expireAccountPackLots b accountId asOf = .ok (b', expired)) :
    Chronicle b' := by
  simp only [StripeEntitlements.expireAccountPackLots, bind_eq_ok, Billing.updateWhere_eq_ok,
    pure_eq_ok, Stored.table, Stored.install] at hrun
  obtain ⟨_, ⟨lots, hlots, rfl⟩, heq⟩ := hrun
  cases heq
  exact h.updateLots hlots fun _ => rfl

/-- A product charge collects nothing. -/
theorem charge {printable : Char → Bool} {accountId idempotencyKey : String} {amount : Nat}
    {result : CreditResult} (h : Chronicle b) (hrefs : PackReferences b)
    (hrun : charge printable tx b accountId amount idempotencyKey = .ok (b', result)) :
    Chronicle b' := by
  simp only [StripeEntitlements.charge, bind_eq_ok] at hrun
  obtain ⟨-, -, key, -, account, -, ⟨b₁, expired⟩, hexpire, -, -, hrun⟩ := hrun
  have hc₁ := h.expireAccountPackLots hexpire
  have hl : Linked [] b := ⟨hrefs, by simp⟩
  have hl₁ := (expireAccountPackLots_moves hl hexpire).1.linked
  -- a replay only expires lots
  split at hrun
  · simp only [bind_eq_ok, pure_eq_ok] at hrun
    obtain ⟨_, -, heq⟩ := hrun
    cases heq
    exact hc₁
  · simp only [bind_eq_ok, Billing.insert_eq_ok, pure_eq_ok, Stored.table, Stored.install] at hrun
    obtain ⟨_, ⟨debits, hdebits, rfl⟩, -, -, ⟨⟨b₂, used⟩, left⟩, hdrain, b₃, hsubscription, heq⟩ :=
      hrun
    cases heq
    -- the new debit has no allocation yet, and the drain allocates to it alone
    have hc₂ : Chronicle { b₁ with debits := debits } :=
      hc₁.of_frame hl₁.references (.insertDebit hdebits) rfl
    have hdebit : ProductDebit { b₁ with debits := debits } key :=
      ⟨_, (Table.find?_insert hdebits key).trans (if_pos rfl), rfl⟩
    obtain ⟨hc, -⟩ := drain_rule (P := fun _ (s : Billing × Nat) =>
        Chronicle s.1 ∧ ProductDebit s.1 key) (by
      rintro source used left ⟨s, total⟩ ⟨s', total'⟩ _ _ ⟨hs, hkey⟩ hdraw
      exact ⟨hs.drawFromSource hkey hdraw, hkey.frame (drawFromSource_frame hdraw)⟩)
      ⟨hc₂, hdebit⟩ hdrain
    exact hc.samePacks (chargeSubscription_packs hsubscription)

/-- Reversing one allocation of a product debit. -/
theorem refundsAllocation {key : String} {a : Allocation} {restored : Nat} {s s₁ s' : Billing}
    (h : Chronicle s) (hs : PackState s) (hdebit : ProductDebit s key)
    (hr : RefundsAllocation tx account key a restored s s₁ s') : Chronicle s' := by
  obtain ⟨hlinked, hroom⟩ := product_room hs.linked hs.fit hdebit hr.row hr.debitKey
  obtain ⟨fuel, hrestore⟩ := hr.restore
  have hchronicle := restore_chronicle (.inl rfl) hrestore
  have hc₁ := hchronicle.2.2 hlinked hroom h (.product hdebit)
  have hl₁ := (hchronicle.1 hlinked hroom).linked
  have hmarked := Progress.markRefunded hr.mark
  have hmark := hr.mark
  simp only [markRefunded, Billing.updateWhere_eq_ok, Stored.table, Stored.install] at hmark
  obtain ⟨allocations, hallocations, rfl⟩ := hmark
  refine hc₁.mark hl₁.references hmarked fun a' ha' => ?_
  change a' ∈ allocations.rows at ha'
  rw [Table.updateWhere?_eq_some.1 hallocations] at ha'
  obtain ⟨a₀, ha₀, rfl⟩ := List.mem_map.1 ha'
  refine ⟨a₀, ha₀, ?_⟩
  split <;> rfl

theorem refund {printable : Char → Bool} {idempotencyKey : String}
    {expectedAccountId : Option String} {result : CreditResult} (h : Chronicle b)
    (hs : PackState b)
    (hrun : refund printable tx b idempotencyKey expectedAccountId = .ok (b', result)) :
    Chronicle b' := by
  refine (refund_rule (P := Chronicle) (fun _ _ _ hexpire => h.expireAccountPackLots hexpire)
    (fun account s s' n hs hreturn hc => ?_) (fun account a s s₁ s' r hs hd hr hc => ?_)
    (fun s debits f hs hdebits hf hc => ?_) hs hrun).2
  · exact returnSubscriptionAtoms_chronicle hc hs.linked (.inl rfl) hreturn
  · exact hc.refundsAllocation hs hd hr
  · exact hc.of_frame hs.references (.updateDebit hdebits hf) rfl

/-- A payment funds a lot, which then settles the debts of other orders. -/
theorem payment {p : PackPayment} {effect : Effect} (h : Chronicle b) (hs : PackState b)
    (horder : b.orders.find? p.order.id = some p.order)
    (hrun : applyPackPayment tx b p = .ok effect) : Chronicle effect.billing := by
  obtain ⟨orders, accounts, -, -, ⟨-, heq⟩ | ⟨hnone, lots, hlots, hcase⟩⟩ :=
    applyPackPayment_eq_ok hrun
  · rw [heq]
    exact h.of_lots rfl rfl fun a _ => by cases a.source <;> rfl
  let lot := p.lot tx (tx.uuid b.lots.rows.length)
  have hfind : ∀ k, lots.find? k = if lot.id = k then some lot else b.lots.find? k :=
    fun k => Table.find?_insert hlots k
  have hfresh : b.lots.find? lot.id = none := Table.find?_eq_none_of_insert hlots
  have hc : Chronicle { b with orders := orders, accounts := accounts, lots := lots } := by
    refine h.of_lots rfl rfl fun a ha => ?_
    cases hsource : a.source with
    | subscription _ => rfl
    | creditPack lotId =>
      -- the lot of an allocation was there before
      have hsome := hs.references.lot a ha lotId hsource
      have hne : lot.id ≠ lotId := by
        rintro rfl
        rw [hfresh] at hsome
        cases hsome
      simp only [FundingSource.order, hfind, if_neg hne]
  have hrefs : PackReferences
      { b with orders := orders, accounts := accounts, lots := lots } := by
    refine hs.references.mono (fun _ => id) (fun k hk => ?_) (fun _ => id)
      (fun a ha => ⟨a, ha, rfl, rfl⟩) fun d hd => ⟨d, hd, rfl⟩
    change (lots.find? k).isSome
    rw [hfind]
    split
    · rfl
    · exact hk
  -- an order without a lot owes nothing
  have hdebt : b.packDebts.find? p.order.id = none :=
    (packState_iff.1 hs).2.1 p.order.id p.order horder hnone
  have hcores : collectionCores b p.order.id = [] := by
    refine collectionCores_eq_nil.2 fun a ha _ => ?_
    rw [← Bool.not_eq_true]
    intro hcollects
    obtain ⟨d, hd, -, hid⟩ := collectsFor_iff.1 hcollects
    have hsome := hs.references.debt d (Table.find?_mem hd) _ hid
    rw [hdebt] at hsome
    cases hsome
  rcases hcase with heq | ⟨-, collected, hloop⟩
  · rw [heq]
    exact hc
  refine hc.collectPackDebtsFromLot hrefs (fun l hl => ?_) hloop
  have hlot : lots.find? lot.id = some lot := (hfind lot.id).trans (if_pos rfl)
  obtain rfl : lot = l := Option.some.inj (hlot.symm.trans hl)
  refine ⟨hcores, fun d hd => ?_⟩
  rw [show b.packDebts.find? p.order.id = some d from hd] at hdebt
  cases hdebt

/-- **The chronicle** is kept by every transaction. Collections only ever become fewer, but for the
    collector, whose new rows have greater ids than all before. -/
theorem transition (h : Chronicle b) (hb : PackBooks b) (ht : PackTransition cfg b b') :
    Chronicle b' := by
  -- a sequence of pack steps keeps the books and the chronicle together
  have hsteps : ∀ {tx b'}, PackSteps tx b b' → Chronicle b' := fun hsteps => by
    have hend := hsteps.keeps (P := fun s => PackBooks s ∧ Chronicle s)
      (fun hsame hs => ⟨hs.1.samePacks hsame, hs.2.samePacks hsame⟩)
      (fun hcollect hs => ⟨hs.1.frame (hs.1.state.collectPackDebtsFromSubscription hcollect)
          (collectPackDebtsFromSubscription_frame hcollect),
        hs.2.collectPackDebtsFromSubscription hs.1.state.references hcollect⟩) ⟨hb, h⟩
    exact hend.2
  -- a payment and a clawback have their own lemmas, since they write lots and debts
  cases ht with
  | event he =>
    cases he with
    | steps hs => exact hsteps hs
    | payment _ hp hrun heq =>
      exact heq ▸ h.payment hb.state (packPaymentGuards_eq_ok hp).1 hrun
    | clawback hc hrun heq =>
      have hclaws := applyPackClawback_clawsBack hrun
      rw [heq]
      exact h.of_lots hclaws.allocations hclaws.debits fun a _ => hclaws.order a.source
  | steps hs => exact hsteps hs
  | charge hrun => exact h.charge hb.state.references hrun
  | refund hrun => exact h.refund hb.state hrun
  | outside ho =>
    exact h.of_lots ho.allocations ho.debits fun a _ => by
      cases a.source <;> simp only [FundingSource.order, ho.lots]

theorem empty : Chronicle Billing.empty where
  single _ ha := absurd ha List.not_mem_nil
  ascending := by
    rintro i j x y z ⟨a, ha, -⟩
    exact absurd ha List.not_mem_nil

end Chronicle

/-- The chronicle of every run. -/
theorem Reachable.chronicle (h : Reachable cfg db) : PackBooks db.billing ∧ Chronicle db.billing :=
  h.invariant (P := fun b => PackBooks b ∧ Chronicle b) ⟨.empty, .empty⟩ fun _ _ hcommit hb =>
    ⟨hb.1.transition hcommit.packs, hb.2.transition hb.1 hcommit.packs⟩

end StripeEntitlements
