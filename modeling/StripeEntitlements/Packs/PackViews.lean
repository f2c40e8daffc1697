import StripeEntitlements.Packs.PackFacts

/-!
# What an Order Shows

The order and the lot of a pack show the set of facts that were accepted about it, as long as
no refund is accepted after a dispute. The lot of an open pack may have expired meanwhile.

## Main results

- `PackView` — the order and its lot show a set of facts
- `PackView.paid`, `PackView.clawback` — one more fact
- `applyPackClawback_leaves` — what an accepted clawback leaves of orders and lots
-/

namespace StripeEntitlements

open Relational

variable {tx : Tx} {clock : Int} {b b' : Billing} {effect : Effect} {order : PackOrder}
  {facts : List PackFact}

/-! ## The view -/

/-- A row of the order shows the facts. -/
structure PackOrder.Shows (order : PackOrder) (facts : List PackFact) (o : PackOrder) : Prop where
  id : o.id = order.id
  credits : o.packCredits = order.packCredits
  price : o.priceAmount = order.priceAmount
  days : o.expiresDays = order.expiresDays
  status : o.paymentStatus = shownStatus order.priceAmount facts
  cash : o.amountRefunded = shownCash order.priceAmount facts
  atoms : o.refundedCredits = shownAtoms order.packCredits order.priceAmount facts

/-- The lot has the status, or was open and expired by `clock`. -/
def FundingLot.Shows (clock : Int) (status : LotStatus) (l : FundingLot) : Prop :=
  l.status = status ∨ status = .active ∧ l.status = .expired ∧ l.expiresAt ≤ clock

/-- The window of the lot is the one of a payment among the facts. -/
def FundingLot.FundedBy (order : PackOrder) (facts : List PackFact) (l : FundingLot) : Prop :=
  ∃ paidAt, .paid paidAt ∈ facts ∧ l.expiresAt = paidAt + order.expiresDays * dayMicros

/-- The order and its lot show the facts. -/
structure PackView (clock : Int) (order : PackOrder) (facts : List PackFact) (b : Billing) :
    Prop where
  row : ∃ o, b.orders.find? order.id = some o ∧ order.Shows facts o
  lot : Option.Rel (FundingLot.Shows clock)
    (shownLot order.packCredits order.priceAmount facts) (lotOfOrder b order.id)
  window : ∀ l, lotOfOrder b order.id = some l → l.FundedBy order facts

/-- The columns the view reads are cash columns. -/
theorem PackOrder.Shows.of_cash {o o' : PackOrder} (h : order.Shows facts o)
    (hcash : o'.cash = o.cash) : order.Shows facts o' where
  id := (congrArg PackOrder.id hcash :).trans h.id
  credits := (congrArg PackOrder.packCredits hcash :).trans h.credits
  price := (congrArg PackOrder.priceAmount hcash :).trans h.price
  days := (congrArg PackOrder.expiresDays hcash :).trans h.days
  status := (congrArg PackOrder.paymentStatus hcash :).trans h.status
  cash := (congrArg PackOrder.amountRefunded hcash :).trans h.cash
  atoms := (congrArg PackOrder.refundedCredits hcash :).trans h.atoms

theorem FundingLot.FundedBy.cons {l : FundingLot} {fact : PackFact} (h : l.FundedBy order facts) :
    l.FundedBy order (fact :: facts) := by
  obtain ⟨paidAt, hpaid, hwindow⟩ := h
  exact ⟨paidAt, List.mem_cons_of_mem _ hpaid, hwindow⟩

theorem FundingLot.Shows.ages {status : LotStatus} {l l' : FundingLot}
    (h : l.Shows clock status) (hages : l.Ages clock l') : l'.Shows clock status := by
  rcases hages.status with hsame | ⟨hactive, hexpired, hle⟩
  · rcases h with h | ⟨hopen, hexpired, hle⟩
    · exact .inl (hsame.trans h)
    · exact .inr ⟨hopen, hsame.trans hexpired, hages.expiresAt ▸ hle⟩
  · rcases h with h | ⟨-, hexpired', -⟩
    · exact .inr ⟨h.symm.trans hactive, hexpired, hages.expiresAt ▸ hle⟩
    · rw [hactive] at hexpired'
      cases hexpired'

namespace PackView

/-- Steps that keep cash columns and only age lots keep the view. -/
theorem of_ages (h : PackView clock order facts b)
    (horders : ∀ o, b.orders.find? order.id = some o →
      ∃ o', b'.orders.find? order.id = some o' ∧ o'.cash = o.cash)
    (hlots : LotsAge clock b b') : PackView clock order facts b' where
  row := by
    obtain ⟨o, ho, hshows⟩ := h.row
    obtain ⟨o', ho', hcash⟩ := horders o ho
    exact ⟨o', ho', hshows.of_cash hcash⟩
  lot := by
    have hlot := h.lot
    have hages := hlots.lotOfOrder order.id
    -- the lots of the order before and after age together, or are both missing
    generalize lotOfOrder b order.id = l at hlot hages
    generalize lotOfOrder b' order.id = l' at hages ⊢
    generalize shownLot order.packCredits order.priceAmount facts = status at hlot ⊢
    cases hlot with
    | none =>
      cases hages
      exact .none
    | some hshows =>
      cases hages with
      | some hl => exact .some (hshows.ages hl)
  -- the window is read from the lot's expiry, which ageing keeps
  window l' hl' := by
    have hages := hlots.lotOfOrder order.id
    rw [hl'] at hages
    cases hl : lotOfOrder b order.id with
    | none =>
      rw [hl] at hages
      cases hages
    | some l =>
      rw [hl] at hages
      cases hages with
      | some hold =>
        obtain ⟨paidAt, hpaid, hwindow⟩ := h.window l hl
        exact ⟨paidAt, hpaid, hold.expiresAt.trans hwindow⟩

/-- The same orders. -/
theorem same_orders (h : b'.orders = b.orders) (o : PackOrder)
    (ho : b.orders.find? order.id = some o) :
    ∃ o', b'.orders.find? order.id = some o' ∧ o'.cash = o.cash :=
  ⟨o, h ▸ ho, rfl⟩

theorem steps (h : PackView clock order facts b) (hsteps : PackSteps tx b b') :
    PackView clock order facts b' := by
  refine h.of_ages (fun o ho => ?_) (.of_lots hsteps.lots)
  have hcash := hsteps.orders order.id
  rw [ho, Option.map_some, Option.map_eq_some_iff] at hcash
  exact hcash

theorem price_pos (h : PackView clock order facts b) : 0 < order.priceAmount := by
  obtain ⟨o, ho, hshows⟩ := h.row
  rw [← hshows.price]
  exact (PackOrder.cash_checked (b.orders.valid.checked o (Table.find?_mem ho))).2.1

/-- The lot of the order is the one lot that names it. -/
theorem lot_of_mem (h : PackView clock order facts b) {l : FundingLot} (hl : l ∈ b.lots.rows)
    (hoid : l.orderId = order.id) : ∃ status,
      shownLot order.packCredits order.priceAmount facts = some status ∧
        l.Shows clock status := by
  have hlot := h.lot
  rw [lotOfOrder_eq_some.2 ⟨hl, hoid⟩] at hlot
  generalize shownLot order.packCredits order.priceAmount facts = status at hlot
  cases hlot with
  | some hshows => exact ⟨_, rfl, hshows⟩

end PackView

/-! ## Payments -/

/-- The status a payment projects is the one of the facts with it. -/
theorem shownStatus_paid {o : PackOrder} (paidAt : Int) (h : order.Shows facts o) :
    o.statusAfterPayment = shownStatus order.priceAmount (.paid paidAt :: facts) := by
  unfold PackOrder.statusAfterPayment
  rw [h.status]
  unfold shownStatus
  simp only [List.mem_cons, reduceCtorEq, false_or, shownCash_paid, List.any_cons,
    PackFact.isPayment, Bool.true_or, if_true]
  split
  · simp
  · split
    · simp
    · split
      · simp
      · split <;> simp

/-- Another payment of a paid order shows nothing new. -/
theorem shownLot_paid {paidAt : Int} {credits price : Nat} (h : facts.any PackFact.isPayment) :
    shownLot credits price (.paid paidAt :: facts) = shownLot credits price facts := by
  simp only [shownLot, List.any_cons, h, Bool.or_true, List.mem_cons, reduceCtorEq, false_or,
    shownAtoms_paid]

theorem PackPayment.lot_shows {p : PackPayment} (lotId : String) (hid : order.Shows facts p.order)
    (hclock : tx.wall ≤ clock) : ∃ status,
      shownLot order.packCredits order.priceAmount (.paid p.paidAt :: facts) = some status ∧
        (p.lot tx lotId).Shows clock status := by
  have hstatus := shownStatus_paid p.paidAt hid
  have hterminal : p.order.statusAfterPayment = .disputed ↔ .disputed ∈ facts := by
    rw [hstatus, shownStatus_eq_disputed]
    simp
  refine ⟨_, if_pos (by simp [PackFact.isPayment]), ?_⟩
  simp only [List.mem_cons, reduceCtorEq, false_or, shownAtoms_paid]
  unfold FundingLot.Shows PackPayment.lot
  simp only [hterminal, hid.atoms, hid.credits]
  by_cases hdisputed : .disputed ∈ facts
  · simp [hdisputed]
  by_cases hall : shownAtoms order.packCredits order.priceAmount facts = order.packCredits
  · simp [hdisputed, hall]
  by_cases hexpired : p.paidAt + p.order.expiresDays * dayMicros ≤ tx.wall
  · simp [hdisputed, hall, hexpired, le_trans hexpired hclock]
  · simp [hdisputed, hall, hexpired]

/-- The lot of an order is not the one inserted for another. -/
theorem lotOfOrder_insert {lots : Table FundingLot} {l : FundingLot} {k : String}
    (h : b.lots.insert? l = some lots) (hne : l.orderId ≠ k) :
    lotOfOrder { b with lots := lots } k = lotOfOrder b k := by
  unfold lotOfOrder
  rw [Table.insert?_eq_some.1 h, List.find?_append]
  simp [hne]

namespace PackView

/-- A payment of the order. -/
theorem paid (h : PackView clock order facts b) {p : PackPayment} (hid : p.order.id = order.id)
    (horder : b.orders.find? p.order.id = some p.order) (hclock : tx.wall ≤ clock)
    (hpay : applyPackPayment tx b p = .ok effect) :
    PackView clock order (.paid p.paidAt :: facts) effect.billing := by
  -- the order is found as the view shows it, so the projection starts from its columns
  obtain ⟨orders, accounts, horders, -, hcase⟩ := applyPackPayment_eq_ok hpay
  obtain ⟨o, ho, hshows⟩ := h.row
  rw [← hid, horder, Option.some.injEq] at ho
  subst ho
  have hself := Table.find?_update_self horders fun _ => rfl
  rw [horder, Option.map_some, hid] at hself
  have hprojected : order.Shows (.paid p.paidAt :: facts) (p.projectOrder p.order) :=
    ⟨hshows.id, hshows.credits, hshows.price, hshows.days, shownStatus_paid p.paidAt hshows,
      hshows.cash.trans shownCash_paid.symm, hshows.atoms.trans shownAtoms_paid.symm⟩
  rcases hcase with ⟨hfunded, hb⟩ | ⟨hnone, lots, hlots, hcase⟩
  · -- a lot that is there was funded by an earlier payment
    rw [hb]
    refine ⟨⟨_, hself, hprojected⟩, ?_, fun l hl => (h.window l hl).cons⟩
    obtain ⟨l, hl⟩ := Option.isSome_iff_exists.1 hfunded
    rw [hid] at hl
    have hpaid : facts.any PackFact.isPayment := by
      obtain ⟨status, hstatus, -⟩ := h.lot_of_mem (lotOfOrder_eq_some.1 hl).1 (lotOfOrder_eq_some.1 hl).2
      by_contra hunpaid
      rw [shownLot, if_neg hunpaid] at hstatus
      cases hstatus
    rw [shownLot_paid hpaid]
    exact h.lot
  -- the first payment: the new lot is active, or past its window already
  · obtain ⟨status, hstatus, hlot⟩ :=
      PackPayment.lot_shows (tx.uuid b.lots.rows.length) hshows hclock
    have hview : PackView clock order (.paid p.paidAt :: facts)
        { b with orders := orders, accounts := accounts, lots := lots } := by
      have hmem : p.lot tx (tx.uuid b.lots.rows.length) ∈ lots.rows := by
        rw [Table.insert?_eq_some.1 hlots]
        simp
      have hfind : lotOfOrder { b with orders := orders, accounts := accounts, lots := lots }
          order.id = some (p.lot tx (tx.uuid b.lots.rows.length)) :=
        lotOfOrder_eq_some.2 ⟨hmem, hid⟩
      refine ⟨⟨_, hself, hprojected⟩, ?_, fun l hl => ?_⟩
      · rw [hstatus, hfind]
        exact .some hlot
      · rw [hfind, Option.some.injEq] at hl
        subst hl
        refine ⟨p.paidAt, List.mem_cons_self, ?_⟩
        rw [← hshows.days]
        rfl
    -- collecting debts from the new lot only draws from it
    rcases hcase with hb | ⟨-, _, hcollect⟩
    · exact hb ▸ hview
    · exact hview.of_ages (same_orders (collectPackDebtsFromLot_frame hcollect).orders)
        (.collectPackDebtsFromLot hcollect)

/-- A payment of another order. -/
theorem paid_other (h : PackView clock order facts b) {p : PackPayment}
    (hid : p.order.id ≠ order.id) (hpay : applyPackPayment tx b p = .ok effect) :
    PackView clock order facts effect.billing := by
  obtain ⟨orders, accounts, horders, -, hcase⟩ := applyPackPayment_eq_ok hpay
  have hkept : orders.find? order.id = b.orders.find? order.id :=
    Table.find?_update_ne horders (fun _ => rfl) (Ne.symm hid)
  have hrow : ∃ o, orders.find? order.id = some o ∧ order.Shows facts o := by
    rw [hkept]
    exact h.row
  -- no lot of this order is touched by a payment of another one
  rcases hcase with ⟨-, hb⟩ | ⟨-, lots, hlots, hcase⟩
  · rw [hb]
    exact ⟨hrow, h.lot, h.window⟩
  -- the lot that is added belongs to the other order
  · have hview : PackView clock order facts
        { b with orders := orders, accounts := accounts, lots := lots } := by
      have hlot : lotOfOrder { b with orders := orders, accounts := accounts, lots := lots }
          order.id = lotOfOrder b order.id := lotOfOrder_insert hlots hid
      refine ⟨hrow, ?_, ?_⟩
      · rw [hlot]
        exact h.lot
      · rw [hlot]
        exact h.window
    rcases hcase with hb | ⟨-, _, hcollect⟩
    · exact hb ▸ hview
    · exact hview.of_ages (same_orders (collectPackDebtsFromLot_frame hcollect).orders)
        (.collectPackDebtsFromLot hcollect)

end PackView

/-! ## Clawbacks -/

/-- The status a clawback of the whole pack gives the lot of its order. -/
def PackClawback.lotStatus (c : PackClawback) : Option LotStatus :=
  if c.dispute then some .disputed
  else if c.targetAtoms = c.order.packCredits then some .refunded
  else none

/-- What a clawback leaves of the lot of its order. -/
structure PackClawback.LeavesLot (tx : Tx) (c : PackClawback) (l l' : FundingLot) : Prop where
  orderId : l'.orderId = l.orderId
  closed : ∀ status, c.lotStatus = some status → l'.status = status
  partly : c.lotStatus = none → l.Ages tx.wall l'

theorem expireClawbackLot_leaves {l l' : FundingLot} (hl : l ∈ b.lots.rows)
    (h : expireClawbackLot tx b l = .ok (b', l')) :
    l' ∈ b'.lots.rows ∧ l'.id = l.id ∧ l.Ages tx.wall l' ∧
      ∀ r ∈ b.lots.rows, r.id ≠ l.id → r ∈ b'.lots.rows := by
  unfold expireClawbackLot at h
  split at h
  case isTrue hdue =>
    simp only [Bool.and_eq_true, decide_eq_true_eq] at hdue
    simp only [bind_eq_ok, Billing.update_eq_ok, pure_eq_ok, Stored.table, Stored.install] at h
    obtain ⟨_, ⟨lots, hlots, rfl⟩, heq⟩ := h
    cases heq
    have hself := Table.find?_update_self hlots fun _ => rfl
    rw [show b.lots.find? l.id = some l from Table.find?_of_mem hl] at hself
    refine ⟨Table.find?_mem hself, rfl, .expire hdue.1 hdue.2, fun r hr hne => ?_⟩
    have hkept := Table.find?_update_ne hlots (fun _ => rfl) hne
    rw [show b.lots.find? r.id = some r from Table.find?_of_mem hr] at hkept
    exact Table.find?_mem hkept
  case isFalse =>
    rw [pure_eq_ok] at h
    cases h
    exact ⟨hl, rfl, .refl _, fun r hr _ => hr⟩

theorem clawLot_leaves {c : PackClawback} {l : FundingLot} {delta removed : Nat}
    (hl : l ∈ b.lots.rows) (h : clawLot tx b c l delta = .ok (b', removed)) :
    (∀ r ∈ b.lots.rows, r.id ≠ l.id → r ∈ b'.lots.rows) ∧
      ∃ l' ∈ b'.lots.rows, c.LeavesLot tx l l' := by
  simp only [clawLot, bind_eq_ok, Billing.update_eq_ok, pure_eq_ok, Stored.table,
    Stored.install] at h
  obtain ⟨⟨b₁, l₁⟩, hexpire, _, -, _, ⟨lots, hlots, rfl⟩, heq⟩ := h
  cases heq
  -- an expired lot is closed first; then the row is rewritten under its own id
  obtain ⟨hl₁, hid, hages, hothers⟩ := expireClawbackLot_leaves hl hexpire
  have hself := Table.find?_update_self hlots fun _ => rfl
  rw [show b₁.lots.find? l₁.id = some l₁ from Table.find?_of_mem hl₁, Option.map_some] at hself
  refine ⟨fun r hr hne => ?_, _, Table.find?_mem hself, hages.orderId, ?_, ?_⟩
  · have hkept := Table.find?_update_ne hlots (fun _ => rfl) (hid.symm ▸ hne)
    rw [show b₁.lots.find? r.id = some r from Table.find?_of_mem (hothers r hr hne)] at hkept
    exact Table.find?_mem hkept
  -- a closing status is set by a dispute, or by a refund of the whole pack
  · intro status hstatus
    unfold PackClawback.lotStatus at hstatus
    split at hstatus
    case isTrue hdispute => simpa [hdispute] using hstatus
    case isFalse hdispute =>
      split at hstatus
      case isTrue hall => simpa [hdispute, hall] using hstatus
      case isFalse => cases hstatus
  -- otherwise the lot stays as it was, up to its stock
  · intro hnone
    have hpartly : (c.dispute || c.targetAtoms = c.order.packCredits) = false := by
      unfold PackClawback.lotStatus at hnone
      split at hnone
      case isTrue => cases hnone
      case isFalse hdispute =>
        split at hnone
        case isTrue => cases hnone
        case isFalse hpart => simp [hdispute, hpart]
    refine hages.trans ⟨rfl, rfl, .inl ?_⟩
    simp [hpartly]

/-- What an accepted clawback leaves of the orders and lots. -/
structure PackClawback.Leaves (tx : Tx) (c : PackClawback) (b b' : Billing) : Prop where
  order : ∃ o, b'.orders.find? c.order.id = some o ∧ o.id = c.order.id ∧
    o.packCredits = c.order.packCredits ∧ o.priceAmount = c.order.priceAmount ∧
    o.expiresDays = c.order.expiresDays ∧
    o.paymentStatus = c.cashStatus ∧ o.amountRefunded = c.targetCash ∧
    o.refundedCredits = max c.order.refundedCredits c.targetAtoms
  orders : ∀ k, k ≠ c.order.id → b'.orders.find? k = b.orders.find? k
  lots : ∀ l ∈ b.lots.rows, l.orderId ≠ c.order.id → l ∈ b'.lots.rows
  advanced : c.targetAtoms ≤ c.order.refundedCredits → c.dispute = false → b'.lots = b.lots
  disputed : c.targetAtoms ≤ c.order.refundedCredits → c.dispute = true →
    (b'.lots = b.lots ∧ c.order.paymentStatus = .disputed) ∨
    ∀ l ∈ b.lots.rows, l.orderId = c.order.id → l.remainingCredits = 0 →
      ∃ l' ∈ b'.lots.rows, l'.orderId = l.orderId ∧ l'.status = .disputed
  clawed : c.order.refundedCredits < c.targetAtoms →
    ∀ l ∈ b.lots.rows, l.orderId = c.order.id → ∃ l' ∈ b'.lots.rows, c.LeavesLot tx l l'

theorem advancePackCash_leaves {c : PackClawback} (horder : b.orders.find? c.order.id = some c.order)
    (hcash : c.order.amountRefunded ≤ c.targetCash)
    (hrepeat : c.targetAtoms ≤ c.order.refundedCredits)
    (h : advancePackCash tx b c = .ok effect) : c.Leaves tx b effect.billing := by
  unfold advancePackCash at h
  split at h
  -- nothing advanced, so both cash columns are the target already
  case isFalse hsame =>
    rw [pure_eq_ok] at h
    subst h
    simp only [Bool.or_eq_true, decide_eq_true_eq, not_or, not_lt, Decidable.not_not] at hsame
    exact {
      order := ⟨c.order, horder, rfl, rfl, rfl, rfl, hsame.2.symm, le_antisymm hcash hsame.1,
        (max_eq_left hrepeat).symm⟩
      orders := fun _ _ => rfl
      lots := fun _ hl _ => hl
      advanced := fun _ _ => rfl
      disputed := fun _ hdispute => .inl ⟨rfl, by
        rw [← hsame.2, PackClawback.cashStatus, if_pos hdispute]⟩
      clawed := fun hlt => absurd hrepeat (not_le.2 hlt) }
  -- the cash advances: the order is projected, and a dispute also closes its empty lot
  case isTrue =>
    simp only [bind_eq_ok, Billing.update_eq_ok, Stored.table, Stored.install] at h
    obtain ⟨_, ⟨orders, horders, rfl⟩, h⟩ := h
    have hself := Table.find?_update_self horders fun _ => rfl
    rw [horder, Option.map_some] at hself
    have hkept : ∀ k, k ≠ c.order.id → orders.find? k = b.orders.find? k := fun k hk =>
      Table.find?_update_ne horders (fun _ => rfl) hk
    -- only a dispute touches lots
    split at h
    case isTrue hdispute =>
      simp only [bind_eq_ok, Billing.updateWhere_eq_ok, pure_eq_ok, Stored.table,
        Stored.install] at h
      obtain ⟨_, ⟨lots, hlots, rfl⟩, rfl⟩ := h
      have hrow : ∀ l ∈ b.lots.rows, (if l.orderId = c.order.id && l.remainingCredits = 0 then
          { l with status := .disputed, closedAt := l.closedAt.or (some tx.now) } else l) ∈
            lots.rows := by
        intro l hl
        rw [Table.updateWhere?_eq_some.1 hlots]
        exact List.mem_map_of_mem hl
      refine {
        order := ⟨_, hself, rfl, rfl, rfl, rfl, rfl, rfl, (max_eq_left hrepeat).symm⟩
        orders := hkept
        lots := fun l hl hne => ?_
        advanced := fun _ hno => ?_
        disputed := fun _ _ => .inr fun l hl hoid hempty => ?_
        clawed := fun hlt => absurd hrepeat (not_le.2 hlt) }
      · have := hrow l hl
        simpa [hne] using this
      · rw [hdispute] at hno
        cases hno
      · have := hrow l hl
        rw [if_pos (by simp [hoid, hempty])] at this
        exact ⟨_, this, rfl, rfl⟩
    case isFalse hno =>
      simp only [bind_eq_ok, pure_eq_ok] at h
      obtain ⟨_, rfl, rfl⟩ := h
      exact {
        order := ⟨_, hself, rfl, rfl, rfl, rfl, rfl, rfl, (max_eq_left hrepeat).symm⟩
        orders := hkept
        lots := fun l hl _ => hl
        advanced := fun _ _ => rfl
        disputed := fun _ hdispute => absurd hdispute hno
        clawed := fun hlt => absurd hrepeat (not_le.2 hlt) }

theorem clawFunding_leaves {c : PackClawback} {delta removed : Nat}
    (h : clawFunding tx b c delta = .ok (b', removed)) :
    b'.orders = b.orders ∧ (∀ l ∈ b.lots.rows, l.orderId ≠ c.order.id → l ∈ b'.lots.rows) ∧
      ∀ l ∈ b.lots.rows, l.orderId = c.order.id → ∃ l' ∈ b'.lots.rows, c.LeavesLot tx l l' := by
  refine ⟨(clawFunding_keeps h).2, ?_⟩
  unfold clawFunding at h
  split at h
  -- without a lot there is nothing to claw
  case h_1 hnone =>
    rw [pure_eq_ok] at h
    cases h
    refine ⟨fun l hl _ => hl, fun l hl hoid => ?_⟩
    rw [lotOfOrder_eq_some.2 ⟨hl, hoid⟩] at hnone
    cases hnone
  -- the lot is clawed, and what it could not give is booked as debt
  case h_2 lot hlot =>
    simp only [bind_eq_ok, pure_eq_ok] at h
    obtain ⟨⟨b₁, _⟩, hclaw, b₂, hdebt, heq⟩ := h
    cases heq
    obtain ⟨debts, rfl, -⟩ := recordPackDebt_eq_ok hdebt
    obtain ⟨hmem, hoid⟩ := lotOfOrder_eq_some.1 hlot
    obtain ⟨hothers, l', hl', hleaves⟩ := clawLot_leaves hmem hclaw
    -- any other lot of the order would be this one, since an order has one lot
    refine ⟨fun l hl hne => hothers l hl fun hid => hne ?_, fun l hl hl_oid => ?_⟩
    · rw [b.lots.eq_of_key_eq hl hmem hid, hoid]
    · have hsame : some l = some lot := by
        rw [← hlot, lotOfOrder_eq_some.2 ⟨hl, hl_oid⟩]
      cases hsame
      exact ⟨l', hl', hleaves⟩

/-- **What an accepted clawback leaves behind**: the cash facts of the Event and the greater of the
    refunded credits on its order, and a lot that is closed or has aged. Other orders keep their
    rows, and other lots are still there. -/
theorem applyPackClawback_leaves {c : PackClawback}
    (horder : b.orders.find? c.order.id = some c.order)
    (hcash : c.order.amountRefunded ≤ c.targetCash)
    (h : applyPackClawback tx b c = .ok effect) : c.Leaves tx b effect.billing := by
  simp only [applyPackClawback, bind_eq_ok] at h
  obtain ⟨b₁, hbind, h⟩ := h
  obtain ⟨accounts, rfl⟩ := bindCustomer_eq_ok hbind
  -- a repeat only advances cash, a further clawback also claws the lot
  split at h
  case isTrue hrepeat =>
    have hleaves := advancePackCash_leaves (b := { b with accounts := accounts }) horder hcash hrepeat h
    exact ⟨hleaves.order, hleaves.orders, hleaves.lots, hleaves.advanced, hleaves.disputed,
      hleaves.clawed⟩
  case isFalse hadvance =>
    rw [not_le] at hadvance
    simp only [bind_eq_ok, Billing.update_eq_ok, pure_eq_ok, Stored.table, Stored.install] at h
    obtain ⟨⟨b₂, removed⟩, hclaw, _, ⟨orders, horders, rfl⟩, rfl⟩ := h
    obtain ⟨hkept, hothers, hown⟩ := clawFunding_leaves hclaw
    have hself := Table.find?_update_self horders fun _ => rfl
    rw [hkept, horder, Option.map_some] at hself
    exact {
      order := ⟨_, hself, rfl, rfl, rfl, rfl, rfl, rfl, (max_eq_right hadvance.le).symm⟩
      orders := fun k hk => (Table.find?_update_ne horders (fun _ => rfl) hk).trans (by rw [hkept])
      lots := hothers
      advanced := fun hle => absurd hadvance (not_lt.2 hle)
      disputed := fun hle => absurd hadvance (not_lt.2 hle)
      clawed := fun _ => hown }

/-! ### The facts of a clawback -/

namespace PackClawback

variable {c : PackClawback}

@[simp] theorem fact_isPayment : c.fact.isPayment = false := by
  unfold fact
  split <;> rfl

theorem targetCash_eq (hshows : order.Shows facts c.order) (hamount : c.amount = c.order.priceAmount)
    (hlate : c.dispute = false → .disputed ∉ facts) :
    c.targetCash = shownCash order.priceAmount (c.fact :: facts) := by
  cases hdispute : c.dispute with
  | true => simp [targetCash, fact, hdispute, hamount, hshows.price]
  | false =>
    simp only [targetCash, fact, hdispute, Bool.false_eq_true, if_false]
    rw [shownCash_refunded (hlate hdispute), hshows.cash]

theorem targetAtoms_eq (hshows : order.Shows facts c.order)
    (hamount : c.amount = c.order.priceAmount) (hlate : c.dispute = false → .disputed ∉ facts) :
    c.targetAtoms = shownAtoms order.packCredits order.priceAmount (c.fact :: facts) := by
  unfold targetAtoms shownAtoms
  rw [targetCash_eq hshows hamount hlate, hamount, hshows.price, hshows.credits]
  cases hdispute : c.dispute with
  | true => simp [fact, hdispute]
  | false => simp

theorem cashStatus_eq (hshows : order.Shows facts c.order)
    (hamount : c.amount = c.order.priceAmount) (hpos : c.dispute = false → 0 < c.amountRefunded)
    (hlate : c.dispute = false → .disputed ∉ facts) :
    c.cashStatus = shownStatus order.priceAmount (c.fact :: facts) := by
  unfold cashStatus shownStatus
  rw [targetCash_eq hshows hamount hlate, hamount, hshows.price]
  cases hdispute : c.dispute with
  | true => simp [fact, hdispute]
  | false =>
    have hcash : 0 < shownCash order.priceAmount (c.fact :: facts) := by
      rw [← targetCash_eq hshows hamount hlate]
      simp only [targetCash, hdispute, Bool.false_eq_true, if_false]
      exact lt_of_lt_of_le (hpos hdispute) (le_max_right _ _)
    have hundisputed : .disputed ∉ c.fact :: facts := by
      simp [fact, hdispute, hlate hdispute]
    simp [hcash, hundisputed]

/-- A clawback never lowers the cash given back. -/
theorem cash_le (hrow : c.order ∈ b.orders.rows)
    (hamount : c.amount = c.order.priceAmount) : c.order.amountRefunded ≤ c.targetCash := by
  unfold targetCash
  split
  case isFalse => exact le_max_left _ _
  case isTrue =>
    obtain ⟨-, -, -, hpaid, hstatus⟩ := PackOrder.cash_checked (b.orders.valid.checked c.order hrow)
    rw [hamount]
    cases hp : c.order.amountPaid with
    | some paid =>
      simp only [hp, Option.all_some, Bool.and_eq_true, decide_eq_true_eq] at hpaid
      omega
    | none =>
      -- nothing is given back before it is paid
      cases hs : c.order.paymentStatus <;> simp [PackOrder.statusCheck, hs, hp] at hstatus
      omega

end PackClawback

/-- A clawback of the whole pack closes its lot the way the facts say. -/
theorem shownLot_clawback {c : PackClawback} (hshows : order.Shows facts c.order)
    (hamount : c.amount = c.order.priceAmount) (hlate : c.dispute = false → .disputed ∉ facts)
    (hpaid : facts.any PackFact.isPayment) :
    shownLot order.packCredits order.priceAmount (c.fact :: facts) =
      some (c.lotStatus.getD .active) := by
  rw [shownLot, if_pos (by simp [hpaid]), ← PackClawback.targetAtoms_eq hshows hamount hlate,
    PackClawback.lotStatus, hshows.credits]
  cases hdispute : c.dispute with
  | true => simp [PackClawback.fact, hdispute]
  | false =>
    have hundisputed : .disputed ∉ c.fact :: facts := by
      simp [PackClawback.fact, hdispute, hlate hdispute]
    simp only [hundisputed, if_false, Bool.false_eq_true]
    split <;> rfl

/-- The lot of a clawed order shows the facts with the clawback. -/
theorem PackClawback.Leaves.lot {c : PackClawback} {l : FundingLot} {status : LotStatus}
    (hleaves : c.Leaves tx b b') (hshows : order.Shows facts c.order)
    (hamount : c.amount = c.order.priceAmount) (hlate : c.dispute = false → .disputed ∉ facts)
    (hprice : 0 < order.priceAmount) (hclock : tx.wall ≤ clock) (hl : l ∈ b.lots.rows)
    (hoid : l.orderId = c.order.id)
    (hstatus : shownLot order.packCredits order.priceAmount facts = some status)
    (hlot : l.Shows clock status) :
    ∃ l' ∈ b'.lots.rows, l'.orderId = l.orderId ∧ l'.Shows clock (c.lotStatus.getD .active) := by
  have hatoms := PackClawback.targetAtoms_eq hshows hamount hlate
  have hpaid : facts.any PackFact.isPayment := by
    by_contra hunpaid
    rw [shownLot, if_neg hunpaid] at hstatus
    cases hstatus
  rw [shownLot, if_pos hpaid, Option.some.injEq] at hstatus
  by_cases hlt : c.order.refundedCredits < c.targetAtoms
  · -- new atoms are clawed back from the lot
    obtain ⟨l', hl', hleft⟩ := hleaves.clawed hlt l hl hoid
    refine ⟨l', hl', hleft.orderId, ?_⟩
    cases hclosed : c.lotStatus with
    | some closed => exact .inl (hleft.closed closed hclosed)
    | none =>
      have hopen : status = .active := by
        have hpart : shownAtoms order.packCredits order.priceAmount facts ≠ order.packCredits := by
          have hle : c.targetAtoms ≤ order.packCredits := hatoms ▸ shownAtoms_le hprice
          rw [hshows.atoms] at hlt
          omega
        have hundisputed : .disputed ∉ facts := by
          refine hlate ?_
          cases hdispute : c.dispute with
          | false => rfl
          | true => simp [PackClawback.lotStatus, hdispute] at hclosed
        rw [← hstatus, if_neg hundisputed, if_neg hpart]
      subst hopen
      exact hlot.ages ((hleft.partly hclosed).mono hclock)
  · rw [not_lt] at hlt
    cases hdispute : c.dispute with
    | false =>
      -- the atoms were clawed back already
      have hsame : shownAtoms order.packCredits order.priceAmount facts = c.targetAtoms := by
        refine le_antisymm ?_ (hshows.atoms ▸ hlt)
        rw [hatoms]
        apply shownAtoms_mono hprice
        simp only [PackClawback.fact, hdispute, Bool.false_eq_true, if_false]
        rw [shownCash_refunded (hlate hdispute)]
        exact le_max_left _ _
      refine ⟨l, (hleaves.advanced hlt hdispute).symm ▸ hl, rfl, ?_⟩
      have hkept : c.lotStatus.getD .active = status := by
        rw [← hstatus, if_neg (hlate hdispute), hsame, PackClawback.lotStatus, hshows.credits]
        simp only [hdispute, Bool.false_eq_true, if_false]
        split <;> rfl
      exact hkept ▸ hlot
    | true =>
      have hdisputed : c.lotStatus.getD .active = .disputed := by
        simp [PackClawback.lotStatus, hdispute]
      rw [hdisputed]
      rcases hleaves.disputed hlt hdispute with ⟨hkept, hbefore⟩ | hclosed
      · rw [hshows.status, shownStatus_eq_disputed] at hbefore
        rw [if_pos hbefore] at hstatus
        exact ⟨l, hkept ▸ hl, rfl, hstatus ▸ hlot⟩
      · -- a fully clawed lot is closed and empty
        have hall : shownAtoms order.packCredits order.priceAmount facts = order.packCredits := by
          refine le_antisymm (shownAtoms_le hprice) ?_
          rw [← hshows.atoms]
          refine le_trans (le_of_eq ?_) hlt
          rw [hatoms, PackClawback.fact, if_pos hdispute, shownAtoms_disputed]
        have hinactive : status ≠ .active := by
          rw [← hstatus, hall]
          split <;> simp
        have hclosedStatus : l.status ≠ .active := by
          rcases hlot with hsame | ⟨hopen, -, -⟩
          · exact hsame ▸ hinactive
          · exact absurd hopen hinactive
        have hcheck := b.lots.valid.checked l hl
        simp only [Relation.check, Bool.and_eq_true, Bool.or_eq_true, decide_eq_true_eq] at hcheck
        obtain ⟨l', hl', hoid', hstatus'⟩ := hclosed l hl hoid (hcheck.2.resolve_left hclosedStatus)
        exact ⟨l', hl', hoid', .inl hstatus'⟩

namespace PackView

/-- No clawback moves a window. -/
theorem window_clawback (h : PackView clock order facts b) {c : PackClawback} {l' : FundingLot}
    (hclaw : applyPackClawback tx b c = .ok effect)
    (hl' : lotOfOrder effect.billing order.id = some l') : l'.FundedBy order facts := by
  obtain ⟨hmem', hoid'⟩ := lotOfOrder_eq_some.1 hl'
  obtain ⟨l, hmem, -, hoid, -, hexpires, -⟩ := (applyPackClawback_clawsBack hclaw).lot l' hmem'
  obtain ⟨paidAt, hpaid, hwindow⟩ :=
    h.window l (lotOfOrder_eq_some.2 ⟨hmem, hoid.symm.trans hoid'⟩)
  exact ⟨paidAt, hpaid, hexpires.trans hwindow⟩

/-- A clawback of the order. -/
theorem clawback (h : PackView clock order facts b) {c : PackClawback} (hid : c.order.id = order.id)
    (horder : b.orders.find? c.order.id = some c.order) (hamount : c.amount = c.order.priceAmount)
    (hpos : c.dispute = false → 0 < c.amountRefunded)
    (hlate : c.dispute = false → .disputed ∉ facts) (hclock : tx.wall ≤ clock)
    (hclaw : applyPackClawback tx b c = .ok effect) :
    PackView clock order (c.fact :: facts) effect.billing := by
  -- cash and atoms of the targets are what the facts show, with the new one added
  obtain ⟨o, ho, hshows⟩ := h.row
  rw [← hid, horder, Option.some.injEq] at ho
  subst ho
  have hprice := h.price_pos
  have hcash := PackClawback.targetCash_eq hshows hamount hlate
  have hatoms := PackClawback.targetAtoms_eq hshows hamount hlate
  have hleaves := applyPackClawback_leaves horder
    (PackClawback.cash_le (Table.find?_mem horder) hamount) hclaw
  -- the target never falls, because the cash it is computed from does not
  have hmono : c.order.refundedCredits ≤ c.targetAtoms := by
    rw [hshows.atoms, hatoms]
    apply shownAtoms_mono hprice
    rw [← hcash, ← hshows.cash]
    exact PackClawback.cash_le (Table.find?_mem horder) hamount
  refine ⟨?_, ?_, fun l' hl' => (h.window_clawback hclaw hl').cons⟩
  · obtain ⟨o, ho, hoid, hcredits, hprice', hdays, hstatus, hrefunded, hclawed⟩ := hleaves.order
    rw [hid] at ho
    refine ⟨o, ho, hoid.trans hid, hcredits.trans hshows.credits, hprice'.trans hshows.price,
      hdays.trans hshows.days, hstatus.trans (PackClawback.cashStatus_eq hshows hamount hpos hlate), hrefunded.trans hcash, ?_⟩
    rw [hclawed, max_eq_right hmono, hatoms]
  -- no lot before means no payment before, and a clawback adds neither
  · cases hl : lotOfOrder b order.id with
    | none =>
      have hunpaid : (c.fact :: facts).any PackFact.isPayment ≠ true := by
        rw [List.any_cons, PackClawback.fact_isPayment, Bool.false_or]
        intro hpaid
        have hlot := h.lot
        rw [hl, shownLot, if_pos hpaid] at hlot
        cases hlot
      have hnone : lotOfOrder effect.billing order.id = none := by
        rw [Option.eq_none_iff_forall_ne_some]
        intro l' hl'
        obtain ⟨hmem', hoid'⟩ := lotOfOrder_eq_some.1 hl'
        obtain ⟨l, hmem, -, hoid, -⟩ := (applyPackClawback_clawsBack hclaw).lot l' hmem'
        rw [lotOfOrder_eq_some.2 ⟨hmem, hoid.symm.trans hoid'⟩] at hl
        cases hl
      rw [hnone, shownLot, if_neg hunpaid]
      exact .none
    -- the lot shows the facts before, and the clawback leaves it showing the new one too
    | some l =>
      obtain ⟨hmem, hoid⟩ := lotOfOrder_eq_some.1 hl
      obtain ⟨status, hstatus, hlot⟩ := h.lot_of_mem hmem hoid
      have hpaid : facts.any PackFact.isPayment := by
        by_contra hunpaid
        rw [shownLot, if_neg hunpaid] at hstatus
        cases hstatus
      obtain ⟨l', hmem', hoid', hlot'⟩ := hleaves.lot hshows hamount hlate hprice hclock hmem
        (hoid.trans hid.symm) hstatus hlot
      rw [shownLot_clawback hshows hamount hlate hpaid,
        lotOfOrder_eq_some.2 ⟨hmem', hoid'.trans hoid⟩]
      exact .some hlot'

/-- A clawback of another order. -/
theorem clawback_other (h : PackView clock order facts b) {c : PackClawback}
    (hid : c.order.id ≠ order.id) (horder : b.orders.find? c.order.id = some c.order)
    (hamount : c.amount = c.order.priceAmount) (hclaw : applyPackClawback tx b c = .ok effect) :
    PackView clock order facts effect.billing := by
  have hleaves := applyPackClawback_leaves horder
    (PackClawback.cash_le (Table.find?_mem horder) hamount) hclaw
  refine ⟨?_, ?_, fun l' hl' => h.window_clawback hclaw hl'⟩
  · rw [hleaves.orders _ (Ne.symm hid)]
    exact h.row
  · have hsame : lotOfOrder effect.billing order.id = lotOfOrder b order.id := by
      cases hl : lotOfOrder b order.id with
      | some l =>
        obtain ⟨hmem, hoid⟩ := lotOfOrder_eq_some.1 hl
        exact lotOfOrder_eq_some.2 ⟨hleaves.lots l hmem (hoid ▸ Ne.symm hid), hoid⟩
      | none =>
        rw [Option.eq_none_iff_forall_ne_some]
        intro l' hl'
        obtain ⟨hmem', hoid'⟩ := lotOfOrder_eq_some.1 hl'
        obtain ⟨l, hmem, -, hoid, -⟩ := (applyPackClawback_clawsBack hclaw).lot l' hmem'
        rw [lotOfOrder_eq_some.2 ⟨hmem, hoid.symm.trans hoid'⟩] at hl
        cases hl
    rw [hsame]
    exact h.lot

end PackView

end StripeEntitlements
