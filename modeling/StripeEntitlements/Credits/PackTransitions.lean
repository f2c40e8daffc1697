import StripeEntitlements.Credits.PackEvents
import StripeEntitlements.Credits.PackOperations
import StripeEntitlements.Reference

/-!
# Payments and Clawbacks of Pack Orders

A payment funds a lot with what earlier clawbacks left of its pack; a clawback retires what
is left in the lot and books the rest as debt. Together with charges, refunds and the two
collectors these are the operations on pack funding, and all of them keep the equations of
the deferred trigger.

## Main results

- `PackState.of_rows` — orders, lots and debts that change together
- `PackOperation.keeps_packState` — no operation lets the deferred trigger fail
-/

namespace StripeEntitlements

open Relational

variable {cfg : Config} {tx : Tx} {b b' : Billing}

/-! ## Orders and lots of pack Events -/

/-- Only the pack tables and the debit tables matter. -/
theorem PackState.of_eq (h : PackState b) (horders : b'.orders = b.orders)
    (hlots : b'.lots = b.lots) (hdebts : b'.packDebts = b.packDebts)
    (hdebits : b'.debits = b.debits) (hallocations : b'.allocations = b.allocations) :
    PackState b' := by
  have hm : Moves [] 0 0 b b' := .of_eq h.linked hlots hdebts hdebits hallocations
  have hcolumn : ∀ orderId column, debtColumn b' orderId column = debtColumn b orderId column := by
    intro orderId column
    rw [debtColumn, debtColumn, hdebts]
  refine packState_iff.2 ⟨hm.linked.references, fun orderId order horder hnone => ?_,
    fun lot hlot order horder => ?_⟩
  · rw [hdebts]
    unfold lotOfOrder at hnone
    rw [hlots] at hnone
    exact (packState_iff.1 h).2.1 orderId order (horders ▸ horder) hnone
  · have hc := h.conserved (hlots ▸ hlot) (horders ▸ horder)
    refine ⟨hc.original, ?_, ?_, ?_, hc.terminal⟩
    · rw [hcolumn]
      exact hc.refunded
    · rw [hm.covered [] (List.Subset.refl _), hc.collected]
      rfl
    · rw [hm.held [] (List.Subset.refl _), hc.held]
      exact add_zero _

/-- Lots, debts and orders change together: each lot keeps its stock, and what an order
    counts as refunded is again what its lot and its debt record. -/
theorem PackState.of_rows (h : PackState b) {orders : Table PackOrder}
    {lots : Table FundingLot} {debts : Table PackDebt}
    (hlots : ∀ lot' ∈ lots.rows, ∃ lot ∈ b.lots.rows, lot'.id = lot.id ∧
      lot'.orderId = lot.orderId ∧ lot'.originalCredits = lot.originalCredits ∧
      lot'.stock = lot.stock)
    (hkept : ∀ lot ∈ b.lots.rows, ∃ lot' ∈ lots.rows, lot'.id = lot.id ∧
      lot'.orderId = lot.orderId)
    (hdebts : ∀ orderId, debtColumn { b with packDebts := debts } orderId
        PackDebt.collectedCredits = debtColumn b orderId PackDebt.collectedCredits ∧
      debtColumn { b with packDebts := debts } orderId PackDebt.releasedCredits =
        debtColumn b orderId PackDebt.releasedCredits)
    (hgrow : ∀ orderId, (b.packDebts.find? orderId).isSome → (debts.find? orderId).isSome)
    (hnew : ∀ orderId, b.packDebts.find? orderId = none → debts.find? orderId = none ∨
      ∃ lot ∈ b.lots.rows, lot.orderId = orderId)
    (horders : ∀ orderId order', orders.find? orderId = some order' →
      ∃ order, b.orders.find? orderId = some order ∧ order'.packCredits = order.packCredits)
    (hrefunded : ∀ lot' ∈ lots.rows, ∀ order', orders.find? lot'.orderId = some order' →
      (order'.refundedCredits : ℤ) = lot'.cashClawedBackCredits +
        debtColumn { b with packDebts := debts } lot'.orderId PackDebt.targetCredits ∧
      (lot'.isTerminal = true → order'.refundedCredits = order'.packCredits)) :
    PackState { b with orders := orders, lots := lots, packDebts := debts } := by
  -- a lot is found again under its id, because no row of the old table is dropped
  have hlotSome : ∀ lotId, (b.lots.find? lotId).isSome → (lots.find? lotId).isSome := by
    intro lotId hsome
    obtain ⟨lot, hlot⟩ := Option.isSome_iff_exists.1 hsome
    obtain ⟨lot', hlot', hid, -⟩ := hkept lot (Table.find?_mem hlot)
    have hkey : lot'.id = lotId := hid.trans (Table.find?_key hlot)
    exact Option.isSome_iff_exists.2 ⟨lot', Table.find?_eq_some_iff.2 ⟨hlot', hkey⟩⟩
  -- the three parts of `packState_iff`: references, orders without a lot, lots
  refine packState_iff.2 ⟨?_, fun orderId order' horder' hnone => ?_,
    fun lot' hlot' order' horder' => ?_⟩
  · exact h.references.mono (fun _ h => h) hlotSome hgrow (fun a ha => ⟨a, ha, rfl, rfl⟩)
      fun d hd => ⟨d, hd, rfl⟩
  -- an order without a lot afterwards had none before, so a debt of it would be new
  · obtain ⟨order, horder, -⟩ := horders orderId order' horder'
    have hnoLot : ∀ lot ∈ b.lots.rows, lot.orderId ≠ orderId := by
      intro lot hlot horderId
      obtain ⟨lot', hlot', -, hoid⟩ := hkept lot hlot
      have hsome : lotOfOrder { b with orders := orders, lots := lots, packDebts := debts } orderId =
          some lot' := lotOfOrder_eq_some.2 ⟨hlot', hoid.trans horderId⟩
      rw [hnone] at hsome
      cases hsome
    have hnone' : lotOfOrder b orderId = none := by
      rw [Option.eq_none_iff_forall_ne_some]
      intro lot hlot
      exact hnoLot lot (lotOfOrder_eq_some.1 hlot).1 (lotOfOrder_eq_some.1 hlot).2
    have hdebt := (packState_iff.1 h).2.1 orderId order horder hnone'
    rcases hnew orderId hdebt with hfree | ⟨lot, hlot, horderId⟩
    · exact hfree
    · exact absurd horderId (hnoLot lot hlot)
  -- the lot comes from one with the same stock; only the refunded equation has to be given
  · obtain ⟨lot, hlot, hid, hoid, horiginal, hstock⟩ := hlots lot' hlot'
    obtain ⟨order, horder, hpack⟩ := horders _ _ horder'
    rw [hoid] at horder
    have hc := h.conserved hlot horder
    obtain ⟨hrefund, hterminal⟩ := hrefunded lot' hlot' order' horder'
    refine ⟨by rw [horiginal, hc.original, hpack], hrefund, ?_, ?_, hterminal⟩
    -- neither the covered column nor the collections of the order have moved
    · have hcollected := hc.collected
      unfold covered at hcollected ⊢
      rw [← hcollected, ← (hdebts lot.orderId).1, ← hoid]
      rfl
    -- nor has the held column: the stock is the old one and so is what was released
    · have hheld := hc.held
      have hfind : b.lots.find? lot.id = some lot := Table.find?_of_mem hlot
      have hfind' : lots.find? lot'.id = some lot' := Table.find?_of_mem hlot'
      unfold held at hheld ⊢
      rw [hfind, Option.elim_some, ← (hdebts lot.orderId).2] at hheld
      simp only [hfind', Option.elim_some, hstock, hpack]
      rw [← hheld, hoid, hid]
      rfl

/-- An update of orders that keeps their atoms. -/
theorem PackState.updateOrder (h : PackState b) {k : String} {f : PackOrder → PackOrder}
    {t : Table PackOrder} (ht : b.orders.update? k f = some t)
    (hf : ∀ o, (f o).id = o.id ∧ (f o).packCredits = o.packCredits ∧
      (f o).refundedCredits = o.refundedCredits) : PackState { b with orders := t } := by
  have hfind : ∀ orderId order', t.find? orderId = some order' →
      ∃ order, b.orders.find? orderId = some order ∧ order'.packCredits = order.packCredits ∧
        order'.refundedCredits = order.refundedCredits := by
    intro orderId order' horder'
    rw [Table.find?_updateWhere ht fun o => (hf o).1] at horder'
    obtain ⟨order, horder, rfl⟩ := Option.map_eq_some_iff.1 horder'
    refine ⟨order, horder, ?_⟩
    split
    · exact (hf order).2
    · exact ⟨rfl, rfl⟩
  change PackState { b with orders := t, lots := b.lots, packDebts := b.packDebts }
  refine h.of_rows (fun lot hlot => ⟨lot, hlot, rfl, rfl, rfl, rfl⟩)
    (fun lot hlot => ⟨lot, hlot, rfl, rfl⟩) (fun _ => ⟨rfl, rfl⟩) (fun _ h => h) (fun _ h => .inl h)
    (fun orderId order' horder' => ?_) fun lot hlot order' horder' => ?_
  · obtain ⟨order, horder, hpack, -⟩ := hfind orderId order' horder'
    exact ⟨order, horder, hpack⟩
  · obtain ⟨order, horder, hpack, hrefunded⟩ := hfind lot.orderId order' horder'
    have hc := h.conserved hlot horder
    rw [hrefunded, hpack]
    exact ⟨hc.refunded, hc.terminal⟩

/-- A new lot that holds the whole pack of an order without one. -/
theorem PackState.insertLot (h : PackState b) {lot : FundingLot} {order : PackOrder}
    {t : Table FundingLot} (ht : b.lots.insert? lot = some t)
    (horder : b.orders.find? lot.orderId = some order)
    (hnone : lotOfOrder b lot.orderId = none)
    (hlot : lot.originalCredits = order.packCredits ∧ lot.stock = order.packCredits ∧
      order.refundedCredits = lot.cashClawedBackCredits ∧
      (lot.isTerminal = true → order.refundedCredits = order.packCredits)) :
    PackState { b with lots := t } := by
  have hfresh : b.lots.find? lot.id = none := Table.find?_eq_none_of_insert ht
  have hdebt := (packState_iff.1 h).2.1 lot.orderId order horder hnone
  have hgrow : ∀ lotId, (b.lots.find? lotId).isSome → (t.find? lotId).isSome := by
    intro lotId hsome
    rw [Table.find?_insert ht]
    split
    · rfl
    · exact hsome
  refine packState_iff.2 ⟨?_, fun orderId order' horder' hnone' => ?_,
    fun l hl order' horder' => ?_⟩
  · exact h.references.mono (fun _ h => h) hgrow (fun _ h => h) (fun a ha => ⟨a, ha, rfl, rfl⟩)
      fun d hd => ⟨d, hd, rfl⟩
  · refine (packState_iff.1 h).2.1 orderId order' horder' ?_
    rw [Option.eq_none_iff_forall_ne_some]
    intro l hl
    obtain ⟨hmem, hoid⟩ := lotOfOrder_eq_some.1 hl
    have hmem' : l ∈ t.rows := by
      rw [Table.insert?_eq_some.1 ht]
      exact List.mem_append_left _ hmem
    have hsome : lotOfOrder { b with lots := t } orderId = some l :=
      lotOfOrder_eq_some.2 ⟨hmem', hoid⟩
    rw [hnone'] at hsome
    cases hsome
  · change l ∈ t.rows at hl
    rw [Table.insert?_eq_some.1 ht, List.mem_append, List.mem_singleton] at hl
    rcases hl with hl | rfl
    · have hc := h.conserved hl horder'
      have hne : lot.id ≠ l.id := by
        intro heq
        have hfind : b.lots.find? l.id = some l := Table.find?_of_mem hl
        rw [← heq, hfresh] at hfind
        cases hfind
      refine ⟨hc.original, hc.refunded, hc.collected, ?_, hc.terminal⟩
      have hheld := hc.held
      unfold held at hheld ⊢
      have hfind : t.find? l.id = b.lots.find? l.id := by
        rw [Table.find?_insert ht]
        exact if_neg hne
      simp only [hfind]
      exact hheld
    · have hsame : order' = order := Option.some.inj (horder'.symm.trans horder)
      subst hsame
      obtain ⟨horiginal, hstock, hrefunded, hterminal⟩ := hlot
      -- nothing refers to the new lot, and nothing was collected for its order
      have hallocated : b.allocations.total (lotWeight [] l.id) = 0 := by
        refine List.sum_eq_zero fun x hx => ?_
        obtain ⟨a, ha, rfl⟩ := List.mem_map.1 hx
        refine if_neg fun hsource => ?_
        have hsome := h.references.lot a ha l.id hsource.1
        rw [hfresh] at hsome
        cases hsome
      have hcollected : b.allocations.total (collectionWeight b [] l.orderId) = 0 := by
        refine List.sum_eq_zero fun x hx => ?_
        obtain ⟨a, ha, rfl⟩ := List.mem_map.1 hx
        refine if_neg fun hcollects => ?_
        obtain ⟨d, hd, hkind⟩ := (Option.any_eq_true _ _).1 hcollects.1
        simp only [Bool.and_eq_true, decide_eq_true_eq] at hkind
        have hsome := h.references.debt d (Table.find?_mem hd) l.orderId hkind.2
        rw [hdebt] at hsome
        cases hsome
      have hcolumn : ∀ column, debtColumn b l.orderId column = 0 := by
        intro column
        rw [debtColumn, hdebt, Option.elim_none]
      have hfind : t.find? l.id = some l := by
        rw [Table.find?_insert ht]
        exact if_pos rfl
      refine ⟨horiginal, ?_, ?_, ?_, hterminal⟩
      · rw [hrefunded]
        change _ = _ + debtColumn b l.orderId PackDebt.targetCredits
        rw [hcolumn, add_zero]
      · unfold covered
        change debtColumn b l.orderId PackDebt.collectedCredits -
          b.allocations.total (collectionWeight b [] l.orderId) = 0
        rw [hcolumn, hcollected, sub_zero]
      · unfold held
        simp only [hfind, Option.elim_some]
        change l.stock + debtColumn b l.orderId PackDebt.releasedCredits +
          b.allocations.total (lotWeight [] l.id) = order'.packCredits
        rw [hcolumn, hallocated, hstock, add_zero, add_zero]

/-! ## Payments -/

theorem lockedOrder_eq_some {orderId accountId : String} {account : Account} {order : PackOrder}
    (h : lockedOrder b orderId accountId = some (account, order)) :
    b.orders.find? order.id = some order ∧ b.accounts.find? account.id = some account ∧
      order.id = orderId ∧ order.accountId = account.id := by
  simp only [lockedOrder, Option.bind_eq_bind, Option.bind_eq_some_iff,
    Option.filter_eq_some_iff, decide_eq_true_eq, Option.pure_def, Option.some.injEq,
    Prod.mk.injEq] at h
  obtain ⟨order', ⟨horder, howner⟩, account', haccount, rfl, rfl⟩ := h
  have hid : order'.id = orderId := Table.find?_key horder
  have haid : account'.id = accountId := Table.find?_key haccount
  exact ⟨hid ▸ horder, haid ▸ haccount, hid, howner.trans haid.symm⟩

/-- A payment that passed its guards names an order of the database. -/
theorem packPaymentGuards_eq_ok {e : Event} {p : PackPayment}
    (h : packPaymentGuards cfg b e = .ok p) :
    b.orders.find? p.order.id = some p.order ∧ b.accounts.find? p.account.id = some p.account ∧
      p.order.accountId = p.account.id ∧ p.amount = p.order.priceAmount := by
  simp only [packPaymentGuards, bind_eq_ok, fetch_eq_ok, pure_eq_ok] at h
  obtain ⟨_, -, _, -, ⟨account, order⟩, hlocked, _, -, _, -, _, -, _, -, _, -, rfl⟩ := h
  obtain ⟨horder, haccount, -, howner⟩ := lockedOrder_eq_some hlocked
  exact ⟨horder, haccount, howner, rfl⟩

theorem bindCustomer_eq_ok {account : Account} {customerId : Option String}
    (h : bindCustomer b account customerId = .ok b') :
    ∃ accounts, b' = { b with accounts := accounts } := by
  unfold bindCustomer at h
  split at h
  · rw [Billing.update_eq_ok] at h
    obtain ⟨t, -, rfl⟩ := h
    exact ⟨t, rfl⟩
  · rw [pure_eq_ok] at h
    exact ⟨b.accounts, h.symm⟩

/-- A payment projects its order, and funds a lot where the order has none. -/
theorem applyPackPayment_eq_ok {p : PackPayment} {effect : Effect}
    (h : applyPackPayment tx b p = .ok effect) :
    ∃ orders accounts, b.orders.update? p.order.id p.projectOrder = some orders ∧
      bindCustomer { b with orders := orders } p.account (some p.customerId) =
        .ok { b with orders := orders, accounts := accounts } ∧
      ((lotOfOrder b p.order.id).isSome ∧
          effect.billing = { b with orders := orders, accounts := accounts } ∨
        lotOfOrder b p.order.id = none ∧ ∃ lots,
          b.lots.insert? (p.lot tx (tx.uuid b.lots.rows.length)) = some lots ∧
          (effect.billing = { b with orders := orders, accounts := accounts, lots := lots } ∨
            (p.lot tx (tx.uuid b.lots.rows.length)).status = .active ∧ ∃ collected,
              collectPackDebtsFromLot tx
                { b with orders := orders, accounts := accounts, lots := lots } p.account.id
                (p.lot tx (tx.uuid b.lots.rows.length)).id
                (p.lot tx (tx.uuid b.lots.rows.length)).remainingCredits =
                  .ok (effect.billing, collected))) := by
  simp only [applyPackPayment, bind_eq_ok, Billing.update_eq_ok, Stored.table,
    Stored.install] at h
  obtain ⟨_, ⟨orders, horders, rfl⟩, b₁, hbind, h⟩ := h
  -- the Customer is bound between the order and the lot, and writes accounts only
  obtain ⟨accounts, rfl⟩ := bindCustomer_eq_ok hbind
  refine ⟨orders, accounts, horders, hbind, ?_⟩
  -- a second payment of the order finds its lot and stops there
  split at h
  case isTrue hlot =>
    rw [pure_eq_ok] at h
    subst h
    exact .inl ⟨hlot, rfl⟩
  case isFalse hnone =>
    rw [Bool.not_eq_true, Option.isSome_eq_false_iff, Option.isNone_iff_eq_none] at hnone
    simp only [bind_eq_ok, fundLot, Billing.insert_eq_ok, Stored.table, Stored.install,
      pure_eq_ok] at h
    obtain ⟨b₂, ⟨_, ⟨lots, hlots, rfl⟩, hcollect⟩, rfl⟩ := h
    refine .inr ⟨hnone, lots, hlots, ?_⟩
    -- only an active lot pays debts on its arrival
    split at hcollect
    case isTrue hactive =>
      simp only [Bool.and_eq_true, decide_eq_true_eq] at hactive
      simp only [bind_eq_ok, pure_eq_ok] at hcollect
      obtain ⟨⟨b₃, collected⟩, hrun, rfl⟩ := hcollect
      exact .inr ⟨hactive.1, collected, hrun⟩
    case isFalse =>
      rw [pure_eq_ok] at hcollect
      exact .inl hcollect.symm

/-- The lot of a payment holds the whole pack, minus what was already clawed back. -/
theorem PackPayment.lot_conserved (p : PackPayment) (tx : Tx) (lotId : String)
    (horder : b.orders.find? p.order.id = some p.order) :
    let lot := p.lot tx lotId
    lot.originalCredits = p.order.packCredits ∧ lot.stock = p.order.packCredits ∧
      p.order.refundedCredits = lot.cashClawedBackCredits ∧
      (lot.isTerminal = true → p.order.refundedCredits = p.order.packCredits) := by
  obtain ⟨-, -, hle, -, hcash⟩ :=
    PackOrder.cash_checked (b.orders.valid.checked p.order (Table.find?_mem horder))
  -- a disputed order has refunded its whole pack
  have hdisputed : p.order.statusAfterPayment = .disputed →
      p.order.refundedCredits = p.order.packCredits := by
    intro hstatus
    have hs : p.order.paymentStatus = .disputed := by
      unfold PackOrder.statusAfterPayment at hstatus
      split at hstatus
      · cases hstatus
      · exact hstatus
    simp only [PackOrder.statusCheck, hs, Bool.and_eq_true, decide_eq_true_eq] at hcash
    exact hcash.2
  dsimp only
  refine ⟨rfl, ?_, rfl, fun hterminal => ?_⟩
  · unfold FundingLot.stock PackPayment.lot
    by_cases hd : p.order.statusAfterPayment = .disputed
    · have := hdisputed hd
      simp only [hd, this]
      simp
    · by_cases hfull : p.order.refundedCredits = p.order.packCredits
      · simp [hd, hfull]
      · by_cases hexpired : p.paidAt + p.order.expiresDays * dayMicros ≤ tx.wall <;>
          simp [hd, hfull, hexpired] <;> omega
  · unfold FundingLot.isTerminal PackPayment.lot at hterminal
    by_cases hd : p.order.statusAfterPayment = .disputed
    · exact hdisputed hd
    · by_cases hfull : p.order.refundedCredits = p.order.packCredits
      · exact hfull
      · simp only [hd, hfull] at hterminal
        simp at hterminal
        split at hterminal <;> simp_all

/-- `payment_succeeded` keeps the pack state. -/
theorem paymentSucceeded_packState {e : Event} {effect : Effect} (hs : PackState b)
    (h : paymentSucceeded cfg tx b e = .ok effect) : PackState effect.billing := by
  rcases Guarded.andThen_eq_ok h with ⟨heq, -⟩ | ⟨p, hguards, happly⟩
  · rw [heq]
    exact hs
  obtain ⟨horder, -⟩ := packPaymentGuards_eq_ok hguards
  obtain ⟨orders, accounts, horders, -, hcase⟩ := applyPackPayment_eq_ok happly
  -- the order's cash facts enter no equation
  have hs₁ : PackState { b with orders := orders } :=
    hs.updateOrder horders fun o => ⟨rfl, rfl, rfl⟩
  have hs₂ : PackState { b with orders := orders, accounts := accounts } :=
    hs₁.of_eq rfl rfl rfl rfl rfl
  rcases hcase with ⟨-, heq⟩ | ⟨hnone, lots, hlots, hcase⟩
  · rw [heq]
    exact hs₂
  -- the order of the new lot is the projected one
  have hfind : orders.find? p.order.id = some (p.projectOrder p.order) := by
    rw [Table.find?_update_self horders fun _ => rfl, horder]
    rfl
  have hlot := p.lot_conserved tx (tx.uuid b.lots.rows.length) horder
  have hs₃ := hs₂.insertLot hlots hfind hnone hlot
  have hinserted := Table.find?_insert hlots (p.lot tx (tx.uuid b.lots.rows.length)).id
  rw [show Relation.key (p.lot tx (tx.uuid b.lots.rows.length)) =
    (p.lot tx (tx.uuid b.lots.rows.length)).id from rfl, if_pos rfl] at hinserted
  -- a new lot offers exactly what it holds
  rcases hcase with heq | ⟨-, collected, hrun⟩
  · rw [heq]
    exact hs₃
  · refine hs₃.collectPackDebtsFromLot (fun l hl => ?_) hrun
    have heq := Option.some.inj (hinserted.symm.trans hl)
    exact heq ▸ le_refl _

/-! ## Clawbacks -/

/-- A clawback that passed its guards names an order of the database. -/
theorem packClawbackGuards_eq_ok {e : Event} {charge paymentIntent : Json}
    {identity : PackIdentity} {c : PackClawback}
    (h : packClawbackGuards cfg b e charge paymentIntent identity = .ok c) :
    b.orders.find? c.order.id = some c.order ∧ b.accounts.find? c.account.id = some c.account ∧
      c.order.accountId = c.account.id ∧ c.amount = c.order.priceAmount ∧
      c.amountRefunded ≤ c.amount ∧ (c.dispute = false → 0 < c.amountRefunded) := by
  simp only [packClawbackGuards, bind_eq_ok, fetch_eq_ok, require_eq_ok, pure_eq_ok] at h
  obtain ⟨⟨account, order⟩, hlocked, chargeId, -, customerId, -, amount, -, refunded, -, _,
    hrequire, rfl⟩ := h
  obtain ⟨horder, haccount, -, howner⟩ := lockedOrder_eq_some hlocked
  simp only [Bool.and_eq_true, Bool.or_eq_true, decide_eq_true_eq] at hrequire
  refine ⟨horder, haccount, howner, ?_, ?_, ?_⟩
  · tauto
  · tauto
  · intro hdispute
    dsimp only at hdispute
    simp only [decide_eq_false_iff_not] at hdispute
    tauto

/-- Booking missing atoms raises the target of the order's debt and nothing else. -/
theorem recordPackDebt_eq_ok {c : PackClawback} {missing : Nat}
    (h : recordPackDebt tx b c missing = .ok b') :
    ∃ debts, b' = { b with packDebts := debts } ∧
      (∀ orderId, debtColumn b' orderId PackDebt.collectedCredits =
          debtColumn b orderId PackDebt.collectedCredits ∧
        debtColumn b' orderId PackDebt.releasedCredits =
          debtColumn b orderId PackDebt.releasedCredits ∧
        debtColumn b' orderId PackDebt.targetCredits =
          debtColumn b orderId PackDebt.targetCredits +
            if orderId = c.order.id then (missing : ℤ) else 0) ∧
      (∀ orderId, (b.packDebts.find? orderId).isSome → (debts.find? orderId).isSome) ∧
      ∀ orderId, b.packDebts.find? orderId = none → debts.find? orderId = none ∨
        orderId = c.order.id := by
  unfold recordPackDebt at h
  split at h
  -- nothing is missing, so no row is written
  case isTrue hzero =>
    rw [pure_eq_ok] at h
    subst h
    exact ⟨b.packDebts, rfl, fun _ => ⟨rfl, rfl, by simp [hzero]⟩, fun _ h => h, fun _ h => .inl h⟩
  case isFalse =>
    split at h
    -- no debt yet: the inserted row starts with nothing collected and nothing released
    case h_1 hnone =>
      rw [Billing.insert_eq_ok] at h
      obtain ⟨debts, hdebts, rfl⟩ := h
      have hfind := Table.find?_insert hdebts
      simp only [Relation.key] at hfind
      refine ⟨debts, rfl, fun orderId => ?_, fun orderId hsome => ?_, fun orderId hfree => ?_⟩
      · by_cases heq : orderId = c.order.id
        · subst heq
          simp [debtColumn, Stored.install, hfind, hnone]
        · have hother : debts.find? orderId = b.packDebts.find? orderId := by
            rw [hfind, if_neg (Ne.symm heq)]
            rfl
          simp [debtColumn, Stored.install, hother, heq]
      · rw [hfind]
        split
        · rfl
        · exact hsome
      · by_cases heq : orderId = c.order.id
        · exact .inr heq
        · rw [hfind, if_neg (Ne.symm heq)]
          exact .inl hfree
    -- a debt is raised in place, its two other columns kept
    case h_2 d hd =>
      simp only [bind_eq_ok, checkedAddAtoms_eq_ok, Billing.update_eq_ok, Stored.table,
        Stored.install] at h
      obtain ⟨_, ⟨rfl, -⟩, debts, hdebts, rfl⟩ := h
      have hself := Table.find?_update_self hdebts fun _ => rfl
      rw [hd, Option.map_some] at hself
      have hother : ∀ orderId, orderId ≠ c.order.id →
          debts.find? orderId = b.packDebts.find? orderId := fun orderId hne =>
        Table.find?_update_ne hdebts (fun _ => rfl) hne
      refine ⟨debts, rfl, fun orderId => ?_, fun orderId hsome => ?_, fun orderId hfree => ?_⟩
      · by_cases heq : orderId = c.order.id
        · subst heq
          simp [debtColumn, hself, hd]
        · simp [debtColumn, hother orderId heq, heq]
      · by_cases heq : orderId = c.order.id
        · rw [heq, hself]
          rfl
        · rw [hother orderId heq]
          exact hsome
      · by_cases heq : orderId = c.order.id
        · exact .inr heq
        · rw [hother orderId heq]
          exact .inl hfree

/-- A lot whose window closed expires before the clawback looks at it. -/
theorem expireClawbackLot_packState {lot lot' : FundingLot} (hs : PackState b)
    (hlot : lot ∈ b.lots.rows) (h : expireClawbackLot tx b lot = .ok (b', lot')) :
    PackState b' ∧ lot' ∈ b'.lots.rows ∧ lot'.id = lot.id ∧ lot'.orderId = lot.orderId ∧
      ∃ lots, b' = { b with lots := lots } := by
  unfold expireClawbackLot at h
  split at h
  · simp only [bind_eq_ok, Billing.update_eq_ok, pure_eq_ok, Stored.table, Stored.install] at h
    obtain ⟨_, ⟨lots, hlots, rfl⟩, heq⟩ := h
    cases heq
    have hm : Moves [] 0 0 b { b with lots := lots } :=
      .updateLots hs.linked hlots (fun _ => rfl) (fun l _ _ => l.stock_expire _) fun l hterminal => by
        simp [FundingLot.isTerminal, FundingLot.expire] at hterminal
    have hf : CreditFrame b { b with lots := lots } := .updateLots hlots fun _ => rfl
    refine ⟨hs.of_moves hf hm, ?_, rfl, rfl, lots, rfl⟩
    have hself := Table.find?_update_self hlots fun _ => rfl
    have hfind : b.lots.find? lot.id = some lot := Table.find?_of_mem hlot
    rw [hfind, Option.map_some] at hself
    exact Table.find?_mem hself
  · rw [pure_eq_ok] at h
    cases h
    exact ⟨hs, hlot, rfl, rfl, b.lots, rfl⟩

/-- Taking atoms from a lot and booking the rest as debt, once the lot is current, accounts
    for the whole clawback. -/
theorem PackState.claw {c : PackClawback} {lot : FundingLot} {f : FundingLot → FundingLot}
    {lots : Table FundingLot} {debts : Table PackDebt} {orders : Table PackOrder}
    {removed missing : Nat} (hs : PackState b) (hlot : lot ∈ b.lots.rows)
    (hoid : lot.orderId = c.order.id) (horder : b.orders.find? c.order.id = some c.order)
    (hlots : b.lots.update? lot.id f = some lots)
    (hf : ∀ l, (f l).id = l.id ∧ (f l).orderId = l.orderId ∧
      (f l).originalCredits = l.originalCredits)
    (hstock : (f lot).stock = lot.stock)
    (hclawed : (f lot).cashClawedBackCredits = lot.cashClawedBackCredits + removed)
    (hterminal : (f lot).isTerminal = true → c.targetAtoms = c.order.packCredits ∨
      lot.isTerminal = true)
    (hdebts : recordPackDebt tx { b with lots := lots } c missing =
      .ok { b with lots := lots, packDebts := debts })
    (horders : b.orders.update? c.order.id (fun o : PackOrder =>
      { c.projectOrder o with refundedCredits := c.targetAtoms }) = some orders)
    (htarget : c.targetAtoms = c.order.refundedCredits + removed + missing) :
    PackState { b with orders := orders, lots := lots, packDebts := debts } := by
  -- the debt's columns first: only the target of this order moves
  obtain ⟨debts', heq, hcolumns, hgrow, hnew⟩ := recordPackDebt_eq_ok hdebts
  obtain rfl : debts = debts' := congrArg Billing.packDebts heq
  have hcolumn : ∀ orderId column,
      debtColumn { b with lots := lots, packDebts := debts } orderId column =
        debtColumn { b with packDebts := debts } orderId column := fun _ _ => rfl
  -- every row of the new table is an old lot other than this one, or this one rewritten
  have hrow : ∀ l' ∈ lots.rows, (∃ l ∈ b.lots.rows, l.id ≠ lot.id ∧ l' = l) ∨ l' = f lot := by
    intro l' hl'
    rw [Table.update?_eq_some.1 hlots] at hl'
    obtain ⟨l, hl, rfl⟩ := List.mem_map.1 hl'
    by_cases hid : l.id = lot.id
    · have : l = lot := b.lots.eq_of_key_eq hl hlot hid
      subst this
      exact .inr (if_pos rfl)
    · exact .inl ⟨l, hl, hid, if_neg hid⟩
  -- the order found afterwards is the projected order with its new target
  have hfirst := Table.find?_update_self horders fun _ => rfl
  rw [horder, Option.map_some] at hfirst
  refine hs.of_rows (fun l' hl' => ?_) (fun l hl => ?_) (fun orderId => ?_) hgrow
    (fun orderId hfree => ?_) (fun orderId order' horder' => ?_) fun l' hl' order' horder' => ?_
  · rcases hrow l' hl' with ⟨l, hl, -, rfl⟩ | rfl
    · exact ⟨l', hl, rfl, rfl, rfl, rfl⟩
    · exact ⟨lot, hlot, (hf lot).1, (hf lot).2.1, (hf lot).2.2, hstock⟩
  · have hmem : (if l.id = lot.id then f l else l) ∈ lots.rows := by
      rw [Table.update?_eq_some.1 hlots]
      exact List.mem_map.2 ⟨l, hl, rfl⟩
    refine ⟨_, hmem, ?_⟩
    split
    · exact ⟨(hf l).1, (hf l).2.1⟩
    · exact ⟨rfl, rfl⟩
  · exact ⟨(hcolumns orderId).1, (hcolumns orderId).2.1⟩
  · rcases hnew orderId hfree with hfree' | rfl
    · exact .inl hfree'
    · exact .inr ⟨lot, hlot, hoid⟩
  · rw [Table.find?_updateWhere horders fun _ => rfl] at horder'
    obtain ⟨order, ho, rfl⟩ := Option.map_eq_some_iff.1 horder'
    refine ⟨order, ho, ?_⟩
    split <;> rfl
  · rw [← hcolumn, (hcolumns l'.orderId).2.2]
    rcases hrow l' hl' with ⟨l, hl, hne, rfl⟩ | rfl
    · -- another lot and its order are untouched
      have hother : l'.orderId ≠ c.order.id := by
        intro heq
        exact hne (congrArg FundingLot.id
          (b.lots.eq_of_index_eq List.mem_cons_self hl hlot (by rw [heq, hoid]) rfl))
      rw [Table.find?_update_ne horders (fun _ => rfl) hother] at horder'
      have hc := hs.conserved hl horder'
      rw [if_neg hother, add_zero]
      exact ⟨hc.refunded, hc.terminal⟩
    · rw [(hf lot).2.1, hoid] at horder' ⊢
      rw [hfirst, Option.some.injEq] at horder'
      subst horder'
      have hc := hs.conserved hlot (hoid ▸ horder)
      have hrefunded := hc.refunded
      rw [hoid] at hrefunded
      have hsame : debtColumn { b with lots := lots } c.order.id PackDebt.targetCredits =
        debtColumn b c.order.id PackDebt.targetCredits := rfl
      refine ⟨?_, fun hclosed => ?_⟩
      -- the order's target is what was removed from the lot plus what was booked as debt
      · rw [if_pos rfl, hclawed, hsame]
        push_cast
        omega
      -- a terminal lot needs the whole pack refunded, which the order's own check bounds
      · obtain ⟨-, -, hle, -⟩ := PackOrder.cash_checked (orders.valid.checked _ (Table.find?_mem hfirst))
        change c.targetAtoms ≤ c.order.packCredits at hle
        change c.targetAtoms = c.order.packCredits
        rcases hterminal hclosed with hfull | hclosed'
        · exact hfull
        · have := hc.terminal hclosed'
          omega

/-- The funding of an order that has a lot, after the whole clawback. -/
theorem clawFunding_packState {c : PackClawback} {removed : Nat} {b₁ : Billing}
    {orders : Table PackOrder} (hs : PackState b)
    (horder : b.orders.find? c.order.id = some c.order)
    (hadvance : c.order.refundedCredits < c.targetAtoms)
    (hclaw : clawFunding tx b c (c.targetAtoms - c.order.refundedCredits) = .ok (b₁, removed))
    (horders : b₁.orders.update? c.order.id (fun o : PackOrder =>
      { c.projectOrder o with refundedCredits := c.targetAtoms }) = some orders) :
    PackState { b₁ with orders := orders } := by
  unfold clawFunding at hclaw
  split at hclaw
  case h_1 hnone =>
    -- no lot yet: only a later grant gets smaller
    rw [pure_eq_ok] at hclaw
    cases hclaw
    have hnoLot : ∀ lot ∈ b.lots.rows, lot.orderId ≠ c.order.id := by
      intro lot hlot heq
      have hsome := lotOfOrder_eq_some.2 ⟨hlot, heq⟩
      rw [hnone] at hsome
      cases hsome
    change PackState { b with orders := orders, lots := b.lots, packDebts := b.packDebts }
    refine hs.of_rows (fun lot hlot => ⟨lot, hlot, rfl, rfl, rfl, rfl⟩)
      (fun lot hlot => ⟨lot, hlot, rfl, rfl⟩) (fun _ => ⟨rfl, rfl⟩) (fun _ h => h)
      (fun _ h => .inl h) (fun orderId order' horder' => ?_) fun lot hlot order' horder' => ?_
    · rw [Table.find?_updateWhere horders fun _ => rfl] at horder'
      obtain ⟨order, ho, rfl⟩ := Option.map_eq_some_iff.1 horder'
      refine ⟨order, ho, ?_⟩
      split <;> rfl
    · rw [Table.find?_update_ne horders (fun _ => rfl) (hnoLot lot hlot)] at horder'
      have hc := hs.conserved hlot horder'
      exact ⟨hc.refunded, hc.terminal⟩
  case h_2 lot hlot =>
    obtain ⟨hmem, hoid⟩ := lotOfOrder_eq_some.1 hlot
    simp only [bind_eq_ok, clawLot, checkedAddAtoms_eq_ok, Billing.update_eq_ok, pure_eq_ok,
      Stored.table, Stored.install] at hclaw
    obtain ⟨⟨b₂, removed'⟩, ⟨⟨b₃, lot'⟩, hexpire, _, ⟨rfl, -⟩, _, ⟨lots, hlots, rfl⟩, heq⟩, b₄,
      hdebts, heq'⟩ := hclaw
    cases heq
    cases heq'
    obtain ⟨hs', hmem', hid, hoid', lots', rfl⟩ := expireClawbackLot_packState hs hmem hexpire
    obtain ⟨debts, rfl, -⟩ := recordPackDebt_eq_ok hdebts
    refine hs'.claw hmem' (hoid'.trans hoid) horder hlots (fun _ => ⟨rfl, rfl, rfl⟩) ?_ rfl
      (fun hclosed => ?_) hdebts horders ?_
    · simp only [FundingLot.stock]
      split <;> omega
    · simp only [FundingLot.isTerminal] at hclosed ⊢
      by_cases hfull : c.dispute = true ∨ c.targetAtoms = c.order.packCredits
      · refine .inl ?_
        rcases hfull with hdispute | hfull
        · simp [PackClawback.targetAtoms, hdispute]
        · exact hfull
      · rw [not_or] at hfull
        simp only [hfull.1, hfull.2] at hclosed
        exact .inr (by simpa using hclosed)
    · have hle : (if lot'.status = .active then
          min (c.targetAtoms - c.order.refundedCredits) lot'.remainingCredits else 0) ≤
          c.targetAtoms - c.order.refundedCredits := by
        split
        · exact Nat.min_le_left _ _
        · exact Nat.zero_le _
      dsimp only
      omega

/-- A repeated clawback only advances cash facts, and a dispute closes an empty lot. -/
theorem advancePackCash_packState {c : PackClawback} {effect : Effect} (hs : PackState b)
    (horder : b.orders.find? c.order.id = some c.order)
    (hrepeat : c.targetAtoms ≤ c.order.refundedCredits)
    (h : advancePackCash tx b c = .ok effect) : PackState effect.billing := by
  -- the cash facts did not advance
  unfold advancePackCash at h
  split at h
  case isFalse =>
    rw [pure_eq_ok] at h
    subst h
    exact hs
  simp only [bind_eq_ok, Billing.update_eq_ok, Stored.table, Stored.install] at h
  obtain ⟨_, ⟨orders, horders, rfl⟩, h⟩ := h
  -- the projected order keeps its refunded credits
  have hs₁ : PackState { b with orders := orders } :=
    hs.updateOrder horders fun o => ⟨rfl, rfl, rfl⟩
  split at h
  case isFalse =>
    simp only [bind_eq_ok, pure_eq_ok] at h
    obtain ⟨_, rfl, rfl⟩ := h
    exact hs₁
  -- the dispute closes an empty lot of the order, all its stock columns as they were
  case isTrue hdispute =>
    simp only [bind_eq_ok, Billing.updateWhere_eq_ok, pure_eq_ok, Stored.table,
      Stored.install] at h
    obtain ⟨_, ⟨lots, hlots, rfl⟩, rfl⟩ := h
    have hself := Table.find?_update_self horders fun _ => rfl
    rw [horder, Option.map_some] at hself
    have hrow : ∀ l' ∈ lots.rows, ∃ l ∈ b.lots.rows, l'.id = l.id ∧ l'.orderId = l.orderId ∧
        l'.originalCredits = l.originalCredits ∧ l'.stock = l.stock ∧
        l'.cashClawedBackCredits = l.cashClawedBackCredits ∧
        (l.orderId = c.order.id ∨ l' = l) := by
      intro l' hl'
      have hrows := Table.updateWhere?_eq_some.1 hlots
      rw [hrows] at hl'
      obtain ⟨l, hl, rfl⟩ := List.mem_map.1 hl'
      refine ⟨l, hl, ?_⟩
      split
      case isTrue hp =>
        simp only [Bool.and_eq_true, decide_eq_true_eq] at hp
        exact ⟨rfl, rfl, rfl, rfl, rfl, .inl hp.1⟩
      case isFalse => exact ⟨rfl, rfl, rfl, rfl, rfl, .inr rfl⟩
    change PackState { ({ b with orders := orders } : Billing) with
      orders := orders, lots := lots, packDebts := b.packDebts }
    refine hs₁.of_rows (fun l' hl' => ?_) (fun l hl => ?_) (fun _ => ⟨rfl, rfl⟩) (fun _ h => h)
      (fun _ h => .inl h) (fun orderId order' horder' => ⟨order', horder', rfl⟩)
      fun l' hl' order' horder' => ?_
    · obtain ⟨l, hl, hid, hoid, horiginal, hstock, -⟩ := hrow l' hl'
      exact ⟨l, hl, hid, hoid, horiginal, hstock⟩
    · have hrows := Table.updateWhere?_eq_some.1 hlots
      refine ⟨_, hrows ▸ List.mem_map_of_mem hl, ?_⟩
      split <;> exact ⟨rfl, rfl⟩
    · obtain ⟨l, hl, hid, hoid, -, -, hclawed, hcase⟩ := hrow l' hl'
      rw [hoid] at horder' ⊢
      have hc := hs₁.conserved hl horder'
      rw [hclawed]
      refine ⟨hc.refunded, fun hclosed => ?_⟩
      rcases hcase with heq | rfl
      · -- a disputed order was clawed back in full before
        rw [heq, hself, Option.some.injEq] at horder'
        subst horder'
        obtain ⟨-, -, hle, -⟩ :=
          PackOrder.cash_checked (b.orders.valid.checked c.order (Table.find?_mem horder))
        have hfull : c.targetAtoms = c.order.packCredits := by
          simp [PackClawback.targetAtoms, hdispute]
        change c.order.refundedCredits = c.order.packCredits
        omega
      · exact hc.terminal hclosed

/-- The effects of a clawback keep the pack state. -/
theorem PackState.clawback {c : PackClawback} {effect : Effect} (hs : PackState b)
    (horder : b.orders.find? c.order.id = some c.order)
    (h : applyPackClawback tx b c = .ok effect) : PackState effect.billing := by
  simp only [applyPackClawback, bind_eq_ok] at h
  obtain ⟨b₁, hbind, h⟩ := h
  obtain ⟨accounts, rfl⟩ := bindCustomer_eq_ok hbind
  have hs₁ : PackState { b with accounts := accounts } := hs.of_eq rfl rfl rfl rfl rfl
  split at h
  case isTrue hrepeat => exact advancePackCash_packState hs₁ horder hrepeat h
  case isFalse hadvance =>
    simp only [bind_eq_ok, Billing.update_eq_ok, pure_eq_ok, Stored.table,
      Stored.install] at h
    obtain ⟨⟨b₂, removed⟩, hclaw, _, ⟨orders, horders, rfl⟩, rfl⟩ := h
    exact clawFunding_packState hs₁ horder (by omega) hclaw horders

/-- `clawback` keeps the pack state. -/
theorem packClawback_packState {e : Event} {run : Transaction Effect} {effect : Effect}
    (hs : PackState b) (hrun : packClawback cfg tx b e = some run) (h : run = .ok effect) :
    PackState effect.billing := by
  simp only [packClawback, Option.bind_eq_bind, Option.bind_eq_some_iff, Option.some.injEq] at hrun
  obtain ⟨-, -, identity, -, -, -, rfl⟩ := hrun
  rcases Guarded.andThen_eq_ok h with ⟨heq, -⟩ | ⟨c, hguards, happly⟩
  · rw [heq]
    exact hs
  exact hs.clawback (packClawbackGuards_eq_ok hguards).1 happly

/-! ## All operations -/

/-- The operations of the application that touch pack funding. -/
inductive PackOperation where
  | charge (accountId : String) (amount : Nat) (idempotencyKey : String)
  | refund (idempotencyKey : String) (expectedAccountId : Option String)
  | payment (event : Event)
  | clawback (event : Event)
  | collectFromLot (accountId lotId : String) (availableAtoms : Nat)
  | collectFromSubscription (accountId : String) (grantEpoch : Nat) (eventId : String)

namespace PackOperation

/-- The business rows after the operation. -/
def run (cfg : Config) (tx : Tx) (b : Billing) : PackOperation → Transaction Billing
  | .charge accountId amount idempotencyKey => do
      let (b, _) ← StripeEntitlements.charge cfg.unicode.isPrintable tx b accountId amount
        idempotencyKey
      pure b
  | .refund idempotencyKey expectedAccountId => do
      let (b, _) ← StripeEntitlements.refund cfg.unicode.isPrintable tx b idempotencyKey
        expectedAccountId
      pure b
  | .payment event => do
      let effect ← paymentSucceeded cfg tx b event
      pure effect.billing
  | .clawback event =>
      match packClawback cfg tx b event with
      | none => pure b
      | some handler => do
          let effect ← handler
          pure effect.billing
  | .collectFromLot accountId lotId availableAtoms => do
      let (b, _) ← collectPackDebtsFromLot tx b accountId lotId availableAtoms
      pure b
  | .collectFromSubscription accountId grantEpoch eventId => do
      let (b, _) ← collectPackDebtsFromSubscription tx b accountId grantEpoch eventId
      pure b

/-- A lot collector is only offered atoms the lot holds, as by every caller of it. What more
    would do shows `overOffered_collection_breaks_equations`. -/
def admissible (b : Billing) : PackOperation → Prop
  | .collectFromLot _ lotId availableAtoms =>
      ∀ lot, b.lots.find? lotId = some lot → availableAtoms ≤ lot.remainingCredits
  | _ => True

/-- **Pack conservation**: from consistent pack tables, every operation that does not raise
    ends in consistent pack tables, on which the deferred trigger passes for every order. -/
theorem keeps_packState {op : PackOperation} (hs : PackState b) (hop : op.admissible b)
    (h : op.run cfg tx b = .ok b') :
    PackState b' ∧ ∀ orderId, assertCreditPackState b' orderId = true := by
  -- one case for each operation; the frame and the shift of each give the state after it
  have hs' : PackState b' := by
    cases op with
    | charge accountId amount idempotencyKey =>
      simp only [run, bind_eq_ok, pure_eq_ok] at h
      obtain ⟨⟨b₁, result⟩, hrun, rfl⟩ := h
      obtain ⟨hm, hf⟩ := charge_moves hs.linked hrun
      exact hs.of_moves hf hm
    | refund idempotencyKey expectedAccountId =>
      simp only [run, bind_eq_ok, pure_eq_ok] at h
      obtain ⟨⟨b₁, result⟩, hrun, rfl⟩ := h
      exact refund_packState hs hrun
    | payment event =>
      simp only [run, bind_eq_ok, pure_eq_ok] at h
      obtain ⟨effect, hrun, rfl⟩ := h
      exact paymentSucceeded_packState hs hrun
    -- an Event that is no pack clawback changes nothing
    | clawback event =>
      simp only [run] at h
      split at h
      · rw [pure_eq_ok] at h
        exact h ▸ hs
      · simp only [bind_eq_ok, pure_eq_ok] at h
        obtain ⟨effect, hrun, rfl⟩ := h
        exact packClawback_packState hs ‹_› hrun
    | collectFromLot accountId lotId availableAtoms =>
      simp only [run, bind_eq_ok, pure_eq_ok] at h
      -- the one operation that asks for a hypothesis: what is offered is held by the lot
      obtain ⟨⟨b₁, collected⟩, hrun, rfl⟩ := h
      exact hs.collectPackDebtsFromLot hop hrun
    | collectFromSubscription accountId grantEpoch eventId =>
      simp only [run, bind_eq_ok, pure_eq_ok] at h
      obtain ⟨⟨b₁, collected⟩, hrun, rfl⟩ := h
      exact hs.collectPackDebtsFromSubscription hrun
  exact ⟨hs', hs'.passes⟩

end PackOperation

/-- An account with one active lot of ten atoms, six of which a product debit holds. -/
def openLotBilling : Billing :=
  { Billing.empty with
    accounts := { rows := [{ id := "acct", externalRef := "user" }], valid := by decide }
    orders := {
      rows := [{
        id := "order", accountId := "acct", clientIdempotencyKey := "buy", packKey := "boost"
        packCredits := 10, priceAmount := 1500, currency := "usd", expiresDays := 365
        priceLookupKey := "ent_pack_boost", paymentStatus := .paid
        stripePaymentIntentId := some "pi_1", claimExpiresAt := 0, amountPaid := some 1500 }]
      valid := by decide }
    lots := {
      rows := [{
        id := "lot", orderId := "order", accountId := "acct", originalCredits := 10
        remainingCredits := 4, expiresAt := 100 }]
      valid := by decide }
    debits := {
      rows := [{ idempotencyKey := "use", accountId := "acct", amount := 6, grantEpoch := 0
                 createdAt := 0 }]
      valid := by decide }
    allocations := {
      rows := [{ id := 1, debitKey := "use", accountId := "acct", source := .creditPack "lot"
                 amount := 6 }]
      valid := by decide } }

theorem openLotBilling_packState : PackState openLotBilling := by
  refine packState_iff.2 ⟨⟨by decide, ?_, ?_⟩, fun _ _ _ _ => rfl, ?_⟩
  · intro a ha lotId hsource
    rw [List.mem_singleton.1 ha] at hsource
    cases hsource
    rfl
  · intro d hd orderId horder
    rw [List.mem_singleton.1 hd] at horder
    cases horder
  · intro lot hlot order horder
    rw [List.mem_singleton.1 hlot] at horder ⊢
    cases horder
    exact ⟨by decide, by decide, by decide, by decide, by decide⟩

theorem openLot_refund_keeps_packState :
    ∃ b', (PackOperation.refund "use" none).run referenceConfig ⟨2, 2, fun _ => ""⟩
        openLotBilling = .ok b' ∧
      PackState b' ∧ ∀ orderId, assertCreditPackState b' orderId = true := by
  have hok : ((PackOperation.refund "use" none).run referenceConfig ⟨2, 2, fun _ => ""⟩
      openLotBilling).isOk = true := by decide +kernel
  cases hrun : (PackOperation.refund "use" none).run referenceConfig ⟨2, 2, fun _ => ""⟩
      openLotBilling with
  | error e =>
    rw [hrun] at hok
    cases hok
  | ok b' =>
    have hop : (PackOperation.refund "use" none).admissible openLotBilling := trivial
    exact ⟨b', rfl, PackOperation.keeps_packState openLotBilling_packState hop hrun⟩

/-- The same account has spent a second lot, and half of its order was refunded since. -/
def indebtedBilling : Billing :=
  { openLotBilling with
    orders := {
      rows := openLotBilling.orders.rows ++ [{
        id := "spent order", accountId := "acct", clientIdempotencyKey := "buy again"
        packKey := "boost", packCredits := 10, priceAmount := 1500, currency := "usd"
        expiresDays := 365, priceLookupKey := "ent_pack_boost"
        paymentStatus := .partiallyRefunded, stripePaymentIntentId := some "pi_2"
        claimExpiresAt := 0, amountPaid := some 1500, amountRefunded := 750
        refundedCredits := 5 }]
      valid := by decide }
    lots := {
      rows := openLotBilling.lots.rows ++ [{
        id := "spent lot", orderId := "spent order", accountId := "acct", originalCredits := 10
        remainingCredits := 0, expiresAt := 100 }]
      valid := by decide }
    packDebts := {
      rows := [{ orderId := "spent order", accountId := "acct", targetCredits := 5
                 createdAt := 1 }]
      valid := by decide }
    debits := {
      rows := openLotBilling.debits.rows ++ [{
        idempotencyKey := "use again", accountId := "acct", amount := 10, grantEpoch := 0
        createdAt := 0 }]
      valid := by decide }
    allocations := {
      rows := openLotBilling.allocations.rows ++ [{
        id := 2, debitKey := "use again", accountId := "acct", source := .creditPack "spent lot"
        amount := 10 }]
      valid := by decide } }

theorem indebtedBilling_packState : PackState indebtedBilling := by
  refine packState_iff.2 ⟨⟨by decide, ?_, ?_⟩, ?_, ?_⟩
  · intro a ha lotId hsource
    rcases List.mem_pair.1 ha with rfl | rfl <;> cases hsource <;> rfl
  · intro d hd orderId horder
    rcases List.mem_pair.1 hd with rfl | rfl <;> cases horder
  · -- both orders have their lot
    intro orderId order horder hnone
    rcases List.mem_pair.1 (Table.find?_mem horder) with rfl | rfl
    · rw [← Table.find?_key horder] at hnone
      exact absurd hnone (by decide)
    · rw [← Table.find?_key horder] at hnone
      exact absurd hnone (by decide)
  · intro lot hlot order horder
    rcases List.mem_pair.1 hlot with rfl | rfl
    · cases horder
      exact ⟨by decide, by decide, by decide, by decide, by decide⟩
    · cases horder
      exact ⟨by decide, by decide, by decide, by decide, by decide⟩

/-- A lot collector that is offered more than the lot holds books a collection that the lot
    cannot pay: `admissible` asks for what every caller passes, the atoms of the lot. -/
theorem overOffered_collection_breaks_equations :
    PackState indebtedBilling ∧
    ((PackOperation.collectFromLot "acct" "lot" 10).run referenceConfig ⟨2, 2, fun _ => ""⟩
      indebtedBilling).map (fun b => assertCreditPackState b "order") = .ok false :=
  ⟨indebtedBilling_packState, by decide +kernel⟩

/-- An account whose only lot was closed after a refund of four of its ten atoms, while a
    product debit still holds the other six. -/
def closedLotBilling : Billing :=
  { Billing.empty with
    accounts := { rows := [{ id := "acct", externalRef := "user" }], valid := by decide }
    orders := {
      rows := [{
        id := "order", accountId := "acct", clientIdempotencyKey := "buy", packKey := "boost"
        packCredits := 10, priceAmount := 1500, currency := "usd", expiresDays := 365
        priceLookupKey := "ent_pack_boost", paymentStatus := .partiallyRefunded
        stripePaymentIntentId := some "pi_1", claimExpiresAt := 0, amountPaid := some 1500
        amountRefunded := 600, refundedCredits := 4 }]
      valid := by decide }
    lots := {
      rows := [{
        id := "lot", orderId := "order", accountId := "acct", originalCredits := 10
        remainingCredits := 0, cashClawedBackCredits := 4, expiresAt := 100
        status := .refunded, closedAt := some 1 }]
      valid := by decide }
    debits := {
      rows := [{ idempotencyKey := "use", accountId := "acct", amount := 6, grantEpoch := 0
                 createdAt := 0 }]
      valid := by decide }
    allocations := {
      rows := [{ id := 1, debitKey := "use", accountId := "acct", source := .creditPack "lot"
                 amount := 6 }]
      valid := by decide } }

/-- The three pack equations alone are not kept: a refund into a closed lot loses atoms. -/
theorem closedLot_refund_breaks_equations :
    (∀ order ∈ closedLotBilling.orders.rows, ∀ lot ∈ closedLotBilling.lots.rows,
      packEquations closedLotBilling order lot = true) ∧
    ((PackOperation.refund "use" none).run referenceConfig ⟨2, 2, fun _ => ""⟩
      closedLotBilling).map (fun b => assertCreditPackState b "order") = .ok false := by
  decide +kernel

end StripeEntitlements
