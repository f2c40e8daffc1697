import StripeEntitlements.Credits.PackTransitions
import StripeEntitlements.Processor.Settlement
import StripeEntitlements.Redelivery.Events

/-!
# Redelivered Credit-Pack Events

A second payment finds the lot of its order, a second Checkout Session its identities, and a
second clawback cumulative facts that do not advance.
-/

namespace StripeEntitlements

open Relational

variable {cfg : Config} {tx tx' : Tx} {b b' : Billing} {e : Event} {id : Json}
  {effect effect' : Effect}

/-! ## Shared statements -/

/-- A bound account stays as it is. -/
theorem bindCustomer_of_bound {account : Account} {customerId : Option String}
    (h : account.stripeCustomerId.isSome) : bindCustomer b account customerId = .ok b := by
  obtain ⟨c, hc⟩ := Option.isSome_iff_exists.1 h
  simp [bindCustomer, hc]
  rfl

/-- Afterwards the account is bound, and it was the only row written. -/
theorem bindCustomer_bound {account : Account} {customerId : String}
    (h : bindCustomer b account (some customerId) = .ok b')
    (haccount : b.accounts.find? account.id = some account) :
    ∃ accounts, b' = { b with accounts := accounts } ∧
      ∃ a, accounts.find? account.id = some a ∧ a.stripeCustomerId.isSome := by
  unfold bindCustomer at h
  split at h
  case isTrue hnone =>
    rw [Billing.update_eq_ok] at h
    obtain ⟨accounts, hupdate, rfl⟩ := h
    have hfind := Table.find?_update_self hupdate fun _ => rfl
    rw [show (Stored.table b : Table Account).find? account.id = some account from haccount]
      at hfind
    exact ⟨accounts, rfl, _, hfind, rfl⟩
  case isFalse hsome =>
    rw [pure_eq_ok] at h
    exact ⟨b.accounts, h.symm, account, haccount, by
      rwa [Option.isNone_iff_eq_none, ← ne_eq, Option.ne_none_iff_isSome] at hsome⟩

theorem lockedOrder_of_find {orderId accountId : String} {account : Account} {order : PackOrder}
    (h : lockedOrder b orderId accountId = some (account, order)) :
    b.orders.find? orderId = some order ∧ b.accounts.find? accountId = some account := by
  obtain ⟨horder, haccount, hid, howner⟩ := lockedOrder_eq_some h
  simp only [lockedOrder, Option.bind_eq_bind, Option.bind_eq_some_iff,
    Option.filter_eq_some_iff, Option.pure_def, Option.some.injEq, Prod.mk.injEq] at h
  obtain ⟨order', ⟨horder', -⟩, account', haccount', rfl, rfl⟩ := h
  exact ⟨horder', haccount'⟩

theorem Account.customer_of_static {a a' : Account} (h : a.static = a'.static) :
    a.stripeCustomerId = a'.stripeCustomerId :=
  (congrArg Account.stripeCustomerId h : a.static.stripeCustomerId = a'.static.stripeCustomerId)

/-! ## Payments -/

/-- What a payment says about itself, and the rows it locks. -/
theorem packPaymentGuards_facts {p : PackPayment} (h : packPaymentGuards cfg b e = .ok p) :
    cfg.unicode.stripeId (e.object.get "id") "pi_" = some p.paymentIntentId ∧
      cfg.unicode.stripeId (e.object.get "customer") "cus_" = some p.customerId ∧
      p.amount = p.order.priceAmount ∧
      ∃ identity, packOrderMetadata cfg e.object = some identity ∧
        lockedOrder b identity.orderId identity.accountId = some (p.account, p.order) := by
  simp only [packPaymentGuards, bind_eq_ok, fetch_eq_ok, pure_eq_ok] at h
  obtain ⟨identity, hidentity, _, hpi, ⟨account, order⟩, hlocked, _, hcustomer, _, -, _, -, _, -,
    _, -, rfl⟩ := h
  exact ⟨hpi, hcustomer, rfl, identity, hidentity, hlocked⟩

/-- The rows a payment leaves behind: the projected order, its lot and a bound account. -/
theorem applyPackPayment_rows {p : PackPayment}
    (horder : b.orders.find? p.order.id = some p.order)
    (haccount : b.accounts.find? p.account.id = some p.account)
    (h : applyPackPayment tx b p = .ok effect) :
    effect.billing.orders.find? p.order.id = some (p.projectOrder p.order) ∧
      (∃ a, effect.billing.accounts.find? p.account.id = some a ∧ a.stripeCustomerId.isSome) ∧
      (lotOfOrder effect.billing p.order.id).isSome := by
  -- the order is projected and the Customer bound whether or not there is a lot
  obtain ⟨orders, accounts, horders, hbind, hcase⟩ := applyPackPayment_eq_ok h
  obtain ⟨accounts', heq', a, ha, hbound⟩ := bindCustomer_bound hbind haccount
  obtain rfl : accounts = accounts' := (congrArg Billing.accounts heq' :)
  have hself := Table.find?_update_self horders fun _ => rfl
  rw [horder, Option.map_some] at hself
  rcases hcase with ⟨hlot, heq⟩ | ⟨-, lots, hlots, hcase⟩
  · rw [heq]
    exact ⟨hself, ⟨a, ha, hbound⟩, hlot⟩
  -- the lot that was inserted is found again by its order
  have hfunded : (lots.rows.find? (·.orderId = p.order.id)).isSome :=
    List.find?_isSome.2 ⟨_, Table.find?_mem ((Table.find?_insert hlots _).trans (if_pos rfl)),
      decide_eq_true rfl⟩
  rcases hcase with heq | ⟨-, _, hcollect⟩
  · rw [heq]
    exact ⟨hself, ⟨a, ha, hbound⟩, hfunded⟩
  -- collecting debts keeps orders, accounts and lots up to their moving columns
  have hframe := collectPackDebtsFromLot_frame hcollect
  refine ⟨?_, ?_, ?_⟩
  · rw [hframe.orders]
    exact hself
  · obtain ⟨a', ha', hstatic⟩ := hframe.settlement.account ha
    exact ⟨a', ha', (Account.customer_of_static hstatic).symm ▸ hbound⟩
  · obtain ⟨l, hl⟩ := Option.isSome_iff_exists.1 hfunded
    obtain ⟨l', hl', hstatic⟩ := (Table.Grows.of_map_eq hframe.lots).exists_mem
      (List.mem_of_find?_eq_some hl)
    have horderId := List.find?_some hl
    simp only [decide_eq_true_eq] at horderId
    refine List.find?_isSome.2 ⟨l', hl', decide_eq_true ?_⟩
    rw [FundingLot.orderId_of_static hstatic, horderId]

/-- The facts of a payment are already on the order it left behind. -/
theorem PackPayment.projectOrder_projected {p p' : PackPayment}
    (hpi : p'.paymentIntentId = p.paymentIntentId) (hcustomer : p'.customerId = p.customerId)
    (hamount : p'.amount = p.amount) (horder : p'.order = p.projectOrder p.order) :
    p'.projectOrder (p.projectOrder p.order) = p.projectOrder p.order := by
  have hstatus : p'.order.statusAfterPayment = p.order.statusAfterPayment := by
    rw [horder]
    simp only [PackOrder.statusAfterPayment, projectOrder]
    split <;> simp_all
  simp only [projectOrder, hpi, hcustomer, hamount, hstatus, PackOrder.mk.injEq, true_and]
  refine ⟨?_, ?_, ?_⟩
  · split <;> simp_all
  · cases p.order.stripeChargeId <;> rfl
  · cases p.order.paidAt <;> rfl

theorem paymentSucceeded_redelivered (h : paymentSucceeded cfg tx b e = .ok effect)
    (h' : paymentSucceeded cfg tx' effect.billing (e.redelivered id) = .ok effect') :
    effect'.billing = effect.billing := by
  rcases Guarded.andThen_eq_ok h with ⟨hb, hstop⟩ | ⟨p, hp, h⟩
  · rw [hb] at h' ⊢
    exact Guarded.andThen_stops hstop rfl h'
  rcases Guarded.andThen_eq_ok h' with ⟨hb', -⟩ | ⟨p', hp', h'⟩
  · exact hb'
  obtain ⟨hpi, hcustomer, hamount, identity, hidentity, hlocked⟩ := packPaymentGuards_facts hp
  obtain ⟨hpi', hcustomer', hamount', identity', hidentity', hlocked'⟩ :=
    packPaymentGuards_facts hp'
  have hsame : identity' = identity := Option.some.inj (hidentity'.symm.trans hidentity)
  subst hsame
  obtain ⟨horder, haccount, hoid, -⟩ := lockedOrder_eq_some hlocked
  obtain ⟨horder', haccount', hoid', -⟩ := lockedOrder_eq_some hlocked'
  obtain ⟨hproject, ⟨a, ha, hbound⟩, hlot⟩ := applyPackPayment_rows horder haccount h
  have haid : p.account.id = p'.account.id :=
    (Table.find?_key (lockedOrder_of_find hlocked).2).trans
      (Table.find?_key (lockedOrder_of_find hlocked').2).symm
  -- the second delivery reads the rows the first one wrote
  have hrow : p'.order = p.projectOrder p.order := by
    rw [hoid', ← hoid, hproject] at horder'
    exact (Option.some.inj horder').symm
  have haccount_row : p'.account = a := by
    rw [← haid, ha] at haccount'
    exact (Option.some.inj haccount').symm
  have hfixed : effect.billing.update p'.order.id p'.projectOrder = .ok effect.billing := by
    refine Billing.update_of_fixed fun r hr => ?_
    have : p'.order = r := Option.some.inj (horder'.symm.trans hr)
    rw [← this, hrow]
    refine PackPayment.projectOrder_projected (Option.some.inj (hpi'.symm.trans hpi))
      (Option.some.inj (hcustomer'.symm.trans hcustomer)) ?_ hrow
    rw [hamount', hamount, hrow]
    rfl
  have hbind : bindCustomer effect.billing p'.account (some p'.customerId) = .ok effect.billing :=
    bindCustomer_of_bound (haccount_row ▸ hbound)
  have hfunded : (lotOfOrder effect.billing p'.order.id).isSome := by
    rw [hoid', ← hoid]
    exact hlot
  simp only [applyPackPayment, bind_eq_ok, hfunded, if_true, pure_eq_ok] at h'
  obtain ⟨b₁, hupdate, b₂, hbind', rfl⟩ := h'
  have hb₁ : effect.billing = b₁ := Except.ok.inj (hfixed.symm.trans hupdate)
  subst hb₁
  exact (Except.ok.inj (hbind.symm.trans hbind')).symm

/-! ## Clawbacks -/

/-- What a clawback says about itself, and the rows it locks. -/
theorem packClawbackGuards_facts {charge paymentIntent : Json} {identity : PackIdentity}
    {c : PackClawback} (h : packClawbackGuards cfg b e charge paymentIntent identity = .ok c) :
    lockedOrder b identity.orderId identity.accountId = some (c.account, c.order) ∧
      (charge.get "amount").asNat = some c.amount ∧
      c.dispute = decide (e.kind = .chargeDisputeCreated) ∧
      ∃ refunded, (charge.get "amount_refunded").asNat = some refunded ∧
        c.amountRefunded = if c.dispute then c.amount else refunded := by
  simp only [packClawbackGuards, bind_eq_ok, fetch_eq_ok, require_eq_ok, pure_eq_ok] at h
  obtain ⟨⟨account, order⟩, hlocked, chargeId, -, customerId, -, amount, hamount, refunded,
    hrefunded, _, -, rfl⟩ := h
  refine ⟨hlocked, hamount, rfl, refunded, hrefunded, ?_⟩
  simp

theorem packClawbackGuards_redelivered {charge paymentIntent : Json} {identity : PackIdentity} :
    (packClawbackGuards cfg b (e.redelivered id) charge paymentIntent identity).toOption =
      (packClawbackGuards cfg b e charge paymentIntent identity).toOption := by
  simp only [packClawbackGuards, toOption_bind, toOption_fetch, toOption_require, toOption_pure]
  rfl

theorem clawFunding_keeps {c : PackClawback} {delta removed : Nat}
    (h : clawFunding tx b c delta = .ok (b', removed)) :
    b'.accounts = b.accounts ∧ b'.orders = b.orders := by
  unfold clawFunding at h
  split at h
  · rw [pure_eq_ok] at h
    cases h
    exact ⟨rfl, rfl⟩
  · simp only [clawLot, bind_eq_ok, Billing.update_eq_ok, pure_eq_ok] at h
    obtain ⟨⟨b₁, _⟩, ⟨⟨b₂, lot⟩, hexpire, _, -, _, ⟨lots, -, rfl⟩, heq⟩, b₃, hdebt, heq'⟩ := h
    cases heq
    cases heq'
    obtain ⟨debts, rfl, -⟩ := recordPackDebt_eq_ok hdebt
    unfold expireClawbackLot at hexpire
    split at hexpire
    · simp only [bind_eq_ok, Billing.update_eq_ok, pure_eq_ok] at hexpire
      obtain ⟨_, ⟨lots', -, rfl⟩, heq⟩ := hexpire
      cases heq
      exact ⟨rfl, rfl⟩
    · rw [pure_eq_ok] at hexpire
      cases hexpire
      exact ⟨rfl, rfl⟩

/-- The cumulative facts of a clawback are on its order. -/
structure PackClawback.Advanced (c : PackClawback) (order : PackOrder) : Prop where
  cash : c.dispute = false →
    max order.amountRefunded c.amountRefunded = max c.order.amountRefunded c.amountRefunded
  reached : c.targetCash ≤ order.amountRefunded
  status : order.paymentStatus = c.cashStatus
  atoms : c.targetAtoms ≤ order.refundedCredits
  pack : order.packCredits = c.order.packCredits

theorem PackClawback.projectOrder_cash (c : PackClawback) (hdispute : c.dispute = false) :
    max c.targetCash c.amountRefunded = max c.order.amountRefunded c.amountRefunded := by
  simp only [targetCash, hdispute, Bool.false_eq_true, if_false]
  omega

theorem advancePackCash_rows {c : PackClawback} {order : PackOrder}
    (h : advancePackCash tx b c = .ok effect) (horder : b.orders.find? c.order.id = some order)
    (heq : order = c.order) (hrepeat : c.targetAtoms ≤ c.order.refundedCredits) :
    effect.billing.accounts = b.accounts ∧
      ∃ order', effect.billing.orders.find? c.order.id = some order' ∧ c.Advanced order' := by
  subst heq
  unfold advancePackCash at h
  split at h
  -- nothing advanced because both cash columns are at their targets
  case isFalse hsame =>
    rw [pure_eq_ok] at h
    subst h
    simp only [Bool.or_eq_true, decide_eq_true_eq, not_or, Decidable.not_not] at hsame
    exact ⟨rfl, c.order, horder, fun _ => rfl, by omega, hsame.2.symm, hrepeat, rfl⟩
  case isTrue =>
    simp only [bind_eq_ok, Billing.update_eq_ok, Stored.table, Stored.install] at h
    obtain ⟨_, ⟨orders, horders, rfl⟩, h⟩ := h
    -- the projected order has advanced; a dispute also closes a lot, which the order does not
    -- show
    have hself := Table.find?_update_self horders fun _ => rfl
    rw [horder, Option.map_some] at hself
    have hadvanced : c.Advanced (c.projectOrder c.order) :=
      ⟨c.projectOrder_cash, le_refl _, rfl, hrepeat, rfl⟩
    split at h
    · simp only [bind_eq_ok, Billing.updateWhere_eq_ok, pure_eq_ok, Stored.install] at h
      obtain ⟨_, ⟨lots, -, rfl⟩, rfl⟩ := h
      exact ⟨rfl, _, hself, hadvanced⟩
    · simp only [bind_eq_ok, pure_eq_ok] at h
      obtain ⟨_, rfl, rfl⟩ := h
      exact ⟨rfl, _, hself, hadvanced⟩

/-- The rows a clawback leaves behind: a bound account and the advanced order. -/
theorem applyPackClawback_rows {c : PackClawback} (h : applyPackClawback tx b c = .ok effect)
    (horder : b.orders.find? c.order.id = some c.order)
    (haccount : b.accounts.find? c.account.id = some c.account) :
    (∃ a, effect.billing.accounts.find? c.account.id = some a ∧ a.stripeCustomerId.isSome) ∧
      ∃ order', effect.billing.orders.find? c.order.id = some order' ∧ c.Advanced order' := by
  simp only [applyPackClawback, bind_eq_ok] at h
  obtain ⟨b₁, hbind, h⟩ := h
  obtain ⟨accounts, rfl, a, ha, hbound⟩ := bindCustomer_bound hbind haccount
  split at h
  case isTrue hrepeat =>
    obtain ⟨haccounts, hadvanced⟩ := advancePackCash_rows h horder rfl hrepeat
    exact ⟨⟨a, haccounts ▸ ha, hbound⟩, hadvanced⟩
  case isFalse =>
    simp only [bind_eq_ok, Billing.update_eq_ok, pure_eq_ok, Stored.table, Stored.install] at h
    obtain ⟨⟨b₂, removed⟩, hclaw, _, ⟨orders, horders, rfl⟩, rfl⟩ := h
    obtain ⟨haccounts, hkept⟩ := clawFunding_keeps hclaw
    have hself := Table.find?_update_self horders fun _ => rfl
    rw [hkept, horder, Option.map_some] at hself
    exact ⟨⟨a, haccounts ▸ ha, hbound⟩, _, hself,
      ⟨c.projectOrder_cash, le_refl _, rfl, le_refl _, rfl⟩⟩

/-- Facts that do not advance change nothing. -/
theorem applyPackClawback_advanced {c : PackClawback} (hbound : c.account.stripeCustomerId.isSome)
    (hadvanced : c.Advanced c.order) (h : applyPackClawback tx b c = .ok effect) :
    effect.billing = b := by
  simp only [applyPackClawback, bind_eq_ok, hadvanced.atoms, if_true] at h
  obtain ⟨b₁, hbind, h⟩ := h
  have hb₁ : b = b₁ := Except.ok.inj ((bindCustomer_of_bound hbound).symm.trans hbind)
  subst hb₁
  have hdone : (c.order.amountRefunded < c.targetCash || c.cashStatus ≠ c.order.paymentStatus) =
      false := by
    simp [hadvanced.reached, hadvanced.status]
  rw [advancePackCash, hdone] at h
  simp only [Bool.false_eq_true, if_false, pure_eq_ok] at h
  exact h ▸ rfl

/-- The same facts, read again from the advanced order. -/
theorem PackClawback.Advanced.again {c c' : PackClawback} (h : c.Advanced c'.order)
    (hdispute : c'.dispute = c.dispute) (hamount : c'.amount = c.amount)
    (hrefunded : c'.amountRefunded = c.amountRefunded) : c'.Advanced c'.order := by
  have hcash : c'.targetCash = c.targetCash := by
    simp only [targetCash, hdispute, hamount, hrefunded]
    split
    case isTrue => rfl
    case isFalse hd => exact h.cash (by simpa using hd)
  have hatoms : c'.targetAtoms = c.targetAtoms := by
    simp only [targetAtoms, hdispute, hamount, hcash, h.pack]
  have hstatus : c'.cashStatus = c.cashStatus := by
    simp only [cashStatus, hdispute, hamount, hcash]
  exact ⟨fun _ => rfl, hcash ▸ h.reached, hstatus ▸ h.status, hatoms ▸ h.atoms, rfl⟩

/-- Whether a Charge is one of a pack is read from the Charge alone. -/
theorem packClawback_none (h : packClawback cfg tx b e = none) :
    packClawback cfg tx' b' (e.redelivered id) = none := by
  simp only [packClawback, Option.bind_eq_bind, Option.bind_eq_none_iff, reduceCtorEq,
    imp_false] at h ⊢
  exact h

theorem packClawback_redelivered {run run' : Transaction Effect}
    (hrun : packClawback cfg tx b e = some run) (h : run = .ok effect)
    (hrun' : packClawback cfg tx' effect.billing (e.redelivered id) = some run')
    (h' : run' = .ok effect') : effect'.billing = effect.billing := by
  simp only [packClawback, Option.bind_eq_bind, Option.bind_eq_some_iff, Option.some.injEq]
    at hrun hrun'
  obtain ⟨-, -, identity, hidentity, -, -, rfl⟩ := hrun
  obtain ⟨-, -, identity', hidentity', -, -, rfl⟩ := hrun'
  -- the metadata name the same order in both deliveries
  have hsame : identity' = identity := Option.some.inj (hidentity'.symm.trans hidentity)
  subst hsame
  -- a clawback that its guards stopped is stopped by them again
  rcases Guarded.andThen_eq_ok h with ⟨hb, hstop⟩ | ⟨c, hc, h⟩
  · rw [hb] at h' ⊢
    exact Guarded.andThen_stops hstop packClawbackGuards_redelivered h'
  rcases Guarded.andThen_eq_ok h' with ⟨hb', -⟩ | ⟨c', hc', h'⟩
  · exact hb'
  obtain ⟨hlocked, hamount, hdispute, n, hn, hrefunded⟩ := packClawbackGuards_facts hc
  obtain ⟨hlocked', hamount', hdispute', n', hn', hrefunded'⟩ := packClawbackGuards_facts hc'
  obtain ⟨horder, haccount, hoid, -⟩ := lockedOrder_eq_some hlocked
  obtain ⟨horder', haccount', hoid', -⟩ := lockedOrder_eq_some hlocked'
  -- the first clawback leaves the Customer bound and the order advanced
  obtain ⟨⟨a, ha, hbound⟩, order', hfind, hadvanced⟩ := applyPackClawback_rows h horder haccount
  -- account and order of the second call are the same rows, read later
  have haid : c'.account.id = c.account.id :=
    (Table.find?_key (lockedOrder_of_find hlocked').2).trans
      (Table.find?_key (lockedOrder_of_find hlocked).2).symm
  rw [haid, ha, Option.some.injEq] at haccount'
  rw [hoid', ← hoid, hfind, Option.some.injEq] at horder'
  subst horder'
  -- its amount, its dispute flag and its refunded cash come from the same payload
  have hsameAmount : c'.amount = c.amount := Option.some.inj (hamount'.symm.trans hamount)
  have hsameDispute : c'.dispute = c.dispute := hdispute'.trans hdispute.symm
  refine applyPackClawback_advanced (haccount' ▸ hbound)
    (hadvanced.again hsameDispute hsameAmount ?_) h'
  have hsameRefunded : n' = n := Option.some.inj (hn'.symm.trans hn)
  rw [hrefunded', hrefunded, hsameDispute, hsameAmount, hsameRefunded]

/-! ## Checkout -/

/-- The identities of a completed Session contradict the order or its account. -/
def packIdentityConflict (cfg : Config) (e : Event) (account : Account) (order : PackOrder) :
    Bool :=
  let paymentIntentId := cfg.unicode.stripeId (e.object.get "payment_intent") "pi_"
  let customerId := cfg.unicode.stripeId (e.object.get "customer") "cus_"
  paymentIntentId.isNone || customerId.isNone ||
    !unboundOr order.stripePaymentIntentId paymentIntentId ||
    !unboundOr order.stripeCustomerId customerId ||
    !unboundOr account.stripeCustomerId customerId

/-- What the Session says is on its order and account, or in conflict with them. -/
structure PackSessionRecorded (cfg : Config) (e : Event) (accounts : Table Account)
    (sessionId : String) (order : PackOrder) : Prop where
  session : order.stripeCheckoutSessionId = some sessionId
  expired : e.kind = .checkoutSessionExpired → order.paymentStatus = .pending →
    order.checkoutStatus = .expired ∧ order.sessionUrl = none
  completed : e.kind ≠ .checkoutSessionExpired → ∀ account,
    accounts.find? order.accountId = some account →
    packIdentityConflict cfg e account order = true ∨
      order.checkoutStatus = .completed ∧ order.stripePaymentIntentId.isSome ∧
        order.stripeCustomerId.isSome ∧ account.stripeCustomerId.isSome

theorem packCheckoutGuards_eq_ok {sessionId : String} {order : PackOrder} {account : Account}
    (h : packCheckoutGuards cfg b e sessionId order = .ok account) :
    b.accounts.find? order.accountId = some account ∧
      unboundOr order.stripeCheckoutSessionId (some sessionId) = true := by
  simp only [packCheckoutGuards, bind_eq_ok, fetch_eq_ok, require_eq_ok, pure_eq_ok] at h
  obtain ⟨account', haccount, _, hsession, _, -, _, -, rfl⟩ := h
  exact ⟨haccount, hsession⟩

theorem attachPackSession_eq_ok {order : PackOrder} {sessionId : String}
    (h : attachPackSession b order sessionId = .ok b')
    (horder : b.orders.find? order.id = some order)
    (hsession : unboundOr order.stripeCheckoutSessionId (some sessionId) = true) :
    ∃ orders order', b' = { b with orders := orders } ∧ orders.find? order.id = some order' ∧
      order'.stripeCheckoutSessionId = some sessionId ∧ order'.accountId = order.accountId ∧
      order'.paymentStatus = order.paymentStatus ∧
      order'.stripePaymentIntentId = order.stripePaymentIntentId ∧
      order'.stripeCustomerId = order.stripeCustomerId := by
  unfold attachPackSession at h
  split at h
  case isTrue =>
    simp only [Billing.update_eq_ok, Stored.table, Stored.install] at h
    obtain ⟨orders, horders, rfl⟩ := h
    have hself := Table.find?_update_self horders fun _ => rfl
    rw [horder, Option.map_some] at hself
    exact ⟨orders, _, rfl, hself, rfl, rfl, rfl, rfl, rfl⟩
  case isFalse hsome =>
    rw [pure_eq_ok] at h
    simp only [unboundOr, hsome, Bool.false_or, decide_eq_true_eq] at hsession
    exact ⟨b.orders, order, h.symm, horder, hsession, rfl, rfl, rfl, rfl⟩

/-- A Session that passed its guards leaves what it says behind. -/
theorem packCheckout_recorded {sessionId : String} {order : PackOrder}
    (h : packCheckout cfg b e sessionId order = .ok effect)
    (horder : b.orders.find? order.id = some order) :
    effect.billing = b ∨ ∃ order', effect.billing.orders.find? order.id = some order' ∧
      PackSessionRecorded cfg e effect.billing.accounts sessionId order' := by
  rcases Guarded.andThen_eq_ok h with ⟨hb, -⟩ | ⟨account, hguards, h⟩
  · exact .inl hb
  right
  -- the guards found the account and left the order's Session free for this one
  obtain ⟨haccount, hsession⟩ := packCheckoutGuards_eq_ok hguards
  simp only [bind_eq_ok] at h
  obtain ⟨b₁, hattach, h⟩ := h
  -- the Session is attached first, or was attached already
  obtain ⟨orders, order₁, rfl, hrow, hsession₁, howner, hpaid, hpi, hcustomer⟩ :=
    attachPackSession_eq_ok hattach horder hsession
  split at h
  -- an expired Session: a pending order is marked, a paid one left alone
  case isTrue hexpired =>
    unfold expirePackCheckout at h
    split at h
    case isTrue hpending =>
      simp only [bind_eq_ok, Billing.update_eq_ok, pure_eq_ok, Stored.table,
        Stored.install] at h
      obtain ⟨_, ⟨orders', horders', rfl⟩, rfl⟩ := h
      have hself := Table.find?_update_self horders' fun _ => rfl
      rw [hrow, Option.map_some] at hself
      exact ⟨_, hself, hsession₁, fun _ _ => ⟨rfl, rfl⟩, fun hne => absurd hexpired hne⟩
    case isFalse hpaid' =>
      simp only [bind_eq_ok, pure_eq_ok] at h
      obtain ⟨_, rfl, rfl⟩ := h
      exact ⟨_, hrow, hsession₁, fun _ hpending => absurd (hpaid ▸ hpending) hpaid',
        fun hne => absurd hexpired hne⟩
  -- a completed one: its identities conflict, or they are recorded and the Customer bound
  case isFalse hcompleted =>
    unfold completePackCheckout at h
    dsimp only at h
    split at h
    case isTrue hconflict =>
      rw [pure_eq_ok] at h
      subst h
      refine ⟨_, hrow, hsession₁, fun he => absurd he hcompleted, fun _ a ha => .inl ?_⟩
      rw [howner] at ha
      -- the conflict is with the account as it still is
      have : account = a := Option.some.inj (haccount.symm.trans ha)
      subst this
      unfold packIdentityConflict
      rw [hpi, hcustomer]
      exact hconflict
    case isFalse hagree =>
      simp only [bind_eq_ok, Billing.updateWhere_eq_ok, pure_eq_ok, Stored.table,
        Stored.install] at h
      obtain ⟨_, ⟨orders', horders', rfl⟩, b₂, hbind, rfl⟩ := h
      simp only [Bool.or_eq_true, not_or, Bool.not_eq_true', Bool.not_eq_false] at hagree
      obtain ⟨⟨⟨⟨hpi', hcustomer'⟩, hunbound⟩, -⟩, -⟩ := hagree
      rw [Option.isNone_iff_eq_none, ← ne_eq, Option.ne_none_iff_exists'] at hpi' hcustomer'
      obtain ⟨pi, hpi'⟩ := hpi'
      obtain ⟨customer, hcustomer'⟩ := hcustomer'
      rw [hcustomer'] at hbind
      have hid : account.id = order.accountId := Table.find?_key haccount
      rw [← hid] at haccount
      obtain ⟨accounts, rfl, a, ha, hbound⟩ := bindCustomer_bound hbind haccount
      have hself := Table.find?_updateWhere horders' (fun _ => rfl) order.id
      have hkey : order₁.id = order.id := Table.find?_key hrow
      -- the conditional update matches this order, since the identities agree
      rw [hrow, Option.map_some, if_pos (by simp [hkey, hpi, hunbound])] at hself
      refine ⟨_, hself, hsession₁, fun he => absurd he hcompleted, fun _ a' ha' => .inr ?_⟩
      rw [hid] at ha
      change accounts.find? order₁.accountId = some a' at ha'
      rw [howner, ha, Option.some.injEq] at ha'
      refine ⟨rfl, ?_, ?_, ha' ▸ hbound⟩
      · simp [hpi']
      · simp [hcustomer']

/-- A Session whose facts are recorded changes nothing. -/
theorem packCheckout_of_recorded {sessionId : String} {order : PackOrder}
    (hrecorded : PackSessionRecorded cfg e b.accounts sessionId order)
    (horder : b.orders.find? order.id = some order)
    (h : packCheckout cfg b e sessionId order = .ok effect) : effect.billing = b := by
  rcases Guarded.andThen_eq_ok h with ⟨hb, -⟩ | ⟨account, hguards, h⟩
  · exact hb
  obtain ⟨haccount, -⟩ := packCheckoutGuards_eq_ok hguards
  -- the Session is attached already, so attaching it again writes nothing
  have hattach : attachPackSession b order sessionId = .ok b := by
    simp [attachPackSession, hrecorded.session]
    rfl
  simp only [bind_eq_ok] at h
  obtain ⟨b₁, hattach', h⟩ := h
  have hb₁ : b = b₁ := Except.ok.inj (hattach.symm.trans hattach')
  subst hb₁
  -- each branch writes the columns that are recorded already
  split at h
  case isTrue hexpired =>
    unfold expirePackCheckout at h
    split at h
    case isTrue hpending =>
      have hfixed : b.update order.id (fun o : PackOrder =>
          { o with checkoutStatus := .expired, sessionUrl := none }) = .ok b := by
        refine Billing.update_of_fixed fun r hr => ?_
        have : order = r := Option.some.inj (horder.symm.trans hr)
        subst this
        obtain ⟨hstatus, hurl⟩ := hrecorded.expired hexpired hpending
        rw [← hstatus, ← hurl]
      simp only [bind_eq_ok, pure_eq_ok] at h
      obtain ⟨b₁, hupdate, rfl⟩ := h
      exact (Except.ok.inj (hfixed.symm.trans hupdate)).symm
    case isFalse =>
      simp only [bind_eq_ok, pure_eq_ok] at h
      obtain ⟨_, rfl, rfl⟩ := h
      rfl
  case isFalse hcompleted =>
    unfold completePackCheckout at h
    dsimp only at h
    split at h
    case isTrue =>
      rw [pure_eq_ok] at h
      subst h
      rfl
    case isFalse hagree =>
      -- the recorded facts say that this Session conflicts, or that it was recorded
      rcases hrecorded.completed hcompleted account haccount with hconflict |
        ⟨hstatus, hpi, hcustomer, hbound⟩
      · exact absurd hconflict hagree
      obtain ⟨pi, hpi⟩ := Option.isSome_iff_exists.1 hpi
      obtain ⟨customer, hcustomer⟩ := Option.isSome_iff_exists.1 hcustomer
      simp only [bind_eq_ok, pure_eq_ok] at h
      obtain ⟨b₁, hupdate, b₂, hbind, rfl⟩ := h
      -- so the update writes what is there, and so does the binding
      have hfixed : b₁ = b := by
        rw [Billing.updateWhere_eq_ok] at hupdate
        obtain ⟨orders, horders, rfl⟩ := hupdate
        have : orders = b.orders := by
          refine Option.some.inj (horders.symm.trans (Table.updateWhere?_of_fixed ?_))
          intro r hr hp
          simp only [Bool.and_eq_true, decide_eq_true_eq] at hp
          have : r = order := b.orders.eq_of_key_eq hr (Table.find?_mem horder) hp.1
          subst this
          rw [hpi, hcustomer, Option.some_or, Option.some_or, ← hpi, ← hcustomer, ← hstatus]
        rw [this]
        rfl
      subst hfixed
      exact (Except.ok.inj ((bindCustomer_of_bound hbound).symm.trans hbind)).symm

theorem order_of_session {order order' : PackOrder} {sessionId : String}
    (h : b.orders.find? order.id = some order) (hs : order.stripeCheckoutSessionId = some sessionId)
    (h' : b.orders.rows.find? (·.stripeCheckoutSessionId = some sessionId) = some order') :
    order' = order := by
  have hs' := List.find?_some h'
  simp only [decide_eq_true_eq] at hs'
  exact b.orders.eq_of_index_eq
    (show (fun o : PackOrder => o.stripeCheckoutSessionId.map ([·])) ∈ Relation.indexes by
      simp [Relation.indexes])
    (List.mem_of_find?_eq_some h') (Table.find?_mem h) (x := [sessionId]) (by simp [hs'])
    (by simp [hs])

/-- A pack Session runs on an order of the database, or nothing changes. -/
theorem packCheckoutEvent_order {run : Transaction Effect}
    (hrun : packCheckoutEvent cfg b e = some run) (h : run = .ok effect) :
    effect.billing = b ∨ ∃ sessionId order,
      cfg.unicode.stripeId (e.object.get "id") "cs_" = some sessionId ∧
      b.orders.find? order.id = some order ∧
      packCheckout cfg b e sessionId order = .ok effect := by
  -- the order is found by its Session first, then by the metadata
  simp only [packCheckoutEvent, Option.bind_eq_bind, Option.bind_eq_some_iff] at hrun
  obtain ⟨sessionId, hsession, hrun⟩ := hrun
  split at hrun
  case h_1 order horder =>
    cases hrun
    exact .inr ⟨sessionId, order, hsession,
      Table.find?_of_mem (List.mem_of_find?_eq_some horder), h⟩
  -- the metadata may still name it, if the order belongs to the account they name
  case h_2 =>
    simp only [Option.bind_eq_some_iff] at hrun
    obtain ⟨identity, -, hrun⟩ := hrun
    split at hrun
    case h_1 order horder =>
      cases hrun
      exact .inr ⟨sessionId, order, hsession,
        Table.find?_of_mem (Table.find?_mem (Option.filter_eq_some_iff.1 horder).1), h⟩
    -- no such order: the Event is ignored
    case h_2 =>
      cases hrun
      rw [pure_eq_ok] at h
      exact .inl (h ▸ rfl)

theorem packCheckoutEvent_redelivered {run : Transaction Effect}
    (hrun : packCheckoutEvent cfg b e = some run) (h : run = .ok effect) :
    ∃ run', packCheckoutEvent cfg effect.billing (e.redelivered id) = some run' ∧
      ∀ effect', run' = .ok effect' → effect'.billing = effect.billing := by
  have hagain : effect.billing = b →
      ∃ run', packCheckoutEvent cfg effect.billing (e.redelivered id) = some run' ∧
        ∀ effect', run' = .ok effect' → effect'.billing = effect.billing := by
    intro hb
    rw [hb]
    refine ⟨run, hrun, fun effect' h' => ?_⟩
    rw [h, Except.ok.injEq] at h'
    rw [← h', hb]
  rcases packCheckoutEvent_order hrun h with hb | ⟨sessionId, order, hsession, horder, hcheckout⟩
  · exact hagain hb
  rcases packCheckout_recorded hcheckout horder with hb | ⟨order', horder', hrecorded⟩
  · exact hagain hb
  -- the second delivery finds the order by its Session
  have hid : order'.id = order.id := Table.find?_key horder'
  rw [← hid] at horder'
  obtain ⟨found, hfound⟩ : ∃ found, effect.billing.orders.rows.find?
      (·.stripeCheckoutSessionId = some sessionId) = some found := by
    rw [← Option.isSome_iff_exists]
    exact List.find?_isSome.2 ⟨order', Table.find?_mem horder', by simp [hrecorded.session]⟩
  have hsame := order_of_session horder' hrecorded.session hfound
  subst hsame
  refine ⟨_, ?_, fun effect' h' => packCheckout_of_recorded (e := e.redelivered id)
    ⟨hrecorded.session, hrecorded.expired, hrecorded.completed⟩ horder' h'⟩
  simp only [packCheckoutEvent, Event.object_redelivered, hsession, Option.bind_eq_bind,
    Option.bind_some, hfound]

/-- Whether a Session is one of a pack is read from the Session and the orders. -/
theorem packCheckoutEvent_none (horders : b'.orders = b.orders)
    (h : packCheckoutEvent cfg b e = none) : packCheckoutEvent cfg b' (e.redelivered id) = none := by
  simp only [packCheckoutEvent, Option.bind_eq_bind, Option.bind_eq_none_iff, horders,
    Event.object_redelivered] at h ⊢
  intro sessionId hsession
  have hnone := h sessionId hsession
  split at hnone
  · cases hnone
  case h_2 =>
    simp only [Option.bind_eq_none_iff] at hnone ⊢
    intro identity hidentity
    have := hnone identity hidentity
    split at this <;> cases this

end StripeEntitlements
