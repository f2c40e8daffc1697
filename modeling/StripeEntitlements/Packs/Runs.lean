import StripeEntitlements.Credits.ServiceFrame
import StripeEntitlements.Packs.Steps
import StripeEntitlements.Runs

/-!
# Pack Funding Over Whole Runs

Every transaction of the system does one of six things to the pack tables. In every
reachable state they are consistent, and every lot and every debt belongs to an order.

## Main results

- `Commits.packs` — what a transaction did to the pack tables
- `Reachable.packBooks` — the pack state of every run
-/

namespace StripeEntitlements

open Relational

variable {cfg : Config} {tx : Tx} {db db' : Db} {b b' : Billing} {e : Event} {effect : Effect}

/-! ## Events -/

/-- What one Event did to the pack tables. -/
inductive PackEvent (cfg : Config) (tx : Tx) (b : Billing) (e : Event) (b' : Billing) : Prop
  | steps (h : PackSteps tx b b')
  | payment {p : PackPayment} {effect : Effect} (hkind : e.kind = .paymentIntentSucceeded)
      (hp : packPaymentGuards cfg b e = .ok p) (h : applyPackPayment tx b p = .ok effect)
      (hb : b' = effect.billing)
  | clawback {charge paymentIntent : Json} {identity : PackIdentity} {c : PackClawback}
      {effect : Effect}
      (hc : packClawbackGuards cfg b e charge paymentIntent identity = .ok c)
      (h : applyPackClawback tx b c = .ok effect) (hb : b' = effect.billing)

theorem paymentSucceeded_packEvent (hkind : e.kind = .paymentIntentSucceeded)
    (h : paymentSucceeded cfg tx b e = .ok effect) : PackEvent cfg tx b e effect.billing := by
  rcases Guarded.andThen_eq_ok h with ⟨hb, -⟩ | ⟨p, hp, h⟩
  · exact .steps (SamePacks.of_eq hb).steps
  · exact .payment hkind hp h rfl

theorem packClawback_packEvent {run : Transaction Effect} (hrun : packClawback cfg tx b e = some run)
    (h : run = .ok effect) : PackEvent cfg tx b e effect.billing := by
  simp only [packClawback, Option.bind_eq_bind, Option.bind_eq_some_iff, Option.some.injEq] at hrun
  obtain ⟨-, -, identity, -, -, -, rfl⟩ := hrun
  rcases Guarded.andThen_eq_ok h with ⟨hb, -⟩ | ⟨c, hc, h⟩
  · exact .steps (SamePacks.of_eq hb).steps
  · exact .clawback hc h rfl

theorem dispatch_packEvent (h : dispatch cfg tx b e = .ok effect) :
    PackEvent cfg tx b e effect.billing := by
  -- one case for each kind of Event; only payments and clawbacks of packs leave the collector's
  -- steps
  cases hkind : e.kind with
  | paymentIntentSucceeded =>
    simp only [dispatch, hkind] at h
    exact paymentSucceeded_packEvent hkind h
  | invoicePaid =>
    simp only [dispatch, hkind] at h
    exact .steps (invoicePaid_packSteps h)
  | invoicePaymentFailed =>
    simp only [dispatch, hkind] at h
    exact .steps (paymentFailed_packs h).steps
  | customerSubscriptionUpdated =>
    simp only [dispatch, hkind] at h
    exact .steps (subscriptionUpdated_packs h).steps
  | customerSubscriptionDeleted =>
    simp only [dispatch, hkind] at h
    exact .steps (subscriptionDeleted_packs h).steps
  -- a refund or dispute that is no pack Charge claws an entitlement, which moves no pack row
  | chargeRefunded | chargeDisputeCreated =>
    simp only [dispatch, hkind] at h
    cases hrun : packClawback cfg tx b e with
    | none =>
      rw [hrun] at h
      exact .steps (clawback_packs h).steps
    | some run =>
      rw [hrun] at h
      exact packClawback_packEvent hrun h
  | checkoutSessionCompleted =>
    simp only [dispatch, hkind] at h
    cases hrun : packCheckoutEvent cfg b e with
    | none =>
      rw [hrun] at h
      exact .steps (checkoutCompleted_packs h).steps
    | some run =>
      rw [hrun] at h
      exact .steps (packCheckoutEvent_packs hrun h).steps
  | checkoutSessionExpired =>
    simp only [dispatch, hkind] at h
    cases hrun : packCheckoutEvent cfg b e with
    | none =>
      rw [hrun] at h
      exact .steps (checkoutExpired_packs h).steps
    | some run =>
      rw [hrun] at h
      exact .steps (packCheckoutEvent_packs hrun h).steps
  | unsupported =>
    simp only [dispatch, hkind, pure_eq_ok] at h
    exact .steps (SamePacks.of_eq (h ▸ rfl)).steps

/-! ## Transactions -/

/-- What one transaction did to the pack tables. -/
inductive PackTransition (cfg : Config) (b b' : Billing) : Prop
  | event {tx : Tx} {e : Event} (h : PackEvent cfg tx b e b')
  | steps {tx : Tx} (h : PackSteps tx b b')
  | charge {tx : Tx} {accountId idempotencyKey : String} {amount : Nat} {result : CreditResult}
      (h : StripeEntitlements.charge cfg.unicode.isPrintable tx b accountId amount
        idempotencyKey = .ok (b', result))
  | refund {tx : Tx} {idempotencyKey : String} {expectedAccountId : Option String}
      {result : CreditResult}
      (h : StripeEntitlements.refund cfg.unicode.isPrintable tx b idempotencyKey
        expectedAccountId = .ok (b', result))
  | outside (h : Outside b b')

/-- **What a transaction did** to the pack tables. -/
theorem Commits.packs (h : Commits cfg db db') : PackTransition cfg db.billing db'.billing := by
  cases h with
  | @event tx _ _ e _ h =>
    rcases process_billing h with hb | ⟨effect, hdispatch, hb⟩
    · have hevent : PackEvent cfg tx db.billing e db'.billing := .steps (SamePacks.of_eq hb).steps
      exact .event hevent
    · rw [hb]
      exact .event (dispatch_packEvent hdispatch)
  | charge h => exact .charge h
  | refund h => exact .refund h
  | annual h _ => exact .steps (grantDue_packSteps h)
  | outside h => exact .outside h

/-! ## Clawbacks -/

/-- What a pack clawback leaves alone: debits and allocations, the debts of other orders, and
    the identity and window of every lot. It activates no lot. -/
structure ClawsBack (orderId : String) (b b' : Billing) : Prop where
  debits : b'.debits = b.debits
  allocations : b'.allocations = b.allocations
  orders : ∀ k, (b'.orders.find? k).isSome = (b.orders.find? k).isSome
  lots : ∀ lotId, (b'.lots.find? lotId).isSome = (b.lots.find? lotId).isSome
  lot : ∀ l' ∈ b'.lots.rows, ∃ l ∈ b.lots.rows, l'.id = l.id ∧ l'.orderId = l.orderId ∧
    l'.accountId = l.accountId ∧ l'.expiresAt = l.expiresAt ∧
    (l'.status = .active → l.status = .active)
  debts : ∀ k, k ≠ orderId → b'.packDebts.find? k = b.packDebts.find? k

namespace ClawsBack

variable {orderId : String}

theorem of_eq (hdebits : b'.debits = b.debits) (hallocations : b'.allocations = b.allocations)
    (horders : b'.orders = b.orders) (hlots : b'.lots = b.lots)
    (hdebts : b'.packDebts = b.packDebts) : ClawsBack orderId b b' where
  debits := hdebits
  allocations := hallocations
  orders k := by rw [horders]
  lots k := by rw [hlots]
  lot l hl := ⟨l, hlots ▸ hl, rfl, rfl, rfl, rfl, id⟩
  debts k _ := by rw [hdebts]

theorem trans {b'' : Billing} (h : ClawsBack orderId b b') (h' : ClawsBack orderId b' b'') :
    ClawsBack orderId b b'' where
  debits := h'.debits.trans h.debits
  allocations := h'.allocations.trans h.allocations
  orders k := (h'.orders k).trans (h.orders k)
  lots k := (h'.lots k).trans (h.lots k)
  lot l'' hl'' := by
    obtain ⟨l', hl', hid', horder', haccount', hexpires', hactive'⟩ := h'.lot l'' hl''
    obtain ⟨l, hl, hid, horder, haccount, hexpires, hactive⟩ := h.lot l' hl'
    exact ⟨l, hl, hid'.trans hid, horder'.trans horder, haccount'.trans haccount,
      hexpires'.trans hexpires, fun h => hactive (hactive' h)⟩
  debts k hk := (h'.debts k hk).trans (h.debts k hk)

theorem updateOrder {k : String} {f : PackOrder → PackOrder} {t : Table PackOrder}
    (h : b.orders.update? k f = some t) (hf : ∀ o, (f o).id = o.id) :
    ClawsBack orderId b { b with orders := t } where
  debits := rfl
  allocations := rfl
  orders k' := by rw [Table.find?_updateWhere h hf, Option.isSome_map]
  lots _ := rfl
  lot l hl := ⟨l, hl, rfl, rfl, rfl, rfl, id⟩
  debts _ _ := rfl

/-- An update of lots that keeps what identifies them and activates none. -/
theorem updateLots {p : FundingLot → Bool} {f : FundingLot → FundingLot} {t : Table FundingLot}
    (h : b.lots.updateWhere? p f = some t)
    (hf : ∀ l, (f l).id = l.id ∧ (f l).orderId = l.orderId ∧ (f l).accountId = l.accountId ∧
      (f l).expiresAt = l.expiresAt ∧ ((f l).status = .active → l.status = .active)) :
    ClawsBack orderId b { b with lots := t } where
  debits := rfl
  allocations := rfl
  orders _ := rfl
  lots k := by rw [Table.find?_updateWhere h fun l => (hf l).1, Option.isSome_map]
  lot l' hl' := by
    change l' ∈ t.rows at hl'
    rw [Table.updateWhere?_eq_some.1 h] at hl'
    obtain ⟨l, hl, rfl⟩ := List.mem_map.1 hl'
    refine ⟨l, hl, ?_⟩
    split
    · exact hf l
    · exact ⟨rfl, rfl, rfl, rfl, id⟩
  debts _ _ := rfl

theorem record {c : PackClawback} {missing : Nat} (h : recordPackDebt tx b c missing = .ok b') :
    ClawsBack c.order.id b b' := by
  unfold recordPackDebt at h
  split at h
  · rw [pure_eq_ok] at h
    exact h ▸ .of_eq rfl rfl rfl rfl rfl
  split at h
  · rw [Billing.insert_eq_ok] at h
    obtain ⟨debts, hdebts, rfl⟩ := h
    refine ⟨rfl, rfl, fun _ => rfl, fun _ => rfl, fun l hl => ⟨l, hl, rfl, rfl, rfl, rfl, id⟩,
      fun k hk => ?_⟩
    exact (Table.find?_insert hdebts k).trans (if_neg (Ne.symm hk))
  · simp only [bind_eq_ok, Billing.update_eq_ok, Stored.table, Stored.install] at h
    obtain ⟨_, -, debts, hdebts, rfl⟩ := h
    exact ⟨rfl, rfl, fun _ => rfl, fun _ => rfl, fun l hl => ⟨l, hl, rfl, rfl, rfl, rfl, id⟩,
      fun k hk => Table.find?_update_ne hdebts (fun _ => rfl) hk⟩

end ClawsBack

theorem clawLot_clawsBack {c : PackClawback} {lot : FundingLot} {delta removed : Nat}
    (h : clawLot tx b c lot delta = .ok (b', removed)) : ClawsBack c.order.id b b' := by
  simp only [clawLot, bind_eq_ok, Billing.update_eq_ok, pure_eq_ok, Stored.table,
    Stored.install] at h
  obtain ⟨⟨b₁, lot'⟩, hexpire, _, -, _, ⟨lots, hlots, rfl⟩, heq⟩ := h
  cases heq
  have hexpired : ClawsBack c.order.id b b₁ := by
    unfold expireClawbackLot at hexpire
    split at hexpire
    · simp only [bind_eq_ok, Billing.update_eq_ok, pure_eq_ok, Stored.table,
        Stored.install] at hexpire
      obtain ⟨_, ⟨expired, hlots₁, rfl⟩, heq⟩ := hexpire
      cases heq
      exact .updateLots hlots₁ fun l => ⟨rfl, rfl, rfl, rfl, fun hactive => by cases hactive⟩
    · rw [pure_eq_ok] at hexpire
      cases hexpire
      exact .of_eq rfl rfl rfl rfl rfl
  refine hexpired.trans (.updateLots hlots fun l => ⟨rfl, rfl, rfl, rfl, fun hactive => ?_⟩)
  dsimp only at hactive
  split at hactive
  · split at hactive <;> cases hactive
  · exact hactive

/-- A pack clawback moves no product funding. -/
theorem applyPackClawback_clawsBack {c : PackClawback} (h : applyPackClawback tx b c = .ok effect) :
    ClawsBack c.order.id b effect.billing := by
  simp only [applyPackClawback, bind_eq_ok] at h
  obtain ⟨b₁, hbind, h⟩ := h
  obtain ⟨accounts, rfl⟩ := bindCustomer_eq_ok hbind
  have hbound : ClawsBack c.order.id b { b with accounts := accounts } :=
    .of_eq rfl rfl rfl rfl rfl
  refine hbound.trans ?_
  -- a repeat advances cash and may close the order's lot, a further clawback takes from it
  split at h
  · unfold advancePackCash at h
    split at h
    · simp only [bind_eq_ok, Billing.update_eq_ok, Stored.table, Stored.install] at h
      obtain ⟨_, ⟨orders, horders, rfl⟩, h⟩ := h
      have hprojected : ClawsBack c.order.id { b with accounts := accounts }
          { b with accounts := accounts, orders := orders } :=
        .updateOrder horders fun _ => rfl
      refine hprojected.trans ?_
      split at h
      · simp only [bind_eq_ok, Billing.updateWhere_eq_ok, pure_eq_ok, Stored.table,
          Stored.install] at h
        obtain ⟨_, ⟨lots, hlots, rfl⟩, rfl⟩ := h
        -- a lot that a dispute closes is not active afterwards
        exact .updateLots hlots fun l => ⟨rfl, rfl, rfl, rfl, fun hactive => by cases hactive⟩
      · simp only [bind_eq_ok, pure_eq_ok] at h
        obtain ⟨_, rfl, rfl⟩ := h
        exact .of_eq rfl rfl rfl rfl rfl
    · rw [pure_eq_ok] at h
      exact h ▸ .of_eq rfl rfl rfl rfl rfl
  · simp only [bind_eq_ok, Billing.update_eq_ok, pure_eq_ok, Stored.table, Stored.install] at h
    obtain ⟨⟨b₂, removed⟩, hclaw, _, ⟨orders, horders, rfl⟩, rfl⟩ := h
    refine ClawsBack.trans ?_ (.updateOrder horders fun _ => rfl)
    unfold clawFunding at hclaw
    -- an order without a lot has nothing to claw
    split at hclaw
    · rw [pure_eq_ok] at hclaw
      cases hclaw
      exact .of_eq rfl rfl rfl rfl rfl
    · simp only [bind_eq_ok, pure_eq_ok] at hclaw
      obtain ⟨⟨b₃, _⟩, hlot, b₄, hrecord, heq⟩ := hclaw
      cases heq
      exact (clawLot_clawsBack hlot).trans (.record hrecord)

/-! ## Orders of lots and debts -/

/-- An order keeps its cash columns in the rest of the application. -/
theorem Outside.order (h : Outside b b') {k : String} {o : PackOrder}
    (ho : b.orders.find? k = some o) :
    ∃ o', b'.orders.find? k = some o' ∧ o'.cash = o.cash := by
  obtain ⟨reserved, hrows, -⟩ := h.orders
  have hmem : o.unclaimed ∈ b'.orders.rows.map PackOrder.unclaimed := by
    rw [hrows]
    exact List.mem_append_left _ (List.mem_map_of_mem (Table.find?_mem ho))
  obtain ⟨o', ho', hsame⟩ := List.mem_map.1 hmem
  have hid : o'.id = o.id := (congrArg PackOrder.id hsame :)
  have hkey : o.id = k := Table.find?_key ho
  exact ⟨o', Table.find?_eq_some_iff.2 ⟨ho', hid.trans hkey⟩, by rw [PackOrder.cash, hsame]; rfl⟩

/-- The pack tables of a reachable state. -/
structure PackBooks (b : Billing) : Prop where
  state : PackState b
  lotOrder : ∀ l ∈ b.lots.rows, (b.orders.find? l.orderId).isSome
  debtOrder : ∀ d ∈ b.packDebts.rows, (b.orders.find? d.orderId).isSome

namespace PackBooks

/-- A step that keeps the orders, and creates neither lots nor debts. -/
theorem of_rows (hb : PackBooks b) (hs : PackState b')
    (horders : ∀ k, (b.orders.find? k).isSome → (b'.orders.find? k).isSome)
    (hlots : ∀ l' ∈ b'.lots.rows, (∃ l ∈ b.lots.rows, l'.orderId = l.orderId) ∨
      (b.orders.find? l'.orderId).isSome)
    (hdebts : ∀ d' ∈ b'.packDebts.rows, (∃ d ∈ b.packDebts.rows, d'.orderId = d.orderId) ∨
      (b.orders.find? d'.orderId).isSome) : PackBooks b' where
  state := hs
  lotOrder l' hl' := by
    apply horders
    rcases hlots l' hl' with ⟨l, hl, hid⟩ | hsome
    · exact hid ▸ hb.lotOrder l hl
    · exact hsome
  debtOrder d' hd' := by
    apply horders
    rcases hdebts d' hd' with ⟨d, hd, hid⟩ | hsome
    · exact hid ▸ hb.debtOrder d hd
    · exact hsome

/-- The credit service writes only progress columns of lots and debts. -/
theorem frame (hb : PackBooks b) (hs : PackState b') (hf : CreditFrame b b') : PackBooks b' := by
  refine hb.of_rows hs (fun k => by rw [hf.orders]; exact id) (fun l' hl' => .inl ?_)
    fun d' hd' => .inl ?_
  · have hmem : l'.static ∈ b.lots.rows.map FundingLot.static :=
      hf.lots ▸ List.mem_map_of_mem hl'
    obtain ⟨l, hl, hstatic⟩ := List.mem_map.1 hmem
    exact ⟨l, hl, FundingLot.orderId_of_static hstatic.symm⟩
  · have hmem : d'.static ∈ b.packDebts.rows.map PackDebt.static :=
      hf.packDebts ▸ List.mem_map_of_mem hd'
    obtain ⟨d, hd, hstatic⟩ := List.mem_map.1 hmem
    exact ⟨d, hd, PackDebt.orderId_of_static hstatic.symm⟩

/-- Orders that keep their cash columns, and new ones. -/
theorem reorder (hb : PackBooks b) (hlots : b'.lots = b.lots) (hdebts : b'.packDebts = b.packDebts)
    (hdebits : b'.debits = b.debits) (hallocations : b'.allocations = b.allocations)
    (horders : ∀ k, (b.orders.find? k).isSome → (b'.orders.find? k).isSome)
    (hcash : ∀ k o o', b.orders.find? k = some o → b'.orders.find? k = some o' → o'.cash = o.cash) :
    PackBooks b' := by
  have hs : PackState { b with orders := b'.orders } := by
    refine packState_iff.2 ⟨?_, fun k o' ho' hnone => ?_, fun l hl o' ho' => ?_⟩
    · exact ⟨hb.state.references.debit, hb.state.references.lot, hb.state.references.debt⟩
    · cases ho : b.orders.find? k with
      | some o => exact (packState_iff.1 hb.state).2.1 k o ho hnone
      | none =>
        -- a debt would have an order before
        refine Option.eq_none_iff_forall_ne_some.2 fun d hd => ?_
        have hsome := hb.debtOrder d (Table.find?_mem hd)
        rw [show d.orderId = k from Table.find?_key hd, ho] at hsome
        cases hsome
    · obtain ⟨o, ho⟩ := Option.isSome_iff_exists.1 (hb.lotOrder l hl)
      have hsame := hcash _ o o' ho ho'
      have hpack : o'.packCredits = o.packCredits := (congrArg PackOrder.packCredits hsame :)
      have hrefunded : o'.refundedCredits = o.refundedCredits :=
        (congrArg PackOrder.refundedCredits hsame :)
      have hc := hb.state.conserved hl ho
      refine ⟨hc.original.trans hpack.symm, ?_, hc.collected, ?_, ?_⟩
      · rw [hrefunded]
        exact hc.refunded
      · rw [hpack]
        exact hc.held
      · rw [hrefunded, hpack]
        exact hc.terminal
  exact hb.of_rows (hs.of_eq rfl hlots hdebts hdebits hallocations) horders
    (fun l hl => .inl ⟨l, hlots ▸ hl, rfl⟩) fun d hd => .inl ⟨d, hdebts ▸ hd, rfl⟩

theorem samePacks (hb : PackBooks b) (h : SamePacks b b') : PackBooks b' := by
  refine hb.reorder h.lots h.packDebts h.debits h.allocations (fun k hk => ?_)
    fun k o o' ho ho' => ?_
  · obtain ⟨o, ho⟩ := Option.isSome_iff_exists.1 hk
    obtain ⟨o', ho', -⟩ := h.order ho
    exact Option.isSome_iff_exists.2 ⟨o', ho'⟩
  · obtain ⟨o₁, ho₁, hcash⟩ := h.order ho
    rw [ho', Option.some.injEq] at ho₁
    exact ho₁ ▸ hcash

theorem outside (hb : PackBooks b) (h : Outside b b') : PackBooks b' := by
  refine hb.reorder h.lots h.packDebts h.debits h.allocations (fun k hk => ?_)
    fun k o o' ho ho' => ?_
  · obtain ⟨o, ho⟩ := Option.isSome_iff_exists.1 hk
    obtain ⟨o', ho', -⟩ := h.order ho
    exact Option.isSome_iff_exists.2 ⟨o', ho'⟩
  · obtain ⟨o₁, ho₁, hcash⟩ := h.order ho
    rw [ho', Option.some.injEq] at ho₁
    exact ho₁ ▸ hcash

theorem steps (hb : PackBooks b) (h : PackSteps tx b b') : PackBooks b' :=
  h.keeps (fun hsame hb => hb.samePacks hsame) (fun hcollect hb =>
    hb.frame (hb.state.collectPackDebtsFromSubscription hcollect)
      (collectPackDebtsFromSubscription_frame hcollect)) hb

/-- The update of one order keeps all of them. -/
private theorem orders_kept {t : Table PackOrder} {k : String} {f : PackOrder → PackOrder}
    (h : b.orders.update? k f = some t) (hf : ∀ o, (f o).id = o.id) (k' : String)
    (hsome : (b.orders.find? k').isSome) : (t.find? k').isSome := by
  rw [Table.find?_updateWhere h hf, Option.isSome_map]
  exact hsome

theorem payment {p : PackPayment} (hb : PackBooks b) (hp : packPaymentGuards cfg b e = .ok p)
    (h : applyPackPayment tx b p = .ok effect) : PackBooks effect.billing := by
  have hpayment : paymentSucceeded cfg tx b e = .ok effect := by
    rw [paymentSucceeded, hp]
    exact h
  have hs := paymentSucceeded_packState hb.state hpayment
  obtain ⟨horder, -⟩ := packPaymentGuards_eq_ok hp
  -- the payment writes order, account and lots, and may collect from its new lot
  obtain ⟨orders, accounts, horders, -, hcase⟩ := applyPackPayment_eq_ok h
  have hkept := orders_kept horders fun _ => rfl
  rcases hcase with ⟨-, heq⟩ | ⟨-, lots, hlots, hcase⟩
  · rw [heq] at hs ⊢
    exact hb.of_rows hs hkept (fun l hl => .inl ⟨l, hl, rfl⟩) fun d hd => .inl ⟨d, hd, rfl⟩
  have hframe : CreditFrame
      { b with orders := orders, accounts := accounts, lots := lots } effect.billing := by
    rcases hcase with heq | ⟨-, _, hrun⟩
    · rw [heq]
      exact .refl _
    · exact collectPackDebtsFromLot_frame hrun
  -- orders are kept, a lot is old or the new one, and a debt is old up to its columns
  refine hb.of_rows hs (fun k hk => ?_) (fun l' hl' => ?_) fun d' hd' => .inl ?_
  · rw [hframe.orders]
    exact hkept k hk
  · obtain ⟨l, hl, hstatic⟩ := List.mem_map.1 (hframe.lots ▸ List.mem_map_of_mem hl')
    change l ∈ lots.rows at hl
    rw [Table.insert?_eq_some.1 hlots, List.mem_append, List.mem_singleton] at hl
    have hid := FundingLot.orderId_of_static hstatic
    rcases hl with hl | rfl
    · exact .inl ⟨l, hl, hid.symm⟩
    -- the new lot belongs to the order that the guards found
    · refine .inr ?_
      rw [← hid]
      exact Option.isSome_iff_exists.2 ⟨p.order, horder⟩
  · obtain ⟨d, hd, hstatic⟩ := List.mem_map.1 (hframe.packDebts ▸ List.mem_map_of_mem hd')
    exact ⟨d, hd, (PackDebt.orderId_of_static hstatic).symm⟩

theorem clawback {charge paymentIntent : Json} {identity : PackIdentity} {c : PackClawback}
    (hb : PackBooks b) (hc : packClawbackGuards cfg b e charge paymentIntent identity = .ok c)
    (h : applyPackClawback tx b c = .ok effect) : PackBooks effect.billing := by
  obtain ⟨horder, -⟩ := packClawbackGuards_eq_ok hc
  have hclaws := applyPackClawback_clawsBack h
  refine hb.of_rows (hb.state.clawback horder h) (fun k => by rw [hclaws.orders]; exact id)
    (fun l' hl' => ?_) fun d' hd' => ?_
  · obtain ⟨l, hl, -, hid, -⟩ := hclaws.lot l' hl'
    exact .inl ⟨l, hl, hid⟩
  · by_cases hid : d'.orderId = c.order.id
    · exact .inr (Option.isSome_iff_exists.2 ⟨c.order, hid ▸ horder⟩)
    · have hfind := hclaws.debts d'.orderId hid
      rw [show effect.billing.packDebts.find? d'.orderId = some d' from Table.find?_of_mem hd']
        at hfind
      exact .inl ⟨d', Table.find?_mem hfind.symm, rfl⟩

theorem empty : PackBooks Billing.empty where
  state := {
    references := {
      debit _ ha := absurd ha List.not_mem_nil
      lot _ ha := absurd ha List.not_mem_nil
      debt _ hd := absurd hd List.not_mem_nil }
    passes _ := rfl
    terminal _ hl := absurd hl List.not_mem_nil }
  lotOrder _ hl := absurd hl List.not_mem_nil
  debtOrder _ hd := absurd hd List.not_mem_nil

theorem transition (hb : PackBooks b) (h : PackTransition cfg b b') : PackBooks b' := by
  cases h with
  | event h =>
    cases h with
    | steps h => exact hb.steps h
    | payment _ hp h heq => exact heq ▸ hb.payment hp h
    | clawback hc h heq => exact heq ▸ hb.clawback hc h
  | steps h => exact hb.steps h
  | charge h =>
    exact hb.frame (hb.state.of_moves (charge_frame h) (charge_moves hb.state.linked h).1)
      (charge_frame h)
  | refund h => exact hb.frame (refund_packState hb.state h) (refund_frame h)
  | outside h => exact hb.outside h

end PackBooks

/-- **Pack books.** In every reachable state the pack tables are consistent. -/
theorem Reachable.packBooks (h : Reachable cfg db) : PackBooks db.billing :=
  h.invariant .empty fun _ _ hcommit hb => hb.transition hcommit.packs

end StripeEntitlements
