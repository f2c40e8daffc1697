import StripeEntitlements.Packs.Steps

/-!
# The Checkout Desk

Open Checkouts live in two tables: the claims of Subscription Checkouts and the orders of
packs. Invoices, Subscriptions, Charges and the annual worker never book one: they leave the
orders alone and at most remove a claim.

## Main results

- `SameDesk` — no order is written and no claim is added
- `invoicePaid_desk`, `clawback_desk`, `subscriptionUpdated_desk`, … — the handlers outside
  the pack services
- `Served` — orders keep their booking and are never reopened, except where the account has
  got its Customer
- `process_served` — every Event serves the desk
-/

namespace StripeEntitlements

open Relational

variable {cfg : Config} {tx : Tx} {b b' : Billing} {e : Event} {effect : Effect}

structure SameDesk (b b' : Billing) : Prop where
  orders : b'.orders = b.orders
  claims : ∀ c ∈ b'.claims.rows, c ∈ b.claims.rows

namespace SameDesk

theorem refl (b : Billing) : SameDesk b b := ⟨rfl, fun _ hc => hc⟩

theorem of_eq (h : b' = b) : SameDesk b b' := h ▸ refl b

/-- Statements on other tables. -/
theorem of_tables (horders : b'.orders = b.orders) (hclaims : b'.claims = b.claims) :
    SameDesk b b' := ⟨horders, fun _ hc => hclaims ▸ hc⟩

theorem trans {b'' : Billing} (h : SameDesk b b') (h' : SameDesk b' b'') : SameDesk b b'' :=
  ⟨h'.orders.trans h.orders, fun c hc => h.claims c (h'.claims c hc)⟩

theorem of_settlement (h : Settlement b b') : SameDesk b b' := .of_tables h.orders h.claims

theorem of_frame (h : CreditFrame b b') : SameDesk b b' := .of_settlement h.settlement

theorem insertLedger {accountId : String} {delta : Int} {balanceAfter : Nat}
    {reason : LedgerReason} {grantEpoch : Nat} {eventId : String} {invoiceId : Option String}
    {slot : Option Nat} {units : Nat}
    (h : b.insertLedger accountId delta balanceAfter reason grantEpoch eventId invoiceId slot units
      = .ok b') : SameDesk b b' := by
  rw [Billing.insertLedger, Billing.insert_eq_ok] at h
  obtain ⟨ledger, -, rfl⟩ := h
  exact .of_tables rfl rfl

/-- Claims that are deleted. -/
theorem deleteClaims (p : CheckoutClaim → Bool) (h : b'.orders = b.orders)
    (hclaims : b'.claims = b.claims.deleteWhere p) : SameDesk b b' where
  orders := h
  claims c hc := by
    rw [hclaims] at hc
    exact (List.mem_filter.1 hc).1

end SameDesk

/-! ## Invoices -/

theorem settleTransition_desk {transition : PlanChange} {invoiceId : String}
    {status : PlanChangeStatus} {lastError : Option String}
    (h : settleTransition b transition invoiceId status lastError = .ok b') : SameDesk b b' := by
  obtain ⟨planChanges, rfl, -⟩ := settleTransition_eq_ok h
  exact .of_tables rfl rfl

theorem grantPeriod_desk {p : PaidInvoice} {t : PeriodTerms} {slots : PeriodSlots}
    {state : InvoiceState} {transition : Option PlanChange}
    (h : grantPeriod cfg tx b e p t slots state transition = .ok effect) :
    SameDesk b effect.billing := by
  simp only [grantPeriod, bind_eq_ok, Billing.update_eq_ok, Stored.install] at h
  obtain ⟨_, ⟨accounts, -, rfl⟩, b₁, hledger, _, ⟨invoices, -, rfl⟩, b₂, hsettle, hcomplete⟩ := h
  have haccounts : SameDesk b { b with accounts := accounts } := .of_tables rfl rfl
  have hgranted := haccounts.trans (.insertLedger hledger)
  have hinvoices : SameDesk b₁ { b₁ with invoices := invoices } := .of_tables rfl rfl
  have hsettled := (hgranted.trans hinvoices).trans (.of_settlement (settlePeriod_settlement hsettle))
  refine hsettled.trans ?_
  simp only [completeTransition] at hcomplete
  split at hcomplete
  · rw [pure_eq_ok] at hcomplete
    exact .of_eq (hcomplete ▸ rfl)
  · simp only [bind_eq_ok, pure_eq_ok] at hcomplete
    obtain ⟨b₃, htransition, rfl⟩ := hcomplete
    exact settleTransition_desk htransition

theorem applyPeriod_desk {p : PaidInvoice} {t : PeriodTerms} {transition : Option PlanChange}
    (h : applyPeriod cfg tx b e p t transition = .ok effect) : SameDesk b effect.billing := by
  obtain ⟨invoices, -, h⟩ := applyPeriod_eq_ok h
  have hrecorded : SameDesk b { b with invoices := invoices } := .of_tables rfl rfl
  refine hrecorded.trans ?_
  split at h
  · simp only [blockPeriod, bind_eq_ok, Billing.update_eq_ok, Stored.install] at h
    obtain ⟨b₁, hledger, _, ⟨invoices', -, rfl⟩, h⟩ := h
    have hinvoice : SameDesk b₁ { b₁ with invoices := invoices' } := .of_tables rfl rfl
    have hmarked := (SameDesk.insertLedger hledger).trans hinvoice
    split at h
    · simp only [bind_eq_ok, pure_eq_ok] at h
      obtain ⟨_, rfl, rfl⟩ := h
      exact hmarked
    · simp only [bind_eq_ok, pure_eq_ok] at h
      obtain ⟨b₂, htransition, rfl⟩ := h
      exact hmarked.trans (settleTransition_desk htransition)
  · exact grantPeriod_desk h

theorem applyDelta_desk {p : PaidInvoice} {transition : PlanChange} {f : DeltaFunding}
    (h : applyDelta tx b e p transition f = .ok effect) : SameDesk b effect.billing := by
  obtain ⟨invoices, -, ⟨-, hb⟩ | ⟨-, fundings, -, h⟩⟩ := applyDelta_eq_ok h
  · rw [hb]
    exact .of_tables rfl rfl
  have hrecorded : SameDesk b { b with invoices := invoices, fundings := fundings } :=
    .of_tables rfl rfl
  refine hrecorded.trans ?_
  split at h
  · simp only [blockDelta, bind_eq_ok, Billing.update_eq_ok, pure_eq_ok, Stored.install] at h
    obtain ⟨b₁, hledger, _, ⟨invoices', -, rfl⟩, _, ⟨planChanges, -, rfl⟩, rfl⟩ := h
    have hmarked : SameDesk b₁ { b₁ with invoices := invoices', planChanges := planChanges } :=
      .of_tables rfl rfl
    exact (SameDesk.insertLedger hledger).trans hmarked
  · simp only [grantDelta, bind_eq_ok, Billing.update_eq_ok, pure_eq_ok, Stored.install] at h
    obtain ⟨_, -, _, ⟨accounts, -, rfl⟩, b₁, hledger, _, ⟨invoices', -, rfl⟩, b₂, hsettle, _,
      ⟨planChanges, -, rfl⟩, rfl⟩ := h
    have hprojected : SameDesk { b with invoices := invoices, fundings := fundings }
        { b with accounts := accounts, invoices := invoices, fundings := fundings } :=
      .of_tables rfl rfl
    have hinvoice : SameDesk b₁ { b₁ with invoices := invoices' } := .of_tables rfl rfl
    have hcompleted : SameDesk b₂ { b₂ with planChanges := planChanges } := .of_tables rfl rfl
    have hgranted := (hprojected.trans (.insertLedger hledger)).trans hinvoice
    exact (hgranted.trans (.of_settlement (settleDelta_settlement hsettle))).trans hcompleted

/-- **A paid Invoice** books no Checkout. -/
theorem invoicePaid_desk (h : invoicePaid cfg tx b e = .ok effect) : SameDesk b effect.billing := by
  -- each guard that stops the handler leaves the database as it was
  rcases Guarded.andThen_eq_ok h with ⟨hb, -⟩ | ⟨p, -, h⟩
  · exact .of_eq hb
  -- a prorated delta goes to its own transition; the others settle a period
  split at h
  · rcases Guarded.andThen_eq_ok h with ⟨hb, -⟩ | ⟨f, -, h⟩
    · exact .of_eq hb
    · exact applyDelta_desk h
  · rcases Guarded.andThen_eq_ok h with ⟨hb, -⟩ | ⟨t, -, h⟩
    · exact .of_eq hb
    cases hslot : firstSlotGrant b p.invoiceId with
    -- the period slot is granted already: the replay branch writes the account row at most
    | some existing =>
      simp only [hslot] at h
      rcases Guarded.andThen_eq_ok h with ⟨hb, -⟩ | ⟨_, -, h⟩
      · exact .of_eq hb
      split at h
      · simp only [bind_eq_ok, Billing.update_eq_ok, pure_eq_ok, Stored.install] at h
        obtain ⟨_, ⟨accounts, -, rfl⟩, rfl⟩ := h
        exact .of_tables rfl rfl
      · simp only [bind_eq_ok, pure_eq_ok] at h
        obtain ⟨_, rfl, rfl⟩ := h
        exact .refl _
    -- a free slot is granted by the period transition
    | none =>
      simp only [hslot] at h
      rcases Guarded.andThen_eq_ok h with ⟨hb, -⟩ | ⟨transition, -, h⟩
      · exact .of_eq hb
      · exact applyPeriod_desk h

theorem clawEntitlement_desk {c : ClawbackTarget} (h : clawEntitlement tx b e c = .ok effect) :
    SameDesk b effect.billing := by
  -- the five writes on an entitlement that is clawed, none of them to a Checkout table
  obtain ⟨b₁, removed, b₂, b₃, b₄, hb₁, hb₂, hb₃, hb₄, hlast⟩ := clawEntitlement_eq_ok h
  have h₁ : SameDesk b b₁ := .of_settlement (clawBalance_settlement hb₁)
  -- a leaf Invoice gives its period back and reopens its plan change
  have h₂ : SameDesk b₁ b₂ := by
    split at hb₂
    · exact .of_eq hb₂
    · simp only [revertLeaf, bind_eq_ok, Billing.update_eq_ok, Billing.insertLedger,
        Billing.insert_eq_ok] at hb₂
      obtain ⟨_, -, _, ⟨accounts, -, rfl⟩, _, ⟨fundings, -, rfl⟩, _, ⟨ledger, -, rfl⟩,
        planChanges, -, rfl⟩ := hb₂
      exact .of_tables rfl rfl
  -- an annual funding loses its slots that have not been granted
  have h₃ : SameDesk b₂ b₃ := by
    unfold limitAnnualSlots at hb₃
    split at hb₃
    · rw [Billing.update_eq_ok] at hb₃
      obtain ⟨_, -, rfl⟩ := hb₃
      exact .of_tables rfl rfl
    · rw [pure_eq_ok] at hb₃
      exact .of_eq hb₃.symm
  -- the entitlement is revoked only when the clawed Invoice is the current one
  have h₄ : SameDesk b₃ b₄ := by
    split at hb₄
    · rw [revokeEntitlement, Billing.update_eq_ok] at hb₄
      obtain ⟨_, -, rfl⟩ := hb₄
      exact .of_tables rfl rfl
    · exact .of_eq hb₄
  -- the funding row records what was removed
  have h₅ : SameDesk b₄ effect.billing := by
    split at hlast
    · rw [Billing.update_eq_ok] at hlast
      obtain ⟨_, -, hb⟩ := hlast
      rw [← hb]
      exact .of_tables rfl rfl
    · exact .of_eq hlast
  exact (((h₁.trans h₂).trans h₃).trans h₄).trans h₅

/-- **A clawback of an Invoice** books no Checkout. -/
theorem clawback_desk (h : clawback cfg tx b e = .ok effect) : SameDesk b effect.billing := by
  rcases clawback_eq_ok h with ⟨hb, -⟩ | ⟨f, invoices, -, ⟨-, -, hb⟩ | ⟨account, fundings, -, -, -,
    ⟨-, hb⟩ | ⟨c, -, -, -, hrun⟩⟩⟩
  · exact .of_eq hb
  · rw [hb]
    exact .of_tables rfl rfl
  · rw [hb]
    exact .of_tables rfl rfl
  · have hrecorded : SameDesk b { b with invoices := invoices, fundings := fundings } :=
      .of_tables rfl rfl
    exact hrecorded.trans (clawEntitlement_desk hrun)

/-! ## Subscriptions -/

theorem paymentFailed_desk (h : paymentFailed cfg b e = .ok effect) : SameDesk b effect.billing := by
  rcases Guarded.andThen_eq_ok h with ⟨hb, -⟩ | ⟨f, -, h⟩
  · exact .of_eq hb
  split at h
  · rcases failPlanChange_eq_ok h with ⟨hb, -⟩ | ⟨_, planChanges, -, -, -, hb⟩
    · exact .of_eq hb
    · rw [hb]
      exact .of_tables rfl rfl
  · rcases failRenewal_eq_ok h with ⟨-, hb⟩ | ⟨-, accounts, -, hb⟩
    · exact .of_eq hb
    · rw [hb]
      exact .of_tables rfl rfl

theorem subscriptionUpdated_desk (h : subscriptionUpdated cfg b e = .ok effect) :
    SameDesk b effect.billing := by
  rcases Guarded.andThen_eq_ok h with ⟨hb, -⟩ | ⟨f, -, h⟩
  · exact .of_eq hb
  unfold applySubscription at h
  split at h
  · rw [pure_eq_ok] at h
    exact .of_eq (h ▸ rfl)
  · simp only [bind_eq_ok, Billing.update_eq_ok, pure_eq_ok, Stored.install] at h
    obtain ⟨_, ⟨accounts, -, rfl⟩, rfl⟩ := h
    have haccounts : SameDesk b { b with accounts := accounts } := .of_tables rfl rfl
    simp only [consumeClaim]
    split
    · exact haccounts.trans (.deleteClaims _ rfl rfl)
    · exact haccounts

theorem subscriptionDeleted_desk (h : subscriptionDeleted cfg b e = .ok effect) :
    SameDesk b effect.billing := by
  rcases Guarded.andThen_eq_ok h with ⟨hb, -⟩ | ⟨account, -, h⟩
  · exact .of_eq hb
  simp only [applyDeletion, bind_eq_ok, Billing.update_eq_ok, Stored.install] at h
  obtain ⟨_, ⟨accounts, -, rfl⟩, h⟩ := h
  have hdeleted : SameDesk b { b with
      accounts := accounts
      claims := b.claims.deleteWhere (·.accountId = account.id) } := .deleteClaims _ rfl rfl
  refine hdeleted.trans ?_
  split at h
  · simp only [bind_eq_ok, pure_eq_ok, Billing.updateWhere_eq_ok, Stored.install] at h
    obtain ⟨_, rfl, _, ⟨planChanges, -, rfl⟩, rfl⟩ := h
    exact .of_tables rfl rfl
  · simp only [bind_eq_ok, pure_eq_ok, Billing.updateWhere_eq_ok, Stored.install] at h
    obtain ⟨b₁, hledger, _, ⟨planChanges, -, rfl⟩, rfl⟩ := h
    have hplans : SameDesk b₁ { b₁ with planChanges := planChanges } := .of_tables rfl rfl
    exact (SameDesk.insertLedger hledger).trans hplans

theorem checkoutCompleted_desk (h : checkoutCompleted cfg b e = .ok effect) :
    SameDesk b effect.billing := by
  rcases Guarded.andThen_eq_ok h with ⟨hb, -⟩ | ⟨s, -, h⟩
  · exact .of_eq hb
  simp only [bind_eq_ok, Billing.update_eq_ok, pure_eq_ok, Stored.install] at h
  obtain ⟨_, ⟨accounts, -, rfl⟩, rfl⟩ := h
  exact .deleteClaims _ rfl rfl

theorem checkoutExpired_desk (h : checkoutExpired b e = .ok effect) :
    SameDesk b effect.billing := by
  rcases checkoutExpired_eq_ok h with hb | ⟨hb, -⟩
  · rw [hb]
    exact .deleteClaims _ rfl rfl
  · exact .of_eq hb

/-- **The annual worker** books no Checkout. -/
theorem grantDue_desk {accountId : String} {now : Option Int} {snapshot : SubscriptionSnapshot}
    (h : grantDue cfg tx b accountId now snapshot = .ok effect) : SameDesk b effect.billing := by
  rcases Guarded.andThen_eq_ok h with ⟨hb, -⟩ | ⟨⟨account, plan⟩, -, h⟩
  · exact .of_eq hb
  simp only [applyAnnualGrant] at h
  split at h
  · rw [pure_eq_ok] at h
    exact .of_eq (h ▸ rfl)
  split at h
  · rw [pure_eq_ok] at h
    exact .of_eq (h ▸ rfl)
  split at h
  · simp only [bind_eq_ok, Billing.update_eq_ok, pure_eq_ok, Stored.install] at h
    obtain ⟨_, ⟨accounts, -, rfl⟩, rfl⟩ := h
    exact .of_tables rfl rfl
  · simp only [grantAnnualSlot, bind_eq_ok, Billing.update_eq_ok, pure_eq_ok, Stored.install] at h
    obtain ⟨b₁, ⟨_, ⟨accounts, -, rfl⟩, b₂, hledger, _, ⟨invoices, -, rfl⟩, ⟨b₃, _⟩, hcollect,
      rfl⟩, rfl⟩ := h
    have haccounts : SameDesk b { b with accounts := accounts } := .of_tables rfl rfl
    have hinvoices : SameDesk b₂ { b₂ with invoices := invoices } := .of_tables rfl rfl
    have hgranted := (haccounts.trans (.insertLedger hledger)).trans hinvoices
    exact hgranted.trans (.of_frame (collectPackDebtsFromSubscription_frame hcollect))

/-! ## Pack orders -/

/-- The order without the columns that Events write. -/
def PackOrder.booking (o : PackOrder) : PackOrder :=
  { o with
    checkoutStatus := .reserved
    paymentStatus := .pending
    stripeCheckoutSessionId := none
    stripePaymentIntentId := none
    stripeChargeId := none
    stripeCustomerId := none
    sessionUrl := none
    amountPaid := none
    amountRefunded := 0
    refundedCredits := 0
    paidAt := none }

/-- An order moves on: it never waits for a payment again, and an expired Checkout comes back
    only with the Customer of its account. -/
structure PackOrder.Advances (bound : Prop) (o o' : PackOrder) : Prop where
  booking : o'.booking = o.booking
  pending : o'.paymentStatus = .pending → o.paymentStatus = .pending
  expired : o.checkoutStatus = .expired → o'.checkoutStatus = .expired ∨ bound

namespace PackOrder.Advances

variable {bound : Prop} {o o' o'' : PackOrder}

theorem refl (o : PackOrder) : o.Advances bound o := ⟨rfl, fun h => h, .inl⟩

theorem trans (h : o.Advances bound o') (h' : o'.Advances bound o'') : o.Advances bound o'' where
  booking := h'.booking.trans h.booking
  pending hpending := h.pending (h'.pending hpending)
  expired hexpired := (h.expired hexpired).elim h'.expired .inr

end PackOrder.Advances

/-- The orders advance and no claim is added. -/
structure Served (bound : String → Prop) (b b' : Billing) : Prop where
  orders : ∃ f : PackOrder → PackOrder, b'.orders.rows = b.orders.rows.map f ∧
    ∀ o ∈ b.orders.rows, o.Advances (bound o.accountId) (f o)
  claims : ∀ c ∈ b'.claims.rows, c ∈ b.claims.rows

namespace Served

variable {bound : String → Prop}

theorem of_desk (h : SameDesk b b') : Served bound b b' where
  orders := ⟨id, by rw [h.orders, List.map_id], fun o _ => .refl o⟩
  claims := h.claims

theorem of_eq (h : b' = b) : Served bound b b' := .of_desk (.of_eq h)

theorem trans {b'' : Billing} (h : Served bound b b') (h' : Served bound b' b'') :
    Served bound b b'' := by
  obtain ⟨f, hrows, hf⟩ := h.orders
  obtain ⟨g, hrows', hg⟩ := h'.orders
  refine ⟨⟨g ∘ f, by rw [hrows', hrows, List.map_map], fun o ho => ?_⟩,
    fun c hc => h.claims c (h'.claims c hc)⟩
  have hfo : f o ∈ b'.orders.rows := hrows ▸ List.mem_map_of_mem ho
  have howner : (f o).accountId = o.accountId :=
    (congrArg PackOrder.accountId (hf o ho).booking :)
  exact (hf o ho).trans (howner ▸ hg _ hfo)

/-- One statement on orders. -/
theorem updateOrders {p : PackOrder → Bool} {f : PackOrder → PackOrder} {t : Table PackOrder}
    (h : b.orders.updateWhere? p f = some t)
    (hf : ∀ o ∈ b.orders.rows, p o = true → o.Advances (bound o.accountId) (f o)) :
    Served bound b { b with orders := t } := by
  refine ⟨⟨fun o => if p o then f o else o, Table.updateWhere?_eq_some.1 h, fun o ho => ?_⟩,
    fun _ hc => hc⟩
  dsimp only
  split
  case isTrue hp => exact hf o ho hp
  case isFalse => exact .refl o

/-- One statement on the order `order`, as it was read. -/
theorem updateOrder {order : PackOrder} {f : PackOrder → PackOrder} {t : Table PackOrder}
    (horder : b.orders.find? order.id = some order) (h : b.orders.update? order.id f = some t)
    (hf : order.Advances (bound order.accountId) (f order)) :
    Served bound b { b with orders := t } := by
  refine updateOrders h fun o ho hkey => ?_
  have hid : o.id = order.id := of_decide_eq_true hkey
  have hsame : o = order := b.orders.eq_of_key_eq ho (Table.find?_mem horder) hid
  exact hsame ▸ hf

end Served

/-- The account has a Customer. -/
def Billing.HasCustomer (b : Billing) (accountId : String) : Prop :=
  ∃ a ∈ b.accounts.rows, a.id = accountId ∧ a.stripeCustomerId.isSome

theorem bindCustomer_served {bound : String → Prop} {account : Account}
    {customerId : Option String} (h : bindCustomer b account customerId = .ok b') :
    Served bound b b' := by
  obtain ⟨accounts, rfl⟩ := bindCustomer_eq_ok h
  exact .of_desk (.of_tables rfl rfl)

theorem paymentSucceeded_served {bound : String → Prop}
    (h : paymentSucceeded cfg tx b e = .ok effect) : Served bound b effect.billing := by
  rcases Guarded.andThen_eq_ok h with ⟨hb, -⟩ | ⟨p, hp, h⟩
  · exact .of_eq hb
  obtain ⟨horder, -, -, -⟩ := packPaymentGuards_eq_ok hp
  obtain ⟨orders, accounts, horders, -, hcase⟩ := applyPackPayment_eq_ok h
  -- a payment leaves no order pending, and an expired Checkout expired
  have hadvances : p.order.Advances (bound p.order.accountId) (p.projectOrder p.order) := by
    refine ⟨rfl, fun hpending => ?_, fun hexpired => .inl ?_⟩
    · simp only [PackPayment.projectOrder, PackOrder.statusAfterPayment] at hpending
      split at hpending
      · cases hpending
      · exact hpending
    · simp [PackPayment.projectOrder, hexpired]
  have hprojected := Served.updateOrder horder horders hadvances
  have hbound : SameDesk { b with orders := orders }
      { b with orders := orders, accounts := accounts } := .of_tables rfl rfl
  refine (hprojected.trans (.of_desk hbound)).trans (.of_desk ?_)
  rcases hcase with ⟨-, heq⟩ | ⟨-, lots, -, heq | ⟨-, _, hcollect⟩⟩
  · exact .of_eq heq
  · rw [heq]
    exact .of_tables rfl rfl
  · have hlots : SameDesk { b with orders := orders, accounts := accounts }
        { b with orders := orders, accounts := accounts, lots := lots } := .of_tables rfl rfl
    exact hlots.trans (.of_frame (collectPackDebtsFromLot_frame hcollect))

theorem PackClawback.projectOrder_advances {bound : Prop} (c : PackClawback) (o : PackOrder) :
    o.Advances bound (c.projectOrder o) where
  booking := rfl
  pending hpending := by
    have hstatus : c.cashStatus = .pending := hpending
    unfold cashStatus at hstatus
    split at hstatus
    · cases hstatus
    · split at hstatus <;> cases hstatus
  expired := .inl

theorem clawFunding_desk {c : PackClawback} {delta removed : Nat}
    (h : clawFunding tx b c delta = .ok (b', removed)) : SameDesk b b' := by
  unfold clawFunding at h
  split at h
  · rw [pure_eq_ok] at h
    cases h
    exact .refl b
  · simp only [clawLot, bind_eq_ok, Billing.update_eq_ok, pure_eq_ok] at h
    obtain ⟨⟨b₁, _⟩, ⟨⟨b₂, lot⟩, hexpire, _, -, _, ⟨lots, -, rfl⟩, heq⟩, b₃, hdebt, heq'⟩ := h
    cases heq
    cases heq'
    obtain ⟨debts, rfl, -⟩ := recordPackDebt_eq_ok hdebt
    unfold expireClawbackLot at hexpire
    split at hexpire
    · simp only [bind_eq_ok, Billing.update_eq_ok, pure_eq_ok] at hexpire
      obtain ⟨_, ⟨lots', -, rfl⟩, heq⟩ := hexpire
      cases heq
      exact .of_tables rfl rfl
    · rw [pure_eq_ok] at hexpire
      cases hexpire
      exact .of_tables rfl rfl

theorem applyPackClawback_served {bound : String → Prop} {c : PackClawback}
    (h : applyPackClawback tx b c = .ok effect) : Served bound b effect.billing := by
  simp only [applyPackClawback, bind_eq_ok] at h
  obtain ⟨b₁, hbind, h⟩ := h
  -- the Customer is bound first; what follows touches orders, lots and the ledger
  refine (bindCustomer_served hbind).trans ?_
  split at h
  -- the target is removed already, so at most the cash facts advance
  case isTrue =>
    unfold advancePackCash at h
    split at h
    case isTrue =>
      simp only [bind_eq_ok, Billing.update_eq_ok] at h
      obtain ⟨_, ⟨orders, horders, rfl⟩, h⟩ := h
      -- the projected order advances its cash alone, so its booking is the same
      have hprojected : Served bound b₁ { b₁ with orders := orders } :=
        .updateOrders horders fun o _ _ => c.projectOrder_advances o
      refine hprojected.trans (.of_desk ?_)
      split at h
      · simp only [bind_eq_ok, Billing.updateWhere_eq_ok, pure_eq_ok] at h
        obtain ⟨_, ⟨lots, -, rfl⟩, rfl⟩ := h
        exact .of_tables rfl rfl
      · simp only [bind_eq_ok, pure_eq_ok] at h
        obtain ⟨_, rfl, rfl⟩ := h
        exact .refl _
    case isFalse =>
      rw [pure_eq_ok] at h
      exact .of_eq (h ▸ rfl)
  -- the missing atoms are clawed from the funding, then the order records the target
  case isFalse =>
    simp only [bind_eq_ok, Billing.update_eq_ok, pure_eq_ok] at h
    obtain ⟨⟨b₂, removed⟩, hclaw, _, ⟨orders, horders, rfl⟩, rfl⟩ := h
    refine (Served.of_desk (clawFunding_desk hclaw)).trans ?_
    refine .updateOrders horders fun o _ _ => ?_
    have hcash : o.Advances (bound o.accountId) (c.projectOrder o) := c.projectOrder_advances o
    exact ⟨hcash.booking, hcash.pending, hcash.expired⟩

theorem packClawback_served {bound : String → Prop} {run : Transaction Effect}
    (hrun : packClawback cfg tx b e = some run) (h : run = .ok effect) :
    Served bound b effect.billing := by
  simp only [packClawback, Option.bind_eq_bind, Option.bind_eq_some_iff, Option.some.injEq] at hrun
  obtain ⟨-, -, identity, -, -, -, rfl⟩ := hrun
  rcases Guarded.andThen_eq_ok h with ⟨hb, -⟩ | ⟨c, -, h⟩
  · exact .of_eq hb
  · exact applyPackClawback_served h

/-- An order keeps its columns up to an attached Session, which an expired one has. -/
theorem attachPackSession_served {bound : String → Prop} {order : PackOrder} {sessionId : String}
    (horder : b.orders.find? order.id = some order)
    (h : attachPackSession b order sessionId = .ok b') : Served bound b b' := by
  unfold attachPackSession at h
  split at h
  case isTrue hnone =>
    rw [Billing.update_eq_ok] at h
    obtain ⟨orders, horders, rfl⟩ := h
    refine .updateOrder horder horders ⟨rfl, id, fun hexpired => ?_⟩
    have hchecked := b.orders.valid.checked order (Table.find?_mem horder)
    simp [Relation.check, Option.isNone_iff_eq_none.1 hnone, hexpired] at hchecked
  case isFalse =>
    rw [pure_eq_ok] at h
    exact .of_eq h.symm

theorem packCheckout_served {sessionId : String} {order : PackOrder}
    (horder : b.orders.find? order.id = some order)
    (h : packCheckout cfg b e sessionId order = .ok effect) :
    Served effect.billing.HasCustomer b effect.billing := by
  rcases Guarded.andThen_eq_ok h with ⟨hb, -⟩ | ⟨account, haccount, h⟩
  · exact .of_eq hb
  have hrow : b.accounts.find? order.accountId = some account := by
    simp only [packCheckoutGuards, bind_eq_ok, fetch_eq_ok, require_eq_ok, pure_eq_ok] at haccount
    obtain ⟨_, hrow, _, -, _, -, _, -, rfl⟩ := haccount
    exact hrow
  simp only [bind_eq_ok] at h
  obtain ⟨b₁, hattach, h⟩ := h
  have hattached : Served effect.billing.HasCustomer b b₁ := attachPackSession_served horder hattach
  refine hattached.trans ?_
  have haccounts : b₁.accounts = b.accounts := by
    unfold attachPackSession at hattach
    split at hattach
    · rw [Billing.update_eq_ok] at hattach
      obtain ⟨orders, -, rfl⟩ := hattach
      rfl
    · rw [pure_eq_ok] at hattach
      rw [hattach]
  split at h
  case isTrue =>
    unfold expirePackCheckout at h
    split at h
    · simp only [bind_eq_ok, Billing.update_eq_ok, pure_eq_ok] at h
      obtain ⟨_, ⟨orders, horders, rfl⟩, rfl⟩ := h
      exact .updateOrders horders fun o _ _ => ⟨rfl, id, fun _ => .inl rfl⟩
    · simp only [bind_eq_ok, pure_eq_ok] at h
      obtain ⟨_, rfl, rfl⟩ := h
      exact .of_eq rfl
  case isFalse =>
    simp only [completePackCheckout] at h
    split at h
    case isTrue =>
      rw [pure_eq_ok] at h
      exact .of_eq (h ▸ rfl)
    case isFalse hidentity =>
      simp only [bind_eq_ok, Billing.updateWhere_eq_ok, pure_eq_ok] at h
      obtain ⟨_, ⟨orders, horders, rfl⟩, b₂, hbind, rfl⟩ := h
      simp only [Bool.or_eq_true, not_or, Bool.not_eq_true, Option.isNone_eq_false_iff] at hidentity
      -- completion reopens an expired Checkout of the account it binds
      obtain ⟨⟨⟨⟨-, hcustomer⟩, -⟩, -⟩, -⟩ := hidentity
      have hkey : account.id = order.accountId := Table.find?_key hrow
      have haccount₁ : b₁.accounts.find? account.id = some account := by
        rw [haccounts, hkey]
        exact hrow
      obtain ⟨customerId, hsome⟩ := Option.isSome_iff_exists.1 hcustomer
      rw [hsome] at hbind
      obtain ⟨accounts, rfl, a, ha, hbound⟩ := bindCustomer_bound hbind haccount₁
      have howner : Billing.HasCustomer
          { b₁ with orders := orders, accounts := accounts } order.accountId :=
        ⟨a, Table.find?_mem ha, (Table.find?_key ha).trans hkey, hbound⟩
      have hcompleted : Served (Billing.HasCustomer
          { b₁ with orders := orders, accounts := accounts }) b₁ { b₁ with orders := orders } := by
        refine .updateOrders horders fun o ho hmatch => ⟨rfl, id, fun _ => .inr ?_⟩
        simp only [Bool.and_eq_true, decide_eq_true_eq] at hmatch
        obtain ⟨f, hrows, hf⟩ := hattached.orders
        rw [hrows] at ho
        obtain ⟨o₀, ho₀, rfl⟩ := List.mem_map.1 ho
        have hbooking := (hf o₀ ho₀).booking
        have hid : o₀.id = order.id := (congrArg PackOrder.id hbooking :).symm.trans hmatch.1
        have hsame : o₀ = order := b.orders.eq_of_key_eq ho₀ (Table.find?_mem horder) hid
        have howned : (f o₀).accountId = order.accountId :=
          (congrArg PackOrder.accountId hbooking :).trans (by rw [hsame]; rfl)
        exact howned ▸ howner
      exact hcompleted.trans (.of_desk (.of_tables rfl rfl))

theorem packCheckoutEvent_served {run : Transaction Effect}
    (hrun : packCheckoutEvent cfg b e = some run) (h : run = .ok effect) :
    Served effect.billing.HasCustomer b effect.billing := by
  rcases packCheckoutEvent_order hrun h with hb | ⟨_, _, -, horder, hcheckout⟩
  · exact .of_eq hb
  · exact packCheckout_served horder hcheckout

/-! ## All Events -/

theorem dispatch_served (h : dispatch cfg tx b e = .ok effect) :
    Served effect.billing.HasCustomer b effect.billing := by
  -- one case for each kind of Event, in the order of the dispatch table
  cases hkind : e.kind with
  | paymentIntentSucceeded =>
    simp only [dispatch, hkind] at h
    exact paymentSucceeded_served h
  | invoicePaid =>
    simp only [dispatch, hkind] at h
    exact .of_desk (invoicePaid_desk h)
  | invoicePaymentFailed =>
    simp only [dispatch, hkind] at h
    exact .of_desk (paymentFailed_desk h)
  | customerSubscriptionUpdated =>
    simp only [dispatch, hkind] at h
    exact .of_desk (subscriptionUpdated_desk h)
  | customerSubscriptionDeleted =>
    simp only [dispatch, hkind] at h
    exact .of_desk (subscriptionDeleted_desk h)
  | chargeRefunded | chargeDisputeCreated =>
    simp only [dispatch, hkind] at h
    -- a refund or a dispute of a pack Charge takes the pack route, any other the Invoice route
    cases hrun : packClawback cfg tx b e with
    | none =>
      rw [hrun] at h
      exact .of_desk (clawback_desk h)
    | some run =>
      rw [hrun] at h
      exact packClawback_served hrun h
  | checkoutSessionCompleted =>
    simp only [dispatch, hkind] at h
    -- a Session of mode `payment` is a pack Checkout, any other opens a Subscription
    cases hrun : packCheckoutEvent cfg b e with
    | none =>
      rw [hrun] at h
      exact .of_desk (checkoutCompleted_desk h)
    | some run =>
      rw [hrun] at h
      exact packCheckoutEvent_served hrun h
  | checkoutSessionExpired =>
    simp only [dispatch, hkind] at h
    cases hrun : packCheckoutEvent cfg b e with
    | none =>
      rw [hrun] at h
      exact .of_desk (checkoutExpired_desk h)
    | some run =>
      rw [hrun] at h
      exact packCheckoutEvent_served hrun h
  | unsupported =>
    simp only [dispatch, hkind, pure_eq_ok] at h
    exact .of_eq (h ▸ rfl)

/-- **Every Event** serves the desk. -/
theorem process_served {db db' : Db} {result : ProcessResult}
    (h : process cfg tx db e = .ok (db', result)) :
    Served db'.billing.HasCustomer db.billing db'.billing := by
  rcases process_billing h with hb | ⟨effect, hdispatch, hb⟩
  · exact .of_eq hb
  · rw [hb]
    exact dispatch_served hdispatch

end StripeEntitlements
