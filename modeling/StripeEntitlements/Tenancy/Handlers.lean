import StripeEntitlements.Redelivery.Process
import StripeEntitlements.Tenancy.Credits

/-!
# Pack and Subscription Handlers Act for One Account

A pack Event names its order and account in the metadata, and the order must belong to that
account; lots and debts follow their order. A Subscription Event locks its account by metadata,
client reference, Subscription or customer.

## Main results

- `paymentSucceeded_acts`, `packClawback_acts`, `packCheckoutEvent_acts` — credit packs
- `paymentFailed_acts`, `subscriptionUpdated_acts`, `subscriptionDeleted_acts`,
  `checkoutCompleted_acts`, `checkoutExpired_acts` — Subscriptions
-/

namespace StripeEntitlements

open Relational

variable {cfg : Config} {tx : Tx} {b b' : Billing} {e : Event} {effect : Effect}

/-! ## Pack payments -/

theorem bindCustomer_acts {account : Account} {customerId : Option String} (hb : Ownership b)
    (h : bindCustomer b account customerId = .ok b') : Acts (some account.id) b b' := by
  unfold bindCustomer at h
  split at h
  · exact .setAccount hb h fun _ => rfl
  · rw [pure_eq_ok] at h
    exact h ▸ .refl hb

/-- A lot of an order of the account belongs to the account. -/
theorem Ownership.lot_owner (hb : Ownership b) {orderId accountId : String}
    (horder : b.owns PackOrder orderId accountId) {l : FundingLot} (hl : l ∈ b.lots.rows)
    (hid : l.orderId = orderId) : l.accountId = accountId := by
  have hanchor : b.owns PackOrder l.orderId l.accountId := hb.lots l hl
  rw [hid] at hanchor
  exact hanchor.unique horder

theorem applyPackPayment_acts {p : PackPayment} (hb : Ownership b)
    (horder : b.owns PackOrder p.order.id p.account.id)
    (h : applyPackPayment tx b p = .ok effect) : Acts (some p.account.id) b effect.billing := by
  obtain ⟨orders, accounts, horders, hbind, hcase⟩ := applyPackPayment_eq_ok h
  have h₁ : Acts (some p.account.id) b { b with orders := orders } :=
    .update hb horders (fun _ => rfl) (fun _ => rfl) horder fun _ _ => trivial
  have h₂ := h₁.trans (bindCustomer_acts h₁.ownership hbind)
  rcases hcase with ⟨-, heq⟩ | ⟨-, lots, hlots, hcase⟩
  · rw [heq]
    exact h₂
  have h₃ : Acts (some p.account.id) { b with orders := orders, accounts := accounts }
      { b with orders := orders, accounts := accounts, lots := lots } :=
    .insert h₂.ownership hlots (.inr rfl) (h₂.orders.keeps _ _ horder)
  rcases hcase with heq | ⟨-, _, hcollect⟩
  · rw [heq]
    exact h₂.trans h₃
  · have hlot : ({ b with orders := orders, accounts := accounts, lots := lots } : Billing).owns
        FundingLot (p.lot tx (tx.uuid b.lots.rows.length)).id p.account.id :=
      Table.Owns.insert hlots rfl
    exact (h₂.trans h₃).trans (collectPackDebtsFromLot_acts h₃.ownership hlot hcollect)

/-- The order a pack Event locked belongs to the account its metadata names. -/
theorem lockedOrder_owned {orderId accountId : String} {account : Account} {order : PackOrder}
    (h : lockedOrder b orderId accountId = some (account, order)) :
    account.id = accountId ∧ b.owns PackOrder order.id account.id := by
  obtain ⟨horder, -, -, howner⟩ := lockedOrder_eq_some h
  exact ⟨Table.find?_key (lockedOrder_of_find h).2,
    Billing.owns_of_find horder (congrArg some howner)⟩

/-- **Pack payments** act for the account of their metadata. -/
theorem paymentSucceeded_acts (hb : Ownership b) (h : paymentSucceeded cfg tx b e = .ok effect) :
    Acts ((packOrderMetadata cfg e.object).map PackIdentity.accountId) b effect.billing := by
  rcases Guarded.andThen_eq_ok h with ⟨heq, -⟩ | ⟨p, hguards, h⟩
  · rw [heq]
    exact .refl hb
  obtain ⟨-, -, -, identity, hidentity, hlocked⟩ := packPaymentGuards_facts hguards
  obtain ⟨haccount, horder⟩ := lockedOrder_owned hlocked
  rw [hidentity, Option.map_some, ← haccount]
  exact applyPackPayment_acts hb horder h

/-! ## Pack clawbacks -/

section

variable {c : PackClawback}

theorem advancePackCash_acts (hb : Ownership b) (horder : b.owns PackOrder c.order.id c.account.id)
    (h : advancePackCash tx b c = .ok effect) : Acts (some c.account.id) b effect.billing := by
  unfold advancePackCash at h
  split at h
  · rw [bind_eq_ok] at h
    obtain ⟨b₁, hproject, h⟩ := h
    have h₁ : Acts (some c.account.id) b b₁ :=
      .set hb hproject (fun _ => rfl) (fun _ => rfl) horder fun _ _ => trivial
    split at h
    · simp only [bind_eq_ok, Billing.updateWhere_eq_ok, pure_eq_ok] at h
      obtain ⟨_, ⟨lots, hlots, rfl⟩, rfl⟩ := h
      refine h₁.trans (.updateWhere h₁.ownership hlots (fun _ => rfl) (fun _ => rfl)
        (fun l hl hp => ?_) fun _ h => h)
      simp only [Bool.and_eq_true, decide_eq_true_eq] at hp
      exact congrArg some (h₁.ownership.lot_owner (h₁.orders.keeps _ _ horder) hl hp.1)
    · simp only [bind_eq_ok, pure_eq_ok] at h
      obtain ⟨_, rfl, rfl⟩ := h
      exact h₁
  · rw [pure_eq_ok] at h
    exact h ▸ .refl hb

theorem clawLot_acts {lot : FundingLot} {delta removed : Nat} (hb : Ownership b)
    (hlot : b.owns FundingLot lot.id c.account.id)
    (h : clawLot tx b c lot delta = .ok (b', removed)) : Acts (some c.account.id) b b' := by
  simp only [clawLot, bind_eq_ok, pure_eq_ok] at h
  obtain ⟨⟨b₁, lot'⟩, hexpire, _, -, b₂, hclaw, heq⟩ := h
  cases heq
  unfold expireClawbackLot at hexpire
  split at hexpire
  · simp only [bind_eq_ok, pure_eq_ok] at hexpire
    obtain ⟨_, hupdate, heq⟩ := hexpire
    cases heq
    have h₁ : Acts (some c.account.id) b b₁ :=
      .set hb hupdate (fun _ => rfl) (fun _ => rfl) hlot fun _ h => h
    exact h₁.trans (.set h₁.ownership hclaw (fun _ => rfl) (fun _ => rfl)
      (h₁.lots.keeps _ _ hlot) fun _ h => h)
  · rw [pure_eq_ok] at hexpire
    cases hexpire
    exact .set hb hclaw (fun _ => rfl) (fun _ => rfl) hlot fun _ h => h

theorem recordPackDebt_acts {missing : Nat} (hb : Ownership b)
    (horder : b.owns PackOrder c.order.id c.account.id)
    (h : recordPackDebt tx b c missing = .ok b') : Acts (some c.account.id) b b' := by
  unfold recordPackDebt at h
  split at h
  · rw [pure_eq_ok] at h
    exact h ▸ .refl hb
  split at h
  · rw [Billing.insert_eq_ok] at h
    obtain ⟨debts, hinsert, rfl⟩ := h
    exact .insert hb hinsert (.inr rfl) horder
  · rename_i debt hdebt
    rw [bind_eq_ok] at h
    obtain ⟨target, -, hraise⟩ := h
    have hown : b.owns PackDebt c.order.id c.account.id :=
      Billing.owns_of_find hdebt (congrArg some
        (hb.packDebt_owner horder (Table.find?_mem hdebt) (Table.find?_key hdebt)))
    exact .set hb hraise (fun _ => rfl) (fun _ => rfl) hown fun _ h => h

theorem applyPackClawback_acts (hb : Ownership b)
    (horder : b.owns PackOrder c.order.id c.account.id)
    (h : applyPackClawback tx b c = .ok effect) : Acts (some c.account.id) b effect.billing := by
  simp only [applyPackClawback, bind_eq_ok] at h
  obtain ⟨b₁, hbind, h⟩ := h
  have h₁ := bindCustomer_acts hb hbind
  have horder₁ := h₁.orders.keeps _ _ horder
  split at h
  · exact h₁.trans (advancePackCash_acts h₁.ownership horder₁ h)
  simp only [bind_eq_ok, pure_eq_ok] at h
  obtain ⟨⟨b₂, removed⟩, hclaw, b₃, hproject, rfl⟩ := h
  have h₂ : Acts (some c.account.id) b₁ b₂ := by
    unfold clawFunding at hclaw
    split at hclaw
    · rw [pure_eq_ok] at hclaw
      cases hclaw
      exact .refl h₁.ownership
    · rename_i lot hlot
      simp only [bind_eq_ok, pure_eq_ok] at hclaw
      obtain ⟨⟨b₄, removed'⟩, hremove, b₅, hdebt, heq⟩ := hclaw
      cases heq
      obtain ⟨hrow, hid⟩ := lotOfOrder_eq_some.1 hlot
      -- the lot of the order is a lot of the account
      have hown : b₁.owns FundingLot lot.id c.account.id := by
        rw [← h₁.ownership.lot_owner horder₁ hrow hid]
        exact Table.Owns.of_mem hrow rfl
      have h₃ := clawLot_acts h₁.ownership hown hremove
      exact h₃.trans (recordPackDebt_acts h₃.ownership (h₃.orders.keeps _ _ horder₁) hdebt)
  have h₁₂ := h₁.trans h₂
  exact h₁₂.trans (.set h₁₂.ownership hproject (fun _ => rfl) (fun _ => rfl)
    (h₁₂.orders.keeps _ _ horder) fun _ _ => trivial)

end

/-- The order and account a Charge of a credit pack names. -/
def packChargeIdentity (cfg : Config) (e : Event) : Option PackIdentity := do
  let raw := e.object
  let charge := if e.kind = .chargeDisputeCreated then raw.get "_resolved_charge" else raw
  let paymentIntent := raw.get "_resolved_payment_intent"
  guard (charge.isObj && paymentIntent.isObj)
  let identity ← packOrderMetadata cfg paymentIntent
  guard (cfg.unicode.stripeId (charge.get "payment_intent") "pi_" =
    cfg.unicode.stripeId (paymentIntent.get "id") "pi_")
  some identity

/-- **Pack clawbacks** act for the account their PaymentIntent names. -/
theorem packClawback_acts {run : Transaction Effect} (hb : Ownership b)
    (hrun : packClawback cfg tx b e = some run) (h : run = .ok effect) :
    ∃ identity, packChargeIdentity cfg e = some identity ∧
      Acts (some identity.accountId) b effect.billing := by
  simp only [packClawback, Option.bind_eq_bind, Option.bind_eq_some_iff, Option.some.injEq] at hrun
  obtain ⟨u, hobj, identity, hidentity, u', hintent, rfl⟩ := hrun
  refine ⟨identity, ?_, ?_⟩
  · simp only [packChargeIdentity, Option.bind_eq_bind, Option.bind_eq_some_iff, Option.some.injEq]
    exact ⟨u, hobj, identity, hidentity, u', hintent, rfl⟩
  rcases Guarded.andThen_eq_ok h with ⟨heq, -⟩ | ⟨c, hguards, h⟩
  · rw [heq]
    exact .refl hb
  obtain ⟨haccount, horder⟩ := lockedOrder_owned (packClawbackGuards_facts hguards).1
  rw [← haccount]
  exact applyPackClawback_acts hb horder h

/-- A Charge that is not of a credit pack names no order. -/
theorem packChargeIdentity_none (h : packClawback cfg tx b e = none) :
    packChargeIdentity cfg e = none := by
  refine Option.eq_none_iff_forall_ne_some.2 fun identity hidentity => ?_
  simp only [packChargeIdentity, Option.bind_eq_bind, Option.bind_eq_some_iff,
    Option.some.injEq] at hidentity
  obtain ⟨u, hobj, identity', hmetadata, u', hintent, rfl⟩ := hidentity
  have hsome : ∃ run, packClawback cfg tx b e = some run := by
    simp only [packClawback, Option.bind_eq_bind, Option.bind_eq_some_iff, Option.some.injEq]
    exact ⟨_, u, hobj, identity', hmetadata, u', hintent, rfl⟩
  obtain ⟨run, hrun⟩ := hsome
  rw [h] at hrun
  cases hrun

/-! ## Pack Checkouts -/

/-- The account of a pack Session: the owner of the order it was attached to, or the account
    its metadata names. -/
def packSessionAccount (cfg : Config) (b : Billing) (e : Event) : Option String := do
  let sessionId ← cfg.unicode.stripeId (e.object.get "id") "cs_"
  match b.orders.rows.find? (·.stripeCheckoutSessionId = some sessionId) with
  | some order => some order.accountId
  | none => (packOrderMetadata cfg e.object).map PackIdentity.accountId

theorem packCheckout_acts {sessionId : String} {order : PackOrder} (hb : Ownership b)
    (horder : b.owns PackOrder order.id order.accountId)
    (h : packCheckout cfg b e sessionId order = .ok effect) :
    Acts (some order.accountId) b effect.billing := by
  -- A guard that fails leaves the database as it is.
  rcases Guarded.andThen_eq_ok h with ⟨heq, -⟩ | ⟨account, hguards, h⟩
  · rw [heq]
    exact .refl hb
  have haccount : account.id = order.accountId :=
    Table.find?_key (packCheckoutGuards_eq_ok hguards).1
  -- Attaching the Session changes the order alone, which stays the account's.
  simp only [bind_eq_ok] at h
  obtain ⟨b₁, hattach, h⟩ := h
  have h₁ : Acts (some order.accountId) b b₁ := by
    unfold attachPackSession at hattach
    split at hattach
    · exact .set hb hattach (fun _ => rfl) (fun _ => rfl) horder fun _ _ => trivial
    · rw [pure_eq_ok] at hattach
      exact hattach ▸ .refl hb
  have horder₁ := h₁.orders.keeps _ _ horder
  refine h₁.trans ?_
  -- An expired Session closes the order; a completed one binds the Customer as well.
  split at h
  · unfold expirePackCheckout at h
    split at h
    · simp only [bind_eq_ok, pure_eq_ok] at h
      obtain ⟨b₂, hexpire, rfl⟩ := h
      exact .set h₁.ownership hexpire (fun _ => rfl) (fun _ => rfl) horder₁ fun _ _ => trivial
    · simp only [bind_eq_ok, pure_eq_ok] at h
      obtain ⟨_, rfl, rfl⟩ := h
      exact .refl h₁.ownership
  · simp only [completePackCheckout] at h
    split at h
    · rw [pure_eq_ok] at h
      exact h ▸ .refl h₁.ownership
    · simp only [bind_eq_ok, Billing.updateWhere_eq_ok, pure_eq_ok] at h
      obtain ⟨_, ⟨orders, horders, rfl⟩, b₂, hbind, rfl⟩ := h
      have h₂ : Acts (some order.accountId) b₁ { b₁ with orders := orders } := by
        -- The update is guarded by the id of the order, whose owner is known.
        refine .updateWhere h₁.ownership horders (fun _ => rfl) (fun _ => rfl) (fun o ho hp => ?_)
          fun _ _ => trivial
        simp only [Bool.and_eq_true, decide_eq_true_eq] at hp
        exact horder₁.owner_eq ho hp.1
      exact h₂.trans (haccount ▸ bindCustomer_acts h₂.ownership hbind)

/-- **Pack Sessions** act for the account of their order. -/
theorem packCheckoutEvent_acts {run : Transaction Effect} (hb : Ownership b)
    (hrun : packCheckoutEvent cfg b e = some run) (h : run = .ok effect) :
    ∃ accountId, packSessionAccount cfg b e = some accountId ∧
      Acts (some accountId) b effect.billing := by
  simp only [packCheckoutEvent, Option.bind_eq_bind, Option.bind_eq_some_iff] at hrun
  obtain ⟨sessionId, hsession, hrun⟩ := hrun
  simp only [packSessionAccount, hsession, Option.bind_eq_bind, Option.bind_some]
  -- The order is found by its Session, or else by the identity in the metadata.
  cases hfound : b.orders.rows.find? (·.stripeCheckoutSessionId = some sessionId) with
  | some order =>
    simp only [hfound, Option.some.injEq] at hrun
    subst hrun
    exact ⟨order.accountId, rfl, packCheckout_acts hb
      (Table.Owns.of_mem (List.mem_of_find?_eq_some hfound) rfl) h⟩
  | none =>
    simp only [hfound, Option.bind_eq_some_iff] at hrun
    obtain ⟨identity, hidentity, hrun⟩ := hrun
    refine ⟨identity.accountId, by rw [hidentity]; rfl, ?_⟩
    split at hrun
    -- The identity is believed only if its account owns the order.
    case h_1 order horder =>
      cases hrun
      obtain ⟨hfind, howner⟩ := Option.filter_eq_some_iff.1 horder
      rw [← of_decide_eq_true howner]
      exact packCheckout_acts hb (Table.Owns.of_mem (Table.find?_mem hfind) rfl) h
    case h_2 =>
      cases hrun
      rw [pure_eq_ok] at h
      exact h ▸ .refl hb

/-- A Session that is not of a credit pack names no order. -/
theorem packSessionAccount_none (h : packCheckoutEvent cfg b e = none) :
    packSessionAccount cfg b e = none := by
  simp only [packCheckoutEvent, Option.bind_eq_bind, Option.bind_eq_none_iff] at h
  simp only [packSessionAccount, Option.bind_eq_bind, Option.bind_eq_none_iff]
  intro sessionId hsession
  have hnone := h sessionId hsession
  cases hfound : b.orders.rows.find? (·.stripeCheckoutSessionId = some sessionId) with
  | some order => simp only [hfound, reduceCtorEq] at hnone
  | none =>
    simp only [hfound, Option.bind_eq_none_iff] at hnone
    refine Option.map_eq_none_iff.2 (Option.eq_none_iff_forall_ne_some.2 fun identity hidentity => ?_)
    have hstop := hnone identity hidentity
    split at hstop
    all_goals cases hstop

/-! ## Subscriptions -/

theorem boundTransition_owned {f : FailedInvoice} {c : PlanChange}
    (h : boundTransition b f = some c) : b.owns PlanChange c.id f.account.id := by
  have hmem := List.mem_filter.1 (newestBy_mem h)
  simp only [Bool.and_eq_true, decide_eq_true_eq] at hmem
  obtain ⟨hrow, ⟨⟨⟨⟨haccount, -⟩, -⟩, -⟩, -⟩, -⟩ := hmem
  rw [← haccount]
  exact Table.Owns.of_mem hrow rfl

/-- **Failed payments** act for the account they were attributed to. -/
theorem paymentFailed_acts (hb : Ownership b) (h : paymentFailed cfg b e = .ok effect) :
    Acts ((lockAccount cfg.unicode b e.object (subscriptionMetadata e.object)).map Account.id) b
      effect.billing := by
  rcases Guarded.andThen_eq_ok h with ⟨heq, -⟩ | ⟨f, hguards, h⟩
  · rw [heq]
    exact .refl hb
  rw [(failedInvoiceGuards_eq_ok hguards).1]
  split at h
  · rcases failPlanChange_eq_ok h with ⟨heq, -⟩ | ⟨pending, planChanges, hbound, -, hupdate, heq⟩
    · rw [heq]
      exact .refl hb
    · rw [heq]
      exact .update hb hupdate (fun _ => rfl) (fun _ => rfl) (boundTransition_owned hbound)
        fun _ _ => trivial
  · rcases failRenewal_eq_ok h with ⟨-, heq⟩ | ⟨-, accounts, haccounts, heq⟩
    · rw [heq]
      exact .refl hb
    · rw [heq]
      exact .setAccount hb (Billing.update_eq_ok.2 ⟨accounts, haccounts, rfl⟩) fun _ => rfl

/-- **Updated Subscriptions** act for the account they were attributed to. -/
theorem subscriptionUpdated_acts (hb : Ownership b) (h : subscriptionUpdated cfg b e = .ok effect) :
    Acts ((lockAccount cfg.unicode b e.object (e.object.get "metadata")).map Account.id) b
      effect.billing := by
  rcases Guarded.andThen_eq_ok h with ⟨heq, -⟩ | ⟨f, hguards, h⟩
  · rw [heq]
    exact .refl hb
  rw [(subscriptionGuards_eq_ok hguards).1]
  unfold applySubscription at h
  split at h
  · rw [pure_eq_ok] at h
    exact h ▸ .refl hb
  simp only [bind_eq_ok, pure_eq_ok] at h
  obtain ⟨b₁, hproject, rfl⟩ := h
  have h₁ : Acts (some f.account.id) b b₁ := .setAccount hb hproject fun _ => rfl
  refine h₁.trans ?_
  show Acts (some f.account.id) b₁ (consumeClaim b₁ f.account)
  unfold consumeClaim
  split
  · exact .deleteClaims h₁.ownership fun c _ hc => congrArg some (of_decide_eq_true hc)
  · exact .refl h₁.ownership

/-- **Deleted Subscriptions** act for the account they were attributed to. -/
theorem subscriptionDeleted_acts (hb : Ownership b) (h : subscriptionDeleted cfg b e = .ok effect) :
    Acts ((lockAccount cfg.unicode b e.object (e.object.get "metadata")).map Account.id) b
      effect.billing := by
  rcases Guarded.andThen_eq_ok h with ⟨heq, -⟩ | ⟨account, hguards, h⟩
  · rw [heq]
    exact .refl hb
  rw [(deletionGuards_eq_ok hguards).1]
  simp only [applyDeletion, bind_eq_ok] at h
  have h₁ : Acts (some account.id) b
      { b with claims := b.claims.deleteWhere (·.accountId = account.id) } :=
    .deleteClaims hb fun c _ hc => congrArg some (of_decide_eq_true hc)
  obtain ⟨b₂, hproject, h⟩ := h
  -- the ended plan has neither a yearly interval nor a funding Invoice
  have h₂ : Acts (some account.id) _ b₂ :=
    .updateAccount h₁.ownership hproject (fun _ => rfl) fun _ _ _ _ =>
      ⟨fun _ hfunded => (by cases hfunded), fun hyear => (by cases hyear)⟩
  have hended : ∀ b₃, Acts (some account.id) b₂ b₃ → (∃ planChanges,
      b₃.planChanges.updateWhere? (fun c : PlanChange => c.accountId = account.id &&
        some c.stripeSubscriptionId = account.stripeSubscriptionId && c.status.isPending)
        (fun c => { c with
          status := .failed
          lastError := some "subscription_deleted"
          leaseToken := none
          leaseExpiresAt := none }) = some planChanges ∧
      effect.billing = { b₃ with planChanges := planChanges }) →
      Acts (some account.id) b effect.billing := by
    rintro b₃ h₃ ⟨planChanges, hupdate, heq⟩
    rw [heq]
    refine ((h₁.trans h₂).trans h₃).trans (.updateWhere h₃.ownership hupdate (fun _ => rfl)
      (fun _ => rfl) (fun c _ hp => ?_) fun _ _ => trivial)
    simp only [Bool.and_eq_true, decide_eq_true_eq] at hp
    exact congrArg some hp.1.1
  split at h
  · simp only [bind_eq_ok, pure_eq_ok, Billing.updateWhere_eq_ok] at h
    obtain ⟨_, rfl, _, ⟨planChanges, hupdate, rfl⟩, rfl⟩ := h
    exact hended _ (.refl h₂.ownership) ⟨planChanges, hupdate, rfl⟩
  · simp only [bind_eq_ok, pure_eq_ok, Billing.updateWhere_eq_ok] at h
    obtain ⟨b₃, hledger, _, ⟨planChanges, hupdate, rfl⟩, rfl⟩ := h
    exact hended _ (.insertEntry h₂.ownership hledger) ⟨planChanges, hupdate, rfl⟩

/-! ## Subscription Checkout -/

/-- **Completed Checkouts** act for the account they were attributed to. -/
theorem checkoutCompleted_acts (hb : Ownership b) (h : checkoutCompleted cfg b e = .ok effect) :
    Acts ((lockAccount cfg.unicode b e.object (e.object.get "metadata")).map Account.id) b
      effect.billing := by
  rcases Guarded.andThen_eq_ok h with ⟨heq, -⟩ | ⟨s, hguards, h⟩
  · rw [heq]
    exact .refl hb
  rw [(completedSessionGuards_eq_ok hguards).1]
  simp only [bind_eq_ok, pure_eq_ok] at h
  obtain ⟨b₁, hbind, rfl⟩ := h
  have h₁ : Acts (some s.account.id) b b₁ := .setAccount hb hbind fun _ => rfl
  refine h₁.trans (.deleteClaims h₁.ownership fun c _ hc => ?_)
  simp only [Bool.and_eq_true, decide_eq_true_eq] at hc
  exact congrArg some hc.1

/-- The claim of an expired Session. -/
def expiredClaim (b : Billing) (e : Event) : Option CheckoutClaim :=
  b.claims.rows.find? (·.sessionId = some (e.object.get "id").text)

/-- **Expired Checkouts** delete the claim of their Session. -/
theorem checkoutExpired_acts (hb : Ownership b) (h : checkoutExpired b e = .ok effect) :
    Acts ((expiredClaim b e).map CheckoutClaim.accountId) b effect.billing := by
  unfold expiredClaim
  simp only [checkoutExpired] at h
  split at h
  · rw [pure_eq_ok] at h
    exact h ▸ .refl hb
  case h_2 claim hclaim =>
    rw [pure_eq_ok] at h
    rw [hclaim, ← h]
    refine .deleteClaims hb fun c hc hp => ?_
    -- a Session belongs to one claim
    have hsession := List.find?_some hclaim
    rw [decide_eq_true_eq] at hsession hp
    have hsame : c = claim := b.claims.eq_of_index_eq
      (show (fun c : CheckoutClaim => c.sessionId.map ([·])) ∈ Relation.indexes by
        simp [Relation.indexes])
      hc (List.mem_of_find?_eq_some hclaim) (x := [(e.object.get "id").text]) (by simp [hp])
      (by simp [hsession])
    rw [hsame]
    rfl

end StripeEntitlements
