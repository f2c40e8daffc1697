import StripeEntitlements.Redelivery.Packs
import StripeEntitlements.Redelivery.Subscriptions

/-!
# Handlers That Move No Credits

Most handlers project facts: they bind identities, advance statuses and move pack lots. None
of them touches a subscription balance, its epoch, the ledger or what debits drew.

## Main results

- `Quiet` — what such a handler leaves alone
- `paymentFailed_quiet`, `subscriptionUpdated_quiet`, `packClawback_quiet`,
  `packCheckoutEvent_quiet`, `checkoutCompleted_quiet`, `checkoutExpired_quiet`
-/

namespace StripeEntitlements

open Relational

/-- The credit columns of an account. -/
def Account.credits (a : Account) : String × Nat × Nat := (a.id, a.creditsBalance, a.grantEpoch)

structure Quiet (b b' : Billing) : Prop where
  credits : b'.accounts.rows.map Account.credits = b.accounts.rows.map Account.credits
  ledger : b'.ledger = b.ledger
  debits : b'.debits = b.debits
  allocations : b'.allocations = b.allocations

namespace Quiet

variable {b b' b'' : Billing}

theorem refl (b : Billing) : Quiet b b := ⟨rfl, rfl, rfl, rfl⟩

theorem trans (h : Quiet b b') (h' : Quiet b' b'') : Quiet b b'' where
  credits := h'.credits.trans h.credits
  ledger := h'.ledger.trans h.ledger
  debits := h'.debits.trans h.debits
  allocations := h'.allocations.trans h.allocations

theorem of_accounts (h : b'.accounts = b.accounts) (hledger : b'.ledger = b.ledger)
    (hdebits : b'.debits = b.debits) (hallocations : b'.allocations = b.allocations) :
    Quiet b b' :=
  ⟨by rw [h], hledger, hdebits, hallocations⟩

theorem updateAccount {k : String} {f : Account → Account} {t : Table Account}
    (h : b.accounts.update? k f = some t) (hf : ∀ a, (f a).credits = a.credits) :
    Quiet b { b with accounts := t } :=
  ⟨Table.map_updateWhere hf h, rfl, rfl, rfl⟩

theorem update {k : String} {f : Account → Account} (h : b.update k f = .ok b')
    (hf : ∀ a, (f a).credits = a.credits) : Quiet b b' := by
  rw [Billing.update_eq_ok] at h
  obtain ⟨accounts, haccounts, rfl⟩ := h
  exact .updateAccount haccounts hf

theorem bindCustomer {account : Account} {customerId : Option String}
    (h : bindCustomer b account customerId = .ok b') : Quiet b b' := by
  unfold StripeEntitlements.bindCustomer at h
  split at h
  · exact .update h fun _ => rfl
  · rw [pure_eq_ok] at h
    exact h ▸ .refl b

end Quiet

variable {cfg : Config} {tx : Tx} {b b' : Billing} {e : Event} {effect : Effect}

/-! ## Subscription handlers -/

theorem paymentFailed_quiet (h : paymentFailed cfg b e = .ok effect) : Quiet b effect.billing := by
  rcases Guarded.andThen_eq_ok h with ⟨hb, -⟩ | ⟨f, -, h⟩
  · rw [hb]
    exact .refl b
  split at h
  · rcases failPlanChange_eq_ok h with ⟨hb, -⟩ | ⟨_, planChanges, -, -, -, hb⟩
    · rw [hb]
      exact .refl b
    · rw [hb]
      exact .of_accounts rfl rfl rfl rfl
  · rcases failRenewal_eq_ok h with ⟨-, hb⟩ | ⟨-, accounts, haccounts, hb⟩
    · rw [hb]
      exact .refl b
    · rw [hb]
      exact .updateAccount haccounts fun _ => rfl

theorem subscriptionUpdated_quiet (h : subscriptionUpdated cfg b e = .ok effect) :
    Quiet b effect.billing := by
  rcases Guarded.andThen_eq_ok h with ⟨hb, -⟩ | ⟨f, -, h⟩
  · rw [hb]
    exact .refl b
  unfold applySubscription at h
  split at h
  · rw [pure_eq_ok] at h
    exact h ▸ .refl b
  · simp only [bind_eq_ok, pure_eq_ok] at h
    obtain ⟨b₁, hproject, rfl⟩ := h
    refine (Quiet.update hproject fun _ => rfl).trans ?_
    simp only [consumeClaim]
    split <;> exact .of_accounts rfl rfl rfl rfl

theorem checkoutCompleted_quiet (h : checkoutCompleted cfg b e = .ok effect) :
    Quiet b effect.billing := by
  rcases Guarded.andThen_eq_ok h with ⟨hb, -⟩ | ⟨s, -, h⟩
  · rw [hb]
    exact .refl b
  simp only [bind_eq_ok, pure_eq_ok] at h
  obtain ⟨b₁, hbind, rfl⟩ := h
  exact (Quiet.update hbind fun _ => rfl).trans (.of_accounts rfl rfl rfl rfl)

theorem checkoutExpired_quiet (h : checkoutExpired b e = .ok effect) : Quiet b effect.billing := by
  rcases checkoutExpired_eq_ok h with hb | ⟨hb, -⟩
  · rw [hb]
    exact .of_accounts rfl rfl rfl rfl
  · rw [hb]
    exact .refl b

/-! ## Pack handlers -/

theorem packCheckout_quiet {sessionId : String} {order : PackOrder}
    (h : packCheckout cfg b e sessionId order = .ok effect) : Quiet b effect.billing := by
  -- A guard that fails leaves the database as it is.
  rcases Guarded.andThen_eq_ok h with ⟨hb, -⟩ | ⟨account, -, h⟩
  · rw [hb]
    exact .refl b
  simp only [bind_eq_ok] at h
  obtain ⟨b₁, hattach, h⟩ := h
  -- Attaching the Session writes the order only.
  have hattached : Quiet b b₁ := by
    unfold attachPackSession at hattach
    split at hattach
    · rw [Billing.update_eq_ok] at hattach
      obtain ⟨orders, -, rfl⟩ := hattach
      exact .of_accounts rfl rfl rfl rfl
    · rw [pure_eq_ok] at hattach
      exact hattach ▸ .refl b
  refine hattached.trans ?_
  -- Neither ending of the Session touches the balance: both write the order and its Customer.
  split at h
  · unfold expirePackCheckout at h
    split at h
    · simp only [bind_eq_ok, Billing.update_eq_ok, pure_eq_ok] at h
      obtain ⟨_, ⟨orders, -, rfl⟩, rfl⟩ := h
      exact .of_accounts rfl rfl rfl rfl
    · simp only [bind_eq_ok, pure_eq_ok] at h
      obtain ⟨_, rfl, rfl⟩ := h
      exact .refl b₁
  · simp only [completePackCheckout] at h
    split at h
    · rw [pure_eq_ok] at h
      exact h ▸ .refl b₁
    · simp only [bind_eq_ok, Billing.updateWhere_eq_ok, pure_eq_ok] at h
      obtain ⟨_, ⟨orders, -, rfl⟩, b₂, hbind, rfl⟩ := h
      refine Quiet.trans ?_ (.bindCustomer hbind)
      exact .of_accounts rfl rfl rfl rfl

theorem packCheckoutEvent_quiet {run : Transaction Effect}
    (hrun : packCheckoutEvent cfg b e = some run) (h : run = .ok effect) :
    Quiet b effect.billing := by
  rcases packCheckoutEvent_order hrun h with hb | ⟨_, _, -, -, hcheckout⟩
  · rw [hb]
    exact .refl b
  · exact packCheckout_quiet hcheckout

theorem clawFunding_quiet {c : PackClawback} {delta removed : Nat}
    (h : clawFunding tx b c delta = .ok (b', removed)) : Quiet b b' := by
  unfold clawFunding at h
  split at h
  · rw [pure_eq_ok] at h
    cases h
    exact .refl b
  · simp only [clawLot, bind_eq_ok, Billing.update_eq_ok, pure_eq_ok] at h
    obtain ⟨⟨b₁, _⟩, ⟨⟨b₂, lot⟩, hexpire, _, -, _, ⟨lots, -, rfl⟩, heq⟩, b₃, hdebt, heq'⟩ := h
    cases heq
    cases heq'
    obtain ⟨debts, rfl, -⟩ := recordPackDebt_eq_ok hdebt
    unfold expireClawbackLot at hexpire
    split at hexpire
    · simp only [bind_eq_ok, Billing.update_eq_ok, pure_eq_ok] at hexpire
      obtain ⟨_, ⟨lots', -, rfl⟩, heq⟩ := hexpire
      cases heq
      exact .of_accounts rfl rfl rfl rfl
    · rw [pure_eq_ok] at hexpire
      cases hexpire
      exact .of_accounts rfl rfl rfl rfl

theorem advancePackCash_quiet {c : PackClawback} (h : advancePackCash tx b c = .ok effect) :
    Quiet b effect.billing := by
  unfold advancePackCash at h
  split at h
  · simp only [bind_eq_ok, Billing.update_eq_ok] at h
    obtain ⟨_, ⟨orders, -, rfl⟩, h⟩ := h
    split at h
    · simp only [bind_eq_ok, Billing.updateWhere_eq_ok, pure_eq_ok] at h
      obtain ⟨_, ⟨lots, -, rfl⟩, rfl⟩ := h
      exact .of_accounts rfl rfl rfl rfl
    · simp only [bind_eq_ok, pure_eq_ok] at h
      obtain ⟨_, rfl, rfl⟩ := h
      exact .of_accounts rfl rfl rfl rfl
  · rw [pure_eq_ok] at h
    exact h ▸ .refl b

theorem packClawback_quiet {run : Transaction Effect} (hrun : packClawback cfg tx b e = some run)
    (h : run = .ok effect) : Quiet b effect.billing := by
  simp only [packClawback, Option.bind_eq_bind, Option.bind_eq_some_iff, Option.some.injEq] at hrun
  obtain ⟨-, -, identity, -, -, -, rfl⟩ := hrun
  rcases Guarded.andThen_eq_ok h with ⟨hb, -⟩ | ⟨c, -, h⟩
  · rw [hb]
    exact .refl b
  simp only [applyPackClawback, bind_eq_ok] at h
  obtain ⟨b₁, hbind, h⟩ := h
  refine (Quiet.bindCustomer hbind).trans ?_
  split at h
  · exact advancePackCash_quiet h
  · simp only [bind_eq_ok, Billing.update_eq_ok, pure_eq_ok] at h
    obtain ⟨⟨b₂, removed⟩, hclaw, _, ⟨orders, -, rfl⟩, rfl⟩ := h
    exact (clawFunding_quiet hclaw).trans (.of_accounts rfl rfl rfl rfl)

end StripeEntitlements
