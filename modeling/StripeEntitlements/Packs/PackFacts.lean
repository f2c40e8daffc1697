import StripeEntitlements.Packs.LotAges

/-!
# Facts about a Pack Order

An accepted Event says one of three things about its pack order: it was paid, so much of it
was refunded, or it is disputed. What the order and its lot should show is a function of the
set of these facts, whatever their order and number.

## Main results

- `packFactOf` — the order and the fact of an Event whose contract is accepted
- `dispatch_packFact` — a dispatched Event is an accepted fact, or leaves pack funding alone
- `shownCash`, `shownAtoms`, `shownStatus`, `shownLot` — what a set of facts asks for
-/

namespace StripeEntitlements

open Relational

variable {cfg : Config} {tx : Tx} {b b' : Billing} {e : Event} {effect : Effect}
  {facts facts' : List PackFact} {credits price : Nat}

/-! ## Facts -/

/-- What an accepted Event says about its pack order. -/
inductive PackFact where
  | paid (paidAt : Int)
  | refunded (cash : Nat)
  | disputed
  deriving DecidableEq, Repr

def PackClawback.fact (c : PackClawback) : PackFact :=
  if c.dispute then .disputed else .refunded c.amountRefunded

/-- The clawback of an Event whose contract `clawback` accepts. -/
def packClawbackContract (cfg : Config) (b : Billing) (e : Event) : Option PackClawback := do
  let raw := e.object
  let charge := if e.kind = .chargeDisputeCreated then raw.get "_resolved_charge" else raw
  let paymentIntent := raw.get "_resolved_payment_intent"
  guard (charge.isObj && paymentIntent.isObj)
  let identity ← packOrderMetadata cfg paymentIntent
  guard (cfg.unicode.stripeId (charge.get "payment_intent") "pi_" =
    cfg.unicode.stripeId (paymentIntent.get "id") "pi_")
  (packClawbackGuards cfg b e charge paymentIntent identity).toOption

/-- The order an accepted Event is about, and what it says. -/
def packFactOf (cfg : Config) (b : Billing) (e : Event) : Option (PackOrder × PackFact) :=
  match e.kind with
  | .paymentIntentSucceeded =>
      (packPaymentGuards cfg b e).toOption.map fun p => (p.order, .paid p.paidAt)
  | .chargeRefunded | .chargeDisputeCreated =>
      (packClawbackContract cfg b e).map fun c => (c.order, c.fact)
  | _ => none

theorem toOption_eq_none {ε α : Type} {x : Except ε α} (h : ∀ a, x ≠ .ok a) :
    x.toOption = none := by
  cases x with
  | error => rfl
  | ok a => exact absurd rfl (h a)

/-! ## Dispatch -/

/-- What one dispatched Event did, as far as pack funding goes. -/
inductive PackDispatch (cfg : Config) (tx : Tx) (b : Billing) (e : Event) (effect : Effect) : Prop
  | steps (hfact : packFactOf cfg b e = none) (h : PackSteps tx b effect.billing)
  | payment {p : PackPayment} (hfact : packFactOf cfg b e = some (p.order, .paid p.paidAt))
      (horder : b.orders.find? p.order.id = some p.order)
      (h : applyPackPayment tx b p = .ok effect)
  | clawback {c : PackClawback} (hfact : packFactOf cfg b e = some (c.order, c.fact))
      (horder : b.orders.find? c.order.id = some c.order)
      (hamount : c.amount = c.order.priceAmount) (hle : c.amountRefunded ≤ c.amount)
      (hpos : c.dispute = false → 0 < c.amountRefunded)
      (h : applyPackClawback tx b c = .ok effect)

theorem paymentSucceeded_packFact (hkind : e.kind = .paymentIntentSucceeded)
    (h : paymentSucceeded cfg tx b e = .ok effect) : PackDispatch cfg tx b e effect := by
  rcases Guarded.andThen_eq_ok h with ⟨hb, hstop⟩ | ⟨p, hp, h⟩
  · refine .steps ?_ (SamePacks.of_eq hb).steps
    simp only [packFactOf, hkind, toOption_eq_none hstop, Option.map_none]
  · obtain ⟨-, -, -, identity, -, hlocked⟩ := packPaymentGuards_facts hp
    refine .payment ?_ (lockedOrder_eq_some hlocked).1 h
    simp only [packFactOf, hkind, toOption_eq_some.2 hp, Option.map_some]

theorem packClawback_packFact {run : Transaction Effect}
    (hkind : e.kind = .chargeRefunded ∨ e.kind = .chargeDisputeCreated)
    (hrun : packClawback cfg tx b e = some run) (h : run = .ok effect) :
    PackDispatch cfg tx b e effect := by
  have hfact : packFactOf cfg b e = (packClawbackContract cfg b e).map fun c => (c.order, c.fact) := by
    rcases hkind with hkind | hkind <;> simp only [packFactOf, hkind]
  simp only [packClawback, Option.bind_eq_bind, Option.bind_eq_some_iff, Option.some.injEq] at hrun
  obtain ⟨_, hobj, identity, hidentity, _, hsame, rfl⟩ := hrun
  have hcontract : packClawbackContract cfg b e = (packClawbackGuards cfg b e
      (if e.kind = .chargeDisputeCreated then e.object.get "_resolved_charge" else e.object)
      (e.object.get "_resolved_payment_intent") identity).toOption := by
    simp only [packClawbackContract, hobj, hidentity, hsame, Option.bind_eq_bind, Option.bind_some]
  rcases Guarded.andThen_eq_ok h with ⟨hb, hstop⟩ | ⟨c, hc, h⟩
  · refine .steps ?_ (SamePacks.of_eq hb).steps
    rw [hfact, hcontract, toOption_eq_none hstop, Option.map_none]
  · obtain ⟨horder, -, -, hamount, hle, hpos⟩ := packClawbackGuards_eq_ok hc
    refine .clawback ?_ horder hamount hle hpos h
    rw [hfact, hcontract, toOption_eq_some.2 hc, Option.map_some]

/-- A Charge that is none of a pack's states no fact. -/
theorem packFactOf_of_foreign (hkind : e.kind = .chargeRefunded ∨ e.kind = .chargeDisputeCreated)
    (hrun : packClawback cfg tx b e = none) : packFactOf cfg b e = none := by
  have hcontract : packClawbackContract cfg b e = none := by
    simp only [packClawback, packClawbackContract, Option.bind_eq_bind,
      Option.bind_eq_none_iff] at hrun ⊢
    intro _ hobj identity hidentity _ hsame
    cases hrun _ hobj identity hidentity _ hsame
  rcases hkind with hkind | hkind <;> simp only [packFactOf, hkind, hcontract, Option.map_none]

/-- **What a dispatched Event did**: its handler accepted a fact about a pack order, or it
    left pack funding to the collector. -/
theorem dispatch_packFact (h : dispatch cfg tx b e = .ok effect) :
    PackDispatch cfg tx b e effect := by
  -- only a payment, a refund and a dispute can carry a fact about a pack order
  cases hkind : e.kind with
  | paymentIntentSucceeded =>
    simp only [dispatch, hkind] at h
    exact paymentSucceeded_packFact hkind h
  | chargeRefunded =>
    simp only [dispatch, hkind] at h
    cases hrun : packClawback cfg tx b e with
    -- no pack Charge, so the fact is nothing and the Invoice route moves funding
    | none =>
      rw [hrun] at h
      exact .steps (packFactOf_of_foreign (.inl hkind) hrun) (clawback_packs h).steps
    | some run =>
      rw [hrun] at h
      exact packClawback_packFact (.inl hkind) hrun h
  | chargeDisputeCreated =>
    simp only [dispatch, hkind] at h
    cases hrun : packClawback cfg tx b e with
    | none =>
      rw [hrun] at h
      exact .steps (packFactOf_of_foreign (.inr hkind) hrun) (clawback_packs h).steps
    | some run =>
      rw [hrun] at h
      exact packClawback_packFact (.inr hkind) hrun h
  | invoicePaid =>
    simp only [dispatch, hkind] at h
    exact .steps (by simp only [packFactOf, hkind]) (invoicePaid_packSteps h)
  | invoicePaymentFailed =>
    simp only [dispatch, hkind] at h
    exact .steps (by simp only [packFactOf, hkind]) (paymentFailed_packs h).steps
  | customerSubscriptionUpdated =>
    simp only [dispatch, hkind] at h
    exact .steps (by simp only [packFactOf, hkind]) (subscriptionUpdated_packs h).steps
  | customerSubscriptionDeleted =>
    simp only [dispatch, hkind] at h
    exact .steps (by simp only [packFactOf, hkind]) (subscriptionDeleted_packs h).steps
  -- a Checkout Event books an order but is no payment
  | checkoutSessionCompleted =>
    simp only [dispatch, hkind] at h
    have hfact : packFactOf cfg b e = none := by simp only [packFactOf, hkind]
    cases hrun : packCheckoutEvent cfg b e with
    | none =>
      rw [hrun] at h
      exact .steps hfact (checkoutCompleted_packs h).steps
    | some run =>
      rw [hrun] at h
      exact .steps hfact (packCheckoutEvent_packs hrun h).steps
  | checkoutSessionExpired =>
    simp only [dispatch, hkind] at h
    have hfact : packFactOf cfg b e = none := by simp only [packFactOf, hkind]
    cases hrun : packCheckoutEvent cfg b e with
    | none =>
      rw [hrun] at h
      exact .steps hfact (checkoutExpired_packs h).steps
    | some run =>
      rw [hrun] at h
      exact .steps hfact (packCheckoutEvent_packs hrun h).steps
  | unsupported =>
    simp only [dispatch, hkind, pure_eq_ok] at h
    exact .steps (by simp only [packFactOf, hkind]) (SamePacks.of_eq (h ▸ rfl)).steps

/-! ## What facts ask for -/

/-- The cumulative cash a fact reports. -/
def PackFact.cash : PackFact → Nat
  | .refunded cash => cash
  | .paid _ | .disputed => 0

def PackFact.isPayment : PackFact → Bool
  | .paid _ => true
  | .refunded _ | .disputed => false

/-- The cash given back: the latest refund total, or all of it under a dispute. -/
def shownCash (price : Nat) (facts : List PackFact) : Nat :=
  if .disputed ∈ facts then price else (facts.map PackFact.cash).foldr max 0

/-- The atoms clawed back for that cash, rounded up. -/
def shownAtoms (credits price : Nat) (facts : List PackFact) : Nat :=
  if price ≤ shownCash price facts then credits
  else (credits * shownCash price facts + price - 1) / price

/-- The payment status; a dispute is terminal. -/
def shownStatus (price : Nat) (facts : List PackFact) : PaymentStatus :=
  if .disputed ∈ facts then .disputed
  else if price ≤ shownCash price facts then .refunded
  else if 0 < shownCash price facts then .partiallyRefunded
  else if facts.any PackFact.isPayment then .paid
  else .pending

/-- The status of the lot, where the order has been paid; an open lot is active. -/
def shownLot (credits price : Nat) (facts : List PackFact) : Option LotStatus :=
  if facts.any PackFact.isPayment then
    some (if .disputed ∈ facts then .disputed
      else if shownAtoms credits price facts = credits then .refunded
      else .active)
  else
    none

/-! ### Facts are a set -/

theorem foldr_max_le {ns : List Nat} {n : Nat} : ns.foldr max 0 ≤ n ↔ ∀ k ∈ ns, k ≤ n := by
  induction ns with
  | nil => simp
  | cons k ns ih => simp [ih]

/-- The cash depends on which facts there are, not on their order and number. -/
theorem shownCash_congr (h : ∀ f, f ∈ facts ↔ f ∈ facts') :
    shownCash price facts = shownCash price facts' := by
  have hmax : (facts.map PackFact.cash).foldr max 0 = (facts'.map PackFact.cash).foldr max 0 := by
    apply le_antisymm
    · refine foldr_max_le.2 fun n hn => ?_
      obtain ⟨f, hf, rfl⟩ := List.mem_map.1 hn
      exact foldr_max_le.1 le_rfl _ (List.mem_map_of_mem ((h f).1 hf))
    · refine foldr_max_le.2 fun n hn => ?_
      obtain ⟨f, hf, rfl⟩ := List.mem_map.1 hn
      exact foldr_max_le.1 le_rfl _ (List.mem_map_of_mem ((h f).2 hf))
  simp only [shownCash, h, hmax]

theorem shownAtoms_congr (h : ∀ f, f ∈ facts ↔ f ∈ facts') :
    shownAtoms credits price facts = shownAtoms credits price facts' := by
  simp only [shownAtoms, shownCash_congr h]

theorem any_isPayment_congr (h : ∀ f, f ∈ facts ↔ f ∈ facts') :
    facts.any PackFact.isPayment = facts'.any PackFact.isPayment := by
  rw [Bool.eq_iff_iff, List.any_eq_true, List.any_eq_true]
  simp only [h]

theorem shownStatus_congr (h : ∀ f, f ∈ facts ↔ f ∈ facts') :
    shownStatus price facts = shownStatus price facts' := by
  simp only [shownStatus, h, shownCash_congr h, any_isPayment_congr h]

theorem shownLot_congr (h : ∀ f, f ∈ facts ↔ f ∈ facts') :
    shownLot credits price facts = shownLot credits price facts' := by
  simp only [shownLot, h, shownAtoms_congr h, any_isPayment_congr h]

/-! ### One more fact -/

@[simp] theorem shownCash_nil : shownCash price [] = 0 := by
  simp [shownCash]

@[simp] theorem shownCash_paid {paidAt : Int} :
    shownCash price (.paid paidAt :: facts) = shownCash price facts := by
  simp [shownCash, PackFact.cash]

@[simp] theorem shownCash_disputed : shownCash price (.disputed :: facts) = price := by
  simp [shownCash]

theorem shownCash_refunded {n : Nat} (h : .disputed ∉ facts) :
    shownCash price (.refunded n :: facts) = max (shownCash price facts) n := by
  simp [shownCash, h, PackFact.cash, max_comm]

@[simp] theorem shownAtoms_paid {paidAt : Int} :
    shownAtoms credits price (.paid paidAt :: facts) = shownAtoms credits price facts := by
  simp [shownAtoms]

@[simp] theorem shownAtoms_disputed :
    shownAtoms credits price (.disputed :: facts) = credits := by
  simp [shownAtoms]

theorem shownStatus_eq_disputed : shownStatus price facts = .disputed ↔ .disputed ∈ facts := by
  unfold shownStatus
  split
  case isTrue h => simp [h]
  case isFalse h =>
    refine iff_of_false ?_ h
    split
    · simp
    · split
      · simp
      · split <;> simp

/-- Rounding up never claws back more than the pack. -/
theorem shownAtoms_le (hprice : 0 < price) : shownAtoms credits price facts ≤ credits := by
  unfold shownAtoms
  split
  case isTrue => exact le_rfl
  case isFalse h =>
    rw [not_le] at h
    have hle : credits * shownCash price facts ≤ credits * price :=
      Nat.mul_le_mul_left _ h.le
    rw [Nat.div_le_iff_le_mul_add_pred hprice, mul_comm price credits]
    omega

/-- More cash claws back no fewer atoms. -/
theorem shownAtoms_mono (hprice : 0 < price) (h : shownCash price facts ≤ shownCash price facts') :
    shownAtoms credits price facts ≤ shownAtoms credits price facts' := by
  by_cases hfull : price ≤ shownCash price facts'
  · rw [show shownAtoms credits price facts' = credits from if_pos hfull]
    exact shownAtoms_le hprice
  · have hpart : ¬ price ≤ shownCash price facts := fun hle => hfull (le_trans hle h)
    rw [shownAtoms, shownAtoms, if_neg hfull, if_neg hpart]
    have hmul : credits * shownCash price facts ≤ credits * shownCash price facts' :=
      Nat.mul_le_mul_left _ h
    exact Nat.div_le_div_right (by omega)

end StripeEntitlements
