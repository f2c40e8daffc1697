import StripeEntitlements.Catalog.Construction
import StripeEntitlements.Credits.FirstExpiring
import StripeEntitlements.Parity.Pattern
import StripeEntitlements.Reference

/-!
# The Entitlement Check

`EntitlementService.check` reads the balance in one statement, with its own conditions on the
lots. Charge and refund read it again after lazy expiry. All of them report the atoms of the
active lots that have not expired and of the subscription window that is still open.

## Main results

- `check_balance` — the check reports the total balance
- `refund_replayed` — so does a refund that was made before
- `balance_readers` — every reader agrees with what can be charged
-/

namespace StripeEntitlements

open Relational

/-! ## Selectors -/

/-- `_STRIPE_ACCOUNT_SELECTOR`. -/
def stripeAccountSelector : Text.Pattern :=
  .seqs [.alt (.lit "acct") (.alt (.lit "cus") (.lit "sub")), .lit "_",
    .many (fun c => c.isAlphanum || c = '_') 1 none]

/-- `validate_owner_external_ref`. -/
def validateOwnerExternalRef (u : Unicode) (value : String) : Transaction String := do
  require (u.visible 512 value) (.valueError "owner_external_ref is invalid")
  require (!stripeAccountSelector.fullmatch value)
    (.valueError "owner_external_ref cannot be a Stripe identifier")
  require (canonicalUuid value).isNone
    (.valueError "owner_external_ref cannot be an internal account ID")
  pure value

/-- `_validate_requirements`. -/
def validateRequirements (requiredFeatures : List String) (requiredLimits : List (String × Int)) :
    Transaction Unit := do
  require (requiredFeatures.length ≤ 64 && decide requiredFeatures.Nodup &&
      requiredFeatures.all isEntitlementKey)
    (.valueError "required_features contains an invalid or duplicate key")
  require (requiredLimits.length ≤ 64 && requiredLimits.all fun (key, value) =>
      isEntitlementKey key && 0 ≤ value && value ≤ jsonSafeIntegerMax)
    (.valueError "required_limits contains an invalid key or value")

/-! ## Decisions -/

structure LimitDecision where
  requested : Int
  maximum : Option Int
  allowed : Bool
  deriving DecidableEq, Repr

inductive EntitlementReason where
  | allowed | ownerNotFound | entitlementNotEnforceable
  | featureNotAvailable | limitNotAvailable | limitExceeded
  deriving DecidableEq, Repr

structure EntitlementCheck where
  allowed : Bool
  reason : EntitlementReason
  entitlementsEnforceable : Bool
  planKey : String
  planInterval : Option Interval
  subscriptionStatus : SubscriptionStatus
  creditsSpendable : Bool
  creditBalance : Nat
  creditExpiresAt : Option Int
  features : List (String × Bool)
  limits : List (String × LimitDecision)
  deriving DecidableEq, Repr

/-- The earlier of two expiries, where there is one. -/
def earliest : List Int → Option Int
  | [] => none
  | t :: rest => some (rest.foldl min t)

/-- The lots of the lateral join: active, not empty, and open at `databaseNow`. -/
def openLots (b : Billing) (accountId : String) (databaseNow : Int) : List FundingLot :=
  b.lots.select fun l => l.accountId = accountId && l.status = .active &&
    0 < l.remainingCredits && databaseNow < l.expiresAt

/-- The answer for an owner without a billing account. -/
def ownerNotFound (features : List String) (limits : List (String × Int)) : EntitlementCheck where
  allowed := false
  reason := .ownerNotFound
  entitlementsEnforceable := false
  planKey := "free"
  planInterval := none
  subscriptionStatus := .none
  creditsSpendable := false
  creditBalance := 0
  creditExpiresAt := none
  features := features.map fun feature => (feature, false)
  limits := limits.map fun (key, value) => (key, ⟨value, none, false⟩)

/-- The answer for one account. -/
def decideEntitlement {u : Unicode} (c : Catalog u) (b : Billing) (databaseNow : Int)
    (account : Account) (features : List String) (limits : List (String × Int)) :
    EntitlementCheck :=
  let packs := openLots b account.id databaseNow
  let packAtoms := (packs.map FundingLot.remainingCredits).sum
  let plan := (c.plans.find? (·.1 = account.planKey)).map Prod.snd
  let subscriptionSpendable := subscriptionCreditsAreSpendable account databaseNow
  let enforceable := plan.isSome && subscriptionSpendable
  let subscriptionAtoms := spendableSubscriptionAtoms account databaseNow
  let spendableAtoms := subscriptionAtoms + packAtoms
  let fundingExpiries :=
    (if 0 < subscriptionAtoms then account.creditExpiresAt.toList else []) ++
      if 0 < packAtoms then (earliest (packs.map FundingLot.expiresAt)).toList else []
  let featureDecisions := features.map fun feature =>
    (feature, enforceable && plan.any (·.features.contains feature))
  let limitDecisions := limits.map fun (key, requested) =>
    let maximum := plan.bind fun p => (p.limits.find? (·.1 = key)).map Prod.snd
    (key, { requested, maximum, allowed := enforceable && maximum.any (requested ≤ ·) :
      LimitDecision })
  let reason :=
    if !enforceable then .entitlementNotEnforceable
    else if !featureDecisions.all Prod.snd then .featureNotAvailable
    else if limitDecisions.any (·.2.maximum.isNone) then .limitNotAvailable
    else if !limitDecisions.all (·.2.allowed) then .limitExceeded
    else .allowed
  { allowed := reason = .allowed
    reason
    entitlementsEnforceable := enforceable
    planKey := account.planKey
    planInterval := account.planInterval
    subscriptionStatus := account.subscriptionStatus
    creditsSpendable := 0 < spendableAtoms
    creditBalance := spendableAtoms
    creditExpiresAt := earliest fundingExpiries
    features := featureDecisions
    limits := limitDecisions }

/-- `EntitlementService.check`; its one statement reads the rows and `clock_timestamp()`. -/
def EntitlementService.check {u : Unicode} (c : Catalog u) (b : Billing) (databaseNow : Int)
    (ownerExternalRef : String) (requiredFeatures : List String)
    (requiredLimits : List (String × Int)) : Transaction EntitlementCheck := do
  let ref ← validateOwnerExternalRef u ownerExternalRef
  validateRequirements requiredFeatures requiredLimits
  match b.accounts.rows.find? (·.externalRef = ref) with
  | none => pure (ownerNotFound requiredFeatures requiredLimits)
  | some account => pure (decideEntitlement c b databaseNow account requiredFeatures requiredLimits)

/-! ## The balance -/

variable {u : Unicode} {tx : Tx} {b : Billing} {account : Account} {key : String}

/-- Empty lots add nothing. -/
theorem sum_openLots (b : Billing) (accountId : String) (asOf : Int) :
    ((openLots b accountId asOf).map FundingLot.remainingCredits).sum =
      packBalanceAtoms b accountId asOf := by
  have hperm := (Table.orderBy_perm (fun l : FundingLot => (toLex (l.expiresAt, l.id) : Int ×ₗ String))
    (b.lots.select fun l => l.accountId = accountId && l.status = .active && asOf < l.expiresAt))
  rw [packBalanceAtoms, spendableLots, (hperm.map _).sum_eq, openLots, Table.select, Table.select]
  induction b.lots.rows with
  | nil => rfl
  | cons l rows ih =>
    rw [List.filter_cons, List.filter_cons]
    by_cases hopen : l.accountId = accountId ∧ l.status = .active ∧ asOf < l.expiresAt
    · obtain ⟨howner, hactive, hexpires⟩ := hopen
      rcases Nat.eq_zero_or_pos l.remainingCredits with hempty | hpos
      · simp [howner, hactive, hexpires, hempty, ih]
      · simp [howner, hactive, hexpires, hpos, ih]
    · have hfull : (decide (l.accountId = accountId) && decide (l.status = .active) &&
          decide (0 < l.remainingCredits) && decide (asOf < l.expiresAt)) = false := by
        by_contra h
        rw [Bool.not_eq_false] at h
        simp only [Bool.and_eq_true, decide_eq_true_eq] at h
        exact hopen ⟨h.1.1.1, h.1.1.2, h.2⟩
      have hpart : (decide (l.accountId = accountId) && decide (l.status = .active) &&
          decide (asOf < l.expiresAt)) = false := by
        by_contra h
        rw [Bool.not_eq_false] at h
        simp only [Bool.and_eq_true, decide_eq_true_eq] at h
        exact hopen ⟨h.1.1, h.1.2, h.2⟩
      rw [hfull, hpart]
      exact ih

/-- The external reference of an account names no other account. -/
theorem find_externalRef (h : b.accounts.find? account.id = some account) :
    b.accounts.rows.find? (·.externalRef = account.externalRef) = some account := by
  have hmem := Table.find?_mem h
  cases hfind : b.accounts.rows.find? (·.externalRef = account.externalRef) with
  | none => exact absurd (by simp) (List.find?_eq_none.1 hfind account hmem)
  | some found =>
    have href : found.externalRef = account.externalRef := by
      simpa using List.find?_some hfind
    have hunique : (fun a : Account => some [a.externalRef]) ∈ Relation.indexes :=
      List.mem_cons_self
    rw [b.accounts.eq_of_index_eq hunique (List.mem_of_find?_eq_some hfind) hmem rfl
      (by rw [href])]

/-- **The check** reports the total balance. -/
theorem check_balance (c : Catalog u) (asOf : Int)
    (h : b.accounts.find? account.id = some account) {features : List String}
    {limits : List (String × Int)}
    (href : validateOwnerExternalRef u account.externalRef = .ok account.externalRef)
    (hrequirements : validateRequirements features limits = .ok ()) :
    ∃ result, EntitlementService.check c b asOf account.externalRef features limits = .ok result ∧
      result.creditBalance = totalBalanceAtoms b account asOf ∧
      result.creditsSpendable = decide (0 < totalBalanceAtoms b account asOf) := by
  refine ⟨decideEntitlement c b asOf account features limits, ?_, ?_, ?_⟩
  · simp only [EntitlementService.check, href, hrequirements, bind, Except.bind, find_externalRef h]
    rfl
  · rw [decideEntitlement, totalBalanceAtoms, ← sum_openLots]
  · rw [decideEntitlement, totalBalanceAtoms, ← sum_openLots]

/-- **A refund that was made before** reports the total balance and writes no row but the lots
    that expired. -/
theorem refund_replayed (tx : Tx) {printable : Char → Bool} {debit : Debit}
    {expectedAccountId : Option String} (haccount : b.accounts.find? account.id = some account)
    (hkey : validateIdempotencyKey printable key = .ok key)
    (hexpected : ∀ expected ∈ expectedAccountId, canonicalUuid expected = some account.id)
    (hdebit : b.debits.find? key = some debit) (howner : debit.accountId = account.id)
    (hkind : debit.kind = .usage) (hrefunded : debit.refundedAt.isSome) :
    ∃ lots : Table FundingLot, lots.rows = b.lots.rows.map (FundingLot.lapse account.id tx.wall) ∧
      refund printable tx b key expectedAccountId = .ok ({ b with lots := lots }, {
        outcome := .replayed, balance := totalBalanceAtoms b account tx.wall
        requested := debit.amount, restored := debit.restoredCredits }) := by
  obtain ⟨lots, expired, hexpire, hlots⟩ := expireAccountPackLots_ok b account.id tx.wall
  refine ⟨lots, hlots, ?_⟩
  have hid : refundAccountId b key expectedAccountId = .ok account.id := by
    cases expectedAccountId with
    | some expected => exact fetch_eq_ok.2 (hexpected expected rfl)
    | none =>
      simp only [refundAccountId, bind_eq_ok, fetch_eq_ok, pure_eq_ok]
      exact ⟨debit, hdebit, howner⟩
  have hpacks : packBalanceAtoms { b with lots := lots } account.id tx.wall =
      packBalanceAtoms b account.id tx.wall := by
    rw [packBalanceAtoms, packBalanceAtoms, spendableLots_lapse (b := b) hlots]
  simp only [refund, bind_eq_ok]
  refine ⟨key, hkey, account.id, hid, account, fetch_eq_ok.2 haccount, ⟨_, expired⟩, hexpire,
    debit, fetch_eq_ok.2 hdebit, (), require_eq_ok.2 (decide_eq_true howner), (),
    require_eq_ok.2 (decide_eq_true hkind), ?_⟩
  rw [if_pos hrefunded, pure_eq_ok, hpacks]
  rfl

/-! ## Every reader -/

/-- One number, read in five places at `t`. -/
structure BalanceReaders (printable : Char → Bool) (b : Billing) (account : Account) (t : Int) :
    Prop where
  /-- It counts an open subscription window of an active account that was not revoked, and
      the active lots that expire later than `t`. -/
  counts : totalBalanceAtoms b account t =
    (if account.subscriptionStatus = .active ∧ account.entitlementRevoked = false ∧
        ∃ expiresAt ∈ account.creditExpiresAt, t < expiresAt then account.creditsBalance else 0) +
      ((b.lots.rows.filter fun l => l.accountId = account.id ∧ l.status = .active ∧
        t < l.expiresAt).map FundingLot.remainingCredits).sum
  /-- The entitlement check, for every catalog and all valid requirements. -/
  checked : ∀ (u : Unicode) (c : Catalog u) (features : List String) (limits : List (String × Int)),
    validateOwnerExternalRef u account.externalRef = .ok account.externalRef →
    validateRequirements features limits = .ok () →
      ∃ result, EntitlementService.check c b t account.externalRef features limits = .ok result ∧
        result.creditBalance = totalBalanceAtoms b account t ∧
        result.creditsSpendable = decide (0 < totalBalanceAtoms b account t)
  /-- A charge that was made before. -/
  chargeReplayed : ∀ (tx : Tx) (key : String) (debit : Debit), tx.wall = t →
    validateIdempotencyKey printable key = .ok key → b.debits.find? key = some debit →
    debit.accountId = account.id → debit.kind = .usage → debit.amount ≤ maxCreditAtoms →
      ∃ b' result, charge printable tx b account.id debit.amount key = .ok (b', result) ∧
        result.outcome = .replayed ∧ result.balance = totalBalanceAtoms b account t
  /-- A refund that was made before. -/
  refundReplayed : ∀ (tx : Tx) (key : String) (debit : Debit) (expectedAccountId : Option String),
    tx.wall = t → validateIdempotencyKey printable key = .ok key →
    (∀ expected ∈ expectedAccountId, canonicalUuid expected = some account.id) →
    b.debits.find? key = some debit → debit.accountId = account.id → debit.kind = .usage →
    debit.refundedAt.isSome →
      ∃ b' result, refund printable tx b key expectedAccountId = .ok (b', result) ∧
        result.outcome = .replayed ∧ result.balance = totalBalanceAtoms b account t
  /-- What a fresh key can charge: up to the balance, within one bigint column. -/
  chargeable : ∀ (tx : Tx) (key : String) (accountId : String) (amount : Nat), tx.wall = t →
    validateIdempotencyKey printable key = .ok key → b.debits.find? key = none →
    uuidParameter accountId = some account.id →
      ((∃ answer, charge printable tx b accountId amount key = .ok answer) ↔
        0 < amount ∧ amount ≤ totalBalanceAtoms b account t ∧ amount ≤ maxCreditAtoms)

theorem totalBalanceAtoms_eq (b : Billing) (account : Account) (t : Int) :
    totalBalanceAtoms b account t =
    (if account.subscriptionStatus = .active ∧ account.entitlementRevoked = false ∧
        ∃ expiresAt ∈ account.creditExpiresAt, t < expiresAt then account.creditsBalance else 0) +
      ((b.lots.rows.filter fun l => l.accountId = account.id ∧ l.status = .active ∧
        t < l.expiresAt).map FundingLot.remainingCredits).sum := by
  have hsubscription : subscriptionCreditsAreSpendable account t = true ↔
      account.subscriptionStatus = .active ∧ account.entitlementRevoked = false ∧
        ∃ expiresAt ∈ account.creditExpiresAt, t < expiresAt := by
    simp [subscriptionCreditsAreSpendable, Option.any_eq_true, and_assoc]
  have hperm := Table.orderBy_perm (fun l : FundingLot => (toLex (l.expiresAt, l.id) : Int ×ₗ String))
    (b.lots.select fun l => l.accountId = account.id && l.status = .active && t < l.expiresAt)
  rw [totalBalanceAtoms, spendableSubscriptionAtoms, packBalanceAtoms, spendableLots,
    (hperm.map _).sum_eq, Table.select]
  simp only [hsubscription, Bool.decide_and, Bool.and_assoc]

/-- A stored debit is positive. -/
theorem debit_pos {debit : Debit} (h : b.debits.find? key = some debit) : 0 < debit.amount := by
  have hcheck := b.debits.valid.checked debit (Table.find?_mem h)
  simp only [Relation.check, Bool.and_eq_true, decide_eq_true_eq] at hcheck
  omega

/-- **Every reader** of the balance agrees with what can be charged. The balance counts the sources
    that are spendable at the given instant; an entitlement check reports it, and so does a charge
    or a refund that is answered from its stored debit; and a fresh key can charge up to it. -/
theorem balance_readers (printable : Char → Bool)
    (haccount : b.accounts.find? account.id = some account)
    (hid : canonicalUuid account.id = some account.id)
    (hdebits : ∀ a ∈ b.allocations.rows, (b.debits.find? a.debitKey).isSome) (t : Int) :
    BalanceReaders printable b account t where
  counts := totalBalanceAtoms_eq b account t
  checked _ c _ _ href hrequirements := check_balance c t haccount href hrequirements
  chargeReplayed tx key debit ht hkey hdebit howner hkind hrange := by
    subst ht
    obtain ⟨lots, -, hrun⟩ :=
      charge_replayed tx ⟨hkey, (uuidParameter_canonical hid).1, haccount⟩ hdebit (debit_pos hdebit) hrange
    rw [hrun]
    simp [replayCharge, howner, hkind, Except.map]
  refundReplayed tx key debit expected ht hkey hexpected hdebit howner hkind hrefunded := by
    subst ht
    obtain ⟨lots, -, hrun⟩ :=
      refund_replayed tx haccount hkey hexpected hdebit howner hkind hrefunded
    exact ⟨_, _, hrun, rfl, rfl⟩
  chargeable tx key accountId amount ht hkey hfresh hnamed := by
    subst ht
    have hchargeable : Chargeable printable b accountId key account := ⟨hkey, hnamed, haccount⟩
    constructor
    · rintro ⟨⟨b', result⟩, hrun⟩
      exact covered_of_charge hchargeable hfresh hrun
    · rintro ⟨hpos, hle, hrange⟩
      obtain ⟨b', _, hrun, -⟩ := charge_covered hchargeable hdebits hfresh hpos hle hrange
      exact ⟨_, hrun⟩

/-- An active account with `2 ^ 62` subscription atoms and a pack of as many. -/
def amplyFunded : Account where
  id := referenceAccountId
  externalRef := "user"
  subscriptionStatus := .active
  creditsBalance := 2 ^ 62
  creditExpiresAt := some 50

def ampleBilling : Billing :=
  { Billing.empty with
    accounts := .singleton amplyFunded rfl
    lots := .singleton {
      id := "lot", orderId := "order", accountId := referenceAccountId
      originalCredits := 2 ^ 62, remainingCredits := 2 ^ 62, expiresAt := 100 } rfl }

theorem ampleBilling_readers :
    BalanceReaders asciiUnicode.isPrintable ampleBilling amplyFunded 50 :=
  balance_readers asciiUnicode.isPrintable (by decide) (by decide +kernel)
    (fun a ha => absurd ha (List.not_mem_nil (a := a))) 50

/-- Both sources cover an amount that no debit row can hold. -/
theorem ampleBilling_unchargeable :
    ampleBilling.debits.find? "use" = none ∧
      uuidParameter referenceAccountId = some amplyFunded.id ∧
      2 ^ 63 ≤ totalBalanceAtoms ampleBilling amplyFunded 0 ∧
      ¬∃ answer, charge asciiUnicode.isPrintable ⟨0, 0, fun _ => ""⟩ ampleBilling
        referenceAccountId (2 ^ 63) "use" = .ok answer := by
  refine ⟨by decide, by decide +kernel, by decide +kernel, ?_⟩
  rintro ⟨answer, h⟩
  have hrange := (charge_amount h).2
  exact absurd hrange (by decide)

end StripeEntitlements
