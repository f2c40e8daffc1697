import StripeEntitlements.Checkout.Coordinator
import StripeEntitlements.Reference
import StripeEntitlements.Snapshots.CheckoutFreeze

/-!
# Frozen Requests Are Canonical

What a builder freezes is accepted as it is, and what is accepted is what a builder freezes. The
second half has an exception: the version of a request and the quantity of a line item are
compared with `1` by Python's `==`, which `True` and `1.0` satisfy too, while every other number
has its type checked.

## Main results

- `request_codec` — an accepted request is canonical exactly when these numbers are integers
-/

namespace StripeEntitlements

variable {u : Unicode} {v w : Json}

/-! ## Expectations of the coordinators -/

/-- What `CheckoutCoordinator` expects of the frozen request of a reservation. -/
def CheckoutClaim.expectations (c : CheckoutClaim) : CheckoutExpectations where
  kind := some .subscription
  accountId := some c.accountId
  requestIdentity := some c.claimToken
  interval := some c.planInterval
  offeringKey := some c.planKey
  expiresAt := some (epochSeconds c.expiresAt)
  customerId := some c.requestCustomerId

/-- What `CheckoutCoordinator.create` expects of a request that was just prepared. -/
def CheckoutClaim.preparedExpectations (c : CheckoutClaim) (lookupKey currency : String)
    (unitAmount : Int) : CheckoutExpectations :=
  { c.expectations with
    lookupKey := some lookupKey
    currency := some currency
    unitAmount := some unitAmount }

/-- What `CreditPackCoordinator` expects of a request; `credits` is the text of the credits. -/
def PackOrder.expectations (o : PackOrder) (credits : String) : CheckoutExpectations where
  kind := some .creditPack
  accountId := some o.accountId
  requestIdentity := some o.id
  lookupKey := some o.priceLookupKey
  currency := some o.currency
  unitAmount := some o.priceAmount
  offeringKey := some o.packKey
  expiresAt := some (epochSeconds o.claimExpiresAt)
  customerId := some o.requestCustomerId
  packCredits := some credits
  expiresDays := some o.expiresDays

/-! ## Canonical requests -/

/-- The quantity of the only line item of a Checkout. -/
def checkoutQuantity (v : Json) : Json := lineQuantity ((v.get "params").get "line_items")

theorem quantity_of_beq {priceId : String} {quantity : Json}
    (h : v.beq (.arr [.obj [("price", .str priceId), ("quantity", quantity)]]) = true) :
    (lineQuantity v).beq quantity = true := by
  cases v with
  | arr items =>
    match items with
    | [] => cases h
    | [item] =>
      rw [Json.beq, Json.beqItems, Bool.and_eq_true] at h
      have hexact := exact_of_beq h.1
      obtain ⟨members, rfl, -⟩ := hexact.mapping
      have hquantity := get_beq_get h.1 (hexact.has "quantity" (by simp))
      simpa [lineQuantity, Json.get, List.lookup_cons] using hquantity.2
    | _ :: _ :: _ => simp [Json.beq, Json.beqItems] at h
  | _ => cases h

/-- A canonical Checkout request has integers for its version and its quantity. -/
theorem integers_of_canonical {x : CheckoutFacts} (h : v.beq x.spelled = true) :
    v.get "version" = .int 1 ∧ checkoutQuantity v = .int 1 := by
  have hexact := exact_of_beq h
  obtain ⟨members, rfl, -⟩ := hexact.mapping
  have hversion := (get_beq_get h (hexact.has "version" (show _ ∈ checkoutSnapshotKeys by decide))).2
  have hparams : ((Json.obj members).get "params").beq (.obj (x.paramsWith (.int 1))) = true :=
    (get_beq_get h (hexact.has "params" (show _ ∈ checkoutSnapshotKeys by decide))).2
  refine ⟨Json.beq_int.1 hversion, Json.beq_int.1 ?_⟩
  obtain ⟨-, hnodup⟩ := paramsWith_keys x (.int 1)
  have hline : ("line_items", Json.arr [.obj [("price", .str x.priceId), ("quantity", .int 1)]]) ∈
      x.paramsWith (.int 1) := by
    simp [CheckoutFacts.paramsWith]
  have hinner := exact_of_beq hparams
  obtain ⟨params, hobj, -⟩ := hinner.mapping
  rw [hobj] at hparams hinner
  have hitems := (get_beq_get hparams (hinner.has "line_items" (List.mem_map_of_mem hline))).2
  have hget : (Json.obj (x.paramsWith (.int 1))).get "line_items" =
      .arr [.obj [("price", .str x.priceId), ("quantity", .int 1)]] := by
    rw [Json.get, lookup_eq_some_of_nodup hnodup hline]
    rfl
  rw [hget, ← hobj] at hitems
  exact quantity_of_beq hitems

/-- The codec of frozen requests. -/
structure RequestCodec (u : Unicode) : Prop where
  /-- What the plan-change builder freezes is accepted unchanged by matching expectations, and
      its context is read back at whole seconds. -/
  frozen : ∀ {x : PlanChangeFacts} {v : Json}, x.timing ≠ .noop →
    buildPlanChangeRequestSnapshot u x = .ok v →
      (∀ e : SnapshotExpectations,
        e.check x.idempotencyKey x.context.subscriptionId x.timing x.policy = .ok () →
          validatePlanChangeRequestSnapshot u v e = .ok v) ∧
      planChangeContextFromSnapshot u v = .ok x.context.atSeconds
  /-- An accepted plan change is what its own facts are frozen as, exactly at the integer `1`;
      its Stripe parameters are in every case. -/
  planChange : ∀ {v w : Json} {e : SnapshotExpectations},
    validatePlanChangeRequestSnapshot u v e = .ok w →
      ((∃ b, buildPlanChangeRequestSnapshot u (readFacts v) = .ok b ∧ v.beq b = true) ↔
        v.get "version" = .int 1) ∧
      ∃ b, buildPlanChangeRequestSnapshot u (readFacts v) = .ok b ∧
        (v.get "params").beq (b.get "params") = true
  /-- The expectations of both coordinators name the kind, and the days of a credit pack. -/
  supplied : (∀ (c : CheckoutClaim) (lookupKey currency : String) (unitAmount : Int),
      c.expectations.Supplied ∧ (c.preparedExpectations lookupKey currency unitAmount).Supplied) ∧
    ∀ (o : PackOrder) (credits : String), (o.expectations credits).Supplied
  /-- An accepted Checkout is what a builder freezes, exactly at the integers `1`. -/
  checkout : ∀ {v w : Json} {e : CheckoutExpectations}, e.Supplied →
    validateCheckoutRequestSnapshot u v e = .ok w →
      ((∃ (x : CheckoutFacts) (b : Json), x.build u = .ok b ∧ v.beq b = true) ↔
        v.get "version" = .int 1 ∧ checkoutQuantity v = .int 1)

/-- The kind of an accepted request is not the one of a change that keeps the plan. -/
theorem readFacts_timing {e : SnapshotExpectations}
    (h : validatePlanChangeRequestSnapshot u v e = .ok w) : (readFacts v).timing ≠ .noop := by
  obtain ⟨-, timing, _, _, _, _, _, haccepted, -⟩ := validate_eq_ok.1 h
  obtain ⟨kind, hkind, hparse⟩ := haccepted.kind
  have htiming : (readFacts v).timing = timing := by
    simp [readFacts, hkind, hparse]
  rw [htiming]
  rintro rfl
  unfold parseSnapshotKind at hparse
  split at hparse <;> cases hparse

/-- **Frozen requests are canonical**, apart from a boolean or a float for the version or the
    quantity. What the builders freeze is accepted and read back as it was; an accepted request is
    equal to one that a builder freezes exactly where its version and its quantity are integers. -/
theorem request_codec (hu : u.Lawful) : RequestCodec u where
  -- What the builder froze is accepted, and the context is read back as it was.
  frozen := by
    intro x v htiming hbuild
    obtain ⟨hadmissible, rfl⟩ := (PlanChangeFacts.build_eq_ok hu htiming).1 hbuild
    refine ⟨fun e he => hadmissible.validate hu htiming he, ?_⟩
    simp only [planChangeContextFromSnapshot, bind_eq_ok, pure_eq_ok]
    exact ⟨_, hadmissible.validate hu htiming rfl, readContext_spelled x.context⟩
  -- An accepted plan change spells admissible facts, up to what it has for the version.
  planChange := by
    intro v w e h
    obtain ⟨hadmissible, hspelled⟩ := admissible_of_validate h
    have hbuild := (PlanChangeFacts.build_eq_ok (v := (readFacts v).spelled) hu
      (readFacts_timing h)).2 ⟨hadmissible, rfl⟩
    constructor
    -- It is one of the builder's texts exactly when that version is the builder's.
    · rw [← beq_spelled h]
      constructor
      -- The builder gives one text for these facts, so the given one is the accepted one.
      · rintro ⟨b, hb, heq⟩
        rw [hbuild] at hb
        cases hb
        exact heq
      · intro heq
        exact ⟨_, hbuild, heq⟩
    -- The parameters of the builder's text are the accepted ones.
    · refine ⟨_, hbuild, ?_⟩
      have hexact := exact_of_beq hspelled
      obtain ⟨members, hv, -⟩ := hexact.mapping
      rw [hv] at hspelled hexact ⊢
      exact (get_beq_get hspelled (hexact.has "params" (show _ ∈ snapshotKeys by decide))).2
  -- The claims and orders supply every expectation that the validator leaves optional.
  supplied := by
    refine ⟨fun c _ _ _ => ⟨⟨rfl, fun h => ?_⟩, rfl, fun h => ?_⟩, fun o _ => ⟨rfl, fun _ => rfl⟩⟩
    all_goals cases h
  -- A canonical request has the integer one twice; and with both it is what the builder spells.
  checkout := by
    intro v w e he h
    constructor
    · rintro ⟨x, b, hbuild, heq⟩
      obtain ⟨-, rfl⟩ := (CheckoutFacts.build_eq_ok hu).1 hbuild
      exact integers_of_canonical heq
    · rintro ⟨hversion, hquantity⟩
      obtain ⟨x, hadmissible, hspelled⟩ := facts_of_validate he h
      rw [hversion, show lineQuantity ((v.get "params").get "line_items") = .int 1 from hquantity]
        at hspelled
      exact ⟨x, _, hadmissible.build hu, hspelled⟩

/-! ## Printable ASCII -/

theorem asciiUnicode_lawful : asciiUnicode.Lawful where
  printable c hlow hhigh := by
    have hblank : ' ' ≤ c := by
      rw [Char.le_def, UInt32.le_iff_toNat_le]
      exact hlow
    have htilde : c ≤ '~' := by
      rw [Char.le_def, UInt32.le_iff_toNat_le]
      exact Nat.le_of_lt_succ hhigh
    simp [asciiUnicode, hblank, htilde]
  control c hlow := by
    have hblank : ¬ ' ' ≤ c := by
      rw [Char.le_def, UInt32.le_iff_toNat_le]
      exact Nat.not_le.2 hlow
    simp [asciiUnicode, hblank]
  lower s hs := by
    have hsame : s.toList.map Char.toLower = s.toList := by
      conv_rhs => rw [← List.map_id s.toList]
      refine List.map_congr_left fun c hc => ?_
      have hupper : ¬(c.val ≥ 'A'.val ∧ c.val ≤ 'Z'.val) := of_decide_eq_false (hs c hc).2
      exact dif_neg hupper
    show String.ofList (s.toList.map Char.toLower) = s
    rw [hsame, String.ofList_toList]

/-- A plan change of the reference catalog, in the middle of a month. -/
def sampleChange : PlanChangeFacts where
  context := {
    subscriptionId := "sub_1", subscriptionItemId := "si_1", currentPriceId := "price_1"
    currentLookupKey := "ent_starter_month", targetPriceId := "price_2", targetInterval := .month
    currentPeriodStart := 1700000000500000, currentPeriodEnd := 1702592000500000
    scheduleId := none, clientSecret := some "pi_1_secret" }
  timing := .immediate
  policy := .proratedDelta
  prorationDate := some 1701000000
  idempotencyKey := "plan-change:1"
  requestApiVersion := "2026-06-24.dahlia"
  productLine := "example-entitlements"
  source := ⟨"ent_starter_month", "starter", "usd", 1900⟩
  target := ⟨"ent_pro_month", "pro", "usd", 4900⟩

/-- A first Checkout of the reference catalog. -/
def samplePurchase : CheckoutFacts where
  accountId := referenceAccountId
  customerId := none
  priceId := "price_2"
  lookupKey := "ent_pro_month"
  currency := "usd"
  unitAmount := 4900
  offeringKey := "pro"
  productLine := "example-entitlements"
  successUrl := "http://localhost:3000/billing/success?expected_plan=pro"
  cancelUrl := "http://localhost:3000/pricing"
  expiresAt := 1700001800
  requestApiVersion := "2026-06-24.dahlia"
  purchase := .subscription "token" .month

/-- The reservation of that Checkout. -/
def sampleClaim : CheckoutClaim where
  accountId := referenceAccountId
  claimToken := "token"
  planKey := "pro"
  planInterval := .month
  expiresAt := 1700001800000000

theorem sampleChange_admissible : sampleChange.Admissible asciiUnicode where
  context := by
    refine ⟨?_, by decide +kernel⟩
    constructor
    case scheduleId => exact nofun
    all_goals decide +kernel
  requestApiVersion := by decide +kernel
  idempotencyKey := by decide +kernel
  productLine := by decide +kernel
  source := by constructor <;> decide +kernel
  target := by constructor <;> decide +kernel
  lookupKey := rfl
  dated _ _ := ⟨1701000000, rfl, by decide⟩

theorem samplePurchase_admissible : samplePurchase.Admissible asciiUnicode where
  requestApiVersion := by decide +kernel
  idempotencyKey := by decide +kernel
  price := by constructor <;> decide +kernel
  accountId := by decide +kernel
  successUrl := by decide +kernel
  cancelUrl := by decide +kernel
  opened := by decide
  expiresAt := by decide
  customerId := nofun
  purchase := trivial

theorem sampleChange_frozen :
    buildPlanChangeRequestSnapshot asciiUnicode sampleChange = .ok sampleChange.spelled ∧
      planChangeContextFromSnapshot asciiUnicode sampleChange.spelled =
        .ok sampleChange.context.atSeconds := by
  have hbuild := (PlanChangeFacts.build_eq_ok (v := sampleChange.spelled) asciiUnicode_lawful
    (by decide)).2 ⟨sampleChange_admissible, rfl⟩
  exact ⟨hbuild, ((request_codec asciiUnicode_lawful).frozen (by decide) hbuild).2⟩

/-- `true` passes for a quantity of one, and for a version. -/
theorem boolean_accepted :
    (∃ v, validateCheckoutRequestSnapshot asciiUnicode v
        (sampleClaim.preparedExpectations "ent_pro_month" "usd" 4900) = .ok v ∧
      checkoutQuantity v = .bool true ∧
      ∀ (x : CheckoutFacts) (b : Json), x.build asciiUnicode = .ok b → ¬v.beq b = true) ∧
    ∃ v, validatePlanChangeRequestSnapshot asciiUnicode v {} = .ok v ∧
      v.get "version" = .bool true ∧
      ∀ (x : PlanChangeFacts) (b : Json), buildPlanChangeRequestSnapshot asciiUnicode x = .ok b →
        ¬v.beq b = true := by
  -- The sample purchase with `true` for the quantity, which no builder writes.
  constructor
  · have hmet : (sampleClaim.preparedExpectations "ent_pro_month" "usd" 4900).Met asciiUnicode
        samplePurchase := ⟨rfl, rfl, rfl, rfl⟩
    refine ⟨_, samplePurchase_admissible.accepted asciiUnicode_lawful hmet (.int 1) (.bool true) rfl
      (.int (by decide) (by decide)) rfl ((Json.Light.bool true).mono (by decide)), rfl,
      fun x b hb heq => ?_⟩
    rw [x.build_eq] at hb
    rw [(validateCheckout_eq_ok.1 hb).1] at heq
    cases (integers_of_canonical heq).2
  -- The sample change with `true` for the version.
  · refine ⟨_, sampleChange_admissible.accepted asciiUnicode_lawful (by decide) rfl (.bool true) rfl
      ((Json.Light.bool true).mono (by decide)), rfl, fun x b hb heq => ?_⟩
    simp only [buildPlanChangeRequestSnapshot, bind_eq_ok] at hb
    obtain ⟨assembled, hassembled, hvalidated⟩ := hb
    rw [(validate_eq_ok.1 hvalidated).1, PlanChangeFacts.eq_spelled_of_assemble hassembled] at heq
    have hversion := (@get_beq_get _ _ "version" heq rfl).2
    cases Json.beq_int.1 hversion

end StripeEntitlements
