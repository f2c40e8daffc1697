import StripeEntitlements.Snapshots.CheckoutRequest
import StripeEntitlements.Snapshots.Light
import StripeEntitlements.Snapshots.PlanChangeCodec

/-!
# The Checkout Codec

The facts of a purchase are spelled by one JSON object up to two numbers: Python equates `True`
and `1.0` with the version `1` and with the quantity `1` of the line item.

## Main results

- `purchase_of_validate` — an accepted object spells the facts of a purchase
- `CheckoutFacts.build_eq_ok` — what the builders freeze, and when
-/

namespace StripeEntitlements

variable {u : Unicode} {v w : Json}

/-! ## Facts -/

/-- What is bought, and how the purchase is identified. -/
inductive CheckoutPurchase where
  | subscription (claimToken : String) (interval : Interval)
  | creditPack (orderId packCredits : String) (expiresDays : Int)

namespace CheckoutPurchase

def kind : CheckoutPurchase → CheckoutKind
  | .subscription .. => .subscription
  | .creditPack .. => .creditPack

def requestIdentity : CheckoutPurchase → String
  | .subscription claimToken _ => claimToken
  | .creditPack orderId _ _ => orderId

def interval : CheckoutPurchase → Option Interval
  | .subscription _ interval => some interval
  | .creditPack .. => none

/-- The members of the metadata. -/
def metadata (p : CheckoutPurchase) (price : ResolvedPrice) (accountId : String) :
    Json :=
  match p with
  | .subscription claimToken _ =>
      subscriptionCheckoutMetadata claimToken accountId price.productLine
  | .creditPack orderId packCredits expiresDays =>
      packCheckoutMetadata price orderId accountId packCredits (toString expiresDays)

end CheckoutPurchase

/-- The object that spells the evidence of a Price. -/
def ResolvedPrice.spelled (p : ResolvedPrice) (kind : CheckoutKind) : Json :=
  .obj [
    ("price_id", .str p.priceId),
    ("lookup_key", .str p.lookupKey),
    ("currency", .str p.currency),
    ("unit_amount", .int p.unitAmount),
    ("price_type", .str kind.priceType),
    ("interval", optionalText (p.interval.map Interval.text)),
    ("product_line", .str p.productLine),
    ("offering_key", .str p.offeringKey)]

/-- The arguments of the two builders. -/
structure CheckoutFacts extends CheckoutTerms where
  purchase : CheckoutPurchase

/-- The builder of the purchase. -/
def CheckoutFacts.build (u : Unicode) (x : CheckoutFacts) : Transaction Json :=
  match x.purchase with
  | .subscription claimToken interval =>
      buildSubscriptionCheckoutRequestSnapshot u x.toCheckoutTerms claimToken interval
  | .creditPack orderId packCredits expiresDays =>
      buildCreditPackCheckoutRequestSnapshot u x.toCheckoutTerms orderId packCredits expiresDays

namespace CheckoutFacts

def idempotencyKey (x : CheckoutFacts) : String :=
  x.purchase.kind.derivedKey x.accountId x.purchase.requestIdentity

/-- The evidence of the Price. -/
def price (x : CheckoutFacts) : ResolvedPrice where
  priceId := x.priceId
  lookupKey := x.lookupKey
  currency := x.currency
  unitAmount := x.unitAmount
  interval := x.purchase.interval
  productLine := x.productLine
  offeringKey := x.offeringKey

/-- The parameters, with the quantity as it is written. -/
def paramsWith (x : CheckoutFacts) (quantity : Json) : List (String × Json) :=
  let metadata := x.purchase.metadata x.price x.accountId
  [("mode", .str x.purchase.kind.mode)] ++
  (match x.purchase.kind with
    | .subscription => []
    | .creditPack => [("payment_method_types", .arr [.str "card"])]) ++
  [("client_reference_id", .str x.accountId),
    ("line_items", .arr [.obj [("price", .str x.priceId), ("quantity", quantity)]]),
    (x.purchase.kind.branchKey, .obj [("metadata", metadata)]),
    ("success_url", .str x.successUrl),
    ("cancel_url", .str x.cancelUrl),
    ("expires_at", .int x.expiresAt),
    ("metadata", metadata)] ++
  match x.customerId, x.purchase.kind with
    | some customerId, _ => [("customer", .str customerId)]
    | none, .creditPack => [("customer_creation", .str "always")]
    | none, .subscription => []

/-- The members of the request, with the version and the quantity as they are written. -/
def membersWith (x : CheckoutFacts) (version quantity : Json) : List (String × Json) :=
  [("schema", .str "stripe.checkout.session.create"),
    ("version", version),
    ("kind", .str x.purchase.kind.text),
    ("request_api_version", .str x.requestApiVersion),
    ("idempotency_key", .str x.idempotencyKey),
    ("customer_mode", .str x.customerMode.text),
    ("resolved_price", x.price.spelled x.purchase.kind),
    ("params", .obj (x.paramsWith quantity))]

end CheckoutFacts

/-! ## Admissible facts -/

/-- A URL that `_http_url` lets through. -/
structure HttpUrlText (u : Unicode) (url : String) : Prop where
  clean : CleanText u 2048 url
  safe : publicHttpUrlIsStructurallySafe url = true

instance {url : String} : Decidable (HttpUrlText u url) :=
  decidable_of_iff (CleanText u 2048 url ∧ publicHttpUrlIsStructurallySafe url = true)
    ⟨fun h => ⟨h.1, h.2⟩, fun h => ⟨h.clean, h.safe⟩⟩

/-- The terms of a Price that pass their checks. -/
structure ResolvedPrice.Admissible (u : Unicode) (p : ResolvedPrice) : Prop where
  priceId : StripeIdText u "price_" p.priceId
  lookupKey : CleanText u 200 p.lookupKey
  currency : CurrencyText u p.currency
  charged : 0 ≤ p.unitAmount
  unitAmount : p.unitAmount ≤ 99999999
  productLine : CleanText u 200 p.productLine
  offeringKey : CleanText u 64 p.offeringKey

/-- What only the metadata of a purchase holds. -/
def CheckoutPurchase.Admissible (u : Unicode) : CheckoutPurchase → Prop
  | .subscription .. => True
  | .creditPack orderId packCredits expiresDays =>
      CleanText u 64 orderId ∧ CleanText u 64 packCredits ∧ CleanText u 16 (toString expiresDays)

/-- Facts that pass the checks of their builder. -/
structure CheckoutFacts.Admissible (u : Unicode) (x : CheckoutFacts) : Prop where
  requestApiVersion : CleanText u 64 x.requestApiVersion
  idempotencyKey : CleanText u 255 x.idempotencyKey
  price : x.price.Admissible u
  accountId : CleanText u 64 x.accountId
  successUrl : HttpUrlText u x.successUrl
  cancelUrl : HttpUrlText u x.cancelUrl
  opened : 0 ≤ x.expiresAt
  expiresAt : x.expiresAt ≤ 253402300799
  customerId : ∀ id ∈ x.customerId, StripeIdText u "cus_" id
  purchase : x.purchase.Admissible u

/-! ## Prices -/

theorem validateCheckoutAmount_eq_ok {f : Failure} {n : Int} :
    (fetch (v.asInt.filter fun n => 0 ≤ n && n ≤ 99999999) f : Transaction Int) = .ok n ↔
      v = .int n ∧ 0 ≤ n ∧ n ≤ 99999999 := by
  simp only [fetch_eq_ok, Option.filter_eq_some_iff, asInt_eq_some, Bool.and_eq_true,
    decide_eq_true_eq]

theorem validatePriceInterval_eq_ok {kind : CheckoutKind} {interval : Option Interval} :
    validatePriceInterval kind v = .ok interval ↔
      v.get "price_type" = .str kind.priceType ∧
        v.get "interval" = optionalText (interval.map Interval.text) ∧
        (interval.isSome = true ↔ kind = .subscription) := by
  cases kind with
  | subscription =>
    simp only [validatePriceInterval, bind_eq_ok, require_eq_ok, decide_eq_true_eq, asStr_eq_some,
      oneOf_eq_ok, pure_eq_ok, iff_true]
    constructor
    -- The parsed interval is spelled by one text only, so the field is that text.
    · rintro ⟨_, htype, i, ⟨s, hinterval, hparse⟩, rfl⟩
      obtain rfl := Interval.text_of_parse hparse
      exact ⟨htype, hinterval, rfl⟩
    · rintro ⟨htype, hinterval, hsome⟩
      obtain ⟨i, rfl⟩ := Option.isSome_iff_exists.1 hsome
      exact ⟨(), htype, i, ⟨_, hinterval, Interval.parse_text i⟩, rfl⟩
  | creditPack =>
    simp only [validatePriceInterval, bind_eq_ok, require_eq_ok, Bool.and_eq_true,
      decide_eq_true_eq, asStr_eq_some, Json.isNull_eq_true, pure_eq_ok, reduceCtorEq, iff_false]
    constructor
    · rintro ⟨_, ⟨htype, hinterval⟩, rfl⟩
      exact ⟨htype, hinterval, by decide⟩
    -- An optional text is null when there is no interval; a present one contradicts the kind.
    · rintro ⟨htype, hinterval, hnone⟩
      cases interval with
      | none => exact ⟨(), ⟨htype, hinterval⟩, rfl⟩
      | some i => exact absurd rfl hnone

/-- **Accepted evidence** spells the admissible Price that is read from it. -/
theorem price_of_validate {kind : CheckoutKind} {p : ResolvedPrice}
    (h : validateResolvedPrice u kind v = .ok p) :
    p.Admissible u ∧ (p.interval.isSome = true ↔ kind = .subscription) ∧
      v.beq (p.spelled kind) = true := by
  simp only [validateResolvedPrice, bind_eq_ok, exactMapping_eq_ok, snapshotStripeId_eq_ok,
    snapshotText_eq_ok, require_eq_ok, Bool.and_eq_true, decide_eq_true_eq,
    validateCheckoutAmount_eq_ok, validatePriceInterval_eq_ok, pure_eq_ok] at h
  obtain ⟨v, ⟨rfl, hexact⟩, price, ⟨hprice, hprice'⟩, lookup, ⟨hlookup, hlookup'⟩, currency,
    ⟨hcurrency, hcurrency'⟩, _, ⟨hlength, hlower⟩, amount, ⟨hamount, hpos, hle⟩, line,
    ⟨hline, hline'⟩, offering, ⟨hoffering, hoffering'⟩, interval, ⟨htype, hinterval, hkind⟩,
    rfl⟩ := h
  refine ⟨⟨⟨hprice'.1, hprice'.2⟩, hlookup', ⟨hcurrency', hlength, hlower⟩, hpos, hle, hline',
    hoffering'⟩, hkind, ?_⟩
  refine beq_obj hexact (show resolvedPriceKeys.Nodup by decide) ?_
  simp only [List.forall_mem_cons, hprice, hlookup, hcurrency, hamount, hline, hoffering, htype,
    hinterval]
  cases interval <;> simp [optionalText]

/-- **An admissible Price** is accepted as it is spelled. -/
theorem validate_price {kind : CheckoutKind} {p : ResolvedPrice} (h : p.Admissible u)
    (hkind : p.interval.isSome = true ↔ kind = .subscription) :
    validateResolvedPrice u kind (p.spelled kind) = .ok p := by
  simp only [validateResolvedPrice, bind_eq_ok, exactMapping_eq_ok, snapshotStripeId_eq_ok,
    snapshotText_eq_ok, require_eq_ok, Bool.and_eq_true, decide_eq_true_eq,
    validateCheckoutAmount_eq_ok, validatePriceInterval_eq_ok, pure_eq_ok]
  have hexact : ExactMapping (p.spelled kind) resolvedPriceKeys :=
    ⟨⟨_, rfl, rfl⟩, by simp [resolvedPriceKeys, ResolvedPrice.spelled, Json.has, List.lookup_cons]⟩
  exact ⟨_, ⟨rfl, hexact⟩, _, ⟨rfl, h.priceId.clean, h.priceId.prefixed⟩, _, ⟨rfl, h.lookupKey⟩,
    _, ⟨rfl, h.currency.clean⟩, (), ⟨h.currency.length, h.currency.lower⟩, _,
    ⟨rfl, h.charged, h.unitAmount⟩, _, ⟨rfl, h.productLine⟩, _, ⟨rfl, h.offeringKey⟩, _,
    ⟨rfl, rfl, hkind⟩, rfl⟩

/-! ## Parameters -/

/-- The quantity of the only line item. -/
def lineQuantity : Json → Json
  | .arr [item] => item.get "quantity"
  | _ => .null

/-- Matching line items are one item of the Price. -/
theorem lineItems_of_match {priceId : String} (h : lineItemsMatch priceId v = true) :
    (lineQuantity v).isOne = true ∧
      v.beq (.arr [.obj [("price", .str priceId), ("quantity", lineQuantity v)]]) = true := by
  unfold lineItemsMatch at h
  split at h
  case h_1 members =>
    simp only [Bool.and_eq_true, decide_eq_true_eq, asStr_eq_some] at h
    obtain ⟨⟨⟨⟨hlength, hprice⟩, hquantity⟩, htext⟩, hone⟩ := h
    refine ⟨hone, ?_⟩
    have hexact : ExactMapping (.obj members) ["price", "quantity"] :=
      ⟨⟨members, rfl, hlength⟩, by simp [hprice, hquantity]⟩
    rw [Json.beq, Json.beqItems, Json.beqItems, Bool.and_true]
    refine beq_obj hexact (show ["price", "quantity"].Nodup by decide) ?_
    simp [htext, lineQuantity, Json.beq_self_of_isOne hone]
  case h_2 => cases h

theorem match_lineItems {priceId : String} {quantity : Json} (h : quantity.isOne = true) :
    lineItemsMatch priceId (.arr [.obj [("price", .str priceId), ("quantity", quantity)]]) =
      true := by
  simp [lineItemsMatch, Json.has, Json.get, List.lookup_cons, h]

theorem httpUrl_eq_ok {field url : String} :
    u.httpUrl v field = .ok url ↔ v = .str url ∧ HttpUrlText u url := by
  simp only [Unicode.httpUrl, bind_eq_ok, snapshotText_eq_ok, require_eq_ok, pure_eq_ok]
  constructor
  · rintro ⟨_, ⟨rfl, hclean⟩, parsed, hsplit, _, hsafe, rfl⟩
    exact ⟨rfl, hclean, publicHttpUrlIsStructurallySafe_iff.2 ⟨parsed, hsplit, hsafe⟩⟩
  · rintro ⟨rfl, hclean, hurl⟩
    obtain ⟨parsed, hsplit, hsafe⟩ := publicHttpUrlIsStructurallySafe_iff.1 hurl
    exact ⟨url, ⟨rfl, hclean⟩, parsed, hsplit, (), hsafe, rfl⟩

/-- The checks of the parameters. -/
structure AcceptedParams (u : Unicode) (kind : CheckoutKind) (mode : CustomerMode)
    (priceId : String) (v : Json) (session : CheckoutSession) : Prop where
  exactly : ExactMapping v (checkoutParamKeys kind mode)
  accountId : v.get "client_reference_id" = .str session.accountId ∧
    CleanText u 64 session.accountId
  lineItems : lineItemsMatch priceId (v.get "line_items") = true
  successUrl : ∃ url, v.get "success_url" = .str url ∧ HttpUrlText u url
  cancelUrl : ∃ url, v.get "cancel_url" = .str url ∧ HttpUrlText u url
  expiresAt : v.get "expires_at" = .int session.expiresAt ∧ 0 ≤ session.expiresAt ∧
    session.expiresAt ≤ 253402300799
  customer : validateCheckoutCustomer u kind mode v = .ok session.customerId
  branch : ExactMapping (v.get kind.branchKey) ["metadata"]
  copies : (v.get "metadata").beq ((v.get kind.branchKey).get "metadata") = true
  mode : session.mode = v.get "mode"
  paymentMethodTypes : session.paymentMethodTypes = v.get "payment_method_types"
  metadata : session.metadata = v.get "metadata"

theorem validateCheckoutParams_eq_ok {kind : CheckoutKind} {mode : CustomerMode} {priceId : String}
    {session : CheckoutSession} :
    validateCheckoutParams u kind mode priceId v = .ok session ↔
      AcceptedParams u kind mode priceId v session := by
  simp only [validateCheckoutParams, bind_eq_ok, exactMapping_eq_ok, snapshotText_eq_ok,
    require_eq_ok, httpUrl_eq_ok, snapshotInteger_eq_ok, pure_eq_ok]
  constructor
  · rintro ⟨v, ⟨rfl, hexact⟩, account, haccount, _, hitems, success, hsuccess, cancel, hcancel,
      expiry, hexpiry, customer, hcustomer, wrapper, ⟨rfl, hbranch⟩, _, hcopies, rfl⟩
    exact ⟨hexact, haccount, hitems, ⟨_, hsuccess⟩, ⟨_, hcancel⟩, hexpiry, hcustomer, hbranch,
      hcopies, rfl, rfl, rfl⟩
  · rintro h
    obtain ⟨success, hsuccess⟩ := h.successUrl
    obtain ⟨cancel, hcancel⟩ := h.cancelUrl
    refine ⟨v, ⟨rfl, h.exactly⟩, _, h.accountId, (), h.lineItems, _, hsuccess, _, hcancel, _,
      h.expiresAt, _, h.customer, _, ⟨rfl, h.branch⟩, (), h.copies, ?_⟩
    rw [← h.mode, ← h.paymentMethodTypes, ← h.metadata]

/-- The Customer of the Session. -/
theorem customer_eq_ok {kind : CheckoutKind} {mode : CustomerMode} {customerId : Option String} :
    validateCheckoutCustomer u kind mode v = .ok customerId ↔
      (match mode, kind with
        | .existing, _ => ∃ id, customerId = some id ∧ v.get "customer" = .str id ∧
            StripeIdText u "cus_" id
        | .create, .creditPack => customerId = none ∧ v.get "customer_creation" = .str "always"
        | .create, .subscription => customerId = none) := by
  unfold validateCheckoutCustomer
  split
  · simp only [bind_eq_ok, snapshotStripeId_eq_ok, pure_eq_ok]
    constructor
    · rintro ⟨id, ⟨hid, hclean, hprefixed⟩, rfl⟩
      exact ⟨id, rfl, hid, hclean, hprefixed⟩
    · rintro ⟨id, rfl, hid, hclean, hprefixed⟩
      exact ⟨id, ⟨hid, hclean, hprefixed⟩, rfl⟩
  · simp only [bind_eq_ok, require_eq_ok, decide_eq_true_eq, asStr_eq_some, pure_eq_ok]
    constructor
    · rintro ⟨_, hcreation, rfl⟩
      exact ⟨rfl, hcreation⟩
    · rintro ⟨rfl, hcreation⟩
      exact ⟨(), hcreation, rfl⟩
  · rw [pure_eq_ok, eq_comm]

/-! ## Purchases -/

/-- A pack has a number of days, once its expectation is met. -/
def PackDays (kind : CheckoutKind) (metadata : Json) : Prop :=
  kind = .creditPack → ∃ n : Int, metadata.get "expires_days" = .str (toString n)

/-- **Accepted metadata** identify a purchase, with the kind, the identity and the interval that
    were read. For a pack they also give its order, credits and days. -/
theorem purchase_of_validate {kind : CheckoutKind} {price : ResolvedPrice}
    {session : CheckoutSession} {idempotencyKey identity : String} {expected : Option String}
    (h : validateCheckoutMetadata u kind price session idempotencyKey expected = .ok identity)
    (hinterval : price.interval.isSome = true ↔ kind = .subscription)
    (hdays : PackDays kind session.metadata) :
    ∃ p : CheckoutPurchase, p.kind = kind ∧ p.requestIdentity = identity ∧
      p.interval = price.interval ∧ p.Admissible u ∧ session.mode = .str kind.mode ∧
      (kind = .creditPack → session.paymentMethodTypes.beq (.arr [.str "card"]) = true) ∧
      session.metadata.beq (p.metadata price session.accountId) = true := by
  cases kind with
  -- A subscription is identified by its claim token; its metadata check has no fields of its own.
  | subscription =>
    simp only [validateCheckoutMetadata, bind_eq_ok, require_eq_ok, Bool.and_eq_true,
      decide_eq_true_eq, asStr_eq_some, pure_eq_ok] at h
    obtain ⟨_, ⟨hmode, hmetadata⟩, rfl⟩ := h
    obtain ⟨interval, hsome⟩ := Option.isSome_iff_exists.1 (hinterval.2 rfl)
    exact ⟨.subscription _ interval, rfl, rfl, hsome.symm, trivial, hmode, by simp, hmetadata⟩
  -- The three text fields of a pack are read back from the check, the days as a numeral.
  | creditPack =>
    simp only [validateCheckoutMetadata, bind_eq_ok, require_eq_ok, Bool.and_eq_true,
      decide_eq_true_eq, asStr_eq_some, snapshotText_eq_ok, pure_eq_ok] at h
    obtain ⟨_, ⟨hmode, hmethods⟩, _, -, order, ⟨-, horder⟩, credits, ⟨-, hcredits⟩, days,
      ⟨hdaysText, hdays'⟩, _, hmetadata, rfl⟩ := h
    obtain ⟨n, hn⟩ := hdays rfl
    obtain rfl : days = toString n := Json.str.inj (hdaysText.symm.trans hn)
    -- A pack price has no interval.
    have hnone : price.interval = none :=
      Option.not_isSome_iff_eq_none.1 fun hsome => CheckoutKind.noConfusion (hinterval.1 hsome)
    exact ⟨.creditPack order credits n, rfl, rfl, hnone.symm, ⟨horder, hcredits, hdays'⟩, hmode,
      fun _ => hmethods, hmetadata⟩

/-- **A purchase** is identified by its metadata. -/
theorem validate_purchase {p : CheckoutPurchase} (hp : p.Admissible u) {price : ResolvedPrice}
    {session : CheckoutSession} {expected : Option String}
    (hmode : session.mode = .str p.kind.mode)
    (hmethods : p.kind = .creditPack → session.paymentMethodTypes = .arr [.str "card"])
    (hmetadata : session.metadata = p.metadata price session.accountId)
    (hexpected : ∀ identity ∈ expected, identity = p.requestIdentity) :
    validateCheckoutMetadata u p.kind price session
      (p.kind.derivedKey session.accountId p.requestIdentity) expected =
        .ok p.requestIdentity := by
  cases p with
  | subscription claimToken interval =>
    -- The identity is what follows the account in the derived key, so the prefix is removed
    -- whole.
    have hremoved : removePrefix ("checkout:" ++ session.accountId ++ ":" ++ "")
        ("checkout:" ++ session.accountId ++ ":" ++ claimToken) = claimToken := by
      have hpre : ("checkout:" ++ session.accountId ++ ":" ++ "").toList.isPrefixOf
          ("checkout:" ++ session.accountId ++ ":" ++ claimToken).toList = true := by
        rw [List.isPrefixOf_iff_prefix]
        simp only [String.toList_append]
        exact ⟨claimToken.toList, by simp⟩
      rw [removePrefix, if_pos hpre]
      apply String.toList_inj.1
      simp [String.toList_append, ← String.length_toList]
    -- An expected identity, when given, is the one of the purchase; an empty one is ignored.
    have hidentity : (expected.filter (· ≠ "")).getD claimToken = claimToken := by
      cases expected with
      | none => rfl
      | some identity =>
        have hsame : identity = claimToken := hexpected identity rfl
        rw [hsame]
        by_cases hempty : claimToken = "" <;> simp [Option.filter, hempty]
    simp only [validateCheckoutMetadata, CheckoutPurchase.kind, CheckoutKind.derivedKey,
      CheckoutPurchase.requestIdentity, hremoved, hidentity, bind_eq_ok, require_eq_ok,
      Bool.and_eq_true, pure_eq_ok]
    refine ⟨(), ⟨decide_eq_true (asStr_eq_some.2 hmode), ?_⟩, trivial⟩
    rw [hmetadata]
    simp [CheckoutPurchase.metadata, subscriptionCheckoutMetadata, Json.beq, Json.beqMembers,
      Json.has, Json.get, List.lookup_cons]
  -- A pack checks its fields one by one: each reads back the text its metadata were built with.
  | creditPack orderId packCredits expiresDays =>
    simp only [validateCheckoutMetadata, CheckoutPurchase.kind, CheckoutPurchase.requestIdentity,
      bind_eq_ok, require_eq_ok, Bool.and_eq_true, snapshotText_eq_ok, pure_eq_ok]
    refine ⟨(), ⟨decide_eq_true (asStr_eq_some.2 hmode), ?_⟩, (), ?_, orderId, ⟨?_, hp.1⟩, packCredits, ⟨?_, hp.2.1⟩,
      toString expiresDays, ⟨?_, hp.2.2⟩, (), ?_, rfl⟩
    · rw [hmethods rfl]
      rfl
    all_goals rw [hmetadata]
    · rfl
    · simp [CheckoutPurchase.metadata, packCheckoutMetadata, Json.get, List.lookup_cons]
    · simp [CheckoutPurchase.metadata, packCheckoutMetadata, Json.get, List.lookup_cons]
    · simp [CheckoutPurchase.metadata, packCheckoutMetadata, Json.get, List.lookup_cons]
    · simp [CheckoutPurchase.metadata, packCheckoutMetadata, Json.beq, Json.beqMembers,
        Json.has, Json.get, List.lookup_cons]

/-- The metadata of a purchase are texts under different names. -/
theorem metadata_texts (p : CheckoutPurchase) (price : ResolvedPrice) (accountId : String) :
    ∃ members, p.metadata price accountId = .obj members ∧ (members.map Prod.fst).Nodup ∧
      ∀ m ∈ members, ∃ s, m.2 = Json.str s := by
  cases p with
  | subscription claimToken interval =>
    refine ⟨_, rfl, ?_, by simp⟩
    show ["claim_token", "account_id", "product_line"].Nodup
    decide
  | creditPack orderId packCredits expiresDays =>
    refine ⟨_, rfl, ?_, by simp⟩
    show ["billing_kind", "pack_schema_version", "product_line", "credit_pack_order_id",
      "account_id", "pack_key", "pack_credits", "price_amount", "currency", "expires_days",
      "lookup_key"].Nodup
    decide

/-! ## Requests -/

/-- The names of the parameters, in the order of the builders. -/
theorem paramsWith_keys (x : CheckoutFacts) (quantity : Json) :
    ((x.paramsWith quantity).map Prod.fst).Perm
        (checkoutParamKeys x.purchase.kind x.customerMode) ∧
      ((x.paramsWith quantity).map Prod.fst).Nodup := by
  unfold CheckoutFacts.paramsWith checkoutParamKeys CheckoutTerms.customerMode
  cases x.customerId <;> cases x.purchase.kind <;> constructor <;>
    simp only [List.map_cons, List.map_nil, CheckoutKind.branchKey,
      Option.isSome_none, Option.isSome_some, if_true, Bool.false_eq_true, if_false,
      List.append_nil, List.nil_append, List.cons_append] <;> decide

/-- **Accepted parameters** spell the facts of the purchase. The validator compares most members
    with the facts it has read already, and copies of the metadata with the metadata, so the
    mapping is the one the builder writes, up to the quantity of its line item. -/
theorem paramsWith_of_validate {x : CheckoutFacts} {session : CheckoutSession}
    (h : AcceptedParams u x.purchase.kind x.customerMode x.priceId v session)
    (haccount : session.accountId = x.accountId) (hexpiry : session.expiresAt = x.expiresAt)
    (hcustomer : session.customerId = x.customerId)
    (hsuccess : v.get "success_url" = .str x.successUrl)
    (hcancel : v.get "cancel_url" = .str x.cancelUrl)
    (hmode : session.mode = .str x.purchase.kind.mode)
    (hmethods : x.purchase.kind = .creditPack →
      session.paymentMethodTypes.beq (.arr [.str "card"]) = true)
    (hmetadata : session.metadata.beq (x.purchase.metadata x.price x.accountId) = true) :
    v.beq (.obj (x.paramsWith (lineQuantity (v.get "line_items")))) = true := by
  obtain ⟨hperm, hnodup⟩ := paramsWith_keys x (lineQuantity (v.get "line_items"))
  -- It is enough to compare the members one by one: the keys are the same and have no duplicate.
  apply beq_obj (h.exactly.perm hperm.symm) hnodup
  have hitems := (lineItems_of_match h.lineItems).2
  rw [h.mode] at hmode
  rw [h.paymentMethodTypes] at hmethods
  rw [h.metadata] at hmetadata
  have hexpires := h.expiresAt.1
  rw [hexpiry] at hexpires
  have hreference := h.accountId.1
  rw [haccount] at hreference
  -- The metadata are copied below the payment or the subscription, and a copy of texts is equal.
  have hbranch : (v.get x.purchase.kind.branchKey).beq
      (.obj [("metadata", x.purchase.metadata x.price x.accountId)]) = true := by
    refine beq_obj h.branch (show ["metadata"].Nodup by decide) ?_
    obtain ⟨members, hmembers, hkeys, htexts⟩ := metadata_texts x.purchase x.price x.accountId
    rw [hmembers] at hmetadata ⊢
    simpa using beq_copy hkeys htexts hmetadata h.copies
  have hcreated := customer_eq_ok.1 h.customer
  rw [hcustomer] at hcreated
  unfold CheckoutFacts.paramsWith
  intro m hm
  simp only [List.append_assoc, List.mem_append, List.mem_cons, List.not_mem_nil, or_false] at hm
  -- Mode, payment methods, the seven common members, and the member for the Customer.
  rcases hm with rfl | hm | hm | hm
  · simp [hmode]
  · cases hkind : x.purchase.kind with
    | subscription => simp [hkind] at hm
    | creditPack =>
      simp only [hkind, List.mem_cons, List.not_mem_nil, or_false] at hm
      rw [hm]
      exact hmethods hkind
  · rcases hm with rfl | rfl | rfl | rfl | rfl | rfl | rfl
    · simp [hreference]
    · exact hitems
    · exact hbranch
    · simp [hsuccess]
    · simp [hcancel]
    · simp [hexpires]
    · exact hmetadata
  -- An existing Customer is named; a pack without one asks Stripe to create it.
  · unfold CheckoutTerms.customerMode at hcreated
    cases hid : x.customerId with
    | some id =>
      simp only [hid, Option.isSome_some, if_true, List.mem_cons, List.not_mem_nil,
        or_false] at hm hcreated
      obtain ⟨_, hsame, hget, -⟩ := hcreated
      cases hsame
      rw [hm]
      simp [hget]
    | none =>
      cases hkind : x.purchase.kind with
      | subscription => simp [hid, hkind] at hm
      | creditPack =>
        simp only [hid, hkind, Option.isSome_none, Bool.false_eq_true, if_false, List.mem_cons,
          List.not_mem_nil, or_false] at hm hcreated
        rw [hm]
        simp [hcreated]

theorem CheckoutKind.text_of_parse {s : String} {kind : CheckoutKind}
    (h : CheckoutKind.parse s = some kind) : s = kind.text := by
  unfold CheckoutKind.parse at h
  split at h <;> cases h <;> rfl

theorem CheckoutKind.parse_text (kind : CheckoutKind) :
    CheckoutKind.parse kind.text = some kind := by
  cases kind <;> rfl

theorem CustomerMode.text_of_parse {s : String} {mode : CustomerMode}
    (h : CustomerMode.parse s = some mode) : s = mode.text := by
  unfold CustomerMode.parse at h
  split at h <;> cases h <;> rfl

theorem CustomerMode.parse_text (mode : CustomerMode) :
    CustomerMode.parse mode.text = some mode := by
  cases mode <;> rfl

/-- What the checks of a Checkout request read from it. -/
structure CheckoutReading where
  kind : CheckoutKind
  requestApiVersion : String
  idempotencyKey : String
  mode : CustomerMode
  price : ResolvedPrice
  session : CheckoutSession
  requestIdentity : String

/-- The checks of a Checkout request. -/
structure AcceptedCheckout (u : Unicode) (e : CheckoutExpectations) (v : Json)
    (r : CheckoutReading) : Prop where
  safe : safeJson v = .ok ()
  exactly : ExactMapping v checkoutSnapshotKeys
  schema : v.get "schema" = .str "stripe.checkout.session.create"
  version : (v.get "version").isOne = true
  kind : v.get "kind" = .str r.kind.text
  requestApiVersion : v.get "request_api_version" = .str r.requestApiVersion ∧
    CleanText u 64 r.requestApiVersion
  idempotencyKey : v.get "idempotency_key" = .str r.idempotencyKey ∧
    CleanText u 255 r.idempotencyKey
  mode : v.get "customer_mode" = .str r.mode.text
  price : validateResolvedPrice u r.kind (v.get "resolved_price") = .ok r.price
  params : AcceptedParams u r.kind r.mode r.price.priceId (v.get "params") r.session
  metadata : validateCheckoutMetadata u r.kind r.price r.session r.idempotencyKey
    e.requestIdentity = .ok r.requestIdentity
  derived : r.idempotencyKey = r.kind.derivedKey r.session.accountId r.requestIdentity
  check : e.check r.kind r.price r.session r.requestIdentity = .ok ()
  customer : e.checkCustomer r.mode r.session = .ok ()
  packCredits : e.checkPackCredits u r.kind r.session = .ok ()
  expiresDays : e.checkExpiresDays r.kind r.session = .ok ()

/-- The validator returns the request that it accepts. -/
theorem validateCheckout_eq_ok {e : CheckoutExpectations} :
    validateCheckoutRequestSnapshot u v e = .ok w ↔ w = v ∧ ∃ r, AcceptedCheckout u e v r := by
  simp only [validateCheckoutRequestSnapshot, bind_eq_ok, exactMapping_eq_ok, require_eq_ok,
    Bool.and_eq_true, decide_eq_true_eq, asStr_eq_some, oneOf_eq_ok, snapshotText_eq_ok,
    validateCheckoutParams_eq_ok, pure_eq_ok]
  constructor
  · rintro ⟨_, hsafe, v, ⟨rfl, hexact⟩, _, ⟨hschema, hversion⟩, kind, ⟨_, hkind, hparse⟩, api, hapi,
      key, hkey, mode, ⟨_, hmode, hparseMode⟩, price, hprice, session, hparams, identity, hmetadata,
      _, hderived, _, hcheck, _, hcustomer, _, hcredits, _, hdays, rfl⟩
    obtain rfl := CheckoutKind.text_of_parse hparse
    obtain rfl := CustomerMode.text_of_parse hparseMode
    exact ⟨rfl, ⟨kind, api, key, mode, price, session, identity⟩, ⟨hsafe, hexact, hschema, hversion,
      hkind, hapi, hkey, hmode, hprice, hparams, hmetadata, hderived, hcheck, hcustomer, hcredits,
      hdays⟩⟩
  · rintro ⟨rfl, r, h⟩
    exact ⟨(), h.safe, w, ⟨rfl, h.exactly⟩, (), ⟨h.schema, h.version⟩, r.kind,
      ⟨_, h.kind, CheckoutKind.parse_text _⟩, _, h.requestApiVersion, _, h.idempotencyKey, r.mode,
      ⟨_, h.mode, CustomerMode.parse_text _⟩, _, h.price, _, h.params, _, h.metadata, (),
      h.derived, (), h.check, (), h.customer, (), h.packCredits, (), h.expiresDays, rfl⟩

/-- What both coordinators supply: the kind of the purchase, and the days of a credit pack. -/
structure CheckoutExpectations.Supplied (e : CheckoutExpectations) : Prop where
  kind : e.kind.isSome = true
  expiresDays : e.kind = some .creditPack → e.expiresDays.isSome = true

theorem expectCheckout_eq_ok {α : Type} [DecidableEq α] {expected : Option α} {observed : α}
    {field : String} {a : Unit} :
    expectCheckout expected observed field = .ok a ↔ ∀ x ∈ expected, x = observed := by
  simp [expectCheckout, require_eq_ok, Option.all_eq_true]

/-- The expectations give a credit pack its days. -/
theorem AcceptedCheckout.packDays {e : CheckoutExpectations} {r : CheckoutReading}
    (h : AcceptedCheckout u e v r) (he : e.Supplied) : PackDays r.kind r.session.metadata := by
  intro hpack
  have hcheck := h.check
  simp only [CheckoutExpectations.check, bind_eq_ok, expectCheckout_eq_ok] at hcheck
  obtain ⟨_, hkind, -⟩ := hcheck
  obtain ⟨kind, hsome⟩ := Option.isSome_iff_exists.1 he.kind
  have hsupplied : e.kind = some .creditPack := by
    rw [hsome, hkind kind hsome, hpack]
  obtain ⟨n, hn⟩ := Option.isSome_iff_exists.1 (he.expiresDays hsupplied)
  have hdays := h.expiresDays
  simp only [CheckoutExpectations.checkExpiresDays, hn, require_eq_ok, Bool.and_eq_true,
    decide_eq_true_eq, asStr_eq_some] at hdays
  exact ⟨n, hdays.2⟩

/-- **An accepted request** spells the admissible facts of a purchase, at the version and the
    quantity it has. -/
theorem facts_of_validate {e : CheckoutExpectations} (he : e.Supplied)
    (h : validateCheckoutRequestSnapshot u v e = .ok w) :
    ∃ x : CheckoutFacts, x.Admissible u ∧ v.beq (.obj (x.membersWith (v.get "version")
      (lineQuantity ((v.get "params").get "line_items")))) = true := by
  obtain ⟨rfl, r, h⟩ := validateCheckout_eq_ok.1 h
  -- Each group of checks returns the part of the facts it has read.
  obtain ⟨hadmissible, hinterval, hspelled⟩ := price_of_validate h.price
  obtain ⟨p, hkind, hidentity, hpInterval, hp, hmode, hmethods, hmetadata⟩ :=
    purchase_of_validate h.metadata hinterval (h.packDays he)
  obtain ⟨success, hsuccess, hsuccess'⟩ := h.params.successUrl
  obtain ⟨cancel, hcancel, hcancel'⟩ := h.params.cancelUrl
  have hcreated := customer_eq_ok.1 h.params.customer
  -- The facts are put together from the parts, and then agree with each of them.
  let x : CheckoutFacts := {
    accountId := r.session.accountId, customerId := r.session.customerId
    priceId := r.price.priceId, lookupKey := r.price.lookupKey, currency := r.price.currency
    unitAmount := r.price.unitAmount, offeringKey := r.price.offeringKey
    productLine := r.price.productLine, successUrl := success, cancelUrl := cancel
    expiresAt := r.session.expiresAt, requestApiVersion := r.requestApiVersion, purchase := p }
  have hxKind : x.purchase.kind = r.kind := hkind
  have hxPrice : x.price = r.price := by
    show ResolvedPrice.mk _ _ _ _ p.interval _ _ = r.price
    rw [hpInterval]
  -- The validator takes the mode from the text; the facts compute it from the Customer id.
  have hxMode : x.customerMode = r.mode := by
    show (if r.session.customerId.isSome then CustomerMode.existing else .create) = r.mode
    cases hm : r.mode with
    | existing =>
      rw [hm] at hcreated
      obtain ⟨id, hid, -⟩ := hcreated
      rw [hid]
      rfl
    | create =>
      cases hk : r.kind with
      | subscription =>
        rw [hm, hk] at hcreated
        simp only at hcreated
        rw [hcreated]
        rfl
      | creditPack =>
        rw [hm, hk] at hcreated
        rw [hcreated.1]
        rfl
  have hxApi : x.requestApiVersion = r.requestApiVersion := rfl
  -- The key is derived from the kind, the account and the identity, which the facts share.
  have hxKey : x.idempotencyKey = r.idempotencyKey := by
    rw [h.derived, ← hkind, ← hidentity]
    rfl
  refine ⟨x, ?_, ?_⟩
  -- The facts are admissible, field by field.
  · constructor
    · exact h.requestApiVersion.2
    · exact hxKey ▸ h.idempotencyKey.2
    · exact hxPrice ▸ hadmissible
    · exact h.params.accountId.2
    · exact hsuccess'
    · exact hcancel'
    · exact h.params.expiresAt.2.1
    · exact h.params.expiresAt.2.2
    -- Only an existing Customer has an id, and its id was checked.
    · intro id hid
      cases hm : r.mode with
      | existing =>
        rw [hm] at hcreated
        obtain ⟨_, hsame, -, hclean⟩ := hcreated
        have hid : r.session.customerId = some id := hid
        rw [hid] at hsame
        cases hsame
        exact hclean
      | create =>
        have hnone : x.customerMode = .existing := if_pos (by rw [Option.mem_def.1 hid]; rfl)
        rw [hxMode, hm] at hnone
        cases hnone
    · exact hp
  -- The members are spelled as the builder would spell them, with the version and the quantity
  -- kept.
  · have hparams := h.params
    rw [← hkind, ← hxMode] at hparams
    rw [← hkind] at hmode hmethods
    rw [← hxPrice] at hmetadata
    have hspelledParams := paramsWith_of_validate (x := x) hparams rfl rfl rfl hsuccess hcancel hmode
      hmethods hmetadata
    refine beq_obj h.exactly (show checkoutSnapshotKeys.Nodup by decide) ?_
    simp [CheckoutFacts.membersWith, h.schema, h.kind, h.requestApiVersion.1, h.idempotencyKey.1,
      h.mode, hxKind, hxKey, hxMode, hxPrice, hxApi, Json.beq_self_of_isOne h.version,
      hspelledParams, hspelled]

end StripeEntitlements
