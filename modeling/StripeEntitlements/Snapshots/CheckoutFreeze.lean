import StripeEntitlements.Snapshots.CheckoutCodec
import StripeEntitlements.Snapshots.PlanChangeFreeze

/-!
# Freezing a Checkout

The two builders succeed on the admissible facts of a purchase and on no others.

## Main results

- `CheckoutFacts.Admissible.validate` — admissible facts are accepted as they are spelled
- `CheckoutFacts.build_eq_ok` — what the builders freeze, and when
-/

namespace StripeEntitlements

variable {u : Unicode} {v : Json}

/-! ## The size of a request -/

theorem CleanString.of_part {s text : String} (h : CleanString text)
    (hpart : s.toList <:+: text.toList) : CleanString s where
  visible c hc := h.visible c (hpart.subset hc)
  unmarked := by
    by_contra hmarked
    rw [Bool.not_eq_false, hasSecretMarker_eq_true] at hmarked
    obtain ⟨m, hm, hfound⟩ := hmarked
    have hfalse := h.unmarked
    rw [hasSecretMarker_eq_true.2 ⟨m, hm, hfound.trans hpart⟩] at hfalse
    cases hfalse

/-- A part of a text is no longer than the text. -/
theorem size_le_of_part {s text : String} (h : s.toList <:+: text.toList) :
    s.utf8ByteSize ≤ text.utf8ByteSize := by
  obtain ⟨front, back, heq⟩ := h
  rw [utf8ByteSize_eq, utf8ByteSize_eq, ← heq, String.utf8Len_append, String.utf8Len_append]
  omega

/-- The digits of an amount are clean, and no more than eight. -/
theorem amount_light {n : Int} (hpos : 0 ≤ n) (hle : n ≤ 99999999) :
    (Json.str (toString n)).Light 18 ∧ (Json.int n).Light 8 := by
  obtain ⟨m, rfl⟩ := Int.eq_ofNat_of_zero_le hpos
  have hint := Json.Light.nat (n := m) (k := 8) (by decide) (by omega)
  have hdigits : (toString (m : Int)).toList = Nat.toDigits 10 m := by
    show (toString m).toList = _
    rw [Nat.toString_eq_repr, Nat.toList_repr]
  refine ⟨Json.Light.str (n := 8) ⟨?_, ?_⟩ ?_, hint⟩
  · intro c hc
    rw [hdigits] at hc
    have hdigit := Nat.isDigit_of_mem_toDigits (by decide) (by decide) hc
    exact (by decide : 32 ≤ 48).trans (Json.Light.isDigit_ascii hdigit).1
  · by_contra hmarked
    rw [Bool.not_eq_false, hasSecretMarker_eq_true] at hmarked
    obtain ⟨marker, hm, hfound⟩ := hmarked
    exact (secretMarkers_marker hm).not_found (Json.underscore_not_mem_int _) hfound
  · rw [utf8ByteSize_eq]
    exact hint.weight

theorem ResolvedPrice.Admissible.light (hu : u.Lawful) {p : ResolvedPrice} (h : p.Admissible u)
    (kind : CheckoutKind) : (p.spelled kind).Light 2048 := by
  have htype : (Json.str kind.priceType).Light 82 := by
    cases kind <;> exact .literal 40 (by decide +kernel) (by decide +kernel)
  have hinterval : (optionalText (p.interval.map Interval.text)).Light 12 := by
    cases p.interval with
    | none => exact Json.Light.null.mono (by decide)
    | some i => exact i.text_light
  apply Json.Light.obj (show _ = resolvedPriceKeys from rfl) (by decide +kernel)
  · exact .cons (h.priceId.light hu) <| .cons (.text hu h.lookupKey) <|
      .cons (.text hu h.currency.clean) <| .cons (amount_light h.charged h.unitAmount).2 <|
      .cons htype <| .cons hinterval <| .cons (.text hu h.productLine) <|
      .cons (.text hu h.offeringKey) .nil
  · decide +kernel

namespace CheckoutFacts

variable {x : CheckoutFacts}

/-- The identity of a purchase is part of its idempotency key. -/
theorem identity_part (x : CheckoutFacts) :
    x.purchase.requestIdentity.toList <:+: x.idempotencyKey.toList := by
  unfold idempotencyKey CheckoutKind.derivedKey
  split
  · simp only [String.toList_append]
    exact (List.suffix_append _ _).isInfix
  · rw [String.toList_append]
    exact (List.suffix_append _ _).isInfix

example : cleanLiterals ["claim_token", "account_id", "product_line"] = true := by decide +kernel

theorem Admissible.metadata_light (hu : u.Lawful) (h : x.Admissible u) :
    (x.purchase.metadata x.price x.accountId).Light 2600 := by
  -- The identity is part of the idempotency key, so it is as clean and no longer.
  have hidentity : (Json.str x.purchase.requestIdentity).Light 512 := by
    have hclean := (h.idempotencyKey.cleanString hu).of_part x.identity_part
    exact .str hclean ((size_le_of_part x.identity_part).trans h.idempotencyKey.size_le)
  have hpurchase := h.purchase
  cases hp : x.purchase with
  -- A subscription has three members, each a text with a known bound.
  | subscription claimToken interval =>
    rw [hp] at hidentity
    apply Json.Light.obj (show _ = ["claim_token", "account_id", "product_line"] from rfl)
      (by decide +kernel)
    · exact .cons hidentity <| .cons (.text hu h.accountId) <|
        .cons (.text hu h.price.productLine) .nil
    · decide +kernel
  | creditPack orderId packCredits expiresDays =>
    rw [hp] at hpurchase
    obtain ⟨horder, hcredits, hdays⟩ := hpurchase
    -- The words that the builder writes itself are clean literals of at most 40 bytes.
    have hword {text : String} (hclean : cleanLiterals [text] = true)
        (hsize : text.utf8ByteSize ≤ 40) : (Json.str text).Light 82 := .literal 40 hclean hsize
    apply Json.Light.obj (show _ = ["billing_kind", "pack_schema_version", "product_line",
      "credit_pack_order_id", "account_id", "pack_key", "pack_credits", "price_amount", "currency",
      "expires_days", "lookup_key"] from rfl) (by decide +kernel)
    · exact .cons (hword (by decide +kernel) (by decide +kernel)) <|
        .cons (hword (by decide +kernel) (by decide +kernel)) <|
        .cons (.text hu h.price.productLine) <| .cons (.text hu horder) <|
        .cons (.text hu h.accountId) <| .cons (.text hu h.price.offeringKey) <|
        .cons (.text hu hcredits) <| .cons (amount_light h.price.charged h.price.unitAmount).1 <|
        .cons (.text hu h.price.currency.clean) <| .cons (.text hu hdays) <|
        .cons (.text hu h.price.lookupKey) .nil
    · decide +kernel

end CheckoutFacts

/-! ## Acceptance -/

namespace CheckoutFacts

variable {x : CheckoutFacts}

/-- The object that spells the request. -/
def spelled (x : CheckoutFacts) : Json := .obj (x.membersWith (.int 1) (.int 1))

example : cleanLiterals resolvedPriceKeys = true := by decide +kernel

theorem Admissible.params_light (hu : u.Lawful) (h : x.Admissible u) {quantity : Json}
    (hquantity : quantity.Light 12) : (Json.obj (x.paramsWith quantity)).Light 20000 := by
  have hmetadata := h.metadata_light hu
  -- The parts first, each with its own bound; the sum of the bounds stays below the limit.
  have hitems : (Json.arr [.obj [("price", .str x.priceId), ("quantity", quantity)]]).Light 600 := by
    refine .arr (.cons (.obj (show _ = ["price", "quantity"] from rfl) (by decide +kernel)
      (.cons (h.price.priceId.light hu) (.cons hquantity .nil)) le_rfl) .nil) ?_
    decide +kernel
  have hcopy : (Json.obj [("metadata", x.purchase.metadata x.price x.accountId)]).Light 2700 := by
    apply Json.Light.obj (show _ = ["metadata"] from rfl) (by decide +kernel)
    · exact .cons hmetadata .nil
    · decide +kernel
  have hword {text : String} (hclean : cleanLiterals [text] = true)
      (hsize : text.utf8ByteSize ≤ 40) : (Json.str text).Light 82 := .literal 40 hclean hsize
  have hcard : (Json.arr [.str "card"]).Light 100 := by
    refine .arr (.cons (hword (by decide +kernel) (by decide +kernel)) .nil) ?_
    decide +kernel
  have hmode : (Json.str x.purchase.kind.mode).Light 82 := by
    cases x.purchase.kind <;> exact hword (by decide +kernel) (by decide +kernel)
  have haccount := Json.Light.text hu h.accountId
  have hsuccess := Json.Light.text hu h.successUrl.clean
  have hcancel := Json.Light.text hu h.cancelUrl.clean
  have hexpiry := Json.Light.int h.opened h.expiresAt
  unfold paramsWith
  -- The keys depend on the kind and on whether the Customer is known: four layouts.
  cases hkind : x.purchase.kind <;> rw [hkind] at hmode <;> cases hid : x.customerId
  · apply Json.Light.obj (show _ = ["mode", "client_reference_id", "line_items",
      "subscription_data", "success_url", "cancel_url", "expires_at", "metadata"] from rfl)
      (by decide +kernel)
    · exact .cons hmode <| .cons haccount <| .cons hitems <| .cons hcopy <| .cons hsuccess <|
        .cons hcancel <| .cons hexpiry <| .cons hmetadata .nil
    · decide +kernel
  · apply Json.Light.obj (show _ = ["mode", "client_reference_id", "line_items",
      "subscription_data", "success_url", "cancel_url", "expires_at", "metadata", "customer"]
      from rfl) (by decide +kernel)
    · exact .cons hmode <| .cons haccount <| .cons hitems <| .cons hcopy <| .cons hsuccess <|
        .cons hcancel <| .cons hexpiry <| .cons hmetadata <| .cons ((h.customerId _ hid).light hu) .nil
    · decide +kernel
  · apply Json.Light.obj (show _ = ["mode", "payment_method_types", "client_reference_id",
      "line_items", "payment_intent_data", "success_url", "cancel_url", "expires_at", "metadata",
      "customer_creation"] from rfl) (by decide +kernel)
    · exact .cons hmode <| .cons hcard <| .cons haccount <| .cons hitems <| .cons hcopy <|
        .cons hsuccess <| .cons hcancel <| .cons hexpiry <| .cons hmetadata <|
        .cons (hword (by decide +kernel) (by decide +kernel)) .nil
    · decide +kernel
  · apply Json.Light.obj (show _ = ["mode", "payment_method_types", "client_reference_id",
      "line_items", "payment_intent_data", "success_url", "cancel_url", "expires_at", "metadata",
      "customer"] from rfl) (by decide +kernel)
    · exact .cons hmode <| .cons hcard <| .cons haccount <| .cons hitems <| .cons hcopy <|
        .cons hsuccess <| .cons hcancel <| .cons hexpiry <| .cons hmetadata <|
        .cons ((h.customerId _ hid).light hu) .nil
    · decide +kernel

theorem Admissible.light (hu : u.Lawful) (h : x.Admissible u) {version quantity : Json}
    (hversion : version.Light 12) (hquantity : quantity.Light 12) :
    (Json.obj (x.membersWith version quantity)).Light 24000 := by
  have hword {text : String} (hclean : cleanLiterals [text] = true)
      (hsize : text.utf8ByteSize ≤ 40) : (Json.str text).Light 82 := .literal 40 hclean hsize
  have hkind : (Json.str x.purchase.kind.text).Light 82 := by
    cases x.purchase.kind <;> exact hword (by decide +kernel) (by decide +kernel)
  have hmode : (Json.str x.customerMode.text).Light 82 := by
    cases x.customerMode <;> exact hword (by decide +kernel) (by decide +kernel)
  apply Json.Light.obj (show _ = checkoutSnapshotKeys from rfl) (by decide +kernel)
  · exact .cons (hword (by decide +kernel) (by decide +kernel)) <|
      .cons hversion <| .cons hkind <| .cons (.text hu h.requestApiVersion) <|
      .cons (.text hu h.idempotencyKey) <| .cons hmode <|
      .cons (h.price.light hu x.purchase.kind) <| .cons (h.params_light hu hquantity) .nil
  · decide +kernel

/-- What a request of these facts leaves for the later checks. -/
def session (x : CheckoutFacts) : CheckoutSession where
  accountId := x.accountId
  expiresAt := x.expiresAt
  customerId := x.customerId
  mode := .str x.purchase.kind.mode
  paymentMethodTypes := match x.purchase.kind with
    | .subscription => .null
    | .creditPack => .arr [.str "card"]
  metadata := x.purchase.metadata x.price x.accountId

/-- A parameter is read back as it is written. -/
theorem get_paramsWith {quantity : Json} {m : String × Json} (hm : m ∈ x.paramsWith quantity) :
    (Json.obj (x.paramsWith quantity)).get m.1 = m.2 := by
  rw [Json.get, lookup_eq_some_of_nodup (paramsWith_keys x quantity).2 (x := m.2) hm]
  rfl

/-- The parameters that every Checkout has. -/
def commonParams (x : CheckoutFacts) (quantity : Json) : List (String × Json) :=
  let metadata := x.purchase.metadata x.price x.accountId
  [("client_reference_id", .str x.accountId),
    ("line_items", .arr [.obj [("price", .str x.priceId), ("quantity", quantity)]]),
    (x.purchase.kind.branchKey, .obj [("metadata", metadata)]),
    ("success_url", .str x.successUrl),
    ("cancel_url", .str x.cancelUrl),
    ("expires_at", .int x.expiresAt),
    ("metadata", metadata)]

theorem get_commonParams (quantity : Json) {m : String × Json}
    (hm : m ∈ x.commonParams quantity) : (Json.obj (x.paramsWith quantity)).get m.1 = m.2 := by
  apply get_paramsWith
  unfold paramsWith
  exact List.mem_append_left _ (List.mem_append_right _ hm)

theorem get_mode (quantity : Json) :
    (Json.obj (x.paramsWith quantity)).get "mode" = .str x.purchase.kind.mode := by
  apply get_paramsWith (m := ("mode", .str x.purchase.kind.mode))
  simp [paramsWith]

theorem get_customer {quantity : Json} {id : String} (hid : x.customerId = some id) :
    (Json.obj (x.paramsWith quantity)).get "customer" = .str id := by
  apply get_paramsWith (m := ("customer", .str id))
  simp [paramsWith, hid]

/-- **The parameters** of admissible facts are accepted. -/
theorem Admissible.params (h : x.Admissible u) {quantity : Json} (hone : quantity.isOne = true) :
    AcceptedParams u x.purchase.kind x.customerMode x.priceId (.obj (x.paramsWith quantity))
      x.session := by
  obtain ⟨hperm, hnodup⟩ := paramsWith_keys x quantity
  have hbranch := get_commonParams (x := x) quantity (m := (x.purchase.kind.branchKey,
    .obj [("metadata", x.purchase.metadata x.price x.accountId)]))
      (by simp [commonParams])
  have hmetadata := get_commonParams (x := x) quantity (m := ("metadata",
    x.purchase.metadata x.price x.accountId)) (by simp [commonParams])
  obtain ⟨members, hmembers, hkeys, htexts⟩ := metadata_texts x.purchase x.price x.accountId
  -- One field of the contract after the other; each is a member read back from the parameters.
  constructor
  · refine ⟨⟨_, rfl, ?_⟩, ?_⟩
    · rw [← hperm.length_eq, List.length_map]
    · intro key hkey
      obtain ⟨m, hm, rfl⟩ := List.mem_map.1 (hperm.mem_iff.2 hkey)
      rw [Json.has, lookup_eq_some_of_nodup hnodup (x := m.2) hm]
      rfl
  · exact ⟨get_commonParams _ (m := ("client_reference_id", .str x.accountId)) (by simp [commonParams]),
      h.accountId⟩
  · rw [get_commonParams _ (m := ("line_items", .arr [.obj [("price", .str x.priceId),
      ("quantity", quantity)]])) (by simp [commonParams])]
    exact match_lineItems hone
  · exact ⟨_, get_commonParams _ (m := ("success_url", .str x.successUrl)) (by simp [commonParams]),
      h.successUrl⟩
  · exact ⟨_, get_commonParams _ (m := ("cancel_url", .str x.cancelUrl)) (by simp [commonParams]),
      h.cancelUrl⟩
  · exact ⟨get_commonParams _ (m := ("expires_at", .int x.expiresAt)) (by simp [commonParams]),
      h.opened, h.expiresAt⟩
  -- The Customer member follows the mode: named, created for a pack, or absent.
  · rw [customer_eq_ok]
    unfold CheckoutTerms.customerMode session
    cases hid : x.customerId with
    | some id => exact ⟨id, rfl, get_customer hid, h.customerId id hid⟩
    | none =>
      cases hkind : x.purchase.kind with
      | subscription => rfl
      | creditPack =>
        refine ⟨rfl, get_paramsWith (m := ("customer_creation", .str "always")) ?_⟩
        simp [paramsWith, hid, hkind]
  · rw [hbranch]
    exact ⟨⟨_, rfl, rfl⟩, by simp [Json.has, List.lookup_cons]⟩
  -- The copy of the metadata below the branch equals the metadata themselves.
  · rw [hbranch, hmetadata]
    rw [hmembers]
    refine beq_obj ⟨⟨_, rfl, by simp⟩, ?_⟩ hkeys ?_
    · intro key hkey
      obtain ⟨m, hm, rfl⟩ := List.mem_map.1 hkey
      rw [Json.has, lookup_eq_some_of_nodup hkeys (x := m.2) hm]
      rfl
    · intro m hm
      obtain ⟨s, hs⟩ := htexts m hm
      rw [Json.get, lookup_eq_some_of_nodup hkeys (x := m.2) hm, hs]
      simp
  · exact (get_mode quantity).symm
  · show x.session.paymentMethodTypes = _
    unfold session
    unfold paramsWith
    cases x.purchase.kind <;> cases x.customerId <;> rfl
  · exact hmetadata.symm

end CheckoutFacts

/-- The expectations that the facts of a purchase meet. -/
structure CheckoutExpectations.Met (e : CheckoutExpectations) (u : Unicode) (x : CheckoutFacts) :
    Prop where
  check : e.check x.purchase.kind x.price x.session x.purchase.requestIdentity = .ok ()
  customer : e.checkCustomer x.customerMode x.session = .ok ()
  packCredits : e.checkPackCredits u x.purchase.kind x.session = .ok ()
  expiresDays : e.checkExpiresDays x.purchase.kind x.session = .ok ()

namespace CheckoutFacts

variable {x : CheckoutFacts}

theorem met_none (u : Unicode) (x : CheckoutFacts) : CheckoutExpectations.Met {} u x where
  check := rfl
  customer := rfl
  packCredits := rfl
  expiresDays := rfl

/-- **Admissible facts** are accepted as they are spelled, under the expectations they meet, and
    so they are with another one for the version or the quantity. -/
example : cleanLiterals ["payment", "subscription"] = true := by decide +kernel

theorem Admissible.accepted (hu : u.Lawful) (h : x.Admissible u) {e : CheckoutExpectations}
    (he : e.Met u x) (version quantity : Json) (hversion : version.isOne = true)
    (hversionLight : version.Light 12) (hquantity : quantity.isOne = true)
    (hquantityLight : quantity.Light 12) :
    validateCheckoutRequestSnapshot u (.obj (x.membersWith version quantity)) e =
      .ok (.obj (x.membersWith version quantity)) := by
  rw [validateCheckout_eq_ok]
  refine ⟨rfl, ⟨x.purchase.kind, x.requestApiVersion, x.idempotencyKey, x.customerMode, x.price,
    x.session, x.purchase.requestIdentity⟩, ?_⟩
  -- The expectations name this purchase, so the identity they ask for is its own.
  have hidentity : ∀ identity ∈ e.requestIdentity, identity = x.purchase.requestIdentity := by
    have hcheck := he.check
    simp only [CheckoutExpectations.check, bind_eq_ok, expectCheckout_eq_ok] at hcheck
    obtain ⟨_, -, _, -, _, hidentity, -⟩ := hcheck
    exact hidentity
  -- A price recurs exactly when the purchase is a subscription.
  have hinterval : x.price.interval.isSome = true ↔ x.purchase.kind = .subscription := by
    show x.purchase.interval.isSome = true ↔ _
    cases x.purchase <;> simp [CheckoutPurchase.interval, CheckoutPurchase.kind]
  -- One goal for each check of the validator, in the order in which it makes them.
  constructor
  · exact (h.light hu hversionLight hquantityLight).safeJson (by decide)
  · exact ⟨⟨_, rfl, rfl⟩, by simp [checkoutSnapshotKeys, membersWith, Json.has, List.lookup_cons]⟩
  · rfl
  · exact hversion
  · rfl
  · exact ⟨rfl, h.requestApiVersion⟩
  · exact ⟨rfl, h.idempotencyKey⟩
  · rfl
  · exact validate_price h.price hinterval
  · exact h.params hquantity
  · refine validate_purchase h.purchase rfl ?_ rfl hidentity
    intro hpack
    simp [session, hpack]
  · rfl
  · exact he.check
  · exact he.customer
  · exact he.packCredits
  · exact he.expiresDays

theorem Admissible.validate (hu : u.Lawful) (h : x.Admissible u) {e : CheckoutExpectations}
    (he : e.Met u x) : validateCheckoutRequestSnapshot u x.spelled e = .ok x.spelled :=
  h.accepted hu he _ _ rfl (.int (by decide) (by decide)) rfl (.int (by decide) (by decide))

/-- A builder validates what the facts spell. -/
theorem build_eq (u : Unicode) (x : CheckoutFacts) :
    x.build u = validateCheckoutRequestSnapshot u x.spelled {} := by
  obtain ⟨terms, purchase⟩ := x
  obtain ⟨accountId, customerId, priceId, lookupKey, currency, unitAmount, offeringKey, productLine,
    successUrl, cancelUrl, expiresAt, requestApiVersion⟩ := terms
  cases purchase <;> cases customerId <;> rfl

/-- **The builders** freeze admissible facts as they are spelled. -/
theorem Admissible.build (hu : u.Lawful) (h : x.Admissible u) : x.build u = .ok x.spelled := by
  rw [build_eq]
  exact h.validate hu (met_none u x)

end CheckoutFacts

/-! ## What a builder asks for -/

theorem CheckoutKind.text_injective {kind kind' : CheckoutKind} (h : kind.text = kind'.text) :
    kind = kind' := by
  have hparse := CheckoutKind.parse_text kind
  rw [h, CheckoutKind.parse_text kind'] at hparse
  exact (Option.some.inj hparse).symm

/-- The evidence tells Prices apart. -/
theorem ResolvedPrice.eq_of_beq {p q : ResolvedPrice} {kind : CheckoutKind}
    (h : (p.spelled kind).beq (q.spelled kind) = true) : p = q := by
  simp [spelled, Json.beq, Json.beqMembers, Json.has, Json.get, List.lookup_cons] at h
  obtain ⟨hprice, hlookup, hcurrency, hamount, hinterval, hline, hoffering⟩ := h
  have hsame : p.interval = q.interval := by
    cases hp : p.interval with
    | none =>
      cases hq : q.interval with
      | none => rfl
      | some j => simp [hp, hq, optionalText, Json.beq] at hinterval
    | some i =>
      cases hq : q.interval with
      | none => simp [hp, hq, optionalText, Json.beq] at hinterval
      | some j =>
        simp only [hp, hq, Option.map_some, optionalText, Json.beq_str, Json.str.injEq] at hinterval
        have hparse := Interval.parse_text i
        rw [hinterval, Interval.parse_text j] at hparse
        exact hparse.symm
  obtain ⟨_, _, _, _, _, _, _⟩ := p
  simp_all

namespace CheckoutFacts

variable {x : CheckoutFacts}

/-- **The builders** freeze admissible facts and no others. A builder validates what it has
    assembled, so each check of the validator is a fact about the purchase it was given. -/
theorem admissible_of_build (h : x.build u = .ok v) : x.Admissible u := by
  rw [build_eq] at h
  obtain ⟨-, r, h⟩ := validateCheckout_eq_ok.1 h
  -- The builder validates what it has assembled, so every check is a fact about the purchase.
  have hkind : x.purchase.kind = r.kind := CheckoutKind.text_injective (Json.str.inj h.kind)
  have hprice := price_of_validate h.price
  rw [← hkind] at hprice
  have hsame : x.price = r.price := ResolvedPrice.eq_of_beq hprice.2.2
  have hparams := h.params
  rw [← hkind] at hparams
  have haccount : x.accountId = r.session.accountId := by
    have hget := get_commonParams (x := x) (.int 1)
      (m := ("client_reference_id", .str x.accountId)) (by simp [commonParams])
    exact Json.str.inj (hget.symm.trans hparams.accountId.1)
  have hexpiry : x.expiresAt = r.session.expiresAt := by
    have hget := get_commonParams (x := x) (.int 1)
      (m := ("expires_at", .int x.expiresAt)) (by simp [commonParams])
    exact Json.int.inj (hget.symm.trans hparams.expiresAt.1)
  obtain ⟨success, hsuccess, hsuccess'⟩ := hparams.successUrl
  have hsuccessGet := get_commonParams (x := x) (.int 1)
    (m := ("success_url", .str x.successUrl)) (by simp [commonParams])
  obtain rfl : x.successUrl = success := Json.str.inj (hsuccessGet.symm.trans hsuccess)
  obtain ⟨cancel, hcancel, hcancel'⟩ := hparams.cancelUrl
  have hcancelGet := get_commonParams (x := x) (.int 1)
    (m := ("cancel_url", .str x.cancelUrl)) (by simp [commonParams])
  obtain rfl : x.cancelUrl = cancel := Json.str.inj (hcancelGet.symm.trans hcancel)
  -- Both modes have the same text, and a text names one mode.
  have hmode : x.customerMode = r.mode := by
    have htext : x.customerMode.text = r.mode.text := Json.str.inj h.mode
    have hparse := CustomerMode.parse_text x.customerMode
    rw [htext, CustomerMode.parse_text r.mode] at hparse
    exact (Option.some.inj hparse).symm
  -- Each field is one of the validator's checks, moved along the equalities above.
  constructor
  · exact Json.str.inj h.requestApiVersion.1 ▸ h.requestApiVersion.2
  · exact Json.str.inj h.idempotencyKey.1 ▸ h.idempotencyKey.2
  · exact hsame ▸ hprice.1
  · exact haccount ▸ hparams.accountId.2
  · exact hsuccess'
  · exact hcancel'
  · exact hexpiry ▸ hparams.expiresAt.2.1
  · exact hexpiry ▸ hparams.expiresAt.2.2
  -- With a Customer id the mode is `existing`, whose branch checks the id.
  · intro id hid
    have hcreated := customer_eq_ok.1 hparams.customer
    have hexisting : x.customerMode = .existing := if_pos (by rw [Option.mem_def.1 hid]; rfl)
    rw [← hmode, hexisting] at hcreated
    obtain ⟨id', -, hget, hclean⟩ := hcreated
    obtain rfl : id = id' := Json.str.inj ((get_customer hid).symm.trans hget)
    exact hclean
  -- A pack checks the three texts of its own metadata.
  · have hmetadata := h.metadata
    have hsession : r.session.metadata = x.purchase.metadata x.price x.accountId := by
      rw [hparams.metadata]
      exact get_commonParams _ (m := ("metadata", x.purchase.metadata x.price x.accountId))
        (by simp [commonParams])
    rw [← hkind] at hmetadata
    cases hp : x.purchase with
    | subscription claimToken interval => trivial
    | creditPack orderId packCredits expiresDays =>
      rw [hp] at hmetadata hsession
      simp only [validateCheckoutMetadata, CheckoutPurchase.kind, bind_eq_ok, snapshotText_eq_ok,
        hsession] at hmetadata
      obtain ⟨_, -, _, -, order, ⟨horder, horder'⟩, credits, ⟨hcredits, hcredits'⟩, days,
        ⟨hdays, hdays'⟩, -⟩ := hmetadata
      simp only [CheckoutPurchase.metadata, packCheckoutMetadata, Json.get] at horder hcredits hdays
      cases horder
      cases hcredits
      cases hdays
      exact ⟨horder', hcredits', hdays'⟩

theorem build_eq_ok (hu : u.Lawful) : x.build u = .ok v ↔ x.Admissible u ∧ v = x.spelled := by
  constructor
  · intro h
    refine ⟨admissible_of_build h, ?_⟩
    rw [build_eq] at h
    exact (validateCheckout_eq_ok.1 h).1
  · rintro ⟨h, rfl⟩
    exact h.build hu

end CheckoutFacts

end StripeEntitlements
