import StripeEntitlements.Catalog.LookupKeys
import StripeEntitlements.Parity.CreditAmount
import StripeEntitlements.PlanChanges.Coordinator
import StripeEntitlements.Snapshots.Codec

/-!
# Freezing the Offers of a Catalog

The catalog, the gateway and the snapshots bound the same values on their own: a price, a lookup
key, a URL. An offer of the catalog can be frozen exactly when its values are within the bounds of
the snapshots as well.

## Main results

- `offers_frozen` — which offers of a catalog can be bought and changed to
-/

namespace StripeEntitlements

variable {u : Unicode} {v : Json}

/-! ## The gateway -/

/-- What the snapshots read of a `StripeGateway`; its constructor checks the URLs. -/
structure StripeGateway where
  productLine : String := "example-entitlements"
  apiVersion : String := "2026-06-24.dahlia"
  checkoutSuccessUrl : String := "http://localhost:3000/billing/success"
  checkoutCancelUrl : String := "http://localhost:3000/pricing"
  success_safe : checkoutSuccessBaseUrlIsSafe checkoutSuccessUrl = true
  cancel_safe : publicHttpUrlIsStructurallySafe checkoutCancelUrl = true

namespace StripeGateway

/-- The success URL with a query in place of the empty one of the base. -/
def successUrl (g : StripeGateway) (query : List (String × String)) : String :=
  String.ofList <| ((urlsplit g.checkoutSuccessUrl.toList).toOption.map fun split =>
    urlunsplit { split with query := urlencode query }).getD []

/-- `_checkout_success_url`. -/
def subscriptionSuccessUrl (g : StripeGateway) (planKey interval : String) : String :=
  g.successUrl [("expected_plan", planKey), ("expected_interval", interval),
    ("checkout_session_id", "\x7bCHECKOUT_SESSION_ID\x7d")]

/-- `_credit_pack_success_url`. -/
def creditPackSuccessUrl (g : StripeGateway) (packKey : String) : String :=
  g.successUrl [("expected_credit_pack", packKey),
    ("checkout_session_id", "\x7bCHECKOUT_SESSION_ID\x7d")]

end StripeGateway

/-! ## Facts of an offer -/

/-- What `prepare_checkout_session` freezes for a reservation of a plan. -/
def CheckoutClaim.facts (claim : CheckoutClaim) (c : PlanCatalog) (g : StripeGateway)
    (plan : Plan) (priceId : String) : CheckoutFacts where
  accountId := claim.accountId
  customerId := claim.requestCustomerId
  priceId := priceId
  lookupKey := c.lookupKey plan claim.planInterval
  currency := plan.currency
  unitAmount := plan.amount claim.planInterval
  offeringKey := plan.key
  productLine := g.productLine
  successUrl := g.subscriptionSuccessUrl plan.key claim.planInterval.text
  cancelUrl := g.checkoutCancelUrl
  expiresAt := epochSeconds claim.expiresAt
  requestApiVersion := g.apiVersion
  purchase := .subscription claim.claimToken claim.planInterval

/-- What `prepare_credit_pack_checkout_session` freezes for an order. -/
def PackOrder.facts (o : PackOrder) (g : StripeGateway) (priceId : String) : CheckoutFacts where
  accountId := o.accountId
  customerId := o.requestCustomerId
  priceId := priceId
  lookupKey := o.priceLookupKey
  currency := o.currency
  unitAmount := o.priceAmount
  offeringKey := o.packKey
  productLine := g.productLine
  successUrl := g.creditPackSuccessUrl o.packKey
  cancelUrl := g.checkoutCancelUrl
  expiresAt := epochSeconds o.claimExpiresAt
  requestApiVersion := g.apiVersion
  purchase := .creditPack o.id (creditDecimal o.packCredits) o.expiresDays

/-! ## ASCII texts -/

/-- A text of such characters is clean as far as it is short and hides no secret. -/
theorem cleanText_of_ascii (hu : u.Lawful) {maximum : Nat} {s : String} (hne : s ≠ "")
    (hchars : ∀ c ∈ s.toList, isAsciiText c = true) (hsize : s.length ≤ maximum)
    (hunmarked : hasSecretMarker s.toList = false) : CleanText u maximum s :=
  ⟨visible_of_ascii hu hne hchars hsize, hunmarked⟩

/-- Every marker holds an underscore. -/
theorem unmarked_of_underscore {cs : List Char} (h : '_' ∉ cs) : hasSecretMarker cs = false := by
  by_contra hmarked
  rw [Bool.not_eq_false, hasSecretMarker_eq_true] at hmarked
  obtain ⟨m, hm, hfound⟩ := hmarked
  exact (secretMarkers_marker hm).not_found h hfound

/-- A short ASCII text that can hide no secret. -/
structure PlainText (s : String) (n : Nat) : Prop where
  length : s.length ≤ n
  chars : ∀ c ∈ s.toList, isAsciiText c = true ∧ c ≠ '_'

namespace PlainText

variable {s t : String} {n k : Nat}

/-- The text of a literal. -/
theorem literal (hlength : s.length ≤ n)
    (hchars : (s.toList.all fun c => isAsciiText c = true ∧ c ≠ '_') = true) : PlainText s n :=
  ⟨hlength, List.all_iff_forall_prop.1 hchars⟩

theorem append (hs : PlainText s n) (ht : PlainText t k) : PlainText (s ++ t) (n + k) where
  length := by
    rw [String.length_append]
    exact Nat.add_le_add hs.length ht.length
  chars c hc := by
    rw [String.toList_append] at hc
    rcases List.mem_append.1 hc with hc | hc
    · exact hs.chars c hc
    · exact ht.chars c hc

theorem clean (hu : u.Lawful) (h : PlainText s n) (hne : s.toList ≠ []) {maximum : Nat}
    (hn : n ≤ maximum) : CleanText u maximum s :=
  cleanText_of_ascii hu (fun hempty => hne (congrArg String.toList hempty))
    (fun c hc => (h.chars c hc).1) (h.length.trans hn)
    (unmarked_of_underscore fun hmem => (h.chars _ hmem).2 rfl)

end PlainText

theorem digit_plain {c : Char} (h : c.isDigit = true) : isAsciiText c = true ∧ c ≠ '_' := by
  have hrange := Json.Light.isDigit_ascii h
  refine ⟨by simp only [isAsciiText, Bool.and_eq_true, decide_eq_true_eq]; omega, ?_⟩
  rintro rfl
  exact absurd h (by decide)

/-- The text of a UUID. -/
structure UuidText (s : String) : Prop where
  length : s.length = 36
  chars : ∀ c ∈ s.toList, c.isDigit = true ∨ c ∈ ['a', 'b', 'c', 'd', 'e', 'f', '-']

namespace UuidText

variable {s : String}

theorem plain (h : UuidText s) : PlainText s 36 where
  length := h.length.le
  chars c hc := by
    rcases h.chars c hc with hdigit | hletter
    · exact digit_plain hdigit
    · exact (List.all_iff_forall_prop.1 (by decide) :
        ∀ c ∈ ['a', 'b', 'c', 'd', 'e', 'f', '-'], isAsciiText c = true ∧ c ≠ '_') c hletter

theorem clean (hu : u.Lawful) (h : UuidText s) : CleanText u 64 s := by
  refine h.plain.clean hu ?_ (by decide)
  intro hnil
  have hlength := h.length
  rw [← String.length_toList, hnil] at hlength
  cases hlength

end UuidText

/-! ## Redirect URLs -/

/-- **The success URL** is safe where it is visible. -/
theorem successUrl_safe (hu : u.Lawful) (g : StripeGateway) {query : List (String × String)}
    (hquery : query ≠ []) (hclean : CleanText u 2048 (g.successUrl query)) :
    publicHttpUrlIsStructurallySafe (g.successUrl query) = true := by
  have hbase := g.success_safe
  simp only [checkoutSuccessBaseUrlIsSafe, Bool.and_eq_true] at hbase
  obtain ⟨parts, hsplit, hsafe⟩ := publicHttpUrlIsStructurallySafe_iff.1 hbase.1
  have htext : (g.successUrl query).toList =
      urlunsplit { parts with query := urlencode query } := by
    simp [StripeGateway.successUrl, hsplit, Except.toOption]
  have hparts := urlsplit_split hsplit hsafe
  obtain ⟨again, hagain, hscheme, hnetloc⟩ :=
    @urlsplit_urlunsplit { parts with query := urlencode query }
      ⟨hparts.scheme, hparts.netloc, hparts.checked, hparts.path⟩
      (urlencode_ne_nil hquery) (by rw [← htext]; exact hclean.text_visible hu)
  refine publicHttpUrlIsStructurallySafe_iff.2 ⟨again, htext ▸ hagain, ?_⟩
  -- the query changes neither the scheme nor the authority
  rw [SplitUrl.isOriginSafe, hscheme, hnetloc]
  exact hsafe

/-! ## Catalog texts -/

theorem isLowerLetter_ascii {c : Char} (h : isLowerLetter c = true) : isAsciiText c = true := by
  simp only [isLowerLetter, Bool.and_eq_true, decide_eq_true_eq, Char.le_def,
    UInt32.le_iff_toNat_le] at h
  have hlow : 97 ≤ c.toNat := h.1
  have hhigh : c.toNat ≤ 122 := h.2
  simp only [isAsciiText, Bool.and_eq_true, decide_eq_true_eq]
  omega

/-- A key of a catalog is a short ASCII text. -/
theorem catalogKey_text {key : String} (h : isCatalogKey key = true) :
    key ≠ "" ∧ key.length ≤ 32 ∧ ∀ c ∈ key.toList, isAsciiText c = true := by
  unfold isCatalogKey at h
  split at h
  case h_1 => cases h
  case h_2 c rest hchars =>
    simp only [Bool.and_eq_true, decide_eq_true_eq, List.all_eq_true, Bool.or_eq_true] at h
    obtain ⟨⟨hfirst, hlength⟩, hrest⟩ := h
    refine ⟨?_, ?_, ?_⟩
    · rintro rfl
      cases hchars
    · rw [← String.length_toList, hchars, List.length_cons]
      omega
    · rw [hchars]
      intro d hd
      rcases List.mem_cons.1 hd with rfl | hd
      · exact isLowerLetter_ascii hfirst
      · rcases hrest d hd with (hletter | hdigit) | rfl
        · exact isLowerLetter_ascii hletter
        · have hrange := Json.Light.isDigit_ascii hdigit
          simp only [isAsciiText, Bool.and_eq_true, decide_eq_true_eq]
          omega
        · rfl

namespace Catalog

variable {c : Catalog u}

theorem planKey_slug {p : Plan} (hp : p ∈ c.planCatalog.plans) : isCatalogKey p.key = true := by
  obtain ⟨⟨key, plan⟩, hmem, rfl⟩ := List.mem_map.1 hp
  have hplan := c.checked.plans key plan hmem
  exact hplan.keyed ▸ hplan.slug

theorem packKey_slug {p : CreditPack} (hp : p ∈ c.packCatalog.packs) :
    isCatalogKey p.key = true := by
  obtain ⟨⟨key, pack⟩, hmem, rfl⟩ := List.mem_map.1 hp
  have hpack := c.checked.packs key pack hmem
  exact hpack.keyed ▸ hpack.slug

/-- A key of the catalog is clean. -/
theorem key_clean (hu : u.Lawful) {key : String} (h : isCatalogKey key = true) :
    CleanText u 64 key := by
  obtain ⟨hne, hlength, hchars⟩ := catalogKey_text h
  exact cleanText_of_ascii hu hne hchars (hlength.trans (by decide))
    (unmarked_of_underscore (underscore_not_mem_of_catalogKey h))

/-- **The lookup key of a plan** is clean as far as it hides no secret. -/
theorem lookupKey_clean (hu : u.Lawful) {p : Plan} (hp : p ∈ c.planCatalog.plans) (i : Interval) :
    CleanText u 200 (c.planCatalog.lookupKey p i) ↔
      hasSecretMarker (c.planCatalog.lookupKey p i).toList = false := by
  refine ⟨CleanText.unmarked, fun hunmarked => ?_⟩
  -- Prefix and key are slugs of the catalog, with known characters and lengths.
  obtain ⟨hne, hpre, hpreChars⟩ := catalogKey_text c.checked.pre
  obtain ⟨-, hkey, hkeyChars⟩ := catalogKey_text (planKey_slug hp)
  have hinterval : i.text.length ≤ 5 ∧ ∀ d ∈ i.text.toList, isAsciiText d = true := by
    cases i <;> exact ⟨by decide, List.all_eq_true.1 (by decide)⟩
  have heq : c.planCatalog.lookupKey p i = c.lookupPrefix ++ "_" ++ p.key ++ "_" ++ i.text := rfl
  have hunderscore : ∀ d ∈ "_".toList, isAsciiText d = true :=
    List.all_eq_true.1 (by decide)
  refine cleanText_of_ascii hu ?_ ?_ ?_ hunmarked
  -- The key has two underscores, so it is not empty.
  · intro hempty
    have hlength := congrArg String.length (heq.symm.trans hempty)
    simp [String.length_append] at hlength
  -- Every part of it is ASCII text.
  · rw [heq]
    simp only [String.toList_append, List.mem_append]
    rintro d ((((hd | hd) | hd) | hd) | hd)
    · exact hpreChars d hd
    · exact hunderscore d hd
    · exact hkeyChars d hd
    · exact hunderscore d hd
    · exact hinterval.2 d hd
  -- The lengths add up to less than the limit.
  · have hone : "_".length = 1 := rfl
    rw [heq]
    simp only [String.length_append, hone]
    omega

theorem packLookupKey_clean (hu : u.Lawful) {p : CreditPack} (hp : p ∈ c.packCatalog.packs) :
    CleanText u 200 (c.packLookupKey p) ↔ hasSecretMarker (c.packLookupKey p).toList = false := by
  refine ⟨CleanText.unmarked, fun hunmarked => ?_⟩
  obtain ⟨hne, hpre, hpreChars⟩ := catalogKey_text c.checked.pre
  obtain ⟨-, hkey, hkeyChars⟩ := catalogKey_text (packKey_slug hp)
  have heq : c.packLookupKey p = c.lookupPrefix ++ "_pack_" ++ p.key := rfl
  have hpack : ∀ d ∈ "_pack_".toList, isAsciiText d = true := List.all_eq_true.1 (by decide)
  refine cleanText_of_ascii hu ?_ ?_ ?_ hunmarked
  · intro hempty
    have hlength := congrArg String.length (heq.symm.trans hempty)
    simp [String.length_append] at hlength
  · rw [heq]
    simp only [String.toList_append, List.mem_append]
    rintro d ((hd | hd) | hd)
    · exact hpreChars d hd
    · exact hpack d hd
    · exact hkeyChars d hd
  · have hsix : "_pack_".length = 6 := rfl
    rw [heq]
    simp only [String.length_append, hsix]
    omega

end Catalog

/-! ## Offers -/

theorem usd_text (hu : u.Lawful) : CurrencyText u "usd" where
  clean := cleanText_of_ascii hu (by decide) (List.all_eq_true.1 (by decide)) (by decide) (by decide)
  length := by decide
  lower := (hu.lower "usd" (List.all_iff_forall_prop.1 (by decide))).symm

/-- The digits of a short number are clean. -/
theorem number_clean (hu : u.Lawful) {n k maximum : Nat} (hk : 0 < k) (hn : n < 10 ^ k)
    (hmaximum : k ≤ maximum) : CleanText u maximum (toString (n : Int)) := by
  have hdigits : (toString (n : Int)).toList = Nat.toDigits 10 n := by
    show (toString n).toList = _
    rw [Nat.toString_eq_repr, Nat.toList_repr]
  have hplain : PlainText (toString (n : Int)) k := by
    constructor
    · rw [← String.length_toList, hdigits]
      exact (Nat.length_toDigits_le_iff (by decide) hk).2 hn
    · rw [hdigits]
      exact fun c hc => digit_plain (Nat.isDigit_of_mem_toDigits (by decide) (by decide) hc)
  refine hplain.clean hu ?_ hmaximum
  rw [hdigits]
  exact Nat.toDigits_ne_nil

/-- The credits of a pack are written with at most twenty-six characters. -/
theorem credits_clean (hu : u.Lawful) {atoms : Nat} (h : atoms ≤ maxCreditAtoms) :
    CleanText u 64 (creditDecimal atoms) := by
  -- The literal is a whole part of nineteen digits at most and a fraction of six.
  let d : CreditLiteral := Text.Decimal.ofAtoms (by decide) atoms
  have htext : (creditDecimal atoms).toList = d.whole ++ Text.Decimal.pointed d.fraction :=
    creditDecimal_eq atoms
  have hwhole : d.whole = Nat.toDigits 10 (atoms / 10 ^ 6) := rfl
  have hplain : PlainText (creditDecimal atoms) 26 := by
    constructor
    · have hlength : d.whole.length ≤ 19 := by
        rw [hwhole, Nat.length_toDigits_le_iff (by decide) (by decide)]
        have hmax : maxCreditAtoms < 10 ^ 19 := by decide
        exact (Nat.div_le_self _ _).trans_lt (h.trans_lt hmax)
      have hfraction := d.fraction_length
      have hpointed : (Text.Decimal.pointed d.fraction).length ≤ d.fraction.length + 1 := by
        unfold Text.Decimal.pointed
        split <;> simp
      rw [← String.length_toList, htext, List.length_append]
      omega
    -- Its characters are digits and the point.
    · rw [htext]
      intro c hc
      rcases List.mem_append.1 hc with hc | hc
      · exact digit_plain (d.whole_digits c hc)
      · unfold Text.Decimal.pointed at hc
        split at hc
        · cases hc
        · rcases List.mem_cons.1 hc with rfl | hc
          · decide
          · exact digit_plain (d.fraction_digits c hc)
  -- The whole part is never empty.
  refine hplain.clean hu ?_ (by decide)
  rw [htext, hwhole]
  exact fun hnil => Nat.toDigits_ne_nil (List.append_eq_nil_iff.1 hnil).1

/-- What the settings and the API promise of a gateway. -/
structure StripeGateway.Formed (u : Unicode) (g : StripeGateway) : Prop where
  productLine : CleanText u 200 g.productLine
  apiVersion : CleanText u 64 g.apiVersion

/-- A reservation as `CheckoutCoordinator.reserve` writes it. -/
structure CheckoutClaim.Formed (u : Unicode) (claim : CheckoutClaim) : Prop where
  accountId : UuidText claim.accountId
  claimToken : UuidText claim.claimToken
  customerId : ∀ id ∈ claim.requestCustomerId, StripeIdText u "cus_" id
  opened : 0 ≤ epochSeconds claim.expiresAt
  expiresAt : epochSeconds claim.expiresAt ≤ 253402300799

/-- An order as `CreditPackCoordinator.reserve` writes it. -/
structure PackOrder.Formed (u : Unicode) (o : PackOrder) : Prop where
  id : UuidText o.id
  accountId : UuidText o.accountId
  customerId : ∀ id ∈ o.requestCustomerId, StripeIdText u "cus_" id
  opened : 0 ≤ epochSeconds o.claimExpiresAt
  expiresAt : epochSeconds o.claimExpiresAt ≤ 253402300799

/-- The bounds of the snapshots on an offer. -/
structure WithinBounds (amount : Nat) (lookupKey : String) : Prop where
  amount : amount ≤ 99999999
  unmarked : hasSecretMarker lookupKey.toList = false

/-- The bounds of the snapshots on the URLs of a Checkout. -/
structure Redirects (u : Unicode) (successUrl cancelUrl : String) : Prop where
  successUrl : CleanText u 2048 successUrl
  cancelUrl : CleanText u 2048 cancelUrl

/-- **A plan** can be frozen for a reservation within the bounds of the snapshots. The other checks
    of the builder hold for every reservation of the catalog: its keys are slugs, its currency is
    fixed, and the ids are canonical. -/
theorem CheckoutClaim.admissible_iff (hu : u.Lawful) {c : Catalog u} {g : StripeGateway}
    (hg : g.Formed u) {claim : CheckoutClaim} (hclaim : claim.Formed u) {p : Plan}
    (hp : p ∈ c.planCatalog.plans) {priceId : String} (hprice : StripeIdText u "price_" priceId) :
    (claim.facts c.planCatalog g p priceId).Admissible u ↔
      WithinBounds (p.amount claim.planInterval) (c.planCatalog.lookupKey p claim.planInterval) ∧
        Redirects u (g.subscriptionSuccessUrl p.key claim.planInterval.text)
          g.checkoutCancelUrl := by
  -- The bounds are what the snapshot adds to the checks of the catalog.
  constructor
  · intro h
    exact ⟨⟨Int.ofNat_le.1 h.price.unitAmount, h.price.lookupKey.unmarked⟩, h.successUrl.clean,
      h.cancelUrl.clean⟩
  -- All the other fields are admissible for every plan, claim and gateway.
  · rintro ⟨hbounds, hredirects⟩
    have hpAdmissible := c.planCatalog.admissible p hp
    simp only [Plan.admissible, Bool.and_eq_true, decide_eq_true_eq] at hpAdmissible
    have husd : p.currency = "usd" := hpAdmissible.2
    constructor
    · exact hg.apiVersion
    -- The key has a known layout, whose parts are two ids.
    · have hkey : PlainText ("checkout:" ++ claim.accountId ++ ":" ++ claim.claimToken) 82 :=
        (PlainText.append (PlainText.append (PlainText.append (.literal (by decide) (by decide))
          hclaim.accountId.plain) (.literal (by decide) (by decide))) hclaim.claimToken.plain : PlainText _
            (9 + 36 + 1 + 36))
      exact hkey.clean hu (by simp) (by decide)
    -- The price is checked by the catalog, apart from the amount and the secret marker.
    · constructor
      · exact hprice
      · exact (Catalog.lookupKey_clean hu hp _).2 hbounds.unmarked
      · show CurrencyText u p.currency
        rw [husd]
        exact usd_text hu
      · exact Int.natCast_nonneg _
      · exact Int.ofNat_le.2 hbounds.amount
      · exact hg.productLine
      · exact Catalog.key_clean hu (Catalog.planKey_slug hp)
    · exact hclaim.accountId.clean hu
    · exact ⟨hredirects.successUrl, successUrl_safe hu g (by simp) hredirects.successUrl⟩
    · exact ⟨hredirects.cancelUrl, g.cancel_safe⟩
    · exact hclaim.opened
    · exact hclaim.expiresAt
    · exact hclaim.customerId
    · trivial

/-- **A pack** can be frozen for an order within the bounds of the snapshots. Credits and days are
    bounded by the catalog already, and the rest is canonical. -/
theorem PackOrder.admissible_iff (hu : u.Lawful) {c : Catalog u} {g : StripeGateway}
    (hg : g.Formed u) {o : PackOrder} (ho : o.Formed u) {p : CreditPack}
    (hp : p ∈ c.packCatalog.packs) (hoffers : p.offers (c.packLookupKey p) o = true)
    {priceId : String} (hprice : StripeIdText u "price_" priceId) :
    (o.facts g priceId).Admissible u ↔
      WithinBounds (p.priceUsd * 100) (c.packLookupKey p) ∧
        Redirects u (g.creditPackSuccessUrl p.key) g.checkoutCancelUrl := by
  -- The order repeats what the pack offers, so its bounds are those of the pack.
  simp only [CreditPack.offers, Bool.and_eq_true, decide_eq_true_eq] at hoffers
  obtain ⟨⟨⟨⟨⟨hkey, hcredits⟩, hamount⟩, hcurrency⟩, hdays⟩, hlookup⟩ := hoffers
  rw [← hamount, ← hlookup, ← hkey]
  -- The bounds are what the snapshot adds to the checks of the catalog.
  constructor
  · intro h
    exact ⟨⟨Int.ofNat_le.1 h.price.unitAmount, h.price.lookupKey.unmarked⟩, h.successUrl.clean,
      h.cancelUrl.clean⟩
  · rintro ⟨hbounds, hredirects⟩
    -- The pack comes from the configuration, which has checked its currency, credits and days.
    obtain ⟨⟨key, pack⟩, hmem, rfl⟩ := List.mem_map.1 hp
    have hpack := c.checked.packs key pack hmem
    have husd : o.currency = "usd" := hcurrency.trans hpack.usd
    constructor
    · exact hg.apiVersion
    · have horder : PlainText ("credit-pack:" ++ o.id) 48 :=
        (PlainText.append (.literal (by decide) (by decide)) ho.id.plain : PlainText _ (12 + 36))
      exact horder.clean hu (by simp) (by decide)
    -- The price is checked by the catalog, apart from the amount and the secret marker.
    · constructor
      · exact hprice
      · show CleanText u 200 o.priceLookupKey
        rw [hlookup]
        exact (Catalog.packLookupKey_clean hu hp).2 (hlookup ▸ hbounds.unmarked)
      · show CurrencyText u o.currency
        rw [husd]
        exact usd_text hu
      · exact Int.natCast_nonneg _
      · exact Int.ofNat_le.2 hbounds.amount
      · exact hg.productLine
      · show CleanText u 64 o.packKey
        rw [hkey]
        exact Catalog.key_clean hu (Catalog.packKey_slug hp)
    · exact ho.accountId.clean hu
    · exact ⟨hredirects.successUrl, successUrl_safe hu g (by simp) hredirects.successUrl⟩
    · exact ⟨hredirects.cancelUrl, g.cancel_safe⟩
    · exact ho.opened
    · exact ho.expiresAt
    · exact ho.customerId
    -- Id, credits and days are the three texts of the metadata.
    · refine ⟨ho.id.clean hu, ?_, ?_⟩
      · rw [hcredits]
        exact credits_clean hu hpack.credits.2
      · have hlimit := hpack.expiresDays.2
        rw [hdays]
        exact number_clean (k := 4) hu (by decide) (by dsimp only [CatalogPack.toCreditPack]; omega)
          (by decide)

/-! ## Plan changes -/

/-- What the reservation, the gateway and the settings promise of a change between two plans. -/
structure PlanChangePreview.Formed (u : Unicode) (catalog : PlanCatalog)
    (settings : PlanChangeSettings) (row : PlanChange) (source target : Plan)
    (preview : PlanChangePreview) : Prop where
  fromPlan : preview.decision.fromPlan = source.key
  targetPlan : preview.decision.targetPlan = target.key
  timing : preview.decision.timing ≠ .noop
  context : preview.context.Formed u
  currentLookupKey : preview.context.currentLookupKey =
    catalog.lookupKey source preview.decision.fromInterval
  subscriptionId : preview.context.subscriptionId = row.stripeSubscriptionId
  dated : DatedDelta preview.decision.timing preview.decision.policy
    (preview.prorationDate.or row.prorationDate)
  id : UuidText row.id
  stripeRequestKey : row.stripeRequestKey = "plan-change:" ++ row.id
  productLine : CleanText u 200 settings.productLine
  apiVersion : CleanText u 64 settings.apiVersion

theorem PriceTerms.admissible_iff (hu : u.Lawful) {c : Catalog u} {p : Plan}
    (hp : p ∈ c.planCatalog.plans) (i : Interval) :
    (c.planCatalog.terms p i).Admissible u ↔
      WithinBounds (p.amount i) (c.planCatalog.lookupKey p i) := by
  constructor
  · exact fun h => ⟨h.unitAmount, h.lookupKey.unmarked⟩
  · intro h
    have hpAdmissible := c.planCatalog.admissible p hp
    simp only [Plan.admissible, Bool.and_eq_true, decide_eq_true_eq] at hpAdmissible
    refine ⟨(Catalog.lookupKey_clean hu hp i).2 h.unmarked,
      Catalog.key_clean hu (Catalog.planKey_slug hp), ?_, h.amount⟩
    show CurrencyText u p.currency
    rw [hpAdmissible.2]
    exact usd_text hu

/-- **A change** can be frozen within the bounds of the snapshots, which both its Prices have to
    keep. The context comes from Stripe's objects, which the preview has checked. -/
theorem PlanChangePreview.admissible_iff (hu : u.Lawful) {c : Catalog u}
    {settings : PlanChangeSettings} {row : PlanChange} {source target : Plan}
    {preview : PlanChangePreview} (hsource : source ∈ c.planCatalog.plans)
    (htarget : target ∈ c.planCatalog.plans)
    (h : preview.Formed u c.planCatalog settings row source target) :
    (preview.facts settings c.planCatalog row source target).Admissible u ↔
      WithinBounds (source.amount preview.decision.fromInterval)
          (c.planCatalog.lookupKey source preview.decision.fromInterval) ∧
        WithinBounds (target.amount preview.decision.targetInterval)
          (c.planCatalog.lookupKey target preview.decision.targetInterval) := by
  -- Source and target have bounds of their own.
  rw [← PriceTerms.admissible_iff hu hsource, ← PriceTerms.admissible_iff hu htarget]
  constructor
  · exact fun hfacts => ⟨hfacts.source, hfacts.target⟩
  -- The context comes from Stripe's objects, which the preview has checked.
  · rintro ⟨hsourceTerms, htargetTerms⟩
    constructor
    · refine ⟨h.context, ?_⟩
      show CleanText u 200 preview.context.currentLookupKey
      rw [h.currentLookupKey]
      exact hsourceTerms.lookupKey
    · exact h.apiVersion
    -- The key is the plan change's id and the suffix of the timing.
    · show CleanText u 255 (requestIdempotencyKey row.stripeRequestKey preview.decision.timing)
      have hsuffix : PlainText preview.decision.timing.suffix 8 := by
        cases preview.decision.timing <;> exact .literal (by decide) (by decide)
      have hkey : PlainText ("plan-change:" ++ row.id ++ ":" ++ preview.decision.timing.suffix)
          (12 + 36 + 1 + 8) :=
        PlainText.append (PlainText.append (PlainText.append (.literal (by decide) (by decide))
          h.id.plain) (.literal (by decide) (by decide))) hsuffix
      rw [requestIdempotencyKey, h.stripeRequestKey]
      exact hkey.clean hu (by simp) (by decide)
    · exact h.productLine
    · exact hsourceTerms
    · exact htargetTerms
    · exact h.currentLookupKey.symm
    · exact h.dated

/-! ## The offers of a catalog -/

/-- The expectations of a reservation are met by what is frozen for it. -/
theorem CheckoutClaim.met {c : PlanCatalog} {g : StripeGateway} {claim : CheckoutClaim} {p : Plan}
    (hplan : claim.planKey = p.key) (priceId : String) :
    (claim.preparedExpectations (c.lookupKey p claim.planInterval) p.currency
      (p.amount claim.planInterval)).Met u (claim.facts c g p priceId) where
  check := by
    simp only [CheckoutExpectations.check, bind_eq_ok, expectCheckout_eq_ok,
      CheckoutClaim.preparedExpectations, CheckoutClaim.expectations, Option.mem_def]
    refine ⟨(), ?_, (), ?_, (), ?_, (), ?_, (), ?_, (), ?_, (), ?_, (), ?_, (), ?_, ?_⟩ <;>
      rintro x ⟨⟩
    all_goals first | rfl | exact hplan
  customer := by
    simp only [CheckoutExpectations.checkCustomer, CheckoutClaim.preparedExpectations,
      CheckoutClaim.expectations, bind_eq_ok, require_eq_ok, decide_eq_true_eq]
    refine ⟨(), rfl, ?_⟩
    show (claim.requestCustomerId.isSome || decide ((if claim.requestCustomerId.isSome
      then CustomerMode.existing else .create) = .create)) = true
    cases claim.requestCustomerId <;> rfl
  packCredits := rfl
  expiresDays := rfl

/-- The expectations of an order are met by what is frozen for it. -/
theorem PackOrder.met (hu : u.Lawful) {g : StripeGateway} {o : PackOrder} (hdays : 0 < o.expiresDays)
    (hcredits : o.packCredits ≤ maxCreditAtoms) (priceId : String) :
    (o.expectations (creditDecimal o.packCredits)).Met u (o.facts g priceId) where
  check := by
    simp only [CheckoutExpectations.check, bind_eq_ok, expectCheckout_eq_ok,
      PackOrder.expectations, Option.mem_def]
    refine ⟨(), ?_, (), ?_, (), ?_, (), ?_, (), ?_, (), ?_, (), ?_, (), ?_, (), ?_, ?_⟩ <;>
      rintro x ⟨⟩
    all_goals rfl
  customer := by
    simp only [CheckoutExpectations.checkCustomer, PackOrder.expectations, bind_eq_ok,
      require_eq_ok, decide_eq_true_eq]
    refine ⟨(), rfl, ?_⟩
    show (o.requestCustomerId.isSome || decide ((if o.requestCustomerId.isSome
      then CustomerMode.existing else .create) = .create)) = true
    cases o.requestCustomerId <;> rfl
  packCredits := by
    simp only [CheckoutExpectations.checkPackCredits, PackOrder.expectations, bind_eq_ok,
      require_eq_ok, snapshotText_eq_ok, decide_eq_true_eq]
    exact ⟨(), rfl, creditDecimal o.packCredits, ⟨rfl, credits_clean hu hcredits⟩, rfl⟩
  expiresDays := by
    simp only [CheckoutExpectations.checkExpiresDays, PackOrder.expectations, require_eq_ok,
      Bool.and_eq_true, decide_eq_true_eq]
    exact ⟨⟨⟨rfl, by omega⟩, rfl⟩, rfl⟩

/-- What a catalog offers can be frozen, and is accepted back, exactly within the bounds of the
    snapshots. -/
structure Catalog.OffersFrozen (c : Catalog u) (g : StripeGateway) : Prop where
  subscription : ∀ {claim : CheckoutClaim} {p : Plan} {priceId : String}, claim.Formed u →
    p ∈ c.planCatalog.plans → claim.planKey = p.key → StripeIdText u "price_" priceId →
      ((∃ v, (claim.facts c.planCatalog g p priceId).build u = .ok v ∧
          validateCheckoutRequestSnapshot u v (claim.preparedExpectations
            (c.planCatalog.lookupKey p claim.planInterval) p.currency
            (p.amount claim.planInterval)) = .ok v) ↔
        WithinBounds (p.amount claim.planInterval)
            (c.planCatalog.lookupKey p claim.planInterval) ∧
          Redirects u (g.subscriptionSuccessUrl p.key claim.planInterval.text)
            g.checkoutCancelUrl)
  creditPack : ∀ {o : PackOrder} {p : CreditPack} {priceId : String}, o.Formed u →
    p ∈ c.packCatalog.packs → p.offers (c.packLookupKey p) o = true →
      StripeIdText u "price_" priceId →
      ((∃ v, (o.facts g priceId).build u = .ok v ∧
          validateCheckoutRequestSnapshot u v (o.expectations (creditDecimal o.packCredits)) =
            .ok v) ↔
        WithinBounds (p.priceUsd * 100) (c.packLookupKey p) ∧
          Redirects u (g.creditPackSuccessUrl p.key) g.checkoutCancelUrl)
  planChange : ∀ {settings : PlanChangeSettings} {cfg : Config} {row : PlanChange}
    {source target : Plan} {preview : PlanChangePreview}, cfg.catalog = c.planCatalog →
    cfg.unicode = u → source ∈ c.planCatalog.plans → target ∈ c.planCatalog.plans →
    preview.Formed u c.planCatalog settings row source target →
      ((∃ v, buildRequestSnapshot settings cfg row preview = .ok v ∧
          validatePlanChangeRequestSnapshot u v {
            idempotencyKey :=
              some (requestIdempotencyKey row.stripeRequestKey preview.decision.timing)
            subscriptionId := some row.stripeSubscriptionId
            timing := some preview.decision.timing
            policy := some preview.decision.policy } = .ok v) ↔
        WithinBounds (source.amount preview.decision.fromInterval)
            (c.planCatalog.lookupKey source preview.decision.fromInterval) ∧
          WithinBounds (target.amount preview.decision.targetInterval)
            (c.planCatalog.lookupKey target preview.decision.targetInterval))

/-- Facts are frozen and accepted by what they meet exactly when they are admissible. -/
theorem CheckoutFacts.frozen_iff (hu : u.Lawful) {x : CheckoutFacts} {e : CheckoutExpectations}
    (he : e.Met u x) :
    (∃ v, x.build u = .ok v ∧ validateCheckoutRequestSnapshot u v e = .ok v) ↔
      x.Admissible u := by
  constructor
  · rintro ⟨v, hbuild, -⟩
    exact CheckoutFacts.admissible_of_build hbuild
  · intro h
    exact ⟨x.spelled, h.build hu, h.validate hu he⟩

/-- **What a catalog offers** can be frozen exactly within the bounds of the snapshots: a plan, a
    pack or a change is built into a request that its validator accepts if and only if its amount
    and lookup key stay within the bounds and the gateway's redirects are visible and short enough.
    -/
theorem offers_frozen (hu : u.Lawful) (c : Catalog u) {g : StripeGateway} (hg : g.Formed u) :
    c.OffersFrozen g where
  subscription := by
    -- The claim meets the expectations, so freezing is admissibility, and that is the bounds.
    intro claim p priceId hclaim hp hplan hprice
    rw [CheckoutFacts.frozen_iff hu (claim.met hplan priceId)]
    exact CheckoutClaim.admissible_iff hu hg hclaim hp hprice
  creditPack := by
    intro o p priceId ho hp hoffers hprice
    -- The expectations of an order ask for a positive number of days and for bounded credits.
    have hbounds : 0 < o.expiresDays ∧ o.packCredits ≤ maxCreditAtoms := by
      obtain ⟨⟨key, pack⟩, hmem, rfl⟩ := List.mem_map.1 hp
      have hpack := c.checked.packs key pack hmem
      have hdays := hpack.expiresDays.1
      simp only [CreditPack.offers, Bool.and_eq_true, decide_eq_true_eq] at hoffers
      obtain ⟨⟨⟨⟨⟨-, hcredits⟩, -⟩, -⟩, hexpires⟩, -⟩ := hoffers
      rw [hcredits, hexpires]
      refine ⟨?_, hpack.credits.2⟩
      dsimp only [CatalogPack.toCreditPack]
      omega
    rw [CheckoutFacts.frozen_iff hu (o.met hu hbounds.1 hbounds.2 priceId)]
    exact PackOrder.admissible_iff hu hg ho hp hoffers hprice
  planChange := by
    intro settings cfg row source target preview hcatalog hunicode hsource htarget hpreview
    -- The coordinator looks both plans up in the catalog and builds from what it finds.
    have hbuild : buildRequestSnapshot settings cfg row preview =
        buildPlanChangeRequestSnapshot u
          (preview.facts settings c.planCatalog row source target) := by
      simp only [buildRequestSnapshot, PlanCatalog.require, hcatalog, hunicode,
        hpreview.fromPlan, hpreview.targetPlan, PlanCatalog.plan?_eq hsource,
        PlanCatalog.plan?_eq htarget]
      rfl
    rw [← PlanChangePreview.admissible_iff hu hsource htarget hpreview]
    -- It is enough that the builder accepts; the stored text is then accepted as well.
    constructor
    · rintro ⟨v, hv, -⟩
      rw [hbuild] at hv
      exact ((PlanChangeFacts.build_eq_ok hu hpreview.timing).1 hv).1
    · intro h
      refine ⟨_, hbuild.trans ((PlanChangeFacts.build_eq_ok hu hpreview.timing).2 ⟨h, rfl⟩),
        h.validate hu hpreview.timing ?_⟩
      have hsubscription : row.stripeSubscriptionId = preview.context.subscriptionId :=
        hpreview.subscriptionId.symm
      simp [SnapshotExpectations.check, PlanChangePreview.facts, hsubscription, bind_eq_ok]

/-! ## A catalog at both sides of the bounds -/

/-- Two plans whose prices the constructor admits. -/
def steepArguments : CatalogArguments where
  plans := [
    ("pro", { key := "pro", name := "Pro", description := "Pro", rank := 1,
              monthlyCredits := 1000000000, monthUsd := 49, yearUsd := 353 }),
    ("estate", { key := "estate", name := "Estate", description := "Estate", rank := 2,
                 monthlyCredits := 4000000000, monthUsd := 1000000, yearUsd := 9000000 })]
  plans_nodup := by decide
  packs_nodup := by decide

def steepCatalog : Catalog asciiUnicode where
  toCatalogArguments := steepArguments
  accepted := by decide +kernel

/-- The gateway with the defaults of its constructor. -/
def referenceGateway : StripeGateway where
  success_safe := by decide +kernel
  cancel_safe := by decide +kernel

theorem referenceGateway_formed : referenceGateway.Formed asciiUnicode :=
  ⟨by decide +kernel, by decide +kernel⟩

def formedClaim : CheckoutClaim where
  accountId := referenceAccountId
  claimToken := "00000000-0000-0000-0000-000000000002"
  planKey := "pro"
  planInterval := .month
  expiresAt := 1700001800000000

theorem formedClaim_formed : formedClaim.Formed asciiUnicode :=
  ⟨⟨by decide, List.all_iff_forall_prop.1 (by decide)⟩,
    ⟨by decide, List.all_iff_forall_prop.1 (by decide)⟩, nofun, by decide, by decide⟩

/-- The plan at 49 a month can be bought. -/
theorem offers_frozen_pro : ∃ v,
    (formedClaim.facts steepCatalog.planCatalog referenceGateway
      { key := "pro", rank := 1, monthlyCredits := 1000000000, monthUsd := 49, yearUsd := 353 }
      "price_2").build asciiUnicode = .ok v := by
  have hfrozen := (offers_frozen asciiUnicode_lawful steepCatalog
    referenceGateway_formed).subscription formedClaim_formed
    (p := { key := "pro", rank := 1, monthlyCredits := 1000000000, monthUsd := 49, yearUsd := 353 })
    (by decide) rfl (show StripeIdText asciiUnicode "price_" "price_2" by decide +kernel)
  obtain ⟨v, hv, -⟩ := hfrozen.2 ⟨⟨by decide, by decide +kernel⟩, by decide +kernel,
    by decide +kernel⟩
  exact ⟨v, hv⟩

/-- The plan at a million a month is admitted, and no Checkout of it can be frozen. -/
theorem estate_rejected : ∃ p ∈ steepCatalog.planCatalog.plans,
    ∀ (g : StripeGateway) (claim : CheckoutClaim) (priceId : String) (v : Json),
      (claim.facts steepCatalog.planCatalog g p priceId).build asciiUnicode ≠ .ok v := by
  refine ⟨{ key := "estate", rank := 2, monthlyCredits := 4000000000, monthUsd := 1000000,
            yearUsd := 9000000 }, by decide, fun g claim priceId v hbuild => ?_⟩
  have hamount := (CheckoutFacts.admissible_of_build hbuild).price.unitAmount
  have hbound := Int.ofNat_le.1 hamount
  revert hbound
  show ¬ Plan.amount _ claim.planInterval ≤ 99999999
  cases claim.planInterval <;> decide

end StripeEntitlements
