import StripeEntitlements.Parity.Runtime

/-!
# Price Policies in Two Runtimes

`price_policy.py` and `price-policy.ts`: the recurring Price of a plan and the one-time Price
of a credit pack against the catalog. Python looks tax behaviours, and the metadata of packs,
up in sets, which raises for lists and objects; and only TypeScript wants the currency of a
pack in lower case. `lower` is the lowercase mapping both standard libraries have.

## Main results

- `catalogPriceMatches_agree` — the recurring Prices both runtimes read alike
- `catalogOneTimePriceMatches_agree` — the one-time Prices both runtimes read alike
-/

namespace StripeEntitlements

/-! ## Expectations -/

structure CatalogPriceExpectation where
  currency : String
  unitAmount : Int
  interval : String
  productLine : String
  planKey : String
  lookupKey : Option String := none
  priceId : Option String := none
  requireActive : Bool := true

structure CatalogOneTimePriceExpectation where
  currency : String
  unitAmount : Int
  productLine : String
  packKey : String
  lookupKey : String
  requireActive : Bool := true

/-! ## Python -/

namespace Python

/-- `catalog_price_matches` up to the currency options and the tax behaviour. -/
def recurringTerms (lower : String → String) (price : Json) (x : CatalogPriceExpectation) : Bool :=
  let recurring := price.get "recurring"
  let product := price.get "product"
  let currency := price.get "currency"
  let active (value : Json) : Bool := !value.has "active" || (value.get "active").isTrue
  recurring.isObj && product.isObj && (!x.requireActive || (active price && active product)) &&
    catalogIdentityMatches price product x.productLine x.planKey &&
    x.lookupKey.all (fun key => (price.get "lookup_key").asStr = some key) &&
    x.priceId.all (fun id => (price.get "id").asStr = some id) &&
    currency.asStr.any (fun c => c = lower c) && currency.asStr = some x.currency &&
    (price.get "unit_amount").asInt = some x.unitAmount &&
    (recurring.get "interval").asStr = some x.interval &&
    (!recurring.has "interval_count" || (recurring.get "interval_count").asInt = some 1) &&
    recurring.isDefault "usage_type" "licensed" && price.isDefault "type" "recurring" &&
    price.isDefault "billing_scheme" "per_unit" && (price.get "tiers_mode").isNull &&
    (price.get "transform_quantity").isNull && (price.get "custom_unit_amount").isNull

/-- `catalog_price_matches`. -/
def catalogPriceMatches (lower : String → String) (price : Json) (x : CatalogPriceExpectation) :
    Transaction Bool :=
  onMapping price do
    if recurringTerms lower price x then do
      let options ← currencyOptionsMatch (price.get "currency_options") x.currency x.unitAmount
      if options then (price.get "tax_behavior").isNullOr "unspecified" else pure false
    else
      pure false

/-- One metadata block of `catalog_one_time_price_matches`. -/
def packMetadataMatches (x : CatalogOneTimePriceExpectation) (metadata : Json) :
    Transaction Bool :=
  if metadata.isNull then .ok true
  else if !metadata.isObj then .ok false
  else do
    let productLine ← (metadata.get "product_line").isNullOr x.productLine
    if productLine then do
      let pack ← (metadata.get "credit_pack").isNullOr x.packKey
      pure (pack && (metadata.get "plan").isNull)
    else
      pure false

/-- `catalog_one_time_price_matches` between the metadata and the tax behaviour. -/
def oneTimeTerms (price : Json) (x : CatalogOneTimePriceExpectation) : Bool :=
  (!x.requireActive ||
      ((price.get "active").isTrue && ((price.get "product").get "active").isTrue)) &&
    (price.get "lookup_key").asStr = some x.lookupKey && price.isDefault "type" "one_time" &&
    (price.get "recurring").isNull && (price.get "currency").asStr = some x.currency &&
    (price.get "unit_amount").asInt = some x.unitAmount &&
    price.isDefault "billing_scheme" "per_unit" && (price.get "tiers_mode").isNull &&
    (price.get "transform_quantity").isNull && (price.get "custom_unit_amount").isNull

/-- `catalog_one_time_price_matches`. -/
def catalogOneTimePriceMatches (price : Json) (x : CatalogOneTimePriceExpectation) :
    Transaction Bool :=
  onMapping price do
    if (price.get "product").isObj then do
      let own ← packMetadataMatches x (price.get "metadata")
      if own then do
        let product ← packMetadataMatches x ((price.get "product").get "metadata")
        if product then
          if oneTimeTerms price x then do
            let tax ← (price.get "tax_behavior").isNullOr "unspecified"
            if tax then
              currencyOptionsMatch (price.get "currency_options") x.currency x.unitAmount
            else
              pure false
          else
            pure false
        else
          pure false
      else
        pure false
    else
      pure false

end Python

/-! ## TypeScript -/

namespace TypeScript

/-- `currencyOptionsMatch`. -/
def currencyOptionsMatch (value : Json) (expectedCurrency : String) (expectedUnitAmount : Int) :
    Bool :=
  match value with
  | .null | .obj [] => true
  | .obj members =>
      let option := value.get expectedCurrency
      members.all (·.1 = expectedCurrency) && option.isObj &&
        safeInteger (option.get "unit_amount") = some expectedUnitAmount &&
        isAbsent (option.get "custom_unit_amount") &&
        isAbsentOr (option.get "tax_behavior") "unspecified"
  | _ => false

/-- One metadata block of `catalogIdentityMatches`. -/
def identityMatches (productLine planKey : String) (metadata : Json) : Bool :=
  isAbsent metadata ||
    (metadata.isObj && isAbsentOr (metadata.get "product_line") productLine &&
      isAbsentOr (metadata.get "plan") planKey)

/-- `ownValueOrDefault(value, "active", true) === true`. -/
def ownActive (value : Json) : Bool := !value.has "active" || (value.get "active").isTrue

/-- `catalogPriceMatches`. -/
def catalogPriceMatches (lower : String → String) (price : Json) (x : CatalogPriceExpectation) :
    Bool :=
  let recurring := price.get "recurring"
  let product := price.get "product"
  let currency := price.get "currency"
  price.isObj && (safeInteger (.int x.unitAmount)).isSome && recurring.isObj && product.isObj &&
    (!x.requireActive || (ownActive price && ownActive product)) &&
    identityMatches x.productLine x.planKey (price.get "metadata") &&
    identityMatches x.productLine x.planKey (product.get "metadata") &&
    x.lookupKey.all (fun key => (price.get "lookup_key").asStr = some key) &&
    x.priceId.all (fun id => (price.get "id").asStr = some id) &&
    currency.asStr.any (fun c => c = lower c) && currency.asStr = some x.currency &&
    safeInteger (price.get "unit_amount") = some x.unitAmount &&
    (recurring.get "interval").asStr = some x.interval &&
    (!recurring.has "interval_count" || safeInteger (recurring.get "interval_count") = some 1) &&
    ownValueOrDefault recurring "usage_type" "licensed" &&
    ownValueOrDefault price "type" "recurring" &&
    ownValueOrDefault price "billing_scheme" "per_unit" && isAbsent (price.get "tiers_mode") &&
    isAbsent (price.get "transform_quantity") && isAbsent (price.get "custom_unit_amount") &&
    currencyOptionsMatch (price.get "currency_options") x.currency x.unitAmount &&
    isAbsentOr (price.get "tax_behavior") "unspecified"

/-- One metadata block of `catalogOneTimePriceMatches`. -/
def packMetadataMatches (x : CatalogOneTimePriceExpectation) (metadata : Json) : Bool :=
  isAbsent metadata ||
    (metadata.isObj && isAbsentOr (metadata.get "product_line") x.productLine &&
      isAbsentOr (metadata.get "credit_pack") x.packKey && isAbsent (metadata.get "plan"))

/-- `catalogOneTimePriceMatches`. -/
def catalogOneTimePriceMatches (lower : String → String) (price : Json)
    (x : CatalogOneTimePriceExpectation) : Bool :=
  let product := price.get "product"
  let currency := price.get "currency"
  price.isObj && (safeInteger (.int x.unitAmount)).isSome && product.isObj &&
    packMetadataMatches x (price.get "metadata") &&
    packMetadataMatches x (product.get "metadata") &&
    (!x.requireActive || ((price.get "active").isTrue && (product.get "active").isTrue)) &&
    (price.get "lookup_key").asStr = some x.lookupKey &&
    ownValueOrDefault price "type" "one_time" && isAbsent (price.get "recurring") &&
    currency.asStr.any (fun c => c = lower c) && currency.asStr = some x.currency &&
    safeInteger (price.get "unit_amount") = some x.unitAmount &&
    ownValueOrDefault price "billing_scheme" "per_unit" && isAbsent (price.get "tiers_mode") &&
    isAbsent (price.get "transform_quantity") && isAbsent (price.get "custom_unit_amount") &&
    isAbsentOr (price.get "tax_behavior") "unspecified" &&
    currencyOptionsMatch (price.get "currency_options") x.currency x.unitAmount

end TypeScript

/-! ## Tests that raise -/

/-- Python answers a test as TypeScript does where the value is readable, and raises where it
    is not; there TypeScript refuses. -/
structure Looks (python : Transaction Bool) (typescript readable : Bool) : Prop where
  answered : readable = true → python = .ok typescript
  raised : readable = false → typescript = false ∧ ∃ failure, python = .error failure

namespace Looks

variable {p q : Transaction Bool} {t u r r' : Bool}

/-- A test that Python answers in any case. -/
theorem of_ok (h : p = .ok t) : Looks p t true := ⟨fun _ => h, fun hr => by cases hr⟩

theorem isNullOr (v : Json) (expected : String) :
    Looks (v.isNullOr expected) (TypeScript.isAbsentOr v expected) v.hashable where
  answered h := by rw [TypeScript.isNullOr_eq, if_pos h]
  raised h := by
    constructor
    · by_contra habsent
      rw [Bool.not_eq_false] at habsent
      rw [TypeScript.isAbsentOr_hashable habsent] at h
      cases h
    · exact ⟨_, by rw [TypeScript.isNullOr_eq, if_neg (by simp [h])]⟩

/-- The second of two tests is only made where the first accepts. -/
theorem andThen (hp : Looks p t r) (hq : Looks q u r') :
    Looks (do if ← p then q else pure false) (t && u) (r && (!t || r')) := by
  constructor
  · intro h
    rw [Bool.and_eq_true] at h
    rw [hp.answered h.1]
    cases t with
    | false => rfl
    | true => exact hq.answered h.2
  · intro h
    cases hreadable : r with
    | false =>
      obtain ⟨ht, failure, hfail⟩ := hp.raised hreadable
      rw [ht, hfail]
      exact ⟨rfl, failure, rfl⟩
    | true =>
      rw [hreadable, Bool.true_and, Bool.or_eq_false_iff, Bool.not_eq_false'] at h
      obtain ⟨hu, failure, hfail⟩ := hq.raised h.2
      rw [hp.answered hreadable, h.1, hu]
      exact ⟨rfl, failure, hfail⟩

/-- A test together with a condition that raises nothing. -/
theorem andOk (hp : Looks p t r) (c : Bool) : Looks (do let a ← p; pure (a && c)) (t && c) r := by
  constructor
  · intro h
    rw [hp.answered h]
    rfl
  · intro h
    obtain ⟨ht, failure, hfail⟩ := hp.raised h
    rw [ht, hfail]
    exact ⟨rfl, failure, rfl⟩

/-- The runtimes agree on two tests exactly where Python can read the first, and they agree on
    the second if the first accepts. -/
theorem agree (hp : Looks p t r) (hq : q = .ok u ↔ r' = true) :
    (do if ← p then q else pure false) = .ok (t && u) ↔ (r && (!t || r')) = true := by
  cases hreadable : r with
  | false =>
    obtain ⟨-, failure, hfail⟩ := hp.raised hreadable
    rw [hfail]
    constructor
    · intro h
      cases h
    · intro h
      cases h
  | true =>
    rw [hp.answered hreadable]
    cases t with
    | false => exact ⟨fun _ => rfl, fun _ => rfl⟩
    | true => exact hq

/-- A further condition of TypeScript alone is met, or the test refuses anyway. -/
theorem stricter (hp : Looks p t r) (l : Bool) :
    p = .ok (t && l) ↔ (r && (l || !t)) = true := by
  cases hreadable : r with
  | false =>
    obtain ⟨-, failure, hfail⟩ := hp.raised hreadable
    rw [hfail]
    constructor
    · intro h
      cases h
    · intro h
      cases h
  | true =>
    rw [hp.answered hreadable]
    cases t <;> cases l <;> simp

theorem iff (hp : Looks p t r) : p = .ok t ↔ r = true := by
  simpa using hp.stricter true

end Looks

/-! ## Currency options -/

namespace Python

/-- `_currency_options_match` of a non-empty mapping up to the tax behaviour. -/
def currencyOptionFits (value : Json) (expectedCurrency : String) (expectedUnitAmount : Int) :
    Bool :=
  match value with
  | .obj members =>
      let option := value.get expectedCurrency
      members.all (·.1 = expectedCurrency) && option.isObj &&
        (option.get "unit_amount").asInt = some expectedUnitAmount &&
        (option.get "custom_unit_amount").isNull
  | _ => false

end Python

/-- No list or object stands for the tax behaviour of an option that fits. -/
def currencyOptionsReadAlike (value : Json) (expectedCurrency : String)
    (expectedUnitAmount : Int) : Bool :=
  !Python.currencyOptionFits value expectedCurrency expectedUnitAmount ||
    ((value.get expectedCurrency).get "tax_behavior").hashable

theorem Looks.currencyOptions {value : Json} (hsafe : value.safe = true)
    (expectedCurrency : String) (expectedUnitAmount : Int) :
    Looks (currencyOptionsMatch value expectedCurrency expectedUnitAmount)
      (TypeScript.currencyOptionsMatch value expectedCurrency expectedUnitAmount)
      (currencyOptionsReadAlike value expectedCurrency expectedUnitAmount) := by
  cases value with
  | obj members =>
    match members with
    | [] => exact .of_ok rfl
    | first :: rest =>
      have hamount := TypeScript.safeInteger_eq (Json.safe_get (Json.safe_get hsafe
        expectedCurrency) "unit_amount")
      have htax := Looks.isNullOr (((Json.obj (first :: rest)).get expectedCurrency).get
        "tax_behavior") "unspecified"
      simp only [StripeEntitlements.currencyOptionsMatch, TypeScript.currencyOptionsMatch,
        currencyOptionsReadAlike, Python.currencyOptionFits, hamount, TypeScript.isAbsent]
      generalize (List.all _ _ && _ && _ && _) = fits
      cases fits with
      | false => exact .of_ok rfl
      | true => exact htax
  | _ => exact .of_ok rfl

/-! ## Recurring Prices -/

theorem TypeScript.identityMatches_eq (productLine planKey : String) (metadata : Json) :
    identityMatches productLine planKey metadata =
      metadataIdentityMatches productLine planKey metadata := rfl

/-- The safe amount of a Price is no unsafe one. -/
theorem TypeScript.unsafeAmount {price : Json} {amount : Int} (hsafe : price.safe = true)
    (hamount : (safeInteger (.int amount)).isSome = false) :
    decide ((price.get "unit_amount").asInt = some amount) = false := by
  rw [decide_eq_false_iff_not, ← safeInteger_eq (Json.safe_get hsafe "unit_amount")]
  intro heq
  have hint := safeInteger_eq_some heq
  rw [hint] at hamount
  cases hamount

/-- The recurring Price is read alike: where its terms fit, no list or object stands for a tax
    behaviour. -/
def catalogPriceReadAlike (lower : String → String) (price : Json) (x : CatalogPriceExpectation) :
    Bool :=
  let options := price.get "currency_options"
  !Python.recurringTerms lower price x ||
    (currencyOptionsReadAlike options x.currency x.unitAmount &&
      (!TypeScript.currencyOptionsMatch options x.currency x.unitAmount ||
        (price.get "tax_behavior").hashable))

/-- TypeScript makes the same tests, and one of the expectation that holds wherever the amount
    of a safe Price fits. -/
theorem TypeScript.catalogPriceMatches_eq {lower : String → String} {price : Json}
    {x : CatalogPriceExpectation} (hsafe : price.safe = true) (hobject : price.isObj = true) :
    catalogPriceMatches lower price x = (Python.recurringTerms lower price x &&
      (currencyOptionsMatch (price.get "currency_options") x.currency x.unitAmount &&
        isAbsentOr (price.get "tax_behavior") "unspecified")) := by
  have hamount := safeInteger_eq (Json.safe_get hsafe "unit_amount")
  have hcount := safeInteger_eq (Json.safe_get (Json.safe_get hsafe "recurring") "interval_count")
  cases hexpected : (safeInteger (.int x.unitAmount)).isSome with
  | false =>
    simp only [catalogPriceMatches, Python.recurringTerms, hexpected,
      unsafeAmount hsafe hexpected, Bool.and_false, Bool.false_and]
  | true =>
    simp only [catalogPriceMatches, Python.recurringTerms, catalogIdentityMatches,
      identityMatches_eq, hobject, hexpected, hamount, hcount, isAbsent, Bool.true_and,
      Bool.and_assoc]
    rfl

/-- **Recurring Prices** are read alike exactly then. -/
theorem catalogPriceMatches_agree {lower : String → String} {price : Json}
    {x : CatalogPriceExpectation} (hsafe : price.safe = true) :
    Python.catalogPriceMatches lower price x =
        .ok (TypeScript.catalogPriceMatches lower price x) ↔
      price.isObj = true ∧ catalogPriceReadAlike lower price x = true := by
  rw [Python.catalogPriceMatches, Python.onMapping_eq_ok, and_congr_right_iff]
  intro hobject
  rw [TypeScript.catalogPriceMatches_eq hsafe hobject]
  have hterms : Looks (.ok (Python.recurringTerms lower price x))
    (Python.recurringTerms lower price x) true := .of_ok rfl
  have hoptions := Looks.currencyOptions (Json.safe_get hsafe "currency_options") x.currency
    x.unitAmount
  have htax := Looks.isNullOr (price.get "tax_behavior") "unspecified"
  exact hterms.agree (hoptions.andThen htax).iff

/-! ## One-time Prices -/

/-- No list or object stands where Python looks a metadata block of a pack up. -/
def packMetadataReadAlike (x : CatalogOneTimePriceExpectation) (metadata : Json) : Bool :=
  !metadata.isObj || ((metadata.get "product_line").hashable &&
    (!TypeScript.isAbsentOr (metadata.get "product_line") x.productLine ||
      (metadata.get "credit_pack").hashable))

theorem Looks.packMetadata (x : CatalogOneTimePriceExpectation) (metadata : Json) :
    Looks (Python.packMetadataMatches x metadata) (TypeScript.packMetadataMatches x metadata)
      (packMetadataReadAlike x metadata) := by
  unfold Python.packMetadataMatches TypeScript.packMetadataMatches packMetadataReadAlike
  by_cases hobject : metadata.isObj = true
  case neg =>
    rw [Bool.not_eq_true] at hobject
    cases hnull : metadata.isNull with
    | true => simpa [hobject, hnull, TypeScript.isAbsent] using Looks.of_ok rfl
    | false => simpa [hobject, hnull, TypeScript.isAbsent] using Looks.of_ok rfl
  have hpresent : metadata.isNull = false := by
    cases metadata <;> first | rfl | cases hobject
  have htests := (isNullOr (metadata.get "product_line") x.productLine).andThen
    ((isNullOr (metadata.get "credit_pack") x.packKey).andOk (metadata.get "plan").isNull)
  simpa only [hobject, hpresent, TypeScript.isAbsent, Bool.not_true, Bool.false_eq_true, if_false,
    Bool.false_or, Bool.true_and, Bool.and_assoc] using htests

/-- The one-time Price is read alike: where the fields before it fit, no list or object stands
    for a metadata value or a tax behaviour, and a Price that fits altogether is expected in a
    currency in lower case. -/
def catalogOneTimePriceReadAlike (lower : String → String) (price : Json)
    (x : CatalogOneTimePriceExpectation) : Bool :=
  let product := price.get "product"
  let options := price.get "currency_options"
  !product.isObj || (packMetadataReadAlike x (price.get "metadata") &&
    (!TypeScript.packMetadataMatches x (price.get "metadata") ||
      (packMetadataReadAlike x (product.get "metadata") &&
        (!TypeScript.packMetadataMatches x (product.get "metadata") ||
          (!Python.oneTimeTerms price x || ((price.get "tax_behavior").hashable &&
            (!TypeScript.isAbsentOr (price.get "tax_behavior") "unspecified" ||
              (currencyOptionsReadAlike options x.currency x.unitAmount &&
                (x.currency = lower x.currency ||
                  !TypeScript.currencyOptionsMatch options x.currency x.unitAmount)))))))))

/-- TypeScript makes the same tests, one more of the expectation, and the one of its case. -/
theorem TypeScript.catalogOneTimePriceMatches_eq {lower : String → String} {price : Json}
    {x : CatalogOneTimePriceExpectation} (hsafe : price.safe = true)
    (hobject : price.isObj = true) :
    catalogOneTimePriceMatches lower price x = ((price.get "product").isObj &&
      (packMetadataMatches x (price.get "metadata") &&
        (packMetadataMatches x ((price.get "product").get "metadata") &&
          (Python.oneTimeTerms price x && (isAbsentOr (price.get "tax_behavior") "unspecified" &&
            (currencyOptionsMatch (price.get "currency_options") x.currency x.unitAmount &&
              decide (x.currency = lower x.currency))))))) := by
  have hamount := safeInteger_eq (Json.safe_get hsafe "unit_amount")
  -- the case test of TypeScript is a test of the expectation, once the currencies agree
  have hcurrency : ∀ s : Option String, (s.any (fun c => c = lower c) && s = some x.currency) =
      (s = some x.currency && decide (x.currency = lower x.currency)) := by
    intro s
    cases s with
    | none => rfl
    | some c =>
      by_cases hc : c = x.currency
      · subst hc
        simp
      · simp [hc]
  -- an amount that is not a safe integer fails the comparison on both sides
  cases hexpected : (safeInteger (.int x.unitAmount)).isSome with
  | false =>
    simp only [catalogOneTimePriceMatches, Python.oneTimeTerms, hexpected,
      unsafeAmount hsafe hexpected, Bool.and_false, Bool.false_and]
  | true =>
    -- the two currency tests change places, so that the conjunctions can be reordered
    have hswap : ∀ rest : Bool, ((price.get "currency").asStr.any (fun c => c = lower c) &&
        (decide ((price.get "currency").asStr = some x.currency) && rest)) =
        (decide ((price.get "currency").asStr = some x.currency) &&
          (decide (x.currency = lower x.currency) && rest)) := fun rest => by
      rw [← Bool.and_assoc, hcurrency, Bool.and_assoc]
    simp only [catalogOneTimePriceMatches, Python.oneTimeTerms, ownValueOrDefault, Json.isDefault,
      hobject, hexpected, hamount, isAbsent, Bool.true_and, Bool.and_assoc, hswap]
    ac_rfl

/-- **One-time Prices** are read alike exactly then. -/
theorem catalogOneTimePriceMatches_agree {lower : String → String} {price : Json}
    {x : CatalogOneTimePriceExpectation} (hsafe : price.safe = true) :
    Python.catalogOneTimePriceMatches price x =
        .ok (TypeScript.catalogOneTimePriceMatches lower price x) ↔
      price.isObj = true ∧ catalogOneTimePriceReadAlike lower price x = true := by
  rw [Python.catalogOneTimePriceMatches, Python.onMapping_eq_ok, and_congr_right_iff]
  intro hobject
  rw [TypeScript.catalogOneTimePriceMatches_eq hsafe hobject]
  have hproduct : Looks (.ok (price.get "product").isObj) (price.get "product").isObj true :=
    .of_ok rfl
  have hterms : Looks (.ok (Python.oneTimeTerms price x)) (Python.oneTimeTerms price x) true :=
    .of_ok rfl
  have hown := Looks.packMetadata x (price.get "metadata")
  have hmetadata := Looks.packMetadata x ((price.get "product").get "metadata")
  have htax := Looks.isNullOr (price.get "tax_behavior") "unspecified"
  have hoptions := Looks.currencyOptions (Json.safe_get hsafe "currency_options") x.currency
    x.unitAmount
  exact hproduct.agree (hown.agree (hmetadata.agree (hterms.agree (htax.agree
    (hoptions.stricter _)))))

end StripeEntitlements
