import StripeEntitlements.Json
import StripeEntitlements.Statements

/-!
# Catalog, Price and Invoice Policy

`catalog.py` as far as Events are read against it, and the pure shape policies of
`price_policy.py` and `invoice_policy.py`.
-/

namespace StripeEntitlements

/-! ## Plans -/

structure Plan where
  key : String
  rank : Nat
  monthlyCredits : Nat
  monthUsd : Nat
  yearUsd : Nat
  currency : String := "usd"
  deriving DecidableEq, Repr

/-- `monthly_credits`, prices and ranks are positive; the reference catalog is USD only. -/
def Plan.admissible (p : Plan) : Bool :=
  p.key ≠ "free" && 0 < p.rank && 0 < p.monthlyCredits && 0 < p.monthUsd && 0 < p.yearUsd &&
    p.currency = "usd"

/-- A catalog `PlanCatalog.__init__` accepted. -/
structure PlanCatalog where
  plans : List Plan
  lookupPrefix : String
  admissible : ∀ p ∈ plans, p.admissible = true
  keys_nodup : (plans.map Plan.key).Nodup
  ranks_nodup : (plans.map Plan.rank).Nodup

namespace PlanCatalog

def plan? (c : PlanCatalog) (key : String) : Option Plan := c.plans.find? (·.key = key)

end PlanCatalog

/-- `str(interval)`. -/
def Interval.text : Interval → String
  | .month => "month"
  | .year => "year"

def Interval.parse : String → Option Interval
  | "month" => some .month
  | "year" => some .year
  | _ => none

def PlanCatalog.lookupKey (c : PlanCatalog) (plan : Plan) (interval : Interval) : String :=
  s!"{c.lookupPrefix}_{plan.key}_{interval.text}"

/-- `text.split("_")`. -/
def splitUnderscore (text : String) : List String :=
  let step (c : Char) (parts : List (List Char)) : List (List Char) :=
    match parts with
    | [] => [[c]]
    | part :: rest => if c = '_' then [] :: part :: rest else (c :: part) :: rest
  (text.toList.foldr step [[]]).map String.ofList

def PlanCatalog.parseLookupKey (c : PlanCatalog) (lookupKey : Option String) :
    Option (Plan × Interval) :=
  match splitUnderscore (lookupKey.getD "") with
  | [pre, plan, interval] =>
      if pre = c.lookupPrefix then do
        let plan ← c.plan? plan
        let interval ← Interval.parse interval
        pure (plan, interval)
      else none
  | _ => none

/-- The catalog amount of one period in minor units. -/
def Plan.amount (p : Plan) : Interval → Nat
  | .month => p.monthUsd * 100
  | .year => p.yearUsd * 100

theorem PlanCatalog.plan?_mem {c : PlanCatalog} {key : String} {p : Plan}
    (h : c.plan? key = some p) : p ∈ c.plans := List.mem_of_find?_eq_some h

/-- A plan is found under its key. -/
theorem PlanCatalog.plan?_eq {c : PlanCatalog} {p : Plan} (hp : p ∈ c.plans) :
    c.plan? p.key = some p := by
  obtain ⟨q, hq⟩ : ∃ q, c.plan? p.key = some q :=
    Option.isSome_iff_exists.1 (List.find?_isSome.2 ⟨p, hp, by simp⟩)
  have hkey : q.key = p.key := by simpa using List.find?_some hq
  rw [hq, List.inj_on_of_nodup_map c.keys_nodup (plan?_mem hq) hp hkey]

theorem PlanCatalog.parseLookupKey_mem {c : PlanCatalog} {key : Option String} {p : Plan}
    {i : Interval} (h : c.parseLookupKey key = some (p, i)) : p ∈ c.plans := by
  unfold parseLookupKey at h
  split at h
  · split at h
    · simp only [Option.bind_eq_bind, Option.bind_eq_some_iff] at h
      obtain ⟨q, hq, j, -, heq⟩ := h
      cases heq
      exact plan?_mem hq
    · cases h
  · cases h

/-! ## Price policy -/

/-- `value in {None, expected}` for a value that must be hashable. -/
def Json.isNullOr (value : Json) (expected : String) : Transaction Bool :=
  if value.hashable then
    .ok (value.isNull || value.asStr = some expected)
  else
    .error (.typeError value.unhashableType)

def currencyOptionsMatch (value : Json) (expectedCurrency : String) (expectedUnitAmount : Int) :
    Transaction Bool :=
  match value with
  | .null | .obj [] => .ok true
  | .obj members => do
      let option := value.get expectedCurrency
      if members.all (·.1 = expectedCurrency) && option.isObj &&
          (option.get "unit_amount").asInt = some expectedUnitAmount &&
          (option.get "custom_unit_amount").isNull then
        (option.get "tax_behavior").isNullOr "unspecified"
      else
        pure false
  | _ => .ok false

/-- One metadata block names no other product line or plan. -/
def metadataIdentityMatches (expectedProductLine expectedPlanKey : String) (metadata : Json) :
    Bool :=
  metadata.isNull ||
    (metadata.isObj &&
      ((metadata.get "product_line").isNull ||
        (metadata.get "product_line").asStr = some expectedProductLine) &&
      ((metadata.get "plan").isNull || (metadata.get "plan").asStr = some expectedPlanKey))

def catalogIdentityMatches (price product : Json) (expectedProductLine expectedPlanKey : String) :
    Bool :=
  metadataIdentityMatches expectedProductLine expectedPlanKey (price.get "metadata") &&
    metadataIdentityMatches expectedProductLine expectedPlanKey (product.get "metadata")

/-- `value.get(key, default)` equal to that default. -/
def Json.isDefault (value : Json) (key default : String) : Bool :=
  !value.has key || (value.get key).asStr = some default

/-- The lookup key, price identity and recurring terms a Price must show; without a
    `priceId` any Price of that lookup key will do. -/
structure PriceExpectation where
  currency : String
  unitAmount : Int
  interval : Interval
  productLine : String
  planKey : String
  lookupKey : String
  priceId : Option String := none

/-- `catalog_price_matches(…, require_active=False)`; `lower` is `str.lower`. -/
def catalogPriceMatches (lower : String → String) (price : Json) (x : PriceExpectation) :
    Transaction Bool := do
  let recurring := price.get "recurring"
  let product := price.get "product"
  let currency := price.get "currency"
  if recurring.isObj && product.isObj &&
      catalogIdentityMatches price product x.productLine x.planKey &&
      (price.get "lookup_key").asStr = some x.lookupKey &&
      x.priceId.all (fun id => (price.get "id").asStr = some id) &&
      currency.asStr.any (fun c => c = lower c) && currency.asStr = some x.currency &&
      (price.get "unit_amount").asInt = some x.unitAmount &&
      (recurring.get "interval").asStr = some x.interval.text &&
      (!recurring.has "interval_count" || (recurring.get "interval_count").asInt = some 1) &&
      recurring.isDefault "usage_type" "licensed" &&
      price.isDefault "type" "recurring" &&
      price.isDefault "billing_scheme" "per_unit" &&
      (price.get "tiers_mode").isNull && (price.get "transform_quantity").isNull &&
      (price.get "custom_unit_amount").isNull then do
    let options ← currencyOptionsMatch (price.get "currency_options") x.currency x.unitAmount
    if options then
      (price.get "tax_behavior").isNullOr "unspecified"
    else
      pure false
  else
    pure false

/-! ## Invoice policy -/

/-- A field that is absent, null, or an integer zero. -/
def Json.isZeroOrNull (value : Json) : Bool := value.isNull || value.asInt = some 0

/-- A field that is absent, null, or an empty list. -/
def Json.isEmptyListOrNull (value : Json) : Bool := value.isNull || value.asArr.any List.isEmpty

/-- Reject any tax, discount, balance, or credit-note participation. -/
def hasUnsupportedInvoiceAdjustments (invoice : Json) (lines : List Json) : Bool :=
  let balanceFields := ["starting_balance", "ending_balance", "pre_payment_credit_notes_amount",
    "post_payment_credit_notes_amount", "amount_overpaid"]
  let automaticTax := invoice.get "automatic_tax"
  let listFields := ["discounts", "default_tax_rates", "total_tax_amounts", "total_taxes",
    "total_discount_amounts"]
  let lineFields := ["discounts", "tax_amounts", "taxes", "discount_amounts",
    "pretax_credit_amounts", "tax_rates"]
  balanceFields.any (fun field => !(invoice.get field).isZeroOrNull) ||
    (!automaticTax.isNull &&
      !(automaticTax.isObj && (automaticTax.get "enabled").asBool = some false)) ||
    !(invoice.get "discount").isNull ||
    listFields.any (fun field => !(invoice.get field).isEmptyListOrNull) ||
    lines.any fun line => lineFields.any fun field => !(line.get field).isEmptyListOrNull

/-- The payment mapping of an Invoice is outside the single-payment model. -/
def unsupportedPayment (payment : Json) : Transaction Bool :=
  if !payment.isObj then
    .ok true
  else do
    let paid ← (payment.get "status").isNullOr "paid"
    if !paid then
      pure true
    else
      let details := payment.get "payment"
      if !details.truthy then
        pure false
      else if !details.isObj then
        pure true
      else do
        let charge ← (details.get "type").isNullOr "charge"
        let intent ← (details.get "type").isNullOr "payment_intent"
        pure (!(charge || intent))

/-- Keep fulfillment on the single Stripe-collected payment model. -/
def hasUnsupportedInvoicePaymentShape (invoice : Json) : Transaction Bool :=
  let outOfBand := invoice.get "paid_out_of_band"
  let payments := invoice.get "payments"
  if !outOfBand.hashable then
    .error (.typeError outOfBand.unhashableType)
  else if outOfBand.truthy || outOfBand.asStr = some "" then
    .ok true
  else if !(invoice.get "amount_overpaid").isZeroOrNull then
    .ok true
  else if payments.isNull then
    .ok false
  else if !payments.isObj || (payments.get "has_more").truthy then
    .ok true
  else match payments.get "data" with
    | .null => .ok false
    | .arr [] => .ok false
    | .arr [payment] => unsupportedPayment payment
    | _ => .ok true

end StripeEntitlements
