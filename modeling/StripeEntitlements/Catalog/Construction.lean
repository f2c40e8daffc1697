import Mathlib.Data.List.Sort
import StripeEntitlements.Checkout.Coordinator

/-!
# Building a Catalog

`PlanCatalog.__init__` and the lookup keys it hands out. A key is the prefix, the identifier
of the plan and the interval, or the prefix, `pack` and the identifier of the pack, joined by
underscores. No identifier holds an underscore, so a key is read back by splitting it.

## Main definitions

- `CatalogArguments.check` — what the constructor refuses
- `Catalog` — a catalog that was constructed
-/

namespace StripeEntitlements

/-! ## Bounds -/

/-- `JSON_SAFE_INTEGER_MAX`. -/
def jsonSafeIntegerMax : Nat := 2 ^ 53 - 1

/-- `CATALOG_PRICE_MAJOR_UNIT_MAX`. -/
def catalogPriceMajorUnitMax : Nat := min (postgresBigintMax / 100) (jsonSafeIntegerMax / 100)

/-! ## Identifiers -/

def isLowerLetter (c : Char) : Bool := 'a' ≤ c && c ≤ 'z'

/-- `_KEY`. -/
def isCatalogKey (key : String) : Bool :=
  match key.toList with
  | [] => false
  | c :: rest =>
      isLowerLetter c && rest.length ≤ 31 &&
        rest.all fun c => isLowerLetter c || c.isDigit || c = '-'

/-- `_ENTITLEMENT_KEY`. -/
def isEntitlementKey (key : String) : Bool :=
  match key.toList with
  | [] => false
  | c :: rest =>
      isLowerLetter c && rest.length ≤ 63 &&
        rest.all fun c => isLowerLetter c || c.isDigit || c = '_'

/-! ## Entries -/

/-- A `Plan` handed to the constructor; credits are atoms. -/
structure CatalogPlan where
  key : String
  name : String
  description : String
  currency : String := "usd"
  rank : Int
  monthlyCredits : Nat
  monthUsd : Int
  yearUsd : Int
  features : List String := []
  limits : List (String × Int) := []
  deriving DecidableEq, Repr

/-- A `CreditPack` handed to the constructor. -/
structure CatalogPack where
  key : String
  name : String
  description : String
  currency : String := "usd"
  rank : Int
  credits : Nat
  priceUsd : Int
  expiresDays : Int
  deriving DecidableEq, Repr

/-- The arguments of `PlanCatalog`. A mapping holds each key once. -/
structure CatalogArguments where
  plans : List (String × CatalogPlan)
  lookupPrefix : String := "ent"
  creditPacks : List (String × CatalogPack) := []
  plans_nodup : (plans.map Prod.fst).Nodup
  packs_nodup : (creditPacks.map Prod.fst).Nodup

/-! ## Checks -/

/-- `_required_string`. -/
def requiredString (u : Unicode) (value field : String) (maxBytes : Nat) : Transaction Unit :=
  require (u.visible maxBytes value)
    (.valueError s!"{field} must be a non-empty visible string up to {maxBytes} bytes")

/-- `_required_integer` with `minimum=1`. -/
def requiredInteger (value : Int) (field : String) (maximum : Nat) : Transaction Unit :=
  require (1 ≤ value && value ≤ maximum)
    (.valueError s!"{field} must be an integer between 1 and {maximum}")

/-- The features and limits of one plan. -/
def CatalogPlan.checkEntitlements (p : CatalogPlan) : Transaction Unit := do
  require (p.features.all isEntitlementKey)
    (.valueError "plan features must contain only valid string keys")
  require (p.limits.all fun (name, value) =>
      isEntitlementKey name && 0 ≤ value && value ≤ jsonSafeIntegerMax)
    (.valueError "plan limits must contain only valid non-negative JSON-safe limits")
  require (!p.features.contains "monthly_credits" &&
      !(p.limits.map Prod.fst).contains "monthly_credits")
    (.valueError "monthly_credits is reserved and cannot be declared as a feature or limit")

/-- One plan of the mapping. -/
def CatalogPlan.check (u : Unicode) (key : String) (p : CatalogPlan) : Transaction Unit := do
  require (key ≠ "free") (.valueError "'free' is reserved for the non-paid account state")
  require (key = p.key && isCatalogKey key)
    (.valueError "plan keys must match their mapping key and use lowercase slugs")
  requiredString u p.name s!"plans.{key}.name" 120
  requiredString u p.description s!"plans.{key}.description" 500
  require (p.currency = "usd") (.valueError "the reference catalog supports USD only")
  require (0 < p.monthlyCredits && p.monthlyCredits ≤ postgresBigintMax)
    (.valueError <| s!"plans.{key}.monthly_credits must be a positive exact credit amount " ++
      "within the PostgreSQL bigint atom range")
  requiredInteger p.monthUsd s!"plans.{key}.month_usd" postgresBigintMax
  requiredInteger p.yearUsd s!"plans.{key}.year_usd" postgresBigintMax
  require (p.monthUsd ≤ catalogPriceMajorUnitMax && p.yearUsd ≤ catalogPriceMajorUnitMax)
    (.valueError "catalog prices in minor units must remain JSON-safe integers")
  p.checkEntitlements

/-- One pack of the mapping. -/
def CatalogPack.check (u : Unicode) (key : String) (p : CatalogPack) : Transaction Unit := do
  require (key = p.key && isCatalogKey key)
    (.valueError "credit-pack keys must match their mapping key and use lowercase slugs")
  requiredString u p.name s!"credit_packs.{key}.name" 120
  requiredString u p.description s!"credit_packs.{key}.description" 500
  require (p.currency = "usd")
    (.valueError "the reference credit-pack catalog supports USD only")
  require (0 < p.credits && p.credits ≤ postgresBigintMax)
    (.valueError <| s!"credit_packs.{key}.credits must be positive, exact, and within the " ++
      "PostgreSQL bigint atom range")
  requiredInteger p.priceUsd s!"credit_packs.{key}.price_usd" catalogPriceMajorUnitMax
  requiredInteger p.expiresDays s!"credit_packs.{key}.expires_days" 3650

/-- Unique positive JSON-safe ranks. -/
def ranksAdmissible (ranks : List Int) : Bool :=
  ranks.all (fun rank => 0 < rank && rank ≤ jsonSafeIntegerMax) && decide ranks.Nodup

/-- `lookup_owners` after the plans: who generates which lookup key. -/
def planLookupOwners (lookupPrefix : String) (keys : List String) : List (String × String) :=
  keys.flatMap fun key => ["month", "year"].map fun interval =>
    (s!"{lookupPrefix}_{key}_{interval}", s!"plan '{key}' ({interval})")

/-- Add the lookup key of one pack to `lookup_owners`. -/
def claimLookupKey (lookupPrefix : String) (owners : List (String × String)) (key : String) :
    Transaction (List (String × String)) :=
  let lookupKey := s!"{lookupPrefix}_pack_{key}"
  match owners.lookup lookupKey with
  | some previous =>
      .error (.valueError <| s!"generated Stripe lookup key '{lookupKey}' collides between " ++
        s!"{previous} and credit pack '{key}'")
  | none => .ok ((lookupKey, s!"credit pack '{key}'") :: owners)

/-- `PlanCatalog.__init__`. -/
def CatalogArguments.check (u : Unicode) (x : CatalogArguments) : Transaction Unit := do
  require (!x.plans.isEmpty) (.valueError "at least one plan is required")
  require (isCatalogKey x.lookupPrefix)
    (.valueError "lookup_prefix must match [a-z][a-z0-9-]\x7b0,31\x7d")
  x.plans.forM fun (key, plan) => plan.check u key
  require (ranksAdmissible (x.plans.map (·.2.rank)))
    (.valueError "plan ranks must be unique positive JSON-safe integers")
  let featureKeys := x.plans.flatMap (·.2.features)
  let limitKeys := x.plans.flatMap fun (_, plan) => plan.limits.map Prod.fst
  let overlap := (featureKeys.filter (limitKeys.contains ·)).dedup.insertionSort (· ≤ ·)
  require overlap.isEmpty
    (.valueError <| "feature and limit entitlement keys must be globally disjoint: " ++
      ", ".intercalate overlap)
  x.creditPacks.forM fun (key, pack) => pack.check u key
  require (ranksAdmissible (x.creditPacks.map (·.2.rank)))
    (.valueError "credit-pack ranks must be unique positive JSON-safe integers")
  let _ ← (x.creditPacks.map Prod.fst).foldlM (claimLookupKey x.lookupPrefix)
    (planLookupOwners x.lookupPrefix (x.plans.map Prod.fst))

/-- A catalog that the constructor accepted. -/
structure Catalog (u : Unicode) extends CatalogArguments where
  accepted : toCatalogArguments.check u = .ok ()

end StripeEntitlements
