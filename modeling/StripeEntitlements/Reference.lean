import StripeEntitlements.Runs

/-!
# The Reference Deployment

`plans.toml` and the defaults of `config.py`: a concrete configuration for the model, with
ASCII text and a database session in UTC; and the Stripe Events of a customer who buys a
plan of it, or credit packs.
-/

namespace StripeEntitlements

open Relational

/-! ## Calendar -/

/-- A civil date in the proleptic Gregorian calendar, as its day number from 1970-01-01. -/
def daysFromCivil (year : Int) (month day : Nat) : Int :=
  let y := if month ≤ 2 then year - 1 else year
  let era := y / 400
  let yearOfEra := y - era * 400
  let dayOfYear : Int := (153 * ((month + 9) % 12 : Nat) + 2) / 5 + day - 1
  era * 146097 + (yearOfEra * 365 + yearOfEra / 4 - yearOfEra / 100 + dayOfYear) - 719468

/-- Year, month and day of a day number. -/
def civilFromDays (days : Int) : Int × Nat × Nat :=
  let z := days + 719468
  let era := z / 146097
  let dayOfEra := z - era * 146097
  let yearOfEra := (dayOfEra - dayOfEra / 1460 + dayOfEra / 36524 - dayOfEra / 146096) / 365
  let dayOfYear := dayOfEra - (365 * yearOfEra + yearOfEra / 4 - yearOfEra / 100)
  let shifted := (5 * dayOfYear + 2) / 153
  let day := dayOfYear - (153 * shifted + 2) / 5 + 1
  let month := if shifted < 10 then shifted + 3 else shifted - 9
  (yearOfEra + era * 400 + (if month ≤ 2 then 1 else 0), month.toNat, day.toNat)

def daysInMonth (year : Int) (month : Nat) : Nat :=
  let next := daysFromCivil (if month = 12 then year + 1 else year) (month % 12 + 1) 1
  (next - daysFromCivil year month 1).toNat

/-- `instant + months * interval '1 month'` in a UTC session: the day is clamped to the
    length of the target month. -/
def addCivilMonths (instant : Int) (months : Nat) : Int :=
  let microsPerDay : Int := 86400000000
  let (year, month, day) := civilFromDays (instant / microsPerDay)
  let index := month - 1 + months
  let targetYear := year + (index / 12 : Nat)
  let targetMonth := index % 12 + 1
  let targetDay := min day (daysInMonth targetYear targetMonth)
  daysFromCivil targetYear targetMonth targetDay * microsPerDay + instant % microsPerDay

-- one month after 31 January 2024 is the leap day
example : addCivilMonths (daysFromCivil 2024 1 31 * 86400000000 + 5) 1 =
    daysFromCivil 2024 2 29 * 86400000000 + 5 := by decide

/-! ## Catalog and configuration -/

/-- `plans.toml`, in atoms and whole currency units. -/
def referenceCatalog : PlanCatalog where
  plans := [
    { key := "starter", rank := 10, monthlyCredits := 300000000, monthUsd := 19, yearUsd := 137 },
    { key := "pro", rank := 20, monthlyCredits := 1000000000, monthUsd := 49, yearUsd := 353 },
    { key := "ultra", rank := 30, monthlyCredits := 4000000000, monthUsd := 149, yearUsd := 1073 }]
  lookupPrefix := "ent"
  admissible := by decide
  keys_nodup := by decide
  ranks_nodup := by decide

/-- Printable ASCII. -/
def asciiUnicode : Unicode where
  isPrintable c := ' ' ≤ c && c ≤ '~'
  lower value := String.ofList (value.toList.map Char.toLower)

/-- The defaults of `Settings`, in Stripe test mode. -/
def referenceConfig : Config where
  catalog := referenceCatalog
  productLine := "example-entitlements"
  unicode := asciiUnicode
  addMonths := addCivilMonths

/-! ## A customer at Checkout -/

def referenceAccountId : String := "00000000-0000-0000-0000-000000000001"

/-- An account was opened and reserved a Checkout for a plan. -/
def checkoutDb (planKey : String) (interval : Interval) : Db :=
  { Db.empty with
    billing := { Billing.empty with
      accounts := .singleton { id := referenceAccountId, externalRef := "user" } rfl
      claims := .singleton {
        accountId := referenceAccountId, claimToken := "claim", planKey
        planInterval := interval, expiresAt := 0 } rfl } }

theorem checkoutDb_reachable (planKey : String) (interval : Interval) :
    Reachable referenceConfig (checkoutDb planKey interval) := by
  have hopened : Outside Db.empty.billing (checkoutDb planKey interval).billing :=
    ⟨⟨[_], rfl, by simp [Account.unstamped]⟩,
      ⟨[], rfl, fun _ ho => absurd ho List.not_mem_nil⟩, rfl, rfl, rfl, rfl, rfl, rfl, rfl, rfl,
      fun _ hc => absurd hc List.not_mem_nil⟩
  exact .single (.outside hopened)

/-! ## Events of the customer -/

/-- A Stripe Event in test mode. -/
def stripeEvent (id type : String) (created : Nat) (object : List (String × Json)) : Event where
  id := .str id
  type := .str type
  created := .int created
  livemode := .bool false
  data := .obj [("object", .obj object)]

/-- The Price of a plan as the gateway resolves it. -/
def referencePrice (plan : Plan) (interval : Interval) : Json :=
  .obj [
    ("id", .str s!"price_{plan.key}_{interval.text}"),
    ("lookup_key", .str (referenceCatalog.lookupKey plan interval)),
    ("currency", .str plan.currency),
    ("unit_amount", .int (plan.amount interval)),
    ("recurring", .obj [("interval", .str interval.text)]),
    ("product", .obj [])]

/-- `invoice.paid` for one whole period, in seconds. -/
def paidPeriod (id invoiceId reason : String) (created : Nat) (plan : Plan) (interval : Interval)
    (periodStart periodEnd : Int) : Event :=
  let amount : Json := .int (plan.amount interval)
  let line : Json := .obj [
    ("id", .str "il_period"), ("quantity", .int 1), ("amount", amount),
    ("price", referencePrice plan interval), ("_resolved_price", referencePrice plan interval),
    ("period", .obj [("start", .int periodStart), ("end", .int periodEnd)])]
  stripeEvent id "invoice.paid" created [
    ("id", .str invoiceId), ("customer", .str "cus_1"), ("billing_reason", .str reason),
    ("currency", .str plan.currency), ("amount_paid", amount), ("total", amount),
    ("parent", .obj [("subscription_details", .obj [
      ("subscription", .str "sub_1"),
      ("metadata", .obj [
        ("account_id", .str referenceAccountId), ("claim_token", .str "claim")])])]),
    ("lines", .obj [("data", .arr [line])])]

/-- `charge.refunded` with the cumulative amount refunded of an Invoice. -/
def refundedCharge (id invoiceId : String) (created amount refunded : Nat) : Event :=
  stripeEvent id "charge.refunded" created [
    ("id", .str "ch_1"), ("customer", .str "cus_1"), ("invoice", .str invoiceId),
    ("amount", .int amount), ("amount_refunded", .int refunded),
    ("refunded", .bool (refunded = amount))]

/-- The metadata by which a Checkout names the account and its claim. -/
def checkoutMetadata : Json :=
  .obj [("account_id", .str referenceAccountId), ("claim_token", .str "claim")]

/-- `customer.subscription.deleted`. -/
def deletedSubscription (id subscriptionId : String) (created : Nat) : Event :=
  stripeEvent id "customer.subscription.deleted" created [
    ("id", .str subscriptionId), ("customer", .str "cus_1"), ("metadata", checkoutMetadata)]

/-- `customer.subscription.updated` of an active Subscription to one plan. -/
def updatedSubscription (id subscriptionId : String) (created : Nat) (plan : Plan)
    (interval : Interval) (cancels : Bool) (periodEnd : Int) : Event :=
  stripeEvent id "customer.subscription.updated" created [
    ("id", .str subscriptionId), ("customer", .str "cus_1"), ("metadata", checkoutMetadata),
    ("status", .str "active"), ("cancel_at_period_end", .bool cancels),
    ("current_period_end", .int periodEnd),
    ("items", .obj [("data", .arr [.obj [
      ("quantity", .int 1), ("price", referencePrice plan interval),
      ("_resolved_price", referencePrice plan interval)]])])]

/-- `invoice.payment_failed` of a renewal. -/
def failedRenewal (id invoiceId subscriptionId : String) (created : Nat) : Event :=
  stripeEvent id "invoice.payment_failed" created [
    ("id", .str invoiceId), ("customer", .str "cus_1"),
    ("billing_reason", .str "subscription_cycle"),
    ("parent", .obj [("subscription_details", .obj [
      ("subscription", .str subscriptionId), ("metadata", checkoutMetadata)])])]

/-- `checkout.session.completed` of a Subscription Checkout. -/
def completedCheckout (id sessionId subscriptionId : String) (created : Nat) : Event :=
  stripeEvent id "checkout.session.completed" created [
    ("id", .str sessionId), ("subscription", .str subscriptionId), ("customer", .str "cus_1"),
    ("metadata", checkoutMetadata)]

/-- The account reserves a further Checkout. -/
def Db.reserveCheckout (db : Db) (planKey : String) (interval : Interval) : Db :=
  { db with
    billing := { db.billing with
      claims := .singleton {
        accountId := referenceAccountId, claimToken := "claim", planKey
        planInterval := interval, expiresAt := 0 } rfl } }

theorem Reachable.reserveCheckout {db : Db} (h : Reachable referenceConfig db) (planKey : String)
    (interval : Interval) : Reachable referenceConfig (db.reserveCheckout planKey interval) := by
  have hreserved : Outside db.billing (db.reserveCheckout planKey interval).billing :=
    ⟨⟨[], (List.append_nil _).symm, fun _ ha => absurd ha List.not_mem_nil⟩,
      ⟨[], (List.append_nil _).symm, fun _ ho => absurd ho List.not_mem_nil⟩, rfl, rfl, rfl, rfl,
      rfl, rfl, rfl, rfl, fun c hc hpending => .inl ⟨c, hc, hpending, rfl, rfl⟩⟩
  exact h.tail (.outside hreserved)

/-! ## A first Invoice, paid and refunded -/

def proPlan : Plan where
  key := "pro"
  rank := 20
  monthlyCredits := 1000000000
  monthUsd := 49
  yearUsd := 353

/-- The first Invoice of a customer is paid. -/
def paidFirst : Event :=
  paidPeriod "evt_paid" "in_1" "subscription_create" 200 proPlan .month 0 2592000

/-- The same Invoice is refunded in full. -/
def refundedFirst : Event := refundedCharge "evt_refund" "in_1" 100 4900 4900

/-! ## A customer who buys packs -/

/-- The reserved order of a pack of one credit. -/
def packOrder (id : String) : PackOrder where
  id := id
  accountId := referenceAccountId
  clientIdempotencyKey := id
  packKey := "small"
  packCredits := 1000000
  priceAmount := 500
  currency := "usd"
  expiresDays := 30
  priceLookupKey := "ent-pack-small"
  claimExpiresAt := 0

def firstPack : PackOrder := packOrder "00000000-0000-0000-0000-00000000000a"

def secondPack : PackOrder := packOrder "00000000-0000-0000-0000-00000000000b"

/-- An account was opened and reserved two packs. -/
def packDb : Db :=
  { Db.empty with
    billing := { Billing.empty with
      accounts := .singleton { id := referenceAccountId, externalRef := "user" } rfl
      orders := ⟨[firstPack, secondPack], by decide, by decide, by decide⟩ } }

theorem packDb_reachable : Reachable referenceConfig packDb := by
  have hopened : Outside Db.empty.billing packDb.billing :=
    ⟨⟨[_], rfl, by simp [Account.unstamped]⟩,
      ⟨_, rfl, by
        intro o ho
        rcases List.mem_pair.1 ho with rfl | rfl <;> rfl⟩, rfl, rfl, rfl, rfl, rfl, rfl, rfl, rfl,
      fun _ hc => absurd hc List.not_mem_nil⟩
  exact .single (.outside hopened)

/-- The metadata of the PaymentIntent of an order. -/
def packMetadata (order : PackOrder) : Json :=
  .obj [
    ("billing_kind", .str "credit_pack"), ("pack_schema_version", .str "1"),
    ("product_line", .str referenceConfig.productLine),
    ("credit_pack_order_id", .str order.id), ("account_id", .str order.accountId),
    ("pack_key", .str order.packKey), ("pack_credits", .str (creditDecimal order.packCredits)),
    ("price_amount", .str (toString order.priceAmount)), ("currency", .str order.currency),
    ("expires_days", .str (toString order.expiresDays)),
    ("lookup_key", .str order.priceLookupKey)]

/-- The fields of the succeeded PaymentIntent of an order. -/
def packPaymentIntent (order : PackOrder) : List (String × Json) :=
  [("id", .str s!"pi_{order.id}"), ("object", .str "payment_intent"),
    ("status", .str "succeeded"), ("customer", .str "cus_1"),
    ("latest_charge", .str s!"ch_{order.id}"), ("amount", .int order.priceAmount),
    ("amount_received", .int order.priceAmount), ("currency", .str order.currency),
    ("metadata", packMetadata order)]

/-- `payment_intent.succeeded`. -/
def paidPack (id : String) (created : Nat) (order : PackOrder) : Event :=
  stripeEvent id "payment_intent.succeeded" created (packPaymentIntent order)

/-- The fields of the Charge of an order. -/
def packCharge (order : PackOrder) (refunded : Nat) (disputed : Bool) : List (String × Json) :=
  [("id", .str s!"ch_{order.id}"), ("object", .str "charge"), ("paid", .bool true),
    ("payment_intent", .str s!"pi_{order.id}"), ("customer", .str "cus_1"),
    ("amount", .int order.priceAmount), ("amount_refunded", .int refunded),
    ("refunded", .bool (refunded = order.priceAmount)), ("disputed", .bool disputed),
    ("currency", .str order.currency)]

/-- `charge.refunded` with the cumulative amount refunded of an order. -/
def refundedPack (id : String) (created : Nat) (order : PackOrder) (refunded : Nat)
    (disputed : Bool) : Event :=
  stripeEvent id "charge.refunded" created
    (packCharge order refunded disputed ++
      [("_resolved_payment_intent", .obj (packPaymentIntent order))])

/-- `charge.dispute.created` of an order. -/
def disputedPack (id : String) (created : Nat) (order : PackOrder) : Event :=
  stripeEvent id "charge.dispute.created" created [
    ("id", .str s!"dp_{order.id}"), ("object", .str "dispute"),
    ("charge", .str s!"ch_{order.id}"), ("amount", .int order.priceAmount),
    ("currency", .str order.currency),
    ("_resolved_charge", .obj (packCharge order 0 true)),
    ("_resolved_payment_intent", .obj (packPaymentIntent order))]

/-- A transaction at one instant. -/
def referenceTx (now : Int) : Tx := ⟨now, now, fun n => toString n⟩

/-- The first pack is spent in part and refunded, and the second one pays its debt. -/
def twoPacks : Transaction Db := do
  let (db, _) ← process referenceConfig (referenceTx 0) packDb (paidPack "evt_1" 0 firstPack)
  let (b, _) ← charge asciiUnicode.isPrintable (referenceTx 1) db.billing referenceAccountId
    600000 "job"
  let (db, _) ← process referenceConfig (referenceTx 2) { db with billing := b }
    (refundedPack "evt_2" 0 firstPack 500 false)
  let (db, _) ← process referenceConfig (referenceTx 3) db (paidPack "evt_3" 0 secondPack)
  pure db

theorem twoPacks_reachable {db : Db} (h : twoPacks = .ok db) : Reachable referenceConfig db := by
  simp only [twoPacks, bind_eq_ok, pure_eq_ok] at h
  obtain ⟨⟨db₁, _⟩, hpaid, ⟨b, _⟩, hcharge, ⟨db₂, _⟩, hrefunded, ⟨db₃, _⟩, hpaid', rfl⟩ := h
  have h₁ := packDb_reachable.tail (.event hpaid)
  exact ((h₁.tail (.charge hcharge)).tail (.event hrefunded)).tail (.event hpaid')

/-- The status of every account. -/
def Db.statuses (db : Db) : List SubscriptionStatus :=
  db.billing.accounts.rows.map Account.subscriptionStatus

end StripeEntitlements
