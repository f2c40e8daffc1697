import StripeEntitlements.Parity.Audit
import StripeEntitlements.Parity.InvoicePolicy
import StripeEntitlements.Parity.PricePolicy

/-!
# Agreement of the Runtimes

Both runtimes fulfil Stripe objects against one database. On JSON that both decode alike,
they judge an object alike as long as Python can read it and is not the more generous one.

## Main results

- `domain_policies_agree_iff` — the objects on which the five policies agree
- `outOfBand_zero_disagrees` — an Invoice only Python fulfils
-/

namespace StripeEntitlements

/-- Arguments of the five policies. -/
structure PolicySample where
  invoice : Json
  lines : List Json
  recurring : Json
  recurringExpected : CatalogPriceExpectation
  oneTime : Json
  oneTimeExpected : CatalogOneTimePriceExpectation
  event : Json

namespace PolicySample

/-- Numbers are safe integers without fraction or exponent. -/
def safe (s : PolicySample) : Bool :=
  s.invoice.safe && s.recurring.safe && s.oneTime.safe && s.event.safe

/-- Every policy gives one answer, and Python raises nowhere. Adjustments are asked of an
    object whose lines are objects. -/
structure Agree (lower : String → String) (s : PolicySample) : Prop where
  adjustments : s.invoice.isObj = true → (∀ line ∈ s.lines, line.isObj = true) →
    TypeScript.hasUnsupportedInvoiceAdjustments s.invoice (.arr s.lines) =
      hasUnsupportedInvoiceAdjustments s.invoice s.lines
  paymentShape : Python.hasUnsupportedInvoicePaymentShape s.invoice =
    .ok (TypeScript.hasUnsupportedInvoicePaymentShape s.invoice)
  recurringPrice : Python.catalogPriceMatches lower s.recurring s.recurringExpected =
    .ok (TypeScript.catalogPriceMatches lower s.recurring s.recurringExpected)
  oneTimePrice : Python.catalogOneTimePriceMatches s.oneTime s.oneTimeExpected =
    .ok (TypeScript.catalogOneTimePriceMatches lower s.oneTime s.oneTimeExpected)
  snapshot : Python.redactedEventSnapshot s.event = .ok (TypeScript.redactedEventSnapshot s.event)

/-- The objects are objects, and the fields that decide are read alike. -/
structure ReadAlike (lower : String → String) (s : PolicySample) : Prop where
  invoice : s.invoice.isObj = true ∧ paymentShapeReadAlike s.invoice = true
  recurring : s.recurring.isObj = true ∧
    catalogPriceReadAlike lower s.recurring s.recurringExpected = true
  oneTime : s.oneTime.isObj = true ∧
    catalogOneTimePriceReadAlike lower s.oneTime s.oneTimeExpected = true
  event : s.event.isObj = true

end PolicySample

/-- **The runtimes agree** exactly on what they read alike: on every sample of JSON values with
    safe integers the policies give one answer in both languages if and only if the fields that
    decide have none of the values that the languages compare differently. -/
theorem domain_policies_agree_iff (lower : String → String) {s : PolicySample}
    (hsafe : s.safe = true) : s.Agree lower ↔ s.ReadAlike lower := by
  simp only [PolicySample.safe, Bool.and_eq_true] at hsafe
  obtain ⟨⟨⟨hinvoice, hrecurring⟩, honeTime⟩, hevent⟩ := hsafe
  constructor
  · intro h
    exact {
      invoice := (invoicePaymentShape_agree hinvoice).1 h.paymentShape
      recurring := (catalogPriceMatches_agree hrecurring).1 h.recurringPrice
      oneTime := (catalogOneTimePriceMatches_agree honeTime).1 h.oneTimePrice
      event := (redactedEventSnapshot_agree hevent).1 h.snapshot }
  · intro h
    exact {
      adjustments := fun hobject hlines => invoiceAdjustments_agree hobject hlines hinvoice
      paymentShape := (invoicePaymentShape_agree hinvoice).2 h.invoice
      recurringPrice := (catalogPriceMatches_agree hrecurring).2 h.recurring
      oneTimePrice := (catalogOneTimePriceMatches_agree honeTime).2 h.oneTime
      snapshot := (redactedEventSnapshot_agree hevent).2 h.event }

/-- A sample with this Invoice; the other objects are empty. -/
def invoiceSample (invoice : Json) : PolicySample where
  invoice := invoice
  lines := []
  recurring := .obj []
  recurringExpected := {
    currency := "usd", unitAmount := 4900, interval := "month", productLine := "core"
    planKey := "pro" }
  oneTime := .obj []
  oneTimeExpected := {
    currency := "usd", unitAmount := 1500, productLine := "core", packKey := "boost"
    lookupKey := "ent_pack_boost" }
  event := .obj []

/-- An Invoice that was not paid out of band is judged alike. -/
theorem paidInBand_agrees : (invoiceSample (.obj [("paid_out_of_band", .bool false)])).Agree id :=
  (domain_policies_agree_iff id (by decide)).2
    ⟨by decide, by decide, by decide, by decide⟩

/-- **Zero for false**: Python fulfils an Invoice that TypeScript refuses. -/
theorem outOfBand_zero_disagrees :
    ¬ ∀ (lower : String → String) (s : PolicySample), s.safe = true → s.Agree lower := by
  intro hclaim
  have hagree := (hclaim id (invoiceSample (.obj [("paid_out_of_band", .int 0)]))
    (by decide)).paymentShape
  have hpython : Python.hasUnsupportedInvoicePaymentShape
      (.obj [("paid_out_of_band", .int 0)]) = .ok false := by decide
  have htypescript : TypeScript.hasUnsupportedInvoicePaymentShape
      (.obj [("paid_out_of_band", .int 0)]) = true := by decide
  change Python.hasUnsupportedInvoicePaymentShape (.obj [("paid_out_of_band", .int 0)]) =
    .ok (TypeScript.hasUnsupportedInvoicePaymentShape (.obj [("paid_out_of_band", .int 0)]))
    at hagree
  rw [hpython, htypescript] at hagree
  cases hagree

end StripeEntitlements
