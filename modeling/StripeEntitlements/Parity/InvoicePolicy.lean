import StripeEntitlements.Parity.Runtime

/-!
# Invoice Policies in Two Runtimes

`invoice_policy.py` and `invoice-policy.ts`. The adjustments are read alike. The payment
mapping is not: Python looks fields up in sets, which raises for lists and objects and takes
`0` for `False`, and tests `has_more` and `payment` for truth.

## Main results

- `invoiceAdjustments_agree` — the adjustments of every Invoice
- `invoicePaymentShape_agree` — the Invoices whose payment mapping both read alike
-/

namespace StripeEntitlements

/-! ## TypeScript -/

namespace TypeScript

/-- A field that is absent, null or an empty array. -/
def isAbsentOrEmpty (value : Json) : Bool := isAbsent value || value.asArr.any List.isEmpty

/-- `hasUnsupportedInvoiceAdjustments`. -/
def hasUnsupportedInvoiceAdjustments (invoice lines : Json) : Bool :=
  let balanceFields := ["starting_balance", "ending_balance", "pre_payment_credit_notes_amount",
    "post_payment_credit_notes_amount", "amount_overpaid"]
  let automaticTax := invoice.get "automatic_tax"
  let listFields := ["discounts", "default_tax_rates", "total_tax_amounts", "total_taxes",
    "total_discount_amounts"]
  let lineFields := ["discounts", "tax_amounts", "taxes", "discount_amounts",
    "pretax_credit_amounts", "tax_rates"]
  match lines with
  | .arr lines =>
      !invoice.isObj ||
        balanceFields.any (fun field =>
          !isAbsent (invoice.get field) && !isExplicitZero (invoice.get field)) ||
        (!isAbsent automaticTax &&
          (!automaticTax.isObj || (automaticTax.get "enabled").asBool ≠ some false)) ||
        !isAbsent (invoice.get "discount") ||
        listFields.any (fun field => !isAbsentOrEmpty (invoice.get field)) ||
        lines.any fun line =>
          !line.isObj || lineFields.any fun field => !isAbsentOrEmpty (line.get field)
  | _ => true

/-- The only payment of an Invoice. -/
def unsupportedPayment (payment : Json) : Bool :=
  let details := payment.get "payment"
  let type := details.get "type"
  if !payment.isObj then true
  else if !isAbsentOr (payment.get "status") "paid" then true
  else if isAbsent details then false
  else if !details.isObj then true
  else !isAbsent type && type.asStr ≠ some "charge" && type.asStr ≠ some "payment_intent"

/-- `hasUnsupportedInvoicePaymentShape`. -/
def hasUnsupportedInvoicePaymentShape (invoice : Json) : Bool :=
  let outOfBand := invoice.get "paid_out_of_band"
  let overpaid := invoice.get "amount_overpaid"
  let payments := invoice.get "payments"
  let hasMore := payments.get "has_more"
  if !invoice.isObj then true
  else if !isAbsent outOfBand && outOfBand.asBool ≠ some false then true
  else if !isAbsent overpaid && !isExplicitZero overpaid then true
  else if isAbsent payments then false
  else if !payments.isObj then true
  else if !isAbsent hasMore && hasMore.asBool ≠ some false then true
  else match payments.get "data" with
    | .null => false
    | .arr [] => false
    | .arr [payment] => unsupportedPayment payment
    | _ => true

end TypeScript

namespace Python

/-- `has_unsupported_invoice_payment_shape`. -/
def hasUnsupportedInvoicePaymentShape (invoice : Json) : Transaction Bool :=
  onMapping invoice (StripeEntitlements.hasUnsupportedInvoicePaymentShape invoice)

end Python

/-! ## Adjustments -/

theorem TypeScript.isExplicitZero_not {v : Json} (h : v.safe = true) :
    (!isAbsent v && !isExplicitZero v) = !v.isZeroOrNull := by
  rw [← isExplicitZero_eq h, Bool.not_or]

/-- **Adjustments** are read alike on every Invoice whose lines are objects. -/
theorem invoiceAdjustments_agree {invoice : Json} {lines : List Json}
    (hinvoice : invoice.isObj = true) (hlines : ∀ line ∈ lines, line.isObj = true)
    (hsafe : invoice.safe = true) :
    TypeScript.hasUnsupportedInvoiceAdjustments invoice (.arr lines) =
      hasUnsupportedInvoiceAdjustments invoice lines := by
  -- each field is compared on its own; safe numbers are zero alike on both sides
  have hbalance : ∀ field, (!TypeScript.isAbsent (invoice.get field) &&
      !TypeScript.isExplicitZero (invoice.get field)) = !(invoice.get field).isZeroOrNull :=
    fun field => TypeScript.isExplicitZero_not (Json.safe_get hsafe field)
  have hlist : ∀ v : Json, TypeScript.isAbsentOrEmpty v = v.isEmptyListOrNull := fun _ => rfl
  have htax : ∀ v : Json, (!TypeScript.isAbsent v &&
      (!v.isObj || decide ((v.get "enabled").asBool ≠ some false))) =
        (!v.isNull && !(v.isObj && decide ((v.get "enabled").asBool = some false))) := by
    intro v
    rw [TypeScript.isAbsent, Bool.not_and, decide_not]
  -- the lines are objects by hypothesis, so the extra test of TypeScript never fires
  have hline : ∀ lineFields : List String,
      (lines.any fun line => !line.isObj || lineFields.any fun field =>
        !(line.get field).isEmptyListOrNull) =
      lines.any fun line => lineFields.any fun field => !(line.get field).isEmptyListOrNull := by
    intro lineFields
    apply Bool.eq_iff_iff.2
    rw [List.any_eq_true, List.any_eq_true]
    constructor
    · rintro ⟨line, hmem, hbad⟩
      rw [hlines line hmem, Bool.not_true, Bool.false_or] at hbad
      exact ⟨line, hmem, hbad⟩
    · rintro ⟨line, hmem, hbad⟩
      refine ⟨line, hmem, ?_⟩
      rw [hbad, Bool.or_true]
  have hdiscount : TypeScript.isAbsent (invoice.get "discount") =
      (invoice.get "discount").isNull := rfl
  simp only [TypeScript.hasUnsupportedInvoiceAdjustments, hasUnsupportedInvoiceAdjustments,
    hbalance, hlist, htax, hline, hdiscount, hinvoice, Bool.not_true, Bool.false_or]

/-! ## The payment mapping -/

/-- The only payment is read alike. `strict` says that TypeScript, too, let every field before
    it pass. -/
def paymentReadAlike (strict : Bool) (payment : Json) : Bool :=
  let status := payment.get "status"
  let details := payment.get "payment"
  let type := details.get "type"
  if !payment.isObj then true
  else if !status.hashable then false
  else if !TypeScript.isAbsentOr status "paid" then true
  else if !details.truthy then strict && (details.isNull || details.isObj)
  else if !details.isObj then true
  else type.hashable && (strict ||
    !(TypeScript.isAbsentOr type "charge" || TypeScript.isAbsentOr type "payment_intent"))

/-- The Invoice is read alike: no list or object stands where Python asks for membership, and
    where it lets a falsy value pass that TypeScript refuses, a later field is refused by both. -/
def paymentShapeReadAlike (invoice : Json) : Bool :=
  let outOfBand := invoice.get "paid_out_of_band"
  let payments := invoice.get "payments"
  let hasMore := payments.get "has_more"
  let strict := outOfBand.asInt ≠ some 0
  if !outOfBand.hashable then false
  else if outOfBand.truthy || outOfBand.asStr = some "" then true
  else if !(invoice.get "amount_overpaid").isZeroOrNull then true
  else if payments.isNull then strict
  else if !payments.isObj || hasMore.truthy then true
  else
    let strict := strict && (hasMore.isNull || hasMore.asBool = some false)
    match payments.get "data" with
    | .null => strict
    | .arr [] => strict
    | .arr [payment] => paymentReadAlike strict payment
    | _ => true

/-- A truthy value is not null. -/
theorem Json.isNull_of_truthy {v : Json} (h : v.truthy = true) : v.isNull = false := by
  cases v <;> first | rfl | cases h

theorem TypeScript.unknownType {type : Json} :
    (!isAbsent type && type.asStr ≠ some "charge" && type.asStr ≠ some "payment_intent") =
      !(isAbsentOr type "charge" || isAbsentOr type "payment_intent") := by
  simp only [isAbsentOr]
  cases isAbsent type <;> simp

/-- A falsy `payment` counts as absent for Python; TypeScript wants null or an object. -/
theorem TypeScript.falsyDetails {details : Json} (h : details.truthy = false) :
    (if isAbsent details then false else if !details.isObj then true
      else !isAbsent (details.get "type") && (details.get "type").asStr ≠ some "charge" &&
        (details.get "type").asStr ≠ some "payment_intent") =
      !(details.isNull || details.isObj) := by
  cases details with
  | obj members =>
    -- the only falsy object is the empty one
    cases members with
    | nil => rfl
    | cons _ _ => cases h
  | _ => rfl

/-- The two membership tests of Python are the comparisons of TypeScript. -/
theorem unsupportedPayment_agree {strict : Bool} {payment : Json} :
    unsupportedPayment payment = .ok (!strict || TypeScript.unsupportedPayment payment) ↔
      -- the branches are taken in the source's order, until one decides on both sides
      paymentReadAlike strict payment = true := by
  simp only [unsupportedPayment, TypeScript.unsupportedPayment, paymentReadAlike,
    TypeScript.isNullOr_eq]
  by_cases hpayment : payment.isObj = true
  case neg => simp [hpayment]
  -- Python hashes the status before it compares; an unhashable one raises
  by_cases hstatus : (payment.get "status").hashable = true
  case neg => simp [hpayment, hstatus, bind, Except.bind]
  by_cases hpaid : TypeScript.isAbsentOr (payment.get "status") "paid" = true
  case neg => simp [hpayment, hstatus, hpaid, bind, Except.bind, pure, Except.pure]
  by_cases hdetails : (payment.get "payment").truthy = true
  -- without details both sides look only at whether the field is there
  case neg =>
    rw [Bool.not_eq_true] at hdetails
    rw [TypeScript.falsyDetails hdetails]
    cases (payment.get "payment").isNull <;> cases (payment.get "payment").isObj <;>
      simp [hpayment, hstatus, hpaid, hdetails, bind, Except.bind, pure, Except.pure]
  have hpresent : TypeScript.isAbsent (payment.get "payment") = false :=
    Json.isNull_of_truthy hdetails
  by_cases hobject : (payment.get "payment").isObj = true
  case neg =>
    simp [hpayment, hstatus, hpaid, hdetails, hpresent, hobject, bind, Except.bind, pure,
      Except.pure]
  rw [TypeScript.unknownType]
  by_cases htype : ((payment.get "payment").get "type").hashable = true
  case neg =>
    simp [hpayment, hstatus, hpaid, hdetails, hobject, htype, bind, Except.bind]
  -- the type is a Charge, a PaymentIntent or something that neither knows
  cases TypeScript.isAbsentOr ((payment.get "payment").get "type") "charge" <;>
    cases TypeScript.isAbsentOr ((payment.get "payment").get "type") "payment_intent" <;>
    simp [hpayment, hstatus, hpaid, hdetails, hpresent, hobject, htype, bind, Except.bind, pure,
      Except.pure]

/-- `paid_out_of_band in {None, False}`: an integer zero passes in Python only. -/
theorem TypeScript.outOfBand_eq {v : Json} (hsafe : v.safe = true) (hhash : v.hashable = true) :
    (!isAbsent v && v.asBool ≠ some false) =
      ((v.truthy || v.asStr = some "") || !decide (v.asInt ≠ some 0)) := by
  cases v with
  | null => rfl
  | bool b => cases b <;> rfl
  | int n => by_cases hn : n = 0 <;> simp [isAbsent, Json.isNull, Json.asBool, Json.truthy,
      Json.asStr, Json.asInt, hn]
  | float m e => cases hsafe
  | str s => by_cases hs : s = "" <;> simp [isAbsent, Json.isNull, Json.asBool, Json.truthy,
      Json.asStr, Json.asInt, hs]
  | arr items => cases hhash
  | obj members => cases hhash

theorem TypeScript.hasMore_eq {v : Json} :
    (!isAbsent v && v.asBool ≠ some false) =
      (v.truthy || !(v.isNull || v.asBool = some false)) := by
  cases v with
  | bool b => cases b <;> rfl
  | _ => simp [isAbsent, Json.isNull, Json.asBool, Json.truthy]

/-- **The payment mapping** of an Invoice is read alike exactly then: the Invoice is an object, and
    none of its markers is one of the values that Python takes for `False` or `None` and TypeScript
    does not. -/
theorem invoicePaymentShape_agree {invoice : Json} (hsafe : invoice.safe = true) :
    Python.hasUnsupportedInvoicePaymentShape invoice =
        .ok (TypeScript.hasUnsupportedInvoicePaymentShape invoice) ↔
      invoice.isObj = true ∧ paymentShapeReadAlike invoice = true := by
  rw [Python.hasUnsupportedInvoicePaymentShape, Python.onMapping_eq_ok, and_congr_right_iff]
  intro hinvoice
  simp only [StripeEntitlements.hasUnsupportedInvoicePaymentShape,
    TypeScript.hasUnsupportedInvoicePaymentShape, paymentShapeReadAlike]
  by_cases hhash : (invoice.get "paid_out_of_band").hashable = true
  case neg => simp [hhash]
  rw [TypeScript.outOfBand_eq (Json.safe_get hsafe _) hhash, TypeScript.hasMore_eq,
    TypeScript.isExplicitZero_not (Json.safe_get hsafe _)]
  generalize decide ((invoice.get "paid_out_of_band").asInt ≠ some 0) = strict
  by_cases hband : ((invoice.get "paid_out_of_band").truthy ||
      decide ((invoice.get "paid_out_of_band").asStr = some "")) = true
  case pos => simp [hinvoice, hhash, hband]
  by_cases hover : (invoice.get "amount_overpaid").isZeroOrNull = true
  case neg => simp [hinvoice, hhash, hband, hover]
  by_cases hnull : (invoice.get "payments").isNull = true
  case pos => simp [hinvoice, hhash, hband, hover, hnull, TypeScript.isAbsent]
  by_cases hobject : (invoice.get "payments").isObj = true
  case neg => simp [hinvoice, hhash, hband, hover, hnull, hobject, TypeScript.isAbsent]
  generalize invoice.get "payments" = payments at hnull hobject ⊢
  by_cases hmore : (payments.get "has_more").truthy = true
  case pos => simp [hinvoice, hhash, hband, hover, hnull, hobject, hmore, TypeScript.isAbsent]
  generalize ((payments.get "has_more").isNull ||
    decide ((payments.get "has_more").asBool = some false)) = single
  -- from here on a field TypeScript refused only shows in `strict` and `single`
  have hsame : ∀ x : Bool, (if !strict then true else if !single then true else x) =
      (!(strict && single) || x) := by
    intro x
    cases strict <;> cases single <;> rfl
  simp only [hinvoice, hhash, hband, hover, hnull, hobject, hmore, TypeScript.isAbsent, Bool.not_true,
    Bool.false_eq_true, if_false, Bool.false_or, hsame]
  cases payments.get "data" with
  | arr items =>
    match items with
    | [] => cases strict <;> cases single <;> simp
    | [payment] => exact unsupportedPayment_agree
    | _ :: _ :: _ => simp
  | null => cases strict <;> cases single <;> simp
  | _ => simp

end StripeEntitlements
