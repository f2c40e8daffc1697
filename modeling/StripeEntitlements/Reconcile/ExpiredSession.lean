import StripeEntitlements.Reconcile.Contracts
import StripeEntitlements.Redelivery.Packs

/-!
# The Handler of an Expired Session

A Session that the reconciler accepted as expired and unpaid is accepted by the handler of
`checkout.session.expired` as well; the TypeScript handler also asks for a Customer.

## Main results

- `packCheckoutEvent_expired`, `TypeScript.packCheckoutEvent_expired` — the order expires
- `TypeScript.packCheckoutEvent_unnamed` — without a Customer it does not
-/

namespace StripeEntitlements

open Relational

/-! ## Identities -/

namespace TypeScript

theorem uuidOf_canonical {id : String} (h : canonicalUuid id = some id) :
    uuidOf (.str id) = some id := by
  have hlower : String.ofList (id.toList.map Char.toLower) = id := by
    rw [canonicalUuid_lower h, String.ofList_toList]
  simp [uuidOf, Json.asStr, hlower, h]

end TypeScript

/-! ## The Event of an expired Session -/

/-- The Event that projects an expired Session of a leased order. -/
structure ExpiryEvent (e : Event) (raw : Json) : Prop where
  kind : e.kind = .checkoutSessionExpired
  object : e.object = raw

section

variable {rt : ReconcilerRuntime} {claim : CreditPackReconcileClaim} {e : Event} {raw : Json}
  {sessionId : String} {customerId paymentIntentId : Option String} {created : Nat} {b : Billing}
  {account : Account} {o : PackOrder}

/-- The order that was leased, as far as its contract goes. -/
structure LeasedOrder (claim : CreditPackReconcileClaim) (account : Account) (o : PackOrder) :
    Prop where
  id : o.id = claim.orderId
  owner : o.accountId = claim.accountId
  account : account.id = claim.accountId
  session : o.stripeCheckoutSessionId = claim.sessionId
  request : o.requestCustomerId = claim.requestCustomerId
  pending : o.paymentStatus = .pending
  packKey : o.packKey = claim.packKey
  packCredits : o.packCredits = claim.packCredits
  priceAmount : o.priceAmount = claim.priceAmount
  currency : o.currency = claim.currency
  expiresDays : o.expiresDays = claim.expiresDays
  lookupKey : o.priceLookupKey = claim.lookupKey

/-- The metadata that the reconciler compared is the metadata of the order. -/
theorem metadataMatchesOrder_of_claim (ho : LeasedOrder claim account o)
    (h : rt.metadataMatches claim raw = true) : metadataMatchesOrder rt.cfg raw o = true := by
  rw [ReconcilerRuntime.metadataMatches, Bool.and_eq_true] at h
  rw [metadataMatchesOrder, ho.id, ho.owner, ho.packKey, ho.packCredits, ho.priceAmount,
    ho.currency, ho.expiresDays, ho.lookupKey]
  exact h.2

theorem metadata_text (h : metadataMatchesOrder rt.cfg raw o = true) :
    (raw.get "metadata").get "credit_pack_order_id" = .str o.id ∧
    (raw.get "metadata").get "account_id" = .str o.accountId ∧
    ((raw.get "metadata").get "billing_kind").asStr = some "credit_pack" ∧
    ((raw.get "metadata").get "pack_schema_version").asStr = some "1" ∧
    ((raw.get "metadata").get "product_line").asStr = some rt.cfg.productLine ∧
    ((raw.get "metadata").get "pack_key").asStr = some o.packKey := by
  simp only [metadataMatchesOrder, List.all_cons, List.all_nil, Bool.and_true, Bool.and_eq_true,
    decide_eq_true_eq] at h
  obtain ⟨hkind, hversion, hline, horder, haccount, hkey, -⟩ := h
  have hstr : ∀ {v : Json} {s : String}, v.asStr = some s → v = .str s := by
    intro v s hv
    cases v <;> cases hv
    rfl
  exact ⟨hstr horder, hstr haccount, hkind, hversion, hline, hkey⟩

/-- What both handlers compare of the Session, but for its amount and its metadata identity. -/
theorem expired_opening (he : ExpiryEvent e raw)
    (h : ExpiredSession rt claim sessionId raw customerId paymentIntentId created) :
    packSessionOpening e = true := by
  have hstatus : (raw.get "status").asStr = some "expired" := by rw [h.status]; rfl
  simp only [packSessionOpening, he.object, he.kind, h.object, h.mode, hstatus, if_true,
    decide_true, Bool.and_self]

theorem packSessionMatches_expired (he : ExpiryEvent e raw)
    (h : ExpiredSession rt claim sessionId raw customerId paymentIntentId created)
    (ho : LeasedOrder claim account o) (hinteger : rt.integer = Json.asInt)
    (hid : canonicalUuid o.id = some o.id) (howner : canonicalUuid o.accountId = some o.accountId) :
    packSessionMatches rt.cfg e account o = true := by
  have hmetadata := metadataMatchesOrder_of_claim ho h.metadata
  obtain ⟨horder, haccount, hkind, hversion, hline, hkey⟩ := metadata_text hmetadata
  have hidentity : packOrderMetadata rt.cfg raw = some ⟨o.id, account.id, o.packKey⟩ := by
    rw [ho.account, ← ho.owner]
    simp only [packOrderMetadata, hkind, hversion, hline, hkey, horder, haccount, Json.text, hid,
      howner, decide_true, Bool.and_self, guard, if_true, Option.bind_eq_bind, Option.bind_some,
      pure]
  have hamount : (raw.get "amount_total").asNat = some o.priceAmount := by
    have hread := (remoteInteger_eq_ok.1 h.amount).1
    rw [hinteger] at hread
    rw [Json.asNat, hread, ho.priceAmount]
    simp
  have hcustomer := stripeId_of_optionalRemoteId h.customer
  have hunpaid : (raw.get "payment_status").asStr = some "unpaid" := by rw [h.unpaid]; rfl
  simp only [packSessionMatches, expired_opening he h, he.object, hidentity, hmetadata, hamount,
    hunpaid, h.reference, h.currency, hcustomer, ho.account, ho.currency, ho.request, h.compatible,
    decide_true, Bool.true_or, Bool.and_self]

/-- The handler of the expired Session comes to the order. -/
theorem packCheckoutEvent_order_of_session (he : ExpiryEvent e raw)
    (h : ExpiredSession rt claim sessionId raw customerId paymentIntentId created)
    (hrow : b.orders.find? o.id = some o) (hsession : o.stripeCheckoutSessionId = some sessionId) :
    rt.cfg.unicode.stripeId (e.object.get "id") "cs_" = some sessionId ∧
      b.orders.rows.find? (·.stripeCheckoutSessionId = some sessionId) = some o := by
  refine ⟨?_, ?_⟩
  · rw [he.object, h.id]
    exact stripeId_of_remoteId h.remoteId
  · obtain ⟨found, hfound⟩ : ∃ found, b.orders.rows.find?
        (·.stripeCheckoutSessionId = some sessionId) = some found := by
      rw [← Option.isSome_iff_exists]
      exact List.find?_isSome.2 ⟨o, Table.find?_mem hrow, by simp [hsession]⟩
    rw [hfound, order_of_session hrow hsession hfound]

/-- The handler expires the order and writes nothing else. -/
def Expires (b : Billing) (o : PackOrder) (run : Transaction Effect) : Prop :=
  ∃ effect orders, run = .ok effect ∧ effect.incidents = [] ∧ effect.result.outcome = .handled ∧
    effect.billing = { b with orders } ∧
    orders.find? o.id = some { o with checkoutStatus := .expired, sessionUrl := none }

/-- The handler finds the contract of the Session broken. -/
def Refuses (run : Transaction Effect) : Prop :=
  ∃ effect, run = .ok effect ∧ effect.result.outcome = .ignored ∧
    effect.result.reason = some "credit-pack Checkout contract is conflicting"

/-- The write of the handler. -/
theorem expirePackCheckout_pending (account : Account) (hrow : b.orders.find? o.id = some o)
    (hsession : o.stripeCheckoutSessionId = some sessionId) (hpending : o.paymentStatus = .pending) :
    attachPackSession b o sessionId = .ok b ∧ Expires b o (expirePackCheckout b account o) := by
  -- the Session is on the order already, so attaching it writes nothing
  have hattached : attachPackSession b o sessionId = .ok b := by
    rw [attachPackSession, hsession]
    rfl
  -- the expiry keeps the order's constraints: with a Session any Checkout status is allowed
  obtain ⟨orders, horders⟩ : ∃ orders, b.orders.update? o.id (fun o : PackOrder =>
      { o with checkoutStatus := .expired, sessionUrl := none }) = some orders := by
    rw [Table.update?_of_guarded (p := fun x : PackOrder => x.stripeCheckoutSessionId.isSome) hrow
      (by rw [hsession]; rfl)]
    refine Table.updateWhere?_isSome (fun _ => rfl) ?_ ?_
    · intro r hr hp
      have hcheck := b.orders.valid.checked r hr
      rw [Bool.and_eq_true] at hp
      simp only [Relation.check, Bool.and_eq_true] at hcheck ⊢
      exact ⟨⟨⟨⟨⟨hcheck.1.1.1.1.1, by rw [hp.2, Bool.true_or]⟩, hcheck.1.1.1.2⟩,
        hcheck.1.1.2⟩, hcheck.1.2⟩, hcheck.2⟩
    -- no index reads the two columns that are written
    · intro ix hix r
      simp only [Relation.indexes, List.mem_cons, List.not_mem_nil, or_false] at hix
      rcases hix with rfl | rfl | rfl | rfl <;> rfl
  have hself := Table.find?_update_self horders fun _ => rfl
  rw [hrow, Option.map_some] at hself
  have hupdate : b.update o.id (fun o : PackOrder =>
      { o with checkoutStatus := .expired, sessionUrl := none }) = .ok { b with orders } :=
    Billing.update_eq_ok.2 ⟨orders, horders, rfl⟩
  refine ⟨hattached, { billing := { b with orders }, result := {
    outcome := .handled
    reason := some "credit-pack Checkout expired"
    accountId := some account.id } }, orders, ?_, rfl, rfl, rfl, hself⟩
  rw [expirePackCheckout, if_pos hpending, hupdate]
  rfl

/-- **The Python handler** expires the order. -/
theorem packCheckoutEvent_expired (he : ExpiryEvent e raw)
    (h : ExpiredSession rt claim sessionId raw customerId paymentIntentId created)
    (ho : LeasedOrder claim account o) (hinteger : rt.integer = Json.asInt)
    (hrow : b.orders.find? o.id = some o) (haccount : b.accounts.find? o.accountId = some account)
    (hsession : claim.sessionId = some sessionId)
    (hid : canonicalUuid o.id = some o.id) (howner : canonicalUuid o.accountId = some o.accountId) :
    ∃ run, packCheckoutEvent rt.cfg b e = some run ∧ Expires b o run := by
  have hbound : o.stripeCheckoutSessionId = some sessionId := ho.session.trans hsession
  obtain ⟨hread, hfound⟩ := packCheckoutEvent_order_of_session he h hrow hbound
  -- the order is found by the Session it carries
  obtain ⟨hattach, hexpire⟩ := expirePackCheckout_pending account hrow hbound ho.pending
  refine ⟨packCheckout rt.cfg b e sessionId o, ?_, ?_⟩
  · simp only [packCheckoutEvent, hread, hfound, Option.bind_eq_bind, Option.bind_some]
  · have hhashable : (e.object.get "payment_status").hashable = true := by
      rw [he.object, h.unpaid]
      rfl
    -- each guard of the handler holds of an expired Session of this order
    have hguards : packCheckoutGuards rt.cfg b e sessionId o = .ok account := by
      simp only [packCheckoutGuards, bind_eq_ok, fetch_eq_ok, require_eq_ok, pure_eq_ok]
      refine ⟨account, haccount, (), ?_, (), ?_, (), ?_, rfl⟩
      · rw [hbound]
        simp [unboundOr]
      · rw [hhashable, Bool.or_true]
      · exact packSessionMatches_expired he h ho hinteger hid howner
    rw [packCheckout, hguards]
    show Expires b o (attachPackSession b o sessionId >>= fun b => _)
    rw [hattach]
    show Expires b o (if e.kind = .checkoutSessionExpired then expirePackCheckout b account o else _)
    rw [if_pos he.kind]
    exact hexpire

namespace TypeScript

/-- The TypeScript handler accepts the Session exactly when it names a Customer. -/
theorem packSessionMatches_expired (he : ExpiryEvent e raw)
    (h : ExpiredSession rt claim sessionId raw customerId paymentIntentId created)
    (ho : LeasedOrder claim account o) (hinteger : rt.integer = safeInteger)
    (hid : canonicalUuid o.id = some o.id) (howner : canonicalUuid o.accountId = some o.accountId) :
    packSessionMatches rt.cfg e account o = customerId.isSome := by
  have hmetadata := metadataMatchesOrder_of_claim ho h.metadata
  obtain ⟨horder, haccount, hkind, hversion, hline, hkey⟩ := metadata_text hmetadata
  have hidentity : packOrderMetadata rt.cfg raw = some ⟨o.id, account.id, o.packKey⟩ := by
    rw [ho.account, ← ho.owner]
    simp only [packOrderMetadata, hkind, hversion, hline, hkey, horder, haccount,
      uuidOf_canonical hid, uuidOf_canonical howner, decide_true, Bool.and_self, guard, if_true,
      Option.bind_eq_bind, Option.bind_some, pure]
  have hamount : stripeNonnegativeInteger (raw.get "amount_total") = some o.priceAmount := by
    have hread := (remoteInteger_eq_ok.1 h.amount).1
    rw [hinteger] at hread
    rw [stripeNonnegativeInteger, hread, ho.priceAmount]
    simp
  have hcustomer := stripeId_of_optionalRemoteId h.customer
  have hunpaid : (raw.get "payment_status").asStr = some "unpaid" := by rw [h.unpaid]; rfl
  simp only [packSessionMatches, expired_opening he h, he.object, hidentity, hmetadata, hamount,
    hunpaid, h.reference, h.currency, hcustomer, ho.account, ho.currency, ho.request, h.compatible,
    decide_true, Bool.true_or, Bool.and_self, Bool.true_and, Bool.and_true]

/-- **The TypeScript handler** expires the order of a Session that names a Customer. -/
theorem packCheckoutEvent_expired (he : ExpiryEvent e raw)
    (h : ExpiredSession rt claim sessionId raw customerId paymentIntentId created)
    (ho : LeasedOrder claim account o) (hinteger : rt.integer = safeInteger)
    (hrow : b.orders.find? o.id = some o) (haccount : b.accounts.find? o.accountId = some account)
    (hsession : claim.sessionId = some sessionId) (hnamed : customerId.isSome = true)
    (hid : canonicalUuid o.id = some o.id) (howner : canonicalUuid o.accountId = some o.accountId) :
    ∃ run, packCheckoutEvent rt.cfg b e = some run ∧ Expires b o run := by
  have hbound : o.stripeCheckoutSessionId = some sessionId := ho.session.trans hsession
  obtain ⟨hread, hfound⟩ := packCheckoutEvent_order_of_session he h hrow hbound
  obtain ⟨hattach, hexpire⟩ := expirePackCheckout_pending account hrow hbound ho.pending
  refine ⟨packCheckout rt.cfg b e sessionId o, ?_, ?_⟩
  · simp only [packCheckoutEvent, hread, hfound, Option.bind_eq_bind, Option.bind_some]
  · have hguards : packCheckoutGuards rt.cfg b e sessionId o = .ok account := by
      simp only [packCheckoutGuards, bind_eq_ok, fetch_eq_ok, require_eq_ok, pure_eq_ok]
      refine ⟨account, haccount, (), ?_, (), ?_, rfl⟩
      · rw [hbound]
        simp [unboundOr]
      · rw [packSessionMatches_expired he h ho hinteger hid howner, hnamed]
    rw [packCheckout, hguards]
    show Expires b o (attachPackSession b o sessionId >>= fun b => _)
    rw [hattach]
    show Expires b o (if e.kind = .checkoutSessionExpired then expirePackCheckout b account o else _)
    rw [if_pos he.kind]
    exact hexpire

/-- **A Session without a Customer** is refused, although nobody paid. -/
theorem packCheckoutEvent_unnamed (he : ExpiryEvent e raw)
    (h : ExpiredSession rt claim sessionId raw none paymentIntentId created)
    (ho : LeasedOrder claim account o) (hinteger : rt.integer = safeInteger)
    (hrow : b.orders.find? o.id = some o) (haccount : b.accounts.find? o.accountId = some account)
    (hsession : claim.sessionId = some sessionId)
    (hid : canonicalUuid o.id = some o.id) (howner : canonicalUuid o.accountId = some o.accountId) :
    ∃ run, packCheckoutEvent rt.cfg b e = some run ∧ Refuses run := by
  have hbound : o.stripeCheckoutSessionId = some sessionId := ho.session.trans hsession
  obtain ⟨hread, hfound⟩ := packCheckoutEvent_order_of_session he h hrow hbound
  have hrefused : packSessionMatches rt.cfg e account o = false :=
    packSessionMatches_expired he h ho hinteger hid howner
  refine ⟨packCheckout rt.cfg b e sessionId o, ?_, {
    billing := b
    incidents := [.observe .creditPackCheckoutContractMismatch sessionId none (some account.id)]
    result := {
      outcome := .ignored
      reason := some "credit-pack Checkout contract is conflicting" } }, ?_, rfl, rfl⟩
  -- the Session is read and its order found, as on the Python side
  · simp only [packCheckoutEvent, hread, hfound, Option.bind_eq_bind, Option.bind_some]
  · have hown : unboundOr o.stripeCheckoutSessionId (some sessionId) = true := by
      rw [hbound]
      simp [unboundOr]
    -- the contract needs a Customer, and this Session names none
    have hguards : packCheckoutGuards rt.cfg b e sessionId o = .error (Stop.ignored
        .creditPackCheckoutContractMismatch sessionId none (some account.id)
        "credit-pack Checkout contract is conflicting" none) := by
      rw [packCheckoutGuards, haccount, hown]
      show (require (packSessionMatches rt.cfg e account o) _ >>= fun _ => _) = _
      rw [hrefused]
      rfl
    rw [packCheckout, hguards]
    rfl

end TypeScript

end

end StripeEntitlements
