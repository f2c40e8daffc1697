import StripeEntitlements.PlanChanges.SettledIntent

/-!
# The Authority of a Paid Invoice

An Invoice completes an intent by authority: the intent was confirmed and is not final, and it is
bound to this Invoice or to none. The prorated selection does not ask for the status of a row that
is bound already, and no selection asks whether another row is.

## Main results

- `SettlesByAuthority` — what a paid Event may do to the intents and the plan of an account
- `paid_invoice_authority` — it does no more while the bound row is open, and a handled one only
  then
- `late_invoice_completes_failed` — an Invoice that is paid late completes a failed intent
- `late_invoice_refused` — or it is refused for the row it is bound to
-/

namespace StripeEntitlements

open Relational

variable {cfg : Config} {tx : Tx} {b : Billing} {e : Event} {p : PaidInvoice} {c r : PlanChange}

/-! ## Authority -/

/-- An intent that an Invoice may settle: confirmed and not yet final, and bound to no other
    Invoice. -/
structure PlanChange.Authorizes (c : PlanChange) (invoiceId : String) : Prop where
  status : c.status.authorizes = true
  binding : c.settlementInvoiceId = none ∨ c.settlementInvoiceId = some invoiceId

/-- The columns that a settlement writes. -/
def PlanChange.settledBy (invoiceId : String) (status : PlanChangeStatus)
    (lastError : Option String) (c : PlanChange) : PlanChange :=
  { c with
    status
    settlementInvoiceId := some invoiceId
    lastError := lastError.or c.lastError
    leaseToken := none
    leaseExpiresAt := none }

/-- A paid Event settles the intents of its Invoice by authority. -/
structure SettlesByAuthority (cfg : Config) (tx : Tx) (db : Db) (e : Event) : Prop where
  /-- A row that it completes was open for this Invoice just before. -/
  completed : ∀ {db' : Db} {result : ProcessResult}, process cfg tx db e = .ok (db', result) →
    ∀ c' ∈ db'.billing.planChanges.rows, c'.status = .completed →
      c' ∈ db.billing.planChanges.rows ∨
        ∃ c ∈ db.billing.planChanges.rows, c.id = c'.id ∧ c.Authorizes e.invoiceId
  /-- So was the row whose target it grants, and it is completed. -/
  granted : ∀ {db' : Db} {result : ProcessResult}, process cfg tx db e = .ok (db', result) →
    result.outcome = .handled → ∀ {p : PaidInvoice} {c : PlanChange},
      settledIntent cfg db.billing e = some (p, c) → c.Authorizes e.invoiceId ∧
        ∃ c' ∈ db'.billing.planChanges.rows, c'.id = c.id ∧ c'.status = .completed
  /-- But for a first Invoice, an account moves only to the target of such a row. -/
  moved : ∀ {db' : Db} {result : ProcessResult}, process cfg tx db e = .ok (db', result) →
    (e.object.get "billing_reason").asStr ≠ some "subscription_create" →
    ∀ {k : String} {a a' : Account}, db.billing.accounts.find? k = some a →
      db'.billing.accounts.find? k = some a' →
      (a'.planKey, a'.planInterval) ≠ (a.planKey, a.planInterval) →
      ∃ p c, settledIntent cfg db.billing e = some (p, c) ∧ c.Authorizes e.invoiceId ∧
        c.accountId = k ∧ a'.planKey = c.targetPlanKey ∧ a'.planInterval = some c.targetInterval
  /-- Beside a row that is bound to the Invoice, no other row is written or used. -/
  exclusive : ∀ r ∈ db.billing.planChanges.rows, r.settlementInvoiceId = some e.invoiceId →
    (∀ {db' : Db} {result : ProcessResult}, process cfg tx db e = .ok (db', result) →
      ∀ c ∈ db.billing.planChanges.rows, c ≠ r → c ∈ db'.billing.planChanges.rows) ∧
    ∀ {p : PaidInvoice} {c : PlanChange}, settledIntent cfg db.billing e = some (p, c) → c = r
  /-- No statement that binds the settled row to the Invoice is refused. -/
  binds : ∀ {p : PaidInvoice} {c : PlanChange}, settledIntent cfg db.billing e = some (p, c) →
    ∀ {b : Billing}, b.planChanges = db.billing.planChanges →
    ∀ {status : PlanChangeStatus}, status.isPending = false → ∀ lastError : Option String,
      (∃ b', settleTransition b c p.invoiceId status lastError = .ok b') ∧
        ∃ b', b.update c.id (PlanChange.settledBy p.invoiceId status lastError) = .ok b'

/-- The row that is bound to an accepted Invoice, if there is one, belongs to its account and is
    still open. -/
def boundIntentOpen (cfg : Config) (b : Billing) (e : Event) : Bool :=
  (settledIntent cfg b e).all fun (p, _) => b.planChanges.rows.all fun r =>
    r.settlementInvoiceId ≠ some p.invoiceId ||
      (r.accountId = p.account.id && r.status.authorizes)

theorem boundIntentOpen_eq_true :
    boundIntentOpen cfg b e = true ↔ ∀ p c, settledIntent cfg b e = some (p, c) →
      ∀ r ∈ b.planChanges.rows, r.settlementInvoiceId = some p.invoiceId →
        r.accountId = p.account.id ∧ r.status.authorizes = true := by
  simp only [boundIntentOpen, Option.all_eq_true, List.all_eq_true, Bool.or_eq_true,
    Bool.and_eq_true, decide_eq_true_eq, Prod.forall, ne_eq, decide_not, Bool.not_eq_true',
    decide_eq_false_iff_not, ← imp_iff_not_or]

/-! ## One row per Invoice -/

theorem PlanChangeStatus.authorizes_pending {s : PlanChangeStatus} (h : s.authorizes = true) :
    s.isPending = true := by
  cases s <;> first | rfl | cases h

/-- An account has one pending intent. -/
theorem pending_unique {c r : PlanChange} (hc : c ∈ b.planChanges.rows)
    (hr : r ∈ b.planChanges.rows) (haccount : c.accountId = r.accountId)
    (hc' : c.status.isPending = true) (hr' : r.status.isPending = true) : c = r := by
  have hindex : (fun c : PlanChange => if c.status.isPending then some [c.accountId] else none) ∈
      (Relation.indexes : List (PlanChange → Option (List String))) := by
    simp [Relation.indexes]
  exact b.planChanges.eq_of_index_eq hindex hc hr (if_pos hc') (by rw [if_pos hr', haccount])

/-- An Invoice is bound to one intent. -/
theorem bound_unique {c r : PlanChange} {invoiceId : String} (hc : c ∈ b.planChanges.rows)
    (hr : r ∈ b.planChanges.rows) (hc' : c.settlementInvoiceId = some invoiceId)
    (hr' : r.settlementInvoiceId = some invoiceId) : c = r := by
  have hindex : (fun c : PlanChange => c.settlementInvoiceId.map ([·])) ∈
      (Relation.indexes : List (PlanChange → Option (List String))) := by
    simp [Relation.indexes]
  exact b.planChanges.eq_of_index_eq hindex hc hr (by rw [hc']; rfl) (by rw [hr']; rfl)

/-- Where the bound row is open, it is the one that is settled. -/
theorem settledIntent_exclusive (hopen : boundIntentOpen cfg b e = true)
    (h : settledIntent cfg b e = some (p, c)) (hr : r ∈ b.planChanges.rows)
    (hbound : r.settlementInvoiceId = some p.invoiceId) : c = r := by
  obtain ⟨-, hrow, haccount, hbinding, hstatus⟩ := settledIntent_spec h
  obtain ⟨hsame, hauthorizes⟩ := boundIntentOpen_eq_true.1 hopen p c h r hr hbound
  rcases hbinding with hbinding | hunbound
  · exact bound_unique hrow hr hbinding hbound
  · exact pending_unique hrow hr (haccount.trans hsame.symm)
      (PlanChangeStatus.authorizes_pending (hstatus hunbound))
      (PlanChangeStatus.authorizes_pending hauthorizes)

theorem settledIntent_authorizes (hopen : boundIntentOpen cfg b e = true)
    (h : settledIntent cfg b e = some (p, c)) : c.Authorizes e.invoiceId := by
  obtain ⟨hid, hrow, -, hbinding, hstatus⟩ := settledIntent_spec h
  rw [← hid]
  rcases hbinding with hbound | hunbound
  · exact ⟨(boundIntentOpen_eq_true.1 hopen p c h c hrow hbound).2, .inr hbound⟩
  · exact ⟨hstatus hunbound, .inl hunbound⟩

/-- A row can be settled with an Invoice that no other row is bound to. -/
theorem settledBy_accepted {invoiceId : String} {status : PlanChangeStatus}
    (lastError : Option String) (hfree : ∀ r ∈ b.planChanges.rows,
      r.settlementInvoiceId = some invoiceId → r = c) (hstatus : status.isPending = false) :
    ∃ planChanges, b.planChanges.update? c.id (PlanChange.settledBy invoiceId status lastError) =
      some planChanges := by
  refine Table.update?_isSome_of_fresh (fun _ => rfl) (fun _ => rfl) ?_
  intro ix hix r hr hk x hx r' hr' hx'
  -- three indexes are on columns that stay, one is on the Invoice, one is partial to pending rows
  simp only [Relation.indexes, List.mem_cons, List.not_mem_nil, or_false] at hix
  have hkept : ix (PlanChange.settledBy invoiceId status lastError r) = ix r →
      Relation.key r' = c.id := fun hsame => by
    rw [← b.planChanges.eq_of_index_eq (by simpa [Relation.indexes] using hix) hr hr'
      (hsame ▸ hx) hx']
    exact hk
  rcases hix with rfl | rfl | rfl | rfl | rfl
  · exact hkept rfl
  · exact hkept rfl
  · exact hkept rfl
  · cases hx
    exact congrArg PlanChange.id (hfree r' hr' (by simpa using hx'))
  · simp [PlanChange.settledBy, hstatus] at hx

/-! ## When an Invoice settles by authority -/

/-- While the row bound to an Invoice is open, the Invoice settles by authority. -/
theorem boundIntentOpen_authority {db : Db} (hkind : e.kind = .invoicePaid)
    (hopen : boundIntentOpen cfg db.billing e = true) : SettlesByAuthority cfg tx db e where
  completed := by
    intro db' result h c' hc' hcompleted
    rcases process_settles hkind h with hkept | ⟨p, c, f, hc, hid, hupdate⟩
    · exact .inl (hkept ▸ hc')
    rw [Table.update?_eq_some.1 hupdate] at hc'
    obtain ⟨c₀, hc₀, rfl⟩ := List.mem_map.1 hc'
    split
    case isFalse => exact .inl hc₀
    case isTrue hk =>
      have hsame : c₀ = c := db.billing.planChanges.eq_of_key_eq hc₀ (settledIntent_spec hc).2.1 hk
      exact .inr ⟨c₀, hc₀, (hid c₀).symm, hsame ▸ settledIntent_authorizes hopen hc⟩
  granted h hhandled _ _ hc :=
    ⟨settledIntent_authorizes hopen hc, process_completes hkind h hhandled hc⟩
  moved := by
    intro db' result h hreason k a a' ha ha' hmoved
    obtain ⟨p, c, hc, haccount, htarget, hinterval⟩ :=
      process_moves hkind h hreason ha ha' hmoved
    exact ⟨p, c, hc, settledIntent_authorizes hopen hc, haccount, htarget, hinterval⟩
  exclusive := by
    intro r hr hbound
    have hexclusive : ∀ {p : PaidInvoice} {c : PlanChange},
        settledIntent cfg db.billing e = some (p, c) → c = r := fun hc =>
      settledIntent_exclusive hopen hc hr ((settledIntent_spec hc).1 ▸ hbound)
    refine ⟨fun h c hc hne => ?_, hexclusive⟩
    rcases process_settles hkind h with hkept | ⟨p, c', f, hc', hid, hupdate⟩
    · exact hkept ▸ hc
    · rw [Table.update?_eq_some.1 hupdate]
      refine List.mem_map.2 ⟨c, hc, if_neg fun hk => hne ?_⟩
      rw [hexclusive hc'] at hk
      exact db.billing.planChanges.eq_of_key_eq hc hr hk
  binds := by
    intro p c hc b hb status hstatus lastError
    obtain ⟨-, hrow, -, hbinding, -⟩ := settledIntent_spec hc
    obtain ⟨planChanges, hupdate⟩ := settledBy_accepted (b := db.billing) lastError
      (fun r hr hbound => (settledIntent_exclusive hopen hc hr hbound).symm) hstatus
    rw [← hb] at hupdate hrow
    have hfind : b.planChanges.find? c.id = some c := Table.find?_of_mem hrow
    refine ⟨?_, _, Billing.update_eq_ok.2 ⟨planChanges, hupdate, rfl⟩⟩
    -- the binding that `coalesce` leaves is this Invoice, on a row that was open for it
    have hsettled : b.planChanges.update? c.id (fun x =>
        { x with
          status
          settlementInvoiceId := x.settlementInvoiceId.or (some p.invoiceId)
          lastError := lastError.or x.lastError
          leaseToken := none
          leaseExpiresAt := none }) = some planChanges := by
      rw [← hupdate]
      refine Table.update?_congr fun x hx => ?_
      cases hfind.symm.trans hx
      rcases hbinding with hbound | hunbound
      · simp [PlanChange.settledBy, hbound]
      · simp [PlanChange.settledBy, hunbound]
    refine ⟨{ b with planChanges := planChanges }, ?_⟩
    simp only [settleTransition, bind_eq_ok, require_eq_ok]
    refine ⟨(), ?_, Billing.update_eq_ok.2 ⟨planChanges, hsettled, rfl⟩⟩
    rcases hbinding with hbound | hunbound
    · simp [hfind, hbound]
    · simp [hfind, hunbound]

/-- **A paid Invoice settles by authority** while the row that is bound to it is open. Such a row
    is the only pending one of its account, so whichever selection runs can find no other; and no
    row but the settled one is written. A handled Invoice settles by authority only then: the
    settled row would be another one, or a final one. -/
theorem paid_invoice_authority {db : Db} (hkind : e.kind = .invoicePaid) :
    (boundIntentOpen cfg db.billing e = true → SettlesByAuthority cfg tx db e) ∧
    ∀ {db' : Db} {result : ProcessResult}, process cfg tx db e = .ok (db', result) →
      result.outcome = .handled →
      (SettlesByAuthority cfg tx db e ↔ boundIntentOpen cfg db.billing e = true) := by
  refine ⟨boundIntentOpen_authority hkind, fun h hhandled => ⟨fun hauthority => ?_,
    boundIntentOpen_authority hkind⟩⟩
  rw [boundIntentOpen_eq_true]
  intro p c hc r hr hbound
  obtain ⟨hid, hrow, haccount, -⟩ := settledIntent_spec hc
  have hsame := (hauthority.exclusive r hr (hid ▸ hbound)).2 hc
  subst hsame
  exact ⟨haccount, (hauthority.granted h hhandled hc).1.status⟩

/-! ## A late Invoice -/

def starterPlan : Plan where
  key := "starter"
  rank := 10
  monthlyCredits := 300000000
  monthUsd := 19
  yearUsd := 137

/-- The Subscription of the starter as the gateway reads it for an upgrade. -/
def starterContext : PlanChangeContext where
  subscriptionId := "sub_1"
  subscriptionItemId := "si_1"
  currentPriceId := "price_starter_month"
  currentLookupKey := referenceCatalog.lookupKey starterPlan .month
  targetPriceId := "price_pro_month"
  targetInterval := .month
  currentPeriodStart := 0
  currentPeriodEnd := 2678400000000
  scheduleId := none

/-- The difference of two whole months. -/
def deltaEstimate : PlanChangeEstimate where
  amountDue := 3000
  prorationCredit := 0
  customerBalanceCredit := 0
  currency := "usd"
  safeInvoiceShape := true
  sourceProrationAmount := 1900
  targetProrationAmount := 4900
  periodStart := some 1000000
  periodEnd := some 2678400000000

/-- A new whole month. -/
def resetEstimate : PlanChangeEstimate where
  amountDue := 4900
  prorationCredit := 0
  customerBalanceCredit := 0
  currency := "usd"
  safeInvoiceShape := true

/-- Upgrades that start a new period. -/
def resetSettings : PlanChangeSettings :=
  { upgradeSettings with transitionPolicy := .fullPeriodReset }

/-- The starter asks for the next tier, sees the preview and confirms it. -/
def confirmUpgrade (settings : PlanChangeSettings) (estimate : PlanChangeEstimate) (now : Tx)
    (changeId : String) (b : Billing) : Transaction (Billing × PlanChange × PlanChangePreview) := do
  let (b, row, _) ← reservePlanChange settings referenceCatalog now b changeId
    ⟨referenceAccountId, "pro", "month", changeId⟩
  let (b, _) ← acquireLease settings now b changeId "preview" .reserved
  require (row.status = .reserved) .constraint
  revalidateBeforeRemote referenceCatalog b row starterContext
    (referenceCatalog.lookupKey proPlan .month)
  let preview ← row.preview referenceConfig now starterContext estimate
  let snapshot ← buildRequestSnapshot settings referenceConfig row preview
  let (b, _) ← storePreview writtenColumn now b row.id "preview" preview snapshot
  let (b, _) ← acquireConfirmationLease settings now b changeId "confirm"
  pure (b, row, preview)

/-- Stripe answers with an open Invoice, and the update it belongs to runs out in ten seconds. -/
def pendingUpgrade (settings : PlanChangeSettings) (estimate : PlanChangeEstimate) :
    Transaction (Billing × PlanChange) := do
  let now := referenceTx 1000000
  let (b, row, preview) ← confirmUpgrade settings estimate now "change" starterBilling
  let (b, _) ← markRemoteStarted now b "change" "confirm"
  let remote : RemotePlanChange := {
    remoteId := "in_2", pendingUpdate := true, pendingExpiresAt := some 10000000
    settlementInvoiceId := some "in_2" }
  let (db, _) ← finishPlanChange now { Db.empty with billing := b } "change" "confirm"
    (remote.outcome preview.decision starterContext)
  pure (db.billing, row)

/-- The customer retries after it ran out, and the intent is failed. -/
def expiredUpgrade : Transaction (Billing × List PlanChange) := do
  let (b, row) ← pendingUpgrade upgradeSettings deltaEstimate
  let (b, again, _) ← reservePlanChange upgradeSettings referenceCatalog (referenceTx 20000000) b
    "again" ⟨referenceAccountId, "pro", "month", "again"⟩
  pure (b, [again, row])

/-- The customer asks for the same plan again, and confirms it. -/
def repeatedUpgrade : Transaction (Billing × List PlanChange) := do
  let (b, row) ← pendingUpgrade resetSettings resetEstimate
  let (b, again, _) ← confirmUpgrade resetSettings resetEstimate (referenceTx 20000000) "again" b
  pure (b, [again, row])

section

variable {settings : PlanChangeSettings} {estimate : PlanChangeEstimate} {now : Tx}
  {changeId : String} {row : PlanChange} {preview : PlanChangePreview} {read : List PlanChange}

theorem confirmUpgrade_run {b₀ : Billing} {d : IntentDesk}
    (hd : Relation.ReflTransGen (IntentStep settings referenceConfig writtenColumn) ⟨b₀, []⟩ d)
    (h : confirmUpgrade settings estimate now changeId d.billing = .ok (b, row, preview)) :
    Relation.ReflTransGen (IntentStep settings referenceConfig writtenColumn) ⟨b₀, []⟩
      ⟨b, row :: d.read⟩ := by
  simp only [confirmUpgrade, bind_eq_ok, pure_eq_ok, require_eq_ok, decide_eq_true_eq] at h
  obtain ⟨⟨b₁, row₁, _⟩, hreserve, ⟨b₂, _⟩, hlease, _, hreserved, _, hvalid, preview₁, hpreview,
    snapshot, hsnapshot, ⟨b₃, _⟩, hstore, ⟨b₄, _⟩, hconfirm, heq⟩ := h
  cases heq
  have h₁ := (hd.tail (.reserve hreserve)).tail (.lease hlease)
  have h₂ := h₁.tail
    (.store List.mem_cons_self hreserved hvalid hpreview hsnapshot hstore)
  exact h₂.tail (.confirmationLease hconfirm)

theorem pendingUpgrade_run (h : pendingUpgrade settings estimate = .ok (b, row)) :
    Relation.ReflTransGen (IntentStep settings referenceConfig writtenColumn)
      ⟨starterBilling, []⟩ ⟨b, [row]⟩ := by
  simp only [pendingUpgrade, bind_eq_ok, pure_eq_ok] at h
  obtain ⟨⟨b₁, row₁, preview⟩, hconfirm, ⟨b₂, _⟩, hstart, ⟨db, _⟩, hfinish, heq⟩ := h
  cases heq
  have h₁ := confirmUpgrade_run (d := ⟨starterBilling, []⟩) .refl hconfirm
  exact (h₁.tail (.start hstart)).tail (.finish rfl hfinish)

theorem expiredUpgrade_run (h : expiredUpgrade = .ok (b, read)) :
    IntentRun upgradeSettings referenceConfig writtenColumn ⟨b, read⟩ := by
  simp only [expiredUpgrade, bind_eq_ok, pure_eq_ok] at h
  obtain ⟨⟨b₁, row⟩, hpending, ⟨b₂, again, _⟩, hreserve, heq⟩ := h
  cases heq
  exact ⟨starterBilling, rfl, (pendingUpgrade_run hpending).tail (.reserve hreserve)⟩

theorem repeatedUpgrade_run (h : repeatedUpgrade = .ok (b, read)) :
    IntentRun resetSettings referenceConfig writtenColumn ⟨b, read⟩ := by
  simp only [repeatedUpgrade, bind_eq_ok, pure_eq_ok] at h
  obtain ⟨⟨b₁, row⟩, hpending, ⟨b₂, again, _⟩, hconfirm, heq⟩ := h
  cases heq
  exact ⟨starterBilling, rfl, confirmUpgrade_run (pendingUpgrade_run hpending) hconfirm⟩

end

/-- One prorated line of an upgrade Invoice. -/
def prorationLine (id : String) (plan : Plan) (amount : Int) : Json :=
  .obj [
    ("id", .str id), ("quantity", .int 1), ("amount", .int amount), ("proration", .bool true),
    ("price", referencePrice plan .month), ("_resolved_price", referencePrice plan .month),
    ("period", .obj [("start", .int 1), ("end", .int 2678400)])]

/-- `invoice.paid` for the difference of two whole months. -/
def paidUpgrade : Event :=
  stripeEvent "evt_upgrade" "invoice.paid" 15 [
    ("id", .str "in_2"), ("customer", .str "cus_1"),
    ("billing_reason", .str "subscription_update"), ("currency", .str "usd"),
    ("amount_paid", .int 3000), ("total", .int 3000),
    ("parent", .obj [("subscription_details", .obj [
      ("subscription", .str "sub_1"), ("metadata", checkoutMetadata)])]),
    ("lines", .obj [("data", .arr [
      prorationLine "il_source" starterPlan (-1900), prorationLine "il_target" proPlan 4900])])]

/-- `invoice.paid` for a new month of the next tier. -/
def paidReset : Event :=
  paidPeriod "evt_reset" "in_2" "subscription_update" 15 proPlan .month 1 2678401

/-- What stands of an intent: its status, and the Invoice that it is bound to. -/
def Billing.intent (b : Billing) (changeId : String) :
    Option (PlanChangeStatus × Option String) :=
  (b.planChanges.find? changeId).map fun c => (c.status, c.settlementInvoiceId)

/-- **A late Invoice** completes the intent that was failed because its update ran out. The
    prorated selection finds the row by its Invoice and does not look at its status, and the
    account is still as the intent expects it. -/
theorem late_invoice_completes_failed :
    ¬ ∀ {d : IntentDesk}, IntentRun upgradeSettings referenceConfig writtenColumn d →
      ∀ {tx : Tx} {db : Db} {e : Event}, db.billing = d.billing → e.kind = .invoicePaid →
        SettlesByAuthority referenceConfig tx db e := by
  intro hclaim
  have hrun : (expiredUpgrade.map fun x => (x.1.intent "change",
      (process referenceConfig (referenceTx 30000000) { Db.empty with billing := x.1 }
        paidUpgrade).map fun y => y.1.billing.intent "change")) =
      .ok (some (.failed, some "in_2"), .ok (some (.completed, some "in_2"))) := by
    decide +kernel
  rw [map_eq_ok] at hrun
  obtain ⟨⟨b, read⟩, hexpired, hstate⟩ := hrun
  simp only [Prod.mk.injEq, map_eq_ok] at hstate
  obtain ⟨hfailed, ⟨db, result⟩, hprocess, hcompleted⟩ := hstate
  have hauthority : SettlesByAuthority referenceConfig (referenceTx 30000000)
      { Db.empty with billing := b } paidUpgrade :=
    hclaim (expiredUpgrade_run hexpired) rfl rfl
  obtain ⟨c, hc, hcolumns⟩ := Option.map_eq_some_iff.1 hfailed
  obtain ⟨c', hc', hcolumns'⟩ := Option.map_eq_some_iff.1 hcompleted
  -- the failed row is the only one of its key, and it authorizes nothing
  have hkey : c'.id = c.id := (Table.find?_key hc').trans (Table.find?_key hc).symm
  rcases hauthority.completed hprocess c' (Table.find?_mem hc') (congrArg Prod.fst hcolumns') with
    hold | ⟨c₀, hc₀, hid, hopen⟩
  · have hsame := b.planChanges.eq_of_key_eq hold (Table.find?_mem hc) hkey
    subst hsame
    rw [hcolumns] at hcolumns'
    cases hcolumns'
  · have hsame := b.planChanges.eq_of_key_eq hc₀ (Table.find?_mem hc) (hid.trans hkey)
    subst hsame
    have hstatus := hopen.status
    rw [show c₀.status = .failed from congrArg Prod.fst hcolumns] at hstatus
    cases hstatus

/-- **A late Invoice** is refused while the intent that replaced its own is under way. The new
    intent is selected because it is not bound yet, and binding it breaks the unique index. -/
theorem late_invoice_refused :
    ∃ b read, IntentRun resetSettings referenceConfig writtenColumn ⟨b, read⟩ ∧
      b.intent "change" = some (.failed, some "in_2") ∧
      b.intent "again" = some (.applying, none) ∧
      process referenceConfig (referenceTx 30000000) { Db.empty with billing := b } paidReset =
        .error .constraint := by
  have hrun : (repeatedUpgrade.map fun x => (x.1.intent "change", x.1.intent "again",
      (process referenceConfig (referenceTx 30000000) { Db.empty with billing := x.1 }
        paidReset).map fun _ => ())) =
      .ok (some (.failed, some "in_2"), some (.applying, none), .error .constraint) := by
    decide +kernel
  rw [map_eq_ok] at hrun
  obtain ⟨⟨b, read⟩, hrepeated, hstate⟩ := hrun
  simp only [Prod.mk.injEq] at hstate
  exact ⟨b, read, repeatedUpgrade_run hrepeated, hstate.1, hstate.2.1, map_eq_error.1 hstate.2.2⟩

/-- An upgrade that is paid in time. -/
theorem paid_upgrade_authority :
    ∃ b row, pendingUpgrade upgradeSettings deltaEstimate = .ok (b, row) ∧
      SettlesByAuthority referenceConfig (referenceTx 2000000) { Db.empty with billing := b }
        paidUpgrade := by
  have hrun : (pendingUpgrade upgradeSettings deltaEstimate).map (fun x =>
      (settledIntent referenceConfig x.1 paidUpgrade).isSome &&
        boundIntentOpen referenceConfig x.1 paidUpgrade) = .ok true := by
    decide +kernel
  rw [map_eq_ok] at hrun
  obtain ⟨⟨b, row⟩, hpending, hopen⟩ := hrun
  rw [Bool.and_eq_true] at hopen
  exact ⟨b, row, hpending, (paid_invoice_authority rfl).1 hopen.2⟩

end StripeEntitlements
