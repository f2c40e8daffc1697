import StripeEntitlements.Snapshots.PlanChangeRequest

/-!
# The Plan-Change Codec

The facts of a plan change are spelled by one JSON object. The builder writes it and the
validator accepts no other, with one exception: Python equates `True` and `1.0` with the
version `1`, so these two spellings of the version are accepted as well.

## Main results

- `build_of_admissible` — admissible facts are frozen as they are spelled
- `admissible_of_validate` — an accepted object spells admissible facts
-/

namespace StripeEntitlements

variable {u : Unicode} {v w raw : Json}

/-! ## Contexts -/

/-- A Stripe identifier with its prefix. -/
structure StripeIdText (u : Unicode) (p text : String) : Prop where
  clean : CleanText u 255 text
  prefixed : p.toList.isPrefixOf text.toList = true

instance {p text : String} : Decidable (StripeIdText u p text) :=
  decidable_of_iff (CleanText u 255 text ∧ p.toList.isPrefixOf text.toList = true)
    ⟨fun h => ⟨h.1, h.2⟩, fun h => ⟨h.clean, h.prefixed⟩⟩

namespace PlanChangeContext

def startSeconds (c : PlanChangeContext) : Int := epochSeconds c.currentPeriodStart

def endSeconds (c : PlanChangeContext) : Int := epochSeconds c.currentPeriodEnd

/-- A context that keeps to the forms of Stripe. -/
structure Formed (u : Unicode) (c : PlanChangeContext) : Prop where
  subscriptionId : StripeIdText u "sub_" c.subscriptionId
  subscriptionItemId : StripeIdText u "si_" c.subscriptionItemId
  currentPriceId : StripeIdText u "price_" c.currentPriceId
  targetPriceId : StripeIdText u "price_" c.targetPriceId
  started : 0 ≤ c.startSeconds
  ordered : c.startSeconds < c.endSeconds
  ended : c.endSeconds ≤ 253402300799
  scheduleId : ∀ id ∈ c.scheduleId, StripeIdText u "sub_sched_" id
  subscriptionStatus : CleanText u 64 c.subscriptionStatus

/-- A context whose fields pass their checks. -/
structure Admissible (u : Unicode) (c : PlanChangeContext) : Prop extends Formed u c where
  currentLookupKey : CleanText u 200 c.currentLookupKey

/-- What the checks of the context hand on. -/
def checked (c : PlanChangeContext) : SnapshotContext where
  subscriptionId := c.subscriptionId
  subscriptionItemId := c.subscriptionItemId
  currentPriceId := c.currentPriceId
  targetPriceId := c.targetPriceId
  currentLookupKey := c.currentLookupKey
  targetInterval := c.targetInterval
  periodEnd := c.endSeconds

/-- The context as a snapshot keeps it: whole seconds, and nothing of a pending update. -/
def atSeconds (c : PlanChangeContext) : PlanChangeContext :=
  { c with
    currentPeriodStart := c.startSeconds * 1000000
    currentPeriodEnd := c.endSeconds * 1000000
    pendingExpiresAt := none
    recoveryUrl := none
    clientSecret := none }

/-- The object that spells the context. -/
def spelled (c : PlanChangeContext) : Json := c.json (.int c.startSeconds) (.int c.endSeconds)

end PlanChangeContext

theorem Interval.text_of_parse {s : String} {i : Interval} (h : Interval.parse s = some i) :
    s = i.text := by
  unfold Interval.parse at h
  split at h <;> cases h <;> rfl

theorem Interval.parse_text (i : Interval) : Interval.parse i.text = some i := by
  cases i <;> rfl

theorem validateScheduleId_eq_ok {a : Unit} :
    validateScheduleId u v = .ok a ↔
      ∃ id : Option String, v = optionalText id ∧ ∀ x ∈ id, StripeIdText u "sub_sched_" x := by
  unfold validateScheduleId
  split
  case isTrue hnull =>
    have hv : v = .null := by
      cases v <;> simp_all [Json.isNull]
    simp only [pure_eq_ok, true_iff]
    exact ⟨none, hv, by simp⟩
  case isFalse hnull =>
    simp only [bind_eq_ok, snapshotStripeId_eq_ok, pure_eq_ok]
    constructor
    · rintro ⟨text, ⟨rfl, hclean, hprefixed⟩, -⟩
      refine ⟨some text, rfl, fun x hx => ?_⟩
      cases hx
      exact ⟨hclean, hprefixed⟩
    · rintro ⟨id, rfl, hid⟩
      cases id with
      | none => exact absurd rfl hnull
      | some text => exact ⟨text, ⟨rfl, (hid text rfl).clean, (hid text rfl).prefixed⟩, trivial⟩

/-- **An accepted context** spells the admissible context that is read from it. -/
theorem context_of_validate {c : SnapshotContext} (h : validateSnapshotContext u raw = .ok c) :
    (readContext raw).Admissible u ∧ c = (readContext raw).checked ∧
      raw.beq (readContext raw).spelled = true := by
  simp only [validateSnapshotContext, bind_eq_ok, exactMapping_eq_ok, snapshotStripeId_eq_ok,
    snapshotText_eq_ok, oneOf_eq_ok, snapshotInteger_eq_ok, require_eq_ok, pure_eq_ok,
    decide_eq_true_eq, Bool.and_eq_true, asBool_isSome, validateScheduleId_eq_ok] at h
  -- Every check of the validator names one member of the context.
  obtain ⟨raw, ⟨rfl, hexact⟩, sub, ⟨hsub, hsub'⟩, item, ⟨hitem, hitem'⟩, source, ⟨hsource, hsource'⟩,
    target, ⟨htarget, htarget'⟩, lookup, ⟨hlookup, hlookup'⟩, interval, ⟨s, hinterval, hparse⟩,
    start, ⟨hstart, hstart'⟩, finish, ⟨hfinish, hfinish'⟩, _, hordered, _, ⟨id, hid, hid'⟩,
    status, ⟨hstatus, hstatus'⟩, _, ⟨⟨cancel, hcancel⟩, ⟨pending, hpending⟩⟩, rfl⟩ := h
  obtain rfl := Interval.text_of_parse hparse
  -- So the context read without checks is the one the checks have read.
  have hread : readContext raw = {
      subscriptionId := sub, subscriptionItemId := item, currentPriceId := source
      currentLookupKey := lookup, targetPriceId := target, targetInterval := interval
      currentPeriodStart := start * 1000000, currentPeriodEnd := finish * 1000000
      scheduleId := id, subscriptionStatus := status, cancelAtPeriodEnd := cancel
      pendingUpdate := pending } := by
    have hschedule : (optionalText id).asStr = id := by
      cases id <;> rfl
    rw [readContext]
    simp [hsub, hitem, hsource, hlookup, htarget, hinterval, hstart, hfinish, hid, hstatus,
      hcancel, hpending, hschedule, Interval.parse_text]
  rw [hread]
  refine ⟨?_, ?_, ?_⟩
  -- Its fields carry the bounds that were checked.
  · refine ⟨?_, hlookup'⟩
    constructor
    · exact ⟨hsub'.1, hsub'.2⟩
    · exact ⟨hitem'.1, hitem'.2⟩
    · exact ⟨hsource'.1, hsource'.2⟩
    · exact ⟨htarget'.1, htarget'.2⟩
    · simpa [PlanChangeContext.startSeconds] using hstart'.1
    · simpa [PlanChangeContext.startSeconds, PlanChangeContext.endSeconds] using hordered
    · simpa [PlanChangeContext.endSeconds] using hfinish'.2
    · exact hid'
    · exact hstatus'
  · simp [PlanChangeContext.checked, PlanChangeContext.endSeconds]
  -- The mapping has exactly these keys, so it is the spelled context, member by member.
  · refine beq_obj hexact (show contextKeys.Nodup by decide) ?_
    simp only [List.forall_mem_cons, hsub, hitem, hsource, hlookup, htarget, hinterval, hstart,
      hfinish, hid, hstatus, hcancel, hpending]
    cases id <;> simp [optionalText, PlanChangeContext.startSeconds, PlanChangeContext.endSeconds]

/-- The context is read back as it was, at whole seconds. -/
theorem readContext_spelled (c : PlanChangeContext) : readContext c.spelled = c.atSeconds := by
  have hschedule : (optionalText c.scheduleId).asStr = c.scheduleId := by
    cases c.scheduleId <;> rfl
  simp [readContext, PlanChangeContext.spelled, PlanChangeContext.json, Json.get, List.lookup_cons,
    PlanChangeContext.atSeconds, hschedule, Interval.parse_text]

/-- **An admissible context** is accepted as it is spelled. -/
theorem validate_context {c : PlanChangeContext} (h : c.Admissible u) :
    validateSnapshotContext u c.spelled = .ok c.checked := by
  simp only [validateSnapshotContext, bind_eq_ok, exactMapping_eq_ok, snapshotStripeId_eq_ok,
    snapshotText_eq_ok, oneOf_eq_ok, snapshotInteger_eq_ok, require_eq_ok, pure_eq_ok,
    decide_eq_true_eq, Bool.and_eq_true, asBool_isSome, validateScheduleId_eq_ok]
  have hexact : ExactMapping c.spelled contextKeys :=
    ⟨⟨_, rfl, rfl⟩, by simp [contextKeys, PlanChangeContext.spelled, PlanChangeContext.json,
      Json.has, List.lookup_cons]⟩
  have hstart : c.startSeconds ≤ 253402300799 := h.ordered.le.trans h.ended
  have hfinish : 0 ≤ c.endSeconds := h.started.trans h.ordered.le
  exact ⟨_, ⟨rfl, hexact⟩, _, ⟨rfl, h.subscriptionId.clean, h.subscriptionId.prefixed⟩,
    _, ⟨rfl, h.subscriptionItemId.clean, h.subscriptionItemId.prefixed⟩,
    _, ⟨rfl, h.currentPriceId.clean, h.currentPriceId.prefixed⟩,
    _, ⟨rfl, h.targetPriceId.clean, h.targetPriceId.prefixed⟩, _, ⟨rfl, h.currentLookupKey⟩,
    _, ⟨_, rfl, Interval.parse_text _⟩, _, ⟨rfl, h.started, hstart⟩, _, ⟨rfl, hfinish, h.ended⟩,
    (), h.ordered, (), ⟨_, rfl, h.scheduleId⟩, _, ⟨rfl, h.subscriptionStatus⟩, (),
    ⟨⟨_, rfl⟩, _, rfl⟩, rfl⟩

/-! ## Price evidence -/

/-- A currency in lower case. -/
structure CurrencyText (u : Unicode) (text : String) : Prop where
  clean : CleanText u 3 text
  length : text.length = 3
  lower : text = u.lower text

instance {text : String} : Decidable (CurrencyText u text) :=
  decidable_of_iff (CleanText u 3 text ∧ text.length = 3 ∧ text = u.lower text)
    ⟨fun h => ⟨h.1, h.2.1, h.2.2⟩, fun h => ⟨h.clean, h.length, h.lower⟩⟩

/-- Catalog terms that pass their checks. -/
structure PriceTerms.Admissible (u : Unicode) (t : PriceTerms) : Prop where
  lookupKey : CleanText u 200 t.lookupKey
  planKey : CleanText u 64 t.planKey
  currency : CurrencyText u t.currency
  unitAmount : t.unitAmount ≤ 99999999

theorem validateCurrency_eq_ok {field : String} {a : Unit} :
    validateCurrency u v field = .ok a ↔
      ∃ text, v.get field = .str text ∧ CurrencyText u text := by
  simp only [validateCurrency, bind_eq_ok, snapshotText_eq_ok, require_eq_ok, Bool.and_eq_true,
    decide_eq_true_eq]
  constructor
  · rintro ⟨text, ⟨htext, hclean⟩, hlength, hlower⟩
    exact ⟨text, htext, hclean, hlength, hlower⟩
  · rintro ⟨text, htext, hclean, hlength, hlower⟩
    exact ⟨text, ⟨htext, hclean⟩, hlength, hlower⟩

theorem validateUnitAmount_eq_ok {field : String} {a : Unit} :
    validateUnitAmount v field = .ok a ↔
      ∃ n : Nat, v.get field = .int n ∧ n ≤ 99999999 := by
  simp only [validateUnitAmount, require_eq_ok, Option.any_eq_true, asInt_eq_some,
    Bool.and_eq_true, decide_eq_true_eq]
  constructor
  · rintro ⟨n, hn, hpos, hle⟩
    obtain ⟨m, rfl⟩ := Int.eq_ofNat_of_zero_le hpos
    exact ⟨m, hn, by omega⟩
  · rintro ⟨n, hn, hle⟩
    exact ⟨n, hn, by omega, by omega⟩

/-- The terms that the evidence keeps of one side. -/
def readTerms (evidence : Json) (side : String) : PriceTerms where
  lookupKey := (evidence.get (side ++ "_lookup_key")).text
  planKey := (evidence.get (side ++ "_plan_key")).text
  currency := (evidence.get (side ++ "_currency")).text
  unitAmount := ((evidence.get (side ++ "_unit_amount")).asInt.getD 0).toNat

/-- The object that spells the evidence. -/
def spelledEvidence (c : SnapshotContext) (source target : PriceTerms) : Json :=
  .obj [
    ("source_price_id", .str c.currentPriceId),
    ("source_lookup_key", .str source.lookupKey),
    ("source_plan_key", .str source.planKey),
    ("source_currency", .str source.currency),
    ("source_unit_amount", .int source.unitAmount),
    ("target_price_id", .str c.targetPriceId),
    ("target_lookup_key", .str target.lookupKey),
    ("target_plan_key", .str target.planKey),
    ("target_currency", .str target.currency),
    ("target_unit_amount", .int target.unitAmount)]

/-- **Accepted evidence** spells the admissible terms that are read from it. -/
theorem evidence_of_validate {c : SnapshotContext} {a : Unit}
    (h : validatePriceEvidence u c v = .ok a) :
    (readTerms v "source").Admissible u ∧ (readTerms v "target").Admissible u ∧
      (readTerms v "source").lookupKey = c.currentLookupKey ∧
      v.beq (spelledEvidence c (readTerms v "source") (readTerms v "target")) = true := by
  simp only [validatePriceEvidence, bind_eq_ok, exactMapping_eq_ok, snapshotStripeId_eq_ok,
    snapshotText_eq_ok, require_eq_ok, decide_eq_true_eq, validateCurrency_eq_ok,
    validateUnitAmount_eq_ok] at h
  -- The four ids are compared with the context, the terms are checked for themselves.
  obtain ⟨v, ⟨rfl, hexact⟩, sourceId, ⟨hsource, -⟩, _, rfl, targetId, ⟨htarget, -⟩, _, rfl,
    lookup, ⟨hlookup, hlookup'⟩, _, rfl, sourceKey, ⟨hsourceKey, hsourceKey'⟩,
    targetKey, ⟨htargetKey, htargetKey'⟩, _, ⟨sourceCurrency, hsourceCurrency, hsourceCurrency'⟩,
    _, ⟨targetCurrency, htargetCurrency, htargetCurrency'⟩, _, ⟨sourceAmount, hsourceAmount, hle⟩,
    _, ⟨targetAmount, htargetAmount, hle'⟩, targetLookup, ⟨htargetLookup, htargetLookup'⟩, -⟩ := h
  -- The terms read without checks are the ones that were checked.
  have hsourceTerms : readTerms v "source" =
      ⟨c.currentLookupKey, sourceKey, sourceCurrency, sourceAmount⟩ := by
    simp [readTerms, hlookup, hsourceKey, hsourceCurrency, hsourceAmount]
  have htargetTerms : readTerms v "target" =
      ⟨targetLookup, targetKey, targetCurrency, targetAmount⟩ := by
    simp [readTerms, htargetLookup, htargetKey, htargetCurrency, htargetAmount]
  rw [hsourceTerms, htargetTerms]
  refine ⟨⟨hlookup', hsourceKey', hsourceCurrency', hle⟩,
    ⟨htargetLookup', htargetKey', htargetCurrency', hle'⟩, rfl, ?_⟩
  -- Exactly these keys and these values: the mapping is the spelled evidence.
  refine beq_obj hexact (show evidenceKeys.Nodup by decide) ?_
  simp [hsource, htarget, hlookup, hsourceKey, htargetKey, hsourceCurrency, htargetCurrency,
    hsourceAmount, htargetAmount, htargetLookup]

/-- **Admissible terms** are accepted as they are spelled. -/
theorem validate_evidence {c : PlanChangeContext} {source target : PriceTerms}
    (hc : c.Admissible u) (hsource : source.Admissible u) (htarget : target.Admissible u)
    (hlookup : source.lookupKey = c.currentLookupKey) :
    validatePriceEvidence u c.checked (spelledEvidence c.checked source target) = .ok () := by
  simp only [validatePriceEvidence, bind_eq_ok, exactMapping_eq_ok, snapshotStripeId_eq_ok,
    snapshotText_eq_ok, require_eq_ok, decide_eq_true_eq, validateCurrency_eq_ok,
    validateUnitAmount_eq_ok]
  have hexact : ExactMapping (spelledEvidence c.checked source target) evidenceKeys :=
    ⟨⟨_, rfl, rfl⟩, by simp [evidenceKeys, spelledEvidence, Json.has, List.lookup_cons]⟩
  exact ⟨_, ⟨rfl, hexact⟩, _, ⟨rfl, hc.currentPriceId.clean, hc.currentPriceId.prefixed⟩, (), rfl,
    _, ⟨rfl, hc.targetPriceId.clean, hc.targetPriceId.prefixed⟩, (), rfl, _,
    ⟨rfl, hsource.lookupKey⟩, (), hlookup, _, ⟨rfl, hsource.planKey⟩, _, ⟨rfl, htarget.planKey⟩,
    (), ⟨_, rfl, hsource.currency⟩, (), ⟨_, rfl, htarget.currency⟩,
    (), ⟨_, rfl, hsource.unitAmount⟩, (), ⟨_, rfl, htarget.unitAmount⟩, _,
    ⟨rfl, htarget.lookupKey⟩, rfl⟩

theorem readTerms_spelled (c : SnapshotContext) (source target : PriceTerms) :
    readTerms (spelledEvidence c source target) "source" = source ∧
      readTerms (spelledEvidence c source target) "target" = target := by
  simp [readTerms, spelledEvidence, Json.get, List.lookup_cons]

/-! ## Parameters -/

/-- The parameters of a mutation. -/
def spelledParams (c : SnapshotContext) (timing : EffectiveMode) (policy : TransitionPolicy)
    (prorationDate : Option Int) (productLine idempotencyKey : String) : Json :=
  let item := Json.obj [("id", .str c.subscriptionItemId), ("price", .str c.targetPriceId)]
  let last := [("payment_behavior", Json.str "pending_if_incomplete"),
    ("expand", .arr [.str "latest_invoice.confirmation_secret"])]
  match timing, policy with
  | .immediate, .fullPeriodReset => .obj ([("items", .arr [item]),
      ("billing_cycle_anchor", .str "now"), ("proration_behavior", .str "none")] ++ last)
  | .immediate, .proratedDelta => .obj ([("items", .arr [item]),
      ("proration_behavior", .str "always_invoice"),
      ("proration_date", .int (prorationDate.getD 0))] ++ last)
  | _, _ => .obj [
      ("create", .obj [("from_subscription", .str c.subscriptionId)]),
      ("configure", .obj [
        ("boundary", .int c.periodEnd), ("target_price_id", .str c.targetPriceId),
        ("target_interval", .str c.targetInterval.text),
        ("end_behavior", .str "release"), ("proration_behavior", .str "none"),
        ("metadata", .obj [("product_line", .str productLine),
          ("plan_change_key", .str idempotencyKey)])])]

/-- Every change that is not immediate configures a Schedule. -/
theorem spelledParams_later {c : SnapshotContext} {timing : EffectiveMode}
    {policy : TransitionPolicy} {prorationDate : Option Int} {productLine idempotencyKey : String}
    (h : timing ≠ .immediate) :
    spelledParams c timing policy prorationDate productLine idempotencyKey =
      spelledParams c .periodEnd policy none productLine idempotencyKey := by
  cases timing with
  | immediate => exact absurd rfl h
  | periodEnd => rfl
  | noop => rfl

/-- An immediate delta change has a proration date in the range of Stripe timestamps. -/
def DatedDelta (timing : EffectiveMode) (policy : TransitionPolicy) (prorationDate : Option Int) :
    Prop :=
  timing = .immediate → policy = .proratedDelta →
    ∃ date ∈ prorationDate, 0 ≤ date ∧ date ≤ 253402300799

/-- **Accepted parameters** are the ones of the mutation. -/
theorem params_of_validate {c : SnapshotContext} {timing : EffectiveMode} {policy : TransitionPolicy}
    {productLine idempotencyKey : String} {a : Unit}
    (h : validateParams c timing policy productLine idempotencyKey v = .ok a) :
    DatedDelta timing policy (v.get "proration_date").asInt ∧
      v.beq (spelledParams c timing policy (v.get "proration_date").asInt productLine
        idempotencyKey) = true := by
  unfold validateParams at h
  split at h
  -- An immediate change has three fixed members and the ones of its policy.
  case isTrue himmediate =>
    subst himmediate
    simp only [validateImmediateParams, bind_eq_ok, exactMapping_eq_ok, require_eq_ok,
      Bool.and_eq_true, decide_eq_true_eq, asStr_eq_some] at h
    obtain ⟨v, ⟨rfl, hexact⟩, _, hitems, _, ⟨hpayment, hexpand⟩, h⟩ := h
    cases policy with
    | fullPeriodReset =>
      simp only [require_eq_ok, Bool.and_eq_true, decide_eq_true_eq, asStr_eq_some] at h
      refine ⟨by simp [DatedDelta], ?_⟩
      refine beq_obj hexact (show (immediateKeys .fullPeriodReset).Nodup by decide) ?_
      simp [hitems, hpayment, hexpand, h.1, h.2]
    -- Only a prorated change has a date, and its range is checked.
    | proratedDelta =>
      simp only [bind_eq_ok, require_eq_ok, decide_eq_true_eq, asStr_eq_some, snapshotInteger_eq_ok,
        pure_eq_ok] at h
      obtain ⟨_, hbehavior, date, ⟨hdate, hrange⟩, -⟩ := h
      rw [hdate, Json.asInt_int]
      refine ⟨fun _ _ => ⟨date, rfl, hrange⟩, ?_⟩
      refine beq_obj hexact (show (immediateKeys .proratedDelta).Nodup by decide) ?_
      simp [hitems, hpayment, hexpand, hbehavior, hdate]
  -- A later change creates a schedule and configures it; nothing in it is dated.
  case isFalse hlater =>
    simp only [validateScheduleParams, bind_eq_ok, exactMapping_eq_ok, require_eq_ok,
      Bool.and_eq_true, decide_eq_true_eq, asStr_eq_some, snapshotInteger_eq_ok] at h
    obtain ⟨v, ⟨rfl, hexact⟩, _, hcreate, configure, ⟨rfl, hconfigure⟩, boundary, ⟨hboundary, -⟩,
      ⟨⟨⟨⟨rfl, hprice⟩, hinterval⟩, hend⟩, hproration⟩, hmetadata⟩ := h
    refine ⟨fun himmediate => absurd himmediate hlater, ?_⟩
    rw [spelledParams_later hlater]
    refine beq_obj hexact (show ["create", "configure"].Nodup by decide) ?_
    simp only [List.forall_mem_cons, hcreate, List.not_mem_nil, false_implies, implies_true,
      and_true, true_and]
    refine beq_obj hconfigure (show configureKeys.Nodup by decide) ?_
    simp [hboundary, hprice, hinterval, hend, hproration, hmetadata]

/-- **The parameters of the mutation** are accepted. -/
theorem validate_params {c : PlanChangeContext} (hc : c.Admissible u) {timing : EffectiveMode}
    {policy : TransitionPolicy} {prorationDate : Option Int}
    (hdate : DatedDelta timing policy prorationDate) (productLine idempotencyKey : String) :
    validateParams c.checked timing policy productLine idempotencyKey
      (spelledParams c.checked timing policy prorationDate productLine idempotencyKey) =
        .ok () := by
  unfold validateParams
  split
  -- The immediate layouts: the keys are exact by computation, then each member is read back.
  case isTrue himmediate =>
    subst himmediate
    simp only [validateImmediateParams, bind_eq_ok, exactMapping_eq_ok, require_eq_ok,
      Bool.and_eq_true, decide_eq_true_eq]
    cases policy with
    | fullPeriodReset =>
      have hexact : ExactMapping (spelledParams c.checked .immediate .fullPeriodReset prorationDate
          productLine idempotencyKey) (immediateKeys .fullPeriodReset) :=
        ⟨⟨_, rfl, rfl⟩, by simp [immediateKeys, spelledParams, Json.has, List.lookup_cons]⟩
      refine ⟨_, ⟨rfl, hexact⟩, (), ?_, (), ⟨rfl, ?_⟩, ?_⟩
      · simp [spelledParams, Json.get, List.lookup_cons, Json.beq, Json.beqItems, Json.beqMembers,
          Json.has]
      · simp [spelledParams, Json.get, List.lookup_cons, Json.beq, Json.beqItems]
      · rfl
    -- The date is there by hypothesis and within its range.
    | proratedDelta =>
      obtain ⟨date, hdate, hpos, hle⟩ := hdate rfl rfl
      cases hdate
      have hexact : ExactMapping (spelledParams c.checked .immediate .proratedDelta (some date)
          productLine idempotencyKey) (immediateKeys .proratedDelta) :=
        ⟨⟨_, rfl, rfl⟩, by simp [immediateKeys, spelledParams, Json.has, List.lookup_cons]⟩
      refine ⟨_, ⟨rfl, hexact⟩, (), ?_, (), ⟨rfl, ?_⟩, ?_⟩
      · simp [spelledParams, Json.get, List.lookup_cons, Json.beq, Json.beqItems, Json.beqMembers,
          Json.has]
      · simp [spelledParams, Json.get, List.lookup_cons, Json.beq, Json.beqItems]
      · simp only [bind_eq_ok, require_eq_ok, decide_eq_true_eq, snapshotInteger_eq_ok, pure_eq_ok]
        exact ⟨(), rfl, date, ⟨rfl, hpos, hle⟩, trivial⟩
  -- The later layout has no date; the boundary is the end of the period, which is admissible.
  case isFalse hlater =>
    rw [spelledParams_later hlater]
    simp only [validateScheduleParams, bind_eq_ok, exactMapping_eq_ok, require_eq_ok,
      Bool.and_eq_true, decide_eq_true_eq, snapshotInteger_eq_ok]
    refine ⟨_, ⟨rfl, ⟨_, rfl, rfl⟩, ?_⟩, (), ?_, _, ⟨rfl, ⟨_, rfl, rfl⟩, ?_⟩, c.endSeconds,
      ⟨rfl, hc.started.trans hc.ordered.le, hc.ended⟩, ⟨⟨⟨⟨rfl, rfl⟩, rfl⟩, rfl⟩, rfl⟩, ?_⟩
    · simp [spelledParams, Json.has, List.lookup_cons]
    · simp [spelledParams, Json.get, Json.beq, Json.beqMembers, Json.has]
    · simp [spelledParams, configureKeys, Json.get, Json.has, List.lookup_cons]
    · simp [spelledParams, Json.get, List.lookup_cons, Json.beq, Json.beqMembers, Json.has]

/-! ## Requests -/

namespace PlanChangeFacts

/-- Facts that pass the checks of the builder. -/
structure Admissible (u : Unicode) (x : PlanChangeFacts) : Prop where
  context : x.context.Admissible u
  requestApiVersion : CleanText u 64 x.requestApiVersion
  idempotencyKey : CleanText u 255 x.idempotencyKey
  productLine : CleanText u 200 x.productLine
  source : x.source.Admissible u
  target : x.target.Admissible u
  lookupKey : x.source.lookupKey = x.context.currentLookupKey
  dated : DatedDelta x.timing x.policy x.prorationDate

/-- The members of the request, with the version as it is written. -/
def membersWith (x : PlanChangeFacts) (version : Json) : List (String × Json) :=
  [("schema", .str "stripe.plan_change.request"),
    ("version", version),
    ("kind", .str x.timing.snapshotKind),
    ("request_api_version", .str x.requestApiVersion),
    ("idempotency_key", .str x.idempotencyKey),
    ("product_line", .str x.productLine),
    ("context", x.context.spelled),
    ("price_evidence", spelledEvidence x.context.checked x.source x.target),
    ("policy", .str x.policy.text),
    ("params", spelledParams x.context.checked x.timing x.policy x.prorationDate x.productLine
      x.idempotencyKey)]

/-- The object that spells the request. -/
def spelled (x : PlanChangeFacts) : Json := .obj (x.membersWith (.int 1))

end PlanChangeFacts

/-- The facts that a request contains. -/
def readFacts (v : Json) : PlanChangeFacts where
  context := readContext (v.get "context")
  timing := ((v.get "kind").asStr.bind parseSnapshotKind).getD .periodEnd
  policy := ((v.get "policy").asStr.bind TransitionPolicy.parse).getD .fullPeriodReset
  prorationDate := ((v.get "params").get "proration_date").asInt
  idempotencyKey := (v.get "idempotency_key").text
  requestApiVersion := (v.get "request_api_version").text
  productLine := (v.get "product_line").text
  source := readTerms (v.get "price_evidence") "source"
  target := readTerms (v.get "price_evidence") "target"

theorem snapshotKind_of_parse {s : String} {timing : EffectiveMode}
    (h : parseSnapshotKind s = some timing) : s = timing.snapshotKind := by
  unfold parseSnapshotKind at h
  split at h <;> cases h <;> rfl

theorem TransitionPolicy.text_of_parse {s : String} {policy : TransitionPolicy}
    (h : TransitionPolicy.parse s = some policy) : s = policy.text := by
  unfold TransitionPolicy.parse at h
  split at h <;> cases h <;> rfl

theorem TransitionPolicy.parse_text (policy : TransitionPolicy) :
    TransitionPolicy.parse policy.text = some policy := by
  cases policy <;> rfl

/-- The checks of a request, apart from the expectations. -/
structure AcceptedRequest (u : Unicode) (v : Json) (timing : EffectiveMode)
    (policy : TransitionPolicy) (api key line : String) (c : SnapshotContext) : Prop where
  safe : safeJson v = .ok ()
  exactly : ExactMapping v snapshotKeys
  schema : v.get "schema" = .str "stripe.plan_change.request"
  version : (v.get "version").isOne = true
  kind : ∃ s, v.get "kind" = .str s ∧ parseSnapshotKind s = some timing
  apiText : v.get "request_api_version" = .str api ∧ CleanText u 64 api
  keyText : v.get "idempotency_key" = .str key ∧ CleanText u 255 key
  lineText : v.get "product_line" = .str line ∧ CleanText u 200 line
  policyText : ∃ s, v.get "policy" = .str s ∧ TransitionPolicy.parse s = some policy
  context : validateSnapshotContext u (v.get "context") = .ok c
  evidence : validatePriceEvidence u c (v.get "price_evidence") = .ok ()
  params : validateParams c timing policy line key (v.get "params") = .ok ()

/-- The validator returns the request that it accepts. -/
theorem validate_eq_ok {x : SnapshotExpectations} :
    validatePlanChangeRequestSnapshot u v x = .ok w ↔
      w = v ∧ ∃ timing policy api key line c, AcceptedRequest u v timing policy api key line c ∧
        x.check key c.subscriptionId timing policy = .ok () := by
  simp only [validatePlanChangeRequestSnapshot, bind_eq_ok, exactMapping_eq_ok, require_eq_ok,
    Bool.and_eq_true, decide_eq_true_eq, asStr_eq_some, oneOf_eq_ok, snapshotText_eq_ok, pure_eq_ok]
  constructor
  · rintro ⟨_, hsafe, v, ⟨rfl, hexact⟩, _, ⟨hschema, hversion⟩, timing, hkind, api, hapi, key, hkey,
      line, hline, policy, hpolicy, c, hcontext, _, hevidence, _, hcheck, _, hparams, rfl⟩
    exact ⟨rfl, timing, policy, api, key, line, c, ⟨hsafe, hexact, hschema, hversion, hkind, hapi,
      hkey, hline, hpolicy, hcontext, hevidence, hparams⟩, hcheck⟩
  · rintro ⟨rfl, timing, policy, api, key, line, c, h, hcheck⟩
    exact ⟨(), h.safe, w, ⟨rfl, h.exactly⟩, (), ⟨h.schema, h.version⟩, timing, h.kind, api,
      h.apiText, key, h.keyText, line, h.lineText, policy, h.policyText, c,
      h.context, (), h.evidence, (), hcheck, (), h.params, rfl⟩

/-- **An accepted request** spells the admissible facts that are read from it, at the version
    it has. -/
theorem admissible_of_validate {x : SnapshotExpectations}
    (h : validatePlanChangeRequestSnapshot u v x = .ok w) :
    (readFacts v).Admissible u ∧
      v.beq (.obj ((readFacts v).membersWith (v.get "version"))) = true := by
  -- The three parts of the request are read one by one, each with its own lemma.
  obtain ⟨rfl, timing, policy, api, key, line, c, h, -⟩ := validate_eq_ok.1 h
  obtain ⟨kind, hkind, hparse⟩ := h.kind
  obtain ⟨policyText, hpolicy, hparsePolicy⟩ := h.policyText
  -- The texts of the kind and of the policy name one value each.
  obtain rfl := snapshotKind_of_parse hparse
  obtain rfl := TransitionPolicy.text_of_parse hparsePolicy
  obtain ⟨hcontext, rfl, hspelled⟩ := context_of_validate h.context
  obtain ⟨hsource, htarget, hlookup, hevidence⟩ := evidence_of_validate h.evidence
  obtain ⟨hdated, hparams⟩ := params_of_validate h.params
  -- The facts read without checks are the ones that were checked.
  have hread : readFacts w = {
      context := readContext (w.get "context"), timing, policy
      prorationDate := ((w.get "params").get "proration_date").asInt
      idempotencyKey := key, requestApiVersion := api, productLine := line
      source := readTerms (w.get "price_evidence") "source"
      target := readTerms (w.get "price_evidence") "target" } := by
    simp [readFacts, hkind, hpolicy, h.keyText.1, h.apiText.1, h.lineText.1,
      hparse, TransitionPolicy.parse_text]
  rw [hread]
  constructor
  · exact ⟨hcontext, h.apiText.2, h.keyText.2, h.lineText.2, hsource, htarget,
      hlookup, hdated⟩
  -- The version is the only member that is kept as it is.
  · refine beq_obj h.exactly (show snapshotKeys.Nodup by decide) ?_
    simp [PlanChangeFacts.membersWith, h.schema, hkind, hpolicy, h.keyText.1, h.apiText.1, h.lineText.1,
      hspelled, hevidence, hparams, Json.beq_self_of_isOne h.version]

/-- The request is the canonical one exactly at the version `1`. -/
theorem beq_spelled {x : SnapshotExpectations}
    (h : validatePlanChangeRequestSnapshot u v x = .ok w) :
    v.beq (readFacts v).spelled = true ↔ v.get "version" = .int 1 := by
  constructor
  · intro heq
    obtain ⟨-, _, _, _, _, _, _, haccepted, -⟩ := validate_eq_ok.1 h
    obtain ⟨members, rfl, -⟩ := haccepted.exactly.mapping
    have hversion := get_beq_get heq (haccepted.exactly.has "version" (by decide))
    exact Json.beq_int.1 hversion.2
  · intro hversion
    have heq := (admissible_of_validate h).2
    rw [hversion] at heq
    exact heq

end StripeEntitlements
