import StripeEntitlements.Snapshots.Light
import StripeEntitlements.Snapshots.PlanChangeCodec

/-!
# Freezing a Plan Change

The builder succeeds on the admissible facts and on no others: an admissible fact is within
the bounds of its field, and the bounds of the fields keep the request below the size limit.

## Main results

- `PlanChangeFacts.Admissible.validate` — admissible facts are accepted as they are spelled
- `PlanChangeFacts.build_eq_ok` — what the builder freezes, and when
-/

namespace StripeEntitlements

variable {u : Unicode} {v : Json}

/-! ## The size of a request -/

theorem StripeIdText.light (hu : u.Lawful) {p text : String} (h : StripeIdText u p text) :
    (Json.str text).Light 512 := Json.Light.text hu h.clean

theorem Interval.text_light (i : Interval) : (Json.str i.text).Light 12 := by
  cases i
  · exact .literal 5 (by decide +kernel) (by decide +kernel)
  · exact .literal 5 (by decide +kernel) (by decide +kernel)

theorem optionalText_light (hu : u.Lawful) {p : String} {id : Option String}
    (h : ∀ x ∈ id, StripeIdText u p x) : (optionalText id).Light 512 := by
  cases id with
  | none => exact Json.Light.null.mono (by decide)
  | some text => exact (h text rfl).light hu

-- no name of a member hides a secret
example : cleanLiterals contextKeys = true := by decide +kernel

theorem PlanChangeContext.Admissible.light (hu : u.Lawful) {c : PlanChangeContext}
    (h : c.Admissible u) : c.spelled.Light 4096 := by
  have hstart := h.ordered.le.trans h.ended
  have hfinish := h.started.trans h.ordered.le
  apply Json.Light.obj (show _ = contextKeys from rfl) (by decide +kernel)
  · exact .cons (h.subscriptionId.light hu) <| .cons (h.subscriptionItemId.light hu) <|
      .cons (h.currentPriceId.light hu) <| .cons (.text hu h.currentLookupKey) <|
      .cons (h.targetPriceId.light hu) <| .cons c.targetInterval.text_light <|
      .cons (.int h.started hstart) <| .cons (.int hfinish h.ended) <|
      .cons (optionalText_light hu h.scheduleId) <| .cons (.text hu h.subscriptionStatus) <|
      .cons (.bool _) <| .cons (.bool _) .nil
  · decide +kernel
theorem PriceTerms.Admissible.amount_light {t : PriceTerms} (h : t.Admissible u) :
    (Json.int t.unitAmount).Light 8 := by
  have hle := h.unitAmount
  exact Json.Light.nat (by decide) (by omega)

theorem evidence_light (hu : u.Lawful) {c : PlanChangeContext} {source target : PriceTerms}
    (hc : c.Admissible u) (hsource : source.Admissible u) (htarget : target.Admissible u) :
    (spelledEvidence c.checked source target).Light 4096 := by
  apply Json.Light.obj (show _ = evidenceKeys from rfl) (by decide +kernel)
  · exact .cons (hc.currentPriceId.light hu) <| .cons (.text hu hsource.lookupKey) <|
      .cons (.text hu hsource.planKey) <| .cons (.text hu hsource.currency.clean) <|
      .cons hsource.amount_light <| .cons (hc.targetPriceId.light hu) <|
      .cons (.text hu htarget.lookupKey) <| .cons (.text hu htarget.planKey) <|
      .cons (.text hu htarget.currency.clean) <| .cons htarget.amount_light .nil
  · decide +kernel

example : cleanLiterals configureKeys = true := by decide +kernel

theorem params_light (hu : u.Lawful) {c : PlanChangeContext} (hc : c.Admissible u)
    {timing : EffectiveMode} {policy : TransitionPolicy} {prorationDate : Option Int}
    (hdate : DatedDelta timing policy prorationDate) {productLine idempotencyKey : String}
    (hline : CleanText u 200 productLine) (hkey : CleanText u 255 idempotencyKey) :
    (spelledParams c.checked timing policy prorationDate productLine idempotencyKey).Light
      4096 := by
  -- The parts that several layouts share.
  have hitems : (Json.arr [.obj [("id", .str c.subscriptionItemId),
      ("price", .str c.targetPriceId)]]).Light 1200 := by
    refine .arr (.cons (.obj (show _ = ["id", "price"] from rfl) (by decide +kernel)
      (.cons (hc.subscriptionItemId.light hu) (.cons (hc.targetPriceId.light hu) .nil)) le_rfl)
      .nil) ?_
    decide +kernel
  have hexpand : (Json.arr [.str "latest_invoice.confirmation_secret"]).Light 100 := by
    refine .arr (.cons (.literal 40 (by decide +kernel) (by decide +kernel)) .nil) ?_
    decide +kernel
  -- The words of the builder are clean literals.
  have hword {text : String} (hclean : cleanLiterals [text] = true)
      (hsize : text.utf8ByteSize ≤ 40) : (Json.str text).Light 82 := .literal 40 hclean hsize
  -- An immediate change has the layout of its policy, a later one that of a schedule.
  by_cases htiming : timing = .immediate
  · subst htiming
    cases policy with
    | fullPeriodReset =>
      apply Json.Light.obj (show _ = immediateKeys .fullPeriodReset from rfl) (by decide +kernel)
      · exact .cons hitems <| .cons (hword (by decide +kernel) (by decide +kernel)) <|
          .cons (hword (by decide +kernel) (by decide +kernel)) <|
          .cons (hword (by decide +kernel) (by decide +kernel)) <| .cons hexpand .nil
      · decide +kernel
    | proratedDelta =>
      obtain ⟨date, hdate, hpos, hle⟩ := hdate rfl rfl
      cases hdate
      apply Json.Light.obj (show _ = immediateKeys .proratedDelta from rfl) (by decide +kernel)
      · exact .cons hitems <| .cons (hword (by decide +kernel) (by decide +kernel)) <|
          .cons (.int hpos hle) <| .cons (hword (by decide +kernel) (by decide +kernel)) <|
          .cons hexpand .nil
      · decide +kernel
  -- The later layout nests two objects, which are bounded first.
  · rw [spelledParams_later htiming]
    have hcreate : (Json.obj [("from_subscription", .str c.subscriptionId)]).Light 600 := by
      apply Json.Light.obj (show _ = ["from_subscription"] from rfl) (by decide +kernel)
      · exact .cons (hc.subscriptionId.light hu) .nil
      · decide +kernel
    have hmetadata : (Json.obj [("product_line", .str productLine),
        ("plan_change_key", .str idempotencyKey)]).Light 1200 := by
      apply Json.Light.obj (show _ = ["product_line", "plan_change_key"] from rfl) (by decide +kernel)
      · exact .cons (.text hu hline) <| .cons (.text hu hkey) .nil
      · decide +kernel
    have hfinish := hc.started.trans hc.ordered.le
    apply Json.Light.obj (show _ = ["create", "configure"] from rfl) (by decide +kernel)
    · refine .cons hcreate <| .cons (.obj (show _ = configureKeys from rfl) (by decide +kernel)
        (.cons (.int hfinish hc.ended) <| .cons (hc.targetPriceId.light hu) <|
          .cons c.targetInterval.text_light <|
          .cons (hword (by decide +kernel) (by decide +kernel)) <|
          .cons (hword (by decide +kernel) (by decide +kernel)) <| .cons hmetadata .nil) le_rfl) .nil
    · decide +kernel

example : cleanLiterals snapshotKeys = true := by decide +kernel

namespace PlanChangeFacts.Admissible

variable {x : PlanChangeFacts}

theorem light (hu : u.Lawful) (h : x.Admissible u) {version : Json} (hversion : version.Light 12) :
    (Json.obj (x.membersWith version)).Light 16384 := by
  have hword {text : String} (hclean : cleanLiterals [text] = true)
      (hsize : text.utf8ByteSize ≤ 40) : (Json.str text).Light 82 := .literal 40 hclean hsize
  have hkind : (Json.str x.timing.snapshotKind).Light 82 := by
    cases x.timing <;> exact hword (by decide +kernel) (by decide +kernel)
  have hpolicy : (Json.str x.policy.text).Light 82 := by
    cases x.policy <;> exact hword (by decide +kernel) (by decide +kernel)
  apply Json.Light.obj (show _ = snapshotKeys from rfl) (by decide +kernel)
  · exact .cons (hword (by decide +kernel) (by decide +kernel)) <|
      .cons hversion <| .cons hkind <| .cons (.text hu h.requestApiVersion) <|
      .cons (.text hu h.idempotencyKey) <| .cons (.text hu h.productLine) <| .cons (h.context.light hu) <|
      .cons (evidence_light hu h.context h.source h.target) <| .cons hpolicy <|
      .cons (params_light hu h.context h.dated h.productLine h.idempotencyKey) .nil
  · decide +kernel

end PlanChangeFacts.Admissible

/-! ## Freezing -/

namespace PlanChangeFacts

variable {x : PlanChangeFacts}

/-- What is assembled is what the facts spell. -/
theorem eq_spelled_of_assemble (h : x.assemble = .ok v) : v = x.spelled := by
  simp only [assemble, bind_eq_ok, snapshotEpoch_eq_ok, pure_eq_ok] at h
  obtain ⟨params, hparams, _, ⟨rfl, -⟩, _, ⟨rfl, -⟩, rfl⟩ := h
  suffices hspelled : params = spelledParams x.context.checked x.timing x.policy x.prorationDate
      x.productLine x.idempotencyKey by
    rw [hspelled]
    rfl
  by_cases htiming : x.timing = .immediate
  · rw [PlanChangeFacts.params, if_pos htiming, immediateParams] at hparams
    rw [htiming]
    split at hparams
    case h_1 hpolicy =>
      rw [hpolicy, ← pure_eq_ok.1 hparams]
      rfl
    case h_2 hpolicy hdate =>
      rw [hpolicy, hdate, ← pure_eq_ok.1 hparams]
      rfl
    case h_3 => cases hparams
  · rw [PlanChangeFacts.params, if_neg htiming] at hparams
    simp only [scheduleParams, bind_eq_ok, snapshotEpoch_eq_ok, pure_eq_ok] at hparams
    obtain ⟨_, ⟨rfl, -⟩, rfl⟩ := hparams
    rw [spelledParams_later htiming]
    rfl

/-- Admissible facts are assembled. -/
theorem Admissible.assemble (h : x.Admissible u) : x.assemble = .ok x.spelled := by
  have hstart := h.context.ordered.le.trans h.context.ended
  have hfinish := h.context.started.trans h.context.ordered.le
  have hparams : ∃ params, x.params = .ok params := by
    unfold PlanChangeFacts.params
    by_cases htiming : x.timing = .immediate
    · rw [if_pos htiming, immediateParams]
      cases hpolicy : x.policy with
      | fullPeriodReset => exact ⟨_, rfl⟩
      | proratedDelta =>
        obtain ⟨date, hdate, -⟩ := h.dated htiming hpolicy
        rw [Option.mem_def.1 hdate]
        exact ⟨_, rfl⟩
    · rw [if_neg htiming]
      simp only [scheduleParams, bind_eq_ok, snapshotEpoch_eq_ok, pure_eq_ok]
      exact ⟨_, _, ⟨rfl, hfinish, h.context.ended⟩, rfl⟩
  obtain ⟨params, hparams⟩ := hparams
  have hassemble : ∃ v, x.assemble = .ok v := by
    simp only [PlanChangeFacts.assemble, bind_eq_ok, snapshotEpoch_eq_ok, pure_eq_ok]
    exact ⟨_, params, hparams, _, ⟨rfl, h.context.started, hstart⟩, _,
      ⟨rfl, hfinish, h.context.ended⟩, rfl⟩
  obtain ⟨v, hv⟩ := hassemble
  rw [hv, eq_spelled_of_assemble hv]

/-- **Admissible facts** are accepted as they are spelled, under the expectations they meet, and
    so they are with another one for the version. -/
theorem Admissible.accepted (hu : u.Lawful) (h : x.Admissible u) (htiming : x.timing ≠ .noop)
    {e : SnapshotExpectations}
    (he : e.check x.idempotencyKey x.context.subscriptionId x.timing x.policy = .ok ())
    (version : Json) (hone : version.isOne = true) (hlight : version.Light 12) :
    validatePlanChangeRequestSnapshot u (.obj (x.membersWith version)) e =
      .ok (.obj (x.membersWith version)) := by
  rw [validate_eq_ok]
  refine ⟨rfl, x.timing, x.policy, x.requestApiVersion, x.idempotencyKey, x.productLine,
    x.context.checked, ?_, he⟩
  -- The text of the kind parses to the timing, which is not a no-op.
  have hkind : parseSnapshotKind x.timing.snapshotKind = some x.timing := by
    cases htimed : x.timing with
    | immediate => rfl
    | periodEnd => rfl
    | noop => exact absurd htimed htiming
  -- One goal for each check of the validator, in its order.
  constructor
  · exact (h.light hu hlight).safeJson (by decide)
  · exact ⟨⟨_, rfl, rfl⟩, by simp [snapshotKeys, membersWith, Json.has, List.lookup_cons]⟩
  · rfl
  · exact hone
  · exact ⟨_, rfl, hkind⟩
  · exact ⟨rfl, h.requestApiVersion⟩
  · exact ⟨rfl, h.idempotencyKey⟩
  · exact ⟨rfl, h.productLine⟩
  · exact ⟨_, rfl, TransitionPolicy.parse_text _⟩
  · exact validate_context h.context
  · exact validate_evidence h.context h.source h.target h.lookupKey
  · exact validate_params h.context h.dated _ _

theorem Admissible.validate (hu : u.Lawful) (h : x.Admissible u) (htiming : x.timing ≠ .noop)
    {e : SnapshotExpectations}
    (he : e.check x.idempotencyKey x.context.subscriptionId x.timing x.policy = .ok ()) :
    validatePlanChangeRequestSnapshot u x.spelled e = .ok x.spelled :=
  h.accepted hu htiming he _ rfl (.int (by decide) (by decide))

end PlanChangeFacts

theorem PlanChangeContext.admissible_of_atSeconds {c : PlanChangeContext}
    (h : c.atSeconds.Admissible u) : c.Admissible u := by
  have hstart : c.atSeconds.startSeconds = c.startSeconds := epochSeconds_mul _
  have hfinish : c.atSeconds.endSeconds = c.endSeconds := epochSeconds_mul _
  have hstarted := h.started
  have hordered := h.ordered
  have hended := h.ended
  rw [hstart] at hstarted hordered
  rw [hfinish] at hordered hended
  exact ⟨⟨h.subscriptionId, h.subscriptionItemId, h.currentPriceId, h.targetPriceId, hstarted,
    hordered, hended, h.scheduleId, h.subscriptionStatus⟩, h.currentLookupKey⟩

namespace PlanChangeFacts

variable {x : PlanChangeFacts}

/-- The date of a delta change is read back as it was. -/
theorem prorationDate_spelled (c : SnapshotContext) {date : Int} {productLine idempotencyKey : String} :
    ((spelledParams c .immediate .proratedDelta (some date) productLine idempotencyKey).get
      "proration_date").asInt = some date := by
  simp [spelledParams, Json.get, List.lookup_cons]

/-- **What the builder freezes** are admissible facts, as they are spelled. It assembles the
    members, some of which can fail, and validates the result as it would a stored request. -/
theorem build_eq_ok (hu : u.Lawful) (htiming : x.timing ≠ .noop) :
    buildPlanChangeRequestSnapshot u x = .ok v ↔ x.Admissible u ∧ v = x.spelled := by
  simp only [buildPlanChangeRequestSnapshot, bind_eq_ok]
  constructor
  · rintro ⟨assembled, hassembled, hvalidated⟩
    have hspelled := eq_spelled_of_assemble hassembled
    subst hspelled
    have hv := (validate_eq_ok.1 hvalidated).1
    refine ⟨?_, hv⟩
    have hread := (admissible_of_validate hvalidated).1
    have hterms := readTerms_spelled x.context.checked x.source x.target
    have hsource : (readFacts x.spelled).source = x.source := hterms.1
    have htarget : (readFacts x.spelled).target = x.target := hterms.2
    have hcontext : (readFacts x.spelled).context = x.context.atSeconds :=
      readContext_spelled x.context
    have hlookup := hread.lookupKey
    have hadmissible := hread.context
    have hsourced := hread.source
    have htargeted := hread.target
    rw [hsource, hcontext] at hlookup
    rw [hcontext] at hadmissible
    rw [hsource] at hsourced
    rw [htarget] at htargeted
    refine ⟨PlanChangeContext.admissible_of_atSeconds hadmissible, hread.requestApiVersion,
      hread.idempotencyKey, hread.productLine, hsourced, htargeted, hlookup, ?_⟩
    intro himmediate hpolicy
    -- the builder asks for the date of a delta change, and the validator for its range
    cases hdate : x.prorationDate with
    | none =>
      simp [assemble, params, himmediate, immediateParams, hpolicy, hdate] at hassembled
      cases hassembled
    | some date =>
      have hkind : (readFacts x.spelled).timing = x.timing := by
        rw [himmediate]
        simp [readFacts, spelled, membersWith, Json.get, List.lookup_cons, himmediate]
        rfl
      have hpolicyRead : (readFacts x.spelled).policy = x.policy := by
        rw [hpolicy]
        simp [readFacts, spelled, membersWith, Json.get, List.lookup_cons, hpolicy]
        rfl
      obtain ⟨read, hread, hrange⟩ := hread.dated (hkind.trans himmediate)
        (hpolicyRead.trans hpolicy)
      have hparams : x.spelled.get "params" = spelledParams x.context.checked .immediate
          .proratedDelta (some date) x.productLine x.idempotencyKey := by
        simp [spelled, membersWith, Json.get, List.lookup_cons, himmediate, hpolicy, hdate]
      have hdated : (readFacts x.spelled).prorationDate = some date := by
        change ((x.spelled.get "params").get "proration_date").asInt = some date
        rw [hparams, prorationDate_spelled]
      rw [hdated] at hread
      cases hread
      exact ⟨date, rfl, hrange⟩
  · rintro ⟨h, rfl⟩
    exact ⟨x.spelled, h.assemble, h.validate hu htiming rfl⟩

end PlanChangeFacts

end StripeEntitlements
