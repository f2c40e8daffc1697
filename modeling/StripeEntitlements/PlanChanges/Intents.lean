import StripeEntitlements.PlanChanges.Progress
import StripeEntitlements.Snapshots.PlanChangeFreeze

/-!
# Intents

The tier decision is made when an intent is reserved and made again when its preview is frozen.
Either leaves a row whose plans, policy, timing and request are about one change.

## Main results

- `decideTransition_decides` — every pair of catalog plans has a decision, and what it says
- `PlanChange.Coherent` — what holds of a stored intent from its reservation on
- `previewed_coherent`, `reservePlanChange_spec` — freezing and reserving leave it so
- `reservePlanChange_ne_error` — a decided delta upgrade has its gain
-/

namespace StripeEntitlements

open Relational

variable {settings : PlanChangeSettings} {cfg : Config} {column : JsonColumn} {tx : Tx}
  {b b' : Billing}

/-! ## Errors -/

section

variable {ε α β : Type}

/-- A sequence of two computations stops where one of them does. -/
theorem bind_eq_error {x : Except ε α} {f : α → Except ε β} {e : ε} :
    (x >>= f) = .error e ↔ x = .error e ∨ ∃ a, x = .ok a ∧ f a = .error e := by
  cases x with
  | error e' =>
    constructor
    · intro h
      cases h
      exact .inl rfl
    · rintro (h | ⟨a, h, -⟩)
      · cases h
        rfl
      · cases h
  | ok a =>
    constructor
    · exact fun h => .inr ⟨a, rfl, h⟩
    · rintro (h | ⟨a', h, hf⟩)
      · cases h
      · cases h
        exact hf

theorem map_eq_error {x : Except ε α} {f : α → β} {e : ε} :
    x.map f = .error e ↔ x = .error e := by
  cases x <;> simp [Except.map]

theorem require_eq_error {q : Bool} {e e' : ε} :
    require q e = .error e' ↔ q = false ∧ e = e' := by
  cases q <;> simp [require]

theorem fetch_eq_error {row : Option α} {e e' : ε} :
    fetch row e = .error e' ↔ row = none ∧ e = e' := by
  cases row <;> simp [fetch]

theorem pure_ne_error {a : α} {e : ε} : (pure a : Except ε α) ≠ .error e := fun h => by cases h

end

/-! ## The decision -/

/-- What it takes to charge a change at once: it starts on a monthly plan, and a delta upgrade
    stays monthly, climbs and gains credits. -/
def ChargedAtOnce (timing : EffectiveMode) (current : Plan) (currentInterval : Interval)
    (target : Plan) (targetInterval : Interval) (policy : TransitionPolicy) : Prop :=
  timing = .immediate → currentInterval = .month ∧
    (policy = .proratedDelta → targetInterval = .month ∧ current.rank < target.rank ∧
      current.monthlyCredits < target.monthlyCredits)

/-- What a decision says about the change that was asked for. -/
structure TransitionDecision.Decides (d : TransitionDecision) (current : Plan) (i : Interval)
    (target : Plan) (j : Interval) (policy : TransitionPolicy) : Prop where
  fromPlan : d.fromPlan = current.key
  fromInterval : d.fromInterval = i
  targetPlan : d.targetPlan = target.key
  targetInterval : d.targetInterval = j
  samePolicy : d.policy = policy
  charged : ChargedAtOnce d.timing current i target j policy

/-- The timing between two plans that are one where their ranks agree. -/
theorem transitionTiming_charged {current target : Plan} {i j : Interval}
    {policy : TransitionPolicy} (hrank : current.rank = target.rank → current.key = target.key) :
    ∃ timing reason, transitionTiming current i target j policy = .ok (timing, reason) ∧
      ChargedAtOnce timing current i target j policy := by
  have hdeferred : ∀ {timing : EffectiveMode}, timing ≠ .immediate →
      ChargedAtOnce timing current i target j policy := fun h himmediate => absurd himmediate h
  unfold transitionTiming
  split
  case isTrue => exact ⟨_, _, rfl, hdeferred (by decide)⟩
  split
  case isTrue => exact ⟨_, _, rfl, hdeferred (by decide)⟩
  case isFalse hyear =>
  have hmonth : i = .month := by
    cases i with
    | month => rfl
    | year => exact absurd rfl hyear
  split
  case isTrue => exact ⟨_, _, rfl, hdeferred (by decide)⟩
  case isFalse hannual =>
  have hstays : policy = .proratedDelta → j = .month := by
    intro hpolicy
    cases j with
    | month => rfl
    | year => exact absurd ⟨hpolicy, .inl (by decide)⟩ hannual
  split
  case isTrue => exact ⟨_, _, rfl, hdeferred (by decide)⟩
  case isFalse hloss =>
  split
  case isTrue hup =>
    refine ⟨_, _, rfl, fun _ => ⟨hmonth, fun hpolicy => ⟨hstays hpolicy, hup, ?_⟩⟩⟩
    by_contra hcredits
    exact hloss ⟨hpolicy, hup, Nat.le_of_not_lt hcredits⟩
  case isFalse hup =>
  split
  case isTrue => exact ⟨_, _, rfl, hdeferred (by decide)⟩
  case isFalse hdown =>
  -- equal ranks: the plans are one, so that only the interval can differ
  have hkey := hrank (Nat.le_antisymm (Nat.le_of_not_lt hdown) (Nat.le_of_not_lt hup))
  rw [if_neg (by simp [hkey])]
  split
  case isTrue hlonger =>
    refine ⟨_, _, rfl, fun _ => ⟨hmonth, fun hpolicy => ?_⟩⟩
    have hj := hstays hpolicy
    rw [hlonger.2] at hj
    cases hj
  case isFalse => exact ⟨_, _, rfl, hdeferred (by decide)⟩

/-- **Every change between two catalog plans** has a decision. -/
theorem decideTransition_decides {catalog : PlanCatalog} {current target : Plan}
    (hcurrent : current ∈ catalog.plans) (htarget : target ∈ catalog.plans) (i j : Interval)
    (policy : TransitionPolicy) :
    ∃ d, decideTransition current i target j policy = .ok d ∧
      d.Decides current i target j policy := by
  have hrank : current.rank = target.rank → current.key = target.key := fun h =>
    congrArg Plan.key (List.inj_on_of_nodup_map catalog.ranks_nodup hcurrent htarget h)
  obtain ⟨timing, reason, htiming, hcharged⟩ :
      ∃ timing reason, transitionTiming current i target j policy = .ok (timing, reason) ∧
        ChargedAtOnce timing current i target j policy := transitionTiming_charged hrank
  exact ⟨_, bind_eq_ok.2 ⟨_, htiming, rfl⟩, ⟨rfl, rfl, rfl, rfl, rfl, hcharged⟩⟩

/-! ## What a stored intent is about -/

/-- A monthly tier upgrade between these plans that adds their difference. -/
structure PlanChange.Upgrades (c : PlanChange) (source target : Plan) : Prop where
  fromInterval : c.fromInterval = .month
  targetInterval : c.targetInterval = .month
  rank : source.rank < target.rank
  credits : source.monthlyCredits < target.monthlyCredits
  delta : c.expectedCreditDelta = some (target.monthlyCredits - source.monthlyCredits)

/-- The intent stores the difference of its own two plans. -/
def PlanChange.FundsDelta (catalog : PlanCatalog) (c : PlanChange) : Prop :=
  ∃ source target, catalog.plan? c.fromPlanKey = some source ∧
    catalog.plan? c.targetPlanKey = some target ∧ c.Upgrades source target

/-- The facts of a frozen request are those of the intent that stores it. -/
structure PlanChange.Describes (catalog : PlanCatalog) (c : PlanChange) (x : PlanChangeFacts) :
    Prop where
  timing : x.timing = c.effectiveMode
  policy : x.policy = c.transitionPolicy
  subscription : x.context.subscriptionId = c.stripeSubscriptionId
  idempotencyKey : x.idempotencyKey = requestIdempotencyKey c.stripeRequestKey c.effectiveMode
  source : ∃ plan, catalog.plan? c.fromPlanKey = some plan ∧
    x.source = catalog.terms plan c.fromInterval
  target : ∃ plan, catalog.plan? c.targetPlanKey = some plan ∧
    x.target = catalog.terms plan c.targetInterval

/-- The request an intent stores. -/
structure PlanChange.Freezes (cfg : Config) (column : JsonColumn) (c : PlanChange)
    (text : String) (x : PlanChangeFacts) (snapshot : Json) : Prop where
  built : buildPlanChangeRequestSnapshot cfg.unicode x = .ok snapshot
  stored : text = column.encode snapshot
  version : c.requestSnapshotVersion = some 1
  timed : c.effectiveMode ≠ .noop
  describes : c.Describes cfg.catalog x

/-- What holds of a stored intent from its reservation on. -/
structure PlanChange.Coherent (cfg : Config) (column : JsonColumn) (c : PlanChange) : Prop where
  /-- An intent that is charged now, or was priced once, stores what it adds. -/
  funded : c.transitionPolicy = .proratedDelta →
    (c.effectiveMode = .immediate ∨ c.estimatedSourceProration.isSome) → c.FundsDelta cfg.catalog
  frozen : ∀ text, c.stripeRequestSnapshot = some text →
    ∃ x snapshot, c.Freezes cfg column text x snapshot
  reserved : c.status = .reserved → c.effectiveMode ≠ .noop

/-- Only the terms matter, and the first status. -/
theorem PlanChange.Coherent.advances {c c' : PlanChange} (h : c.Coherent cfg column)
    (hadvances : c.Advances c') : c'.Coherent cfg column := by
  have hterms := hadvances.terms
  simp only [PlanChange.terms, PlanChange.mk.injEq] at hterms
  -- the terms are frozen, so each column below is the old one
  obtain ⟨-, -, -, hsub, hfrom, hfromInterval, htarget, htargetInterval, hmode, -, -, -, hkey,
    -, -, -, -, -, -, hestimated, -, -, -, -, -, -, -, -, -, hpolicy, -, hdelta, -, -, -,
    hversion, hsnapshot, -⟩ := hterms
  constructor
  -- a priced upgrade was priced by the same plans and intervals
  · intro hprorated hpriced
    rw [hpolicy] at hprorated
    rw [hmode, hestimated] at hpriced
    obtain ⟨source, target, hsource, htarget', hupgrade⟩ := h.funded hprorated hpriced
    refine ⟨source, target, hfrom ▸ hsource, htarget ▸ htarget', ?_⟩
    exact ⟨hfromInterval.trans hupgrade.fromInterval, htargetInterval.trans hupgrade.targetInterval,
      hupgrade.rank, hupgrade.credits, hdelta.trans hupgrade.delta⟩
  -- the stored request is the same text, and describes the same terms
  · intro text htext
    rw [hsnapshot] at htext
    obtain ⟨x, snapshot, hfreezes⟩ := h.frozen text htext
    refine ⟨x, snapshot, hfreezes.built, hfreezes.stored, hversion.trans hfreezes.version, ?_, ?_⟩
    · rw [hmode]
      exact hfreezes.timed
    · have hdescribes := hfreezes.describes
      constructor
      · exact hdescribes.timing.trans hmode.symm
      · exact hdescribes.policy.trans hpolicy.symm
      · exact hdescribes.subscription.trans hsub.symm
      · rw [hkey, hmode]
        exact hdescribes.idempotencyKey
      · rw [hfrom, hfromInterval]
        exact hdescribes.source
      · rw [htarget, htargetInterval]
        exact hdescribes.target
  -- a reserved intent was reserved before
  · intro hreserved
    rw [hmode]
    exact h.reserved (hadvances.reserved hreserved)

/-! ## Preview -/

/-- The decision `preview_remote` freezes, once the gateway answered with `context` and
    `estimate`. -/
def PlanChange.preview (cfg : Config) (tx : Tx) (row : PlanChange) (context : PlanChangeContext)
    (estimate : PlanChangeEstimate) : Transaction PlanChangePreview := do
  let target ← cfg.catalog.require row.targetPlanKey
  let source ← cfg.catalog.require row.fromPlanKey
  if row.effectiveMode = .immediate then
    let prorationDate :=
      if row.transitionPolicy = .proratedDelta then some (databaseEpoch tx) else none
    pure {
      decision := estimate.settle cfg.unicode source target row.decision context prorationDate
      context, estimate := some estimate, prorationDate }
  else
    pure { decision := row.decision, context }

/-- A decision on the same change. -/
structure TransitionDecision.SameChange (d d' : TransitionDecision) : Prop where
  fromPlan : d.fromPlan = d'.fromPlan
  fromInterval : d.fromInterval = d'.fromInterval
  targetPlan : d.targetPlan = d'.targetPlan
  targetInterval : d.targetInterval = d'.targetInterval
  samePolicy : d.policy = d'.policy

theorem settle_same {x : PlanChangeEstimate} {u : Unicode} {source target : Plan}
    {d : TransitionDecision} {context : PlanChangeContext} {date : Option Int} :
    (x.settle u source target d context date).SameChange d ∧
      ((x.settle u source target d context date).timing = d.timing ∨
        (x.settle u source target d context date).timing = .periodEnd) := by
  unfold PlanChangeEstimate.settle
  split
  · exact ⟨⟨rfl, rfl, rfl, rfl, rfl⟩, .inl rfl⟩
  · exact ⟨⟨rfl, rfl, rfl, rfl, rfl⟩, .inr rfl⟩

/-- What a preview may turn a stored decision into. -/
structure PlanChangePreview.Follows (preview : PlanChangePreview) (row : PlanChange)
    (context : PlanChangeContext) : Prop where
  same : preview.decision.SameChange row.decision
  timing : preview.decision.timing = row.effectiveMode ∨ preview.decision.timing = .periodEnd
  context : preview.context = context
  /-- Only an immediate change is priced. -/
  priced : preview.estimate.isSome → row.effectiveMode = .immediate

/-- **A deferred preview** is still a preview of the reserved change. -/
theorem preview_follows {row : PlanChange} {context : PlanChangeContext}
    {estimate : PlanChangeEstimate} {preview : PlanChangePreview}
    (h : row.preview cfg tx context estimate = .ok preview) : preview.Follows row context := by
  simp only [PlanChange.preview, bind_eq_ok] at h
  obtain ⟨target, -, source, -, h⟩ := h
  split at h
  case isTrue himmediate =>
    rw [pure_eq_ok] at h
    subst h
    obtain ⟨hsame, htiming⟩ := settle_same
    exact ⟨hsame, htiming, rfl, fun _ => himmediate⟩
  case isFalse =>
    rw [pure_eq_ok] at h
    subst h
    exact ⟨⟨rfl, rfl, rfl, rfl, rfl⟩, .inl rfl, rfl, fun hpriced => by cases hpriced⟩

/-- The facts of the snapshot that a preview freezes. -/
theorem buildRequestSnapshot_spec {row : PlanChange} {preview : PlanChangePreview}
    {snapshot : Json} (h : buildRequestSnapshot settings cfg row preview = .ok snapshot) :
    ∃ source target, cfg.catalog.plan? preview.decision.fromPlan = some source ∧
      cfg.catalog.plan? preview.decision.targetPlan = some target ∧
      buildPlanChangeRequestSnapshot cfg.unicode
        (preview.facts settings cfg.catalog row source target) = .ok snapshot := by
  simp only [buildRequestSnapshot, PlanCatalog.require, bind_eq_ok, fetch_eq_ok] at h
  obtain ⟨source, hsource, target, htarget, hbuilt⟩ := h
  exact ⟨source, target, hsource, htarget, hbuilt⟩

/-- The columns `_store_preview` writes. -/
def PlanChange.previewed (column : JsonColumn) (tx : Tx) (preview : PlanChangePreview)
    (snapshot : Json) (c : PlanChange) : PlanChange :=
  { c with
    status := .previewed
    effectiveMode := preview.decision.timing
    effectiveAt := if preview.decision.timing = .periodEnd then
      some preview.context.currentPeriodEnd else none
    prorationDate := preview.prorationDate
    estimatedAmountDue := preview.estimate.map PlanChangeEstimate.amountDue
    estimateCurrency := preview.estimate.map PlanChangeEstimate.currency
    estimatedSourceProration := preview.estimate.map PlanChangeEstimate.sourceProrationAmount
    estimatedTargetProration := preview.estimate.map PlanChangeEstimate.targetProrationAmount
    estimatedPeriodStart := preview.estimate.bind PlanChangeEstimate.periodStart
    estimatedPeriodEnd := preview.estimate.bind PlanChangeEstimate.periodEnd
    previewExpiresAt := some (tx.now + 10 * 60 * 1000000)
    requestSnapshotVersion := some 1
    stripeRequestSnapshot := some (column.encode snapshot)
    leaseToken := none
    leaseExpiresAt := none
    lastError := none }

/-- The intent that a reserved row becomes when its preview is frozen. -/
theorem previewed_coherent {c row : PlanChange} {preview : PlanChangePreview} {snapshot : Json}
    {context : PlanChangeContext} (hc : c.Coherent cfg column) (hterms : c.terms = row.terms)
    (hreserved : row.effectiveMode ≠ .noop) (hfollows : preview.Follows row context)
    (hsubscription : context.subscriptionId = row.stripeSubscriptionId)
    (hbuilt : buildRequestSnapshot settings cfg row preview = .ok snapshot) :
    (c.previewed column tx preview snapshot).Coherent cfg column := by
  simp only [PlanChange.terms, PlanChange.mk.injEq] at hterms
  obtain ⟨-, -, -, hsub, hfrom, hfromInterval, htarget, htargetInterval, hmode, -, -, -, hkey,
    -, -, -, -, -, -, hestimated, -, -, -, -, -, -, -, -, -, hpolicy, -, hdelta, -, -, -,
    hversion, hsnapshot, -⟩ := hterms
  -- the snapshot was built from the plans the row names, in the catalog of the call
  obtain ⟨source, target, hsource, htargetPlan, hbuilt⟩ := buildRequestSnapshot_spec hbuilt
  have hsame := hfollows.same
  constructor
  · -- a priced preview started from an immediate decision, and so did an immediate one
    intro hprorated hpriced
    have himmediate : row.effectiveMode = .immediate := by
      rcases hpriced with htiming | hestimate
      · rcases hfollows.timing with heq | heq
        · exact heq.symm.trans htiming
        · exact absurd (heq.symm.trans htiming) (by decide)
      · apply hfollows.priced
        simpa [PlanChange.previewed] using hestimate
    obtain ⟨s, t, hs, ht, hupgrade⟩ := hc.funded hprorated (.inl (hmode.trans himmediate))
    exact ⟨s, t, hs, ht, hupgrade.fromInterval, hupgrade.targetInterval, hupgrade.rank,
      hupgrade.credits, hupgrade.delta⟩
  · intro text htext
    refine ⟨_, snapshot, hbuilt, (Option.some.inj htext).symm, rfl, ?_, ?_⟩
    -- a preview keeps the row's timing or makes it immediate, and neither is `noop`
    · intro hnoop
      rcases hfollows.timing with heq | heq
      · exact hreserved (heq.symm.trans hnoop)
      · exact absurd (heq.symm.trans hnoop) (by decide)
    -- the frozen facts are those of the row, member by member
    · constructor
      · rfl
      · exact hsame.samePolicy.trans hpolicy.symm
      · rw [PlanChangePreview.facts, hfollows.context]
        exact hsubscription.trans hsub.symm
      · simp only [PlanChangePreview.facts, PlanChange.previewed, hkey]
      · refine ⟨source, ?_, ?_⟩
        · rw [← hsource, hsame.fromPlan]
          exact congrArg cfg.catalog.plan? hfrom
        · simp only [PlanChangePreview.facts, PlanChange.previewed, hsame.fromInterval,
            PlanChange.decision, hfromInterval]
      · refine ⟨target, ?_, ?_⟩
        · rw [← htargetPlan, hsame.targetPlan]
          exact congrArg cfg.catalog.plan? htarget
        · simp only [PlanChangePreview.facts, PlanChange.previewed, hsame.targetInterval,
            PlanChange.decision, htargetInterval]
  -- a previewed row is not reserved any more
  · intro hstatus
    cases hstatus

/-! ## Reservation -/

variable {catalog : PlanCatalog} {account : Account} {current target : Plan}

/-- The complaint about a delta upgrade without a gain. -/
def noPositiveDelta : Failure :=
  .planChangeConflict "a prorated upgrade requires a positive entitlement delta"

/-- A decided delta upgrade has its gain. -/
theorem deltaTerms_ne_error {d : TransitionDecision} {i j : Interval} {policy : TransitionPolicy}
    (hd : d.Decides current i target j policy) :
    deltaTerms tx b account current target d ≠ .error noPositiveDelta := by
  intro h
  unfold deltaTerms at h
  split at h
  case isTrue hdelta =>
    have hgain := (hd.charged hdelta.2).2 (hd.samePolicy.symm.trans hdelta.1)
    simp only [bind_eq_error, require_eq_error, noPositiveDelta] at h
    rcases h with ⟨-, h⟩ | ⟨_, -, ⟨-, h⟩ | ⟨_, -, ⟨h, -⟩ | ⟨_, -, h⟩⟩⟩
    · cases h
    · cases h
    · exact absurd hgain.2.2 (of_decide_eq_false h)
    · exact pure_ne_error h
  case isFalse => exact pure_ne_error h

theorem deltaTerms_spec {d : TransitionDecision} {delta : DeltaTerms}
    (h : deltaTerms tx b account current target d = .ok delta) (hpolicy : d.policy = .proratedDelta)
    (htiming : d.timing = .immediate) :
    delta.creditDelta = some (target.monthlyCredits - current.monthlyCredits) := by
  unfold deltaTerms at h
  rw [if_pos ⟨hpolicy, htiming⟩] at h
  simp only [bind_eq_ok, pure_eq_ok] at h
  obtain ⟨_, -, _, -, _, -, rfl⟩ := h
  rfl

variable {changeId : String} {req : PlanChangeRequest} {row : PlanChange}

/-- The row that a decision reserves. -/
theorem newPlanChange_coherent {subscriptionId : String} {d : TransitionDecision}
    {delta : DeltaTerms} {i j : Interval} {policy : TransitionPolicy}
    (hcurrent : current ∈ cfg.catalog.plans) (htarget : target ∈ cfg.catalog.plans)
    (hd : d.Decides current i target j policy)
    (hdelta : deltaTerms tx b account current target d = .ok delta) :
    (newPlanChange tx account changeId req subscriptionId d delta).Coherent cfg column := by
  constructor
  -- an immediate decision under the delta policy is a monthly upgrade with a gain
  · intro hprorated hpriced
    have himmediate : d.timing = .immediate := by
      rcases hpriced with htiming | hestimate
      · exact htiming
      · cases hestimate
    have hpolicy : policy = .proratedDelta := hd.samePolicy.symm.trans hprorated
    obtain ⟨hmonth, hgain⟩ := hd.charged himmediate
    obtain ⟨hj, hrank, hcredits⟩ := hgain hpolicy
    refine ⟨current, target, ?_, ?_, ?_⟩
    · rw [show (newPlanChange tx account changeId req subscriptionId d delta).fromPlanKey =
        current.key from hd.fromPlan]
      exact PlanCatalog.plan?_eq hcurrent
    · rw [show (newPlanChange tx account changeId req subscriptionId d delta).targetPlanKey =
        target.key from hd.targetPlan]
      exact PlanCatalog.plan?_eq htarget
    · exact ⟨hd.fromInterval.trans hmonth, hd.targetInterval.trans hj, hrank, hcredits,
        deltaTerms_spec hdelta hprorated himmediate⟩
  -- nothing is frozen yet
  · intro text htext
    cases htext
  -- a decision without effect is stored as completed
  · intro hreserved hnoop
    have hstatus : (newPlanChange tx account changeId req subscriptionId d delta).status =
        .completed := if_pos hnoop
    rw [hstatus] at hreserved
    cases hreserved

theorem insertPlanChange_spec {j : Interval} (htarget : target ∈ cfg.catalog.plans)
    (h : insertPlanChange settings cfg.catalog tx b account changeId req target j =
      .ok (b', row)) :
    row.Coherent cfg column ∧ ∃ planChanges, b.planChanges.insert? row = some planChanges ∧
      b' = { b with planChanges := planChanges } := by
  simp only [insertPlanChange, PlanCatalog.require, bind_eq_ok, fetch_eq_ok, pure_eq_ok,
    Billing.insert_eq_ok, Stored.table, Stored.install, Prod.mk.injEq] at h
  obtain ⟨subscriptionId, -, _, -, i, -, current, hcurrent, d, hd, _, -, _, -, delta, hdelta, _,
    ⟨planChanges, hinsert, rfl⟩, rfl, rfl⟩ := h
  have hcurrent := PlanCatalog.plan?_mem hcurrent
  obtain ⟨d', hd', hdecides⟩ := decideTransition_decides hcurrent htarget i j
    settings.transitionPolicy
  rw [hd, Except.ok.injEq] at hd'
  subst hd'
  exact ⟨newPlanChange_coherent hcurrent htarget hdecides hdelta, planChanges, hinsert, rfl⟩

theorem insertPlanChange_ne_error {j : Interval} (htarget : target ∈ catalog.plans) :
    insertPlanChange settings catalog tx b account changeId req target j ≠
      .error noPositiveDelta := by
  -- every raise of the call in turn, each with a text of its own
  intro h
  simp only [insertPlanChange, PlanCatalog.require, parseInterval, bind_eq_error, fetch_eq_error,
    require_eq_error, fetch_eq_ok] at h
  rcases h with ⟨-, h⟩ | ⟨_, -, ⟨-, h⟩ | ⟨_, -, ⟨-, h⟩ | ⟨i, -, ⟨-, h⟩ | ⟨current, hcurrent,
    h | ⟨d, hd, ⟨-, h⟩ | ⟨_, -, ⟨-, h⟩ | ⟨_, -, h | ⟨_, -, h | ⟨_, -, h⟩⟩⟩⟩⟩⟩⟩⟩⟩
  · cases h
  · cases h
  · simp [noPositiveDelta] at h
  · cases h
  -- a decision always exists, so that branch cannot have raised
  · obtain ⟨d, hd, -⟩ := decideTransition_decides (PlanCatalog.plan?_mem hcurrent) htarget i j
      settings.transitionPolicy
    rw [hd] at h
    cases h
  · cases h
  · cases h
  -- only the terms of the delta could complain, and the decision has made sure that they do not
  · obtain ⟨d', hd', hdecides⟩ := decideTransition_decides (PlanCatalog.plan?_mem hcurrent) htarget
      i j settings.transitionPolicy
    rw [hd, Except.ok.injEq] at hd'
    subst hd'
    exact deltaTerms_ne_error hdecides h
  -- the insertion raises nothing but a violated constraint
  · simp only [Billing.insert, bind_eq_error] at h
    rcases h with h | ⟨_, -, h⟩
    · revert h
      unfold statement
      split
      · exact fun h => by cases h
      · exact fun h => by cases h
    · exact pure_ne_error h
  · exact pure_ne_error h

/-- **No reservation** complains about a delta upgrade without a gain. -/
theorem reservePlanChange_ne_error :
    reservePlanChange settings catalog tx b changeId req ≠ .error noPositiveDelta := by
  intro h
  simp only [reservePlanChange, PlanCatalog.require, parseInterval, bind_eq_error, fetch_eq_error,
    fetch_eq_ok] at h
  rcases h with ⟨-, h⟩ | ⟨target, htarget, ⟨-, h⟩ | ⟨j, -, ⟨-, h⟩ | ⟨account, -, h | ⟨b₁, -, h⟩⟩⟩⟩
  · cases h
  · simp [noPositiveDelta] at h
  · cases h
  · -- the two updates raise nothing but a violated constraint
    simp only [expirePlanChanges, Billing.updateWhere, bind_eq_error] at h
    have hstatement : ∀ o : Option (Table PlanChange), statement o ≠ .error noPositiveDelta := by
      intro o ho
      cases o <;> cases ho
    rcases h with (h | ⟨_, -, h⟩) | ⟨_, -, h | ⟨_, -, h⟩⟩
    · exact hstatement _ h
    · exact pure_ne_error h
    · exact hstatement _ h
    · exact pure_ne_error h
  -- a known request is answered from its row, a new one is inserted
  · split at h
    · simp only [bind_eq_error, require_eq_error] at h
      rcases h with ⟨-, h⟩ | ⟨_, -, h⟩
      · simp [noPositiveDelta] at h
      · exact pure_ne_error h
    · simp only [bind_eq_error] at h
      rcases h with h | ⟨_, -, h⟩
      · exact insertPlanChange_ne_error (PlanCatalog.plan?_mem htarget) h
      · exact pure_ne_error h

/-- A reservation finds the intent of its key, or inserts a new one. -/
theorem reservePlanChange_spec {replayed : Bool}
    (h : reservePlanChange settings cfg.catalog tx b changeId req = .ok (b', row, replayed)) :
    ∃ b₁, IntentsAdvance b b₁ ∧
      ((row ∈ b₁.planChanges.rows ∧ b' = b₁) ∨
        (row.Coherent cfg column ∧ ∃ planChanges, b₁.planChanges.insert? row = some planChanges ∧
          b' = { b₁ with planChanges := planChanges })) := by
  simp only [reservePlanChange, PlanCatalog.require, bind_eq_ok, fetch_eq_ok] at h
  obtain ⟨target, htarget, j, -, account, -, b₁, hexpired, h⟩ := h
  refine ⟨b₁, expirePlanChanges_advances hexpired, ?_⟩
  split at h
  case h_1 existing hfound =>
    simp only [bind_eq_ok, pure_eq_ok, Prod.mk.injEq] at h
    obtain ⟨_, -, rfl, rfl, -⟩ := h
    exact .inl ⟨List.mem_of_find?_eq_some hfound, rfl⟩
  case h_2 =>
    simp only [bind_eq_ok, pure_eq_ok, Prod.mk.injEq] at h
    obtain ⟨⟨b₂, inserted⟩, hinsert, rfl, rfl, -⟩ := h
    exact .inr (insertPlanChange_spec (PlanCatalog.plan?_mem htarget) hinsert)

/-- The intent that a reservation answers with is stored. -/
theorem reservePlanChange_stored {replayed : Bool}
    (h : reservePlanChange settings cfg.catalog tx b changeId req = .ok (b', row, replayed)) :
    row ∈ b'.planChanges.rows := by
  simp only [reservePlanChange, bind_eq_ok] at h
  obtain ⟨_, -, _, -, _, -, b₁, -, h⟩ := h
  split at h
  case h_1 existing hfound =>
    simp only [bind_eq_ok, pure_eq_ok, Prod.mk.injEq] at h
    obtain ⟨_, -, rfl, rfl, -⟩ := h
    exact List.mem_of_find?_eq_some hfound
  case h_2 =>
    simp only [insertPlanChange, bind_eq_ok, pure_eq_ok, Billing.insert_eq_ok, Stored.table,
      Stored.install] at h
    obtain ⟨_, ⟨_, -, _, -, _, -, _, -, _, -, _, -, _, -, _, -, _, ⟨planChanges, hinsert, rfl⟩,
      rfl⟩, heq⟩ := h
    cases heq
    change _ ∈ planChanges.rows
    rw [Table.insert?_eq_some.1 hinsert]
    exact List.mem_append_right _ (List.mem_singleton.2 rfl)

end StripeEntitlements
