import StripeEntitlements.PlanChanges.Intents
import StripeEntitlements.Snapshots.Codec

/-!
# Stored Intents Can Be Settled

An intent is read back from its row when its Invoice is paid. Along every run of the
coordinator among other transactions, what is read back is what was decided.

## Main results

- `IntentStep` — one transaction, between two steps of any request
- `IntentStep.coherent` — each transaction keeps the intents coherent
- `stored_intents_settle` — in every run, every stored intent is one the processor can settle
-/

namespace StripeEntitlements

open Relational

variable {settings : PlanChangeSettings} {cfg : Config} {column : JsonColumn} {tx : Tx}
  {b b' : Billing} {row : PlanChange} {p : PaidInvoice}

/-! ## Runs -/

/-- The database, and the rows that the requests under way have read. -/
structure IntentDesk where
  billing : Billing
  read : List PlanChange

/-- One transaction. The coordinator reads an intent, leases it, freezes its preview, marks it
    as started and finishes it, each in a transaction of its own; between two of them any other
    transaction may run. -/
inductive IntentStep (settings : PlanChangeSettings) (cfg : Config) (column : JsonColumn) :
    IntentDesk → IntentDesk → Prop where
  | reserve {d : IntentDesk} {tx : Tx} {changeId : String} {req : PlanChangeRequest} {b : Billing}
      {row : PlanChange} {replayed : Bool}
      (h : reservePlanChange settings cfg.catalog tx d.billing changeId req =
        .ok (b, row, replayed)) :
      IntentStep settings cfg column d ⟨b, row :: d.read⟩
  | lease {d : IntentDesk} {tx : Tx} {changeId leaseToken : String} {status : PlanChangeStatus}
      {b : Billing} {found : Option PlanChange}
      (h : acquireLease settings tx d.billing changeId leaseToken status = .ok (b, found)) :
      IntentStep settings cfg column d ⟨b, d.read⟩
  | confirmationLease {d : IntentDesk} {tx : Tx} {changeId leaseToken : String} {b : Billing}
      {found : Option PlanChange}
      (h : acquireConfirmationLease settings tx d.billing changeId leaseToken = .ok (b, found)) :
      IntentStep settings cfg column d ⟨b, d.read⟩
  | expirePreview {d : IntentDesk} {tx : Tx} {changeId : String} {b : Billing}
      {found : Option PlanChange} (h : expirePreviewIfIdle tx d.billing changeId = .ok (b, found)) :
      IntentStep settings cfg column d ⟨b, d.read⟩
  | retire {d : IntentDesk} {changeId leaseToken : String} {b : Billing}
      {found : Option PlanChange}
      (h : retireUnfrozenIntent d.billing changeId leaseToken = .ok (b, found)) :
      IntentStep settings cfg column d ⟨b, d.read⟩
  | release {d : IntentDesk} {changeId leaseToken errorName : String} {b : Billing}
      {found : Option PlanChange}
      (h : releaseAfterError d.billing changeId leaseToken errorName = .ok (b, found)) :
      IntentStep settings cfg column d ⟨b, d.read⟩
  /-- A reserved row that was read earlier is compared with what the gateway answered, priced,
      frozen and stored. -/
  | store {d : IntentDesk} {tx tx' : Tx} {row : PlanChange} {context : PlanChangeContext}
      {estimate : PlanChangeEstimate} {preview : PlanChangePreview} {snapshot : Json}
      {observed b : Billing} {targetLookup leaseToken : String} {found : Option PlanChange}
      (hread : row ∈ d.read) (hreserved : row.status = .reserved)
      (hvalid : revalidateBeforeRemote cfg.catalog observed row context targetLookup = .ok ())
      (hpreview : row.preview cfg tx context estimate = .ok preview)
      (hsnapshot : buildRequestSnapshot settings cfg row preview = .ok snapshot)
      (h : storePreview column tx' d.billing row.id leaseToken preview snapshot =
        .ok (b, found)) :
      IntentStep settings cfg column d ⟨b, d.read⟩
  | start {d : IntentDesk} {tx : Tx} {changeId leaseToken : String} {b : Billing}
      {row : PlanChange} (h : markRemoteStarted tx d.billing changeId leaseToken = .ok (b, row)) :
      IntentStep settings cfg column d ⟨b, d.read⟩
  | finish {d : IntentDesk} {tx : Tx} {changeId leaseToken : String} {remote : RemotePlanChange}
      {decision : TransitionDecision} {context : PlanChangeContext} {db db' : Db}
      {row : PlanChange} (hdb : db.billing = d.billing)
      (h : finishPlanChange tx db changeId leaseToken (remote.outcome decision context) =
        .ok (db', row)) :
      IntentStep settings cfg column d ⟨db'.billing, d.read⟩
  | event {d : IntentDesk} {tx : Tx} {e : Event} {effect : Effect}
      (h : dispatch cfg tx d.billing e = .ok effect) :
      IntentStep settings cfg column d ⟨effect.billing, d.read⟩
  /-- Charges, refunds, the annual worker and the Checkout desk do not write plan changes. -/
  | other {d : IntentDesk} {b : Billing} (h : b.planChanges = d.billing.planChanges) :
      IntentStep settings cfg column d ⟨b, d.read⟩

/-- What holds of the intents in every run. -/
structure IntentDesk.Coherent (cfg : Config) (column : JsonColumn) (d : IntentDesk) : Prop where
  stored : ∀ c ∈ d.billing.planChanges.rows, c.Coherent cfg column
  /-- Until its preview is frozen, an intent has the terms it was read with. -/
  read : ∀ row ∈ d.read, row.Coherent cfg column ∧
    ∃ c, d.billing.planChanges.find? row.id = some c ∧
      (c.stripeRequestSnapshot = none → c.terms = row.terms)

namespace IntentDesk.Coherent

variable {d : IntentDesk}

/-- A transaction that only moves intents on. -/
theorem advance (h : d.Coherent cfg column) (hadvance : IntentsAdvance d.billing b) :
    IntentDesk.Coherent cfg column ⟨b, d.read⟩ := by
  constructor
  · intro c hc
    obtain ⟨c₀, hc₀, -, hadvances⟩ := Table.Evolves.before hadvance hc
    exact (h.stored c₀ hc₀).advances hadvances
  · intro row hrow
    obtain ⟨hcoherent, c, hfind, hterms⟩ := h.read row hrow
    obtain ⟨c', hc', hkey, hadvances⟩ := Table.Evolves.after hadvance (Table.find?_mem hfind)
    refine ⟨hcoherent, c', Table.find?_eq_some_iff.2 ⟨hc', hkey.trans (Table.find?_key hfind)⟩, ?_⟩
    intro hunfrozen
    have hsnapshot := congrArg PlanChange.stripeRequestSnapshot hadvances.terms
    exact hadvances.terms.trans (hterms (hsnapshot.symm.trans hunfrozen))

/-- A row that is read as it is stored. -/
theorem reading (h : IntentDesk.Coherent cfg column ⟨b, d.read⟩)
    (hrow : row ∈ b.planChanges.rows) : IntentDesk.Coherent cfg column ⟨b, row :: d.read⟩ := by
  refine ⟨h.stored, fun row' hrow' => ?_⟩
  rcases List.mem_cons.1 hrow' with rfl | hrow'
  · exact ⟨h.stored row' hrow, row', Table.find?_of_mem hrow, fun _ => rfl⟩
  · exact h.read row' hrow'

/-- A new intent. -/
theorem inserting {planChanges : Table PlanChange}
    (h : IntentDesk.Coherent cfg column ⟨b, d.read⟩) (hrow : row.Coherent cfg column)
    (hinsert : b.planChanges.insert? row = some planChanges) :
    IntentDesk.Coherent cfg column ⟨{ b with planChanges := planChanges }, row :: d.read⟩ := by
  have hrows := Table.insert?_eq_some.1 hinsert
  have hgrown : IntentDesk.Coherent cfg column ⟨{ b with planChanges := planChanges }, d.read⟩ := by
    constructor
    · intro c hc
      rw [hrows] at hc
      rcases List.mem_append.1 hc with hc | hc
      · exact h.stored c hc
      · rw [List.mem_singleton.1 hc]
        exact hrow
    · intro row' hrow'
      obtain ⟨hcoherent, c, hfind, hterms⟩ := h.read row' hrow'
      refine ⟨hcoherent, c, ?_, hterms⟩
      rw [Table.find?_insert hinsert, if_neg, hfind]
      intro hkey
      have hnone := Table.find?_eq_none_of_insert hinsert
      rw [hkey, hfind] at hnone
      cases hnone
  apply hgrown.reading
  rw [hrows]
  exact List.mem_append_right _ (List.mem_singleton.2 rfl)

end IntentDesk.Coherent

/-- A preview that is frozen while its intent is still the one that was read. -/
theorem IntentDesk.Coherent.storing {d : IntentDesk} {tx' : Tx} {context : PlanChangeContext}
    {estimate : PlanChangeEstimate} {preview : PlanChangePreview} {snapshot : Json}
    {observed : Billing} {targetLookup leaseToken : String} {found : Option PlanChange}
    (hd : d.Coherent cfg column) (hread : row ∈ d.read) (hreserved : row.status = .reserved)
    (hvalid : revalidateBeforeRemote cfg.catalog observed row context targetLookup = .ok ())
    (hpreview : row.preview cfg tx context estimate = .ok preview)
    (hsnapshot : buildRequestSnapshot settings cfg row preview = .ok snapshot)
    (h : storePreview column tx' d.billing row.id leaseToken preview snapshot = .ok (b, found)) :
    IntentDesk.Coherent cfg column ⟨b, d.read⟩ := by
  -- the guard of the update: the lease is still held and nothing is frozen yet
  have h : d.billing.updateReturning row.id (fun c => c.leaseToken = some leaseToken && c.unfrozen)
      (PlanChange.previewed column tx' preview snapshot) = .ok (b, found) := h
  obtain ⟨planChanges, hupdate, rfl, -⟩ := Billing.updateReturning_eq_ok.1 h
  -- the row was checked against the Subscription it was reserved for
  have hsubscription : context.subscriptionId = row.stripeSubscriptionId := by
    simp only [revalidateBeforeRemote, bind_eq_ok, require_eq_ok, decide_eq_true_eq] at hvalid
    exact hvalid.choose_spec.2.choose_spec.1
  obtain ⟨hrow, c₀, hfind₀, hterms₀⟩ := hd.read row hread
  constructor
  · intro c hc
    rw [Table.updateWhere?_eq_some.1 hupdate] at hc
    obtain ⟨c₁, hc₁, rfl⟩ := List.mem_map.1 hc
    split
    case isFalse => exact hd.stored c₁ hc₁
    -- an unfrozen row has the terms of the row that was read, so the preview describes it
    case isTrue hguard =>
      simp only [PlanChange.unfrozen, Bool.and_eq_true, decide_eq_true_eq,
        Option.isNone_iff_eq_none] at hguard
      obtain ⟨hid, -, ⟨-, hunfrozen⟩, -⟩ := hguard
      have hsame : c₁ = c₀ := Option.some.inj <|
        (Table.find?_eq_some_iff.2 ⟨hc₁, hid⟩).symm.trans hfind₀
      subst hsame
      exact previewed_coherent (hd.stored c₁ hc₁) (hterms₀ hunfrozen) (hrow.reserved hreserved)
        (preview_follows hpreview) hsubscription hsnapshot
  -- the row that was read stays comparable as long as it is unfrozen
  · intro row' hrow'
    obtain ⟨hcoherent, c, hfind, hterms⟩ := hd.read row' hrow'
    have hfound := Table.find?_updateWhere hupdate (fun _ => rfl) row'.id
    rw [hfind, Option.map_some] at hfound
    refine ⟨hcoherent, _, hfound, fun hunfrozen => ?_⟩
    by_cases hguard : (c.id = row.id && (c.leaseToken = some leaseToken && c.unfrozen)) = true
    · rw [if_pos hguard] at hunfrozen
      cases hunfrozen
    · rw [if_neg hguard] at hunfrozen ⊢
      exact hterms hunfrozen

theorem outcome_status {remote : RemotePlanChange} {decision : TransitionDecision}
    {context : PlanChangeContext} : (remote.outcome decision context).status ≠ .reserved := by
  simp only [RemotePlanChange.outcome]
  split
  · split <;> decide
  · decide

theorem finishPlanChange_advances {changeId leaseToken : String} {remote : RemotePlanChange}
    {decision : TransitionDecision} {context : PlanChangeContext} {db db' : Db}
    (h : finishPlanChange tx db changeId leaseToken (remote.outcome decision context) =
      .ok (db', row)) : IntentsAdvance db.billing db'.billing := by
  simp only [finishPlanChange, bind_eq_ok] at h
  obtain ⟨⟨b₁, found⟩, hupdate, h⟩ := h
  -- the status it writes is an outcome, and no outcome is `reserved`
  have hadvance : IntentsAdvance db.billing b₁ := by
    refine updateReturning_advances hupdate fun c => ⟨rfl, fun hreserved => ?_⟩
    simp only at hreserved
    split at hreserved
    · exact hreserved
    · exact absurd hreserved outcome_status
  -- the observation after the update only reads
  have hsame : db'.billing = b₁ := by
    split at h
    · split at h
      · simp only [bind_eq_ok, pure_eq_ok, Prod.mk.injEq] at h
        obtain ⟨_, -, rfl, -⟩ := h
        rfl
      · simp only [bind_eq_ok, pure_eq_ok, Prod.mk.injEq] at h
        obtain ⟨_, -, rfl, -⟩ := h
        rfl
    · rw [pure_eq_ok, Prod.mk.injEq] at h
      exact h.1 ▸ rfl
    · simp only [bind_eq_ok, pure_eq_ok, Prod.mk.injEq] at h
      obtain ⟨_, -, _, -, rfl, -⟩ := h
      rfl
  exact hsame ▸ hadvance

/-- **Each transaction** keeps the intents coherent. A reservation stores what the decision says,
    and all the other steps keep the decided columns of every row. -/
theorem IntentStep.coherent {d d' : IntentDesk} (h : IntentStep settings cfg column d d')
    (hd : d.Coherent cfg column) : d'.Coherent cfg column := by
  -- one case for each transaction of the coordinator, of the processor or of anyone else
  cases h with
  | reserve h =>
    -- a retry reads the stored row, a new request inserts a coherent one
    obtain ⟨b₁, hadvance, ⟨hrow, rfl⟩ | ⟨hrow, planChanges, hinsert, rfl⟩⟩ :=
      reservePlanChange_spec h
    · exact (hd.advance hadvance).reading hrow
    · exact (hd.advance hadvance).inserting hrow hinsert
  -- leases and failures change neither the terms nor the frozen request
  | lease h => exact hd.advance (updateReturning_advances h fun _ => .of_same rfl rfl)
  | confirmationLease h =>
    exact hd.advance (updateReturning_advances h fun _ => .of_status rfl
      (show PlanChangeStatus.applying ≠ .reserved by decide))
  | expirePreview h =>
    exact hd.advance (updateReturning_advances h fun _ => .of_status rfl
      (show PlanChangeStatus.failed ≠ .reserved by decide))
  | retire h =>
    exact hd.advance (updateReturning_advances h fun _ => .of_status rfl
      (show PlanChangeStatus.failed ≠ .reserved by decide))
  | release h =>
    refine hd.advance (updateReturning_advances h fun c => ⟨rfl, fun hreserved => ?_⟩)
    simp only at hreserved
    split at hreserved
    · cases hreserved
    · exact hreserved
  | store hread hreserved hvalid hpreview hsnapshot h =>
    exact hd.storing hread hreserved hvalid hpreview hsnapshot h
  -- the remote start stamps the row and freezes nothing
  | start h =>
    simp only [markRemoteStarted, bind_eq_ok, pure_eq_ok, Prod.mk.injEq] at h
    obtain ⟨⟨_, _⟩, h, _, -, rfl, -⟩ := h
    exact hd.advance (updateReturning_advances h fun _ => .of_same rfl rfl)
  | finish hdb h => exact hd.advance (hdb ▸ finishPlanChange_advances h)
  | event h => exact hd.advance (dispatch_advances h)
  | other h => exact hd.advance (.of_eq h)

/-! ## Settlement -/

/-- The plan of each found line is the one that the intent names on that side. -/
structure DeltaLines.Named (catalog : PlanCatalog) (c : PlanChange) (found : DeltaLines) :
    Prop where
  source : ∀ line plan, found.source = some (line, plan) →
    catalog.plan? c.fromPlanKey = some plan
  target : ∀ line plan, found.target = some (line, plan) →
    catalog.plan? c.targetPlanKey = some plan

theorem deltaLinePlan_mem {line : Json} {plan : Plan}
    (h : deltaLinePlan cfg p line = .ok plan) : plan ∈ cfg.catalog.plans := by
  simp only [deltaLinePlan, bind_eq_ok, fetch_eq_ok, pure_eq_ok] at h
  obtain ⟨_, -, _, -, ⟨found, interval⟩, hparse, _, -, _, -, _, -, rfl⟩ := h
  exact PlanCatalog.parseLookupKey_mem hparse

theorem DeltaLines.Named.add {c : PlanChange} {found found' : DeltaLines} {line : Json}
    (hfound : found.Named cfg.catalog c) (h : found.add cfg p c line = .ok found') :
    found'.Named cfg.catalog c := by
  simp only [DeltaLines.add, bind_eq_ok] at h
  obtain ⟨plan, hplan, h⟩ := h
  have hfind := PlanCatalog.plan?_eq (deltaLinePlan_mem hplan)
  split at h
  case isTrue hkey =>
    simp only [bind_eq_ok, pure_eq_ok] at h
    obtain ⟨_, -, rfl⟩ := h
    refine ⟨fun line' plan' hsource => ?_, hfound.target⟩
    cases hsource
    exact hkey ▸ hfind
  case isFalse =>
    split at h
    case isTrue hkey =>
      simp only [bind_eq_ok, pure_eq_ok] at h
      obtain ⟨_, -, rfl⟩ := h
      refine ⟨hfound.source, fun line' plan' htarget => ?_⟩
      cases htarget
      exact hkey ▸ hfind
    case isFalse => cases h

theorem collectDeltaLines_named {c : PlanChange} {lines : List Json} :
    ∀ {found found' : DeltaLines}, found.Named cfg.catalog c →
      collectDeltaLines cfg p c lines found = .ok found' → found'.Named cfg.catalog c := by
  induction lines with
  | nil =>
    intro found found' hfound h
    cases h
    exact hfound
  | cons line lines ih =>
    intro found found' hfound h
    simp only [collectDeltaLines, bind_eq_ok] at h
    obtain ⟨added, hadd, h⟩ := h
    exact ih (hfound.add hadd) h

/-- The plans of an accepted delta Invoice, and the preview it was compared with. -/
theorem parseProratedDeltaShape_spec {c : PlanChange} {shape : ProratedDeltaShape}
    (h : parseProratedDeltaShape cfg p c = .ok shape) :
    cfg.catalog.plan? c.fromPlanKey = some shape.sourcePlan ∧
      cfg.catalog.plan? c.targetPlanKey = some shape.targetPlan ∧
      c.estimatedSourceProration.isSome := by
  simp only [parseProratedDeltaShape, bind_eq_ok, fetch_eq_ok, pure_eq_ok] at h
  obtain ⟨_, -, found, hfound, ⟨_, source⟩, hsource, ⟨_, target⟩, htarget, _, -, _, -, _, -, _, -,
    _, hpreview, rfl⟩ := h
  have hnamed := collectDeltaLines_named
    (show ({} : DeltaLines).Named cfg.catalog c from ⟨by simp, by simp⟩) hfound
  refine ⟨hnamed.source _ _ hsource, hnamed.target _ _ htarget, ?_⟩
  simp only [checkDeltaPreview, bind_eq_ok, require_eq_ok, Bool.and_eq_true] at hpreview
  obtain ⟨_, ⟨⟨⟨⟨⟨hestimated, -⟩, -⟩, -⟩, -⟩, -⟩, -⟩ := hpreview
  exact hestimated

/-- An accepted delta Invoice adds what its intent stores. -/
theorem PlanChange.Coherent.delta_settles {c : PlanChange} {shape : ProratedDeltaShape}
    (hc : c.Coherent cfg column) (hpolicy : c.transitionPolicy = .proratedDelta)
    (h : parseProratedDeltaShape cfg p c = .ok shape) :
    0 < c.expectedCreditDelta.getD 0 ∧
      (shape.targetPlan.monthlyCredits : Int) - shape.sourcePlan.monthlyCredits =
        c.expectedCreditDelta.getD 0 := by
  obtain ⟨hsource, htarget, hestimated⟩ := parseProratedDeltaShape_spec h
  obtain ⟨source, target, hsource', htarget', hupgrade⟩ := hc.funded hpolicy (.inr hestimated)
  rw [hsource, Option.some.injEq] at hsource'
  rw [htarget, Option.some.injEq] at htarget'
  subst hsource' htarget'
  have hcredits := hupgrade.credits
  rw [hupgrade.delta, Option.getD_some]
  omega

/-- A frozen request is accepted as the one of its row. -/
theorem PlanChange.Freezes.validated {c : PlanChange} {text : String} {x : PlanChangeFacts}
    {snapshot : Json} (hu : cfg.unicode.Lawful) (h : c.Freezes cfg column text x snapshot)
    (htext : c.stripeRequestSnapshot = some text) (hdecode : column.decode text = snapshot) :
    validatedRequestSnapshot cfg.unicode column c = .ok snapshot := by
  have hdescribes := h.describes
  -- a stored request is never a `noop`, and any other timing can be built and validated
  have htimed : x.timing ≠ .noop := fun hnoop => h.timed (hdescribes.timing.symm.trans hnoop)
  obtain ⟨hadmissible, rfl⟩ := (PlanChangeFacts.build_eq_ok hu htimed).1 h.built
  -- the price evidence is read back from the members as they were spelled
  have hevidence : x.spelled.get "price_evidence" =
      spelledEvidence x.context.checked x.source x.target := by
    simp [PlanChangeFacts.spelled, PlanChangeFacts.membersWith, Json.get, List.lookup_cons]
  obtain ⟨source, hsource, hsourceTerms⟩ := hdescribes.source
  obtain ⟨target, htarget, htargetTerms⟩ := hdescribes.target
  have hfrom : source.key = c.fromPlanKey := by simpa using List.find?_some hsource
  have hto : target.key = c.targetPlanKey := by simpa using List.find?_some htarget
  -- the decoded text is what was built, and the expectations are those of the row
  have hvalid : validatePlanChangeRequestSnapshot cfg.unicode x.spelled {
      idempotencyKey := some (requestIdempotencyKey c.stripeRequestKey c.effectiveMode)
      subscriptionId := some c.stripeSubscriptionId
      timing := some c.effectiveMode
      policy := some c.transitionPolicy } = .ok x.spelled := by
    apply hadmissible.validate hu htimed
    simp only [SnapshotExpectations.check, bind_eq_ok, require_eq_ok, Option.all_some,
      decide_eq_true_eq, exists_const]
    exact ⟨hdescribes.idempotencyKey.symm, hdescribes.subscription.symm, hdescribes.timing.symm,
      hdescribes.policy.symm⟩
  simp only [validatedRequestSnapshot, bind_eq_ok, require_eq_ok, fetch_eq_ok]
  refine ⟨(), by simp [h.version], (), by simp [h.version], x.spelled, ?_, ?_⟩
  -- the version and the text are there, and the validation answers with the same object
  · rw [htext, Option.map_some, hdecode]
    rfl
  · rw [hvalid]
    simp only [bind_eq_ok, require_eq_ok, pure_eq_ok]
    refine ⟨x.spelled, rfl, (), ?_, rfl⟩
    rw [hevidence]
    simp [spelledEvidence, Json.get, List.lookup_cons, Json.asStr, hsourceTerms, htargetTerms,
      PlanCatalog.terms, hfrom, hto]

/-! ## Every stored intent -/

/-- A run from a database without intents. -/
def IntentRun (settings : PlanChangeSettings) (cfg : Config) (column : JsonColumn)
    (d : IntentDesk) : Prop :=
  ∃ b : Billing, b.planChanges.rows = [] ∧
    Relation.ReflTransGen (IntentStep settings cfg column) ⟨b, []⟩ d

theorem IntentRun.coherent {d : IntentDesk} (h : IntentRun settings cfg column d) :
    d.Coherent cfg column := by
  obtain ⟨b, hempty, hrun⟩ := h
  induction hrun with
  | refl =>
    refine ⟨fun c hc => ?_, fun row hrow => absurd hrow List.not_mem_nil⟩
    rw [hempty] at hc
    exact absurd hc List.not_mem_nil
  | tail _ hstep ih => exact hstep.coherent ih

/-- What a frozen preview leaves in the row that was read. -/
theorem IntentDesk.Coherent.stored_decision {d : IntentDesk} {tx' : Tx}
    {context : PlanChangeContext} {estimate : PlanChangeEstimate} {preview : PlanChangePreview}
    {snapshot : Json} {leaseToken : String} {stored : PlanChange}
    (hd : d.Coherent cfg column) (hread : row ∈ d.read)
    (hpreview : row.preview cfg tx context estimate = .ok preview)
    (h : storePreview column tx' d.billing row.id leaseToken preview snapshot =
      .ok (b, some stored)) :
    preview.decision.SameChange row.decision ∧
      stored.decision = { preview.decision with reason := "persisted transition policy" } := by
  have hsame := (preview_follows hpreview).same
  refine ⟨hsame, ?_⟩
  -- the update found the row under its guard, so it is the row that was read
  obtain ⟨-, -, -, hfound⟩ := Billing.updateReturning_eq_ok.1 h
  obtain ⟨-, c, hfind, hterms⟩ := hd.read row hread
  rw [hfind] at hfound
  obtain ⟨c', hguard, rfl⟩ := Option.map_eq_some_iff.1 hfound.symm
  obtain ⟨hc, hguard⟩ := Option.filter_eq_some_iff.1 hguard
  cases hc
  simp only [PlanChange.unfrozen, Bool.and_eq_true, decide_eq_true_eq,
    Option.isNone_iff_eq_none] at hguard
  -- and its terms are the terms of that row
  have hterms := hterms hguard.2.1.2
  simp only [PlanChange.terms, PlanChange.mk.injEq] at hterms
  obtain ⟨-, -, -, -, hfrom, hfromInterval, htarget, htargetInterval, -, -, -, -, -,
    -, -, -, -, -, -, -, -, -, -, -, -, -, -, -, -, hpolicy, -⟩ := hterms
  simp only [PlanChange.decision, hfrom, hfromInterval, htarget, htargetInterval, hpolicy,
    hsame.fromPlan, hsame.fromInterval, hsame.targetPlan, hsame.targetInterval, hsame.samePolicy]

/-- The intents of the coordinator, from their decision to their settlement. -/
structure SettleableIntents (settings : PlanChangeSettings) (cfg : Config) (column : JsonColumn) :
    Prop where
  /-- Every change between two catalog plans has a decision. -/
  decided : ∀ {current target : Plan}, current ∈ cfg.catalog.plans → target ∈ cfg.catalog.plans →
    ∀ (i j : Interval) (policy : TransitionPolicy),
      ∃ d, decideTransition current i target j policy = .ok d ∧
        d.Decides current i target j policy
  /-- A change that starts on an annual plan is never charged at once. -/
  annual : ∀ {current target : Plan}, current ∈ cfg.catalog.plans → target ∈ cfg.catalog.plans →
    ∀ {j : Interval} {policy : TransitionPolicy} {d : TransitionDecision},
      decideTransition current .year target j policy = .ok d → d.timing ≠ .immediate
  /-- Nor is a delta change without a gain of credits. -/
  gainless : ∀ {current target : Plan}, current ∈ cfg.catalog.plans →
    target ∈ cfg.catalog.plans → target.monthlyCredits ≤ current.monthlyCredits →
    ∀ {i j : Interval} {d : TransitionDecision},
      decideTransition current i target j .proratedDelta = .ok d → d.timing ≠ .immediate
  /-- `_reserve` never misses a positive entitlement delta. -/
  reservable : ∀ (tx : Tx) (b : Billing) (changeId : String) (req : PlanChangeRequest),
    reservePlanChange settings cfg.catalog tx b changeId req ≠ .error noPositiveDelta
  /-- What a reservation answers is what it stored. -/
  stored : ∀ {tx : Tx} {b b' : Billing} {changeId : String} {req : PlanChangeRequest}
    {row : PlanChange} {replayed : Bool},
    reservePlanChange settings cfg.catalog tx b changeId req = .ok (b', row, replayed) →
      row ∈ b'.planChanges.rows
  /-- A delta upgrade that is charged at once stores the difference of its two plans. -/
  funded : ∀ {d : IntentDesk}, IntentRun settings cfg column d →
    ∀ c ∈ d.billing.planChanges.rows, c.transitionPolicy = .proratedDelta →
      c.effectiveMode = .immediate → c.FundsDelta cfg.catalog
  /-- Whatever intent a delta Invoice selects and is accepted for, it adds what the intent
      stores. -/
  settled : ∀ {d : IntentDesk}, IntentRun settings cfg column d →
    ∀ {p : PaidInvoice} {c : PlanChange} {shape : ProratedDeltaShape},
      proratedTransition d.billing p = some c → parseProratedDeltaShape cfg p c = .ok shape →
      0 < c.expectedCreditDelta.getD 0 ∧
        (shape.targetPlan.monthlyCredits : Int) - shape.sourcePlan.monthlyCredits =
          c.expectedCreditDelta.getD 0
  /-- A preview, deferred or not, is one of the reserved change, and it is what is read back
      from the row that stores it. -/
  deferred : ∀ {d : IntentDesk}, IntentRun settings cfg column d →
    ∀ {row stored : PlanChange} {tx tx' : Tx} {context : PlanChangeContext}
      {estimate : PlanChangeEstimate} {preview : PlanChangePreview} {snapshot : Json}
      {leaseToken : String} {b : Billing}, row ∈ d.read →
      row.preview cfg tx context estimate = .ok preview →
      storePreview column tx' d.billing row.id leaseToken preview snapshot = .ok (b, some stored) →
      preview.decision.SameChange row.decision ∧
        stored.decision = { preview.decision with reason := "persisted transition policy" }
  /-- A frozen request is about the change of its row, and is accepted as the row's own. -/
  described : ∀ {d : IntentDesk}, IntentRun settings cfg column d →
    ∀ c ∈ d.billing.planChanges.rows, ∀ text, c.stripeRequestSnapshot = some text →
      ∃ x snapshot, c.Freezes cfg column text x snapshot ∧
        (column.decode text = snapshot →
          validatedRequestSnapshot cfg.unicode column c = .ok snapshot)

/-- **Every stored intent** is one that the processor can settle. The decision implies what
    `_reserve` asks for, every transaction keeps the decided columns of a row, and so the Invoice
    that selects a row finds in it the difference of the two plans it was charged for. -/
theorem stored_intents_settle (settings : PlanChangeSettings) (column : JsonColumn)
    (hu : cfg.unicode.Lawful) : SettleableIntents settings cfg column where
  decided hcurrent htarget i j policy := decideTransition_decides hcurrent htarget i j policy
  -- an immediate decision of an annual subscriber would have to be monthly
  annual := by
    intro current target hcurrent htarget j policy d hd himmediate
    obtain ⟨d', hd', hdecides⟩ := decideTransition_decides hcurrent htarget .year j policy
    cases hd.symm.trans hd'
    cases (hdecides.charged himmediate).1
  -- without a gain no delta decision is immediate
  gainless := by
    intro current target hcurrent htarget hloss i j d hd himmediate
    obtain ⟨d', hd', hdecides⟩ := decideTransition_decides hcurrent htarget i j .proratedDelta
    cases hd.symm.trans hd'
    have hgain := ((hdecides.charged himmediate).2 rfl).2.2
    omega
  reservable _ _ _ _ := reservePlanChange_ne_error
  stored h := reservePlanChange_stored h
  funded hrun c hc hpolicy himmediate :=
    (hrun.coherent.stored c hc).funded hpolicy (.inl himmediate)
  -- an Invoice selects a row by its policy, and every stored row is coherent
  settled := by
    intro d hrun p c shape hselected hshape
    obtain ⟨-, -, hc, -, hpolicy⟩ := proratedTransition_spec hselected
    exact (hrun.coherent.stored c hc).delta_settles hpolicy hshape
  deferred hrun _ _ _ _ _ _ _ _ _ _ hread hpreview h :=
    hrun.coherent.stored_decision hread hpreview h
  described := by
    intro d hrun c hc text htext
    obtain ⟨x, snapshot, hfreezes⟩ := (hrun.coherent.stored c hc).frozen text htext
    exact ⟨x, snapshot, hfreezes, hfreezes.validated hu htext⟩

/-! ## A reserved upgrade -/

/-- Delta upgrades over the reference catalog. -/
def upgradeSettings : PlanChangeSettings where
  leaseTtl := 60000000
  transitionPolicy := .proratedDelta
  apiVersion := "2025-03-31.basil"
  productLine := "example-entitlements"
  leaseTtl_pos := by decide

/-- A monthly starter in a funded period. -/
def starterBilling : Billing :=
  { Billing.empty with
    accounts := .singleton {
      id := referenceAccountId, externalRef := "user", stripeSubscriptionId := some "sub_1"
      planKey := "starter", planInterval := some .month, subscriptionStatus := .active
      grantEpoch := 1, entitlementPeriodEnd := some 2678400000000 } rfl
    ledger := .singleton {
      id := 1, accountId := referenceAccountId, delta := 300000000, balanceAfter := 300000000
      entitlementUnits := 300000000, reason := .subscriptionGrant, grantEpoch := 1
      stripeEventId := "evt_1", stripeInvoiceId := some "in_1", grantSlot := some 1 } rfl }

/-- A `jsonb` column that nobody reads back. -/
def writtenColumn : JsonColumn where
  encode v := String.ofList v.dumps
  decode _ := .null

/-- The starter asks for the next tier, and the intent stores the difference. -/
theorem starter_upgrade_settles :
    ((reservePlanChange upgradeSettings referenceCatalog (referenceTx 1) starterBilling "change"
      ⟨referenceAccountId, "pro", "month", "key"⟩).toOption.map fun (_, row, replayed) =>
        (row.effectiveMode, row.expectedCreditDelta, replayed)) =
      some (.immediate, some 700000000, false) ∧
    SettleableIntents upgradeSettings referenceConfig writtenColumn :=
  ⟨by decide +kernel, stored_intents_settle upgradeSettings writtenColumn asciiUnicode_lawful⟩

end StripeEntitlements
