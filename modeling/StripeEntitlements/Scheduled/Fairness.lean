import StripeEntitlements.Ledger.EventPostings
import StripeEntitlements.Reference
import StripeEntitlements.Scheduled.AnnualBatch

/-!
# Fairness of the Annual Batch

A batch takes the accounts that were updated longest ago. An account it was done with is
stamped, and comes after every account that was left out; only where `grant_due` raises does a
candidate keep its place.

## Main results

- `pythonAnnualWorker_sound`, `TypeScript.annualWorker_sound` — a worker grants a due account or
  answers `ignored`, and touches no other account
- `attemptAll_reorders` — what a batch did to the order
- `annual_batches_rotate` — which batches rotate, and that nobody starves under them
-/

namespace StripeEntitlements

open Relational

/-! ## A worker -/

/-- What `grant_due` does with an account that is due. -/
structure Turns (id : String) (b : Billing) (effect : Effect) : Prop where
  others : ∀ k, k ≠ id → effect.billing.accounts.find? k = b.accounts.find? k
  ends : (effect.billing.accounts.find? id).map Account.entitlementPeriodEnd =
    (b.accounts.find? id).map Account.entitlementPeriodEnd
  answered : effect.result.outcome = .handled ∨ effect.result.outcome = .ignored

/-- `grant_due` turns every account that was due when the page was read. -/
def AnnualWorker.Sound (cfg : Config) (worker : AnnualWorker) : Prop :=
  ∀ {tx : Tx} {b : Billing} {a : Account} {snapshot : SubscriptionSnapshot} {effect : Effect}
    {time : Int}, b.accounts.find? a.id = some a → canonicalUuid a.id = some a.id →
    a.isDue cfg time = true → time ≤ tx.now → tx.now ≤ tx.wall →
    worker tx b a.id snapshot = .ok effect → Turns a.id b effect

section

variable {cfg : Config} {tx : Tx} {b : Billing} {account : Account} {plan : Plan}
  {snapshot : SubscriptionSnapshot} {effect : Effect} {accountId : String} {time now : Int}

theorem Turns.of_billing {id : String} (hb : effect.billing = b)
    (houtcome : effect.result.outcome = .ignored) : Turns id b effect where
  others k _ := by rw [hb]
  ends := by rw [hb]
  answered := .inr houtcome

theorem Turns.of_posts {a a' : Account} (h : Posts a a' b effect.billing)
    (hends : a'.entitlementPeriodEnd = a.entitlementPeriodEnd)
    (houtcome : effect.result.outcome = .handled ∨ effect.result.outcome = .ignored) :
    Turns a.id b effect where
  others := h.others
  ends := by rw [h.before, h.after, Option.map_some, Option.map_some, hends]
  answered := houtcome

/-- The slots of the passed boundaries are at most `annual_boundaries`. -/
theorem le_annualBoundaries {anchor : Int} {slot : Nat} (hslot : slot ∈ List.range' 1 12)
    (hpassed : cfg.addMonths anchor slot ≤ now) :
    slot ≤ annualBoundaries cfg (some anchor) now := by
  have hle : ∀ {xs : List Nat}, slot ∈ xs → slot ≤ xs.foldr max 0 := by
    intro xs hmem
    induction xs with
    | nil => cases hmem
    | cons x xs ih =>
      rw [List.foldr_cons]
      rcases List.mem_cons.1 hmem with rfl | hmem
      · exact Nat.le_max_left _ _
      · exact (ih hmem).trans (Nat.le_max_right _ _)
  apply hle
  exact List.mem_filter.2 ⟨hslot, by simpa using hpassed⟩

/-- **A due account has a slot left**, so that the worker never finds it already granted. -/
theorem issued_lt_annualTargetSlot (hallowed : account.annualGrantsAllowed ≤ 12)
    (hdue : account.isDue cfg time = true) (htime : time ≤ now) :
    account.annualGrantsIssued < annualTargetSlot cfg account now := by
  simp only [Account.isDue, Bool.and_eq_true, decide_eq_true_eq] at hdue
  obtain ⟨⟨-, hissued⟩, hpassed⟩ := hdue
  have hboundary : account.annualGrantsIssued ≤ annualBoundaries cfg account.annualAnchor now := by
    cases hanchor : account.annualAnchor with
    | none => simp [hanchor] at hpassed
    | some anchor =>
      rw [hanchor, Option.any_some, decide_eq_true_eq] at hpassed
      rcases Nat.eq_zero_or_pos account.annualGrantsIssued with hzero | hpos
      · omega
      · refine le_annualBoundaries ?_ (hpassed.trans htime)
        rw [List.mem_range'_1]
        omega
  rw [annualTargetSlot]
  omega

/-- The effects of a worker on an account that has a slot left. -/
theorem applyAnnualGrant_turns (hrow : b.accounts.find? account.id = some account)
    (hslot : account.annualGrantsIssued < annualTargetSlot cfg account now)
    (h : applyAnnualGrant cfg tx b account plan accountId now = .ok effect) :
    Turns account.id b effect := by
  simp only [applyAnnualGrant, if_neg (Nat.not_le.2 hslot)] at h
  split at h
  · rw [pure_eq_ok] at h
    subst h
    exact .of_billing rfl rfl
  case h_2 state hstate =>
    split at h
    · simp only [bind_eq_ok, Billing.update_eq_ok, pure_eq_ok, Stored.table, Stored.install] at h
      obtain ⟨_, ⟨accounts, haccounts, rfl⟩, rfl⟩ := h
      have hposted := Posting.update
        (f := fun a => { a with annualGrantsAllowed := a.annualGrantsIssued }) hrow haccounts
        (fun _ => rfl) (.refl _ _ b.ledger)
      exact Turns.of_posts hposted rfl (.inr rfl)
    · simp only [bind_eq_ok, pure_eq_ok] at h
      obtain ⟨b₁, hgrant, rfl⟩ := h
      obtain ⟨balance, hposted⟩ := grantAnnualSlot_posts hrow hgrant
      exact Turns.of_posts hposted rfl (.inl rfl)

end

/-! ## Guards -/

/-- The worker answers `ignored` here, or raises. -/
def Stop.Drops : Stop → Prop
  | .returned _ result => result.outcome = .ignored
  | .raised _ => True

/-- Every stop of the guards drops the account. -/
def Guarded.Drops {α : Type} (guards : Guarded α) : Prop :=
  ∀ stop, guards = .error stop → stop.Drops

namespace Guarded.Drops

variable {α β : Type} {stop : Stop}

theorem pure (a : α) : Guarded.Drops (pure a) := by
  intro _ h
  cases h

theorem bind {guards : Guarded α} {rest : α → Guarded β} (h : guards.Drops)
    (hrest : ∀ a, (rest a).Drops) : Guarded.Drops (guards >>= rest) := by
  intro stop hstop
  cases guards with
  | error =>
    cases hstop
    exact h _ rfl
  | ok a => exact hrest a stop hstop

theorem require (p : Bool) (h : stop.Drops) : Guarded.Drops (require p stop) := by
  intro _ hstop
  cases p <;> cases hstop
  exact h

theorem fetch (row : Option α) (h : stop.Drops) : Guarded.Drops (fetch row stop) := by
  intro _ hstop
  cases row <;> cases hstop
  exact h

theorem lift (x : Transaction α) : (Guarded.lift x).Drops := by
  intro _ hstop
  cases x <;> cases hstop
  exact trivial

/-- A handler that stopped at such guards ignored the account. -/
theorem andThen {b : Billing} {guards : Guarded α} {effects : α → Transaction Effect}
    {effect : Effect} (h : guards.Drops) (hok : guards.andThen b effects = .ok effect) :
    (effect.billing = b ∧ effect.result.outcome = .ignored) ∨
      ∃ a, guards = .ok a ∧ effects a = .ok effect := by
  cases guards with
  | ok a => exact .inr ⟨a, rfl, hok⟩
  | error stop =>
    cases stop with
    | raised => cases hok
    | returned incidents result =>
      cases hok
      exact .inl ⟨rfl, h _ rfl⟩

end Guarded.Drops

section

variable {cfg : Config} {b : Billing} {account : Account} {accountId : String} {now : Int}
  {snapshot : SubscriptionSnapshot}

theorem annualAccountGuards_drops : (annualAccountGuards b accountId now snapshot).Drops := by
  -- the query raises for a text that is no UUID, which no candidate's id is
  have hmissing : Stop.Drops (if (uuidParameter accountId).isSome then
      .dropped "account not found" none else .raised .outOfRange) := by
    split
    · rfl
    · trivial
  refine .bind (.fetch _ hmissing) fun account => ?_
  refine .bind (.require _ rfl) fun _ => .bind (.require _ rfl) fun _ => ?_
  refine .bind (.require _ rfl) fun _ => .bind (.require _ rfl) fun _ => ?_
  exact .bind (.require _ rfl) fun _ => .pure account

theorem annualPlanGuards_drops : (annualPlanGuards cfg account accountId snapshot).Drops := by
  refine .bind (.fetch _ rfl) fun (plan, interval) => ?_
  refine .bind (.lift _) fun price => ?_
  exact .bind (.require _ rfl) fun _ => .pure plan

theorem TypeScript.annualPlanGuards_drops :
    (TypeScript.annualPlanGuards cfg account accountId snapshot).Drops := by
  refine .bind (.fetch _ rfl) fun (plan, interval) => ?_
  exact .bind (.require _ rfl) fun _ => .pure plan

theorem annualAccountGuards_id (h : annualAccountGuards b accountId now snapshot = .ok account) :
    uuidParameter accountId = some account.id := by
  simp only [annualAccountGuards, bind_eq_ok, fetch_eq_ok, require_eq_ok, pure_eq_ok,
    Option.bind_eq_some_iff] at h
  obtain ⟨_, ⟨id, hid, hfound⟩, _, -, _, -, _, -, _, -, _, -, rfl⟩ := h
  rw [hid, ← Table.find?_key hfound]
  rfl

end

/-! ## Both workers -/

section

variable {cfg : Config} {b : Billing} {a : Account} {now time : Int}
  {snapshot : SubscriptionSnapshot} {effect : Effect}

/-- What the workers share: the guards of the account come first, and then those of its plan. -/
theorem turns_of_guards (planGuards : Account → Guarded Plan)
    (effects : Account × Plan → Transaction Effect) (hrow : b.accounts.find? a.id = some a)
    (hid : canonicalUuid a.id = some a.id) (hdrops : ∀ account, (planGuards account).Drops)
    (heffects : ∀ plan, effects (a, plan) = .ok effect → Turns a.id b effect)
    (h : Guarded.andThen b (do
      let account ← annualAccountGuards b a.id now snapshot
      let plan ← planGuards account
      pure (account, plan)) effects = .ok effect) : Turns a.id b effect := by
  have hguards : Guarded.Drops (do
      let account ← annualAccountGuards b a.id now snapshot
      let plan ← planGuards account
      pure (account, plan)) :=
    .bind annualAccountGuards_drops fun account => .bind (hdrops account) fun _ => .pure _
  rcases hguards.andThen h with ⟨hb, houtcome⟩ | ⟨⟨account, plan⟩, hpassed, hok⟩
  · exact .of_billing hb houtcome
  simp only [bind_eq_ok, pure_eq_ok] at hpassed
  obtain ⟨_, haccount, _, -, heq⟩ := hpassed
  cases heq
  have hfound := annualAccountGuards_row haccount
  have hbound : uuidParameter a.id = some a.id := (uuidParameter_canonical hid).1
  rw [← Option.some.inj (hbound.symm.trans (annualAccountGuards_id haccount)), hrow] at hfound
  cases hfound
  exact heffects plan hok

theorem slot_left (hrow : b.accounts.find? a.id = some a) (hdue : a.isDue cfg time = true)
    (htime : time ≤ now) : a.annualGrantsIssued < annualTargetSlot cfg a now := by
  have hcheck := b.accounts.valid.checked a (Table.find?_mem hrow)
  simp only [Relation.check, Bool.and_eq_true, decide_eq_true_eq] at hcheck
  exact issued_lt_annualTargetSlot hcheck.2 hdue htime

theorem pythonAnnualWorker_sound : (pythonAnnualWorker cfg).Sound cfg := by
  intro tx b a snapshot effect time hrow hid hdue hstarted _ h
  simp only [pythonAnnualWorker, grantDue, Option.getD_none] at h
  refine turns_of_guards (fun account => annualPlanGuards cfg account a.id snapshot)
    _ hrow hid (fun _ => annualPlanGuards_drops) ?_ h
  intro plan hok
  exact applyAnnualGrant_turns hrow (slot_left hrow hdue hstarted) hok

theorem TypeScript.annualWorker_sound : (TypeScript.annualWorker cfg).Sound cfg := by
  intro tx b a snapshot effect time hrow hid hdue hstarted hwall h
  simp only [TypeScript.annualWorker, TypeScript.grantDue, Option.getD_none] at h
  refine turns_of_guards (fun account => TypeScript.annualPlanGuards cfg account a.id snapshot)
    _ hrow hid (fun _ => TypeScript.annualPlanGuards_drops) ?_ h
  intro plan hok
  simp only [TypeScript.applyAnnualGrant] at hok
  split at hok
  · cases hok
    exact .of_billing rfl rfl
  · exact applyAnnualGrant_turns hrow (slot_left hrow hdue (hstarted.trans hwall)) hok

end

/-! ## What a batch does to the order -/

/-- The row of an account. -/
def AnnualScan.row (s : AnnualScan) (id : String) : Option Account := s.db.billing.accounts.find? id

/-- The clock goes on during the batch. -/
structure BatchClock.Advances (clock : BatchClock) : Prop where
  started : ∀ id, clock.selectedAt ≤ (clock.tx id).now
  wall : ∀ id, (clock.tx id).now ≤ (clock.tx id).wall
  deferred : ∀ id, clock.selectedAt ≤ clock.deferredAt id

/-- `grant_due` raises for this candidate. -/
def grantRaises (worker : AnnualWorker) (remote : AnnualRemote) (clock : BatchClock)
    (s : AnnualScan) (a : Account) : Bool :=
  match remote.snapshot a.stripeSubscriptionId with
  | none => false
  | some snapshot =>
      !remote.connected a.id ||
        (annualTransaction worker (clock.tx a.id) s.db a.id snapshot).toOption.isNone

/-- The candidates for which `grant_due` raises, in a loop that starts from `s`. -/
def raising (worker : AnnualWorker) (remote : AnnualRemote) (clock : BatchClock) :
    AnnualScan → List Account → List String
  | _, [] => []
  | s, a :: rest =>
      let later := raising worker remote clock (attemptCandidate worker remote clock s a).1 rest
      if grantRaises worker remote clock s a then a.id :: later else later

/-- What the attempts on some accounts, of which some raised, did to the order. -/
structure Reorders (time : Int) (ids raised : List String) (s s' : AnnualScan) : Prop where
  ends : ∀ k, (s'.row k).map Account.entitlementPeriodEnd =
    (s.row k).map Account.entitlementPeriodEnd
  rest : ∀ k, k ∉ ids ∨ k ∈ raised → s'.row k = s.row k ∧ s'.updatedAt k = s.updatedAt k
  stamped : ∀ k ∈ ids, k ∉ raised → time ≤ s'.updatedAt k
  within : ∀ k ∈ raised, k ∈ ids

namespace Reorders

variable {time : Int} {ids ids' raised raised' : List String} {s s' s'' : AnnualScan}

theorem refl (s : AnnualScan) : Reorders time [] [] s s where
  ends _ := rfl
  rest _ _ := ⟨rfl, rfl⟩
  stamped _ h := by cases h
  within _ h := by cases h

/-- An attempt that raised. -/
theorem raises (s : AnnualScan) (id : String) : Reorders time [id] [id] s s where
  ends _ := rfl
  rest _ _ := ⟨rfl, rfl⟩
  stamped _ h hnot := absurd h hnot
  within _ h := h

/-- An attempt that stamped its account. -/
theorem stamps {id : String} (hrows : ∀ k, k ≠ id → s'.row k = s.row k)
    (hends : (s'.row id).map Account.entitlementPeriodEnd =
      (s.row id).map Account.entitlementPeriodEnd)
    (htimes : ∀ k, k ≠ id → s'.updatedAt k = s.updatedAt k) (htime : time ≤ s'.updatedAt id) :
    Reorders time [id] [] s s' where
  ends k := by
    by_cases hk : k = id
    · rw [hk, hends]
    · rw [hrows k hk]
  rest k hk := by
    have hne : k ≠ id := by simpa using hk
    exact ⟨hrows k hne, htimes k hne⟩
  stamped k hk _ := by
    rw [List.mem_singleton.1 hk]
    exact htime
  within _ h := by cases h

/-- Attempts on other accounts go on with the order. -/
theorem append (h : Reorders time ids raised s s') (h' : Reorders time ids' raised' s' s'')
    (hdisjoint : ∀ k ∈ ids, k ∉ ids') : Reorders time (ids ++ ids') (raised ++ raised') s s'' where
  ends k := (h'.ends k).trans (h.ends k)
  -- an account outside the first batch, or raised in it, is outside the second or raised there
  rest k hk := by
    have hfirst : k ∉ ids ∨ k ∈ raised := by
      rcases hk with hk | hk
      · exact .inl fun hin => hk (List.mem_append_left _ hin)
      · rcases List.mem_append.1 hk with hk | hk
        · exact .inr hk
        · exact .inl fun hin => hdisjoint k hin (h'.within k hk)
    have hsecond : k ∉ ids' ∨ k ∈ raised' := by
      rcases hk with hk | hk
      · exact .inl fun hin => hk (List.mem_append_right _ hin)
      · rcases List.mem_append.1 hk with hk | hk
        · exact .inl (hdisjoint k (h.within k hk))
        · exact .inr hk
    obtain ⟨hrow, htime⟩ := h.rest k hfirst
    obtain ⟨hrow', htime'⟩ := h'.rest k hsecond
    exact ⟨hrow'.trans hrow, htime'.trans htime⟩
  -- a stamp of the first batch is not overwritten by the second
  stamped k hk hnot := by
    rw [List.mem_append, not_or] at hnot
    rcases List.mem_append.1 hk with hk | hk
    · rw [(h'.rest k (.inl (hdisjoint k hk))).2]
      exact h.stamped k hk hnot.1
    · exact h'.stamped k hk hnot.2
  within k hk := by
    rcases List.mem_append.1 hk with hk | hk
    · exact List.mem_append_left _ (h.within k hk)
    · exact List.mem_append_right _ (h'.within k hk)

end Reorders

@[simp] theorem AnnualScan.stamp_row (s : AnnualScan) (id : String) (time : Int) :
    (s.stamp id time).row = s.row := rfl

theorem AnnualScan.stamp_self (s : AnnualScan) (id : String) (time : Int) :
    (s.stamp id time).updatedAt id = time := Function.update_self _ _ _

theorem AnnualScan.stamp_of_ne (s : AnnualScan) {id k : String} (time : Int) (h : k ≠ id) :
    (s.stamp id time).updatedAt k = s.updatedAt k := Function.update_of_ne h _ _

theorem AnnualScan.recordFailure_row (tx : Tx) (s : AnnualScan) (a : Account) :
    (s.recordFailure tx a).row = s.row := by
  unfold AnnualScan.recordFailure
  split <;> rfl

theorem AnnualScan.recordFailure_updatedAt (tx : Tx) (s : AnnualScan) (a : Account) :
    (s.recordFailure tx a).updatedAt = s.updatedAt := by
  unfold AnnualScan.recordFailure
  split <;> rfl

section

variable {cfg : Config} {worker : AnnualWorker} {remote : AnnualRemote} {clock : BatchClock}
  {s : AnnualScan} {a : Account}

theorem annualTransaction_turns {tx : Tx} {db db' : Db} {snapshot : SubscriptionSnapshot}
    {result : ProcessResult} {time : Int} (hworker : worker.Sound cfg)
    (hrow : db.billing.accounts.find? a.id = some a) (hid : canonicalUuid a.id = some a.id)
    (hdue : a.isDue cfg time = true) (hstarted : time ≤ tx.now) (hwall : tx.now ≤ tx.wall)
    (h : annualTransaction worker tx db a.id snapshot = .ok (db', result)) :
    ∃ effect : Effect, db'.billing = effect.billing ∧ result = effect.result ∧
      Turns a.id db.billing effect := by
  simp only [annualTransaction, bind_eq_ok, pure_eq_ok] at h
  obtain ⟨effect, heffect, incidents, -, heq⟩ := h
  cases heq
  exact ⟨effect, rfl, rfl, hworker hrow hid hdue hstarted hwall heffect⟩

/-- A committed `grant_due` stamps the account, or the batch defers it. -/
theorem committed_reorders {db : Db} {effect : Effect} (hbilling : db.billing = effect.billing)
    (hturns : Turns a.id s.db.billing effect) (hclock : clock.Advances) :
    let s₁ : AnnualScan := { s with db }
    let s₂ := if effect.result.stampsAccount then s₁.stamp a.id (clock.tx a.id).now else s₁
    let s₃ := if effect.result.outcome = .ignored then s₂.stamp a.id (clock.deferredAt a.id) else s₂
    Reorders clock.selectedAt [a.id] [] s s₃ := by
  intro s₁ s₂ s₃
  -- stamping moves the order and leaves the rows to the transaction
  have hrow : s₃.row = effect.billing.accounts.find? := by
    have hcommitted : s₁.row = effect.billing.accounts.find? := by
      funext k
      show db.billing.accounts.find? k = _
      rw [hbilling]
    simp only [s₃, s₂]
    split <;> split <;> exact hcommitted
  -- and it stamps this account alone
  have htimes : ∀ k, k ≠ a.id → s₃.updatedAt k = s.updatedAt k := by
    intro k hk
    simp only [s₃, s₂]
    split <;> split <;> simp only [AnnualScan.stamp_of_ne _ _ hk, s₁]
  refine Reorders.stamps (fun k hk => ?_) ?_ htimes ?_
  · rw [hrow]
    exact hturns.others k hk
  · rw [hrow]
    exact hturns.ends
  -- a grant stamps the account, and an ignored answer defers it
  · simp only [s₃, s₂]
    rcases hturns.answered with houtcome | houtcome
    · -- the grant wrote the account itself
      simp only [ProcessResult.stampsAccount, houtcome]
      simpa [AnnualScan.stamp_self] using hclock.started a.id
    · rw [if_pos houtcome, AnnualScan.stamp_self]
      exact hclock.deferred a.id

/-- **One attempt** leaves the order alone where `grant_due` raises, and puts the candidate
    behind otherwise. -/
theorem attemptCandidate_reorders (hworker : worker.Sound cfg) (hrow : s.row a.id = some a)
    (hid : canonicalUuid a.id = some a.id) (hdue : a.isDue cfg clock.selectedAt = true)
    (hclock : clock.Advances) :
    Reorders clock.selectedAt [a.id] (if grantRaises worker remote clock s a then [a.id] else [])
      s (attemptCandidate worker remote clock s a).1 := by
  unfold attemptCandidate grantRaises
  cases hsnapshot : remote.snapshot a.stripeSubscriptionId with
  | none =>
    -- the failure is recorded, and the candidate deferred
    refine Reorders.stamps (fun k _ => ?_) ?_ (fun k hk => ?_) ?_
    · rw [AnnualScan.stamp_row, AnnualScan.recordFailure_row]
    · rw [AnnualScan.stamp_row, AnnualScan.recordFailure_row]
    · rw [AnnualScan.stamp_of_ne _ _ hk, AnnualScan.recordFailure_updatedAt]
    · rw [AnnualScan.stamp_self]
      exact hclock.deferred a.id
  | some snapshot =>
    cases hgrant : annualTransaction worker (clock.tx a.id) s.db a.id snapshot with
    | error failure =>
      simp only [hgrant, Except.toOption, Option.isNone_none, Bool.or_true, if_true]
      exact .raises s a.id
    | ok committed =>
      obtain ⟨db, result⟩ := committed
      cases hconnected : remote.connected a.id with
      | false =>
        simp only [hgrant, Bool.not_false, Bool.true_or, if_true]
        exact .raises s a.id
      | true =>
        obtain ⟨effect, hbilling, hresult, hturns⟩ :=
          annualTransaction_turns hworker hrow hid hdue (hclock.started a.id) (hclock.wall a.id)
            hgrant
        simp only [hgrant, Except.toOption, Option.isNone_some, Bool.not_true, Bool.or_false,
          Bool.false_eq_true, if_false]
        subst hresult
        exact committed_reorders hbilling hturns hclock

/-- **The whole page** is put behind, but for the candidates for which `grant_due` raises. The
    other ones are stamped no earlier than the page was selected, and the loop goes on after a
    failure, which writes nothing. -/
theorem attemptAll_reorders {candidates : List Account} (hworker : worker.Sound cfg)
    (hrows : ∀ c ∈ candidates, s.row c.id = some c)
    (hids : ∀ c ∈ candidates, canonicalUuid c.id = some c.id)
    (hdue : ∀ c ∈ candidates, c.isDue cfg clock.selectedAt = true)
    (hnodup : (candidates.map Account.id).Nodup) (hclock : clock.Advances) :
    Reorders clock.selectedAt (candidates.map Account.id)
      (raising worker remote clock s candidates) s
      (attemptAll worker remote clock s candidates).1 := by
  induction candidates generalizing s with
  | nil => exact .refl s
  | cons a rest ih =>
    rw [List.map_cons, List.nodup_cons] at hnodup
    have hstep := @attemptCandidate_reorders cfg worker remote clock s a hworker
      (hrows a List.mem_cons_self) (hids a List.mem_cons_self) (hdue a List.mem_cons_self) hclock
    -- the other candidates are still as they were read
    have hrest : ∀ c ∈ rest, (attemptCandidate worker remote clock s a).1.row c.id = some c := by
      intro c hc
      have hne : c.id ∉ [a.id] := by
        rw [List.mem_singleton]
        rintro heq
        exact hnodup.1 (heq ▸ List.mem_map_of_mem hc)
      rw [(hstep.rest c.id (.inl hne)).1]
      exact hrows c (List.mem_cons_of_mem _ hc)
    have hlater := ih hrest (fun c hc => hids c (List.mem_cons_of_mem _ hc))
      (fun c hc => hdue c (List.mem_cons_of_mem _ hc)) hnodup.2
    have hall := hstep.append hlater (by simpa using hnodup.1)
    have hraised : raising worker remote clock s (a :: rest) =
        (if grantRaises worker remote clock s a then [a.id] else []) ++
          raising worker remote clock (attemptCandidate worker remote clock s a).1 rest := by
      rw [raising]
      split <;> rfl
    rw [hraised]
    exact hall

end

/-! ## One batch -/

/-- The accounts that a batch attempts. -/
def batchPage (cfg : Config) (clock : BatchClock) (limit : Int) (s : AnnualScan) : List Account :=
  dueAccounts cfg s clock.selectedAt limit.toNat

/-- Every attempted account that is due at `now` comes after every account that was due and was
    not attempted. -/
def Rotated (cfg : Config) (clock : BatchClock) (limit : Int) (s s' : AnnualScan) (now : Int) :
    Prop :=
  ∀ c ∈ s'.due cfg now [], (∃ a ∈ batchPage cfg clock limit s, a.id = c.id) →
    ∀ u ∈ s.due cfg clock.selectedAt [], u ∉ batchPage cfg clock limit s →
      s'.position u.id < s'.position c.id

/-- The condition on a batch: `grant_due` raises for no candidate that is still entitled at `now`,
    or every due account is a candidate. -/
def Rotating (cfg : Config) (worker : AnnualWorker) (remote : AnnualRemote) (clock : BatchClock)
    (limit : Int) (s : AnnualScan) (now : Int) : Prop :=
  (∀ c ∈ batchPage cfg clock limit s,
    c.id ∈ raising worker remote clock s (batchPage cfg clock limit s) →
      c.entitlementPeriodEnd.any (now < ·) = false) ∨
  ∀ u ∈ s.due cfg clock.selectedAt [], u ∈ batchPage cfg clock limit s

/-- The ids of the accounts are what a column of type `uuid` shows. -/
def AnnualScan.CanonicalIds (s : AnnualScan) : Prop :=
  ∀ a ∈ s.db.billing.accounts.rows, canonicalUuid a.id = some a.id

/-- Every account was updated before this time. -/
def AnnualScan.Before (s : AnnualScan) (time : Int) : Prop :=
  ∀ a ∈ s.db.billing.accounts.rows, s.updatedAt a.id < time

section

variable {cfg : Config} {worker : AnnualWorker} {remote : AnnualRemote} {clock : BatchClock}
  {limit : Int} {s s' : AnnualScan} {result : AnnualGrantBatchResult} {a c u : Account} {now : Int}

theorem mem_due {time : Int} : a ∈ s.due cfg time [] ↔
    s.row a.id = some a ∧ a.isDue cfg time = true := by
  have hmem : s.row a.id = some a ↔ a ∈ s.db.billing.accounts.rows :=
    ⟨fun h => Table.find?_mem h, fun h => Table.find?_of_mem h⟩
  simp [AnnualScan.due, Table.select, hmem]

theorem due_nodup {time : Int} : ((s.due cfg time []).map Account.id).Nodup := by
  have hkeys := s.db.billing.accounts.valid.keys_nodup
  exact hkeys.sublist (List.Sublist.map _ List.filter_sublist)

theorem due_of_batchPage (h : a ∈ batchPage cfg clock limit s) :
    a ∈ s.due cfg clock.selectedAt [] := mem_of_mem_page h

theorem batchPage_nodup : ((batchPage cfg clock limit s).map Account.id).Nodup := by
  have hperm := (Table.orderBy_perm (fun a : Account => s.position a.id)
    (s.due cfg clock.selectedAt [])).map Account.id
  have htake := List.Sublist.map Account.id
    (List.take_sublist limit.toNat (Table.orderBy (fun a : Account => s.position a.id)
      (s.due cfg clock.selectedAt [])))
  exact (hperm.nodup_iff.2 due_nodup).sublist htake

/-- An account that was not attempted has an id that was not attempted. -/
theorem mem_batchPage_of_id (hu : u ∈ s.due cfg clock.selectedAt [])
    (hc : c ∈ batchPage cfg clock limit s) (hid : c.id = u.id) : u = c := by
  have hrow := (mem_due.1 (due_of_batchPage hc)).1
  rw [hid, (mem_due.1 hu).1] at hrow
  exact Option.some.inj hrow

theorem isDue_later {time : Int} (h : a.isDue cfg time = true) (htime : time ≤ now)
    (hperiod : a.entitlementPeriodEnd.any (now < ·) = true) : a.isDue cfg now = true := by
  simp only [Account.isDue, Bool.and_eq_true, decide_eq_true_eq] at h ⊢
  obtain ⟨⟨⟨⟨hplan, -⟩, hfunded⟩, hissued⟩, hanchor⟩ := h
  refine ⟨⟨⟨⟨hplan, hperiod⟩, hfunded⟩, hissued⟩, ?_⟩
  cases hsome : a.annualAnchor with
  | none => simp [hsome] at hanchor
  | some anchor =>
    rw [hsome, Option.any_some, decide_eq_true_eq] at hanchor
    rw [Option.any_some, decide_eq_true_eq]
    omega

theorem isDue_period {time : Int} (h : a.isDue cfg time = true) :
    a.entitlementPeriodEnd.any (time < ·) = true := by
  simp only [Account.isDue, Bool.and_eq_true] at h
  exact h.1.1.1.2

theorem position_congr {id : String} (h : s'.updatedAt id = s.updatedAt id) :
    s'.position id = s.position id := by
  rw [AnnualScan.position, AnnualScan.position, h]

/-- A batch reorders the accounts of its page. -/
theorem runAnnualGrantBatch_reorders (hworker : worker.Sound cfg) (hids : s.CanonicalIds)
    (hclock : clock.Advances)
    (h : runAnnualGrantBatch cfg worker remote clock limit s = .ok (s', result)) :
    Reorders clock.selectedAt ((batchPage cfg clock limit s).map Account.id)
      (raising worker remote clock s (batchPage cfg clock limit s)) s s' := by
  simp only [runAnnualGrantBatch, bind_eq_ok, pure_eq_ok] at h
  obtain ⟨_, -, heq⟩ := h
  have hdue : ∀ c ∈ batchPage cfg clock limit s,
      s.row c.id = some c ∧ c.isDue cfg clock.selectedAt = true := fun c hc =>
    mem_due.1 (due_of_batchPage hc)
  have hall := @attemptAll_reorders cfg worker remote clock s (batchPage cfg clock limit s) hworker
    (fun c hc => (hdue c hc).1) (fun c hc => hids c (Table.find?_mem (hdue c hc).1))
    (fun c hc => (hdue c hc).2) batchPage_nodup hclock
  cases heq
  exact hall

section

variable {raised : List String}
  (h : Reorders clock.selectedAt ((batchPage cfg clock limit s).map Account.id) raised s s')

include h

/-- An account that was left out stays due, as long as it is entitled. -/
theorem due_of_left (hu : u ∈ s.due cfg clock.selectedAt []) (hleft : u ∉ batchPage cfg clock limit s)
    (hnow : clock.selectedAt ≤ now) (hperiod : u.entitlementPeriodEnd.any (now < ·) = true) :
    u ∈ s'.due cfg now [] := by
  obtain ⟨hrow, hdue⟩ := mem_due.1 hu
  refine mem_due.2 ⟨?_, isDue_later hdue hnow hperiod⟩
  rw [(h.rest u.id (.inl ?_)).1, hrow]
  intro hin
  obtain ⟨c, hc, hid⟩ := List.mem_map.1 hin
  exact hleft (mem_batchPage_of_id hu hc hid ▸ hc)

theorem left_position (hu : u ∈ s.due cfg clock.selectedAt [])
    (hleft : u ∉ batchPage cfg clock limit s) : s'.position u.id = s.position u.id := by
  refine position_congr (h.rest u.id (.inl ?_)).2
  intro hin
  obtain ⟨c, hc, hid⟩ := List.mem_map.1 hin
  exact hleft (mem_batchPage_of_id hu hc hid ▸ hc)

/-- A candidate that was stamped comes after an account that was left out. -/
theorem stamped_after (hbefore : s.Before clock.selectedAt)
    (hc : c ∈ batchPage cfg clock limit s) (hstamped : c.id ∉ raised)
    (hu : u ∈ s.due cfg clock.selectedAt []) (hleft : u ∉ batchPage cfg clock limit s) :
    s'.position u.id < s'.position c.id := by
  rw [left_position h hu hleft]
  have hlate := h.stamped c.id (List.mem_map_of_mem hc) hstamped
  have hearly := hbefore u (Table.find?_mem (mem_due.1 hu).1)
  exact Prod.Lex.toLex_lt_toLex.2 (.inl (hearly.trans_le hlate))

end

theorem batchPage_first (hc : c ∈ batchPage cfg clock limit s)
    (hu : u ∈ s.due cfg clock.selectedAt []) (hleft : u ∉ batchPage cfg clock limit s) :
    s.position c.id < s.position u.id := by
  have hle := @page_first _ _ _ (fun a : Account => s.position a.id) _ _ _ _ hc hu hleft
  refine lt_of_le_of_ne hle fun heq => ?_
  have hid : c.id = u.id := String.ext (Prod.mk.inj (toLex.injective heq)).2
  exact hleft (mem_batchPage_of_id hu hc hid ▸ hc)

/-- **Which batches rotate.** A candidate for which `grant_due` raises keeps its place at the head
    of the order, so the page is behind the rest exactly where each candidate that raised has lost
    its entitlement by then. The other candidates of the page are moved by the batch itself. -/
theorem rotated_iff_rotating (hworker : worker.Sound cfg) (hids : s.CanonicalIds)
    (hclock : clock.Advances) (hbefore : s.Before clock.selectedAt)
    (h : runAnnualGrantBatch cfg worker remote clock limit s = .ok (s', result))
    (hnow : clock.selectedAt ≤ now) :
    Rotated cfg clock limit s s' now ↔ Rotating cfg worker remote clock limit s now := by
  have hmoved := runAnnualGrantBatch_reorders hworker hids hclock h
  -- a raised candidate of the page keeps its row and its place
  have hkept : ∀ c ∈ batchPage cfg clock limit s,
      c.id ∈ raising worker remote clock s (batchPage cfg clock limit s) →
      s'.row c.id = some c ∧ s'.position c.id = s.position c.id := by
    intro c hc hraised
    obtain ⟨hrow, htime⟩ := hmoved.rest c.id (.inr hraised)
    exact ⟨hrow.trans (mem_due.1 (due_of_batchPage hc)).1, position_congr htime⟩
  constructor
  -- not rotating gives a raised candidate that is due again and an account it left behind
  · intro hrotated
    by_contra hnot
    simp only [Rotating, not_or, not_forall, exists_prop] at hnot
    obtain ⟨⟨c, hc, hraised, hperiod⟩, u, hu, hleft⟩ := hnot
    obtain ⟨hrow, hplace⟩ := hkept c hc hraised
    have hdue : c ∈ s'.due cfg now [] :=
      mem_due.2 ⟨hrow, isDue_later (mem_due.1 (due_of_batchPage hc)).2 hnow
        (Bool.not_eq_false _ |>.mp hperiod)⟩
    -- rotation would put the left account first, and the page shows the opposite
    have hafter := hrotated c hdue ⟨c, hc, rfl⟩ u hu hleft
    rw [left_position hmoved hu hleft, hplace] at hafter
    exact absurd hafter (batchPage_first hc hu hleft).asymm
  -- either no raised candidate is due any more, or nobody was left behind
  · rintro (hheld | hall) c' hdue ⟨c, hc, hid⟩ u hu hleft
    · rw [← hid]
      refine stamped_after hmoved hbefore hc ?_ hu hleft
      -- a raised candidate keeps its row, and its period is over by the next batch
      intro hraised
      have hrow := (mem_due.1 hdue).1
      rw [← hid, (hkept c hc hraised).1, Option.some.injEq] at hrow
      subst hrow
      have hover := hheld c hc hraised
      rw [isDue_period (mem_due.1 hdue).2] at hover
      cases hover
    · exact absurd (hall u hu) hleft

end

/-! ## Successive batches -/

/-- A worker ran `n` batches, one after another, under a clock that advances. -/
structure BatchRun (cfg : Config) (worker : AnnualWorker) (limit : Int) (n : Nat)
    (remote : Nat → AnnualRemote) (clock : Nat → BatchClock) (s : Nat → AnnualScan) : Prop where
  ids : (s 0).CanonicalIds
  advances : ∀ i < n, (clock i).Advances
  before : ∀ i < n, (s i).Before (clock i).selectedAt
  later : ∀ i < n, (clock i).selectedAt ≤ (clock (i + 1)).selectedAt
  step : ∀ i < n, ∃ result,
    runAnnualGrantBatch cfg worker (remote i) (clock i) limit (s i) = .ok (s (i + 1), result)

namespace BatchRun

variable {cfg : Config} {worker : AnnualWorker} {limit : Int} {n : Nat}
  {remote : Nat → AnnualRemote} {clock : Nat → BatchClock} {s : Nat → AnnualScan} {u : Account}

def idsOf (rows : List Account) : Finset String := (rows.map Account.id).toFinset

theorem mem_idsOf {rows : List Account} {id : String} : id ∈ idsOf rows ↔ ∃ a ∈ rows, a.id = id := by
  simp only [idsOf, List.mem_toFinset, List.mem_map]

/-- The accounts that are still entitled when a page is read. -/
def entitled (s : AnnualScan) (time : Int) : Finset String :=
  idsOf (s.db.billing.accounts.rows.filter fun a => a.entitlementPeriodEnd.any (time < ·))

theorem mem_entitled {s : AnnualScan} {time : Int} {id : String} : id ∈ entitled s time ↔
    ∃ a, s.row id = some a ∧ a.entitlementPeriodEnd.any (time < ·) = true := by
  simp only [entitled, mem_idsOf, List.mem_filter]
  constructor
  · rintro ⟨a, ⟨ha, hperiod⟩, rfl⟩
    exact ⟨a, Table.find?_of_mem ha, hperiod⟩
  · rintro ⟨a, hrow, hperiod⟩
    exact ⟨a, ⟨Table.find?_mem hrow, hperiod⟩, Table.find?_key hrow⟩

theorem reorders (hrun : BatchRun cfg worker limit n remote clock s) (hworker : worker.Sound cfg)
    {i : Nat} (hi : i < n) (hids : (s i).CanonicalIds) :
    Reorders (clock i).selectedAt ((batchPage cfg (clock i) limit (s i)).map Account.id)
      (raising worker (remote i) (clock i) (s i) (batchPage cfg (clock i) limit (s i)))
      (s i) (s (i + 1)) := by
  obtain ⟨result, hstep⟩ := hrun.step i hi
  exact runAnnualGrantBatch_reorders hworker hids (hrun.advances i hi) hstep

/-- A batch adds no account. -/
theorem canonicalIds (hrun : BatchRun cfg worker limit n remote clock s)
    (hworker : worker.Sound cfg) {i : Nat} (hi : i ≤ n) : (s i).CanonicalIds := by
  induction i with
  | zero => exact hrun.ids
  | succ i ih =>
    have hids := ih (Nat.le_of_succ_le hi)
    have hmoved := hrun.reorders hworker hi hids
    intro a ha
    have hend := hmoved.ends a.id
    rw [show (s (i + 1)).row a.id = some a from Table.find?_of_mem ha, Option.map_some] at hend
    obtain ⟨old, hold, -⟩ := Option.map_eq_some_iff.1 hend.symm
    have hid : old.id = a.id := Table.find?_key hold
    rw [← hid]
    exact hids old (Table.find?_mem hold)

/-- **One batch of a run** rotates the order. The positions of those who are not on the page stay,
    the page goes behind them, and nobody becomes entitled between two batches, so the set that is
    waited for only shrinks. -/
theorem rotates (hrun : BatchRun cfg worker limit n remote clock s) (hworker : worker.Sound cfg)
    {i : Nat} (hi : i < n) {left : Account}
    (hrotating : Rotating cfg worker (remote i) (clock i) limit (s i) (clock (i + 1)).selectedAt)
    (hdue : left ∈ (s i).due cfg (clock i).selectedAt [])
    (hleft : left ∉ batchPage cfg (clock i) limit (s i)) :
    Rotates limit.toNat (s i).position
      (idsOf ((s i).due cfg (clock i).selectedAt []))
      (idsOf (batchPage cfg (clock i) limit (s i)))
      (entitled (s i) (clock i).selectedAt) (s (i + 1)).position
      (entitled (s (i + 1)) (clock (i + 1)).selectedAt) := by
  -- the six facts that the abstract order asks of a batch, each read off the reordering
  have hmoved := hrun.reorders hworker hi (hrun.canonicalIds hworker hi.le)
  have hnow := hrun.later i hi
  constructor
  case first =>
    simp only [mem_idsOf]
    rintro _ ⟨c, hc, rfl⟩ _ ⟨u, hu, rfl⟩ hnot
    exact batchPage_first hc hu fun hin => hnot ⟨u, hin, rfl⟩
  -- a page that leaves somebody out is full
  case full =>
    simp only [mem_idsOf]
    rintro _ ⟨u, hu, rfl⟩ hnot
    rw [idsOf, List.toFinset_card_of_nodup batchPage_nodup, List.length_map]
    have hfull := @page_full _ _ _ (fun a : Account => (s i).position a.id) limit.toNat
      ((s i).due cfg (clock i).selectedAt []) u hu fun hin => hnot ⟨u, hin, rfl⟩
    exact hfull.ge
  -- whoever was attempted comes after whoever was left, unless it was raised and has expired
  case behind =>
    simp only [mem_idsOf]
    rintro _ ⟨c, hc, rfl⟩ hlive _ ⟨u, hu, rfl⟩ hnot
    refine stamped_after hmoved (hrun.before i hi) hc ?_ hu fun hin => hnot ⟨u, hin, rfl⟩
    intro hraised
    rcases hrotating with hheld | hall
    -- a raised candidate keeps its row, so its period would still have to run
    · obtain ⟨a, hrow, hperiod⟩ := mem_entitled.1 hlive
      rw [(hmoved.rest c.id (.inr hraised)).1, (mem_due.1 (due_of_batchPage hc)).1] at hrow
      cases hrow
      rw [hheld c hc hraised] at hperiod
      cases hperiod
    · exact hleft (hall left hdue)
  case rest =>
    intro id hnot
    refine position_congr (hmoved.rest id (.inl fun hin => hnot ?_)).2
    exact mem_idsOf.2 (List.mem_map.1 hin)
  case within =>
    intro id hid
    obtain ⟨c, hc, rfl⟩ := mem_idsOf.1 hid
    obtain ⟨hrow, hcdue⟩ := mem_due.1 (due_of_batchPage hc)
    exact mem_entitled.2 ⟨c, hrow, isDue_period hcdue⟩
  -- an account that is entitled afterwards was entitled before: no batch extends a period
  case fewer =>
    intro id hid
    obtain ⟨a, hrow, hperiod⟩ := mem_entitled.1 hid
    have hend := hmoved.ends id
    rw [hrow, Option.map_some] at hend
    obtain ⟨old, hold, hsame⟩ := Option.map_eq_some_iff.1 hend.symm
    refine mem_entitled.2 ⟨old, hold, ?_⟩
    rw [hsame]
    cases hsome : a.entitlementPeriodEnd with
    | none => simp [hsome] at hperiod
    | some periodEnd =>
      rw [hsome, Option.any_some, decide_eq_true_eq] at hperiod
      rw [Option.any_some, decide_eq_true_eq]
      omega

/-- An account that was never attempted stays due while it is entitled. -/
theorem due_of_left (hrun : BatchRun cfg worker limit n remote clock s)
    (hworker : worker.Sound cfg) (hdue : u ∈ (s 0).due cfg (clock 0).selectedAt [])
    (hperiod : ∀ i < n, u.entitlementPeriodEnd.any ((clock i).selectedAt < ·) = true) {i : Nat}
    (hi : i < n) (hleft : ∀ j < i, u ∉ batchPage cfg (clock j) limit (s j)) :
    u ∈ (s i).due cfg (clock i).selectedAt [] := by
  induction i with
  | zero => exact hdue
  | succ i ih =>
    have hi' : i < n := Nat.lt_of_succ_lt hi
    have hprevious := ih hi' fun j hj => hleft j (Nat.lt_succ_of_lt hj)
    have hmoved := hrun.reorders hworker hi' (hrun.canonicalIds hworker hi'.le)
    exact StripeEntitlements.due_of_left hmoved hprevious (hleft i (Nat.lt_succ_self i))
      (hrun.later i hi') (hperiod (i + 1) hi)

/-- **Nobody starves** in a run of rotating batches. Each batch moves as many accounts behind the
    one that waits as the page holds, and there are no more accounts than the table has. -/
theorem attempted (hrun : BatchRun cfg worker limit n remote clock s) (hworker : worker.Sound cfg)
    (hrotating : ∀ i < n,
      Rotating cfg worker (remote i) (clock i) limit (s i) (clock (i + 1)).selectedAt)
    (hdue : u ∈ (s 0).due cfg (clock 0).selectedAt [])
    (hperiod : ∀ i < n, u.entitlementPeriodEnd.any ((clock i).selectedAt < ·) = true)
    (hn : (s 0).db.billing.accounts.rows.length < n * limit.toNat) :
    ∃ i < n, u ∈ batchPage cfg (clock i) limit (s i) := by
  have hstays : ∀ i < n, (∀ j < i, u ∉ batchPage cfg (clock j) limit (s j)) →
      u ∈ (s i).due cfg (clock i).selectedAt [] := fun i hi =>
    hrun.due_of_left hworker hdue hperiod hi
  -- the entitled accounts are among the rows, so there are fewer than the batches attempt
  have hcard : (entitled (s 0) (clock 0).selectedAt).card < n * limit.toNat := by
    refine lt_of_le_of_lt (List.toFinset_card_le _) (lt_of_le_of_lt ?_ hn)
    rw [List.length_map]
    exact List.length_filter_le _ _
  -- were the account never attempted, it would be left by every batch, and every batch rotates
  by_contra hnever
  have hleft : ∀ i < n, u ∉ batchPage cfg (clock i) limit (s i) := fun i hi hin =>
    hnever ⟨i, hi, hin⟩
  have hdueAt : ∀ i < n, u ∈ (s i).due cfg (clock i).selectedAt [] := fun i hi =>
    hstays i hi fun j hj => hleft j (hj.trans hi)
  obtain ⟨i, hi, hin⟩ := @attempted_of_rotates String _ _ _ limit.toNat n
    (fun i => (s i).position) (fun i => idsOf ((s i).due cfg (clock i).selectedAt []))
    (fun i => idsOf (batchPage cfg (clock i) limit (s i)))
    (fun i => entitled (s i) (clock i).selectedAt) u.id
    (fun i hi _ _ => hrun.rotates hworker hi (hrotating i hi) (hdueAt i hi) (hleft i hi))
    (fun i hi _ => mem_idsOf.2 ⟨u, hdueAt i hi, rfl⟩) hcard
  obtain ⟨c, hc, hid⟩ := mem_idsOf.1 hin
  exact hleft i hi (mem_batchPage_of_id (hdueAt i hi) hc hid ▸ hc)

end BatchRun

/-- **Bounded batches of a worker** rotate exactly where no candidate that raised is still
    entitled, and starve nobody in a run of such batches: an account that stays due is on a page
    after as many batches as it takes to put every account of the table on a page once. -/
theorem annual_batches_rotate {cfg : Config} {worker : AnnualWorker} {limit : Int} {n : Nat}
    {remote : Nat → AnnualRemote} {clock : Nat → BatchClock} {s : Nat → AnnualScan}
    (hworker : worker = pythonAnnualWorker cfg ∨ worker = TypeScript.annualWorker cfg)
    (hrun : BatchRun cfg worker limit n remote clock s) :
    (∀ i < n, ∀ now, (clock i).selectedAt ≤ now →
      (Rotated cfg (clock i) limit (s i) (s (i + 1)) now ↔
        Rotating cfg worker (remote i) (clock i) limit (s i) now)) ∧
    ((∀ i < n, Rotating cfg worker (remote i) (clock i) limit (s i) (clock (i + 1)).selectedAt) →
      ∀ u ∈ (s 0).due cfg (clock 0).selectedAt [],
        (∀ i < n, u.entitlementPeriodEnd.any ((clock i).selectedAt < ·) = true) →
        (s 0).db.billing.accounts.rows.length < n * limit.toNat →
        ∃ i < n, u ∈ batchPage cfg (clock i) limit (s i)) := by
  have hsound : worker.Sound cfg := by
    rcases hworker with rfl | rfl
    · exact pythonAnnualWorker_sound
    · exact TypeScript.annualWorker_sound
  constructor
  · intro i hi now hnow
    obtain ⟨result, hstep⟩ := hrun.step i hi
    exact rotated_iff_rotating hsound (hrun.canonicalIds hsound hi.le) (hrun.advances i hi)
      (hrun.before i hi) hstep hnow
  · intro hrotating u hdue hperiod hn
    exact hrun.attempted hsound hrotating hdue hperiod hn

/-! ### Two customers -/

/-- Two annual customers in their second month. -/
def annualCustomer (id : String) : Account where
  id := id
  externalRef := id
  stripeSubscriptionId := some s!"sub-{id}"
  planKey := "pro"
  planInterval := some .year
  subscriptionStatus := .active
  annualAnchor := some 1767225600000000
  annualGrantsIssued := 1
  annualGrantsAllowed := 12
  fundingInvoiceId := some s!"in-{id}"
  entitlementPeriodEnd := some 1798761600000000

def firstCustomer : Account := annualCustomer "00000000-0000-0000-0000-000000000001"

def secondCustomer : Account := annualCustomer "00000000-0000-0000-0000-000000000002"

def twoCustomers : AnnualScan where
  db := { Db.empty with billing := { Billing.empty with
    accounts := ⟨[firstCustomer, secondCustomer], by decide +kernel⟩ } }
  updatedAt id := if id = firstCustomer.id then 1 else 2

/-- A batch in February 2026. -/
def februaryClock (minute : Nat) : BatchClock :=
  let time : Int := 1771000000000000 + 60000000 * minute
  { selectedAt := time
    tx _ := { now := time + 1, wall := time + 2, uuid := fun _ => "" }
    deferredAt _ := time + 3 }

/-- Stripe does not answer. -/
def unreachableStripe : AnnualRemote where
  snapshot _ := none
  connected _ := true

/-- The transaction of one account is lost every time. -/
def lostTransaction (id : String) : AnnualRemote where
  snapshot subscriptionId := some {
    subscriptionId := subscriptionId.getD ""
    status := "active"
    lookupKey := some "ent_pro_year"
    currentPeriodEnd := some 1798761600000000 }
  connected accountId := accountId ≠ id

def afterBatch (worker : AnnualWorker) (remote : AnnualRemote) (clock : BatchClock)
    (limit : Int) (s : AnnualScan) : AnnualScan :=
  (attemptAll worker remote clock s (batchPage referenceConfig clock limit s)).1

/-- Batches of one account while Stripe does not answer. -/
def unansweredBatches (worker : AnnualWorker) : Nat → AnnualScan
  | 0 => twoCustomers
  | i + 1 =>
      afterBatch worker unreachableStripe (februaryClock i) 1 (unansweredBatches worker i)

theorem februaryClock_advances (minute : Nat) : (februaryClock minute).Advances where
  started _ := by simp [februaryClock]
  wall _ := by simp [februaryClock]
  deferred _ := by simp [februaryClock]

theorem twoCustomers_canonicalIds : twoCustomers.CanonicalIds := by
  unfold AnnualScan.CanonicalIds
  decide +kernel

theorem unanswered_run {worker : AnnualWorker}
    (hworker : worker = pythonAnnualWorker referenceConfig ∨
      worker = TypeScript.annualWorker referenceConfig) :
    BatchRun referenceConfig worker 1 3 (fun _ => unreachableStripe) februaryClock
      (unansweredBatches worker) where
  ids := twoCustomers_canonicalIds
  advances i _ := februaryClock_advances i
  before := by
    unfold AnnualScan.Before
    rcases hworker with rfl | rfl <;> decide +kernel
  later i _ := by simp [februaryClock]
  step i _ := ⟨_, rfl⟩

theorem unanswered_rotating (worker : AnnualWorker) (clock : BatchClock) (s : AnnualScan)
    (now : Int) : Rotating referenceConfig worker unreachableStripe clock 1 s now := by
  have hnone : ∀ {candidates : List Account} {s : AnnualScan},
      raising worker unreachableStripe clock s candidates = [] := by
    intro candidates
    induction candidates with
    | nil => exact rfl
    | cons c rest ih => exact ih
  refine .inl fun c _ hraised => ?_
  rw [hnone] at hraised
  cases hraised

/-- Both workers come to the second customer. -/
theorem annual_batches_rotate_unanswered :
    (∃ i < 3, secondCustomer ∈ batchPage referenceConfig (februaryClock i) 1
      (unansweredBatches (pythonAnnualWorker referenceConfig) i)) ∧
    ∃ i < 3, secondCustomer ∈ batchPage referenceConfig (februaryClock i) 1
      (unansweredBatches (TypeScript.annualWorker referenceConfig) i) := by
  have hpython := annual_batches_rotate (.inl rfl) (unanswered_run (.inl rfl))
  have htypescript := annual_batches_rotate (.inr rfl) (unanswered_run (.inr rfl))
  constructor
  · exact hpython.2 (fun i _ => unanswered_rotating _ _ _ _) secondCustomer (by decide +kernel)
      (by decide +kernel) (by decide +kernel)
  · exact htypescript.2 (fun i _ => unanswered_rotating _ _ _ _) secondCustomer
      (by decide +kernel) (by decide +kernel) (by decide +kernel)

/-- One account whose transaction is lost every time keeps the page of one account for itself. -/
theorem lost_transaction_starves :
    ∃ s result s' result', runAnnualGrantBatch referenceConfig (pythonAnnualWorker referenceConfig)
        (lostTransaction firstCustomer.id) (februaryClock 0) 1 twoCustomers = .ok (s, result) ∧
      ¬ Rotated referenceConfig (februaryClock 0) 1 twoCustomers s (februaryClock 1).selectedAt ∧
      runAnnualGrantBatch referenceConfig (TypeScript.annualWorker referenceConfig)
        (lostTransaction firstCustomer.id) (februaryClock 0) 1 twoCustomers = .ok (s', result') ∧
      ¬ Rotated referenceConfig (februaryClock 0) 1 twoCustomers s'
        (februaryClock 1).selectedAt := by
  refine ⟨_, _, _, _, rfl, ?_, rfl, ?_⟩
  · unfold Rotated
    decide +kernel
  · unfold Rotated
    decide +kernel

end StripeEntitlements
