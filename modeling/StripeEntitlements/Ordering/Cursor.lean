import Mathlib.Data.Prod.Lex
import StripeEntitlements.Identity.Isolation

/-!
# The Ordering Cursor Over Whole Runs

The cursor of an account is the order of the Event its projection shows. Every handler moves
it to the maximum of itself and the Event, and one, the completed Checkout of an unbound
account, starts it over. The status of an ended Subscription stays inactive until a live
claim binds the next one, in every run without a foreign replay.

## Main results

- `Projected.cursor_le` — a projection advances the cursor, or binds an unbound account
- `Projected.ordinary_status` — an ordinary Event changes the status only from above
- `Inactive.runs` — an ended Subscription stays inactive
- `cursor_laws` — the laws over whole runs
- `ended_subscription_reactivates` — a replayed renewal is the exception
-/

namespace StripeEntitlements

open Relational

variable {cfg : Config} {tx : Tx} {b b' : Billing} {e : Event} {effect : Effect} {a a' : Account}

/-! ## The order of Events -/

theorem cursorLt_iff {x y : Nat × Nat} : cursorLt x y = true ↔ toLex x < toLex y := by
  simp [cursorLt, Prod.Lex.toLex_lt_toLex]

/-- The projected order is the later one of the cursor and the Event. -/
theorem le_projectionOrder (a : Account) (e : Event) :
    toLex a.cursor ≤ toLex (projectionOrder a e) := by
  unfold projectionOrder
  split
  case isTrue hlt => exact (cursorLt_iff.1 hlt).le
  case isFalse => exact le_refl _

/-- An ordinary Event wins from above the cursor. -/
theorem cursor_lt_of_wins (he : e.remoteVerified = false) (h : wins a e = true) :
    toLex a.cursor < toLex e.order := by
  rw [wins, if_neg (by rw [he]; exact Bool.false_ne_true)] at h
  exact cursorLt_iff.1 h

/-! ## One projection -/

/-- A completed Checkout starts the cursor of an account without a Subscription. -/
structure Rewinds (e : Event) (a a' : Account) : Prop where
  kind : e.kind = .checkoutSessionCompleted
  unbound : a.stripeSubscriptionId = none
  bound : a'.stripeSubscriptionId.isSome
  zero : a'.cursor = (0, 0)

/-- **A projection** advances the cursor, or starts it for a new Subscription. The cases are those
    in which a handler stamps the account with its Event. -/
theorem Projected.cursor_le (h : Projected cfg tx b e a a') :
    toLex a.cursor ≤ toLex a'.cursor ∨ Rewinds e a a' := by
  cases h with
  | customer _ => exact .inl (le_refl _)
  | marked _ _ => exact .inl (le_refl _)
  | replayed _ _ _ _ _ _ _ => exact .inl (le_projectionOrder _ e)
  | @period p t transition balance _ _ _ _ _ _ _ =>
    -- an Invoice that loses to the cursor copies it
    left
    change _ ≤ toLex (if wins p.account e then projectionOrder p.account e else p.account.cursor)
    split
    · exact le_projectionOrder p.account e
    · exact le_refl _
  | @delta p transition f newBalance balance _ _ _ _ =>
    left
    change _ ≤ toLex (if wins p.account e then projectionOrder p.account e else p.account.cursor)
    split
    · exact le_projectionOrder p.account e
    · exact le_refl _
  | renewal _ _ _ _ => exact .inl (le_projectionOrder _ e)
  | updated _ _ _ => exact .inl (le_projectionOrder _ e)
  | deleted _ _ => exact .inl (le_projectionOrder _ e)
  | @completed s hkind hs =>
    cases hbound : s.account.stripeSubscriptionId with
    | none =>
      right
      refine ⟨hkind, hbound, rfl, ?_⟩
      simp [bindSession, Account.cursor, hbound]
    | some bound =>
      left
      simp [bindSession, Account.cursor, hbound]
  | @clawed c leaf balance _ _ _ =>
    left
    have hcursor : (c.after tx leaf).cursor = c.account.cursor := by
      unfold ClawbackTarget.after
      split <;> cases leaf <;> rfl
    exact (congrArg toLex hcursor.symm).le

/-- The types that only project a status. -/
def EventType.projectsStatus : EventType → Bool
  | .customerSubscriptionUpdated | .invoicePaymentFailed | .customerSubscriptionDeleted => true
  | _ => false

/-- **An ordinary update, failure or deletion** changes the status only from above the
    cursor. -/
theorem Projected.ordinary_status (he : e.remoteVerified = false)
    (hkind : e.kind.projectsStatus = true) (h : Projected cfg tx b e a a')
    (hchanged : a'.subscriptionStatus ≠ a.subscriptionStatus) :
    toLex a.cursor < toLex e.order := by
  cases h with
  | customer _ => exact absurd rfl hchanged
  | marked _ _ => exact absurd rfl hchanged
  | renewal _ _ _ hwins => exact cursor_lt_of_wins he hwins
  | updated _ _ hwins => exact cursor_lt_of_wins he hwins
  | deleted _ haccount => exact cursor_lt_of_wins he (deletionGuards_facts haccount).2
  | replayed hpaid _ _ _ _ _ _ | period hpaid _ _ _ _ _ _ | delta hpaid _ _ _
  | completed hpaid _ =>
    rw [hpaid] at hkind
    cases hkind
  | clawed hcharge _ _ => rcases hcharge with hcharge | hcharge <;> rw [hcharge] at hkind <;> cases hkind

/-! ## Runs -/

theorem Commits.cursor_le {db db' : Db} {k : String} (h : Commits cfg db db')
    (ha : db.billing.accounts.find? k = some a) (ha' : db'.billing.accounts.find? k = some a') :
    toLex a.cursor ≤ toLex a'.cursor ∨
      ∃ tx e result, process cfg tx db e = .ok (db', result) ∧ Rewinds e a a' := by
  cases h.account ha ha' with
  | @projected tx e result hrun _ hprojected =>
    exact hprojected.cursor_le.imp_right fun hrewinds => ⟨tx, e, result, hrun, hrewinds⟩
  | credits hsame => exact .inl (congrArg (toLex ∘ Account.cursor) hsame :).symm.le
  | annual hstep =>
    left
    cases hstep with
    | closed _ _ _ => exact le_refl _
    | granted _ _ _ _ _ => exact le_refl _
  | stamped hsame => exact .inl (congrArg (toLex ∘ Account.cursor) hsame :).symm.le

/-- The account `k` is bound to the Subscription `s`. -/
def BoundTo (k s : String) (db : Db) : Prop :=
  ∃ a, db.billing.accounts.find? k = some a ∧ a.stripeSubscriptionId = some s

/-- A transaction across which the account stays bound. -/
structure StaysBound (cfg : Config) (k s : String) (db db' : Db) : Prop where
  commits : Commits cfg db db'
  before : BoundTo k s db
  after : BoundTo k s db'

/-- **While an account stays bound** to one Subscription its cursor never decreases. -/
theorem cursor_le_of_staysBound {k s : String} {db db' : Db}
    (h : Relation.ReflTransGen (StaysBound cfg k s) db db')
    (ha : db.billing.accounts.find? k = some a) (ha' : db'.billing.accounts.find? k = some a') :
    toLex a.cursor ≤ toLex a'.cursor := by
  induction h generalizing a' with
  | refl => exact (congrArg (toLex ∘ Account.cursor) (Option.some.inj (ha.symm.trans ha'))).le
  | tail _ hstep ih =>
    obtain ⟨c, hc, hbound⟩ := hstep.before
    refine (ih hc).trans ?_
    rcases hstep.commits.cursor_le hc ha' with hle | ⟨_, _, _, -, hrewinds⟩
    · exact hle
    · -- a rewind needs an account without a Subscription
      exact absurd (hbound.symm.trans hrewinds.unbound) nofun

/-! ## Ended Subscriptions -/

/-- The account has neither a Subscription nor an active status. -/
def Inactive (k : String) (db : Db) : Prop :=
  ∃ a, db.billing.accounts.find? k = some a ∧ a.stripeSubscriptionId = none ∧
    a.subscriptionStatus ≠ .active

/-- A live claim of the account `k` matches the Event. -/
def Claims (cfg : Config) (k : String) (db : Db) (e : Event) : Prop :=
  ∃ a, db.billing.accounts.find? k = some a ∧ LiveClaim cfg db.billing e a

/-- The Event neither has a claim of the account nor replays a foreign Invoice to it. What it
    replays to another account is free. -/
def Unclaimed (cfg : Config) (k : String) (tx : Tx) (db : Db) (e : Event) : Prop :=
  ¬Claims cfg k db e ∧ ¬(reachesHandler cfg tx db e = true ∧ ReplaysForeignTo cfg k db.billing e)

/-- Without a claim, a projection leaves an account without a Subscription as inactive as it
    was. -/
theorem Projected.inactive (hb : Bindings b) (hrow : a ∈ b.accounts.rows)
    (hforeign : ¬ReplaysForeignTo cfg a.id b e) (hclaim : ¬LiveClaim cfg b e a)
    (hnone : a.stripeSubscriptionId = none) (h : Projected cfg tx b e a a') :
    a'.stripeSubscriptionId = none ∧ a'.subscriptionStatus = a.subscriptionStatus := by
  have hisolated := (h.isolated hb hrow hforeign).2
  cases hnames : e.kind.namesSubscription with
  | true =>
    have hsame := (hisolated hnames hnone).resolve_right hclaim
    exact ⟨(congrArg Account.stripeSubscriptionId hsame :).trans hnone,
      (congrArg Account.subscriptionStatus hsame :)⟩
  | false =>
    cases h with
    | customer _ => exact ⟨hnone, rfl⟩
    | marked _ _ => exact ⟨hnone, rfl⟩
    | @clawed c leaf balance _ _ _ =>
      change (c.after tx leaf).stripeSubscriptionId = none ∧
        (c.after tx leaf).subscriptionStatus = c.account.subscriptionStatus
      rw [← hnone]
      unfold ClawbackTarget.after
      split <;> cases leaf <;> exact ⟨rfl, rfl⟩
    | replayed hkind _ _ _ _ _ _ | period hkind _ _ _ _ _ _ | delta hkind _ _ _
    | renewal hkind _ _ _ | updated hkind _ _ | deleted hkind _ | completed hkind _ =>
      rw [hkind] at hnames
      cases hnames

/-- One allowed transaction keeps an account inactive. -/
theorem Inactive.step {k : String} {db db' : Db} (hdb : Reachable cfg db)
    (h : Inactive k db) (hstep : Steps cfg (Unclaimed cfg k) db db') : Inactive k db' := by
  obtain ⟨a, ha, hnone, hstatus⟩ := h
  -- an account without a Subscription and not active stays so under each allowed transaction
  obtain ⟨a', ha'⟩ := hstep.commits.account_isSome ha
  suffices hsame : a'.stripeSubscriptionId = none ∧ a'.subscriptionStatus = a.subscriptionStatus by
    exact ⟨a', ha', hsame.1, hsame.2 ▸ hstatus⟩
  have hcolumns : a'.stripeSubscriptionId = a.stripeSubscriptionId ∧
      a'.subscriptionStatus = a.subscriptionStatus →
      a'.stripeSubscriptionId = none ∧ a'.subscriptionStatus = a.subscriptionStatus :=
    fun hsame => ⟨hsame.1.trans hnone, hsame.2⟩
  -- an Event is not a live claim or a foreign replay for `k`; anything else keeps both columns
  cases hstep with
  | @event tx _ _ e result hrun hallowed =>
    obtain ⟨hclaim, hforeign⟩ := hallowed
    rcases process_account hrun ha ha' with hsame | ⟨hreaches, hprojected⟩
    · exact hcolumns ⟨(congrArg Account.stripeSubscriptionId hsame :),
        (congrArg Account.subscriptionStatus hsame :)⟩
    -- a projection can bind or activate the unbound account in those two ways only
    · obtain rfl : a.id = k := Table.find?_key ha
      exact hprojected.inactive hdb.bindings (Table.find?_mem ha)
        (fun hreplays => hforeign ⟨hreaches, hreplays⟩) (fun hlive => hclaim ⟨a, ha, hlive⟩) hnone
  | other hcommit hinbox =>
    -- a transaction that leaves the inbox alone is no processed Event
    cases hcommit.account ha ha' with
    | projected hrun hreaches _ => exact absurd hinbox (process_inbox hrun hreaches)
    | credits hsame =>
      exact hcolumns ⟨(congrArg Account.stripeSubscriptionId hsame :),
        (congrArg Account.subscriptionStatus hsame :)⟩
    | annual hannual =>
      cases hannual with
      | closed _ _ _ => exact hcolumns ⟨rfl, rfl⟩
      | granted _ _ _ _ _ => exact hcolumns ⟨rfl, rfl⟩
    | stamped hsame =>
      exact hcolumns ⟨(congrArg Account.stripeSubscriptionId hsame :),
        (congrArg Account.subscriptionStatus hsame :)⟩

theorem Inactive.runs {k : String} {db db' : Db} (hdb : Reachable cfg db) (h : Inactive k db)
    (hruns : Runs cfg (Unclaimed cfg k) db db') : Inactive k db' := by
  induction hruns with
  | refl => exact h
  | tail hruns hstep ih => exact ih.step (Runs.reachable hruns hdb) hstep

/-- The Event is an accepted deletion of the Subscription of the account `k`. -/
structure AcceptedDeletion (cfg : Config) (tx : Tx) (k : String) (db : Db) (e : Event) : Prop where
  reaches : reachesHandler cfg tx db e = true
  kind : e.kind = .customerSubscriptionDeleted
  accepted : ∃ a, deletionGuards cfg db.billing e = .ok a ∧ a.id = k

/-- An accepted deletion leaves the account inactive. -/
theorem AcceptedDeletion.inactive {k : String} {db db' : Db} {result : ProcessResult}
    (h : AcceptedDeletion cfg tx k db e) (hrun : process cfg tx db e = .ok (db', result)) :
    Inactive k db' := by
  obtain ⟨a, hguards, hid⟩ := h.accepted
  have hrow := Table.find?_of_mem (lockAccount_mem (deletionGuards_eq_ok hguards).1)
  rcases process_cases hrun with ⟨hstops, -⟩ | ⟨-, effect, hdispatch, hb⟩
  · exact absurd (h.reaches.symm.trans hstops) Bool.noConfusion
  · simp only [dispatch, h.kind, subscriptionDeleted, hguards, Guarded.andThen] at hdispatch
    obtain ⟨accounts, hupdate, haccounts⟩ := applyDeletion_eq_ok hdispatch
    have hfind := Table.find?_update_self hupdate fun _ => rfl
    rw [← hid]
    refine ⟨projectDeletion e a a, ?_, rfl, by simp [projectDeletion]⟩
    rw [hb, haccounts, hfind, show db.billing.accounts.find? a.id = some a from hrow]
    rfl

/-! ## The laws -/

/-- What holds of the cursor and the status over whole runs. -/
structure CursorLaws (cfg : Config) : Prop where
  /-- While an account stays bound to one Subscription its cursor never decreases. -/
  monotone : ∀ {k s : String} {db db' : Db} {a a' : Account},
    Relation.ReflTransGen (StaysBound cfg k s) db db' →
    db.billing.accounts.find? k = some a → db'.billing.accounts.find? k = some a' →
    toLex a.cursor ≤ toLex a'.cursor
  /-- An ordinary update, failure or deletion changes the status only from above. -/
  ordinary : ∀ {tx : Tx} {k : String} {db db' : Db} {e : Event} {result : ProcessResult}
    {a a' : Account}, process cfg tx db e = .ok (db', result) →
    e.remoteVerified = false → e.kind.projectsStatus = true →
    db.billing.accounts.find? k = some a → db'.billing.accounts.find? k = some a' →
    a'.subscriptionStatus ≠ a.subscriptionStatus → toLex a.cursor < toLex e.order
  /-- After an accepted deletion, nothing without a live claim makes the account active. -/
  ended : ∀ {tx : Tx} {k : String} {db db₁ db₂ : Db} {e : Event} {result : ProcessResult}
    {a : Account}, Reachable cfg db → AcceptedDeletion cfg tx k db e →
    process cfg tx db e = .ok (db₁, result) → Runs cfg (Unclaimed cfg k) db₁ db₂ →
    db₂.billing.accounts.find? k = some a → a.subscriptionStatus ≠ .active
  /-- The cursor only goes back where a completed Checkout binds an unbound account. -/
  rewind : ∀ {k : String} {db db' : Db} {a a' : Account}, Commits cfg db db' →
    db.billing.accounts.find? k = some a → db'.billing.accounts.find? k = some a' →
    toLex a'.cursor < toLex a.cursor →
    ∃ tx e result, process cfg tx db e = .ok (db', result) ∧ Rewinds e a a'

/-- **The cursor and the status** over every run. The cursor of a bound account never decreases, an
    ordinary Event changes the status only from above it, and it goes back only where a completed
    Checkout binds an unbound account. A deletion leaves the account inactive for as long as it has
    no live claim and no foreign replay. -/
theorem cursor_laws : CursorLaws cfg where
  monotone h ha ha' := cursor_le_of_staysBound h ha ha'
  ordinary h he hkind ha ha' hchanged := by
    rcases process_account h ha ha' with hsame | ⟨-, hprojected⟩
    · exact absurd (congrArg Account.subscriptionStatus hsame :) hchanged
    · exact hprojected.ordinary_status he hkind hchanged
  ended hdb hdeleted hrun hruns ha := by
    obtain ⟨a', ha', -, hstatus⟩ :=
      (hdeleted.inactive hrun).runs (hdb.tail (.event hrun)) hruns
    rw [Option.some.inj (ha.symm.trans ha')]
    exact hstatus
  rewind h ha ha' hlt := (h.cursor_le ha ha').resolve_left (not_le_of_gt hlt)

/-! ## The replay of an ended Subscription -/

/-- The renewal of `sub_1` is refunded before its payment arrives, so that the payment is
    blocked and leaves the cursor to the first one. -/
def blockedRenewal : Event :=
  paidPeriod "evt_renewal" "in_2" "subscription_cycle" 400 proPlan .month 2592000 5184000

/-- `sub_1` is paid, and the payment of its refunded renewal is blocked. -/
def blockedRun (tx : Tx) : Transaction Db :=
  processAll referenceConfig tx (checkoutDb "pro" .month)
    [paidFirst, refundedCharge "evt_renewal_refund" "in_2" 250 4900 4900, blockedRenewal]

/-- The Subscription is deleted after its first payment, and before the blocked one. -/
def endedSubscription : Event := deletedSubscription "evt_deleted" "sub_1" 300

/-- The deletion of `sub_1` is accepted, and leaves no claim behind. -/
theorem blockedRun_ends : ∃ (db db₁ : Db) (result : ProcessResult),
    blockedRun (referenceTx 0) = .ok db ∧
    process referenceConfig (referenceTx 0) db endedSubscription = .ok (db₁, result) ∧
    Reachable referenceConfig db ∧
    AcceptedDeletion referenceConfig (referenceTx 0) referenceAccountId db endedSubscription ∧
    db₁.billing.claims.rows = [] := by
  have hok : (blockedRun (referenceTx 0) >>= fun db =>
      (process referenceConfig (referenceTx 0) db endedSubscription).map fun x =>
        (reachesHandler referenceConfig (referenceTx 0) db endedSubscription,
          (deletionGuards referenceConfig db.billing endedSubscription).toOption.map Account.id,
          x.1.billing.claims.rows.length)) = .ok (true, some referenceAccountId, 0) := by
    decide +kernel
  simp only [bind_eq_ok, map_eq_ok, Prod.mk.injEq, Option.map_eq_some_iff] at hok
  obtain ⟨db, hrun, ⟨db₁, result⟩, hprocess, hreaches, ⟨account, haccount, hid⟩, hclaims⟩ := hok
  refine ⟨db, db₁, result, hrun, hprocess, (checkoutDb_reachable _ _).processAll hrun, ?_,
    List.length_eq_zero_iff.1 hclaims⟩
  exact ⟨hreaches, rfl, account, toOption_eq_some.1 haccount, hid⟩

/-- Without claims, no Event has a claim of an account. -/
theorem not_claims {k : String} {db : Db} {e : Event} (h : db.billing.claims.rows = []) :
    ¬Claims cfg k db e := by
  rintro ⟨_, -, claim, hfind, -⟩
  exact absurd (Table.find?_mem hfind) (h ▸ List.not_mem_nil)

/-- **An ended Subscription stays ended** through a late update of it. -/
theorem late_update_stays_ended : ∃ (db db₁ db₂ : Db) (result : ProcessResult) (a : Account),
    process referenceConfig (referenceTx 0) db endedSubscription = .ok (db₁, result) ∧
    Runs referenceConfig (Unclaimed referenceConfig referenceAccountId) db₁ db₂ ∧
    db₁.inbox.rows.length < db₂.inbox.rows.length ∧
    db₂.billing.accounts.find? referenceAccountId = some a ∧
    a.subscriptionStatus ≠ .active := by
  let late := updatedSubscription "evt_late" "sub_1" 500 proPlan .month false 2592000
  obtain ⟨db, db₁, result, hrun, hprocess, hreach, hdeleted, hclaims⟩ := blockedRun_ends
  have hlate : ((blockedRun (referenceTx 0) >>= fun db =>
      process referenceConfig (referenceTx 0) db endedSubscription) >>= fun x =>
        (process referenceConfig (referenceTx 1) x.1 late).map fun y =>
          (decide (x.1.inbox.rows.length < y.1.inbox.rows.length),
            (y.1.billing.accounts.find? referenceAccountId).isSome)) = .ok (true, true) := by
    decide +kernel
  simp only [map_eq_ok, bind_eq_ok, Prod.mk.injEq, decide_eq_true_eq] at hlate
  obtain ⟨⟨_, _⟩, ⟨_, hrun', hprocess'⟩, ⟨db₂, _⟩, hupdate, hinbox, hsome⟩ := hlate
  cases hrun.symm.trans hrun'
  cases hprocess.symm.trans hprocess'
  obtain ⟨a, ha⟩ := Option.isSome_iff_exists.1 hsome
  -- an update replays no Invoice, and the deletion has removed the claim
  have hlater : Runs referenceConfig (Unclaimed referenceConfig referenceAccountId) db₁ db₂ := by
    refine .single (.event hupdate ⟨not_claims hclaims, ?_⟩)
    rintro ⟨-, ⟨hkind, -⟩, -⟩
    cases hkind
  exact ⟨db, db₁, db₂, result, a, hprocess, hlater, hinbox, ha,
    cursor_laws.ended hreach hdeleted hprocess hlater ha⟩

/-- **An ended Subscription is active again** once its blocked renewal is delivered again, with
    no claim left and no Session completed. -/
theorem ended_subscription_reactivates :
    ¬ ∀ (tx : Tx) (k : String) (db db₁ db₂ : Db) (e : Event) (result : ProcessResult) (a : Account),
      Reachable referenceConfig db → AcceptedDeletion referenceConfig tx k db e →
      process referenceConfig tx db e = .ok (db₁, result) →
      Runs referenceConfig (fun _ db e => ¬Claims referenceConfig k db e) db₁ db₂ →
      db₂.billing.accounts.find? k = some a → a.subscriptionStatus ≠ .active := by
  intro hclaim
  let again := blockedRenewal.redelivered (.str "evt_again")
  obtain ⟨db, db₁, result, hrun, hprocess, hreach, hdeleted, hclaims⟩ := blockedRun_ends
  have hagain : ((blockedRun (referenceTx 0) >>= fun db =>
      process referenceConfig (referenceTx 0) db endedSubscription) >>= fun x =>
        (process referenceConfig (referenceTx 0) x.1 again).map fun y =>
          (y.1.billing.accounts.find? referenceAccountId).map Account.subscriptionStatus) =
      .ok (some .active) := by decide +kernel
  simp only [map_eq_ok, bind_eq_ok, Option.map_eq_some_iff] at hagain
  obtain ⟨⟨_, _⟩, ⟨_, hrun', hprocess'⟩, ⟨db₂, _⟩, hreplay, a, ha, hstatus⟩ := hagain
  cases hrun.symm.trans hrun'
  cases hprocess.symm.trans hprocess'
  exact hclaim (referenceTx 0) referenceAccountId db db₁ db₂ endedSubscription result a hreach
    hdeleted hprocess (.single (.event hreplay (not_claims hclaims))) ha hstatus

end StripeEntitlements
