import StripeEntitlements.Ordering.Cursor
import StripeEntitlements.Relational.Register

/-!
# Subscription Facts Under Reordering

One cursor orders three types of Event that show different facts: an update shows the status
and the cancellation, a failed renewal and a paid Invoice only the status. The account is a
register stamped with its cursor, and every accepted delivery is one write to it. The
status converges; the cancellation is that of the last update that was above everything
delivered before it.

## Main results

- `Delivers.view` — one accepted delivery is one write
- `Deliveries.view` — a run of deliveries is a sequence of writes
- `facts_laws` — what the final status and cancellation are
- `cancellation_lost` — a later failure delivered first drops a cancellation
-/

namespace StripeEntitlements

open Relational

variable {cfg : Config} {tx : Tx} {b : Billing} {e : Event} {effect : Effect} {k s : String}
  {db db' : Db} {a a' : Account}

/-! ## What an Event shows -/

/-- Whether and when the Subscription ends at its period end. -/
structure Cancellation where
  cancelAtPeriodEnd : Bool
  pendingFreeAt : Option Int
  deriving DecidableEq

/-- The projected Subscription facts. -/
structure SubscriptionView where
  status : SubscriptionStatus
  cancellation : Cancellation

def Account.cancellation (a : Account) : Cancellation where
  cancelAtPeriodEnd := a.cancelAtPeriodEnd
  pendingFreeAt := a.pendingFreeAt

/-- The facts of the account under its cursor. -/
def Account.view (a : Account) : Register (ℕ ×ₗ ℕ) SubscriptionView where
  stamp := toLex a.cursor
  value := { status := a.subscriptionStatus, cancellation := a.cancellation }

/-- The order of the Event as a stamp. -/
def Event.stamp (e : Event) : ℕ ×ₗ ℕ := toLex e.order

/-- The status an accepted Event shows. -/
def Event.status (e : Event) : SubscriptionStatus :=
  match e.kind with
  | .customerSubscriptionUpdated =>
      ((e.object.get "status").asStr.bind projectStatus).getD .none
  | .invoicePaymentFailed => .pastDue
  | _ => .active

/-- The cancellation an accepted update shows. -/
def Event.cancellation (e : Event) : Cancellation :=
  let cancels := (e.object.get "cancel_at_period_end").asBool = some true
  { cancelAtPeriodEnd := cancels
    pendingFreeAt := if cancels then (subscriptionPeriodEnd e.object).toOption.join else none }

/-- The write of an accepted Event. Only an update carries the cancellation. -/
def Event.shows (e : Event) : (ℕ ×ₗ ℕ) × (SubscriptionView → SubscriptionView) :=
  (e.stamp, fun v =>
    { status := e.status
      cancellation :=
        if e.kind = .customerSubscriptionUpdated then e.cancellation else v.cancellation })

/-! ## Accepted deliveries -/

/-- The Event passes the guards of its handler for the Subscription `s` of the account `k`:
    an update or a failed renewal whatever the cursor, a paid Invoice that is granted or
    replayed. -/
inductive AcceptedDelivery (cfg : Config) (b : Billing) (k s : String) (e : Event) : Prop
  | updated {f : SubscriptionFacts} (hkind : e.kind = .customerSubscriptionUpdated)
      (hf : subscriptionGuards cfg b e = .ok f) (haccount : f.account.id = k)
      (hsubscription : f.subscriptionId = s)
  | failed {f : FailedInvoice} (hkind : e.kind = .invoicePaymentFailed)
      (hf : failedInvoiceGuards cfg b e = .ok f) (hreason : f.billingReason ≠ .subscriptionUpdate)
      (haccount : f.account.id = k) (hsubscription : f.subscriptionId = s)
  | replayed {p : PaidInvoice} {t : PeriodTerms} {existing : LedgerRow}
      (hkind : e.kind = .invoicePaid) (hp : paidInvoiceGuards cfg b e = .ok p)
      (haccount : p.account.id = k) (hsubscription : p.subscriptionId = some s)
      (hintent : proratedTransition b p = none) (ht : periodTerms cfg p = .ok t)
      (hslot : firstSlotGrant b p.invoiceId = some existing)
      (howner : existing.accountId = p.account.id)
  | period {p : PaidInvoice} {t : PeriodTerms} {transition : Option PlanChange}
      (hkind : e.kind = .invoicePaid) (hp : paidInvoiceGuards cfg b e = .ok p)
      (haccount : p.account.id = k) (hsubscription : p.subscriptionId = some s)
      (hintent : proratedTransition b p = none) (ht : periodTerms cfg p = .ok t)
      (hslot : firstSlotGrant b p.invoiceId = none)
      (hguards : periodGuards b e p t = .ok transition)
      (hopen : (periodSlots p t (recordedInvoice b (p.periodFacts t))).blocked = false)
  | delta {p : PaidInvoice} {transition : PlanChange} {f : DeltaFunding}
      (hkind : e.kind = .invoicePaid) (hp : paidInvoiceGuards cfg b e = .ok p)
      (haccount : p.account.id = k) (hsubscription : p.subscriptionId = some s)
      (hintent : proratedTransition b p = some transition)
      (hguards : deltaGuards cfg b p transition = .ok f)
      (hfree : fundingOfInvoice b p.invoiceId = none)
      (hopen : (recordedInvoice b (p.deltaFacts f)).closed = false)

/-- An ordinary Event is processed and accepted. -/
structure Delivers (cfg : Config) (k s : String) (e : Event) (db db' : Db) : Prop where
  ordinary : e.remoteVerified = false
  accepted : AcceptedDelivery cfg db.billing k s e
  processed : ∃ tx result, reachesHandler cfg tx db e = true ∧
    process cfg tx db e = .ok (db', result)

/-- Accepted Events delivered one after another. -/
inductive Deliveries (cfg : Config) (k s : String) : List Event → Db → Db → Prop
  | nil (db : Db) : Deliveries cfg k s [] db db
  | cons {e : Event} {rest : List Event} {db db₁ db' : Db} (h : Delivers cfg k s e db db₁)
      (hrest : Deliveries cfg k s rest db₁ db') : Deliveries cfg k s (e :: rest) db db'

/-! ## One delivery is one write -/

theorem wins_iff (he : e.remoteVerified = false) :
    wins a e = true ↔ a.view.stamp < e.shows.1 := by
  rw [wins, if_neg (by rw [he]; exact Bool.false_ne_true)]
  exact cursorLt_iff

theorem projectionOrder_of_wins (he : e.remoteVerified = false) (h : wins a e = true) :
    projectionOrder a e = e.order :=
  if_pos (cursorLt_iff.2 ((wins_iff he).1 h))

/-- A write that wins replaces the facts; one that loses keeps the account. -/
theorem view_of_wins (he : e.remoteVerified = false)
    (hwon : wins a e = true → a'.cursor = e.order ∧ a'.view.value = e.shows.2 a.view.value)
    (hlost : wins a e = false → a'.view = a.view) : a'.view = a.view.write e.shows := by
  cases hwins : wins a e with
  | true =>
    obtain ⟨hcursor, hvalue⟩ := hwon hwins
    rw [Register.write_of_lt ((wins_iff he).1 hwins)]
    exact Register.ext (congrArg toLex hcursor) hvalue
  | false =>
    rw [hlost hwins, Register.write_of_le]
    rw [← not_lt]
    intro hlt
    exact absurd ((wins_iff he).2 hlt) (by rw [hwins]; exact Bool.false_ne_true)

theorem subscriptionGuards_shows {f : SubscriptionFacts} (hkind : e.kind = .customerSubscriptionUpdated)
    (h : subscriptionGuards cfg b e = .ok f) :
    f.status = e.status ∧ Cancellation.mk f.cancelAtPeriodEnd
      (if f.cancelAtPeriodEnd then some f.periodEnd else none) = e.cancellation := by
  simp only [subscriptionGuards, bind_eq_ok, fetch_eq_ok, require_eq_ok, pure_eq_ok,
    Guarded.lift_eq_ok] at h
  obtain ⟨account, -, _, -, periodEnd?, hperiod, status, hstatus, cancels, hcancels, periodEnd,
    hend, _, -, _, -, _, -, _, -, rfl⟩ := h
  refine ⟨?_, ?_⟩
  · rw [Event.status, hkind]
    simp [hstatus]
  · simp only [Event.cancellation, hcancels, hperiod, hend, Except.toOption]
    cases cancels <;> rfl

/-- A posting determines the row afterwards. -/
theorem Posting.row_after {t t' : Table Account} {l l' : Table LedgerRow} {x x' : Account}
    (h : Posting x x' t t' l l') (hk : x.id = k) (ha : t.find? k = some a)
    (ha' : t'.find? k = some a') : a = x ∧ a' = x' := by
  subst hk
  exact ⟨Option.some.inj (ha.symm.trans h.before), Option.some.inj (ha'.symm.trans h.after)⟩

/-- A whole period or an upgrade writes the paid status. -/
theorem view_of_paid {x x' : Account} (he : e.remoteVerified = false) (hkind : e.kind = .invoicePaid)
    (hcursor : x'.cursor = if wins x e then projectionOrder x e else x.cursor)
    (hstatus : x'.subscriptionStatus = if wins x e then .active else x.subscriptionStatus)
    (hcancel : x'.cancellation = x.cancellation) : x'.view = x.view.write e.shows := by
  apply view_of_wins he
  · intro hwins
    rw [if_pos hwins] at hcursor hstatus
    refine ⟨hcursor.trans (projectionOrder_of_wins he hwins), ?_⟩
    simp [Account.view, Event.shows, Event.status, hkind, hstatus, hcancel]
  · intro hloses
    rw [hloses] at hcursor hstatus
    exact Register.ext (congrArg toLex hcursor) (by simp [Account.view, hstatus, hcancel])

theorem invoicePaid_view (he : e.remoteVerified = false) (hkind : e.kind = .invoicePaid)
    (haccepted : AcceptedDelivery cfg b k s e) (h : invoicePaid cfg tx b e = .ok effect)
    (ha : b.accounts.find? k = some a) (ha' : effect.billing.accounts.find? k = some a') :
    a'.view = a.view.write e.shows := by
  -- only the paid deliveries apply; each writes the status and stamps the order
  cases haccepted with
  | updated hother _ _ _ | failed hother _ _ _ _ =>
    rw [hkind] at hother
    cases hother
  -- a replayed delivery writes exactly when it wins
  | @replayed p t existing _ hp haccount _ hintent ht hslot howner =>
    simp only [invoicePaid_eq hp, hintent, invoicePaidPeriod, ht, Guarded.andThen, hslot] at h
    rcases replayPeriod_posts (paidInvoiceGuards_row hp) h with
      ⟨hloses, hquiet⟩ | ⟨-, hwins, hposted⟩
    -- it loses, so the register keeps what it has
    · have hloses : wins p.account e = false := by simpa [howner] using hloses
      have hsame : p.account = a := by
        have hrow := paidInvoiceGuards_row hp
        rw [haccount, ha] at hrow
        exact (Option.some.inj hrow).symm
      rw [hquiet.accounts, ha] at ha'
      cases ha'
      rw [← hsame]
      exact view_of_wins he (fun hwins => absurd (hwins.symm.trans hloses) Bool.noConfusion)
        fun _ => rfl
    · obtain ⟨rfl, rfl⟩ := hposted.row_after haccount ha ha'
      exact view_of_paid he hkind (by rw [if_pos hwins]; rfl) (by rw [if_pos hwins]; rfl) rfl
  -- an accepted period is open, so it is posted
  | @period p t transition _ hp haccount _ hintent ht hslot hguards hopen =>
    simp only [invoicePaid_eq hp, hintent, invoicePaidPeriod, ht, hslot, hguards,
      Guarded.andThen] at h
    rcases applyPeriod_posts (paidInvoiceGuards_row hp) h with ⟨hblocked, -⟩ | ⟨-, _, hposted⟩
    · exact absurd (hblocked.symm.trans hopen) Bool.noConfusion
    · obtain ⟨rfl, rfl⟩ := hposted.row_after haccount ha ha'
      exact view_of_paid he hkind rfl rfl rfl
  -- an accepted delta is open and has no allocation yet
  | @delta p transition f _ hp haccount _ hintent hguards hfree hopen =>
    simp only [invoicePaid_eq hp, hintent, invoicePaidProratedDelta, hguards,
      Guarded.andThen] at h
    rcases applyDelta_posts (paidInvoiceGuards_row hp) h with
      ⟨hstopped, -⟩ | ⟨-, _, _, hposted⟩
    · rw [hfree, hopen] at hstopped
      exact absurd hstopped (by simp)
    · obtain ⟨rfl, rfl⟩ := hposted.row_after haccount ha ha'
      exact view_of_paid he hkind rfl rfl rfl

/-- A handler that wrote nothing kept the facts. -/
theorem view_of_unposted (he : e.remoteVerified = false) {x : Account}
    (hrow : b.accounts.find? x.id = some x) (hk : x.id = k) (hloses : wins x e = false)
    (haccounts : effect.billing.accounts = b.accounts) (ha : b.accounts.find? k = some a)
    (ha' : effect.billing.accounts.find? k = some a') : a'.view = a.view.write e.shows := by
  subst hk
  cases ha.symm.trans hrow
  rw [haccounts] at ha'
  cases ha.symm.trans ha'
  exact view_of_wins he (fun hwins => absurd (hwins.symm.trans hloses) Bool.noConfusion)
    fun _ => rfl

theorem subscriptionUpdated_view (he : e.remoteVerified = false)
    (hkind : e.kind = .customerSubscriptionUpdated) (haccepted : AcceptedDelivery cfg b k s e)
    (h : subscriptionUpdated cfg b e = .ok effect) (ha : b.accounts.find? k = some a)
    (ha' : effect.billing.accounts.find? k = some a') : a'.view = a.view.write e.shows := by
  -- a Subscription update is accepted in one way only
  cases haccepted with
  | failed hother _ _ _ _ | replayed hother _ _ _ _ _ _ _ | period hother _ _ _ _ _ _ _ _
  | delta hother _ _ _ _ _ _ _ =>
    rw [hkind] at hother
    cases hother
  | @updated f _ hf haccount _ =>
    have hrow := Table.find?_of_mem (lockAccount_mem (subscriptionGuards_eq_ok hf).1)
    obtain ⟨hstatus, hcancel⟩ := subscriptionGuards_shows hkind hf
    simp only [subscriptionUpdated, hf, Guarded.andThen, applySubscription] at h
    -- a losing update writes nothing, and the register loses too
    split at h
    case isTrue hloses =>
      rw [pure_eq_ok] at h
      exact view_of_unposted he hrow haccount (by simpa using hloses) (h ▸ rfl) ha ha'
    case isFalse hwins =>
      simp only [bind_eq_ok, Billing.update_eq_ok, pure_eq_ok, Stored.table, Stored.install] at h
      obtain ⟨_, ⟨accounts, haccounts, rfl⟩, rfl⟩ := h
      have hposted : Posts f.account (f.project e f.account) b { b with accounts := accounts } :=
        Posting.update (f := f.project e) hrow haccounts (fun _ => rfl) (.refl _ _ _)
      -- consuming the claim leaves the accounts table as it is
      have hfind : accounts.find? k = some a' := by
        rw [← ha']
        unfold consumeClaim
        split <;> rfl
      obtain ⟨rfl, rfl⟩ := hposted.row_after haccount ha hfind
      -- the update wins, so status and cancellation are the Subscription's own
      refine view_of_wins he (fun hwins => ⟨projectionOrder_of_wins he hwins, ?_⟩) fun hloses =>
        absurd (by simpa using hwins) (hloses ▸ Bool.false_ne_true)
      simp only [Account.view, Event.shows, hkind, if_true, ← hstatus, ← hcancel]
      rfl

theorem paymentFailed_view (he : e.remoteVerified = false)
    (hkind : e.kind = .invoicePaymentFailed) (haccepted : AcceptedDelivery cfg b k s e)
    (h : paymentFailed cfg b e = .ok effect) (ha : b.accounts.find? k = some a)
    (ha' : effect.billing.accounts.find? k = some a') : a'.view = a.view.write e.shows := by
  cases haccepted with
  | updated hother _ _ _ | replayed hother _ _ _ _ _ _ _ | period hother _ _ _ _ _ _ _ _
  | delta hother _ _ _ _ _ _ _ =>
    rw [hkind] at hother
    cases hother
  | @failed f _ hf hreason haccount _ =>
    have hrow := Table.find?_of_mem (lockAccount_mem (failedInvoiceGuards_eq_ok hf).1)
    simp only [paymentFailed, hf, Guarded.andThen, if_neg hreason] at h
    rcases failRenewal_eq_ok h with ⟨hloses, hb⟩ | ⟨hwins, accounts, haccounts, hb⟩
    · exact view_of_unposted he hrow haccount hloses (hb ▸ rfl) ha ha'
    · have hposted : Posts f.account (f.project e f.account) b { b with accounts := accounts } :=
        Posting.update (f := f.project e) hrow haccounts (fun _ => rfl) (.refl _ _ _)
      rw [hb] at ha'
      obtain ⟨rfl, rfl⟩ := hposted.row_after haccount ha ha'
      refine view_of_wins he (fun hwins => ⟨projectionOrder_of_wins he hwins, ?_⟩) fun hloses =>
        absurd (hwins.symm.trans hloses) Bool.noConfusion
      simp [Account.view, Event.shows, Event.status, hkind, FailedInvoice.project,
        Account.cancellation]

/-- **One accepted delivery** is one write to the facts of the account. -/
theorem Delivers.view (h : Delivers cfg k s e db db') (ha : db.billing.accounts.find? k = some a)
    (ha' : db'.billing.accounts.find? k = some a') : a'.view = a.view.write e.shows := by
  obtain ⟨tx, result, hreaches, hrun⟩ := h.processed
  rcases process_cases hrun with ⟨hstops, -⟩ | ⟨-, effect, hdispatch, hb⟩
  · exact absurd (hreaches.symm.trans hstops) Bool.noConfusion
  rw [hb] at ha'
  cases hkind : e.kind with
  | customerSubscriptionUpdated =>
    simp only [dispatch, hkind] at hdispatch
    exact subscriptionUpdated_view h.ordinary hkind h.accepted hdispatch ha ha'
  | invoicePaymentFailed =>
    simp only [dispatch, hkind] at hdispatch
    exact paymentFailed_view h.ordinary hkind h.accepted hdispatch ha ha'
  | invoicePaid =>
    simp only [dispatch, hkind] at hdispatch
    exact invoicePaid_view h.ordinary hkind h.accepted hdispatch ha ha'
  | _ => cases h.accepted <;> simp_all

/-! ## Runs of deliveries -/

/-- **A run of deliveries** is the sequence of their writes. -/
theorem Deliveries.view {events : List Event} (h : Deliveries cfg k s events db db')
    (ha : db.billing.accounts.find? k = some a) (ha' : db'.billing.accounts.find? k = some a') :
    a'.view = a.view.writes (events.map Event.shows) := by
  induction h generalizing a with
  | nil db =>
    cases ha.symm.trans ha'
    rfl
  | cons hdelivers hrest ih =>
    obtain ⟨tx, result, -, hrun⟩ := hdelivers.processed
    obtain ⟨x, hx⟩ := (Commits.event hrun).account_isSome ha
    rw [List.map_cons, Register.writes_cons, ← hdelivers.view ha hx]
    exact ih hx ha'

/-- The Event is above the cursor of the account and everything delivered before it. -/
def Overtakes (a : Account) (before : List Event) (e : Event) : Prop :=
  toLex a.cursor < e.stamp ∧ ∀ x ∈ before, x.stamp < e.stamp

theorem Overtakes.of_register {before : List Event}
    (h : a.view.Overtakes (before.map Event.shows) e.shows.1) : Overtakes a before e :=
  ⟨h.1, fun x hx => h.2 x.shows (List.mem_map_of_mem hx)⟩

theorem Overtakes.register {before : List Event} (h : Overtakes a before e) :
    a.view.Overtakes (before.map Event.shows) e.shows.1 := by
  refine ⟨h.1, fun w hw => ?_⟩
  obtain ⟨x, hx, rfl⟩ := List.mem_map.1 hw
  exact h.2 x hx

/-- Every accepted Event replaces the status. -/
theorem status_writes (r : Register (ℕ ×ₗ ℕ) SubscriptionView) (events : List Event) :
    (r.writes (events.map Event.shows)).map SubscriptionView.status =
      (r.map SubscriptionView.status).writes
        ((events.map fun e => (e.stamp, e.status)).map fun w => (w.1, fun _ => w.2)) := by
  rw [Register.map_writes (f := fun e _ => e.status) fun _ _ _ => rfl, List.map_map]
  rfl

/-- What the final facts of an account are after accepted deliveries for its Subscription. -/
structure FactsLaws (cfg : Config) : Prop where
  /-- The status and the cursor are the same in every order. -/
  status : ∀ {k s : String} {events events' : List Event} {db db₁ db₂ : Db} {a₁ a₂ : Account},
    BoundTo k s db → events.Perm events' → (events.Pairwise fun e e' => e.order ≠ e'.order) →
    Deliveries cfg k s events db db₁ → Deliveries cfg k s events' db db₂ →
    db₁.billing.accounts.find? k = some a₁ → db₂.billing.accounts.find? k = some a₂ →
    a₁.subscriptionStatus = a₂.subscriptionStatus ∧ a₁.cursor = a₂.cursor
  /-- The cancellation is that of the last update that overtook what came before it. -/
  applied : ∀ {k s : String} {pre post : List Event} {update : Event} {db db' : Db}
    {a a' : Account},
    Deliveries cfg k s (pre ++ update :: post) db db' →
    db.billing.accounts.find? k = some a → db'.billing.accounts.find? k = some a' →
    update.kind = .customerSubscriptionUpdated → Overtakes a pre update →
    (∀ mid later rest, post = mid ++ later :: rest →
      later.kind = .customerSubscriptionUpdated → ¬Overtakes a (pre ++ update :: mid) later) →
    a'.cancellation = update.cancellation
  /-- Without such an update the cancellation is kept. -/
  kept : ∀ {k s : String} {events : List Event} {db db' : Db} {a a' : Account},
    Deliveries cfg k s events db db' →
    db.billing.accounts.find? k = some a → db'.billing.accounts.find? k = some a' →
    (∀ pre update post, events = pre ++ update :: post →
      update.kind = .customerSubscriptionUpdated → ¬Overtakes a pre update) →
    a'.cancellation = a.cancellation

/-- Only an update touches the cancellation. -/
theorem Event.shows_kept (hkind : e.kind ≠ .customerSubscriptionUpdated) (v : SubscriptionView) :
    (e.shows.2 v).cancellation = v.cancellation :=
  if_neg hkind

/-- A split of the writes is a split of the Events. -/
theorem map_shows_eq_append {events : List Event} {pre post : List _}
    {w : (ℕ ×ₗ ℕ) × (SubscriptionView → SubscriptionView)}
    (h : events.map Event.shows = pre ++ w :: post) :
    ∃ before e after, events = before ++ e :: after ∧ pre = before.map Event.shows ∧
      w = e.shows := by
  obtain ⟨before, rest, rfl, rfl, hrest⟩ := List.map_eq_append_iff.1 h
  obtain ⟨e, after, rfl, rfl, -⟩ := List.map_eq_cons_iff.1 hrest
  exact ⟨before, e, after, rfl, rfl, rfl⟩

/-- **The final facts** under every order of delivery. If no two Events have the same stamp, status
    and cursor depend on their set alone. The cancellation is that of the last update that overtook
    what had come before it, and is kept where there is none, so it does depend on the order. -/
theorem facts_laws : FactsLaws cfg where
  status hbound hperm hdistinct h₁ h₂ ha₁ ha₂ := by
    -- the status column alone is a register written at every stamp, so the order does not matter
    obtain ⟨a, ha, -⟩ := hbound
    have hview₁ := congrArg (Register.map SubscriptionView.status) (h₁.view ha ha₁)
    have hview₂ := congrArg (Register.map SubscriptionView.status) (h₂.view ha ha₂)
    -- distinct stamps are what makes the writes commute
    have hconverges := Register.writes_perm
      (hperm.map fun e => (e.stamp, e.status))
      (List.pairwise_map.2 (hdistinct.imp fun hne heq => hne (toLex.injective heq)))
      (a.view.map SubscriptionView.status)
    rw [status_writes] at hview₁ hview₂
    have hsame := hview₁.trans (hconverges.trans hview₂.symm)
    exact ⟨congrArg Register.value hsame, toLex.injective (congrArg Register.stamp hsame)⟩
  -- the cancellation is written by updates only: the last one that overtakes its past is what
  -- stays
  applied h ha ha' hkind hovertakes hlast := by
    have hview := h.view ha ha'
    rw [List.map_append, List.map_cons] at hview
    have hvalue := congrArg (fun r => r.value.cancellation) hview
    refine hvalue.trans (Register.writes_applied (g := SubscriptionView.cancellation)
      hovertakes.register (fun _ => if_pos hkind) fun mid w rest hpost hw x => ?_)
    obtain ⟨between, later, after, rfl, rfl, rfl⟩ := map_shows_eq_append hpost
    -- any later delivery that overtakes would be an update, or leaves the cancellation as it is
    apply Event.shows_kept
    intro hlater
    refine hlast between later after rfl hlater (.of_register ?_)
    rwa [List.map_append, List.map_cons]
  -- no update overtakes what came before it, so none is ever written
  kept h ha ha' hnone := by
    have hvalue := congrArg (fun r => r.value.cancellation) (h.view ha ha')
    refine hvalue.trans (Register.writes_kept (g := SubscriptionView.cancellation)
      fun pre w post hevents hw x => ?_)
    obtain ⟨before, update, after, rfl, rfl, rfl⟩ := map_shows_eq_append hevents
    apply Event.shows_kept
    intro hkind
    exact hnone before update after rfl hkind (.of_register hw)

/-! ## The cancellation depends on the order -/

/-- The customer cancels at the period end, and then a renewal fails. -/
def canceledUpdate : Event :=
  updatedSubscription "evt_update" "sub_1" 300 proPlan .month true 2592000

def laterFailure : Event := failedRenewal "evt_failure" "in_2" "sub_1" 400

/-- Whose update and whose failure it is, where the guards pass. -/
def Db.admits (db : Db) (e : Event) : Option (String × String) :=
  match e.kind with
  | .customerSubscriptionUpdated => (subscriptionGuards referenceConfig db.billing e).toOption.map
      fun f => (f.account.id, f.subscriptionId)
  | .invoicePaymentFailed => ((failedInvoiceGuards referenceConfig db.billing e).toOption.filter
      fun f => f.billingReason ≠ .subscriptionUpdate).map fun f => (f.account.id, f.subscriptionId)
  | _ => none

theorem Db.admits_accepted {db : Db} (h : db.admits e = some (k, s)) :
    AcceptedDelivery referenceConfig db.billing k s e := by
  unfold admits at h
  split at h
  case h_1 hkind =>
    simp only [Option.map_eq_some_iff, toOption_eq_some, Prod.mk.injEq] at h
    obtain ⟨f, hf, haccount, hsubscription⟩ := h
    exact .updated hkind hf haccount hsubscription
  case h_2 hkind =>
    simp only [Option.map_eq_some_iff, Option.filter_eq_some_iff, toOption_eq_some, Prod.mk.injEq,
      decide_eq_true_eq] at h
    obtain ⟨f, ⟨hf, hreason⟩, haccount, hsubscription⟩ := h
    exact .failed hkind hf hreason haccount hsubscription
  case h_3 => cases h

/-- One evaluated delivery. -/
theorem delivers_of_admits {tx : Tx} {db db' : Db} {result : ProcessResult}
    (he : e.remoteVerified = false) (h : db.admits e = some (k, s))
    (hreaches : reachesHandler referenceConfig tx db e = true)
    (hrun : process referenceConfig tx db e = .ok (db', result)) :
    Delivers referenceConfig k s e db db' :=
  ⟨he, db.admits_accepted h, tx, result, hreaches, hrun⟩

/-- Both Events are delivered in the given order, each one admitted. -/
def deliverBoth (tx : Tx) (db : Db) (first second : Event) : Transaction (Db × Bool) := do
  let (db₁, _) ← process referenceConfig tx db first
  let (db₂, _) ← process referenceConfig tx db₁ second
  let admitted (db : Db) (e : Event) : Bool :=
    db.admits e = some (referenceAccountId, "sub_1") && reachesHandler referenceConfig tx db e
  pure (db₂, admitted db first && admitted db₁ second)

theorem deliverBoth_deliveries {tx : Tx} {db db' : Db} {first second : Event}
    (hfirst : first.remoteVerified = false) (hsecond : second.remoteVerified = false)
    (h : deliverBoth tx db first second = .ok (db', true)) :
    Deliveries referenceConfig referenceAccountId "sub_1" [first, second] db db' := by
  simp only [deliverBoth, bind_eq_ok, pure_eq_ok, Prod.mk.injEq, Bool.and_eq_true,
    decide_eq_true_eq] at h
  obtain ⟨⟨db₁, result₁⟩, hrun₁, ⟨db₂, result₂⟩, hrun₂, rfl, ⟨hadmits₁, hreaches₁⟩, hadmits₂,
    hreaches₂⟩ := h
  exact .cons (delivers_of_admits hfirst hadmits₁ hreaches₁ hrun₁)
    (.cons (delivers_of_admits hsecond hadmits₂ hreaches₂ hrun₂) (.nil _))

/-- The customer of `sub_1`, before and after the two Events in one of their orders. -/
structure DeliveredBoth (first second : Event) (cancels : Bool) (db : Db) (a : Account)
    (db' : Db) (a' : Account) : Prop where
  before : db.billing.accounts.find? referenceAccountId = some a
  delivered : Deliveries referenceConfig referenceAccountId "sub_1" [first, second] db db'
  after : db'.billing.accounts.find? referenceAccountId = some a'
  cancellation : a'.cancelAtPeriodEnd = cancels

/-- Both orders go through, from the same paid Subscription. -/
theorem both_orders : ∃ (db db₁ db₂ : Db) (a a₁ a₂ : Account),
    Reachable referenceConfig db ∧ BoundTo referenceAccountId "sub_1" db ∧
    cursorLt a.cursor canceledUpdate.order = true ∧
    DeliveredBoth canceledUpdate laterFailure true db a db₁ a₁ ∧
    DeliveredBoth laterFailure canceledUpdate false db a db₂ a₂ := by
  let paid := processAll referenceConfig (referenceTx 0) (checkoutDb "pro" .month) [paidFirst]
  -- the state after the first payment, then the two orders from it, all evaluated once
  have hpaid : paid.map (fun db => (db.billing.accounts.find? referenceAccountId).map fun a =>
      (a.stripeSubscriptionId, cursorLt a.cursor canceledUpdate.order)) =
        .ok (some (some "sub_1", true)) := by decide +kernel
  have hordered : (paid >>= fun db =>
      deliverBoth (referenceTx 0) db canceledUpdate laterFailure).map (fun x =>
        (x.2, (x.1.billing.accounts.find? referenceAccountId).map Account.cancelAtPeriodEnd)) =
          .ok (true, some true) := by decide +kernel
  have hreordered : (paid >>= fun db =>
      deliverBoth (referenceTx 0) db laterFailure canceledUpdate).map (fun x =>
        (x.2, (x.1.billing.accounts.find? referenceAccountId).map Account.cancelAtPeriodEnd)) =
          .ok (true, some false) := by decide +kernel
  simp only [map_eq_ok, bind_eq_ok, Prod.mk.injEq, Option.map_eq_some_iff] at hpaid hordered
  simp only [map_eq_ok, bind_eq_ok, Prod.mk.injEq, Option.map_eq_some_iff] at hreordered
  obtain ⟨db, hrun, a, ha, hbound, hcursor⟩ := hpaid
  obtain ⟨⟨db₁, _⟩, ⟨_, hrun₁, hdeliver₁⟩, rfl, a₁, ha₁, hcancels⟩ := hordered
  obtain ⟨⟨db₂, _⟩, ⟨_, hrun₂, hdeliver₂⟩, rfl, a₂, ha₂, hkeeps⟩ := hreordered
  -- both orders start from the same database
  cases hrun.symm.trans hrun₁
  cases hrun.symm.trans hrun₂
  refine ⟨db, db₁, db₂, a, a₁, a₂, (checkoutDb_reachable _ _).processAll hrun, ⟨a, ha, hbound⟩,
    hcursor, ?_, ?_⟩
  · exact ⟨ha, deliverBoth_deliveries rfl rfl hdeliver₁, ha₁, hcancels⟩
  · exact ⟨ha, deliverBoth_deliveries rfl rfl hdeliver₂, ha₂, hkeeps⟩

/-- **Both orders end with one status.** The first one keeps the cancellation of the update; in
    the second one the update comes after a later Event, and the account keeps its own. -/
theorem transposed_facts : ∃ (db db₁ db₂ : Db) (a a₁ a₂ : Account),
    DeliveredBoth canceledUpdate laterFailure true db a db₁ a₁ ∧
    DeliveredBoth laterFailure canceledUpdate false db a db₂ a₂ ∧
    (a₁.subscriptionStatus = a₂.subscriptionStatus ∧ a₁.cursor = a₂.cursor) ∧
    a₁.cancellation = canceledUpdate.cancellation ∧ a₂.cancellation = a.cancellation := by
  obtain ⟨db, db₁, db₂, a, a₁, a₂, -, hbound, hcursor, h₁, h₂⟩ := both_orders
  have hstatus := facts_laws.status hbound (.swap _ _ _) (by decide) h₁.delivered h₂.delivered
    h₁.after h₂.after
  refine ⟨db, db₁, db₂, a, a₁, a₂, h₁, h₂, hstatus, ?_, ?_⟩
  · -- the update is above the cursor, and nothing after it is an update
    have hdelivered : Deliveries referenceConfig referenceAccountId "sub_1"
        ([] ++ canceledUpdate :: [laterFailure]) db db₁ := h₁.delivered
    refine facts_laws.applied hdelivered h₁.before h₁.after rfl
      ⟨cursorLt_iff.1 hcursor, fun x hx => absurd hx List.not_mem_nil⟩ ?_
    intro mid later rest hpost hkind
    obtain rfl : laterFailure = later := by
      rcases mid with _ | ⟨x, mid⟩
      · exact (List.cons.inj hpost).1
      · simp at hpost
    cases hkind
  · -- the update is below the failure that is delivered before it
    refine facts_laws.kept h₂.delivered h₂.before h₂.after fun pre update post hevents hkind => ?_
    rcases pre with _ | ⟨x, pre⟩
    · obtain rfl := (List.cons.inj hevents).1
      cases hkind
    · obtain ⟨rfl, hrest⟩ := List.cons.inj hevents
      obtain rfl : canceledUpdate = update := by
        rcases pre with _ | ⟨y, pre⟩
        · exact (List.cons.inj hrest).1
        · simp at hrest
      exact fun hovertakes => absurd (hovertakes.2 laterFailure List.mem_cons_self) (by decide)

/-- **A cancellation is lost** when a later failure is delivered before it. -/
theorem cancellation_lost :
    ¬ ∀ (k s : String) (events events' : List Event) (db db₁ db₂ : Db) (a₁ a₂ : Account),
      Reachable referenceConfig db → BoundTo k s db → events.Perm events' →
      (events.Pairwise fun e e' => e.order ≠ e'.order) →
      Deliveries referenceConfig k s events db db₁ →
      Deliveries referenceConfig k s events' db db₂ →
      db₁.billing.accounts.find? k = some a₁ → db₂.billing.accounts.find? k = some a₂ →
      a₁.cancellation = a₂.cancellation := by
  intro hclaim
  obtain ⟨db, db₁, db₂, a, a₁, a₂, hreach, hbound, -, h₁, h₂⟩ := both_orders
  have hsame := hclaim referenceAccountId "sub_1" [canceledUpdate, laterFailure]
    [laterFailure, canceledUpdate] db db₁ db₂ a₁ a₂ hreach hbound (.swap _ _ _) (by decide)
    h₁.delivered h₂.delivered h₁.after h₂.after
  have hflags := congrArg Cancellation.cancelAtPeriodEnd hsame
  change a₁.cancelAtPeriodEnd = a₂.cancelAtPeriodEnd at hflags
  rw [h₁.cancellation, h₂.cancellation] at hflags
  cases hflags

end StripeEntitlements
