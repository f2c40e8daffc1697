import StripeEntitlements.Identity.Bindings
import StripeEntitlements.Reference

/-!
# Subscription Identity

An Event that names another Subscription than the one its account is bound to must leave the
account alone, and an unbound account changes only through its live Checkout claim. Every
handler compares the identities, at its own place, except for one branch: the replay of an
Invoice whose first slot exists looks at the account of that slot only.

## Main results

- `Isolated` — what one Event may do to accounts bound to another Subscription or to none
- `isolated_iff` — it holds exactly outside the foreign replay
- `ended_invoice_reactivates` — an Invoice of an ended Subscription activates its successor
-/

namespace StripeEntitlements

open Relational

variable {cfg : Config} {tx : Tx} {b b' : Billing} {e : Event} {effect : Effect}

/-! ## Identities -/

/-- The Event types whose object names a Subscription. -/
def EventType.namesSubscription : EventType → Bool
  | .invoicePaid | .invoicePaymentFailed | .customerSubscriptionUpdated
  | .customerSubscriptionDeleted | .checkoutSessionCompleted => true
  | _ => false

/-- The Subscription the object of an Event names. -/
def Event.subscription (u : Unicode) (e : Event) : Option String :=
  match e.kind with
  | .invoicePaid | .invoicePaymentFailed => u.subscriptionId e.object
  | .customerSubscriptionUpdated => some (e.object.get "id").text
  | .customerSubscriptionDeleted => u.asId (e.object.get "id")
  | .checkoutSessionCompleted => u.asId (e.object.get "subscription")
  | _ => none

/-- The Checkout claim token in the metadata of an Event. -/
def Event.claimToken (e : Event) : Json :=
  if e.kind = .invoicePaid then (subscriptionMetadata e.object).get "claim_token"
  else (e.object.get "metadata").get "claim_token"

/-- The catalog plan the object of an Event shows; a Checkout Session shows none. -/
def Event.ShowsPlan (cfg : Config) (b : Billing) (e : Event) (plan : Plan)
    (interval : Interval) : Prop :=
  match e.kind with
  | .customerSubscriptionUpdated => subscriptionPlan cfg e.object = .ok (some (plan, interval))
  | .invoicePaid => ∃ p t, paidInvoiceGuards cfg b e = .ok p ∧ periodTerms cfg p = .ok t ∧
      t.plan = plan ∧ t.interval = interval
  | _ => False

/-- The account has a live Checkout claim that matches the Event: by its token, or by the ID
    of the completed Session; and by the plan, where the Event shows one. -/
def LiveClaim (cfg : Config) (b : Billing) (e : Event) (a : Account) : Prop :=
  ∃ claim, b.claims.find? a.id = some claim ∧
    ((e.claimToken.truthy = true ∧ claim.claimToken = e.claimToken.text) ∨
      (e.kind = .checkoutSessionCompleted ∧ claim.sessionId = some (e.object.get "id").text)) ∧
    (e.kind = .checkoutSessionCompleted ∨ ∃ plan interval, e.ShowsPlan cfg b plan interval ∧
      claim.planKey = plan.key ∧ claim.planInterval = interval)

/-- The account without the customer, which credit packs bind as well. -/
def Account.projection (a : Account) : Account := { a with stripeCustomerId := none }

/-- What one Event may do to an account bound to another Subscription, or to none. -/
structure Isolated (cfg : Config) (b : Billing) (e : Event) (b' : Billing) : Prop where
  foreign : ∀ a ∈ b.accounts.rows, ∀ a' ∈ b'.accounts.rows, a'.id = a.id →
    ∀ bound named, a.stripeSubscriptionId = some bound →
      e.subscription cfg.unicode = some named → named ≠ bound → a'.projection = a.projection
  unbound : e.kind.namesSubscription = true →
    ∀ a ∈ b.accounts.rows, ∀ a' ∈ b'.accounts.rows, a'.id = a.id →
      a.stripeSubscriptionId = none → a'.projection = a.projection ∨ LiveClaim cfg b e a

/-! ## The foreign replay -/

/-- The Invoice is another Subscription's, or nothing authorizes it for an unbound account. -/
def ForeignInvoice (cfg : Config) (b : Billing) (e : Event) (p : PaidInvoice) : Prop :=
  (∃ bound named, p.account.stripeSubscriptionId = some bound ∧
      p.subscriptionId = some named ∧ named ≠ bound) ∨
    (p.account.stripeSubscriptionId = none ∧ ¬LiveClaim cfg b e p.account)

/-- A paid whole-period Invoice finds its first slot taken by the same account, wins the
    ordering cursor and has something to project, but is foreign to the account. -/
def ReplaysForeign (cfg : Config) (b : Billing) (e : Event) : Prop :=
  e.kind = .invoicePaid ∧ ∃ p t existing, paidInvoiceGuards cfg b e = .ok p ∧
    proratedTransition b p = none ∧ periodTerms cfg p = .ok t ∧
    firstSlotGrant b p.invoiceId = some existing ∧ existing.accountId = p.account.id ∧
    wins p.account e = true ∧
    (p.account.subscriptionStatus ≠ .active ∨ cursorLt p.account.cursor e.order = true) ∧
    ForeignInvoice cfg b e p

/-- The foreign replay of an Invoice that is attributed to the account `k`. -/
def ReplaysForeignTo (cfg : Config) (k : String) (b : Billing) (e : Event) : Prop :=
  ReplaysForeign cfg b e ∧ ∃ p, paidInvoiceGuards cfg b e = .ok p ∧ p.account.id = k

theorem Account.repaid_projection {a : Account} :
    (a.repaid e).projection = a.projection ↔
      ¬(a.subscriptionStatus ≠ .active ∨ cursorLt a.cursor e.order = true) := by
  constructor
  · rintro heq (hstatus | hlt)
    · exact hstatus (congrArg Account.subscriptionStatus heq :).symm
    · -- the order of the Event is not the cursor it is after
      have hcursor : (a.repaid e).cursor = a.cursor := (congrArg Account.cursor heq :)
      have horder : (a.repaid e).cursor = e.order := by
        change projectionOrder a e = e.order
        rw [projectionOrder, if_pos hlt]
      rw [← hcursor, horder] at hlt
      simp [cursorLt] at hlt
  · intro hsame
    simp only [ne_eq, not_or, not_not, Bool.not_eq_true] at hsame
    unfold Account.repaid projectionOrder
    rw [hsame.2, ← hsame.1]
    rfl

/-- Outside a foreign replay to the account its projection is isolated. -/
theorem Projected.isolated {a a' : Account} (hb : Bindings b) (hrow : a ∈ b.accounts.rows)
    (hforeign : ¬ReplaysForeignTo cfg a.id b e) (h : Projected cfg tx b e a a') :
    (∀ bound named, a.stripeSubscriptionId = some bound →
      e.subscription cfg.unicode = some named → named ≠ bound → a'.projection = a.projection) ∧
    (e.kind.namesSubscription = true → a.stripeSubscriptionId = none →
      a'.projection = a.projection ∨ LiveClaim cfg b e a) := by
  -- each write of the account in the handlers, with what its guards say of the named Subscription
  cases h with
  | customer _ => exact ⟨fun _ _ _ _ _ => rfl, fun _ _ => .inl rfl⟩
  | marked _ _ => exact ⟨fun _ _ _ _ _ => rfl, fun _ _ => .inl rfl⟩
  -- the replay branch writes the status without asking for the Subscription
  | @replayed p t existing hkind hp hintent ht hslot howner hwins =>
    have hnamed : e.subscription cfg.unicode = p.subscriptionId := by
      rw [Event.subscription, hkind, paidInvoiceGuards_subscription hp]
    -- the hypothesis excludes a replay that moves the projection of this account
    have hsame : ForeignInvoice cfg b e p → (p.account.repaid e).projection = p.account.projection :=
      fun hother => Account.repaid_projection.2 fun hmoves =>
        hforeign ⟨⟨hkind, p, t, existing, hp, hintent, ht, hslot, howner, hwins, hmoves, hother⟩,
          p, hp, rfl⟩
    refine ⟨fun bound named hbound hname hne => ?_, fun _ hnone => ?_⟩
    · exact hsame (.inl ⟨bound, named, hbound, hnamed.symm.trans hname, hne⟩)
    · by_cases hclaim : LiveClaim cfg b e p.account
      · exact .inr hclaim
      · exact .inl (hsame (.inr ⟨hnone, hclaim⟩))
  -- the period's guards admit the bound Subscription, so naming another one is refused
  | @period p t transition balance hkind hp _ ht _ hguards _ =>
    have hfacts := periodGuards_facts hguards
    refine ⟨fun bound named hbound hname hne => ?_, fun _ hnone => .inr ?_⟩
    · exfalso
      rw [Event.subscription, hkind] at hname
      change cfg.unicode.subscriptionId e.object = some named at hname
      have hsame := hfacts.subscription.resolve_left (by rw [hbound]; simp)
      rw [paidInvoiceGuards_subscription hp, hname, hbound] at hsame
      exact hne (Option.some.inj hsame)
    -- an unbound account is authorised by its claim, whose plan the Invoice shows
    · obtain ⟨-, claim, hclaim, hplan, hinterval, htruthy, htoken⟩ :=
        Bindings.claim_of_authorized (hb.period_authorized hp hfacts hnone) hnone
      have htokens : e.claimToken = (subscriptionMetadata p.invoice).get "claim_token" := by
        rw [Event.claimToken, if_pos hkind, (paidInvoiceGuards_eq_ok hp).1]
      have hshows : e.ShowsPlan cfg b t.plan t.interval := by
        rw [Event.ShowsPlan, hkind]
        exact ⟨p, t, hp, ht, rfl, rfl⟩
      exact ⟨claim, hclaim, .inl ⟨htokens ▸ htruthy, htokens ▸ htoken⟩,
        .inr ⟨t.plan, t.interval, hshows, hplan, hinterval⟩⟩
  -- a delta needs a bound account, and its Invoice names what it is bound to
  | @delta p transition f newBalance balance hkind hp hintent hguards =>
    obtain ⟨hbound, hsome⟩ := deltaGuards_subscription hintent hguards
    refine ⟨fun bound named hbound' hname hne => ?_, fun _ hnone => ?_⟩
    · exfalso
      rw [Event.subscription, hkind] at hname
      change cfg.unicode.subscriptionId e.object = some named at hname
      rw [hbound', paidInvoiceGuards_subscription hp, hname] at hbound
      exact hne (Option.some.inj hbound).symm
    · rw [hbound.symm.trans hnone] at hsome
      cases hsome
  -- a failed renewal is projected for the bound Subscription only
  | @renewal f hkind hf _ _ =>
    obtain ⟨-, -, hsub, hbound, -⟩ := failedInvoiceGuards_eq_ok hf
    refine ⟨fun bound named hbound' hname hne => ?_, fun _ hnone => ?_⟩
    · exfalso
      rw [Event.subscription, hkind] at hname
      exact hne (Option.some.inj ((hname.symm.trans hsub).trans (hbound.symm.trans hbound')))
    · cases hbound.symm.trans hnone
  | @updated f hkind hf _ =>
    obtain ⟨hid, hplan, hclaim⟩ := subscriptionGuards_facts hf
    refine ⟨fun bound named hbound hname hne => ?_, fun _ hnone => .inr ?_⟩
    · exfalso
      rw [Event.subscription, hkind] at hname
      have hguard := (subscriptionGuards_eq_ok hf).2
      -- the update passes for the Subscription the account has, or for an empty id
      rw [hbound, Option.all_some, Bool.or_eq_true, decide_eq_true_eq, decide_eq_true_eq] at hguard
      rcases hguard with rfl | rfl
      · exact hb.named _ hrow hbound
      · exact hne ((Option.some.inj hname).symm.trans hid.symm)
    -- an unbound account takes the plan its claim was made for
    · obtain ⟨claim, hfound, hauthorizes⟩ := hclaim hnone
      simp only [claimAuthorizes, Bool.and_eq_true, decide_eq_true_eq] at hauthorizes
      obtain ⟨⟨⟨htruthy, htoken⟩, hkey⟩, hinterval⟩ := hauthorizes
      have htokens : e.claimToken = (e.object.get "metadata").get "claim_token" := by
        rw [Event.claimToken, if_neg (by rw [hkind]; simp)]
      have hshows : e.ShowsPlan cfg b f.plan f.interval := by
        rw [Event.ShowsPlan, hkind]
        exact hplan
      exact ⟨claim, hfound, .inl ⟨htokens ▸ htruthy, htokens ▸ htoken⟩,
        .inr ⟨f.plan, f.interval, hshows, hkey, hinterval⟩⟩
  -- a deletion is applied to the account bound to the deleted Subscription
  | deleted hkind haccount =>
    obtain ⟨⟨id, hid, hbound⟩, -⟩ := deletionGuards_facts haccount
    refine ⟨fun bound named hbound' hname hne => ?_, fun _ hnone => ?_⟩
    · exfalso
      rw [Event.subscription, hkind] at hname
      exact hne (Option.some.inj ((hname.symm.trans hid).trans (hbound.symm.trans hbound')))
    · cases hbound.symm.trans hnone
  -- the completed Session needs its claim whether or not the account is bound
  | @completed s hkind hs =>
    obtain ⟨hsub, howner⟩ := completedSessionGuards_facts hs
    obtain ⟨-, hclaim, hguard⟩ := completedSessionGuards_eq_ok hs
    refine ⟨fun bound named hbound hname hne => ?_, fun _ hnone => .inr ?_⟩
    · exfalso
      rw [Event.subscription, hkind] at hname
      simp only [unboundOr, hbound, Option.isNone_some, Bool.false_or, decide_eq_true_eq]
        at hguard
      exact hne (Option.some.inj ((hname.symm.trans hsub).trans hguard.symm))
    · have htokens : e.claimToken = (e.object.get "metadata").get "claim_token" := by
        rw [Event.claimToken, if_neg (by rw [hkind]; simp)]
      -- the claim is found by its Session, or by the token while no Session is attached
      refine ⟨s.claim, hclaim, ?_, .inl hkind⟩
      rcases howner with hsession | hunattached
      · exact .inr ⟨hkind, hsession⟩
      · exact .inl (htokens ▸ hunattached)
  -- a clawback names no Subscription at all
  | clawed hkind _ _ =>
    refine ⟨fun bound named _ hname _ => ?_, fun hnames _ => ?_⟩
    · exfalso
      rcases hkind with hkind | hkind <;> rw [Event.subscription, hkind] at hname <;> cases hname
    · exfalso
      rcases hkind with hkind | hkind <;> rw [hkind] at hnames <;> cases hnames

theorem Isolated.of_accounts (h : b'.accounts = b.accounts) : Isolated cfg b e b' where
  foreign a ha a' ha' hid := by
    have hsame : a' = a := b.accounts.eq_of_key_eq (h ▸ ha') ha hid
    exact fun _ _ _ _ _ => hsame ▸ rfl
  unbound _ a ha a' ha' hid _ := by
    have hsame : a' = a := b.accounts.eq_of_key_eq (h ▸ ha') ha hid
    exact .inl (hsame ▸ rfl)

theorem dispatch_isolated (hb : Bindings b) (hforeign : ¬ReplaysForeign cfg b e)
    (h : dispatch cfg tx b e = .ok effect) : Isolated cfg b e effect.billing := by
  rcases dispatch_posts h with hquiet | ⟨a, a', hposted, hprojected⟩
  · exact .of_accounts hquiet.accounts
  have hrow := Table.find?_mem hposted.before
  obtain ⟨hbound, hunbound⟩ := hprojected.isolated hb hrow fun hreplays => hforeign hreplays.1
  -- an account is the posted one, or its row is untouched
  have hcases : ∀ x ∈ b.accounts.rows, ∀ x' ∈ effect.billing.accounts.rows, x'.id = x.id →
      (x = a ∧ x' = a') ∨ x' = x := by
    intro x hx x' hx' hid
    rcases hposted.mem_after hx' with rfl | ⟨-, hold⟩
    · exact .inl ⟨b.accounts.eq_of_key_eq hx hrow (hid.symm.trans hposted.id_eq), rfl⟩
    · exact .inr (b.accounts.eq_of_key_eq hold hx hid)
  refine ⟨fun x hx x' hx' hid => ?_, fun hnames x hx x' hx' hid => ?_⟩
  · rcases hcases x hx x' hx' hid with ⟨rfl, rfl⟩ | rfl
    · exact hbound
    · exact fun _ _ _ _ _ => rfl
  · rcases hcases x hx x' hx' hid with ⟨rfl, rfl⟩ | rfl
    · exact hunbound hnames
    · exact fun _ => .inl rfl

/-- The foreign replay projects the paid status all the same. -/
theorem dispatch_replaysForeign (hforeign : ReplaysForeign cfg b e)
    (h : dispatch cfg tx b e = .ok effect) : ¬Isolated cfg b e effect.billing := by
  obtain ⟨hkind, p, t, existing, hp, hintent, ht, hslot, howner, hwins, hmoves, hother⟩ := hforeign
  have hrow := paidInvoiceGuards_row hp
  simp only [dispatch, hkind, invoicePaid_eq hp, hintent, invoicePaidPeriod, ht,
    Guarded.andThen, hslot] at h
  have hposted : Posts p.account (p.account.repaid e) b effect.billing := by
    rcases replayPeriod_posts hrow h with ⟨hloses, -⟩ | ⟨-, -, hposted⟩
    · exact absurd ⟨howner, hwins⟩ hloses
    · exact hposted
  have hchanged : (p.account.repaid e).projection ≠ p.account.projection :=
    fun heq => Account.repaid_projection.1 heq hmoves
  have hmem := Table.find?_mem hposted.after
  intro hisolated
  rcases hother with ⟨bound, named, hbound, hname, hne⟩ | ⟨hnone, hclaim⟩
  · have hnamed : e.subscription cfg.unicode = some named := by
      rw [Event.subscription, hkind, ← paidInvoiceGuards_subscription hp, hname]
    exact hchanged (hisolated.foreign _ (Table.find?_mem hrow) _ hmem rfl _ _ hbound hnamed hne)
  · rcases hisolated.unbound (by rw [hkind]; rfl) _ (Table.find?_mem hrow) _ hmem rfl hnone with
      hsame | hlive
    · exact hchanged hsame
    · exact hclaim hlive

/-- **Subscription identity is isolated exactly outside the foreign replay.** An Event that names
    one Subscription leaves the projection of an account bound to another one alone, and an unbound
    account takes a projection from a live claim only. The one exception is a paid Invoice of a
    foreign Subscription whose first slot this account was granted before. -/
theorem isolated_iff {db db' : Db} {result : ProcessResult} (hdb : Reachable cfg db)
    (h : process cfg tx db e = .ok (db', result)) :
    Isolated cfg db.billing e db'.billing ↔
      ¬(reachesHandler cfg tx db e = true ∧ ReplaysForeign cfg db.billing e) := by
  rcases process_cases h with ⟨hstops, hb⟩ | ⟨hreaches, effect, hdispatch, hb⟩
  · rw [hb, hstops]
    exact ⟨fun _ hboth => absurd hboth.1 Bool.false_ne_true, fun _ => .of_accounts rfl⟩
  · rw [hb]
    constructor
    · rintro hisolated ⟨-, hforeign⟩
      exact dispatch_replaysForeign hforeign hdispatch hisolated
    · exact fun hnot => dispatch_isolated hdb.bindings (fun hforeign => hnot ⟨hreaches, hforeign⟩)
        hdispatch

/-- The first payment of an account is isolated. -/
theorem isolated_paidFirst :
    ∃ db' result, process referenceConfig ⟨0, 0, fun _ => ""⟩ (checkoutDb "pro" .month) paidFirst =
        .ok (db', result) ∧
      Isolated referenceConfig (checkoutDb "pro" .month).billing paidFirst db'.billing := by
  have hok : (process referenceConfig ⟨0, 0, fun _ => ""⟩ (checkoutDb "pro" .month)
      paidFirst).map (fun x => x.1.statuses) = .ok [.active] := by decide +kernel
  rw [map_eq_ok] at hok
  obtain ⟨⟨db', result⟩, hrun, -⟩ := hok
  refine ⟨db', result, hrun, (isolated_iff (checkoutDb_reachable _ _) hrun).2 ?_⟩
  rintro ⟨-, -, p, t, existing, -, -, -, hslot, -⟩
  -- the ledger of the account is still empty
  cases hslot

/-- `sub_1` is paid and deleted, and the account checks out again with `sub_2`. -/
def successorRun (tx : Tx) : Transaction Db := do
  let db ← processAll referenceConfig tx (checkoutDb "pro" .month)
    [paidFirst, deletedSubscription "evt_deleted" "sub_1" 300]
  processAll referenceConfig tx (db.reserveCheckout "pro" .month)
    [completedCheckout "evt_completed" "cs_2" "sub_2" 400]

theorem successorRun_reachable {db : Db} (h : successorRun tx = .ok db) :
    Reachable referenceConfig db := by
  simp only [successorRun, bind_eq_ok] at h
  obtain ⟨db₁, hfirst, hsecond⟩ := h
  have hreach := (checkoutDb_reachable "pro" .month).processAll hfirst
  exact (hreach.reserveCheckout _ _).processAll hsecond

/-- Binding, status and cursor of every account. -/
def Db.bindings (db : Db) : List (String × Option String × SubscriptionStatus × Nat × Nat) :=
  db.billing.accounts.rows.map fun a =>
    (a.id, a.stripeSubscriptionId, a.subscriptionStatus, a.cursor)

/-- **An Invoice of the ended Subscription, delivered again, activates its successor** and
    advances its cursor. -/
theorem ended_invoice_reactivates :
    ¬ ∀ (tx : Tx) (db db' : Db) (e : Event) (result : ProcessResult),
      Reachable referenceConfig db → process referenceConfig tx db e = .ok (db', result) →
      Isolated referenceConfig db.billing e db'.billing := by
  intro hclaim
  -- two closed runs of the same history: before and after the Invoice comes again
  let again := paidFirst.redelivered (.str "evt_again")
  have hbefore : (successorRun ⟨0, 0, fun _ => ""⟩).map Db.bindings =
      .ok [(referenceAccountId, some "sub_2", .canceled, 0, 0)] := by decide +kernel
  have hafter : (successorRun ⟨0, 0, fun _ => ""⟩ >>= fun db =>
      process referenceConfig ⟨0, 0, fun _ => ""⟩ db again).map (fun x => x.1.bindings) =
      .ok [(referenceAccountId, some "sub_2", .active, 200, 30)] := by decide +kernel
  simp only [map_eq_ok, bind_eq_ok] at hbefore hafter
  obtain ⟨db, hrun, hbefore⟩ := hbefore
  obtain ⟨⟨db', result⟩, ⟨_, hrun', hprocess⟩, hafter⟩ := hafter
  cases hrun.symm.trans hrun'
  -- the claim for this Event would keep the projection of the successor's account
  have hisolated := hclaim _ db db' again result (successorRun_reachable hrun) hprocess
  obtain ⟨a, hrows, ha⟩ := List.map_eq_singleton_iff.1 hbefore
  obtain ⟨a', hrows', ha'⟩ := List.map_eq_singleton_iff.1 hafter
  simp only [Prod.mk.injEq] at ha ha'
  have hnamed : again.subscription referenceConfig.unicode = some "sub_1" := by decide +kernel
  have hsame := hisolated.foreign a (hrows ▸ List.mem_singleton_self a) a'
    (hrows' ▸ List.mem_singleton_self a') (ha'.1.trans ha.1.symm) "sub_2" "sub_1" ha.2.1 hnamed
    (by decide)
  have hstatus : a'.subscriptionStatus = a.subscriptionStatus :=
    (congrArg Account.subscriptionStatus hsame :)
  -- but the status has moved from canceled to active
  rw [ha.2.2.1, ha'.2.2.1] at hstatus
  cases hstatus

end StripeEntitlements
