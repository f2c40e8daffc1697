import StripeEntitlements.Checkout.SingleFlight
import StripeEntitlements.Identity.Isolation

/-!
# One-Shot Checkout Authority

A claim token lets one Subscription bind to its account. Three Events can bind first, and a
paid Invoice does so without consuming the claim; the deletion of the Subscription removes
whatever claim is left. From then on the tokens drawn so far are spent: no Event that carries
one of them moves the plan, the credits or the binding of the account.

## Main results

- `Projected.authorized` — which Events change an entitlement, and by which authority
- `AuthorityStep.moves` — a transaction keeps, makes or ends the binding of an account
- `Spent.run` — a spent token stays spent
- `checkout_authority_one_shot` — the law over all runs
-/

namespace StripeEntitlements

open Relational

variable {cfg : Config} {catalog : PackCatalog} {owner : String → String} {tx : Tx}
  {b b' : Billing} {e : Event} {effect : Effect}

/-! ## Authority -/

/-- Plan, credits and binding: the account up to its Customer, its status and its cursor. -/
def Account.entitlement (a : Account) : Account :=
  { a with
    stripeCustomerId := none
    subscriptionStatus := .none
    eventCreated := 0
    eventRank := 0 }

/-- The Events that carry the authority of a claim. -/
def EventType.carriesAuthority : EventType → Bool
  | .invoicePaid | .customerSubscriptionUpdated | .checkoutSessionCompleted => true
  | _ => false

theorem Account.entitlement_of_projection {a a' : Account} (h : a'.projection = a.projection) :
    a'.entitlement = a.entitlement :=
  congrArg (fun r : Account =>
    { r with subscriptionStatus := .none, eventCreated := 0, eventRank := 0 }) h

/-- An Event that changes an entitlement names the Subscription it is bound to, or binds the
    one it names by a live claim. -/
theorem Projected.authorized {a a' : Account} (hb : Bindings b) (hrow : a ∈ b.accounts.rows)
    (hkind : e.kind.carriesAuthority = true) (h : Projected cfg tx b e a a') :
    a'.entitlement = a.entitlement ∨
      (∃ bound, a.stripeSubscriptionId = some bound ∧
        e.subscription cfg.unicode = some bound) ∨
      a.stripeSubscriptionId = none ∧ LiveClaim cfg b e a ∧ ∃ id,
        e.subscription cfg.unicode = some id ∧ a'.stripeSubscriptionId = some id := by
  have hnames : e.kind.namesSubscription = true := by
    cases hk : e.kind <;> rw [hk] at hkind <;> first | rfl | cases hkind
  -- off the foreign replay, an Event that changes an unbound account did so by a live claim
  have hlive : ¬ReplaysForeign cfg b e → a.stripeSubscriptionId = none →
      a'.entitlement = a.entitlement ∨ LiveClaim cfg b e a := fun hforeign hnone =>
    ((h.isolated hb hrow fun hreplays => hforeign hreplays.1).2 hnames hnone).imp_left Account.entitlement_of_projection
  -- one case for each write of the account row in the handlers; a paid period, an updated
  -- Subscription and a completed Session are those that bind
  cases h with
  | customer _ => exact .inl rfl
  | marked _ _ => exact .inl rfl
  | replayed _ _ _ _ _ _ _ => exact .inl rfl
  -- first grant of a period: the guards admit the bound Subscription, or authorise an unbound one
  | @period p t transition balance hk hp _ _ hfree hguards _ =>
    have hnamed : e.subscription cfg.unicode = p.subscriptionId := by
      rw [Event.subscription, hk, paidInvoiceGuards_subscription hp]
    cases hbound : p.account.stripeSubscriptionId with
    | some bound =>
      have hsame := (periodGuards_facts hguards).subscription.resolve_left
        (by rw [hbound]; simp)
      exact .inr (.inl ⟨bound, rfl, hnamed.trans (hsame.trans hbound)⟩)
    | none =>
      -- a foreign replay needs the slot to be granted already, and this branch found it free
      have hforeign : ¬ReplaysForeign cfg b e := by
        rintro ⟨-, p', _, _, hp', -, -, hslot, -⟩
        cases hp.symm.trans hp'
        cases hfree.symm.trans hslot
      refine (hlive hforeign hbound).imp_right fun hclaim => .inr ⟨rfl, hclaim, ?_⟩
      have hauthorized := hb.period_authorized hp (periodGuards_facts hguards) hbound
      obtain ⟨id, hid⟩ :=
        Option.isSome_iff_exists.1 (Bindings.claim_of_authorized hauthorized hbound).1
      have hbinds : p.subscriptionId.or p.account.stripeSubscriptionId = some id := by
        rw [hid, Option.some_or]
      exact ⟨id, hnamed.trans hid, hbinds⟩
  -- a prorated delta is refused for an unbound account, so the Invoice names the bound one
  | @delta p transition f newBalance balance hk hp hintent hguards =>
    obtain ⟨hbound, hsome⟩ := deltaGuards_subscription hintent hguards
    obtain ⟨bound, hsub⟩ := Option.isSome_iff_exists.1 hsome
    refine .inr (.inl ⟨bound, hbound.trans hsub, ?_⟩)
    rw [Event.subscription, hk, ← hsub, paidInvoiceGuards_subscription hp]
  | renewal hk _ _ _ => rw [hk] at hkind; cases hkind
  | @updated f hk hf _ =>
    obtain ⟨hid, -, -⟩ := subscriptionGuards_facts hf
    have hnamed : e.subscription cfg.unicode = some f.subscriptionId := by
      rw [Event.subscription, hk, hid]
    cases hbound : f.account.stripeSubscriptionId with
    -- the guard lets a bound account pass only for its own Subscription, or for the empty id
    | some bound =>
      have hguard := (subscriptionGuards_eq_ok hf).2
      rw [hbound, Option.all_some, Bool.or_eq_true, decide_eq_true_eq, decide_eq_true_eq] at hguard
      rcases hguard with rfl | rfl
      -- no stored binding is the empty id, so that disjunct is vacuous
      · exact absurd hbound (hb.named _ hrow)
      · exact .inr (.inl ⟨_, rfl, hnamed⟩)
    | none =>
      have hforeign : ¬ReplaysForeign cfg b e := fun hreplays => by
        cases hk.symm.trans hreplays.1
      exact (hlive hforeign hbound).imp_right fun hclaim => .inr ⟨rfl, hclaim, _, hnamed, rfl⟩
  | deleted hk _ => rw [hk] at hkind; cases hkind
  -- the completed Session binds: an unbound account needs its claim, a bound one its own id
  | @completed s hk hs =>
    have hnamed : e.subscription cfg.unicode = some s.subscriptionId := by
      rw [Event.subscription, hk, (completedSessionGuards_facts hs).1]
    have hguard := (completedSessionGuards_eq_ok hs).2.2
    simp only [unboundOr, Bool.or_eq_true, Option.isNone_iff_eq_none, decide_eq_true_eq] at hguard
    rcases hguard with hnone | hsame
    · have hforeign : ¬ReplaysForeign cfg b e := fun hreplays => by
        cases hk.symm.trans hreplays.1
      exact (hlive hforeign hnone).imp_right fun hclaim => .inr ⟨hnone, hclaim, _, hnamed, rfl⟩
    · exact .inr (.inl ⟨_, hsame, hnamed⟩)
  | clawed hk _ _ => rcases hk with hk | hk <;> rw [hk] at hkind <;> cases hkind

/-- Only an Event that carries authority binds an account. -/
theorem Projected.binds {a a' : Account} {id : String} (h : Projected cfg tx b e a a')
    (hnone : a.stripeSubscriptionId = none) (hid : a'.stripeSubscriptionId = some id) :
    e.kind.carriesAuthority = true := by
  cases h with
  | customer _ => exact absurd (hnone.symm.trans hid) nofun
  | marked hk _ => rw [hk]; rfl
  | replayed hk _ _ _ _ _ _ => rw [hk]; rfl
  | period hk _ _ _ _ _ _ => rw [hk]; rfl
  | delta hk _ _ _ => rw [hk]; rfl
  | renewal _ _ _ _ => exact absurd (hnone.symm.trans hid) nofun
  | updated hk _ _ => rw [hk]; rfl
  | deleted _ _ => cases hid
  | completed hk _ => rw [hk]; rfl
  | @clawed c leaf balance _ _ _ =>
    have hsub : (c.after tx leaf).stripeSubscriptionId = c.account.stripeSubscriptionId := by
      unfold ClawbackTarget.after
      split <;> cases leaf <;> rfl
    exact absurd (hnone.symm.trans (hsub.symm.trans hid)) nofun

/-! ## The names of Stripe -/

/-- Stripe opens every Session, and the Subscription of a Session, in the name of one claim
    token: `owner`. Whatever shows the Subscription shows that token in its metadata. -/
def Event.Genuine (u : Unicode) (owner : String → String) (e : Event) : Prop :=
  e.kind.carriesAuthority = true → ∀ id, e.subscription u = some id →
    (e.claimToken.truthy = true → e.claimToken.text = owner id) ∧
    (e.kind = .checkoutSessionCompleted → owner (e.object.get "id").text = owner id)

/-- The Event carries the token in its metadata, or completes the Session of the claim. -/
def Event.Carries (owner : String → String) (e : Event) (token : String) : Prop :=
  (e.claimToken.truthy = true ∧ e.claimToken.text = token) ∨
    (e.kind = .checkoutSessionCompleted ∧ owner (e.object.get "id").text = token)

theorem Event.Genuine.names {u : Unicode} {id token : String} (h : e.Genuine u owner)
    (hkind : e.kind.carriesAuthority = true) (hid : e.subscription u = some id)
    (hcarries : e.Carries owner token) : owner id = token := by
  obtain ⟨htoken, hsession⟩ := h hkind id hid
  rcases hcarries with ⟨htruthy, htext⟩ | ⟨hcompleted, hname⟩
  · exact (htoken htruthy).symm.trans htext
  · exact (hsession hcompleted).symm.trans hname

/-- A claim that matches a genuine Event is the one its Subscription was opened for. -/
theorem LiveClaim.named {a : Account} {id : String} (h : LiveClaim cfg b e a)
    (hsessions : ∀ c ∈ b.claims.rows, ∀ sessionId, c.sessionId = some sessionId →
      owner sessionId = c.claimToken)
    (hgenuine : e.Genuine cfg.unicode owner) (hkind : e.kind.carriesAuthority = true)
    (hid : e.subscription cfg.unicode = some id) :
    ∃ c ∈ b.claims.rows, c.accountId = a.id ∧ c.claimToken = owner id := by
  obtain ⟨claim, hclaim, hmatch, -⟩ := h
  have hrow := Table.find?_mem hclaim
  refine ⟨claim, hrow, Table.find?_key hclaim, ?_⟩
  rcases hmatch with ⟨htruthy, htoken⟩ | ⟨hcompleted, hsession⟩
  · exact htoken.trans ((hgenuine hkind id hid).1 htruthy)
  · exact (hsessions claim hrow _ hsession).symm.trans ((hgenuine hkind id hid).2 hcompleted)

/-! ## Transactions -/

/-- The database and the claim tokens drawn so far. -/
structure Authority where
  db : Db
  drawn : List String

def Authority.empty : Authority := { db := .empty, drawn := [] }

namespace DeskAct

/-- The token a reservation draws. -/
def draws : DeskAct → List String
  | reserveCheckout _ token _ => [token]
  | _ => []

/-- Sessions and Events are those of Stripe. -/
def authentic (u : Unicode) (owner : String → String) : DeskAct → Prop
  | attachSession reservation sessionId _ => owner sessionId = reservation.claimToken
  | event _ e => e.Genuine u owner
  | _ => True

end DeskAct

/-- One transaction: an act at the desk with a fresh token, or one that leaves the claims
    alone. -/
inductive AuthorityStep (cfg : Config) (catalog : PackCatalog) (owner : String → String)
    (s : Authority) : Authority → Prop
  | desk {db : Db} (act : DeskAct) (hrun : act.run cfg catalog s.db = .ok db)
      (hfresh : ∀ token ∈ act.draws, token ∉ s.drawn)
      (hgenuine : act.authentic cfg.unicode owner) :
      AuthorityStep cfg catalog owner s { db, drawn := act.draws ++ s.drawn }
  | other {db : Db} (h : Commits cfg s.db db) (hinbox : db.inbox = s.db.inbox)
      (hclaims : db.billing.claims = s.db.billing.claims) :
      AuthorityStep cfg catalog owner s { db, drawn := s.drawn }

/-- Any number of transactions. -/
abbrev AuthorityRun (cfg : Config) (catalog : PackCatalog) (owner : String → String) :
    Authority → Authority → Prop :=
  Relation.ReflTransGen (AuthorityStep cfg catalog owner)

/-! ## Commits of the desk -/

theorem Outside.of_claims (b : Billing) (claims : Table CheckoutClaim) :
    Outside b { b with claims := claims } where
  accounts := ⟨[], (List.append_nil _).symm, fun _ ha => absurd ha List.not_mem_nil⟩
  orders := ⟨[], (List.append_nil _).symm, fun _ ho => absurd ho List.not_mem_nil⟩
  invoices := rfl
  ledger := rfl
  debits := rfl
  allocations := rfl
  lots := rfl
  packDebts := rfl
  fundings := rfl
  clawbackDebts := rfl
  planChanges c hc hpending := .inl ⟨c, hc, hpending, rfl, rfl⟩

theorem Outside.of_orders {orders : Table PackOrder}
    (h : ∃ reserved, orders.rows.map PackOrder.unclaimed =
      b.orders.rows.map PackOrder.unclaimed ++ reserved ∧ ∀ o ∈ reserved, o = o.reserved) :
    Outside b { b with orders := orders } :=
  { Outside.of_claims b b.claims with orders := h }

/-- A statement on orders that writes only the columns of the Checkout. -/
theorem Outside.updateOrders {p : PackOrder → Bool} {f : PackOrder → PackOrder}
    {orders : Table PackOrder} (h : b.orders.updateWhere? p f = some orders)
    (hf : ∀ o, (f o).unclaimed = o.unclaimed) : Outside b { b with orders := orders } := by
  refine .of_orders ⟨[], ?_, fun _ ho => absurd ho List.not_mem_nil⟩
  rw [Table.updateWhere?_eq_some.1 h, List.map_map, List.append_nil]
  refine List.map_congr_left fun o _ => ?_
  change PackOrder.unclaimed (if p o then f o else o) = _
  split
  · exact hf o
  · rfl

/-- An order that is inserted has no facts yet. -/
theorem reservePack_reserved {u : Unicode} {orderId : String} {req : PackRequest}
    {order : PackOrder} (h : reservePack u catalog tx b orderId req = .ok (b', order)) :
    b' = b ∨ order.unclaimed = order.unclaimed.reserved := by
  simp only [reservePack, bind_eq_ok, fetch_eq_ok] at h
  obtain ⟨_, -, account, -, h⟩ := h
  split at h
  case h_1 existing _ =>
    simp only [bind_eq_ok, require_eq_ok, pure_eq_ok] at h
    obtain ⟨_, -, _, -, _, -, _, -, heq⟩ := h
    cases heq
    exact .inl rfl
  case h_2 =>
    simp only [bind_eq_ok, require_eq_ok, pure_eq_ok] at h
    obtain ⟨_, -, _, -, _, -, heq⟩ := h
    cases heq
    exact .inr rfl

/-- The coordinators only do what the rest of the application may. -/
theorem DeskAct.cases {act : DeskAct} {db db' : Db} (h : act.run cfg catalog db = .ok db') :
    (∃ tx e result, act = .event tx e ∧ process cfg tx db e = .ok (db', result)) ∨ db' = db ∨
      ∃ b, Outside db.billing b ∧ db' = { db with billing := b } := by
  cases act with
  | openAccount id externalRef =>
    simp only [run, bind_eq_ok, Billing.insert_eq_ok, pure_eq_ok, Stored.table,
      Stored.install] at h
    obtain ⟨_, ⟨accounts, hinsert, rfl⟩, rfl⟩ := h
    -- opening an account appends one row and touches nothing else
    have hopened : Outside db.billing { db.billing with accounts := accounts } :=
      { Outside.of_claims db.billing db.billing.claims with
        accounts := ⟨[{ id, externalRef : Account }], by
          rw [Table.insert?_eq_some.1 hinsert, List.map_append]
          rfl, fun a ha => by rw [List.mem_singleton.1 ha]⟩ }
    exact .inr (.inr ⟨_, hopened, rfl⟩)
  | reserveCheckout tx token req =>
    simp only [run, bind_eq_ok, pure_eq_ok] at h
    obtain ⟨⟨b, claim⟩, hreserve, rfl⟩ := h
    -- a reservation is a retry of the stored one, or a new row of `checkout_claims`
    obtain ⟨account, -, -, rfl | hanew⟩ := reserveCheckout_eq_ok hreserve
    · exact .inr (.inl rfl)
    · obtain ⟨claims, rfl, -⟩ := hanew.billing
      exact .inr (.inr ⟨_, (.of_claims _ claims), rfl⟩)
  | freezeCheckout reservation snapshot =>
    simp only [run, StripeEntitlements.freezeCheckout, bind_eq_ok, Billing.updateWhere_eq_ok,
      pure_eq_ok, Stored.table, Stored.install] at h
    obtain ⟨⟨_, _⟩, ⟨_, ⟨claims, -, rfl⟩, _, -, heq⟩, rfl⟩ := h
    cases heq
    exact .inr (.inr ⟨_, (.of_claims _ claims), rfl⟩)
  | attachSession reservation sessionId sessionUrl =>
    simp only [run, StripeEntitlements.attachSession, bind_eq_ok, Billing.updateWhere_eq_ok,
      pure_eq_ok, Stored.table, Stored.install] at h
    obtain ⟨⟨_, _⟩, ⟨_, -, _, -, _, ⟨claims, -, rfl⟩, heq⟩, rfl⟩ := h
    cases heq
    exact .inr (.inr ⟨_, (.of_claims _ claims), rfl⟩)
  | release reservation =>
    simp only [run, releaseCheckout, pure_eq_ok] at h
    rw [← h]
    exact .inr (.inr ⟨_, (.of_claims _ _), rfl⟩)
  | reservePack tx orderId req =>
    simp only [run, bind_eq_ok, pure_eq_ok] at h
    obtain ⟨⟨b, order⟩, hreserve, rfl⟩ := h
    -- a pack order is reserved unclaimed, so no Checkout Session is booked by the insertion
    rcases reservePack_reserved hreserve with rfl | hreserved
    · exact .inr (.inl rfl)
    obtain rfl | ⟨account, orders, -, -, -, hinsert, rfl⟩ := reservePack_eq_ok hreserve
    · exact .inr (.inl rfl)
    refine .inr (.inr ⟨_, .of_orders ⟨[order.unclaimed], ?_, fun o ho => ?_⟩, rfl⟩)
    · rw [Table.insert?_eq_some.1 hinsert, List.map_append]
      rfl
    · rw [List.mem_singleton.1 ho]
      exact hreserved
  | freezePack orderId snapshot =>
    simp only [run, StripeEntitlements.freezePack, bind_eq_ok, Billing.updateWhere_eq_ok,
      pure_eq_ok, Stored.table, Stored.install] at h
    obtain ⟨⟨_, _⟩, ⟨_, ⟨orders, hupdate, rfl⟩, _, -, heq⟩, rfl⟩ := h
    cases heq
    exact .inr (.inr ⟨_, (.updateOrders hupdate fun _ => rfl), rfl⟩)
  | attachPack orderId sessionId sessionUrl =>
    simp only [run, StripeEntitlements.attachPack, bind_eq_ok, Billing.updateWhere_eq_ok,
      pure_eq_ok, Stored.table, Stored.install] at h
    obtain ⟨_, ⟨_, -, _, -, _, -, orders, hupdate, rfl⟩, rfl⟩ := h
    exact .inr (.inr ⟨_, (.updateOrders hupdate fun _ => rfl), rfl⟩)
  | event tx e =>
    simp only [run, bind_eq_ok, pure_eq_ok] at h
    obtain ⟨⟨db₁, result⟩, hprocess, rfl⟩ := h
    exact .inl ⟨tx, e, result, rfl, hprocess⟩
  | tick now =>
    simp only [run, pure_eq_ok] at h
    exact .inr (.inl h.symm)

theorem DeskAct.reachable {act : DeskAct} {db db' : Db} (h : act.run cfg catalog db = .ok db')
    (hdb : Reachable cfg db) : Reachable cfg db' := by
  rcases DeskAct.cases h with ⟨tx, e, result, -, hprocess⟩ | rfl | ⟨b, houtside, rfl⟩
  · exact hdb.tail (.event hprocess)
  · exact hdb
  · exact hdb.tail (.outside houtside)

/-! ## Claims -/

/-- The claim was there, with the same token, or its token was just drawn. -/
def CheckoutClaim.Stems (owner : String → String) (b : Billing) (drawn : List String)
    (c : CheckoutClaim) : Prop :=
  (∃ c₀ ∈ b.claims.rows, c₀.accountId = c.accountId ∧ c₀.claimToken = c.claimToken ∧
    (c.sessionId = c₀.sessionId ∨ ∀ sessionId, c.sessionId = some sessionId →
      owner sessionId = c.claimToken)) ∨
    (c.claimToken ∈ drawn ∧ c.sessionId = none)

theorem CheckoutClaim.stems_of_mem {drawn : List String} {c : CheckoutClaim}
    (h : c ∈ b.claims.rows) : c.Stems owner b drawn :=
  .inl ⟨c, h, rfl, rfl, .inl rfl⟩

/-- A statement on claims that keeps their owner and their token. -/
theorem CheckoutClaim.stems_of_update {drawn : List String} {p : CheckoutClaim → Bool}
    {f : CheckoutClaim → CheckoutClaim} {claims : Table CheckoutClaim}
    (h : b.claims.updateWhere? p f = some claims)
    (hkept : ∀ c, (f c).accountId = c.accountId ∧ (f c).claimToken = c.claimToken)
    (hsession : ∀ c, p c = true → (f c).sessionId = c.sessionId ∨
      ∀ sessionId, (f c).sessionId = some sessionId → owner sessionId = (f c).claimToken) :
    ∀ c ∈ claims.rows, c.Stems owner b drawn := by
  intro c hc
  rw [Table.updateWhere?_eq_some.1 h] at hc
  obtain ⟨c₀, hc₀, rfl⟩ := List.mem_map.1 hc
  split
  case isTrue hp => exact .inl ⟨c₀, hc₀, (hkept c₀).1.symm, (hkept c₀).2.symm, hsession c₀ hp⟩
  case isFalse => exact stems_of_mem hc₀

theorem DeskAct.claims {act : DeskAct} {db db' : Db} (h : act.run cfg catalog db = .ok db')
    (hgenuine : act.authentic cfg.unicode owner) :
    ∀ c ∈ db'.billing.claims.rows, c.Stems owner db.billing act.draws := by
  -- every action that leaves the claims table alone draws no claim
  have hsame : db'.billing.claims = db.billing.claims →
      ∀ c ∈ db'.billing.claims.rows, c.Stems owner db.billing act.draws :=
    fun hclaims c hc => CheckoutClaim.stems_of_mem (hclaims ▸ hc)
  cases act with
  | openAccount id externalRef =>
    simp only [run, bind_eq_ok, Billing.insert_eq_ok, pure_eq_ok, Stored.table,
      Stored.install] at h
    obtain ⟨_, ⟨accounts, -, rfl⟩, rfl⟩ := h
    exact hsame rfl
  | reserveCheckout tx token req =>
    simp only [run, bind_eq_ok, pure_eq_ok] at h
    obtain ⟨⟨b, claim⟩, hreserve, rfl⟩ := h
    -- a retry returns the stored claim; a new one carries the token drawn for it
    obtain ⟨account, -, -, rfl | hanew⟩ := reserveCheckout_eq_ok hreserve
    · exact hsame rfl
    · obtain ⟨claims, rfl, hrows⟩ := hanew.billing
      intro c hc
      have hmem : c ∈ claims.rows := hc
      rw [hrows, List.mem_append, List.mem_singleton] at hmem
      rcases hmem with hold | rfl
      · exact CheckoutClaim.stems_of_mem (List.mem_filter.1 hold).1
      -- the new claim has no Session yet, so it stems from the drawn token alone
      · refine .inr ⟨?_, hanew.unattached⟩
        rw [hanew.token]
        exact List.mem_singleton_self token
  | freezeCheckout reservation snapshot =>
    simp only [run, StripeEntitlements.freezeCheckout, bind_eq_ok, Billing.updateWhere_eq_ok,
      pure_eq_ok, Stored.table, Stored.install] at h
    obtain ⟨⟨_, _⟩, ⟨_, ⟨claims, hupdate, rfl⟩, _, -, heq⟩, rfl⟩ := h
    cases heq
    exact CheckoutClaim.stems_of_update hupdate (fun _ => ⟨rfl, rfl⟩) fun _ _ => .inl rfl
  | attachSession reservation sessionId sessionUrl =>
    simp only [run, StripeEntitlements.attachSession, bind_eq_ok, Billing.updateWhere_eq_ok,
      pure_eq_ok, Stored.table, Stored.install] at h
    obtain ⟨⟨_, _⟩, ⟨_, -, _, -, _, ⟨claims, hupdate, rfl⟩, heq⟩, rfl⟩ := h
    cases heq
    -- the Session attached is the one opened with this claim's token, by the action's
    -- authenticity
    refine CheckoutClaim.stems_of_update hupdate (fun _ => ⟨rfl, rfl⟩) fun c hp => .inr ?_
    intro sessionId' hsession
    simp only [CheckoutClaim.owns, Bool.and_eq_true, decide_eq_true_eq] at hp
    cases hsession
    exact hgenuine.trans hp.1.1.2.symm
  -- a release only removes rows
  | release reservation =>
    simp only [run, releaseCheckout, pure_eq_ok] at h
    rw [← h]
    exact fun c hc => CheckoutClaim.stems_of_mem (List.mem_filter.1 hc).1
  | reservePack tx orderId req =>
    simp only [run, bind_eq_ok, pure_eq_ok] at h
    obtain ⟨⟨b, order⟩, hreserve, rfl⟩ := h
    obtain rfl | ⟨account, orders, -, -, -, -, rfl⟩ := reservePack_eq_ok hreserve
    · exact hsame rfl
    · exact hsame rfl
  | freezePack orderId snapshot =>
    simp only [run, StripeEntitlements.freezePack, bind_eq_ok, Billing.updateWhere_eq_ok,
      pure_eq_ok, Stored.table, Stored.install] at h
    obtain ⟨⟨_, _⟩, ⟨_, ⟨orders, -, rfl⟩, _, -, heq⟩, rfl⟩ := h
    cases heq
    exact hsame rfl
  | attachPack orderId sessionId sessionUrl =>
    simp only [run, StripeEntitlements.attachPack, bind_eq_ok, Billing.updateWhere_eq_ok,
      pure_eq_ok, Stored.table, Stored.install] at h
    obtain ⟨_, ⟨_, -, _, -, _, -, orders, -, rfl⟩, rfl⟩ := h
    exact hsame rfl
  | event tx e =>
    simp only [run, bind_eq_ok, pure_eq_ok] at h
    obtain ⟨⟨db₁, result⟩, hprocess, rfl⟩ := h
    -- processing an Event attaches no Session and inserts no claim
    exact fun c hc => CheckoutClaim.stems_of_mem ((process_served hprocess).claims c hc)
  | tick now =>
    simp only [run, pure_eq_ok] at h
    exact hsame (by rw [h])

/-! ## The invariant -/

/-- Every claim has a token drawn before, and only Sessions opened in its name. -/
structure AuthorityInvariant (cfg : Config) (owner : String → String) (s : Authority) : Prop where
  reachable : Reachable cfg s.db
  drawn : ∀ c ∈ s.db.billing.claims.rows, c.claimToken ∈ s.drawn
  sessions : ∀ c ∈ s.db.billing.claims.rows, ∀ sessionId, c.sessionId = some sessionId →
    owner sessionId = c.claimToken

theorem AuthorityStep.keeps {s s' : Authority} (h : AuthorityStep cfg catalog owner s s')
    (hs : AuthorityInvariant cfg owner s) : AuthorityInvariant cfg owner s' := by
  cases h with
  | desk act hrun hfresh hgenuine =>
    have hclaims := DeskAct.claims hrun hgenuine
    refine ⟨?_, fun c hc => ?_, fun c hc sessionId hsession => ?_⟩
    · exact DeskAct.reachable hrun hs.reachable
    · rcases hclaims c hc with ⟨c₀, hc₀, -, htoken, -⟩ | ⟨hnew, -⟩
      · exact List.mem_append_right _ (htoken ▸ hs.drawn c₀ hc₀)
      · exact List.mem_append_left _ hnew
    · rcases hclaims c hc with ⟨c₀, hc₀, -, htoken, hkept | hnamed⟩ | ⟨-, hunattached⟩
      · exact (hs.sessions c₀ hc₀ sessionId (hkept.symm.trans hsession)).trans htoken
      · exact hnamed sessionId hsession
      · exact absurd (hunattached.symm.trans hsession) nofun
  | other h _ hclaims =>
    refine ⟨hs.reachable.tail h, fun c hc => hs.drawn c (hclaims ▸ hc), fun c hc => ?_⟩
    exact hs.sessions c (hclaims ▸ hc)

theorem AuthorityRun.invariant {s s' : Authority} (h : AuthorityRun cfg catalog owner s s')
    (hs : AuthorityInvariant cfg owner s) : AuthorityInvariant cfg owner s' := by
  induction h with
  | refl => exact hs
  | tail _ hstep ih => exact hstep.keeps ih

theorem AuthorityInvariant.empty : AuthorityInvariant cfg owner .empty where
  reachable := .refl
  drawn _ hc := absurd hc List.not_mem_nil
  sessions _ hc := absurd hc List.not_mem_nil

/-! ## Bindings -/

/-- The Subscription an account is bound to. -/
def Billing.binding (b : Billing) (accountId : String) : Option String :=
  (b.accounts.find? accountId).bind Account.stripeSubscriptionId

theorem Posting.binding {a a' : Account} (h : Posts a a' b b') (accountId : String) :
    (accountId = a.id ∧ b.binding accountId = a.stripeSubscriptionId ∧
      b'.binding accountId = a'.stripeSubscriptionId) ∨
    b'.binding accountId = b.binding accountId := by
  by_cases hid : accountId = a.id
  · subst hid
    refine .inl ⟨rfl, ?_, ?_⟩
    · rw [Billing.binding, h.before, Option.bind_some]
    · rw [Billing.binding, h.after, Option.bind_some]
  · right
    rw [Billing.binding, h.others accountId hid, Billing.binding]

/-- A posting that keeps the Subscription. -/
theorem Posting.keepsBinding {a a' : Account} (h : Posts a a' b b')
    (hsame : a'.stripeSubscriptionId = a.stripeSubscriptionId) (accountId : String) :
    b'.binding accountId = b.binding accountId := by
  rcases h.binding accountId with ⟨-, hbefore, hafter⟩ | hkept
  · rw [hafter, hsame, hbefore]
  · exact hkept

theorem Outside.binding (h : Outside b b') (accountId : String) :
    b'.binding accountId = b.binding accountId := by
  unfold Billing.binding
  cases hrow : b.accounts.find? accountId with
  | some a =>
    obtain ⟨a', ha', heq⟩ := h.after (Table.find?_mem hrow)
    have hid : a'.id = a.id := (congrArg Account.id heq :)
    have hkey : a.id = accountId := Table.find?_key hrow
    have hrow' : b'.accounts.find? accountId = some a' :=
      Table.find?_eq_some_iff.2 ⟨ha', hid.trans hkey⟩
    rw [hrow', Option.bind_some, Option.bind_some]
    exact (congrArg Account.stripeSubscriptionId heq :)
  | none =>
    cases hrow' : b'.accounts.find? accountId with
    | none => rfl
    | some a' =>
      rcases h.before (Table.find?_mem hrow') with ⟨a, ha, heq⟩ | hopened
      · have hid : a.id = a'.id := (congrArg Account.id heq :)
        have hkey : a'.id = accountId := Table.find?_key hrow'
        have hfound : b.accounts.find? accountId = some a :=
          Table.find?_eq_some_iff.2 ⟨ha, hid.trans hkey⟩
        rw [hrow] at hfound
        cases hfound
      · exact (congrArg Account.stripeSubscriptionId hopened :)

/-- Whatever Events do not move stays bound. -/
theorem Commits.binding {db db' : Db} (h : Commits cfg db db') (hinbox : db'.inbox = db.inbox)
    (accountId : String) : db'.billing.binding accountId = db.billing.binding accountId := by
  cases h with
  | event h =>
    rcases process_cases h with ⟨-, hb⟩ | ⟨hreaches, -⟩
    · rw [hb]
    · exact absurd hinbox (process_inbox h hreaches)
  | charge h =>
    obtain ⟨account, balance, hposted⟩ := charge_rebalanced h
    exact hposted.keepsBinding rfl accountId
  | refund h =>
    obtain ⟨account, balance, hposted⟩ := refund_rebalanced h
    exact hposted.keepsBinding rfl accountId
  | annual h =>
    rcases grantDue_posts h with hquiet | ⟨a, a', hposted, hstep⟩
    · rw [Billing.binding, hquiet.accounts, Billing.binding]
    · refine hposted.keepsBinding ?_ accountId
      cases hstep with
      | closed _ _ _ => rfl
      | granted _ _ _ _ _ => rfl
  | outside h => exact h.binding accountId

/-- What a transaction does to the binding of one account. -/
inductive BindingMove (owner : String → String) (b b' : Billing) (accountId : String) : Prop
  | kept (h : b'.binding accountId = b.binding accountId)
  | bound {c : CheckoutClaim} {id : String} (hnone : b.binding accountId = none)
      (hc : c ∈ b.claims.rows) (hmine : c.accountId = accountId)
      (hid : b'.binding accountId = some id) (htoken : c.claimToken = owner id)
  | ended (h : b'.binding accountId = none) (hclaims : ∀ c ∈ b'.claims.rows,
      c.accountId ≠ accountId)

/-- A deletion unbinds the account and takes its claim. -/
theorem applyDeletion_ends {account : Account} (hrow : b.accounts.find? account.id = some account)
    (h : applyDeletion b e account = .ok effect) :
    effect.billing.binding account.id = none ∧
      ∀ c ∈ effect.billing.claims.rows, c.accountId ≠ account.id := by
  -- both branches of the deletion project the account and delete its claims before anything else
  obtain ⟨accounts, hupdate, haccounts, hclaims⟩ : ∃ accounts,
      b.accounts.update? account.id (projectDeletion e account) = some accounts ∧
        effect.billing.accounts = accounts ∧
        effect.billing.claims = b.claims.deleteWhere (·.accountId = account.id) := by
    simp only [applyDeletion, bind_eq_ok, Billing.update_eq_ok, Stored.table, Stored.install] at h
    obtain ⟨_, ⟨accounts, hupdate, rfl⟩, h⟩ := h
    -- the outstanding balance decides whether a revocation is posted
    split at h
    · simp only [bind_eq_ok, pure_eq_ok, Billing.updateWhere_eq_ok, Stored.table,
        Stored.install] at h
      obtain ⟨_, rfl, _, ⟨planChanges, -, rfl⟩, rfl⟩ := h
      exact ⟨accounts, hupdate, rfl, rfl⟩
    · simp only [bind_eq_ok, pure_eq_ok, Billing.insertLedger, Billing.insert_eq_ok,
        Billing.updateWhere_eq_ok, Stored.table, Stored.install] at h
      obtain ⟨_, ⟨ledger, -, rfl⟩, _, ⟨planChanges, -, rfl⟩, rfl⟩ := h
      exact ⟨accounts, hupdate, rfl, rfl⟩
  constructor
  · have hfind := Table.find?_update_self hupdate fun _ => rfl
    rw [hrow, Option.map_some] at hfind
    rw [Billing.binding, haccounts, hfind]
    rfl
  -- no claim of the account survives `delete_claims`
  · intro c hc hmine
    rw [hclaims] at hc
    have hother := (List.mem_filter.1 hc).2
    simp [hmine] at hother

/-- **An Event** keeps the binding of an account, makes it by the claim its Subscription was
    opened for, or ends it together with the claim. -/
theorem process_binding {db db' : Db} {result : ProcessResult} (hb : Bindings db.billing)
    (hsessions : ∀ c ∈ db.billing.claims.rows, ∀ sessionId, c.sessionId = some sessionId →
      owner sessionId = c.claimToken)
    (hgenuine : e.Genuine cfg.unicode owner) (h : process cfg tx db e = .ok (db', result))
    (accountId : String) : BindingMove owner db.billing db'.billing accountId := by
  rcases process_cases h with ⟨-, hsame⟩ | ⟨hreaches, effect, hdispatch, hsame⟩
  · exact .kept (by rw [hsame])
  rw [hsame]
  rcases dispatch_posts hdispatch with hquiet | ⟨a, a', hposted, hprojected⟩
  · exact .kept (by rw [Billing.binding, hquiet.accounts, Billing.binding])
  rcases hposted.binding accountId with ⟨rfl, hbefore, hafter⟩ | hkept
  case inr => exact .kept hkept
  have hrow := Table.find?_mem hposted.before
  cases hb.projected (reachesHandler_shape hreaches) hrow hprojected with
  | kept hsub _ => exact .kept (by rw [hafter, hsub, hbefore])
  | @bound hnone id hid _ =>
    have hkind := hprojected.binds hnone hid
    rcases hprojected.authorized hb hrow hkind with hsub | ⟨bound, hbound, -⟩ |
      ⟨-, hclaim, id', hnamed, hid'⟩
    · have hkept : a'.stripeSubscriptionId = a.stripeSubscriptionId :=
        (congrArg Account.stripeSubscriptionId hsub :)
      rw [hid, hnone] at hkept
      cases hkept
    · exact absurd (hnone.symm.trans hbound) nofun
    · cases hid.symm.trans hid'
      obtain ⟨c, hc, hmine, htoken⟩ := hclaim.named hsessions hgenuine hkind hnamed
      exact .bound (hbefore.trans hnone) hc hmine (hafter.trans hid) htoken
  | ended hends hnone _ =>
    -- only the deletion ends a binding
    refine .ended (hafter.trans hnone) ?_
    simp only [StripeEntitlements.dispatch, hends.1] at hdispatch
    rcases Guarded.andThen_eq_ok hdispatch with ⟨-, hstop⟩ | ⟨account, hpassed, hdelete⟩
    · exact absurd hends.2 (hstop _)
    · cases hends.2.symm.trans hpassed
      exact (applyDeletion_ends hposted.before hdelete).2

/-- **Every transaction** moves a binding so. -/
theorem AuthorityStep.moves {s s' : Authority} (h : AuthorityStep cfg catalog owner s s')
    (hs : AuthorityInvariant cfg owner s) (accountId : String) :
    BindingMove owner s.db.billing s'.db.billing accountId := by
  cases h with
  | other h hinbox _ => exact .kept (h.binding hinbox accountId)
  | desk act hrun _ hgenuine =>
    rcases DeskAct.cases hrun with ⟨tx, e, result, rfl, hprocess⟩ | rfl | ⟨b, houtside, rfl⟩
    · exact process_binding hs.reachable.bindings hs.sessions hgenuine hprocess accountId
    · exact .kept rfl
    · exact .kept (houtside.binding accountId)

/-! ## Spent tokens -/

/-- A token that was drawn and is gone: no claim of the account carries it, and the account
    is not bound to a Subscription opened in its name. -/
structure Spent (owner : String → String) (accountId token : String) (s : Authority) : Prop where
  drawn : token ∈ s.drawn
  claims : ∀ c ∈ s.db.billing.claims.rows, c.accountId = accountId → c.claimToken ≠ token
  binding : ∀ id, s.db.billing.binding accountId = some id → owner id ≠ token

theorem AuthorityStep.drawn {s s' : Authority} (h : AuthorityStep cfg catalog owner s s')
    {token : String} (htoken : token ∈ s.drawn) : token ∈ s'.drawn := by
  cases h with
  | desk _ _ _ _ => exact List.mem_append_right _ htoken
  | other _ _ _ => exact htoken

theorem AuthorityStep.claims {s s' : Authority} (h : AuthorityStep cfg catalog owner s s') :
    ∀ c ∈ s'.db.billing.claims.rows, (∃ c₀ ∈ s.db.billing.claims.rows,
      c₀.accountId = c.accountId ∧ c₀.claimToken = c.claimToken) ∨ c.claimToken ∉ s.drawn := by
  intro c hc
  cases h with
  | desk act hrun hfresh hgenuine =>
    rcases DeskAct.claims hrun hgenuine c hc with ⟨c₀, hc₀, hmine, htoken, -⟩ | ⟨hnew, -⟩
    · exact .inl ⟨c₀, hc₀, hmine, htoken⟩
    · exact .inr (hfresh _ hnew)
  | other _ _ hclaims => exact .inl ⟨c, hclaims ▸ hc, rfl, rfl⟩

variable {accountId token : String}

/-- **A spent token** stays spent: fresh claims have fresh tokens. -/
theorem Spent.step {s s' : Authority} (h : Spent owner accountId token s)
    (hs : AuthorityInvariant cfg owner s) (hstep : AuthorityStep cfg catalog owner s s') :
    Spent owner accountId token s' where
  drawn := hstep.drawn h.drawn
  claims c hc hmine htoken := by
    rcases hstep.claims c hc with ⟨c₀, hc₀, hmine₀, htoken₀⟩ | hfresh
    · exact h.claims c₀ hc₀ (hmine₀.trans hmine) (htoken₀.trans htoken)
    · exact hfresh (htoken ▸ h.drawn)
  binding id hid := by
    cases hstep.moves hs accountId with
    | kept hkept => exact h.binding id (hkept.symm.trans hid)
    | bound _ hc hmine hid' htoken =>
      cases hid.symm.trans hid'
      exact htoken ▸ h.claims _ hc hmine
    | ended hnone _ => exact absurd (hnone.symm.trans hid) nofun

theorem Spent.run {s s' : Authority} (h : Spent owner accountId token s)
    (hs : AuthorityInvariant cfg owner s) (hrun : AuthorityRun cfg catalog owner s s') :
    Spent owner accountId token s' := by
  induction hrun with
  | refl => exact h
  | tail hrun hstep ih => exact ih.step (AuthorityRun.invariant hrun hs) hstep

/-- A binding that ends spends every token drawn so far. -/
theorem AuthorityStep.spends {s s' : Authority} (hstep : AuthorityStep cfg catalog owner s s')
    (hnone : s'.db.billing.binding accountId = none)
    (hclaims : ∀ c ∈ s'.db.billing.claims.rows, c.accountId ≠ accountId)
    (htoken : token ∈ s.drawn) : Spent owner accountId token s' where
  drawn := hstep.drawn htoken
  claims c hc hmine := absurd hmine (hclaims c hc)
  binding _ hid := absurd (hnone.symm.trans hid) nofun

/-- An account stays bound until the token of its Subscription is spent. -/
theorem AuthorityRun.bound {s s' : Authority} {id : String}
    (hs : AuthorityInvariant cfg owner s) (hbound : s.db.billing.binding accountId = some id)
    (htoken : owner id ∈ s.drawn) (hrun : AuthorityRun cfg catalog owner s s') :
    owner id ∈ s'.drawn ∧ (s'.db.billing.binding accountId = some id ∨
      Spent owner accountId (owner id) s') := by
  induction hrun with
  | refl => exact ⟨htoken, .inl hbound⟩
  | tail hrun hstep ih =>
    have hbefore := AuthorityRun.invariant hrun hs
    refine ⟨hstep.drawn ih.1, ?_⟩
    rcases ih.2 with hstill | hspent
    · cases hstep.moves hbefore accountId with
      | kept hkept => exact .inl (hkept.trans hstill)
      | bound hnone _ _ _ _ => exact absurd (hnone.symm.trans hstill) nofun
      | ended hnone hclaims => exact .inr (hstep.spends hnone hclaims ih.1)
    · exact .inr (hspent.step hbefore hstep)

/-- **An Event that carries a spent token** changes neither plan, credits nor binding. No claim
    carries the token any more, so the handler finds nothing to complete, and the Subscription it
    was opened for is no longer bound. -/
theorem Spent.inert {s : Authority} {db : Db} {result : ProcessResult}
    (h : Spent owner accountId token s) (hs : AuthorityInvariant cfg owner s)
    (hkind : e.kind.carriesAuthority = true) (hgenuine : e.Genuine cfg.unicode owner)
    (hcarries : e.Carries owner token) (hprocess : process cfg tx s.db e = .ok (db, result))
    {a a' : Account} (ha : s.db.billing.accounts.find? accountId = some a)
    (ha' : db.billing.accounts.find? accountId = some a') : a'.entitlement = a.entitlement := by
  -- an ignored or replayed Event commits no change
  rcases process_cases hprocess with ⟨-, hb⟩ | ⟨-, effect, hdispatch, hb⟩
  · rw [hb, ha, Option.some.injEq] at ha'
    rw [ha']
  rw [hb] at ha'
  -- a handler that posts nothing keeps every account
  rcases dispatch_posts hdispatch with hquiet | ⟨c, c', hposted, hprojected⟩
  · rw [hquiet.accounts, ha, Option.some.injEq] at ha'
    rw [ha']
  -- a posting moves one account: this one, or another, which then is not the one asked about
  rcases hposted.moved ha ha' with ⟨rfl, rfl⟩ | rfl
  case inr => rfl
  have hrow := Table.find?_mem ha
  have hkey : a.id = accountId := Table.find?_key ha
  rcases hprojected.authorized hs.reachable.bindings hrow hkind with hsame | ⟨id, hbound, hnamed⟩ |
    ⟨-, hclaim, id, hnamed, -⟩
  · exact hsame
  · -- the account is bound to a Subscription of another token
    have hbinding : s.db.billing.binding accountId = some id := by
      rw [Billing.binding, ha, Option.bind_some, hbound]
    exact absurd (hgenuine.names hkind hnamed hcarries) (h.binding id hbinding)
  -- an unbound account would need a live claim of the same token, and none is left
  · obtain ⟨claim, hc, hmine, htoken⟩ := hclaim.named hs.sessions hgenuine hkind hnamed
    have hspent : claim.claimToken = token := htoken.trans (hgenuine.names hkind hnamed hcarries)
    exact absurd hspent (h.claims claim hc (hmine.trans hkey))

/-! ## The law -/

/-- The deletion of its Subscription is applied to the account. -/
def Deletes (cfg : Config) (tx : Tx) (db : Db) (e : Event) (accountId : String) : Prop :=
  reachesHandler cfg tx db e = true ∧ e.kind = .customerSubscriptionDeleted ∧
    ∃ account, deletionGuards cfg db.billing e = .ok account ∧ account.id = accountId

/-- An applied deletion unbinds the account and takes its claim. -/
theorem Deletes.ends {db db' : Db} {result : ProcessResult}
    (h : Deletes cfg tx db e accountId) (hprocess : process cfg tx db e = .ok (db', result)) :
    db'.billing.binding accountId = none ∧
      ∀ c ∈ db'.billing.claims.rows, c.accountId ≠ accountId := by
  obtain ⟨hreaches, hkind, account, hguards, rfl⟩ := h
  rcases process_cases hprocess with ⟨hdropped, -⟩ | ⟨-, effect, hdispatch, hb⟩
  · exact absurd (hdropped.symm.trans hreaches) Bool.noConfusion
  rw [hb]
  simp only [StripeEntitlements.dispatch, hkind] at hdispatch
  rcases Guarded.andThen_eq_ok hdispatch with ⟨-, hstop⟩ | ⟨account', hpassed, hdelete⟩
  · exact absurd hguards (hstop _)
  cases hguards.symm.trans hpassed
  have hrow := Table.find?_of_mem (lockAccount_mem (deletionGuards_eq_ok hguards).1)
  exact applyDeletion_ends hrow hdelete

/-- **Checkout authority is one-shot.** A Subscription is bound by the claim it was opened for,
    and that claim binds no other. An applied deletion spends every token drawn before it: no
    claim carries one afterwards, no binding uses one, and a delayed Event that carries one
    leaves plan, credits and binding alone. -/
theorem checkout_authority_one_shot {s : Authority}
    (hrun : AuthorityRun cfg catalog owner .empty s) (accountId : String) :
    (∀ s₁ id, AuthorityStep cfg catalog owner s s₁ →
      s.db.billing.binding accountId ≠ some id → s₁.db.billing.binding accountId = some id →
      ∃ c ∈ s.db.billing.claims.rows, c.accountId = accountId ∧ c.claimToken = owner id ∧
        ∀ s₂ s₃ id', AuthorityRun cfg catalog owner s₁ s₂ → AuthorityStep cfg catalog owner s₂ s₃ →
          s₂.db.billing.binding accountId ≠ some id' → s₃.db.billing.binding accountId = some id' →
          owner id' ≠ c.claimToken ∧
            ∀ c' ∈ s₂.db.billing.claims.rows, c'.accountId = accountId →
              c'.claimToken ≠ c.claimToken) ∧
    ∀ tx e db₁ result, Deletes cfg tx s.db e accountId →
      process cfg tx s.db e = .ok (db₁, result) →
      ∀ token ∈ s.drawn, ∀ s₂, AuthorityRun cfg catalog owner { db := db₁, drawn := s.drawn } s₂ →
        Spent owner accountId token s₂ ∧
        ∀ tx' e' db₃ result' a a', e'.kind.carriesAuthority = true →
          e'.Genuine cfg.unicode owner → e'.Carries owner token →
          process cfg tx' s₂.db e' = .ok (db₃, result') →
          s₂.db.billing.accounts.find? accountId = some a →
          db₃.billing.accounts.find? accountId = some a' → a'.entitlement = a.entitlement := by
  -- the token law is carried by the invariant of a run, and a run keeps it step by step
  have hs := AuthorityRun.invariant hrun .empty
  refine ⟨fun s₁ id hstep hother hid => ?_, fun tx e db₁ result hdeletes hprocess token htoken => ?_⟩
  -- a step keeps the binding, ends it, or makes it by a claim of the account; only the last binds
  · cases hstep.moves hs accountId with
    | kept hkept => exact absurd (hkept.symm.trans hid) hother
    | ended hnone _ => exact absurd (hnone.symm.trans hid) nofun
    | @bound c id' _ hc hmine hid' htoken =>
      cases hid.symm.trans hid'
      refine ⟨c, hc, hmine, htoken, fun s₂ s₃ id₂ hlater hstep₂ hother₂ hid₂ => ?_⟩
      have hs₁ := hstep.keeps hs
      have hs₂ := AuthorityRun.invariant hlater hs₁
      -- the claim's token is drawn, so a later run either keeps the binding or spends the token
      have hdrawn : owner id ∈ s₁.drawn := hstep.drawn (htoken ▸ hs.drawn c hc)
      rcases (AuthorityRun.bound hs₁ hid hdrawn hlater).2 with hstill | hspent
      · -- a bound account is bound anew only after its binding has ended
        cases hstep₂.moves hs₂ accountId with
        | kept hkept => exact absurd (hkept.symm.trans hid₂) hother₂
        | ended hnone _ => exact absurd (hnone.symm.trans hid₂) nofun
        | bound hnone _ _ _ _ => exact absurd (hnone.symm.trans hstill) nofun
      -- a spent token is on no claim, and no later binding is made by it
      · rw [htoken]
        exact ⟨(hspent.step hs₂ hstep₂).binding id₂ hid₂, hspent.claims⟩
  -- the deletion is itself a step of the run, and it spends every token drawn before it
  · intro s₂ hlater
    have hgenuine : (DeskAct.event tx e).authentic cfg.unicode owner := by
      intro hkind
      rw [hdeletes.2.1] at hkind
      -- a deletion carries no authority, so its authenticity asks for nothing
      cases hkind
    have hstep : AuthorityStep cfg catalog owner s { db := db₁, drawn := s.drawn } := by
      refine .desk (.event tx e) ?_ (fun _ hnew => absurd hnew List.not_mem_nil) hgenuine
      simp only [DeskAct.run, bind_eq_ok, pure_eq_ok]
      exact ⟨_, hprocess, rfl⟩
    obtain ⟨hnone, hclaims⟩ := hdeletes.ends hprocess
    have hs₁ := hstep.keeps hs
    -- what a step spends stays spent along every later run
    have hspent := (hstep.spends hnone hclaims htoken).run hs₁ hlater
    refine ⟨hspent, fun tx' e' db₃ result' a a' hkind hgenuine' hcarries hprocess' ha ha' => ?_⟩
    exact hspent.inert (AuthorityRun.invariant hlater hs₁) hkind hgenuine' hcarries hprocess' ha ha'

/-! ## A Subscription that was bound and deleted -/

/-- An account checks out the pro plan, and its first Invoice binds `sub_1`. -/
def boundFirst : Transaction Db := do
  let db ← (DeskAct.openAccount referenceAccountId "user_1").run referenceConfig referencePacks
    .empty
  let db ← (DeskAct.reserveCheckout (referenceTx 0) "claim" proCheckout).run referenceConfig
    referencePacks db
  (DeskAct.event (referenceTx 1) paidFirst).run referenceConfig referencePacks db

theorem boundFirst_run {db : Db} (h : boundFirst = .ok db) :
    AuthorityRun referenceConfig referencePacks (fun _ => "claim") .empty
      { db, drawn := ["claim"] } := by
  simp only [boundFirst, bind_eq_ok] at h
  obtain ⟨db₁, hopen, db₂, hreserve, hpaid⟩ := h
  have htoken : paidFirst.claimToken.text = "claim" := by decide +kernel
  have hgenuine : paidFirst.Genuine referenceConfig.unicode fun _ => "claim" :=
    fun _ _ _ => ⟨fun _ => htoken, fun _ => rfl⟩
  have hopened : AuthorityStep referenceConfig referencePacks (fun _ => "claim") .empty
      { db := db₁, drawn := [] } :=
    .desk (.openAccount referenceAccountId "user_1") hopen
      (fun _ hnew => absurd hnew List.not_mem_nil) trivial
  have hreserved : AuthorityStep referenceConfig referencePacks (fun _ => "claim")
      { db := db₁, drawn := [] } { db := db₂, drawn := ["claim"] } :=
    .desk (.reserveCheckout (referenceTx 0) "claim" proCheckout) hreserve
      (fun _ _ => List.not_mem_nil) trivial
  have hbound : AuthorityStep referenceConfig referencePacks (fun _ => "claim")
      { db := db₂, drawn := ["claim"] } { db, drawn := ["claim"] } :=
    .desk (.event (referenceTx 1) paidFirst) hpaid
      (fun _ hnew => absurd hnew List.not_mem_nil) hgenuine
  exact ((Relation.ReflTransGen.single hopened).tail hreserved).tail hbound

/-- Once `sub_1` is deleted, the token it was opened for is spent for good. -/
theorem boundFirst_spent :
    ∃ db db₁ result, boundFirst = .ok db ∧
      db.billing.binding referenceAccountId = some "sub_1" ∧
      process referenceConfig (referenceTx 2) db (deletedSubscription "evt_deleted" "sub_1" 300) =
        .ok (db₁, result) ∧
      ∀ s, AuthorityRun referenceConfig referencePacks (fun _ => "claim")
        { db := db₁, drawn := ["claim"] } s →
          Spent (fun _ => "claim") referenceAccountId "claim" s := by
  let deleted := deletedSubscription "evt_deleted" "sub_1" 300
  -- the run up to the deletion is evaluated once; its facts are then read off the result
  have hok : (boundFirst >>= fun db => do
      let processed ← process referenceConfig (referenceTx 2) db deleted
      pure (db.billing.binding referenceAccountId,
        reachesHandler referenceConfig (referenceTx 2) db deleted,
        (deletionGuards referenceConfig db.billing deleted).toOption.map Account.id,
        processed.2.outcome)) =
      .ok (some "sub_1", true, some referenceAccountId, .handled) := by decide +kernel
  simp only [bind_eq_ok, pure_eq_ok, Prod.mk.injEq] at hok
  obtain ⟨db, hrun, ⟨db₁, result⟩, hprocess, hbinding, hreaches, hguards, -⟩ := hok
  refine ⟨db, db₁, result, hrun, hbinding, hprocess, fun s hlater => ?_⟩
  -- the deletion reached its handler and its guards passed for the reference account
  have hdeletes : Deletes referenceConfig (referenceTx 2) db deleted referenceAccountId := by
    refine ⟨hreaches, by decide +kernel, ?_⟩
    cases hpassed : deletionGuards referenceConfig db.billing deleted with
    | error stop =>
      rw [hpassed] at hguards
      cases hguards
    | ok account =>
      rw [hpassed] at hguards
      exact ⟨account, rfl, Option.some.inj hguards⟩
  have hlaw := checkout_authority_one_shot (boundFirst_run hrun) referenceAccountId
  exact (hlaw.2 _ _ _ _ hdeletes hprocess "claim" (List.mem_singleton_self _) s hlater).1

end StripeEntitlements
