import StripeEntitlements.Checkout.Coordinator
import StripeEntitlements.Identity.Guards
import StripeEntitlements.Ledger.EventPostings

/-!
# Single Flight of the First Customer

Two coordinators reserve Checkouts of one account in two tables. Until the account has a
Customer, at most one of these reservations is in flight: a claim that has not expired, or an
order that is pending, not expired and inside its window. A retry gets its own reservation
back, and only the Session or the holder of a reservation ends it.

## Main results

- `SingleFlight.of_fewer` — steps that reserve nothing keep the single flight
- `DeskStep.keeps` — so does every step
- `first_customer_single_flight` — the claim over all runs
-/

namespace StripeEntitlements

open Relational

variable {cfg : Config} {catalog : PackCatalog} {owner : String → String} {tx : Tx}
  {b b' : Billing} {e : Event} {effect : Effect}

/-! ## Customers -/

/-- Only accounts that get their Customer are written. -/
structure CustomersOnly (b b' : Billing) : Prop where
  unbound : ∀ a' ∈ b'.accounts.rows, a'.stripeCustomerId = none → a' ∈ b.accounts.rows
  bound : ∀ accountId, b.HasCustomer accountId → b'.HasCustomer accountId

namespace CustomersOnly

theorem of_accounts (h : b'.accounts = b.accounts) : CustomersOnly b b' where
  unbound a' ha' _ := h ▸ ha'
  bound _ hbound := by
    obtain ⟨a, ha, hid, hcustomer⟩ := hbound
    exact ⟨a, h ▸ ha, hid, hcustomer⟩

/-- One account without a Customer was rewritten. -/
theorem of_posts {a a' : Account} (h : Posts a a' b b')
    (hnone : a.stripeCustomerId.isSome → a'.stripeCustomerId.isSome)
    (hsame : a'.stripeCustomerId = none → a' = a) : CustomersOnly b b' where
  unbound r hr hfree := by
    have hrow : b'.accounts.find? r.id = some r := Table.find?_of_mem hr
    by_cases hid : r.id = a.id
    · rw [hid, h.after, Option.some.injEq] at hrow
      subst hrow
      exact hsame hfree ▸ Table.find?_mem h.before
    · rw [h.others _ hid] at hrow
      exact Table.find?_mem hrow
  bound accountId hbound := by
    obtain ⟨r, hr, hid, hcustomer⟩ := hbound
    have hrow : b.accounts.find? r.id = some r := Table.find?_of_mem hr
    by_cases hkey : r.id = a.id
    · rw [hkey, h.before, Option.some.injEq] at hrow
      subst hrow
      exact ⟨a', Table.find?_mem h.after, h.id_eq.trans hid, hnone hcustomer⟩
    · exact ⟨r, Table.find?_mem ((h.others _ hkey).trans hrow), hid, hcustomer⟩

theorem of_binds (h : BindsCustomer b b') : CustomersOnly b b' := by
  rcases h with hsame | ⟨a, customerId, accounts, hnone, hposted, hsame⟩
  · exact .of_accounts hsame.accounts
  · have hbound : CustomersOnly b { b with accounts := accounts } :=
      .of_posts hposted (fun hsome => by simp [hnone] at hsome) fun hfree => by
        have hfree' : customerId = none := hfree
        rw [hfree', ← hnone]
    have haccounts : b'.accounts = accounts := hsame.accounts
    exact ⟨fun a' ha' hfree => hbound.unbound a' (haccounts ▸ ha') hfree, fun id hid => by
      obtain ⟨r, hr, hkey, hcustomer⟩ := hbound.bound id hid
      exact ⟨r, haccounts ▸ hr, hkey, hcustomer⟩⟩

end CustomersOnly

/-- The Events of first Checkouts. -/
def EventType.isCheckout : EventType → Bool
  | .checkoutSessionCompleted | .checkoutSessionExpired | .paymentIntentSucceeded => true
  | _ => false

theorem checkoutCompleted_customers (h : checkoutCompleted cfg b e = .ok effect) :
    CustomersOnly b effect.billing := by
  rcases Guarded.andThen_eq_ok h with ⟨hb, -⟩ | ⟨s, hs, h⟩
  · exact .of_accounts (hb ▸ rfl)
  simp only [bind_eq_ok, Billing.update_eq_ok, pure_eq_ok, Stored.table, Stored.install] at h
  obtain ⟨_, ⟨accounts, haccounts, rfl⟩, rfl⟩ := h
  have hrow := Table.find?_of_mem (lockAccount_mem (completedSessionGuards_eq_ok hs).1)
  have hposted : Posts s.account (bindSession s s.account) b { b with accounts := accounts } :=
    Posting.update (f := bindSession s) hrow haccounts (fun _ => rfl) (.refl _ _ _)
  have hbound : (bindSession s s.account).stripeCustomerId.isSome := by
    cases hcustomer : s.account.stripeCustomerId <;> simp [bindSession, hcustomer]
  have hcustomers : CustomersOnly b { b with accounts := accounts } :=
    .of_posts hposted (fun _ => hbound) fun hfree => by simp [hfree] at hbound
  exact ⟨hcustomers.unbound, hcustomers.bound⟩

/-- **A Checkout Event** writes no account but the one that gets its Customer. -/
theorem dispatch_customers (hkind : e.kind.isCheckout = true)
    (h : dispatch cfg tx b e = .ok effect) : CustomersOnly b effect.billing := by
  cases hk : e.kind <;> simp only [dispatch, hk] at h <;> rw [hk] at hkind
  case paymentIntentSucceeded => exact .of_binds (paymentSucceeded_binds h)
  case checkoutSessionCompleted =>
    cases hrun : packCheckoutEvent cfg b e with
    | none =>
      rw [hrun] at h
      exact checkoutCompleted_customers h
    | some run =>
      rw [hrun] at h
      exact .of_binds (packCheckoutEvent_binds hrun h)
  case checkoutSessionExpired =>
    cases hrun : packCheckoutEvent cfg b e with
    | none =>
      rw [hrun] at h
      exact .of_accounts (checkoutExpired_unposted h).accounts
    | some run =>
      rw [hrun] at h
      exact .of_binds (packCheckoutEvent_binds hrun h)
  all_goals cases hkind

/-! ## Single flight -/

/-- The reservations that may still become the first payment of the account. -/
structure SingleFlight (b : Billing) (now : Int) : Prop where
  orders : ∀ o ∈ b.orders.rows, ∀ o' ∈ b.orders.rows, ¬b.HasCustomer o.accountId →
    o'.accountId = o.accountId → o.openAt now = true → o'.openAt now = true → o'.id = o.id
  either : ∀ c ∈ b.claims.rows, ¬b.HasCustomer c.accountId → now < c.expiresAt →
    ∀ o ∈ b.orders.rows, o.accountId = c.accountId → o.openAt now = false

theorem PackOrder.openAt_earlier {o : PackOrder} {now later : Int} (hle : now ≤ later)
    (h : o.openAt later = true) : o.openAt now = true := by
  simp only [openAt, Bool.and_eq_true, decide_eq_true_eq] at h ⊢
  exact ⟨h.1, hle.trans_lt h.2⟩

namespace SingleFlight

/-- Reservations run out as time passes. -/
theorem later {now later : Int} (h : SingleFlight b now) (hle : now ≤ later) :
    SingleFlight b later where
  orders o ho o' ho' hfree hsame hopen hopen' :=
    h.orders o ho o' ho' hfree hsame (o.openAt_earlier hle hopen) (o'.openAt_earlier hle hopen')
  either c hc hfree hlive o ho hsame := by
    by_contra hopen
    rw [Bool.not_eq_false] at hopen
    have hclosed := h.either c hc hfree (hle.trans_lt hlive) o ho hsame
    rw [o.openAt_earlier hle hopen] at hclosed
    cases hclosed

/-- A step that reserves nothing: Customers stay, and whatever is in flight was. -/
theorem of_fewer {now : Int} (h : SingleFlight b now)
    (hcustomers : ∀ accountId, b.HasCustomer accountId → b'.HasCustomer accountId)
    (hclaims : ∀ c' ∈ b'.claims.rows, ∃ c ∈ b.claims.rows,
      c.accountId = c'.accountId ∧ c.expiresAt = c'.expiresAt)
    (horders : ∀ o' ∈ b'.orders.rows, ¬b'.HasCustomer o'.accountId → o'.openAt now = true →
      ∃ o ∈ b.orders.rows, o.id = o'.id ∧ o.accountId = o'.accountId ∧ o.openAt now = true) :
    SingleFlight b' now where
  orders o ho o' ho' hfree hsame hopen hopen' := by
    obtain ⟨o₀, ho₀, hid, howner, hopen₀⟩ := horders o ho hfree hopen
    obtain ⟨o₁, ho₁, hid', howner', hopen₁⟩ := horders o' ho' (hsame ▸ hfree) hopen'
    have hfree₀ : ¬b.HasCustomer o₀.accountId := fun hbound =>
      hfree (howner ▸ hcustomers _ hbound)
    have hsame₀ : o₁.accountId = o₀.accountId := howner'.trans (hsame.trans howner.symm)
    exact hid'.symm.trans ((h.orders o₀ ho₀ o₁ ho₁ hfree₀ hsame₀ hopen₀ hopen₁).trans hid)
  either c' hc' hfree hlive o' ho' hsame := by
    obtain ⟨c, hc, howner, hexpires⟩ := hclaims c' hc'
    by_contra hopen
    rw [Bool.not_eq_false] at hopen
    obtain ⟨o, ho, -, howner', hopen₀⟩ := horders o' ho' (hsame ▸ hfree) hopen
    have hfree₀ : ¬b.HasCustomer c.accountId := fun hbound => hfree (howner ▸ hcustomers _ hbound)
    have hsame₀ : o.accountId = c.accountId := howner'.trans (hsame.trans howner.symm)
    have hclosed := h.either c hc hfree₀ (hexpires ▸ hlive) o ho hsame₀
    rw [hopen₀] at hclosed
    cases hclosed

/-- Events serve the desk: an order that is open afterwards was open before. -/
theorem served {now : Int} (h : SingleFlight b now) (hserved : Served b'.HasCustomer b b')
    (hcustomers : ∀ accountId, b.HasCustomer accountId → b'.HasCustomer accountId) :
    SingleFlight b' now := by
  refine h.of_fewer hcustomers (fun c hc => ⟨c, hserved.claims c hc, rfl, rfl⟩) ?_
  intro o' ho' hfree hopen
  obtain ⟨f, hrows, hf⟩ := hserved.orders
  rw [hrows] at ho'
  obtain ⟨o, ho, rfl⟩ := List.mem_map.1 ho'
  obtain ⟨hbooking, hpending, hexpired⟩ := hf o ho
  have hid : (f o).id = o.id := (congrArg PackOrder.id hbooking :)
  have howner : (f o).accountId = o.accountId := (congrArg PackOrder.accountId hbooking :)
  have hwindow : (f o).claimExpiresAt = o.claimExpiresAt :=
    (congrArg PackOrder.claimExpiresAt hbooking :)
  simp only [PackOrder.openAt, Bool.and_eq_true, decide_eq_true_eq] at hopen
  refine ⟨o, ho, hid.symm, howner.symm, ?_⟩
  simp only [PackOrder.openAt, Bool.and_eq_true, decide_eq_true_eq]
  refine ⟨⟨hpending hopen.1.1, fun hclosed => ?_⟩, hwindow ▸ hopen.2⟩
  rcases hexpired hclosed with hstill | hbound
  · exact hopen.1.2 hstill
  · exact hfree (howner ▸ hbound)

end SingleFlight

/-! ## Reservations -/

/-- A Subscription Checkout is reserved anew, where no claim of its account is live. -/
structure ClaimsAnew (tx : Tx) (b : Billing) (token : String) (account : Account)
    (claim : CheckoutClaim) (b' : Billing) : Prop where
  idle : ∀ c ∈ b.claims.rows, c.accountId = account.id → c.expiresAt ≤ tx.wall
  owner : claim.accountId = account.id
  token : claim.claimToken = token
  unattached : claim.sessionId = none
  billing : ∃ claims, b' = { b with claims := claims } ∧
    claims.rows = (b.claims.rows.filter fun c => !decide (c.accountId = account.id)) ++ [claim]

theorem reserveCheckout_eq_ok {u : Unicode} {token : String} {req : CheckoutRequest}
    {claim : CheckoutClaim} (h : reserveCheckout u tx b token req = .ok (b', claim)) :
    ∃ account, b.accounts.find? req.accountId = some account ∧
      (account.stripeCustomerId.isSome ∨ b.openPackOrder account.id tx.wall = false) ∧
      (b' = b ∨ ClaimsAnew tx b token account claim b') := by
  simp only [reserveCheckout, bind_eq_ok, fetch_eq_ok, require_eq_ok] at h
  obtain ⟨⟨interval, key⟩, -, account, haccount, _, -, _, hgate, h⟩ := h
  simp only [Bool.or_eq_true, Bool.not_eq_true'] at hgate
  refine ⟨account, haccount, hgate, ?_⟩
  split at h
  case h_1 existing hexisting =>
    simp only [bind_eq_ok, require_eq_ok, pure_eq_ok] at h
    obtain ⟨_, -, heq⟩ := h
    cases heq
    exact .inl rfl
  case h_2 hidle =>
    simp only [bind_eq_ok, Billing.insert_eq_ok, pure_eq_ok, Stored.table, Stored.install] at h
    obtain ⟨_, ⟨claims, hinsert, rfl⟩, heq⟩ := h
    cases heq
    refine .inr ⟨fun c hc howner => ?_, rfl, rfl, rfl, claims, rfl, Table.insert?_eq_some.1 hinsert⟩
    have hrow : b.claims.find? account.id = some c := Table.find?_eq_some_iff.2 ⟨hc, howner⟩
    rw [hrow, Option.filter_eq_none_iff] at hidle
    simpa using hidle c rfl

/-- A reservation that was answered is stored, and not expired yet. -/
theorem reserveCheckout_stored {u : Unicode} {token : String} {req : CheckoutRequest}
    {claim : CheckoutClaim} (h : reserveCheckout u tx b token req = .ok (b', claim)) :
    claim ∈ b'.claims.rows ∧ tx.wall < claim.expiresAt := by
  simp only [reserveCheckout, CheckoutRequest.checked, bind_eq_ok, fetch_eq_ok, require_eq_ok,
    decide_eq_true_eq] at h
  obtain ⟨⟨interval, key⟩, ⟨_, httl, -⟩, account, -, _, -, _, -, h⟩ := h
  split at h
  case h_1 existing hexisting =>
    simp only [bind_eq_ok, require_eq_ok, pure_eq_ok] at h
    obtain ⟨_, -, heq⟩ := h
    cases heq
    obtain ⟨hfound, hlive⟩ := Option.filter_eq_some_iff.1 hexisting
    exact ⟨Table.find?_mem hfound, of_decide_eq_true hlive⟩
  case h_2 =>
    simp only [bind_eq_ok, Billing.insert_eq_ok, pure_eq_ok, Stored.table, Stored.install] at h
    obtain ⟨_, ⟨claims, hinsert, rfl⟩, heq⟩ := h
    cases heq
    refine ⟨?_, by dsimp only; omega⟩
    change _ ∈ claims.rows
    rw [Table.insert?_eq_some.1 hinsert]
    exact List.mem_append_right _ (List.mem_singleton.2 rfl)

/-- A pack order is reserved anew. -/
theorem reservePack_eq_ok {u : Unicode} {orderId : String} {req : PackRequest} {order : PackOrder}
    (h : reservePack u catalog tx b orderId req = .ok (b', order)) :
    b' = b ∨ ∃ account orders, b.accounts.find? req.accountId = some account ∧
      (account.stripeCustomerId.isSome ∨
        (∀ c ∈ b.claims.rows, c.accountId = account.id → c.expiresAt ≤ tx.wall) ∧
          b.openPackOrder account.id tx.wall = false) ∧
      order.accountId = account.id ∧ b.orders.insert? order = some orders ∧
      b' = { b with orders := orders } := by
  simp only [reservePack, bind_eq_ok, fetch_eq_ok] at h
  obtain ⟨_, -, account, haccount, h⟩ := h
  split at h
  -- the order of this request key is stored: the call returns it and writes nothing
  case h_1 existing _ =>
    simp only [bind_eq_ok, require_eq_ok, pure_eq_ok] at h
    obtain ⟨_, -, _, -, _, -, _, -, heq⟩ := h
    cases heq
    exact .inl rfl
  -- no such order: the gate is what keeps an account without a Customer to one reservation
  case h_2 =>
    simp only [bind_eq_ok, require_eq_ok, Billing.insert_eq_ok, pure_eq_ok, Stored.table,
      Stored.install] at h
    obtain ⟨_, hgate, _, -, _, ⟨orders, hinsert, rfl⟩, heq⟩ := h
    cases heq
    refine .inr ⟨account, orders, haccount, ?_, rfl, hinsert, rfl⟩
    simp only [Bool.or_eq_true, Bool.and_eq_true, Bool.not_eq_true', List.any_eq_false,
      decide_eq_true_eq, not_and, not_lt] at hgate
    exact hgate

/-- A pack reservation that was answered is stored, and inside its window. -/
theorem reservePack_stored {u : Unicode} {orderId : String} {req : PackRequest} {order : PackOrder}
    (h : reservePack u catalog tx b orderId req = .ok (b', order)) :
    order ∈ b'.orders.rows ∧ tx.wall < order.claimExpiresAt := by
  simp only [reservePack, PackRequest.checked, bind_eq_ok, fetch_eq_ok, require_eq_ok,
    Bool.and_eq_true, decide_eq_true_eq] at h
  obtain ⟨_, ⟨_, -, httl, -⟩, account, -, h⟩ := h
  split at h
  case h_1 existing hexisting =>
    simp only [bind_eq_ok, require_eq_ok, pure_eq_ok, decide_eq_true_eq] at h
    obtain ⟨_, -, _, -, _, -, _, hopen, heq⟩ := h
    cases heq
    exact ⟨List.mem_of_find?_eq_some hexisting, hopen⟩
  case h_2 =>
    simp only [bind_eq_ok, require_eq_ok, Billing.insert_eq_ok, pure_eq_ok, Stored.table,
      Stored.install] at h
    obtain ⟨_, -, _, -, _, ⟨orders, hinsert, rfl⟩, heq⟩ := h
    cases heq
    refine ⟨?_, by dsimp only; omega⟩
    change _ ∈ orders.rows
    rw [Table.insert?_eq_some.1 hinsert]
    exact List.mem_append_right _ (List.mem_singleton.2 rfl)

theorem openPackOrder_eq_false {accountId : String} {now : Int}
    (h : b.openPackOrder accountId now = false) {o : PackOrder} (ho : o ∈ b.orders.rows)
    (howner : o.accountId = accountId) : o.openAt now = false := by
  rw [Billing.openPackOrder, List.any_eq_false] at h
  have hclosed := h o ho
  simpa [howner] using hclosed

theorem SingleFlight.claimsAnew {token : String} {account : Account} {claim : CheckoutClaim}
    (h : SingleFlight b tx.wall) (haccount : account ∈ b.accounts.rows)
    (hgate : account.stripeCustomerId.isSome ∨ b.openPackOrder account.id tx.wall = false)
    (hanew : ClaimsAnew tx b token account claim b') : SingleFlight b' tx.wall := by
  obtain ⟨claims, rfl, hrows⟩ := hanew.billing
  refine ⟨h.orders, fun c hc hfree hlive o ho howner => ?_⟩
  have hmem : c ∈ claims.rows := hc
  rw [hrows, List.mem_append, List.mem_singleton] at hmem
  rcases hmem with hold | rfl
  · exact h.either c (List.mem_filter.1 hold).1 hfree hlive o ho howner
  · -- the gate saw no open order of an account without a Customer
    rcases hgate with hbound | hclosed
    · exact absurd ⟨account, haccount, hanew.owner.symm, hbound⟩ hfree
    · exact openPackOrder_eq_false hclosed ho (howner.trans hanew.owner)

theorem SingleFlight.insertOrder {account : Account} {order : PackOrder} {orders : Table PackOrder}
    (h : SingleFlight b tx.wall) (haccount : account ∈ b.accounts.rows)
    (hgate : account.stripeCustomerId.isSome ∨
      (∀ c ∈ b.claims.rows, c.accountId = account.id → c.expiresAt ≤ tx.wall) ∧
        b.openPackOrder account.id tx.wall = false)
    (howner : order.accountId = account.id) (hinsert : b.orders.insert? order = some orders) :
    SingleFlight { b with orders := orders } tx.wall := by
  have hrows := Table.insert?_eq_some.1 hinsert
  have hmem : ∀ o ∈ orders.rows, o ∈ b.orders.rows ∨ o = order := fun o ho => by
    rw [hrows, List.mem_append, List.mem_singleton] at ho
    exact ho
  -- an account without a Customer had nothing in flight
  have hidle : ∀ accountId, ¬b.HasCustomer accountId → accountId = order.accountId →
      (∀ c ∈ b.claims.rows, c.accountId = accountId → c.expiresAt ≤ tx.wall) ∧
        b.openPackOrder accountId tx.wall = false := by
    intro accountId hfree hsame
    rw [hsame, howner]
    refine hgate.resolve_left fun hbound => hfree ⟨account, haccount, ?_, hbound⟩
    rw [hsame, howner]
  constructor
  · intro o ho o' ho' hfree hsame hopen hopen'
    rcases hmem o ho with hold | rfl <;> rcases hmem o' ho' with hold' | rfl
    · exact h.orders o hold o' hold' hfree hsame hopen hopen'
    · have hclosed := openPackOrder_eq_false (hidle o.accountId hfree hsame.symm).2 hold rfl
      rw [hopen] at hclosed
      cases hclosed
    · have hclosed := openPackOrder_eq_false (hidle o.accountId hfree rfl).2 hold' hsame
      rw [hopen'] at hclosed
      cases hclosed
    · rfl
  · intro c hc hfree hlive o ho hsame
    rcases hmem o ho with hold | rfl
    · exact h.either c hc hfree hlive o hold hsame
    · have hover := (hidle c.accountId hfree hsame.symm).1 c hc rfl
      omega

/-! ## The desk -/

/-- The database and the clock of the last transaction. -/
structure Desk where
  db : Db
  clock : Int

def Desk.empty : Desk := { db := .empty, clock := 0 }

/-- What happens at the desk. A reservation that is frozen, attached or released may be a
    stale one: its holder can be arbitrarily late. -/
inductive DeskAct where
  | openAccount (id externalRef : String)
  | reserveCheckout (tx : Tx) (token : String) (req : CheckoutRequest)
  | freezeCheckout (reservation : CheckoutClaim) (snapshot : String)
  | attachSession (reservation : CheckoutClaim) (sessionId sessionUrl : String)
  | release (reservation : CheckoutClaim)
  | reservePack (tx : Tx) (orderId : String) (req : PackRequest)
  | freezePack (orderId snapshot : String)
  | attachPack (orderId sessionId sessionUrl : String)
  | event (tx : Tx) (e : Event)
  | tick (now : Int)

namespace DeskAct

def run (cfg : Config) (catalog : PackCatalog) (db : Db) : DeskAct → Transaction Db
  | openAccount id externalRef => do
      let b ← db.billing.insert { id, externalRef : Account }
      pure { db with billing := b }
  | reserveCheckout tx token req => do
      let (b, _) ← StripeEntitlements.reserveCheckout cfg.unicode tx db.billing token req
      pure { db with billing := b }
  | freezeCheckout reservation snapshot => do
      let (b, _) ← StripeEntitlements.freezeCheckout db.billing reservation snapshot
      pure { db with billing := b }
  | attachSession reservation sessionId sessionUrl => do
      let (b, _) ← StripeEntitlements.attachSession cfg.unicode db.billing reservation sessionId
        sessionUrl
      pure { db with billing := b }
  | release reservation =>
      pure { db with billing := (releaseCheckout db.billing reservation).1 }
  | reservePack tx orderId req => do
      let (b, _) ← StripeEntitlements.reservePack cfg.unicode catalog tx db.billing orderId req
      pure { db with billing := b }
  | freezePack orderId snapshot => do
      let (b, _) ← StripeEntitlements.freezePack db.billing orderId snapshot
      pure { db with billing := b }
  | attachPack orderId sessionId sessionUrl => do
      let b ← StripeEntitlements.attachPack cfg.unicode db.billing orderId sessionId sessionUrl
      pure { db with billing := b }
  | event tx e => do
      let (db, _) ← process cfg tx db e
      pure db
  | tick _ => pure db

/-- The wall clock a transaction samples under the account lock. -/
def wall : DeskAct → Option Int
  | reserveCheckout tx _ _ | reservePack tx _ _ | event tx _ => some tx.wall
  | tick now => some now
  | _ => none

/-- Stripe opens every Session in the name of one claim token: `owner`. The token comes back
    in the metadata of its Events. -/
def genuine (owner : String → String) : DeskAct → Prop
  | attachSession reservation sessionId _ => owner sessionId = reservation.claimToken
  | event _ e =>
      ((e.object.get "metadata").get "claim_token").truthy = true →
        ((e.object.get "metadata").get "claim_token").text = owner (e.object.get "id").text
  | _ => True

/-- Events are those of first Checkouts. -/
def checkoutOnly : DeskAct → Prop
  | event _ e => e.kind.isCheckout = true
  | _ => True

end DeskAct

/-- One transaction at the desk. Clocks do not run backwards. -/
structure DeskStep (cfg : Config) (catalog : PackCatalog) (owner : String → String) (s : Desk)
    (act : DeskAct) (s' : Desk) : Prop where
  run : act.run cfg catalog s.db = .ok s'.db
  clock : s'.clock = act.wall.getD s.clock
  monotone : s.clock ≤ s'.clock
  genuine : act.genuine owner
  checkoutOnly : act.checkoutOnly

/-- The interleavings of reservations, attachments, releases, Checkout Events and time. -/
def DeskRun (cfg : Config) (catalog : PackCatalog) (owner : String → String) : Desk → Prop :=
  Relation.ReflTransGen (fun s s' => ∃ act, DeskStep cfg catalog owner s act s') .empty

/-! ## The invariant -/

structure DeskInvariant (owner : String → String) (b : Billing) (now : Int) : Prop where
  flight : SingleFlight b now
  /-- Without a Customer there is no Subscription. -/
  fresh : ∀ a ∈ b.accounts.rows, a.stripeCustomerId = none →
    a.stripeSubscriptionId = none ∧ a.subscriptionStatus = .none
  /-- A claim carries a Session of its own. -/
  sessions : ∀ c ∈ b.claims.rows, ∀ sessionId, c.sessionId = some sessionId →
    owner sessionId = c.claimToken

namespace DeskInvariant

theorem empty : DeskInvariant owner .empty 0 where
  flight := {
    orders := fun _ ho => absurd ho List.not_mem_nil
    either := fun _ hc => absurd hc List.not_mem_nil }
  fresh _ ha := absurd ha List.not_mem_nil
  sessions _ hc := absurd hc List.not_mem_nil

theorem later {now later : Int} (h : DeskInvariant owner b now) (hle : now ≤ later) :
    DeskInvariant owner b later :=
  ⟨h.flight.later hle, h.fresh, h.sessions⟩

/-- A statement on claims that keeps their owner, their window and their token. -/
theorem updateClaims {now : Int} {p : CheckoutClaim → Bool} {f : CheckoutClaim → CheckoutClaim}
    {claims : Table CheckoutClaim} (h : DeskInvariant owner b now)
    (hupdate : b.claims.updateWhere? p f = some claims)
    (hkept : ∀ c, (f c).accountId = c.accountId ∧ (f c).expiresAt = c.expiresAt)
    (hsession : ∀ c ∈ b.claims.rows, p c = true → ∀ sessionId, (f c).sessionId = some sessionId →
      owner sessionId = (f c).claimToken) :
    DeskInvariant owner { b with claims := claims } now := by
  have hrows : ∀ c' ∈ claims.rows, ∃ c ∈ b.claims.rows, c' = (if p c then f c else c) := by
    intro c' hc'
    rw [Table.updateWhere?_eq_some.1 hupdate] at hc'
    obtain ⟨c, hc, rfl⟩ := List.mem_map.1 hc'
    exact ⟨c, hc, rfl⟩
  refine ⟨h.flight.of_fewer (fun _ hbound => hbound) (fun c' hc' => ?_)
    fun o ho _ hopen => ⟨o, ho, rfl, rfl, hopen⟩, h.fresh, fun c' hc' sessionId hs => ?_⟩
  · obtain ⟨c, hc, rfl⟩ := hrows c' hc'
    refine ⟨c, hc, ?_⟩
    split
    · exact ⟨(hkept c).1.symm, (hkept c).2.symm⟩
    · exact ⟨rfl, rfl⟩
  · obtain ⟨c, hc, rfl⟩ := hrows c' hc'
    split at hs <;> split
    case isTrue.isTrue hp _ => exact hsession c hc hp sessionId hs
    case isFalse.isFalse => exact h.sessions c hc sessionId hs
    all_goals contradiction

/-- A statement on orders that opens none. -/
theorem updateOrders {now : Int} {p : PackOrder → Bool} {f : PackOrder → PackOrder}
    {orders : Table PackOrder} (h : DeskInvariant owner b now)
    (hupdate : b.orders.updateWhere? p f = some orders)
    (hkept : ∀ o, (f o).id = o.id ∧ (f o).accountId = o.accountId)
    (hopens : ∀ o, (f o).openAt now = true → o.openAt now = true) :
    DeskInvariant owner { b with orders := orders } now := by
  refine ⟨h.flight.of_fewer (fun _ hbound => hbound) (fun c hc => ⟨c, hc, rfl, rfl⟩)
    fun o' ho' _ hopen => ?_, h.fresh, h.sessions⟩
  have hmem : o' ∈ orders.rows := ho'
  rw [Table.updateWhere?_eq_some.1 hupdate] at hmem
  obtain ⟨o, ho, rfl⟩ := List.mem_map.1 hmem
  refine ⟨o, ho, ?_⟩
  split at hopen
  case isTrue hp =>
    rw [if_pos hp]
    exact ⟨(hkept o).1.symm, (hkept o).2.symm, hopens o hopen⟩
  case isFalse hp =>
    rw [if_neg hp]
    exact ⟨rfl, rfl, hopen⟩

/-- A deleted claim. -/
theorem deleteClaims {now : Int} (h : DeskInvariant owner b now) (p : CheckoutClaim → Bool) :
    DeskInvariant owner { b with claims := b.claims.deleteWhere p } now where
  flight := h.flight.of_fewer (fun _ hbound => hbound)
    (fun c hc => ⟨c, (List.mem_filter.1 hc).1, rfl, rfl⟩) fun o ho _ hopen => ⟨o, ho, rfl, rfl, hopen⟩
  fresh := h.fresh
  sessions c hc := h.sessions c (List.mem_filter.1 hc).1

/-- Checkout Events serve the desk. -/
theorem served {now : Int} (h : DeskInvariant owner b now)
    (hserved : Served b'.HasCustomer b b') (hcustomers : CustomersOnly b b') :
    DeskInvariant owner b' now where
  flight := h.flight.served hserved hcustomers.bound
  fresh a ha hfree := h.fresh a (hcustomers.unbound a ha hfree) hfree
  sessions c hc := h.sessions c (hserved.claims c hc)

end DeskInvariant

/-- **Every step** keeps the invariant of the desk. Reservations check it before they write; the
    Events of a Checkout only complete or expire what is there; time only moves forward; and every
    other transaction books no Checkout. -/
theorem DeskStep.keeps {s s' : Desk} {act : DeskAct} (h : DeskStep cfg catalog owner s act s')
    (hs : DeskInvariant owner s.db.billing s.clock) :
    DeskInvariant owner s'.db.billing s'.clock := by
  obtain ⟨hrun, hclock, hmonotone, hgenuine, hkind⟩ := h
  -- time passes before the act is looked at; later clocks only close reservations
  have hnow := hs.later hmonotone
  cases act with
  | openAccount id externalRef =>
    simp only [DeskAct.run, bind_eq_ok, Billing.insert_eq_ok, pure_eq_ok, Stored.table,
      Stored.install] at hrun
    obtain ⟨_, ⟨accounts, hinsert, rfl⟩, hdb⟩ := hrun
    rw [← hdb]
    -- the new account has no Customer and no row names it yet
    have hmem : ∀ a ∈ accounts.rows, a ∈ s.db.billing.accounts.rows ∨
        a = { id, externalRef : Account } := fun a ha => by
      rw [Table.insert?_eq_some.1 hinsert, List.mem_append, List.mem_singleton] at ha
      exact ha
    refine ⟨hnow.flight.of_fewer ?_ (fun c hc => ⟨c, hc, rfl, rfl⟩)
      fun o ho _ hopen => ⟨o, ho, rfl, rfl, hopen⟩, fun a ha hfree => ?_, hnow.sessions⟩
    -- no account has lost its Customer
    · rintro accountId ⟨a, ha, hid, hcustomer⟩
      have hkept : a ∈ accounts.rows := by
        rw [Table.insert?_eq_some.1 hinsert]
        exact List.mem_append_left _ ha
      exact ⟨a, hkept, hid, hcustomer⟩
    · rcases hmem a ha with hold | rfl
      · exact hnow.fresh a hold hfree
      · exact ⟨rfl, rfl⟩
  | reserveCheckout tx token req =>
    simp only [DeskAct.run, bind_eq_ok, pure_eq_ok] at hrun
    obtain ⟨⟨b, claim⟩, hreserve, hdb⟩ := hrun
    rw [← hdb]
    -- a retry leaves the desk alone, a new claim passes the gate of the reservation
    obtain ⟨account, haccount, hgate, rfl | hanew⟩ := reserveCheckout_eq_ok hreserve
    · exact hnow
    have hwall : s'.clock = tx.wall := hclock
    rw [hwall] at hnow ⊢
    refine ⟨hnow.flight.claimsAnew (Table.find?_mem haccount) hgate hanew, ?_, ?_⟩
    · obtain ⟨claims, rfl, -⟩ := hanew.billing
      exact hnow.fresh
    -- the claim added has no Session, so the Session law asks only about the rows kept
    · obtain ⟨claims, rfl, hrows⟩ := hanew.billing
      intro c hc sessionId hsession
      have hmem : c ∈ claims.rows := hc
      rw [hrows, List.mem_append, List.mem_singleton] at hmem
      rcases hmem with hold | rfl
      · exact hnow.sessions c (List.mem_filter.1 hold).1 sessionId hsession
      · rw [hanew.unattached] at hsession
        cases hsession
  | freezeCheckout reservation snapshot =>
    simp only [DeskAct.run, freezeCheckout, bind_eq_ok, Billing.updateWhere_eq_ok, pure_eq_ok,
      Stored.table, Stored.install] at hrun
    obtain ⟨⟨_, _⟩, ⟨_, ⟨claims, hupdate, rfl⟩, _, -, heq⟩, hdb⟩ := hrun
    cases heq
    rw [← hdb]
    -- a freeze rewrites the snapshot of the matching claim, never its account or token
    exact hnow.updateClaims hupdate (fun _ => ⟨rfl, rfl⟩) fun c hc _ => hnow.sessions c hc
  | attachSession reservation sessionId sessionUrl =>
    simp only [DeskAct.run, attachSession, bind_eq_ok, Billing.updateWhere_eq_ok, pure_eq_ok,
      Stored.table, Stored.install] at hrun
    obtain ⟨⟨_, _⟩, ⟨_, -, _, -, _, ⟨claims, hupdate, rfl⟩, heq⟩, hdb⟩ := hrun
    cases heq
    rw [← hdb]
    refine hnow.updateClaims hupdate (fun _ => ⟨rfl, rfl⟩) fun c _ hp sessionId' hsession => ?_
    simp only [CheckoutClaim.owns, Bool.and_eq_true, decide_eq_true_eq] at hp
    -- the Session attached was opened with this claim's token
    cases hsession
    exact hgenuine.trans hp.1.1.2.symm
  | release reservation =>
    simp only [DeskAct.run, releaseCheckout, pure_eq_ok] at hrun
    rw [← hrun]
    exact hnow.deleteClaims _
  | reservePack tx orderId req =>
    simp only [DeskAct.run, bind_eq_ok, pure_eq_ok] at hrun
    obtain ⟨⟨b, order⟩, hreserve, hdb⟩ := hrun
    rw [← hdb]
    -- the order gate is the same as the claim gate, so it keeps the desk single-flight
    obtain rfl | ⟨account, orders, haccount, hgate, howner, hinsert, rfl⟩ :=
      reservePack_eq_ok hreserve
    · exact hnow
    have hwall : s'.clock = tx.wall := hclock
    rw [hwall] at hnow ⊢
    exact ⟨hnow.flight.insertOrder (Table.find?_mem haccount) hgate howner hinsert, hnow.fresh,
      hnow.sessions⟩
  | freezePack orderId snapshot =>
    simp only [DeskAct.run, freezePack, bind_eq_ok, Billing.updateWhere_eq_ok, pure_eq_ok,
      Stored.table, Stored.install] at hrun
    obtain ⟨⟨_, _⟩, ⟨_, ⟨orders, hupdate, rfl⟩, _, -, heq⟩, hdb⟩ := hrun
    cases heq
    rw [← hdb]
    exact hnow.updateOrders hupdate (fun _ => ⟨rfl, rfl⟩) fun _ hopen => hopen
  | attachPack orderId sessionId sessionUrl =>
    simp only [DeskAct.run, attachPack, bind_eq_ok, Billing.updateWhere_eq_ok, pure_eq_ok,
      Stored.table, Stored.install] at hrun
    obtain ⟨_, ⟨_, -, _, -, _, -, orders, hupdate, rfl⟩, hdb⟩ := hrun
    rw [← hdb]
    -- attaching a Session keeps an order open: `expired` is not among its statuses
    refine hnow.updateOrders hupdate (fun _ => ⟨rfl, rfl⟩) fun o hopen => ?_
    simp only [PackOrder.openAt, Bool.and_eq_true, decide_eq_true_eq] at hopen ⊢
    refine ⟨⟨hopen.1.1, fun hexpired => hopen.1.2 ?_⟩, hopen.2⟩
    simp [hexpired]
  | event tx e =>
    simp only [DeskAct.run, bind_eq_ok, pure_eq_ok] at hrun
    obtain ⟨⟨db, result⟩, hprocess, rfl⟩ := hrun
    -- a processed Event serves the desk, and a Customer it writes is seen by `dispatch_customers`
    refine hnow.served (process_served hprocess) ?_
    rcases process_billing hprocess with hb | ⟨effect, hdispatch, hb⟩
    · exact .of_accounts (by rw [hb])
    · rw [hb]
      exact dispatch_customers hkind hdispatch
  | tick now =>
    simp only [DeskAct.run, pure_eq_ok] at hrun
    rw [← hrun]
    exact hnow

/-- **Every run** keeps the invariant of the desk. -/
theorem DeskRun.invariant {s : Desk} (h : DeskRun cfg catalog owner s) :
    DeskInvariant owner s.db.billing s.clock := by
  induction h with
  | refl => exact .empty
  | tail _ hstep ih =>
    obtain ⟨act, hstep⟩ := hstep
    exact hstep.keeps ih

/-! ## Retries -/

/-- **A retry** of a Subscription Checkout gets its reservation back. The stored claim has the same
    key, plan and interval and has not expired, so the code answers it and writes nothing. -/
theorem reserveCheckout_retry {now : Int} {u : Unicode} {token key : String} {req : CheckoutRequest}
    {claim : CheckoutClaim} {account : Account} (hs : DeskInvariant owner b now)
    (hnow : now ≤ tx.wall) (hclaim : claim ∈ b.claims.rows) (hlive : tx.wall < claim.expiresAt)
    (haccount : b.accounts.find? req.accountId = some account)
    (hfree : account.stripeCustomerId = none) (howner : claim.accountId = account.id)
    (hplan : claim.planKey = req.planKey)
    (hchecked : req.checked u token = .ok (claim.planInterval, key))
    (hkey : claim.clientRequestKey = some key) :
    reserveCheckout u tx b token req = .ok (b, claim) := by
  have hmember := Table.find?_mem haccount
  have hcustomer : ¬b.HasCustomer claim.accountId := by
    rintro ⟨a, ha, hid, hbound⟩
    have hsame : a = account := b.accounts.eq_of_key_eq ha hmember (hid.trans howner)
    rw [hsame, hfree] at hbound
    cases hbound
  obtain ⟨hsubscription, hstatus⟩ := hs.fresh account hmember hfree
  -- the reservation itself keeps the desk free of pack orders
  have hclosed : b.openPackOrder account.id tx.wall = false := by
    rw [Billing.openPackOrder, List.any_eq_false]
    intro o ho
    rw [Bool.and_eq_true, decide_eq_true_eq]
    rintro ⟨hsame, hopen⟩
    rw [(hs.later hnow).flight.either claim hclaim hcustomer hlive o ho (hsame.trans howner.symm)]
      at hopen
    cases hopen
  have hrow : b.claims.find? account.id = some claim :=
    Table.find?_eq_some_iff.2 ⟨hclaim, howner⟩
  simp only [reserveCheckout, hchecked, haccount, fetch, hsubscription, hstatus, hclosed, hrow,
    hkey, hplan, hlive, require, bind, Except.bind, Option.filter, decide_true, Bool.not_false,
    Bool.or_true, if_true, Option.isNone_none, reduceCtorEq, Bool.and_self, ne_eq,
    not_false_eq_true, pure, Except.pure]

/-- **A retry** of a pack Checkout gets its order back. The open order has the same request key and
    was written from the same offer, so the code answers it and writes nothing. -/
theorem reservePack_retry {u : Unicode} {orderId lookupKey : String} {req : PackRequest}
    {order : PackOrder} {account : Account} (horder : order ∈ b.orders.rows)
    (hopen : order.openAt tx.wall = true)
    (haccount : b.accounts.find? req.accountId = some account)
    (howner : order.accountId = account.id) (hkey : order.clientIdempotencyKey = req.requestKey)
    (hchecked : req.checked u = .ok ())
    (hlookup : catalog.creditPackLookupKey req.pack.key = .ok lookupKey)
    (hoffers : req.pack.offers lookupKey order = true) :
    reservePack u catalog tx b orderId req = .ok (b, order) := by
  have hrow : b.orders.rows.find? (fun o =>
      o.accountId = account.id && o.clientIdempotencyKey = req.requestKey) = some order := by
    cases hfind : b.orders.rows.find? (fun o =>
        o.accountId = account.id && o.clientIdempotencyKey = req.requestKey) with
    | none =>
      have hmissing := List.find?_eq_none.1 hfind order horder
      simp [howner, hkey] at hmissing
    | some o =>
      have hmatch := List.find?_some hfind
      simp only [Bool.and_eq_true, decide_eq_true_eq] at hmatch
      -- the key of a request is unique in its account
      have hindex : (fun o : PackOrder => some [o.accountId, o.clientIdempotencyKey]) ∈
          (Relation.indexes : List (PackOrder → Option (List String))) := by
        simp [Relation.indexes]
      refine congrArg some (b.orders.eq_of_index_eq hindex (List.mem_of_find?_eq_some hfind)
        horder (congrArg some ?_) rfl)
      rw [hmatch.1, hmatch.2, howner, hkey]
  simp only [PackOrder.openAt, Bool.and_eq_true, decide_eq_true_eq] at hopen
  obtain ⟨⟨-, hlive⟩, hwindow⟩ := hopen
  simp only [reservePack, hchecked, haccount, fetch, hrow, hlookup, hoffers, hlive, hwindow,
    require, bind, Except.bind, if_true, decide_true, ne_eq, not_false_eq_true, pure, Except.pure]

/-! ## Who ends a reservation -/

/-- The act is one of the claim itself: its holder releases it, its Session expires or
    completes, or it has expired and its account reserves again. -/
def DeskAct.endsClaim (owner : String → String) (c : CheckoutClaim) : DeskAct → Prop
  | release reservation => reservation.claimToken = c.claimToken
  | reserveCheckout tx _ req => req.accountId = c.accountId ∧ c.expiresAt ≤ tx.wall
  | event _ e => owner (e.object.get "id").text = c.claimToken
  | _ => False

/-- The act is an Event that names the order in its metadata. -/
def DeskAct.namesOrder (cfg : Config) (o : PackOrder) : DeskAct → Prop
  | event _ e => (packOrderMetadata cfg e.object).map PackIdentity.orderId = some o.id
  | _ => False

theorem BindsCustomer.claims (h : BindsCustomer b b') : b'.claims = b.claims := by
  rcases h with hsame | ⟨_, _, _, -, -, hsame⟩
  · exact hsame.claims
  · exact hsame.claims

/-- A Checkout Event removes the claim of its own Session. -/
theorem dispatch_claims {c : CheckoutClaim} (hkind : e.kind.isCheckout = true)
    (hs : ∀ c ∈ b.claims.rows, ∀ sessionId, c.sessionId = some sessionId →
      owner sessionId = c.claimToken)
    (hgenuine : ((e.object.get "metadata").get "claim_token").truthy = true →
      ((e.object.get "metadata").get "claim_token").text = owner (e.object.get "id").text)
    (h : dispatch cfg tx b e = .ok effect) (hc : c ∈ b.claims.rows) :
    c ∈ effect.billing.claims.rows ∨ owner (e.object.get "id").text = c.claimToken := by
  cases hk : e.kind <;> simp only [dispatch, hk] at h <;> rw [hk] at hkind
  case paymentIntentSucceeded =>
    exact .inl ((paymentSucceeded_binds h).claims ▸ hc)
  case checkoutSessionCompleted =>
    cases hrun : packCheckoutEvent cfg b e with
    | some run =>
      rw [hrun] at h
      exact .inl ((packCheckoutEvent_binds hrun h).claims ▸ hc)
    | none =>
      rw [hrun] at h
      rcases Guarded.andThen_eq_ok h with ⟨hb, -⟩ | ⟨s, hguards, h⟩
      · exact .inl (hb ▸ hc)
      simp only [bind_eq_ok, Billing.update_eq_ok, pure_eq_ok] at h
      obtain ⟨_, ⟨accounts, -, rfl⟩, rfl⟩ := h
      by_cases haccount : c.accountId = s.account.id
      case neg =>
        refine .inl (List.mem_filter.2 ⟨hc, ?_⟩)
        simp [haccount]
      case pos =>
        -- the claim of the account is the one the Session completed
        have hrow := (completedSessionGuards_eq_ok hguards).2.1
        have hsame : s.claim = c :=
          b.claims.eq_of_key_eq (Table.find?_mem hrow) hc
            ((Table.find?_key hrow).trans haccount.symm)
        rcases (completedSessionGuards_facts hguards).2 with hsession | ⟨htruthy, htoken⟩
        · exact .inr (hs c hc _ (hsame ▸ hsession))
        · exact .inr ((hgenuine htruthy).symm.trans (hsame ▸ htoken.symm))
  case checkoutSessionExpired =>
    cases hrun : packCheckoutEvent cfg b e with
    | some run =>
      rw [hrun] at h
      exact .inl ((packCheckoutEvent_binds hrun h).claims ▸ hc)
    | none =>
      rw [hrun] at h
      rcases checkoutExpired_eq_ok h with hb | ⟨hb, -⟩
      · by_cases hsession : c.sessionId = some (e.object.get "id").text
        · exact .inr (hs c hc _ hsession)
        · refine .inl ?_
          rw [hb]
          exact List.mem_filter.2 ⟨hc, by simp [hsession]⟩
      · exact .inl (hb ▸ hc)
  all_goals cases hkind

/-- **Only its own act** ends a claim: its holder releases it, its Session expires or completes, or
    it has expired and its account reserves again. Every other step keeps the row. -/
theorem DeskStep.ends {s s' : Desk} {act : DeskAct} {c : CheckoutClaim}
    (h : DeskStep cfg catalog owner s act s') (hs : DeskInvariant owner s.db.billing s.clock)
    (hc : c ∈ s.db.billing.claims.rows)
    (hgone : ∀ c' ∈ s'.db.billing.claims.rows, c'.claimToken ≠ c.claimToken) :
    act.endsClaim owner c := by
  obtain ⟨hrun, -, -, hgenuine, hkind⟩ := h
  -- an update maps the table row by row, so the claim's token is still on some row
  have hkept : ∀ {claims : Table CheckoutClaim} {p : CheckoutClaim → Bool}
      {f : CheckoutClaim → CheckoutClaim}, s.db.billing.claims.updateWhere? p f = some claims →
        (∀ c, (f c).claimToken = c.claimToken) → s'.db.billing.claims = claims → False := by
    intro claims p f hupdate htoken hclaims
    have hmem : (if p c then f c else c) ∈ s'.db.billing.claims.rows := by
      rw [hclaims, Table.updateWhere?_eq_some.1 hupdate]
      exact List.mem_map_of_mem hc
    refine hgone _ hmem ?_
    split
    · exact htoken c
    · rfl
  have hstays : c ∉ s'.db.billing.claims.rows := fun hmem => hgone c hmem rfl
  cases act with
  | openAccount id externalRef =>
    simp only [DeskAct.run, bind_eq_ok, Billing.insert_eq_ok, pure_eq_ok] at hrun
    obtain ⟨_, ⟨accounts, -, rfl⟩, hdb⟩ := hrun
    rw [← hdb] at hstays
    exact hstays hc
  | reserveCheckout tx token req =>
    simp only [DeskAct.run, bind_eq_ok, pure_eq_ok] at hrun
    obtain ⟨⟨b, claim⟩, hreserve, hdb⟩ := hrun
    rw [← hdb] at hstays
    -- a retry removes nothing
    obtain ⟨account, haccount, -, rfl | hanew⟩ := reserveCheckout_eq_ok hreserve
    · exact absurd hc hstays
    obtain ⟨claims, rfl, hrows⟩ := hanew.billing
    -- a new claim deletes those of its own account, so the claim that went was this account's
    have hreplaced : c.accountId = account.id := by
      by_contra hother
      refine hstays ?_
      change c ∈ claims.rows
      rw [hrows]
      exact List.mem_append_left _ (List.mem_filter.2 ⟨hc, by simp [hother]⟩)
    exact ⟨(Table.find?_key haccount).symm.trans hreplaced.symm, hanew.idle c hc hreplaced⟩
  | freezeCheckout reservation snapshot =>
    simp only [DeskAct.run, freezeCheckout, bind_eq_ok, Billing.updateWhere_eq_ok, pure_eq_ok,
      Stored.table, Stored.install] at hrun
    obtain ⟨⟨_, _⟩, ⟨_, ⟨claims, hupdate, rfl⟩, _, -, heq⟩, hdb⟩ := hrun
    cases heq
    exact hkept hupdate (fun _ => rfl) (by rw [← hdb])
  | attachSession reservation sessionId sessionUrl =>
    simp only [DeskAct.run, attachSession, bind_eq_ok, Billing.updateWhere_eq_ok, pure_eq_ok,
      Stored.table, Stored.install] at hrun
    obtain ⟨⟨_, _⟩, ⟨_, -, _, -, _, ⟨claims, hupdate, rfl⟩, heq⟩, hdb⟩ := hrun
    cases heq
    exact hkept hupdate (fun _ => rfl) (by rw [← hdb])
  | release reservation =>
    simp only [DeskAct.run, releaseCheckout, pure_eq_ok] at hrun
    rw [← hrun] at hstays
    -- the release deletes by token, so another token's claim would have stayed
    by_contra hother
    refine hstays (List.mem_filter.2 ⟨hc, ?_⟩)
    have htoken : c.claimToken ≠ reservation.claimToken := fun heq => hother heq.symm
    simp [CheckoutClaim.owns, htoken]
  | reservePack tx orderId req =>
    simp only [DeskAct.run, bind_eq_ok, pure_eq_ok] at hrun
    obtain ⟨⟨b, order⟩, hreserve, hdb⟩ := hrun
    rw [← hdb] at hstays
    obtain rfl | ⟨_, orders, -, -, -, -, rfl⟩ := reservePack_eq_ok hreserve
    · exact hstays hc
    · exact hstays hc
  | freezePack orderId snapshot =>
    simp only [DeskAct.run, freezePack, bind_eq_ok, Billing.updateWhere_eq_ok, pure_eq_ok] at hrun
    obtain ⟨⟨_, _⟩, ⟨_, ⟨orders, -, rfl⟩, _, -, heq⟩, hdb⟩ := hrun
    cases heq
    rw [← hdb] at hstays
    exact hstays hc
  | attachPack orderId sessionId sessionUrl =>
    simp only [DeskAct.run, attachPack, bind_eq_ok, Billing.updateWhere_eq_ok, pure_eq_ok] at hrun
    obtain ⟨_, ⟨_, -, _, -, _, -, orders, -, rfl⟩, hdb⟩ := hrun
    rw [← hdb] at hstays
    exact hstays hc
  | event tx e =>
    simp only [DeskAct.run, bind_eq_ok, pure_eq_ok] at hrun
    obtain ⟨⟨db, result⟩, hprocess, rfl⟩ := hrun
    -- an Event deletes a claim only through its handlers, each of which names the claim's Session
    rcases process_billing hprocess with hb | ⟨effect, hdispatch, hb⟩
    · rw [hb] at hstays
      exact absurd hc hstays
    · rw [hb] at hstays
      exact (dispatch_claims hkind hs.sessions hgenuine hdispatch hc).resolve_left hstays
  | tick now =>
    simp only [DeskAct.run, pure_eq_ok] at hrun
    rw [← hrun] at hstays
    exact hstays hc

/-- No order but `orderId` is written. -/
def OnlyOrder (orderId : String) (b b' : Billing) : Prop :=
  ∀ o ∈ b.orders.rows, o.id ≠ orderId → o ∈ b'.orders.rows

namespace OnlyOrder

variable {orderId : String}

theorem of_orders (h : b'.orders = b.orders) : OnlyOrder orderId b b' := fun _ ho _ => h ▸ ho

theorem trans {b'' : Billing} (h : OnlyOrder orderId b b') (h' : OnlyOrder orderId b' b'') :
    OnlyOrder orderId b b'' := fun o ho hne => h' o (h o ho hne) hne

theorem updateWhere {p : PackOrder → Bool} {f : PackOrder → PackOrder} {t : Table PackOrder}
    (h : b.orders.updateWhere? p f = some t) (hp : ∀ o, p o = true → o.id = orderId) :
    OnlyOrder orderId b { b with orders := t } := by
  intro o ho hne
  change o ∈ t.rows
  rw [Table.updateWhere?_eq_some.1 h]
  have hsame : (if p o then f o else o) = o := if_neg fun hmatch => hne (hp o hmatch)
  exact List.mem_map.2 ⟨o, ho, hsame⟩

theorem update {f : PackOrder → PackOrder} {t : Table PackOrder}
    (h : b.orders.update? orderId f = some t) : OnlyOrder orderId b { b with orders := t } :=
  updateWhere h fun _ hmatch => of_decide_eq_true hmatch

end OnlyOrder

theorem paymentSucceeded_onlyOrder (h : paymentSucceeded cfg tx b e = .ok effect) :
    effect.billing = b ∨ ∃ identity, packOrderMetadata cfg e.object = some identity ∧
      OnlyOrder identity.orderId b effect.billing := by
  rcases Guarded.andThen_eq_ok h with ⟨hb, -⟩ | ⟨p, hp, h⟩
  · exact .inl hb
  obtain ⟨-, -, -, identity, hidentity, hlocked⟩ := packPaymentGuards_facts hp
  obtain ⟨-, -, hid, -⟩ := lockedOrder_eq_some hlocked
  obtain ⟨orders, accounts, horders, -, hcase⟩ := applyPackPayment_eq_ok h
  refine .inr ⟨identity, hidentity, ?_⟩
  rw [hid] at horders
  have hprojected : OnlyOrder identity.orderId b { b with orders := orders } := .update horders
  refine hprojected.trans (.of_orders ?_)
  rcases hcase with ⟨-, heq⟩ | ⟨-, lots, -, heq | ⟨-, _, hcollect⟩⟩
  · rw [heq]
  · rw [heq]
  · exact (collectPackDebtsFromLot_frame hcollect).orders

theorem packCheckout_onlyOrder {sessionId : String} {order : PackOrder}
    (h : packCheckout cfg b e sessionId order = .ok effect) :
    effect.billing = b ∨
      (packOrderMetadata cfg e.object).map PackIdentity.orderId = some order.id ∧
      OnlyOrder order.id b effect.billing := by
  -- a stopped guard writes nothing
  rcases Guarded.andThen_eq_ok h with ⟨hb, -⟩ | ⟨account, hguards, h⟩
  · exact .inl hb
  -- the guards compare the Session's metadata with the stored order
  have hnamed : (packOrderMetadata cfg e.object).map PackIdentity.orderId = some order.id := by
    simp only [packCheckoutGuards, bind_eq_ok, fetch_eq_ok, require_eq_ok, pure_eq_ok] at hguards
    obtain ⟨_, -, _, -, _, -, _, hmatches, -⟩ := hguards
    simp only [packSessionMatches, Bool.and_eq_true, decide_eq_true_eq] at hmatches
    rw [hmatches.1.1.2]
    rfl
  refine .inr ⟨hnamed, ?_⟩
  simp only [bind_eq_ok] at h
  obtain ⟨b₁, hattach, h⟩ := h
  -- the Session id is attached first, to this order alone
  have hattached : OnlyOrder order.id b b₁ := by
    unfold attachPackSession at hattach
    split at hattach
    · rw [Billing.update_eq_ok] at hattach
      obtain ⟨orders, horders, rfl⟩ := hattach
      exact .update horders
    · rw [pure_eq_ok] at hattach
      exact .of_orders (by rw [hattach])
  refine hattached.trans ?_
  -- an expiry writes the order's status, a completion its Checkout facts
  split at h
  · unfold expirePackCheckout at h
    split at h
    · simp only [bind_eq_ok, Billing.update_eq_ok, pure_eq_ok] at h
      obtain ⟨_, ⟨orders, horders, rfl⟩, rfl⟩ := h
      exact .update horders
    · simp only [bind_eq_ok, pure_eq_ok] at h
      obtain ⟨_, rfl, rfl⟩ := h
      exact .of_orders rfl
  · simp only [completePackCheckout] at h
    split at h
    · rw [pure_eq_ok] at h
      exact .of_orders (by rw [← h])
    -- the completion is conditional on the order still waiting for these facts
    · simp only [bind_eq_ok, Billing.updateWhere_eq_ok, pure_eq_ok] at h
      obtain ⟨_, ⟨orders, horders, rfl⟩, b₂, hbind, rfl⟩ := h
      have hrecorded : OnlyOrder order.id b₁ { b₁ with orders := orders } :=
        .updateWhere horders fun o hmatch => by
          simp only [Bool.and_eq_true, decide_eq_true_eq] at hmatch
          exact hmatch.1
      obtain ⟨accounts, rfl⟩ := bindCustomer_eq_ok hbind
      exact hrecorded.trans (.of_orders rfl)

/-- A Checkout Event writes at most the order that its metadata names. -/
theorem dispatch_onlyOrder {o : PackOrder} (hkind : e.kind.isCheckout = true)
    (h : dispatch cfg tx b e = .ok effect) (ho : o ∈ b.orders.rows) :
    o ∈ effect.billing.orders.rows ∨
      (packOrderMetadata cfg e.object).map PackIdentity.orderId = some o.id := by
  -- a Checkout Event leaves the orders table alone, or writes the one order its metadata names
  have hpack : effect.billing = b ∨ (∃ orderId,
      (packOrderMetadata cfg e.object).map PackIdentity.orderId = some orderId ∧
        OnlyOrder orderId b effect.billing) ∨ effect.billing.orders = b.orders := by
    cases hk : e.kind <;> simp only [dispatch, hk] at h <;> rw [hk] at hkind
    case paymentIntentSucceeded =>
      refine (paymentSucceeded_onlyOrder h).imp_right ?_
      rintro ⟨identity, hidentity, honly⟩
      exact .inl ⟨identity.orderId, by rw [hidentity]; rfl, honly⟩
    -- a Session that is no pack Checkout belongs to the Subscription route
    case checkoutSessionCompleted =>
      cases hrun : packCheckoutEvent cfg b e with
      | none =>
        rw [hrun] at h
        exact .inr (.inr (checkoutCompleted_desk h).orders)
      | some run =>
        rw [hrun] at h
        rcases packCheckoutEvent_order hrun h with hb | ⟨_, order, -, -, hcheckout⟩
        · exact .inl hb
        · exact (packCheckout_onlyOrder hcheckout).imp_right fun honly => .inl ⟨order.id, honly⟩
    case checkoutSessionExpired =>
      cases hrun : packCheckoutEvent cfg b e with
      | none =>
        rw [hrun] at h
        exact .inr (.inr (checkoutExpired_desk h).orders)
      | some run =>
        rw [hrun] at h
        rcases packCheckoutEvent_order hrun h with hb | ⟨_, order, -, -, hcheckout⟩
        · exact .inl hb
        · exact (packCheckout_onlyOrder hcheckout).imp_right fun honly => .inl ⟨order.id, honly⟩
    all_goals cases hkind
  -- any other order keeps its row
  rcases hpack with hb | ⟨orderId, hnamed, honly⟩ | horders
  · exact .inl (hb ▸ ho)
  · by_cases hid : o.id = orderId
    · exact .inr (hid ▸ hnamed)
    · exact .inl (honly o ho hid)
  · exact .inl (horders ▸ ho)

/-- **Only an Event that names it** closes an open order. Reservations insert beside it, and all
    other steps leave its status and its expiry alone. -/
theorem DeskStep.closes {s s' : Desk} {act : DeskAct} {o : PackOrder}
    (h : DeskStep cfg catalog owner s act s') (ho : o ∈ s.db.billing.orders.rows)
    (hopen : o.openAt s'.clock = true)
    (hgone : ∀ o' ∈ s'.db.billing.orders.rows, o'.id = o.id → o'.openAt s'.clock = false) :
    act.namesOrder cfg o := by
  obtain ⟨hrun, -, -, -, hkind⟩ := h
  -- an open order that kept its row would still be open afterwards
  have hstays : o ∉ s'.db.billing.orders.rows := fun hmem => by
    rw [hgone o hmem rfl] at hopen
    cases hopen
  -- an update of the orders that keeps them open keeps this one too
  have hkept : ∀ {orders : Table PackOrder} {p : PackOrder → Bool} {f : PackOrder → PackOrder},
      s.db.billing.orders.updateWhere? p f = some orders →
        (∀ o, (f o).id = o.id ∧ (o.openAt s'.clock = true → (f o).openAt s'.clock = true)) →
        s'.db.billing.orders = orders → False := by
    intro orders p f hupdate hf horders
    have hmem : (if p o then f o else o) ∈ s'.db.billing.orders.rows := by
      rw [horders, Table.updateWhere?_eq_some.1 hupdate]
      exact List.mem_map_of_mem ho
    have hclosed := hgone _ hmem (by split <;> simp [hf o])
    split at hclosed
    · rw [(hf o).2 hopen] at hclosed
      cases hclosed
    · rw [hopen] at hclosed
      cases hclosed
  cases act with
  | openAccount id externalRef =>
    simp only [DeskAct.run, bind_eq_ok, Billing.insert_eq_ok, pure_eq_ok] at hrun
    obtain ⟨_, ⟨accounts, -, rfl⟩, hdb⟩ := hrun
    rw [← hdb] at hstays
    exact hstays ho
  | reserveCheckout tx token req =>
    simp only [DeskAct.run, bind_eq_ok, pure_eq_ok] at hrun
    obtain ⟨⟨b, claim⟩, hreserve, hdb⟩ := hrun
    rw [← hdb] at hstays
    obtain ⟨account, -, -, rfl | hanew⟩ := reserveCheckout_eq_ok hreserve
    · exact hstays ho
    -- claims are another table
    · obtain ⟨claims, rfl, -⟩ := hanew.billing
      exact hstays ho
  | freezeCheckout reservation snapshot =>
    simp only [DeskAct.run, freezeCheckout, bind_eq_ok, Billing.updateWhere_eq_ok, pure_eq_ok]
      at hrun
    obtain ⟨⟨_, _⟩, ⟨_, ⟨claims, -, rfl⟩, _, -, heq⟩, hdb⟩ := hrun
    cases heq
    rw [← hdb] at hstays
    exact hstays ho
  | attachSession reservation sessionId sessionUrl =>
    simp only [DeskAct.run, attachSession, bind_eq_ok, Billing.updateWhere_eq_ok, pure_eq_ok] at hrun
    obtain ⟨⟨_, _⟩, ⟨_, -, _, -, _, ⟨claims, -, rfl⟩, heq⟩, hdb⟩ := hrun
    cases heq
    rw [← hdb] at hstays
    exact hstays ho
  | release reservation =>
    simp only [DeskAct.run, releaseCheckout, pure_eq_ok] at hrun
    rw [← hrun] at hstays
    exact hstays ho
  | reservePack tx orderId req =>
    simp only [DeskAct.run, bind_eq_ok, pure_eq_ok] at hrun
    obtain ⟨⟨b, order⟩, hreserve, hdb⟩ := hrun
    rw [← hdb] at hstays
    obtain rfl | ⟨_, orders, -, -, -, hinsert, rfl⟩ := reservePack_eq_ok hreserve
    -- an insertion appends, so the order keeps its row
    · exact hstays ho
    · refine hstays ?_
      change o ∈ orders.rows
      rw [Table.insert?_eq_some.1 hinsert]
      exact List.mem_append_left _ ho
  | freezePack orderId snapshot =>
    simp only [DeskAct.run, freezePack, bind_eq_ok, Billing.updateWhere_eq_ok, pure_eq_ok,
      Stored.table, Stored.install] at hrun
    obtain ⟨⟨_, _⟩, ⟨_, ⟨orders, hupdate, rfl⟩, _, -, heq⟩, hdb⟩ := hrun
    cases heq
    exact hkept hupdate (fun _ => ⟨rfl, fun hopen => hopen⟩) (by rw [← hdb])
  | attachPack orderId sessionId sessionUrl =>
    simp only [DeskAct.run, attachPack, bind_eq_ok, Billing.updateWhere_eq_ok, pure_eq_ok,
      Stored.table, Stored.install] at hrun
    obtain ⟨_, ⟨_, -, _, -, _, -, orders, hupdate, rfl⟩, hdb⟩ := hrun
    -- attaching a Session turns no order into an expired one
    refine hkept hupdate (fun o => ⟨rfl, fun hopen => ?_⟩) (by rw [← hdb])
    simp only [PackOrder.openAt, Bool.and_eq_true, decide_eq_true_eq] at hopen ⊢
    refine ⟨⟨hopen.1.1, ?_⟩, hopen.2⟩
    split
    · decide
    · exact hopen.1.2
  | event tx e =>
    simp only [DeskAct.run, bind_eq_ok, pure_eq_ok] at hrun
    obtain ⟨⟨db, result⟩, hprocess, rfl⟩ := hrun
    -- a Checkout Event writes only the order its metadata names
    rcases process_billing hprocess with hb | ⟨effect, hdispatch, hb⟩
    · rw [hb] at hstays
      exact absurd ho hstays
    · rw [hb] at hstays
      exact (dispatch_onlyOrder hkind hdispatch ho).resolve_left hstays
  | tick now =>
    simp only [DeskAct.run, pure_eq_ok] at hrun
    rw [← hrun] at hstays
    exact hstays ho

/-! ## The law of the desk -/

/-- A reservation that may become the first payment of its account. -/
inductive FirstReservation where
  | claim (c : CheckoutClaim)
  | order (o : PackOrder)

/-- The unexpired reservations of an account, taken without a Customer. -/
def Billing.firstReservations (b : Billing) (accountId : String) (now : Int) :
    List FirstReservation :=
  (b.claims.rows.filter fun c => c.accountId = accountId && now < c.expiresAt).map .claim ++
    (b.orders.rows.filter fun o => o.accountId = accountId && o.requestCustomerId.isNone &&
      o.openAt now).map .order

/-- Rows with distinct keys that share one key. -/
theorem length_le_one_of_key {α κ : Type} {key : α → κ} {rows : List α}
    (hnodup : (rows.map key).Nodup) (hsame : ∀ x ∈ rows, ∀ y ∈ rows, key x = key y) :
    rows.length ≤ 1 := by
  match rows with
  | [] | [_] => simp
  | x :: y :: rest =>
    rw [List.map_cons, List.map_cons, List.nodup_cons] at hnodup
    have hxy : key x = key y := hsame x (by simp) y (by simp)
    exact absurd (hxy ▸ List.mem_cons_self) hnodup.1

theorem SingleFlight.firstReservations {accountId : String} {now : Int} (h : SingleFlight b now)
    (hfree : ¬b.HasCustomer accountId) : (b.firstReservations accountId now).length ≤ 1 := by
  -- `checkout_claims` has one row an account, by its primary key
  have hclaims : (b.claims.rows.filter fun c => c.accountId = accountId &&
      now < c.expiresAt).length ≤ 1 := by
    refine length_le_one_of_key ((List.filter_sublist.map _).nodup b.claims.valid.keys_nodup) ?_
    intro c hc c' hc'
    simp only [List.mem_filter, Bool.and_eq_true, decide_eq_true_eq] at hc hc'
    exact hc.2.1.trans hc'.2.1.symm
  -- the open orders of an unbound account share one row by the single-flight invariant
  have horders : (b.orders.rows.filter fun o => o.accountId = accountId &&
      o.requestCustomerId.isNone && o.openAt now).length ≤ 1 := by
    refine length_le_one_of_key ((List.filter_sublist.map _).nodup b.orders.valid.keys_nodup) ?_
    intro o ho o' ho'
    simp only [List.mem_filter, Bool.and_eq_true, decide_eq_true_eq] at ho ho'
    obtain ⟨ho, ⟨howner, -⟩, hopen⟩ := ho
    obtain ⟨ho', ⟨howner', -⟩, hopen'⟩ := ho'
    exact (h.orders o ho o' ho' (howner ▸ hfree) (howner'.trans howner.symm) hopen hopen').symm
  rw [Billing.firstReservations, List.length_append, List.length_map, List.length_map]
  -- a live claim and an open order exclude each other, so at most one summand is positive
  rcases Nat.eq_zero_or_pos (b.claims.rows.filter fun c => c.accountId = accountId &&
      now < c.expiresAt).length with hnone | hsome
  · omega
  · -- a live claim keeps every order closed
    obtain ⟨c, hc⟩ := List.exists_mem_of_length_pos hsome
    simp only [List.mem_filter, Bool.and_eq_true, decide_eq_true_eq] at hc
    obtain ⟨hc, howner, hlive⟩ := hc
    have hclosed : (b.orders.rows.filter fun o => o.accountId = accountId &&
        o.requestCustomerId.isNone && o.openAt now) = [] := by
      refine List.filter_eq_nil_iff.2 fun o ho hmatch => ?_
      simp only [Bool.and_eq_true, decide_eq_true_eq] at hmatch
      have hshut := h.either c hc (howner ▸ hfree) hlive o ho (hmatch.1.1.trans howner.symm)
      rw [hmatch.2] at hshut
      cases hshut
    rw [hclosed]
    exact hclaims

/-- A call of `reserve` that repeats a live Subscription Checkout: same account, plan,
    interval and key. -/
structure CheckoutRetry (u : Unicode) (tx : Tx) (b : Billing) (token : String)
    (req : CheckoutRequest) (claim : CheckoutClaim) : Prop where
  stored : claim ∈ b.claims.rows
  live : tx.wall < claim.expiresAt
  account : ∃ account, b.accounts.find? req.accountId = some account ∧
    account.stripeCustomerId = none ∧ claim.accountId = account.id
  plan : claim.planKey = req.planKey
  key : ∃ key, req.checked u token = .ok (claim.planInterval, key) ∧
    claim.clientRequestKey = some key

/-- A call of `reserve` that repeats a live pack Checkout: same account, pack and key. -/
structure PackRetry (u : Unicode) (catalog : PackCatalog) (tx : Tx) (b : Billing)
    (req : PackRequest) (order : PackOrder) : Prop where
  stored : order ∈ b.orders.rows
  live : order.openAt tx.wall = true
  account : ∃ account, b.accounts.find? req.accountId = some account ∧
    order.accountId = account.id
  key : order.clientIdempotencyKey = req.requestKey
  checked : req.checked u = .ok ()
  pack : ∃ lookupKey, catalog.creditPackLookupKey req.pack.key = .ok lookupKey ∧
    req.pack.offers lookupKey order = true

/-- **Single flight.** In every state of every run an account without a Customer has at most
    one first reservation; whatever a reservation answers is stored and not expired; a retry gets
    its own reservation back and writes nothing; and a claim or an open order ends only by an act
    of its own. -/
theorem first_customer_single_flight {s : Desk} (hrun : DeskRun cfg catalog owner s) :
    (∀ accountId, ¬s.db.billing.HasCustomer accountId →
      (s.db.billing.firstReservations accountId s.clock).length ≤ 1) ∧
    (∀ tx token req b' claim,
      reserveCheckout cfg.unicode tx s.db.billing token req = .ok (b', claim) →
        claim ∈ b'.claims.rows ∧ tx.wall < claim.expiresAt) ∧
    (∀ tx orderId req b' order,
      reservePack cfg.unicode catalog tx s.db.billing orderId req = .ok (b', order) →
        order ∈ b'.orders.rows ∧ tx.wall < order.claimExpiresAt) ∧
    (∀ tx token req claim, s.clock ≤ tx.wall →
      CheckoutRetry cfg.unicode tx s.db.billing token req claim →
        reserveCheckout cfg.unicode tx s.db.billing token req = .ok (s.db.billing, claim)) ∧
    (∀ tx orderId req order, PackRetry cfg.unicode catalog tx s.db.billing req order →
      reservePack cfg.unicode catalog tx s.db.billing orderId req = .ok (s.db.billing, order)) ∧
    ∀ act s', DeskStep cfg catalog owner s act s' →
      (∀ c ∈ s.db.billing.claims.rows,
        (∀ c' ∈ s'.db.billing.claims.rows, c'.claimToken ≠ c.claimToken) →
          act.endsClaim owner c) ∧
      ∀ o ∈ s.db.billing.orders.rows, o.openAt s'.clock = true →
        (∀ o' ∈ s'.db.billing.orders.rows, o'.id = o.id → o'.openAt s'.clock = false) →
          act.namesOrder cfg o := by
  -- every part reads the one invariant of the run, except the stored rows, which any call gives
  have hs := hrun.invariant
  refine ⟨fun accountId hfree => hs.flight.firstReservations hfree,
    fun _ _ _ _ _ h => reserveCheckout_stored h, fun _ _ _ _ _ h => reservePack_stored h,
    ?_, ?_, ?_⟩
  · intro tx token req claim hclock hretry
    obtain ⟨account, haccount, hfree, howner⟩ := hretry.account
    obtain ⟨key, hchecked, hkey⟩ := hretry.key
    exact reserveCheckout_retry hs hclock hretry.stored hretry.live haccount hfree howner
      hretry.plan hchecked hkey
  · intro tx orderId req order hretry
    obtain ⟨account, haccount, howner⟩ := hretry.account
    obtain ⟨lookupKey, hlookup, hoffers⟩ := hretry.pack
    exact reservePack_retry hretry.stored hretry.live haccount howner hretry.key hretry.checked
      hlookup hoffers
  · intro act s' hstep
    exact ⟨fun c hc hgone => hstep.ends hs hc hgone,
      fun o ho hopen hgone => hstep.closes ho hopen hgone⟩

/-! ## A first Checkout -/

def referencePacks : PackCatalog where
  packs := [{ key := "boost", credits := 500000000, priceUsd := 15, expiresDays := 365 }]
  lookupPrefix := "ent"
  admissible := by decide
  keys_nodup := by decide

def proCheckout : CheckoutRequest where
  accountId := referenceAccountId
  planKey := "pro"
  interval := "month"
  requestKey := some "buy-pro"
  ttl := 35 * 60 * 1000000

/-- The first Checkout of a new account, then the same request again and a pack. -/
theorem proCheckout_single_flight :
    ∃ s claim, DeskRun referenceConfig referencePacks (fun _ => "") s ∧
      (s.db.billing.firstReservations referenceAccountId s.clock).length = 1 ∧
      reserveCheckout referenceConfig.unicode (referenceTx 1) s.db.billing "retry" proCheckout =
        .ok (s.db.billing, claim) := by
  -- both acts are run by evaluation; the run, the account and the claims row are read off it
  have hok : ((DeskAct.openAccount referenceAccountId "user_1").run referenceConfig referencePacks
      .empty >>= fun db => (DeskAct.reserveCheckout (referenceTx 0) "token" proCheckout).run
        referenceConfig referencePacks db).map (fun db =>
          ((db.billing.accounts.find? referenceAccountId).map Account.stripeCustomerId,
            db.billing.claims.rows)) =
      .ok (some none, [{
        accountId := referenceAccountId, claimToken := "token", planKey := "pro"
        planInterval := .month, expiresAt := 35 * 60 * 1000000
        clientRequestKey := some "buy-pro", requestSnapshotVersion := some 0 }]) := by
    decide +kernel
  obtain ⟨db, hdb, hrows⟩ := map_eq_ok.1 hok
  obtain ⟨db₁, hopen, hreserve⟩ := bind_eq_ok.1 hdb
  obtain ⟨haccount, hclaims⟩ := Prod.mk.inj hrows
  have hrun : DeskRun referenceConfig referencePacks (fun _ => "") { db, clock := 0 } := by
    have hfirst : DeskStep referenceConfig referencePacks (fun _ => "") .empty
        (.openAccount referenceAccountId "user_1") { db := db₁, clock := 0 } :=
      ⟨hopen, rfl, le_rfl, trivial, trivial⟩
    have hsecond : DeskStep referenceConfig referencePacks (fun _ => "") { db := db₁, clock := 0 }
        (.reserveCheckout (referenceTx 0) "token" proCheckout) { db, clock := 0 } :=
      ⟨hreserve, rfl, le_rfl, trivial, trivial⟩
    exact (Relation.ReflTransGen.single ⟨_, hfirst⟩).tail ⟨_, hsecond⟩
  -- the general law gives the bound and the retry; what follows discharges its hypotheses
  obtain ⟨hflight, -, -, hretry, -, -⟩ := first_customer_single_flight hrun
  obtain ⟨account, hrow, hfree⟩ := Option.map_eq_some_iff.1 haccount
  have hid : account.id = referenceAccountId := Table.find?_key hrow
  obtain ⟨claim, hclaim⟩ : ∃ claim, db.billing.claims.rows = [claim] := ⟨_, hclaims⟩
  have hfields := hclaim.symm.trans hclaims
  rw [List.singleton_inj] at hfields
  have hstored : claim ∈ db.billing.claims.rows := hclaim ▸ List.mem_singleton_self _
  -- the only account of this id has no Customer
  have hunbound : ¬db.billing.HasCustomer referenceAccountId := by
    rintro ⟨a, ha, hkey, hbound⟩
    have hsame : a = account :=
      db.billing.accounts.eq_of_key_eq ha (Table.find?_mem hrow) (hkey.trans hid.symm)
    rw [hsame, hfree] at hbound
    cases hbound
  refine ⟨_, claim, hrun, Nat.le_antisymm (hflight _ hunbound) ?_, ?_⟩
  · refine List.length_pos_of_mem (a := FirstReservation.claim claim) ?_
    refine List.mem_append_left _ (List.mem_map_of_mem (List.mem_filter.2 ⟨hstored, ?_⟩))
    rw [hfields]
    rfl
  · have hclock : (0 : Int) ≤ (referenceTx 1).wall := by decide
    refine hretry (referenceTx 1) "retry" proCheckout claim hclock ⟨hstored, ?_,
      ⟨account, hrow, hfree, by rw [hfields, hid]⟩, by rw [hfields]; rfl, "buy-pro", ?_, ?_⟩
    · rw [hfields]
      decide
    · rw [hfields]
      decide +kernel
    · rw [hfields]

end StripeEntitlements
