import StripeEntitlements.Credits.ServiceFrame
import StripeEntitlements.Reconcile.PackReconcile
import StripeEntitlements.Relational.Lease

/-!
# Lease Fencing of the Pack Reconciler

Any number of workers run beside webhooks, charges, refunds, the annual worker and the rest
of the application. Whatever a worker writes, it writes in a transaction in which its token
is the current one and its lease has not run out.

## Main results

- `WorkerAct.fenced` — without its lease a worker changes nothing
- `ReconcileStep.leases` — the lease of every order moves by lease steps
- `reconciliation_fenced` — the fencing over all runs
-/

namespace StripeEntitlements

open Relational

variable {cfg : Config} {r : PackReconciler} {tx : Tx} {db db' : Db} {b b' : Billing}
  {claim : CreditPackReconcileClaim}

/-! ## Lease columns -/

/-- The columns of an order that only reconciliation writes. -/
structure LeaseColumns where
  orderId : String
  token : Option String := none
  expiresAt : Option Int := none
  lastReconciledAt : Option Int := none
  lastReconcileError : Option String := none
  deriving DecidableEq, Repr

def PackOrder.leaseColumns (o : PackOrder) : LeaseColumns where
  orderId := o.id
  token := o.reconcileClaimToken
  expiresAt := o.reconcileClaimExpiresAt
  lastReconciledAt := o.lastReconciledAt
  lastReconcileError := o.lastReconcileError

def LeaseColumns.lease (c : LeaseColumns) : Lease String Int :=
  c.token.bind fun token => c.expiresAt.map fun expiresAt => (token, expiresAt)

def Billing.leaseColumns (b : Billing) (orderId : String) : Option LeaseColumns :=
  (b.orders.find? orderId).map PackOrder.leaseColumns

def Billing.reconcileLease (b : Billing) (orderId : String) : Lease String Int :=
  (b.leaseColumns orderId).bind LeaseColumns.lease

/-- The token of the claim is the current one of its order, and its lease lasts. -/
def CreditPackReconcileClaim.Current (claim : CreditPackReconcileClaim) (b : Billing)
    (wall : Int) : Prop :=
  (b.reconcileLease claim.orderId).Current claim.token wall

theorem CreditPackReconcileClaim.current_of_holds {o : PackOrder} (ho : o ∈ b.orders.rows)
    (h : claim.holds tx.wall o = true) : claim.Current b tx.wall := by
  simp only [holds, Bool.and_eq_true, decide_eq_true_eq, Option.any_eq_true] at h
  obtain ⟨⟨hid, htoken⟩, lapse, hlapse, hlater⟩ := h
  have hrow : b.orders.find? claim.orderId = some o := hid ▸ Table.find?_of_mem ho
  refine ⟨lapse, ?_, hlater⟩
  simp [Billing.reconcileLease, Billing.leaseColumns, hrow, PackOrder.leaseColumns,
    LeaseColumns.lease, htoken, hlapse]

/-- The lease columns of every order stay, and a new order has none. -/
def SameLeases (b b' : Billing) : Prop :=
  ∃ opened, b'.orders.rows.map PackOrder.leaseColumns =
      b.orders.rows.map PackOrder.leaseColumns ++ opened ∧
    ∀ c ∈ opened, c = { orderId := c.orderId }

namespace SameLeases

theorem of_eq (h : b'.orders = b.orders) : SameLeases b b' :=
  ⟨[], by rw [h, List.append_nil], nofun⟩

/-- Events serve the desk and lease nothing. -/
theorem of_served {bound : String → Prop} (h : Served bound b b') : SameLeases b b' := by
  obtain ⟨f, hrows, hf⟩ := h.orders
  refine ⟨[], ?_, nofun⟩
  rw [hrows, List.map_map, List.append_nil]
  refine List.map_congr_left fun o ho => ?_
  have hbooking := (hf o ho).booking
  exact (congrArg PackOrder.leaseColumns hbooking :)

theorem columns (h : SameLeases b b') {k : String} {c : LeaseColumns}
    (hc : b.leaseColumns k = some c) : b'.leaseColumns k = some c := by
  obtain ⟨opened, hrows, -⟩ := h
  have hgrows : Table.Grows PackOrder.leaseColumns b.orders b'.orders := ⟨opened, hrows.symm⟩
  obtain ⟨o, ho, rfl⟩ := Option.map_eq_some_iff.1 hc
  obtain ⟨o', ho', hsame⟩ := hgrows.find? LeaseColumns.orderId (fun _ => rfl) ho
  rw [Billing.leaseColumns, ho', Option.map_some, hsame]

theorem lease (h : SameLeases b b') (k : String) : b'.reconcileLease k = b.reconcileLease k := by
  cases hc : b.leaseColumns k with
  | some c => rw [Billing.reconcileLease, Billing.reconcileLease, h.columns hc, hc]
  | none =>
    obtain ⟨opened, hrows, hopened⟩ := h
    cases hc' : b'.leaseColumns k with
    | none => rw [Billing.reconcileLease, Billing.reconcileLease, hc, hc']
    | some c' =>
      -- an order that was opened has no lease
      obtain ⟨o', ho', rfl⟩ := Option.map_eq_some_iff.1 hc'
      have hmem : o'.leaseColumns ∈ b.orders.rows.map PackOrder.leaseColumns ++ opened :=
        hrows ▸ List.mem_map_of_mem (Table.find?_mem ho')
      have hopen : o'.leaseColumns ∈ opened := by
        refine (List.mem_append.1 hmem).resolve_left fun hold => ?_
        obtain ⟨o, ho, hsame⟩ := List.mem_map.1 hold
        have hid : o.id = o'.id := (congrArg LeaseColumns.orderId hsame :)
        have hkey : b.orders.find? k = some o :=
          Table.find?_eq_some_iff.2 ⟨ho, hid.trans (Table.find?_key ho')⟩
        simp [Billing.leaseColumns, hkey] at hc
      rw [Billing.reconcileLease, Billing.reconcileLease, hc, hc', Option.bind_some,
        hopened _ hopen]
      rfl

end SameLeases

/-- **A transaction outside the reconciler** leases nothing, unless the rest of the
    application does. -/
theorem Commits.leases (h : Commits cfg db db')
    (houtside : Outside db.billing db'.billing → SameLeases db.billing db'.billing) :
    SameLeases db.billing db'.billing := by
  cases h with
  | event h => exact .of_served (process_served h)
  | charge h => exact .of_eq (charge_frame h).orders
  | refund h => exact .of_eq (refund_frame h).orders
  | annual h _ => exact .of_eq (grantDue_desk h).orders
  | outside h => exact houtside h

/-! ## Workers -/

/-- A synthetic Event that gets past its fence names the live lease of its order. -/
theorem CreditPackReconcileClaim.current_of_fence {fact : SyntheticFact}
    (h : packClaimCurrent tx b (claim.event cfg fact) = true) : claim.Current b tx.wall := by
  have canonical : ∀ {raw text : String},
      ((Json.str raw).asStr.filter fun raw => canonicalUuid raw = some raw) = some text →
        raw = text := by
    intro raw text htext
    exact Option.some.inj (Option.filter_eq_some_iff.1 htext).1
  simp only [packClaimCurrent, event, Json.isNull, Bool.false_eq_true, if_false,
    Bool.and_eq_true] at h
  obtain ⟨-, h⟩ := h
  split at h
  case h_2 => exact absurd h Bool.false_ne_true
  case h_1 orderId accountId token horder haccount htoken =>
    obtain rfl : claim.orderId = orderId := canonical horder
    obtain rfl : claim.token = token := canonical htoken
    simp only [Bool.and_eq_true, Option.any_eq_true, decide_eq_true_eq] at h
    obtain ⟨-, o, ho, ⟨-, hcurrent⟩, lapse, hlapse, hlater⟩ := h
    refine ⟨lapse, ?_, hlater⟩
    simp [Billing.reconcileLease, Billing.leaseColumns, ho, PackOrder.leaseColumns,
      LeaseColumns.lease, hcurrent, hlapse]

/-- A fenced statement without a row changes nothing. -/
theorem CreditPackReconcileClaim.updateHeld {f : PackOrder → PackOrder}
    (hlost : ¬claim.Current b tx.wall) (h : b.updateWhere (claim.holds tx.wall) f = .ok b') :
    b' = b := by
  have hnone : b.updateWhere (claim.holds tx.wall) f = .ok b :=
    Billing.updateWhere_of_fixed fun o ho hholds => absurd (current_of_holds ho hholds) hlost
  exact Except.ok.inj (h.symm.trans hnone)

/-- **Without its lease** a worker changes no row of the database. Renewal, projection and finish
    look the lease up by token and time before they write, in the transaction that writes. -/
theorem WorkerAct.fenced {act : WorkerAct} (h : act.run cfg r tx db claim = .ok db')
    (hlost : ¬claim.Current db.billing tx.wall) : db' = db := by
  -- the lease is gone, so the guard of the update matches no row
  cases act with
  | renew =>
    simp only [run, CreditPackReconcileClaim.renew, bind_eq_ok, pure_eq_ok] at h
    obtain ⟨⟨b, _⟩, ⟨b₁, hupdate, heq⟩, rfl⟩ := h
    cases heq
    rw [claim.updateHeld hlost hupdate]
  | finish errorCode =>
    simp only [run, CreditPackReconcileClaim.finish, bind_eq_ok, pure_eq_ok] at h
    obtain ⟨⟨b, _⟩, ⟨b₁, hupdate, heq⟩, rfl⟩ := h
    cases heq
    rw [claim.updateHeld hlost hupdate]
  | project fact =>
    simp only [run, bind_eq_ok, pure_eq_ok] at h
    obtain ⟨⟨db₁, result⟩, hprocess, rfl⟩ := h
    -- the processor asks the same question before it claims the Event
    have hfence : packClaimCurrent tx db.billing (claim.event cfg fact) = false := by
      by_contra hpassed
      exact hlost (claim.current_of_fence (by simpa using hpassed))
    unfold process at hprocess
    -- an Event without a usable id, or one that is recorded already, stops even earlier
    split at hprocess
    · rw [pure_eq_ok] at hprocess
      exact (congrArg Prod.fst hprocess).symm
    · split at hprocess
      · rw [pure_eq_ok] at hprocess
        exact (congrArg Prod.fst hprocess).symm
      · simp only [hfence, Bool.not_false, if_true, pure_eq_ok] at hprocess
        exact (congrArg Prod.fst hprocess).symm

/-! ## The system -/

/-- The database, the clock, and every claim ever handed to a worker. A worker is its claim:
    it may act at any time, also long after it lost its lease, and it may crash. -/
structure Reconciling where
  db : Db
  clock : Int
  claims : List CreditPackReconcileClaim

/-- One transaction of the system. Clocks do not run backwards, and a drawn token is fresh. -/
inductive ReconcileStep (cfg : Config) (r : PackReconciler) : Reconciling → Reconciling → Prop
  | claimNext {s : Reconciling} {tx : Tx} {b : Billing} {token : String} {locked : String → Bool}
      {claim : Option CreditPackReconcileClaim} (hclock : s.clock ≤ tx.wall)
      (hfresh : ∀ c ∈ s.claims, c.token ≠ token)
      (h : r.claimNext tx s.db.billing token locked = .ok (b, claim)) :
      ReconcileStep cfg r s
        { db := { s.db with billing := b }, clock := tx.wall, claims := claim.toList ++ s.claims }
  | claimOrder {s : Reconciling} {tx : Tx} {b : Billing} {token orderId : String}
      {claim : Option CreditPackReconcileClaim} (hclock : s.clock ≤ tx.wall)
      (hfresh : ∀ c ∈ s.claims, c.token ≠ token)
      (h : r.claimOrder tx s.db.billing token orderId = .ok (b, claim)) :
      ReconcileStep cfg r s
        { db := { s.db with billing := b }, clock := tx.wall, claims := claim.toList ++ s.claims }
  | act {s : Reconciling} {tx : Tx} {db : Db} {claim : CreditPackReconcileClaim} {act : WorkerAct}
      (hclock : s.clock ≤ tx.wall) (hclaim : claim ∈ s.claims)
      (h : act.run cfg r tx s.db claim = .ok db) :
      ReconcileStep cfg r s { s with db, clock := tx.wall }
  /-- A webhook, a charge, a refund, the annual worker, or the rest of the application, which
      leaves the lease columns alone. -/
  | other {s : Reconciling} {db : Db} {clock : Int} (hclock : s.clock ≤ clock)
      (h : Commits cfg s.db db)
      (houtside : Outside s.db.billing db.billing → SameLeases s.db.billing db.billing) :
      ReconcileStep cfg r s { s with db, clock }

/-- Any interleaving of such transactions. -/
abbrev ReconcileRun (cfg : Config) (r : PackReconciler) : Reconciling → Reconciling → Prop :=
  Relation.ReflTransGen (ReconcileStep cfg r)

/-! ## The lease of one order -/

def Reconciling.columns (s : Reconciling) (orderId : String) : Option LeaseColumns :=
  s.db.billing.leaseColumns orderId

def Reconciling.lease (s : Reconciling) (orderId : String) : Lease String Int :=
  s.db.billing.reconcileLease orderId

def Reconciling.Drawn (s : Reconciling) (token : String) : Prop :=
  ∃ claim ∈ s.claims, claim.token = token

/-- The transaction is one of the worker that holds the claim, and its lease is current. -/
structure HeldAct (cfg : Config) (r : PackReconciler) (s s' : Reconciling)
    (claim : CreditPackReconcileClaim) : Prop where
  issued : claim ∈ s.claims
  act : ∃ (act : WorkerAct) (tx : Tx), tx.wall = s'.clock ∧
    act.run cfg r tx s.db claim = .ok s'.db
  current : claim.Current s.db.billing s'.clock

/-- What one transaction did to the lease columns of the order `k`. -/
inductive LeaseMove (cfg : Config) (r : PackReconciler) (s s' : Reconciling) (k : String) : Prop
  | kept (hcolumns : ∀ c, s.columns k = some c → s'.columns k = some c)
      (hlease : s'.lease k = s.lease k)
  | taken {c : LeaseColumns} {token : String} {expiresAt : Int} (hc : s.columns k = some c)
      (hfree : c.lease.Lapsed s'.clock) (hfresh : ¬s.Drawn token)
      (hc' : s'.columns k = some { c with token := some token, expiresAt := some expiresAt })
  | held {claim : CreditPackReconcileClaim} (h : HeldAct cfg r s s' claim)
      (hk : claim.orderId = k)
      (hlease : s'.lease k = none ∨ ∃ lapse, s'.lease k = some (claim.token, lapse))

/-- The columns of one order after an update of another. -/
theorem leaseColumns_update {k : String} {f : PackOrder → PackOrder} {t : Table PackOrder}
    {key : String} (h : b.orders.update? key f = some t) (hid : ∀ o, (f o).id = o.id) :
    Billing.leaseColumns { b with orders := t } k =
      if k = key then (b.orders.find? k).map fun o => (f o).leaseColumns
      else b.leaseColumns k := by
  split
  case isTrue hk =>
    subst hk
    rw [Billing.leaseColumns, Table.find?_update_self h hid, Option.map_map]
    rfl
  case isFalse hne =>
    rw [Billing.leaseColumns, Table.find?_update_ne h hid hne]
    rfl

/-- A free order has no current lease. -/
theorem PackOrder.lapsed_of_free {wall : Int} {o : PackOrder} (h : o.leaseFree wall = true) :
    o.leaseColumns.lease.Lapsed wall := by
  intro token lapse hlease
  simp only [LeaseColumns.lease, PackOrder.leaseColumns, Option.bind_eq_some_iff,
    Option.map_eq_some_iff, Prod.mk.injEq] at hlease
  obtain ⟨_, htoken, _, hlapse, rfl, rfl⟩ := hlease
  simpa [leaseFree, htoken, hlapse] using h

theorem leaseOrder_moves {s : Reconciling} {o : PackOrder} {token : String}
    {claim : Option CreditPackReconcileClaim} {k : String}
    (ho : o ∈ s.db.billing.orders.rows) (hfree : o.leaseFree tx.wall = true)
    (hfresh : ∀ c ∈ s.claims, c.token ≠ token)
    (h : r.leaseOrder tx s.db.billing token o = .ok (b, claim)) :
    LeaseMove cfg r s
      { db := { s.db with billing := b }, clock := tx.wall, claims := claim.toList ++ s.claims }
      k := by
  simp only [PackReconciler.leaseOrder, bind_eq_ok, Billing.update_eq_ok, Stored.table,
    Stored.install, pure_eq_ok] at h
  obtain ⟨_, ⟨orders, horders, rfl⟩, heq⟩ := h
  cases heq
  -- only the lease of the order that is taken moves
  have hcolumns := leaseColumns_update (k := k) horders fun _ => rfl
  have hrow : s.db.billing.orders.find? o.id = some o := Table.find?_of_mem ho
  by_cases hk : k = o.id
  -- this order: it was free, and the token was drawn for no other worker
  · subst hk
    rw [if_pos rfl, hrow] at hcolumns
    refine LeaseMove.taken (c := o.leaseColumns) ?_
      (PackOrder.lapsed_of_free hfree) ?_ hcolumns
    · simp [Reconciling.columns, Billing.leaseColumns, hrow]
    · rintro ⟨c, hc, hdrawn⟩
      exact hfresh c hc hdrawn
  -- any other order keeps its columns
  · rw [if_neg hk] at hcolumns
    refine .kept (fun c hc => hcolumns.trans hc) ?_
    simp [Reconciling.lease, Billing.reconcileLease, hcolumns]

/-- An update of the held row moves the lease of its order, and no other. -/
theorem updateHeld_moves {s s' : Reconciling} {f : PackOrder → PackOrder} {act : WorkerAct}
    {k : String} (hclaim : claim ∈ s.claims) (hwall : tx.wall = s'.clock)
    (hact : act.run cfg r tx s.db claim = .ok s'.db)
    (hupdate : s.db.billing.updateWhere (claim.holds tx.wall) f = .ok s'.db.billing)
    (hid : ∀ o, (f o).id = o.id)
    (hlease : ∀ o, o.reconcileClaimToken = some claim.token → (f o).leaseColumns.lease = none ∨
      ∃ lapse, (f o).leaseColumns.lease = some (claim.token, lapse)) :
    LeaseMove cfg r s s' k := by
  rw [Billing.updateWhere_eq_ok] at hupdate
  obtain ⟨orders, horders, hb⟩ := hupdate
  -- the rows afterwards, found by key
  have hfind : s'.db.billing.orders.find? k = (s.db.billing.orders.find? k).map fun o =>
      if claim.holds tx.wall o then f o else o := by
    rw [← hb]
    exact Table.find?_updateWhere horders hid k
  have hcolumns : s'.columns k = (s.db.billing.orders.find? k).map fun o =>
      (if claim.holds tx.wall o then f o else o).leaseColumns := by
    rw [Reconciling.columns, Billing.leaseColumns, hfind, Option.map_map]
    rfl
  -- the claim holds this order, or the update passes it by
  by_cases hheld : ∃ o, s.db.billing.orders.find? k = some o ∧ claim.holds tx.wall o = true
  case pos =>
    obtain ⟨o, ho, hholds⟩ := hheld
    have hcurrent := claim.current_of_holds (Table.find?_mem ho) hholds
    have hmatch := hholds
    simp only [CreditPackReconcileClaim.holds, Bool.and_eq_true, decide_eq_true_eq] at hmatch
    -- the row that matched is the claim's own order
    have hk : claim.orderId = k := hmatch.1.1.symm.trans (Table.find?_key ho)
    refine .held ⟨hclaim, ⟨act, tx, hwall, hact⟩, hwall ▸ hcurrent⟩ hk ?_
    have hnew : s'.lease k = (f o).leaseColumns.lease := by
      change (s'.columns k).bind LeaseColumns.lease = _
      rw [hcolumns, ho, Option.map_some, Option.bind_some, if_pos hholds]
    rw [hnew]
    exact hlease o hmatch.1.2
  -- an update that does not match leaves the columns as they were
  case neg =>
    have hsame : s'.columns k = s.columns k := by
      rw [hcolumns, Reconciling.columns, Billing.leaseColumns]
      refine Option.map_congr fun o ho => ?_
      rw [if_neg fun hholds => hheld ⟨o, ho, hholds⟩]
    refine .kept (fun c hc => hsame.trans hc) ?_
    change (s'.columns k).bind LeaseColumns.lease = (s.columns k).bind LeaseColumns.lease
    rw [hsame]

/-- **One transaction** keeps the lease of an order, takes it where it is free, or is one of
    the worker that holds it. -/
theorem ReconcileStep.moves {s s' : Reconciling} (h : ReconcileStep cfg r s s') (k : String) :
    LeaseMove cfg r s s' k := by
  cases h with
  | claimNext _ hfresh h =>
    simp only [PackReconciler.claimNext] at h
    split at h
    · rw [pure_eq_ok] at h
      cases h
      exact .kept (fun _ hc => hc) rfl
    case h_2 o hhead =>
      have hcandidate := List.mem_of_mem_head? hhead
      rw [Table.mem_orderBy, Table.select, List.mem_filter] at hcandidate
      obtain ⟨ho, hdue⟩ := hcandidate
      simp only [PackReconciler.due, Bool.and_eq_true] at hdue
      exact leaseOrder_moves ho hdue.1.1.2 hfresh h
  | claimOrder _ hfresh h =>
    unfold PackReconciler.claimOrder at h
    split at h
    · rw [pure_eq_ok] at h
      cases h
      exact .kept (fun _ hc => hc) rfl
    case h_2 o hrow =>
      rw [Option.filter_eq_some_iff, Option.bind_eq_some_iff] at hrow
      obtain ⟨⟨_, -, hfind⟩, hfree⟩ := hrow
      exact leaseOrder_moves (Table.find?_mem hfind) hfree hfresh h
  | @act tx db claim a _ hclaim hact =>
    have hrun := hact
    cases a with
    | renew =>
      simp only [WorkerAct.run, CreditPackReconcileClaim.renew, bind_eq_ok, pure_eq_ok] at hrun
      obtain ⟨⟨b, _⟩, ⟨b₁, hupdate, heq⟩, rfl⟩ := hrun
      cases heq
      refine updateHeld_moves hclaim rfl hact hupdate (fun _ => rfl) fun o htoken => .inr ?_
      simp [PackOrder.leaseColumns, LeaseColumns.lease, htoken]
    | finish errorCode =>
      simp only [WorkerAct.run, CreditPackReconcileClaim.finish, bind_eq_ok, pure_eq_ok] at hrun
      obtain ⟨⟨b, _⟩, ⟨b₁, hupdate, heq⟩, rfl⟩ := hrun
      cases heq
      refine updateHeld_moves hclaim rfl hact hupdate (fun _ => rfl) fun o _ => .inl ?_
      simp [PackOrder.leaseColumns, LeaseColumns.lease]
    | project fact =>
      simp only [WorkerAct.run, bind_eq_ok, pure_eq_ok] at hrun
      obtain ⟨⟨db₁, result⟩, hprocess, rfl⟩ := hrun
      -- a projection keeps the lease of the worker
      have hsame : SameLeases s.db.billing db₁.billing := .of_served (process_served hprocess)
      exact .kept (fun _ hc => hsame.columns hc) (hsame.lease k)
  | other _ h houtside =>
    have hsame := h.leases houtside
    exact .kept (fun _ hc => hsame.columns hc) (hsame.lease k)

/-- The reconciler leases its orders. -/
theorem reconcile_leased (k : String) :
    Leased (ReconcileStep cfg r) Reconciling.clock (Reconciling.lease · k) Reconciling.Drawn where
  -- keeping, taking, releasing and renewing are the four steps of the lease protocol
  step s s' h := by
    cases h.moves k with
    | kept _ hlease => exact hlease ▸ .keep
    | @taken c token expiresAt hc hfree hfresh hc' =>
      have hlease : s.lease k = c.lease := by
        change (s.columns k).bind LeaseColumns.lease = _
        rw [hc, Option.bind_some]
      have hlease' : s'.lease k = some (token, expiresAt) := by
        change (s'.columns k).bind LeaseColumns.lease = _
        rw [hc']
        rfl
      rw [hlease']
      exact .take (hlease ▸ hfree) hfresh
    -- a worker that holds the lease releases it or renews it
    | @held claim h hk hlease =>
      have hcurrent : (s.lease k).Current claim.token s'.clock := hk ▸ h.current
      rcases hlease with hnone | ⟨lapse, hsome⟩
      · rw [hnone]
        exact .release hcurrent
      · rw [hsome]
        exact .renew hcurrent
  clock s s' h := by
    cases h <;> assumption
  -- tokens stay drawn: the list of claims only grows
  drawn s s' h token hdrawn := by
    obtain ⟨claim, hclaim, htoken⟩ := hdrawn
    cases h with
    | claimNext | claimOrder => exact ⟨claim, List.mem_append_right _ hclaim, htoken⟩
    | act | other => exact ⟨claim, hclaim, htoken⟩

/-- **Lease fencing.** In any state of the system, a worker writes only under its current and
    unexpired lease; the lease columns of an order change only there or where a free order is
    leased anew; and a worker that lost its lease writes nothing in any continuation. -/
theorem reconciliation_fenced (cfg : Config) (r : PackReconciler) (s : Reconciling) :
    (∀ claim ∈ s.claims, ∀ (act : WorkerAct) (tx : Tx) (db : Db),
      act.run cfg r tx s.db claim = .ok db → db ≠ s.db → claim.Current s.db.billing tx.wall) ∧
    (∀ s', ReconcileStep cfg r s s' → ∀ k c, s.columns k = some c → s'.columns k ≠ some c →
      (∃ claim, HeldAct cfg r s s' claim ∧ claim.orderId = k) ∨
      c.lease.Lapsed s'.clock ∧ ∃ token expiresAt, ¬s.Drawn token ∧
        s'.columns k = some { c with token := some token, expiresAt := some expiresAt }) ∧
    ∀ claim ∈ s.claims, ¬claim.Current s.db.billing s.clock → ∀ s', ReconcileRun cfg r s s' →
      ∀ (act : WorkerAct) (tx : Tx) (db : Db), s'.clock ≤ tx.wall →
        act.run cfg r tx s'.db claim = .ok db → db = s'.db := by
  refine ⟨fun claim _ act tx db hrun hchanged => ?_, fun s' hstep k c hc hchanged => ?_,
    fun claim hclaim hlost s' hsteps act tx db hclock hrun => ?_⟩
  · by_contra hlost
    exact hchanged (act.fenced hrun hlost)
  · cases hstep.moves k with
    | kept hcolumns _ => exact absurd (hcolumns c hc) hchanged
    | taken hc₀ hfree hfresh hc' =>
      cases hc.symm.trans hc₀
      exact .inr ⟨hfree, _, _, hfresh, hc'⟩
    | held h hk _ => exact .inl ⟨_, h, hk⟩
  · have hstill := ((reconcile_leased claim.orderId).lost hsteps ⟨claim, hclaim, rfl⟩ hlost).2
    exact act.fenced hrun fun hcurrent => hstill (hcurrent.earlier hclock)

/-! ## A takeover -/

def referenceReconciler : PackReconciler where
  lease := 300 * 1000000
  pendingInterval := 300 * 1000000
  paidInterval := 6 * 3600 * 1000000
  lease_bound := by decide
  pending_bound := by decide
  paid_bound := by decide

/-- The claim of a worker on the first pack. -/
def packClaim (token : String) : CreditPackReconcileClaim :=
  reconcileClaim firstPack token { id := referenceAccountId, externalRef := "user_1" }

/-- A second worker took the order over until second 900. -/
def takenOver : Reconciling where
  db := { packDb with billing := { packDb.billing with
    orders := {
      rows := [firstPack.leased "00000000-0000-0000-0000-0000000000f2" 900000000]
      valid := by decide } } }
  clock := 600000000
  claims := [packClaim "00000000-0000-0000-0000-0000000000f2",
    packClaim "00000000-0000-0000-0000-0000000000f1"]

/-- The first worker comes back late and finishes nothing; the second one finishes. -/
theorem takenOver_fenced :
    (∃ db, (WorkerAct.finish none).run referenceConfig referenceReconciler
        (referenceTx 600000000) takenOver.db
          (packClaim "00000000-0000-0000-0000-0000000000f1") = .ok db ∧ db = takenOver.db) ∧
    ∃ db, (WorkerAct.finish none).run referenceConfig referenceReconciler
        (referenceTx 600000000) takenOver.db
          (packClaim "00000000-0000-0000-0000-0000000000f2") = .ok db ∧ db ≠ takenOver.db ∧
      (packClaim "00000000-0000-0000-0000-0000000000f2").Current takenOver.db.billing 600000000 := by
  -- the law gives that only the holder writes, and that the first worker has lost its lease
  obtain ⟨hwrites, -, hlost⟩ :=
    reconciliation_fenced referenceConfig referenceReconciler takenOver
  constructor
  -- both calls succeed; the first matches no row
  · have hok : ((WorkerAct.finish none).run referenceConfig referenceReconciler
        (referenceTx 600000000) takenOver.db
          (packClaim "00000000-0000-0000-0000-0000000000f1")).map (fun _ => ()) = .ok () := by
      decide +kernel
    obtain ⟨db, hrun, -⟩ := map_eq_ok.1 hok
    refine ⟨db, hrun, hlost _ (by simp [takenOver]) ?_ takenOver .refl _ _ _ le_rfl hrun⟩
    rintro ⟨lapse, hlease, -⟩
    have hholder : takenOver.db.billing.reconcileLease firstPack.id =
        some ("00000000-0000-0000-0000-0000000000f2", 900000000) := by decide +kernel
    have hsame := hholder.symm.trans hlease
    simp [packClaim, reconcileClaim] at hsame
  · have hok : ((WorkerAct.finish none).run referenceConfig referenceReconciler
        (referenceTx 600000000) takenOver.db
          (packClaim "00000000-0000-0000-0000-0000000000f2")).map
            (fun db => db.billing.reconcileLease firstPack.id) = .ok none := by
      decide +kernel
    obtain ⟨db, hrun, hfinished⟩ := map_eq_ok.1 hok
    have hchanged : db ≠ takenOver.db := by
      rintro rfl
      exact absurd hfinished (by decide +kernel)
    exact ⟨db, hrun, hchanged, hwrites _ (by simp [takenOver]) _ _ _ hrun hchanged⟩

end StripeEntitlements
