import StripeEntitlements.Packs.PackViews
import StripeEntitlements.Reference

/-!
# Disputed Packs

In a run that accepts no refund of a pack after its dispute, the dispute stays on the order
and on its lot, and what they show in the end depends on the set of facts that were accepted.
A refund accepted after the dispute is projected like any other and takes its place.

## Main results

- `PackRun` — runs with the facts they accepted about one order
- `PackRun.view` — in such a run the order and its lot show the facts
- `pack_disputes_are_terminal` — the dispute stays, in whatever order the facts arrive
-/

namespace StripeEntitlements

open Relational

variable {cfg : Config} {clock : Int} {db db' db'' : Db} {order : PackOrder}

/-! ## Runs -/

/-- The fact about `orderId` that an Event adds where it is processed. -/
def acceptedPackFact (cfg : Config) (tx : Tx) (orderId : String) (db : Db) (e : Event) :
    Option (PackOrder × PackFact) :=
  if reachesHandler cfg tx db e then
    (packFactOf cfg db.billing e).filter fun fact => fact.1.id = orderId
  else
    none

/-- One transaction no later than `clock`, with the fact about `orderId` it accepted and the
    row of the order it accepted it for. -/
inductive PackDelivers (cfg : Config) (orderId : String) (clock : Int) :
    Db → Option (PackOrder × PackFact) → Db → Prop
  | event {tx : Tx} {db db' : Db} {e : Event} {result : ProcessResult} (hclock : tx.wall ≤ clock)
      (h : process cfg tx db e = .ok (db', result)) :
      PackDelivers cfg orderId clock db (acceptedPackFact cfg tx orderId db e) db'
  | charge {tx : Tx} {db : Db} {b : Billing} {accountId idempotencyKey : String} {amount : Nat}
      {result : CreditResult} (hclock : tx.wall ≤ clock)
      (h : StripeEntitlements.charge cfg.unicode.isPrintable tx db.billing accountId amount
        idempotencyKey = .ok (b, result)) :
      PackDelivers cfg orderId clock db none { db with billing := b }
  | refund {tx : Tx} {db : Db} {b : Billing} {idempotencyKey : String}
      {expectedAccountId : Option String} {result : CreditResult} (hclock : tx.wall ≤ clock)
      (h : StripeEntitlements.refund cfg.unicode.isPrintable tx db.billing idempotencyKey
        expectedAccountId = .ok (b, result)) :
      PackDelivers cfg orderId clock db none { db with billing := b }
  | annual {tx : Tx} {db : Db} {accountId : String} {now : Option Int}
      {snapshot : SubscriptionSnapshot} {effect : Effect} {incidents : Table Incident}
      (hclock : tx.wall ≤ clock)
      (h : grantDue cfg tx db.billing accountId now snapshot = .ok effect)
      (hincidents : effect.incidents.foldlM (applyIncident tx none) db.incidents =
        .ok incidents) :
      PackDelivers cfg orderId clock db none { db with billing := effect.billing, incidents }
  | outside {db : Db} {b : Billing} {incidents : Table Incident} (h : Outside db.billing b) :
      PackDelivers cfg orderId clock db none { db with billing := b, incidents }

/-- A run with the facts it accepted about `orderId`, the latest first. -/
inductive PackRun (cfg : Config) (orderId : String) (clock : Int) (db : Db) :
    List (PackOrder × PackFact) → Db → Prop
  | refl : PackRun cfg orderId clock db [] db
  | tail {facts : List (PackOrder × PackFact)} {fact : Option (PackOrder × PackFact)}
      {db' db'' : Db} (h : PackRun cfg orderId clock db facts db')
      (hstep : PackDelivers cfg orderId clock db' fact db'') :
      PackRun cfg orderId clock db (fact.toList ++ facts) db''

theorem PackDelivers.commits {orderId : String} {fact : Option (PackOrder × PackFact)}
    (h : PackDelivers cfg orderId clock db fact db') : Commits cfg db db' := by
  cases h with
  | event _ h => exact .event h
  | charge _ h => exact .charge h
  | refund _ h => exact .refund h
  | annual _ h hincidents => exact .annual h hincidents
  | outside h => exact .outside h

theorem PackRun.reachable {orderId : String} {facts : List (PackOrder × PackFact)}
    (h : PackRun cfg orderId clock db facts db') (hdb : Reachable cfg db) : Reachable cfg db' := by
  induction h with
  | refl => exact hdb
  | tail _ hstep ih => exact ih.tail hstep.commits

/-- No refund was accepted for an order that was disputed. -/
def NoLateRefund (facts : List (PackOrder × PackFact)) : Prop :=
  ∀ o cash, (o, PackFact.refunded cash) ∈ facts → o.paymentStatus ≠ .disputed

/-! ## The order shows the facts of a run -/

/-- One transaction adds its fact to what the order shows. -/
theorem PackView.delivers {facts : List PackFact} {fact : Option (PackOrder × PackFact)}
    (hdb : Reachable cfg db) (h : PackView clock order facts db.billing)
    (hlate : NoLateRefund fact.toList) (hstep : PackDelivers cfg order.id clock db fact db') :
    PackView clock order ((fact.map Prod.snd).toList ++ facts) db'.billing := by
  -- one case for each transaction; only an Event can carry a fact
  cases hstep with
  | @event tx _ _ e _ hclock hprocess =>
    rcases process_cases hprocess with ⟨hstops, hb⟩ | ⟨hreaches, effect, hdispatch, hb⟩
    -- a stopped Event has no accepted fact
    · rw [acceptedPackFact, hstops, hb]
      exact h
    rw [acceptedPackFact, hreaches, if_pos rfl] at hlate
    rw [acceptedPackFact, hreaches, if_pos rfl, hb]
    cases dispatch_packFact hdispatch with
    | steps hfact hsteps =>
      rw [hfact]
      exact h.steps hsteps
    | @payment p hfact horder hpay =>
      rw [hfact]
      -- the fact counts when it is about this order, otherwise the view is another order's frame
      by_cases hid : p.order.id = order.id
      · simpa [Option.filter, hid] using h.paid hid horder hclock hpay
      · simpa [Option.filter, hid] using h.paid_other hid hpay
    | @clawback c hfact horder hamount hle hpos hclaw =>
      rw [hfact] at hlate ⊢
      by_cases hid : c.order.id = order.id
      · obtain ⟨o, ho, hshows⟩ := h.row
        rw [← hid, horder, Option.some.injEq] at ho
        -- a refund is not accepted late, so the order is not disputed when it comes
        have hundisputed : c.dispute = false → .disputed ∉ facts := by
          intro hrefund hdisputed
          have hstatus : c.order.paymentStatus = .disputed := by
            rw [ho, hshows.status]
            exact shownStatus_eq_disputed.2 hdisputed
          refine hlate c.order c.amountRefunded ?_ hstatus
          simp [Option.filter, hid, PackClawback.fact, hrefund]
        simpa [Option.filter, hid] using
          h.clawback hid horder hamount hpos hundisputed hclock hclaw
      · simpa [Option.filter, hid] using h.clawback_other hid horder hamount hclaw
  -- charges, refunds of charges and the worker only age the lots and draw from them
  | charge hclock hcharge =>
    exact h.of_ages (PackView.same_orders (charge_moves hdb.packBooks.state.linked hcharge).2.orders)
      ((charge_ages hcharge).mono hclock)
  | refund hclock hrefund =>
    exact h.of_ages (PackView.same_orders (refund_frame hrefund).orders)
      ((refund_ages hdb.packBooks.state hrefund).mono hclock)
  | annual _ hgrant _ => exact h.steps (grantDue_packSteps hgrant)
  | outside houtside => exact h.of_ages (fun o ho => houtside.order ho) (.of_lots houtside.lots)

/-- **The order shows the facts of the run.** -/
theorem PackRun.view {facts : List (PackOrder × PackFact)} (hdb : Reachable cfg db)
    (h : PackView clock order [] db.billing) (hrun : PackRun cfg order.id clock db facts db')
    (hlate : NoLateRefund facts) : PackView clock order (facts.map Prod.snd) db'.billing := by
  induction hrun with
  | refl => exact h
  | @tail facts fact db' db'' hrun hstep ih =>
    have hview := ih fun o cash hmem => hlate o cash (List.mem_append_right _ hmem)
    have hstepped := hview.delivers (hrun.reachable hdb)
      (fun o cash hmem => hlate o cash (List.mem_append_left _ hmem)) hstep
    cases fact with
    | none => exact hstepped
    | some fact => exact hstepped

/-! ## Standings -/

/-- Payment status, refunded cash, clawed atoms and lot status of an order. -/
structure PackStanding where
  paymentStatus : PaymentStatus
  amountRefunded : Nat
  refundedCredits : Nat
  lot : Option LotStatus
  deriving DecidableEq, Repr

def packStanding (b : Billing) (orderId : String) : Option PackStanding :=
  (b.orders.find? orderId).map fun o => {
    paymentStatus := o.paymentStatus
    amountRefunded := o.amountRefunded
    refundedCredits := o.refundedCredits
    lot := (lotOfOrder b orderId).map FundingLot.status }

/-- The standing before its lot expired. -/
def PackStanding.unexpired (s : PackStanding) : PackStanding :=
  { s with lot := s.lot.map fun status => if status = .expired then .active else status }

/-- The standing a set of facts asks for. -/
def shownStanding (order : PackOrder) (facts : List PackFact) : PackStanding where
  paymentStatus := shownStatus order.priceAmount facts
  amountRefunded := shownCash order.priceAmount facts
  refundedCredits := shownAtoms order.packCredits order.priceAmount facts
  lot := shownLot order.packCredits order.priceAmount facts

theorem shownStanding_congr {facts facts' : List PackFact} (h : ∀ f, f ∈ facts ↔ f ∈ facts') :
    shownStanding order facts = shownStanding order facts' := by
  simp only [shownStanding, shownStatus_congr h, shownCash_congr h, shownAtoms_congr h,
    shownLot_congr h]

theorem shownLot_ne_expired (credits price : Nat) (facts : List PackFact) :
    shownLot credits price facts ≠ some .expired := by
  unfold shownLot
  split
  · split
    · simp
    · split <;> simp
  · simp

/-- The clock was before the end of the window of every payment. -/
def WithinWindow (order : PackOrder) (clock : Int) (facts : List PackFact) : Prop :=
  ∀ paidAt, .paid paidAt ∈ facts → clock < paidAt + order.expiresDays * dayMicros

namespace PackView

variable {b : Billing} {facts : List PackFact}

/-- The view fixes the standing up to the expiry of an open lot. -/
theorem unexpired (h : PackView clock order facts b) :
    (packStanding b order.id).map PackStanding.unexpired = some (shownStanding order facts) := by
  obtain ⟨o, ho, hshows⟩ := h.row
  have hlot := h.lot
  have hopen := shownLot_ne_expired order.packCredits order.priceAmount facts
  simp only [packStanding, ho, Option.map_some, PackStanding.unexpired, shownStanding,
    hshows.status, hshows.cash, hshows.atoms, Option.some.injEq, PackStanding.mk.injEq, true_and]
  generalize shownLot order.packCredits order.priceAmount facts = status at hlot hopen
  generalize lotOfOrder b order.id = l at hlot
  cases hlot with
  | none => rfl
  | @some status l hlot =>
    rcases hlot with hsame | ⟨hactive, hexpired, -⟩
    · have hne : l.status ≠ .expired := fun heq => hopen (by rw [← hsame, heq])
      simp [hsame, hsame ▸ hne]
    · simp [hactive, hexpired]

/-- Within the window the view fixes the standing. -/
theorem standing (h : PackView clock order facts b) (hwindow : WithinWindow order clock facts) :
    packStanding b order.id = some (shownStanding order facts) := by
  rw [← h.unexpired]
  obtain ⟨o, ho, -⟩ := h.row
  simp only [packStanding, ho, Option.map_some, PackStanding.unexpired, Option.some.injEq,
    PackStanding.mk.injEq, true_and]
  cases hl : lotOfOrder b order.id with
  | none => rfl
  | some l =>
    have hne : l.status ≠ .expired := by
      intro hexpired
      have hlot := h.lot
      rw [hl] at hlot
      obtain ⟨status, hstatus, hshows⟩ := h.lot_of_mem (lotOfOrder_eq_some.1 hl).1
        (lotOfOrder_eq_some.1 hl).2
      rcases hshows with hsame | ⟨-, -, hle⟩
      · exact shownLot_ne_expired _ _ _ (hstatus.trans (by rw [← hsame, hexpired]))
      · obtain ⟨paidAt, hpaid, hend⟩ := h.window l hl
        have := hwindow paidAt hpaid
        omega
    simp [hne]

/-- A dispute among the facts is on the order and its lot. -/
theorem disputed (h : PackView clock order facts b) (hdisputed : .disputed ∈ facts) :
    ∃ o, b.orders.find? order.id = some o ∧ o.paymentStatus = .disputed ∧
      ∀ l, lotOfOrder b order.id = some l → l.status = .disputed := by
  obtain ⟨o, ho, hshows⟩ := h.row
  refine ⟨o, ho, hshows.status.trans (shownStatus_eq_disputed.2 hdisputed), fun l hl => ?_⟩
  obtain ⟨status, hstatus, hlot⟩ := h.lot_of_mem (lotOfOrder_eq_some.1 hl).1
    (lotOfOrder_eq_some.1 hl).2
  unfold shownLot at hstatus
  split at hstatus
  · rw [Option.some.injEq] at hstatus
    subst hstatus
    rcases hlot with hlot | ⟨hopen, -, -⟩
    · exact hlot
    · cases hopen
  · cases hstatus

/-- An order that was just reserved shows no facts. -/
theorem reserved (horder : b.orders.find? order.id = some order)
    (hpending : order.paymentStatus = .pending) (hlot : lotOfOrder b order.id = none) :
    PackView clock order [] b := by
  obtain ⟨-, hprice, -, -, hstatus⟩ :=
    PackOrder.cash_checked (b.orders.valid.checked order (Table.find?_mem horder))
  simp only [PackOrder.statusCheck, hpending, Bool.and_eq_true, decide_eq_true_eq] at hstatus
  refine ⟨⟨order, horder, rfl, rfl, rfl, rfl, ?_, ?_, ?_⟩, ?_, fun l hl => ?_⟩
  · rw [hpending, shownStatus, shownCash_nil]
    simp [hprice.ne']
  · rw [hstatus.1.2, shownCash_nil]
  · rw [hstatus.2, shownAtoms, shownCash_nil, if_neg (not_le.2 hprice), mul_zero, zero_add,
      Nat.div_eq_of_lt (by omega)]
  · rw [hlot]
    exact .none
  · rw [hlot] at hl
    cases hl

end PackView

/-- A refund accepted for a disputed order takes the place of the dispute. -/
theorem late_refund_replaces {tx : Tx} {e : Event} {o : PackOrder} {cash : Nat}
    {result : ProcessResult} (h : process cfg tx db e = .ok (db', result))
    (hfact : acceptedPackFact cfg tx order.id db e = some (o, .refunded cash)) :
    ∃ o', db'.billing.orders.find? order.id = some o' ∧ o'.paymentStatus ≠ .disputed := by
  unfold acceptedPackFact at hfact
  -- an accepted fact comes from an Event that reached its handler
  split at hfact
  case isFalse => cases hfact
  case isTrue hreaches =>
    obtain ⟨hfact, hid⟩ := Option.filter_eq_some_iff.1 hfact
    simp only [decide_eq_true_eq] at hid
    rcases process_cases h with ⟨hstops, -⟩ | ⟨-, effect, hdispatch, hb⟩
    · rw [hreaches] at hstops
      cases hstops
    -- of the three ways to dispatch only a clawback has this fact
    cases dispatch_packFact hdispatch with
    | steps hnone _ =>
      rw [hnone] at hfact
      cases hfact
    | payment hpaid _ _ =>
      rw [hpaid] at hfact
      cases hfact
    | @clawback c hclawed horder hamount _ _ hclaw =>
      rw [hclawed, Option.some.injEq, Prod.mk.injEq] at hfact
      obtain ⟨rfl, hrefund⟩ := hfact
      -- it is a refund, so the status it leaves is one of the two of a refund
      have hdispute : c.dispute = false := by
        cases hd : c.dispute with
        | false => rfl
        | true => simp [PackClawback.fact, hd] at hrefund
      obtain ⟨o', ho', -, -, -, -, hstatus, -⟩ := (applyPackClawback_leaves horder
        (PackClawback.cash_le (Table.find?_mem horder) hamount) hclaw).order
      refine ⟨o', by rw [hb, ← hid]; exact ho', ?_⟩
      rw [hstatus, PackClawback.cashStatus, hdispute]
      simp only [Bool.false_eq_true, if_false]
      split <;> simp

/-- **A dispute stays where no refund follows it.** In every run from the reservation of a pack
    order in which no refund is accepted after a dispute, an accepted dispute is on the order
    and on its lot. What they show depends on the set of accepted facts alone, up to the expiry
    of the lot, and exactly so within the window of the pack. A refund that is accepted after
    the dispute ends it. -/
theorem pack_disputes_are_terminal {facts : List (PackOrder × PackFact)} (hdb : Reachable cfg db)
    (horder : db.billing.orders.find? order.id = some order)
    (hpending : order.paymentStatus = .pending) (hlot : lotOfOrder db.billing order.id = none)
    (hrun : PackRun cfg order.id clock db facts db') (hlate : NoLateRefund facts) :
    (PackFact.disputed ∈ facts.map Prod.snd →
      ∃ o, db'.billing.orders.find? order.id = some o ∧ o.paymentStatus = .disputed ∧
        ∀ l, lotOfOrder db'.billing order.id = some l → l.status = .disputed) ∧
    (∀ (clock' : Int) (facts' : List (PackOrder × PackFact)) (db'' : Db),
      PackRun cfg order.id clock' db facts' db'' → NoLateRefund facts' →
      (∀ f, f ∈ facts.map Prod.snd ↔ f ∈ facts'.map Prod.snd) →
      (packStanding db'.billing order.id).map PackStanding.unexpired =
          (packStanding db''.billing order.id).map PackStanding.unexpired ∧
        (WithinWindow order clock (facts.map Prod.snd) →
          WithinWindow order clock' (facts'.map Prod.snd) →
          packStanding db'.billing order.id = packStanding db''.billing order.id)) ∧
    ∀ (tx : Tx) (e : Event) (o : PackOrder) (cash : Nat) (result : ProcessResult) (db'' : Db),
      process cfg tx db' e = .ok (db'', result) →
      acceptedPackFact cfg tx order.id db' e = some (o, .refunded cash) →
      ∃ o', db''.billing.orders.find? order.id = some o' ∧ o'.paymentStatus ≠ .disputed := by
  -- the view of the run shows the facts; a second run with the same facts shows the same
  have hview := hrun.view hdb (.reserved horder hpending hlot) hlate
  refine ⟨hview.disputed, ?_, fun _ _ _ _ _ _ => late_refund_replaces⟩
  intro clock' facts' db'' hrun' hlate' hsame
  have hview' := hrun'.view hdb (.reserved horder hpending hlot) hlate'
  have hshown : shownStanding order (facts.map Prod.snd) =
      shownStanding order (facts'.map Prod.snd) := shownStanding_congr hsame
  constructor
  · rw [hview.unexpired, hview'.unexpired, hshown]
  -- within the window no lot has expired, so nothing is left to forget
  · intro hwindow hwindow'
    rw [hview.standing hwindow, hview'.standing hwindow', hshown]

/-! ## Delivered Events -/

/-- Events processed one after another, with the facts about `orderId` they add. -/
def deliverPackEvents (cfg : Config) (tx : Tx) (orderId : String) :
    List (PackOrder × PackFact) → Db → List Event → Transaction (List (PackOrder × PackFact) × Db)
  | facts, db, [] => .ok (facts, db)
  | facts, db, e :: rest => do
      let (db', _) ← process cfg tx db e
      deliverPackEvents cfg tx orderId
        ((acceptedPackFact cfg tx orderId db e).toList ++ facts) db' rest

theorem PackRun.deliver {tx : Tx} {orderId : String} {facts facts' : List (PackOrder × PackFact)}
    {events : List Event} (h : PackRun cfg orderId clock db facts db') (hclock : tx.wall ≤ clock)
    (hrun : deliverPackEvents cfg tx orderId facts db' events = .ok (facts', db'')) :
    PackRun cfg orderId clock db facts' db'' := by
  induction events generalizing facts db' with
  | nil =>
    cases hrun
    exact h
  | cons e rest ih =>
    simp only [deliverPackEvents, bind_eq_ok] at hrun
    obtain ⟨⟨db₁, result⟩, hprocess, hrest⟩ := hrun
    exact ih (h.tail (.event hclock hprocess)) hrest

/-- The accepted facts with the status they met, and the standing of the first pack. -/
def firstPackStanding (events : List Event) :
    Transaction (List (PaymentStatus × PackFact) × Option PackStanding) :=
  (deliverPackEvents referenceConfig (referenceTx 0) firstPack.id [] packDb events).map
    fun (facts, db) => (facts.map fun (o, fact) => (o.paymentStatus, fact),
      packStanding db.billing firstPack.id)

theorem firstPack_run (events : List Event) (accepted : List (PaymentStatus × PackFact))
    (standing : Option PackStanding) (h : firstPackStanding events = .ok (accepted, standing)) :
    ∃ facts db, PackRun referenceConfig firstPack.id 0 packDb facts db ∧
      (facts.map fun fact => (fact.1.paymentStatus, fact.2)) = accepted ∧
      packStanding db.billing firstPack.id = standing := by
  unfold firstPackStanding at h
  cases hrun : deliverPackEvents referenceConfig (referenceTx 0) firstPack.id [] packDb events with
  | error failure =>
    rw [hrun] at h
    cases h
  | ok run =>
    rw [hrun] at h
    cases h
    exact ⟨run.1, run.2, PackRun.refl.deliver le_rfl hrun, rfl, rfl⟩

/-- A partial refund that Stripe reports after the dispute ends the dispute, and the order of
    the two decides the payment status. -/
theorem late_refund_ends_dispute :
    (∃ facts db, PackRun referenceConfig firstPack.id 0 packDb facts db ∧
      (facts.map fun fact => (fact.1.paymentStatus, fact.2)) =
        [(.disputed, .refunded 200), (.paid, .disputed), (.pending, .paid 0)] ∧
      packStanding db.billing firstPack.id =
        some ⟨.refunded, 500, 1000000, some .disputed⟩) ∧
    ∃ facts db, PackRun referenceConfig firstPack.id 0 packDb facts db ∧
      (facts.map fun fact => (fact.1.paymentStatus, fact.2)) =
        [(.partiallyRefunded, .disputed), (.paid, .refunded 200), (.pending, .paid 0)] ∧
      packStanding db.billing firstPack.id =
        some ⟨.disputed, 500, 1000000, some .disputed⟩ :=
  ⟨firstPack_run [paidPack "evt_1" 0 firstPack, disputedPack "evt_2" 0 firstPack,
      refundedPack "evt_3" 0 firstPack 200 true] _ _ (by decide +kernel),
    firstPack_run [paidPack "evt_1" 0 firstPack, refundedPack "evt_3" 0 firstPack 200 true,
      disputedPack "evt_2" 0 firstPack] _ _ (by decide +kernel)⟩

/-- The dispute of a pack that was refunded in part before stays. -/
theorem firstPack_dispute_stays : ∃ facts db,
    PackRun referenceConfig firstPack.id 0 packDb facts db ∧
      PackFact.disputed ∈ facts.map Prod.snd ∧
      ∃ o, db.billing.orders.find? firstPack.id = some o ∧ o.paymentStatus = .disputed ∧
        ∀ l, lotOfOrder db.billing firstPack.id = some l → l.status = .disputed := by
  obtain ⟨facts, db, hrun, hfacts, -⟩ := firstPack_run [paidPack "evt_1" 0 firstPack,
    refundedPack "evt_3" 0 firstPack 200 true, disputedPack "evt_2" 0 firstPack]
    [(.partiallyRefunded, .disputed), (.paid, .refunded 200), (.pending, .paid 0)]
    (some ⟨.disputed, 500, 1000000, some .disputed⟩) (by decide +kernel)
  have hlate : NoLateRefund facts := by
    intro o cash hmem hdisputed
    have hmap := List.mem_map_of_mem (f := fun fact => (fact.1.paymentStatus, fact.2)) hmem
    rw [hfacts] at hmap
    simp [hdisputed] at hmap
  have hmem : PackFact.disputed ∈ facts.map Prod.snd := by
    have hsnd := congrArg (List.map Prod.snd) hfacts
    rw [List.map_map] at hsnd
    rw [show facts.map Prod.snd = _ from hsnd]
    simp
  exact ⟨facts, db, hrun, hmem,
    (pack_disputes_are_terminal packDb_reachable rfl rfl rfl hrun hlate).1 hmem⟩

end StripeEntitlements
