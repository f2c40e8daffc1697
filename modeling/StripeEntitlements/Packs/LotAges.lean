import StripeEntitlements.Packs.Runs
import StripeEntitlements.Relational.Evolution

/-!
# Ages of Funding Lots

Charges, product refunds and the collectors move atoms in and out of lots. Of what a lot is,
they change one thing: an active lot whose window has closed becomes an expired one.

## Main results

- `FundingLot.Ages` — what a lot may become before a given instant
- `charge_ages`, `refund_ages` — the credit service only ages lots
- `PackSteps.lots` — the Events outside the pack processor leave them alone
-/

namespace StripeEntitlements

open Relational

variable {cfg : Config} {tx : Tx} {clock : Int} {b b' b'' : Billing} {effect : Effect}

/-! ## One lot -/

/-- A lot keeps its order, window and status, or expired by `clock` at the latest. -/
structure FundingLot.Ages (clock : Int) (l l' : FundingLot) : Prop where
  orderId : l'.orderId = l.orderId
  expiresAt : l'.expiresAt = l.expiresAt
  status : l'.status = l.status ∨
    l.status = .active ∧ l'.status = .expired ∧ l.expiresAt ≤ clock

namespace FundingLot.Ages

variable {l l' l'' : FundingLot}

theorem refl (l : FundingLot) : Ages clock l l := ⟨rfl, rfl, .inl rfl⟩

theorem trans (h : Ages clock l l') (h' : Ages clock l' l'') : Ages clock l l'' where
  orderId := h'.orderId.trans h.orderId
  expiresAt := h'.expiresAt.trans h.expiresAt
  status := by
    rcases h.status with hsame | ⟨hactive, hexpired, hle⟩
    · rcases h'.status with hsame' | ⟨hactive', hexpired', hle'⟩
      · exact .inl (hsame'.trans hsame)
      · exact .inr ⟨hsame ▸ hactive', hexpired', h.expiresAt ▸ hle'⟩
    · rcases h'.status with hsame' | ⟨hactive', -, -⟩
      · exact .inr ⟨hactive, hsame'.trans hexpired, hle⟩
      · rw [hexpired] at hactive'
        cases hactive'

/-- The lazy expiry of an active lot. -/
theorem expire {closedAt : Int} (hactive : l.status = .active) (hle : l.expiresAt ≤ clock) :
    Ages clock l (l.expire closedAt) :=
  ⟨rfl, rfl, .inr ⟨hactive, rfl, hle⟩⟩

theorem mono {clock' : Int} (h : Ages clock l l') (hle : clock ≤ clock') : Ages clock' l l' where
  orderId := h.orderId
  expiresAt := h.expiresAt
  status := h.status.imp_right fun ⟨hactive, hexpired, hwindow⟩ =>
    ⟨hactive, hexpired, le_trans hwindow hle⟩

end FundingLot.Ages

/-! ## All lots -/

/-- No lot comes or goes, and each lot only ages. -/
def LotsAge (clock : Int) (b b' : Billing) : Prop :=
  b.lots.Evolves (FundingLot.Ages clock) b'.lots

namespace LotsAge

theorem of_lots (h : b'.lots = b.lots) : LotsAge clock b b' := .of_eq .refl h

theorem refl (b : Billing) : LotsAge clock b b := of_lots rfl

theorem trans (h : LotsAge clock b b') (h' : LotsAge clock b' b'') : LotsAge clock b b'' :=
  Table.Evolves.trans (fun hl hl' => hl.trans hl') h h'

theorem mono {clock' : Int} (h : LotsAge clock b b') (hle : clock ≤ clock') :
    LotsAge clock' b b' := by
  intro k
  have hk := h k
  generalize b.lots.find? k = l at hk ⊢
  generalize b'.lots.find? k = l' at hk ⊢
  cases hk with
  | none => exact .none
  | some hl => exact .some (hl.mono hle)

/-- A statement on lots that ages each lot it writes. -/
theorem updateWhere {p : FundingLot → Bool} {f : FundingLot → FundingLot} {t : Table FundingLot}
    (h : b.lots.updateWhere? p f = some t) (hid : ∀ l, (f l).id = l.id)
    (hf : ∀ l ∈ b.lots.rows, p l = true → l.Ages clock (f l)) :
    LotsAge clock b { b with lots := t } :=
  Table.Evolves.updateWhere .refl h hid hf

/-- A statement that moves atoms only. -/
theorem moveAtoms {p : FundingLot → Bool} {f : FundingLot → FundingLot} {t : Table FundingLot}
    (h : b.lots.updateWhere? p f = some t) (hid : ∀ l, (f l).id = l.id)
    (hf : ∀ l, (f l).orderId = l.orderId ∧ (f l).expiresAt = l.expiresAt ∧
      (f l).status = l.status) : LotsAge clock b { b with lots := t } :=
  updateWhere h hid fun l _ _ => ⟨(hf l).1, (hf l).2.1, .inl (hf l).2.2⟩

/-- The lot of an order is the aged lot of that order. -/
theorem lotOfOrder (h : LotsAge clock b b') (orderId : String) :
    Option.Rel (FundingLot.Ages clock) (lotOfOrder b orderId) (lotOfOrder b' orderId) := by
  cases hl : StripeEntitlements.lotOfOrder b orderId with
  | some l =>
    obtain ⟨hmem, hoid⟩ := lotOfOrder_eq_some.1 hl
    obtain ⟨l', hmem', -, hages⟩ := h.after hmem
    rw [lotOfOrder_eq_some.2 ⟨hmem', hages.orderId.trans hoid⟩]
    exact .some hages
  | none =>
    cases hl' : StripeEntitlements.lotOfOrder b' orderId with
    | none => exact .none
    | some l' =>
      obtain ⟨hmem', hoid'⟩ := lotOfOrder_eq_some.1 hl'
      obtain ⟨l, hmem, -, hages⟩ := h.before hmem'
      rw [lotOfOrder_eq_some.2 ⟨hmem, hages.orderId.symm.trans hoid'⟩] at hl
      cases hl

/-! ### Collectors and returns -/

theorem collectPackDebtsFromLot {accountId lotId : String} {available collected : Nat}
    (h : collectPackDebtsFromLot tx b accountId lotId available = .ok (b', collected)) :
    LotsAge clock b b' := by
  obtain ⟨_, b₁, _, -, hdrain, -, lots, hlots, rfl⟩ := collectPackDebtsFromLot_eq_ok h
  have hloop : b₁.lots = b.lots := by
    refine drain_rule (P := fun _ s => s.lots = b.lots) ?_ rfl hdrain
    intro _ _ _ s s' _ _ hs hbody
    obtain ⟨_, _, _, -, -, -, -, rfl⟩ := collectPackDebt_eq_ok hbody
    exact hs
  exact (of_lots hloop).trans (.moveAtoms hlots (fun _ => rfl) fun _ => ⟨rfl, rfl, rfl⟩)

theorem collectPackDebtsFromSubscription_lots {accountId eventId : String}
    {grantEpoch collected : Nat}
    (h : collectPackDebtsFromSubscription tx b accountId grantEpoch eventId =
      .ok (b', collected)) : b'.lots = b.lots := by
  obtain ⟨_, b₁, _, -, hdrain, -, hend⟩ := collectPackDebtsFromSubscription_eq_ok h
  have hloop : b₁.lots = b.lots := by
    refine drain_rule (P := fun _ s => s.lots = b.lots) ?_ rfl hdrain
    intro _ _ _ s s' _ _ hs hbody
    obtain ⟨s₁, hcollect, -, hlots, -⟩ := subscriptionCollection_eq_ok hbody
    obtain ⟨_, _, _, -, -, -, -, rfl⟩ := collectPackDebt_eq_ok hcollect
    exact hlots.trans hs
  rcases hend with ⟨-, rfl⟩ | ⟨accounts, -, rfl⟩
  · exact hloop
  · exact hloop

theorem returnSubscriptionAtoms {account : Account} {n returned : Nat} {eventId : String}
    {reason : LedgerReason}
    (h : returnSubscriptionAtoms tx b account n eventId reason = .ok (b', returned)) :
    LotsAge clock b b' := by
  rcases returnSubscriptionAtoms_eq_ok h with ⟨-, rfl, -⟩ |
    ⟨-, -, _, accounts, b₁, b₂, _, _, -, -, hledger, hclaw, hcollect⟩
  · exact .refl _
  · have hledger' := (insertLedger_packs hledger).lots
    have hclaw' := (collectClawbackDebts_packs hclaw).lots
    exact of_lots ((collectPackDebtsFromSubscription_lots hcollect).trans (hclaw'.trans hledger'))

theorem expireAccountPackLots {accountId : String} {expired : Bool}
    (h : expireAccountPackLots b accountId tx.wall = .ok (b', expired)) :
    LotsAge tx.wall b b' := by
  simp only [StripeEntitlements.expireAccountPackLots, bind_eq_ok, Billing.updateWhere_eq_ok,
    pure_eq_ok, Stored.table, Stored.install] at h
  obtain ⟨_, ⟨lots, hlots, rfl⟩, heq⟩ := h
  cases heq
  refine updateWhere hlots (fun _ => rfl) fun l _ hp => ?_
  simp only [Bool.and_eq_true, decide_eq_true_eq] at hp
  exact .expire hp.1.2 hp.2

/-! ### Reversals -/

theorem expireAllocationLot {account : Account} {lotId : String} {lot : FundingLot}
    (h : expireAllocationLot tx b account lotId = .ok (b', lot)) : LotsAge tx.wall b b' := by
  obtain ⟨l, lots, hl, -, hcase, rfl⟩ := expireAllocationLot_eq_ok h
  rcases hcase with ⟨hactive, hle, -, hlots⟩ | ⟨-, -, rfl⟩
  · refine updateWhere hlots (fun _ => rfl) fun l' hl' hid => ?_
    -- the row the statement writes is the row that was read
    have hsame : l' = l := b.lots.eq_of_key_eq hl' (Table.find?_mem hl) (of_decide_eq_true hid)
    exact hsame ▸ .expire hactive hle
  · exact of_lots rfl

theorem settleLot {account : Account} {order : PackOrder} {lot : FundingLot}
    {restorable returned : Nat}
    (h : settleLot tx b account order lot restorable = .ok (b', returned)) :
    LotsAge clock b b' := by
  rcases settleLot_eq_ok h with ⟨-, rfl⟩ | ⟨-, -, lots, _, hlots, hcollect⟩ |
    ⟨-, lots, hlots, rfl⟩
  · exact .refl _
  · have hput : LotsAge clock b { b with lots := lots } :=
      .moveAtoms hlots (fun _ => rfl) fun _ => ⟨rfl, rfl, rfl⟩
    exact hput.trans (.collectPackDebtsFromLot hcollect)
  · exact .moveAtoms hlots (fun _ => rfl) fun _ => ⟨rfl, rfl, rfl⟩

end LotsAge

/-- **Every reversal** only ages lots. -/
theorem restore_ages {account : Account} {fuel : Nat} {source : FundingSource}
    {n restored : Nat} {eventId : String} {reason : LedgerReason} {visiting : List String}
    (hreason : reason.isReturn)
    (h : restoreAllocationEffect tx account fuel b source n eventId reason visiting =
      .ok (b', restored)) : LotsAge tx.wall b b' := by
  refine restore_induction (P := fun _ b _ _ b' => LotsAge tx.wall b b')
    (Q := fun _ _ b _ b' => LotsAge tx.wall b b') ?_ ?_ ?_ ?_ ?_ ?_ hreason h
  case refine_1 => exact fun _ b _ _ _ => .refl b
  case refine_2 => exact fun _ _ _ _ _ _ _ _ hreturn => .returnSubscriptionAtoms hreturn
  case refine_3 => exact fun _ _ b => .refl b
  case refine_4 => exact fun _ _ _ _ _ _ _ _ _ _ => .of_lots rfl
  case refine_5 =>
    intro _ _ b r k a s s₁ s₂ s' hq _ hu hp
    obtain ⟨debts, -, hrelease⟩ := hu.release
    obtain ⟨allocations, debits, f, -, -, -, hmark⟩ := hu.mark
    have hreleased : LotsAge tx.wall s s₁ := .of_lots (by rw [hrelease])
    exact ((hq.trans hreleased).trans hp).trans (.of_lots (by rw [hmark]))
  case refine_6 =>
    intro _ b lotId n b₁ lot order b₂ b' returned hexpire _ _ _ hq hsettle
    exact ((LotsAge.expireAllocationLot hexpire).trans hq).trans (.settleLot hsettle)

/-! ## The credit service -/

theorem drawFromSource_ages {account : Account} {key : String} {source : ChargeSource}
    {used left total total' : Nat}
    (h : drawFromSource account key (b, total) source used left = .ok (b', total')) :
    LotsAge clock b b' := by
  cases source with
  | subscription a expiresAt =>
    simp only [drawFromSource, bind_eq_ok, pure_eq_ok] at h
    obtain ⟨b₁, hinsert, heq⟩ := h
    cases heq
    obtain ⟨-, _, -, rfl⟩ := Billing.insertAllocation_eq_ok.1 hinsert
    exact .of_lots rfl
  | creditPack lot =>
    simp only [drawFromSource, bind_eq_ok, Billing.updateWhere_eq_ok, pure_eq_ok, Stored.table,
      Stored.install] at h
    obtain ⟨_, ⟨lots, hlots, rfl⟩, b₁, hinsert, heq⟩ := h
    cases heq
    obtain ⟨-, _, -, rfl⟩ := Billing.insertAllocation_eq_ok.1 hinsert
    exact LotsAge.moveAtoms hlots (fun _ => rfl) fun _ => ⟨rfl, rfl, rfl⟩

theorem charge_ages {printable : Char → Bool} {accountId idempotencyKey : String} {amount : Nat}
    {result : CreditResult}
    (h : charge printable tx b accountId amount idempotencyKey = .ok (b', result)) :
    LotsAge tx.wall b b' := by
  simp only [charge, bind_eq_ok] at h
  obtain ⟨-, -, key, -, account, -, ⟨b₁, expired⟩, hexpire, -, -, h⟩ := h
  have hexpired : LotsAge tx.wall b b₁ := .expireAccountPackLots hexpire
  split at h
  · simp only [bind_eq_ok, pure_eq_ok] at h
    obtain ⟨_, -, heq⟩ := h
    cases heq
    exact hexpired
  · simp only [bind_eq_ok, Billing.insert_eq_ok, pure_eq_ok, Stored.table, Stored.install] at h
    obtain ⟨_, ⟨debits, -, rfl⟩, -, -, ⟨⟨b₂, used⟩, left⟩, hdrain, b₃, hsubscription, heq⟩ := h
    cases heq
    -- every draw ages the lots by nothing, and ageing composes over the drain
    have hdraws : LotsAge tx.wall b₁ b₂ := by
      refine drain_rule (P := fun _ (s : Billing × Nat) => LotsAge tx.wall b₁ s.1) ?_
        (.of_lots rfl) hdrain
      rintro _ _ _ ⟨s, _⟩ ⟨s', _⟩ _ _ hs hbody
      exact hs.trans (drawFromSource_ages hbody)
    -- the payment from the balance writes account and ledger only
    refine (hexpired.trans hdraws).trans (.of_lots ?_)
    unfold chargeSubscription at hsubscription
    split at hsubscription
    · rw [pure_eq_ok] at hsubscription
      exact congrArg Billing.lots hsubscription.symm
    · simp only [bind_eq_ok, Billing.update_eq_ok, Stored.install] at hsubscription
      obtain ⟨_, ⟨accounts, -, rfl⟩, hledger⟩ := hsubscription
      exact (insertLedger_packs hledger).lots

theorem refund_ages {printable : Char → Bool} {idempotencyKey : String}
    {expectedAccountId : Option String} {result : CreditResult} (hs : PackState b)
    (h : refund printable tx b idempotencyKey expectedAccountId = .ok (b', result)) :
    LotsAge tx.wall b b' := by
  refine (refund_rule (P := LotsAge tx.wall b) ?_ ?_ ?_ ?_ hs h).2
  · exact fun _ _ _ hexpire => .expireAccountPackLots hexpire
  · exact fun _ _ _ _ _ hreturn hb => hb.trans (.returnSubscriptionAtoms hreturn)
  · intro account a s s₁ s' restored _ _ hrefund hb
    obtain ⟨fuel, hrestore⟩ := hrefund.restore
    have hmark := hrefund.mark
    simp only [markRefunded, Billing.updateWhere_eq_ok, Stored.table, Stored.install] at hmark
    obtain ⟨allocations, -, rfl⟩ := hmark
    exact (hb.trans (restore_ages (.inl rfl) hrestore)).trans (.of_lots rfl)
  · exact fun _ _ _ _ _ _ hb => hb.trans (.of_lots rfl)

/-! ## Events outside the pack processor -/

theorem PackSteps.lots (h : PackSteps tx b b') : b'.lots = b.lots :=
  PackSteps.keeps (P := fun s => s.lots = b.lots) (fun hsame hs => hsame.lots.trans hs)
    (fun hcollect hs => (LotsAge.collectPackDebtsFromSubscription_lots hcollect).trans hs) h rfl

/-- Their orders keep what was paid and refunded. -/
theorem PackSteps.orders (h : PackSteps tx b b') (k : String) :
    (b'.orders.find? k).map PackOrder.cash = (b.orders.find? k).map PackOrder.cash :=
  PackSteps.keeps
    (P := fun s => (s.orders.find? k).map PackOrder.cash = (b.orders.find? k).map PackOrder.cash)
    (fun hsame hs => (hsame.orders k).trans hs)
    (fun hcollect hs => by rw [(collectPackDebtsFromSubscription_frame hcollect).orders]; exact hs)
    h rfl

end StripeEntitlements
