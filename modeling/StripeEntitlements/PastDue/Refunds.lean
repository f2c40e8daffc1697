import StripeEntitlements.Identity.Isolation
import StripeEntitlements.PastDue.Reversals

/-!
# Refunds While an Account Is Past Due

A failed payment takes an account out of `active`, and a later Subscription update brings it
back, in the same grant epoch and with the same balance. A product refund that comes in
between finds the balance not spendable: it returns nothing, and marks the debit as refunded
all the same. The atoms are lost once the account is active again.

## Main definitions

- `TransientRun` — runs of failed payments and Subscription updates
- `Billing.position` — the balance of an account and what it still owes
- `RefundKeeps` — when a refund loses nothing by a transient status

## Main results

- `refund_agrees` — a refund runs alike from restated states
- `refund_commutes_with_transients` — refunds commute with transient Events where they lose
  nothing
- `past_due_refund_discards` — a refund while past due does not
-/

namespace StripeEntitlements

open Relational

variable {cfg : Config} {tx : Tx} {b b' : Billing} {account account' : Account} {key : String}

/-! ## Refunds run alike -/

/-- Nothing of the account's current epoch is outstanding that a refund of the debit could
    return: not of the debit, and not of a collection it could unwind. -/
structure NothingDue (b : Billing) (account : Account) (debit : Debit) : Prop where
  untapped : Untapped account.id account.grantEpoch b
  unfunded : ∀ a ∈ b.allocations.rows, a.debitKey = debit.idempotencyKey →
    a.source = .subscription account.grantEpoch → a.amount ≤ a.refundedAmount
  allocated : debit.grantEpoch = account.grantEpoch →
    ∃ a ∈ b.allocations.rows, a.debitKey = debit.idempotencyKey

/-- Both accounts are spendable or neither is; or the second one is not, and there is nothing
    a refund of the debit could return to it. -/
def RefundsAlike (tx : Tx) (account account' : Account) (b' : Billing) (debit : Debit) : Prop :=
  subscriptionCreditsAreSpendable account' tx.wall =
      subscriptionCreditsAreSpendable account tx.wall ∨
    subscriptionCreditsAreSpendable account' tx.wall = false ∧ NothingDue b' account debit

theorem RefundsAlike.alike {debit : Debit} (h : RefundsAlike tx account account' b' debit) :
    Alike tx account account' b' := by
  rcases h with hsame | ⟨hclosed, hdue⟩
  · exact .inl hsame
  · exact .inr ⟨hclosed, hdue.untapped⟩

theorem RefundsAlike.of_eq {b₁ : Billing} {debit : Debit}
    (h : RefundsAlike tx account account' b' debit) (hdebits : b₁.debits = b'.debits)
    (hallocations : b₁.allocations = b'.allocations) :
    RefundsAlike tx account account' b₁ debit := by
  refine Or.imp_right (fun ⟨hclosed, hdue⟩ => ⟨hclosed, ?_⟩) h
  constructor
  · exact hdue.untapped.of_eq hdebits hallocations
  · rw [hallocations]
    exact hdue.unfunded
  · rw [hallocations]
    exact hdue.allocated

namespace Restated

theorem expireAccountPackLots (h : Restated b b') {accountId : String} {asOf : Int} :
    Agree Answers (expireAccountPackLots b accountId asOf)
      (expireAccountPackLots b' accountId asOf) := by
  unfold StripeEntitlements.expireAccountPackLots
  rw [h.lots]
  exact (h.updateWhere _ _).bind fun _ _ _ hs => .pure ⟨hs, rfl⟩

theorem refundAccountId (h : Restated b b') {expected : Option String} :
    refundAccountId b' key expected = refundAccountId b key expected := by
  unfold StripeEntitlements.refundAccountId
  rw [h.debits]

theorem restoreFuel (h : Restated b b') : restoreFuel b' = restoreFuel b := by
  unfold StripeEntitlements.restoreFuel
  rw [h.packDebts]

/-- Reversing the allocations of a debit, in order. -/
theorem refundAllocations {restore restore' : Restore}
    (hr : RestoresAlike tx account account' restore restore') {rows : List Allocation}
    (hrows : ∀ a ∈ rows, a.refundedAmount < a.amount →
      subscriptionCreditsAreSpendable account' tx.wall =
          subscriptionCreditsAreSpendable account tx.wall ∨
        a.source ≠ .subscription account.grantEpoch)
    {s s' : Billing × Nat} (hs : Answers s s') (halike : Alike tx account account' s'.1) :
    Agree Answers (refundAllocations restore key rows s)
      (refundAllocations restore' key rows s') := by
  -- induction on the allocations; the states answer alike before each of them
  induction rows generalizing s s' with
  | nil => exact .ok hs
  | cons a rows ih =>
    have hrest := fun a ha => hrows a (List.mem_cons_of_mem _ ha)
    obtain ⟨b, total⟩ := s
    obtain ⟨b', _⟩ := s'
    obtain ⟨hb, rfl⟩ := hs
    simp only [StripeEntitlements.refundAllocations]
    split
    · exact ih hrest ⟨hb, rfl⟩ halike
    case isFalse hpending =>
      -- a pending allocation is reversed alike, unless it took from the epoch that one side may
      -- not use
      have hfrom := hrows a List.mem_cons_self (by omega)
      refine (hr.agrees (.inl rfl) hb ⟨halike, hfrom⟩).bind ?_
      rintro ⟨t, restored⟩ ⟨t', _⟩ hrun ⟨ht, rfl⟩
      dsimp only at ht hrun ⊢
      unfold markRefunded
      refine (ht.updateWhere _ _).bind fun u u' hu' hu => ?_
      rw [Billing.updateWhere_eq_ok] at hu'
      obtain ⟨allocations, hmarked, rfl⟩ := hu'
      -- marking the allocation keeps the epoch untapped where it was
      refine ih hrest ⟨hu, rfl⟩ (halike.imp fun hclosed huntapped => ?_)
      exact (hr.untapped hclosed (.inl rfl) hrun huntapped).updateAllocations hmarked

theorem reverseDebit (h : Restated b b') (hcredits : account'.credits = account.credits)
    {debit : Debit} (halike : RefundsAlike tx account account' b' debit) :
    Agree Answers (reverseDebit tx b account debit debit.idempotencyKey)
      (reverseDebit tx b' account' debit debit.idempotencyKey) := by
  obtain ⟨-, -, hepoch⟩ := Account.credits_eq.1 hcredits
  unfold StripeEntitlements.reverseDebit
  rw [h.allocations, h.restoreFuel, hepoch]
  have hmem : ∀ a, a ∈ Table.orderBy Allocation.id
      (b.allocations.select (·.debitKey = debit.idempotencyKey)) ↔
        a ∈ b'.allocations.rows ∧ a.debitKey = debit.idempotencyKey := by
    intro a
    rw [Table.mem_orderBy, Table.select, List.mem_filter, decide_eq_true_eq, h.allocations]
  -- a debit without allocations returns to the balance, which is what the condition excludes
  cases hrows : Table.orderBy Allocation.id
      (b.allocations.select (·.debitKey = debit.idempotencyKey)) with
  | nil =>
    dsimp only
    split
    case isTrue hcurrent =>
      apply h.returnSubscriptionAtoms hcredits
      rcases halike with hsame | ⟨-, hdue⟩
      · exact hsame
      · obtain ⟨a, ha⟩ := hdue.allocated hcurrent
        rw [← hmem, hrows] at ha
        exact absurd ha List.not_mem_nil
    · exact .pure ⟨h, rfl⟩
  | cons a rows =>
    dsimp only
    rw [← hrows]
    refine refundAllocations (restoreAllocationEffect_agrees hcredits _) ?_ ⟨h, rfl⟩ halike.alike
    intro a ha hlt
    -- the sides may both return to the balance, or no allocation has anything due from it
    rcases halike with hsame | ⟨-, hdue⟩
    · exact .inl hsame
    · obtain ⟨hrow, hkey⟩ := (hmem a).1 ha
      exact .inr fun hsource => absurd (hdue.unfunded a hrow hkey hsource) (by omega)

end Restated

/-- What two refunds that run alike answer; the balance they report is what is spendable. -/
def RefundedAlike (s s' : Billing × CreditResult) : Prop :=
  Restated s.1 s'.1 ∧ s.2.outcome = s'.2.outcome ∧ s.2.requested = s'.2.requested ∧
    s.2.restored = s'.2.restored

/-- **A product refund runs alike from restated states**, as long as the account is spendable in
    both, or in neither, or there is nothing that it could return to the balance. The loop over the
    allocations then meets the same rows in both states. -/
theorem refund_agrees (h : Restated b b') {printable : Char → Bool} {expected : Option String}
    (hcond : ∀ accountId account account' debit, refundAccountId b' key expected = .ok accountId →
      b.accounts.find? accountId = some account → b'.accounts.find? accountId = some account' →
      b'.debits.find? key = some debit →
      debit.refundedAt.isSome ∨ RefundsAlike tx account account' b' debit) :
    Agree RefundedAlike (refund printable tx b key expected)
      (refund printable tx b' key expected) := by
  -- both runs make the same checks up to the account they read
  unfold refund
  refine .same _ fun k hk => ?_
  obtain rfl : key = k := by
    unfold validateIdempotencyKey at hk
    split at hk
    · exact Except.ok.inj hk
    · cases hk
  rw [h.refundAccountId]
  refine .same _ fun accountId haccountId => ?_
  rw [← h.refundAccountId] at haccountId
  -- the accounts agree in the columns of credits, whatever their status
  refine (h.fetchAccount accountId _).left.bind fun account account' haccount' hsame => ?_
  obtain ⟨haccount, hcredits⟩ := hsame
  rw [fetch_eq_ok] at haccount haccount'
  obtain ⟨hid, -, -⟩ := Account.credits_eq.1 hcredits
  rw [hid]
  refine h.expireAccountPackLots.bind ?_
  rintro ⟨s, expired⟩ ⟨s', _⟩ hexpire ⟨hs, rfl⟩
  dsimp only at hs hexpire ⊢
  -- expiring lots touches neither debits nor allocations, so the condition still speaks of them
  have hbefore : s'.debits = b'.debits ∧ s'.allocations = b'.allocations := by
    simp only [expireAccountPackLots, bind_eq_ok, Billing.updateWhere_eq_ok, pure_eq_ok] at hexpire
    obtain ⟨_, ⟨lots, -, rfl⟩, heq⟩ := hexpire
    cases heq
    exact ⟨rfl, rfl⟩
  rw [hs.debits]
  refine .same _ fun debit hdebit => .same _ fun _ _ => .same _ fun _ _ => ?_
  rw [← hs.debits, hbefore.1, fetch_eq_ok] at hdebit
  -- a refunded debit answers alike; an open one is reversed under the condition
  split
  · exact .pure ⟨hs, rfl, rfl, rfl⟩
  case isFalse hopen =>
    have halike := (hcond accountId account account' debit haccountId haccount haccount'
      hdebit).resolve_left hopen
    obtain rfl : debit.idempotencyKey = key := Table.find?_key hdebit
    refine (hs.reverseDebit hcredits (halike.of_eq hbefore.1 hbefore.2)).bind ?_
    rintro ⟨t, restored⟩ ⟨t', _⟩ - ⟨ht, rfl⟩
    dsimp only at ht ⊢
    refine .same _ fun persisted _ => .same _ fun _ _ => ?_
    refine (ht.update _ _).bind fun u u' _ hu => ?_
    exact (hu.fetchAccount _ _).bind fun _ _ _ _ => .pure ⟨hu, rfl, rfl, rfl⟩

/-! ## Transient Events -/

/-- The Events that take an account out of `active` and back. -/
def EventType.isTransient : EventType → Bool
  | .invoicePaymentFailed | .customerSubscriptionUpdated => true
  | _ => false

/-- One such Event is processed, whatever it is answered. -/
inductive Transient (cfg : Config) : Db → Db → Prop
  | event {tx : Tx} {db db' : Db} {e : Event} {result : ProcessResult}
      (hkind : e.kind.isTransient = true) (h : process cfg tx db e = .ok (db', result)) :
      Transient cfg db db'

/-- Runs of such Events. -/
abbrev TransientRun (cfg : Config) : Db → Db → Prop := Relation.ReflTransGen (Transient cfg)

section

variable {e : Event} {effect : Effect}

theorem Restated.project {k : String} {f : Account → Account} {t : Table Account}
    (h : b.accounts.update? k f = some t) (hf : ∀ a, (f a).credits = a.credits) :
    Restated b { b with accounts := t } :=
  { Restated.refl b with toQuiet := .updateAccount h hf }

theorem paymentFailed_restated (h : paymentFailed cfg b e = .ok effect) :
    Restated b effect.billing := by
  rcases Guarded.andThen_eq_ok h with ⟨hb, -⟩ | ⟨f, -, h⟩
  · rw [hb]
    exact .refl b
  split at h
  · rcases failPlanChange_eq_ok h with ⟨hb, -⟩ | ⟨_, planChanges, -, -, -, hb⟩
    · rw [hb]
      exact .refl b
    · rw [hb]
      exact ⟨.of_accounts rfl rfl rfl rfl, rfl, rfl, rfl, rfl⟩
  · rcases failRenewal_eq_ok h with ⟨-, hb⟩ | ⟨-, accounts, haccounts, hb⟩
    · rw [hb]
      exact .refl b
    · rw [hb]
      exact .project haccounts fun _ => rfl

theorem subscriptionUpdated_restated (h : subscriptionUpdated cfg b e = .ok effect) :
    Restated b effect.billing := by
  rcases Guarded.andThen_eq_ok h with ⟨hb, -⟩ | ⟨f, -, h⟩
  · rw [hb]
    exact .refl b
  unfold applySubscription at h
  split at h
  · rw [pure_eq_ok] at h
    exact h ▸ .refl b
  · simp only [bind_eq_ok, Billing.update_eq_ok, pure_eq_ok] at h
    obtain ⟨_, ⟨accounts, haccounts, rfl⟩, rfl⟩ := h
    refine (Restated.project haccounts fun _ => rfl).trans ?_
    simp only [consumeClaim]
    split <;> exact ⟨.of_accounts rfl rfl rfl rfl, rfl, rfl, rfl, rfl⟩

end

/-- **Transient Events restate accounts.** A failed payment or an update of the Subscription writes
    columns of the account that no refund reads but for the status, and no row a refund writes. -/
theorem Transient.restated {db db' : Db} (h : Transient cfg db db') :
    Restated db.billing db'.billing := by
  obtain ⟨hkind, h⟩ := h
  rcases process_cases h with ⟨-, hb⟩ | ⟨-, effect, hdispatch, hb⟩
  · exact hb ▸ .refl _
  rw [hb]
  rename_i e _
  unfold dispatch at hdispatch
  cases htype : e.kind with
  | invoicePaymentFailed =>
    rw [htype] at hdispatch
    exact paymentFailed_restated hdispatch
  | customerSubscriptionUpdated =>
    rw [htype] at hdispatch
    exact subscriptionUpdated_restated hdispatch
  | _ =>
    rw [htype] at hkind
    cases hkind

theorem TransientRun.restated {db db' : Db} (h : TransientRun cfg db db') :
    Restated db.billing db'.billing := by
  induction h with
  | refl => exact .refl _
  | tail _ hstep ih => exact ih.trans hstep.restated

/-! ## Refunds commute with transient Events -/

/-- The balance of an account, and what it still owes on Invoices and on packs. -/
def Billing.position (b : Billing) (accountId : String) : Option Nat × Nat × Nat :=
  ((b.accounts.find? accountId).map Account.creditsBalance,
    ((b.clawbackDebts.select (·.key.accountId = accountId)).map ClawbackDebt.outstanding).sum,
    ((outstandingPackDebts b accountId).map PackDebt.outstanding).sum)

theorem Restated.position (h : Restated b b') (accountId : String) :
    b'.position accountId = b.position accountId := by
  have hbalance : (b'.accounts.find? accountId).map Account.creditsBalance =
      (b.accounts.find? accountId).map Account.creditsBalance := by
    have hcredits := congrArg (Option.map fun c => c.2.1) (h.find_credits accountId)
    rwa [Option.map_map, Option.map_map] at hcredits
  unfold Billing.position
  rw [hbalance, h.clawbackDebts, h.outstandingPackDebts]

/-- The account a refund locks can spend its subscription balance. -/
def spendableFor (tx : Tx) (b : Billing) (key : String) (expected : Option String) : Bool :=
  match refundAccountId b key expected with
  | .ok accountId =>
      (b.accounts.find? accountId).all (subscriptionCreditsAreSpendable · tx.wall)
  | .error _ => true

/-- A refund that loses nothing by the status of its account: the balance is spendable, the
    debit was refunded before, or there is nothing of the current epoch to return. -/
def RefundKeeps (tx : Tx) (b : Billing) (key : String) (expected : Option String) : Prop :=
  ∀ accountId account debit, refundAccountId b key expected = .ok accountId →
    b.accounts.find? accountId = some account → b.debits.find? key = some debit →
    debit.refundedAt.isSome ∨ subscriptionCreditsAreSpendable account tx.wall = true ∨
      NothingDue b account debit

/-- **Refunds commute with transient Events** where they lose nothing. The refund is called
    somewhere in a run of such Events that starts with a spendable balance; called at the start
    of the run it is answered the same, and the run ends with the same balances and debts. -/
theorem refund_commutes_with_transients {db₀ db₁ db₂ : Db} {b₁ : Billing}
    {expected : Option String} {result : CreditResult}
    (hactive : spendableFor tx db₀.billing key expected = true)
    (hbefore : TransientRun cfg db₀ db₁) (hkeeps : RefundKeeps tx db₁.billing key expected)
    (hrefund : refund cfg.unicode.isPrintable tx db₁.billing key expected = .ok (b₁, result))
    (hafter : TransientRun cfg { db₁ with billing := b₁ } db₂) :
    ∃ b₀ result₀,
      refund cfg.unicode.isPrintable tx db₀.billing key expected = .ok (b₀, result₀) ∧
      result₀.outcome = result.outcome ∧ result₀.restored = result.restored ∧
      ∀ db₃, TransientRun cfg { db₀ with billing := b₀ } db₃ → ∀ accountId,
        db₂.billing.position accountId = db₃.billing.position accountId := by
  have hstart := hbefore.restated
  have hagrees : Agree RefundedAlike
      (refund cfg.unicode.isPrintable tx db₀.billing key expected)
      (refund cfg.unicode.isPrintable tx db₁.billing key expected) := by
    refine refund_agrees hstart fun accountId account account' debit hid haccount haccount' hdebit =>
      ?_
    have hopen : subscriptionCreditsAreSpendable account tx.wall = true := by
      rw [hstart.refundAccountId] at hid
      rw [spendableFor, hid] at hactive
      simpa only [haccount, Option.all_some] using hactive
    rcases hkeeps accountId account' debit hid haccount' hdebit with hdone | hspendable | hdue
    · exact .inl hdone
    · exact .inr (.inl (hspendable.trans hopen.symm))
    · cases hclosed : subscriptionCreditsAreSpendable account' tx.wall with
      | true => exact .inr (.inl (hclosed.trans hopen.symm))
      | false =>
        -- the run so far restated the account: it kept its identity and its epoch
        have hsame := hstart.find_credits accountId
        rw [haccount, haccount', Option.map_some, Option.map_some, Option.some.injEq] at hsame
        obtain ⟨hsameId, -, hepoch⟩ := Account.credits_eq.1 hsame
        obtain ⟨huntapped, hunfunded, hallocated⟩ := hdue
        rw [hepoch] at huntapped hunfunded hallocated
        rw [hsameId] at huntapped
        exact .inr (.inr ⟨hclosed, huntapped, hunfunded, hallocated⟩)
  rw [hrefund] at hagrees
  obtain ⟨⟨b₀, result₀⟩, hrun, hend, houtcome, -, hrestored⟩ := hagrees.of_ok
  refine ⟨b₀, result₀, hrun, houtcome, hrestored, fun db₃ hrest accountId => ?_⟩
  calc db₂.billing.position accountId
      _ = b₁.position accountId := hafter.restated.position accountId
      _ = b₀.position accountId := hend.position accountId
      _ = db₃.billing.position accountId := (hrest.restated.position accountId).symm

/-! ## The reference customer is past due -/

/-- The customer pays and spends, and is active at the first state. A renewal fails; the second
    state is past due. The customer is active again at the third. -/
def pastDueRun : Transaction (Db × Db × Db) := do
  let (paid, _) ← process referenceConfig (referenceTx 0) (checkoutDb "pro" .month) paidFirst
  let (b, _) ← charge asciiUnicode.isPrintable (referenceTx 1) paid.billing referenceAccountId
    400000000 "job"
  let active := { paid with billing := b }
  let (failed, _) ← process referenceConfig (referenceTx 2) active
    (failedRenewal "evt_failed" "in_2" "sub_1" 300)
  let (recovered, _) ← process referenceConfig (referenceTx 3) failed
    (updatedSubscription "evt_updated" "sub_1" 400 proPlan .month false 2592000)
  pure (active, failed, recovered)

theorem pastDueRun_spec {active failed recovered : Db}
    (h : pastDueRun = .ok (active, failed, recovered)) :
    Reachable referenceConfig active ∧ Transient referenceConfig active failed ∧
      Transient referenceConfig failed recovered := by
  simp only [pastDueRun, bind_eq_ok, pure_eq_ok] at h
  obtain ⟨⟨paid, _⟩, hpaid, ⟨b, _⟩, hcharge, ⟨_, _⟩, hfailed, ⟨_, _⟩, hrecovered, heq⟩ := h
  cases heq
  have hreach := (checkoutDb_reachable "pro" .month).tail (.event hpaid)
  exact ⟨hreach.tail (.charge hcharge), .event rfl hfailed, .event rfl hrecovered⟩

/-- The refund of the job, called at `db`. -/
def refundJob (db : Db) : Transaction (Billing × CreditResult) :=
  refund asciiUnicode.isPrintable (referenceTx 4) db.billing "job" none

/-- The job can be refunded once the customer is active again. -/
theorem refund_after_recovery : ∃ (active failed recovered : Db) (b₁ b₀ : Billing)
    (result result₀ : CreditResult),
    pastDueRun = .ok (active, failed, recovered) ∧ refundJob recovered = .ok (b₁, result) ∧
      refundJob active = .ok (b₀, result₀) ∧ result₀.restored = result.restored ∧
      b₁.position referenceAccountId = b₀.position referenceAccountId := by
  have hok : (pastDueRun >>= fun dbs => refundJob dbs.2.2 >>= fun refunded =>
      pure (dbs, refunded)).map (fun x =>
        (spendableFor (referenceTx 4) x.1.1.billing "job" none,
          spendableFor (referenceTx 4) x.1.2.2.billing "job" none)) = .ok (true, true) := by
    decide +kernel
  simp only [map_eq_ok, bind_eq_ok, pure_eq_ok] at hok
  obtain ⟨_, ⟨⟨active, failed, recovered⟩, hrun, ⟨b₁, result⟩, hrefund, rfl⟩, hspendable⟩ := hok
  simp only [Prod.mk.injEq] at hspendable
  obtain ⟨-, hfailed, hrecovered⟩ := pastDueRun_spec hrun
  have hbefore : TransientRun referenceConfig active recovered := .tail (.single hfailed) hrecovered
  have hkeeps : RefundKeeps (referenceTx 4) recovered.billing "job" none := by
    intro accountId account debit hid haccount _
    have hopen := hspendable.2
    rw [spendableFor, hid] at hopen
    exact .inr (.inl (by simpa only [haccount, Option.all_some] using hopen))
  obtain ⟨b₀, result₀, hrun₀, -, hrestored, hposition⟩ :=
    refund_commutes_with_transients hspendable.1 hbefore hkeeps hrefund .refl
  exact ⟨active, failed, recovered, b₁, b₀, result, result₀, hrun, hrefund, hrun₀, hrestored,
    hposition _ .refl referenceAccountId⟩

/-- Subscription credits paid the debit, wholly or in part. -/
def fundedBySubscription (b : Billing) (key : String) : Bool :=
  b.allocations.rows.any fun a => a.debitKey = key &&
    match a.source with
    | .subscription _ => true
    | .creditPack _ => false

/-- **A refund while the account is past due discards the atoms**: the debit is marked as
    refunded, and the balance does not come back with the status. -/
theorem past_due_refund_discards :
    ¬ ∀ (tx : Tx) (key : String) (expected : Option String) (db₀ db₁ db₂ : Db) (b₁ : Billing)
      (result : CreditResult),
      Reachable referenceConfig db₀ → fundedBySubscription db₀.billing key = true →
      spendableFor tx db₀.billing key expected = true →
      TransientRun referenceConfig db₀ db₁ →
      refund referenceConfig.unicode.isPrintable tx db₁.billing key expected = .ok (b₁, result) →
      TransientRun referenceConfig { db₁ with billing := b₁ } db₂ →
      spendableFor tx db₂.billing key expected = true →
      ∃ b₀ result₀, refund referenceConfig.unicode.isPrintable tx db₀.billing key expected =
          .ok (b₀, result₀) ∧
        ∀ accountId, db₂.billing.position accountId = b₀.position accountId := by
  intro hclaim
  have hok : (pastDueRun >>= fun dbs => refundJob dbs.2.1 >>= fun refunded =>
      process referenceConfig (referenceTx 5) { dbs.2.1 with billing := refunded.1 }
        (updatedSubscription "evt_updated" "sub_1" 400 proPlan .month false 2592000) >>=
      fun recovered => refundJob dbs.1 >>= fun refunded₀ =>
        pure (dbs, refunded, recovered, refunded₀)).map (fun x =>
        (fundedBySubscription x.1.1.billing "job",
          spendableFor (referenceTx 4) x.1.1.billing "job" none,
          spendableFor (referenceTx 4) x.2.2.1.1.billing "job" none,
          (x.2.2.1.1.billing.position referenceAccountId).1,
          (x.2.2.2.1.position referenceAccountId).1)) =
      .ok (true, true, true, some 600000000, some 1000000000) := by
    decide +kernel
  simp only [map_eq_ok, bind_eq_ok, pure_eq_ok] at hok
  obtain ⟨_, ⟨⟨active, failed, recovered⟩, hrun, ⟨b₁, result⟩, hrefund, ⟨db₂, _⟩, hupdated,
    ⟨b₀, result₀⟩, hrefund₀, rfl⟩, hchecks⟩ := hok
  simp only [Prod.mk.injEq] at hchecks
  obtain ⟨hfunded, hactive, hagain, hlost, hkept⟩ := hchecks
  obtain ⟨hreach, hfailed, -⟩ := pastDueRun_spec hrun
  obtain ⟨b, result', hsame, hposition⟩ := hclaim (referenceTx 4) "job" none active failed db₂ b₁
    result hreach hfunded hactive (.single hfailed) hrefund (.single (.event rfl hupdated)) hagain
  -- called while active, the refund returns the atoms
  cases hrefund₀.symm.trans hsame
  have hbalance := congrArg Prod.fst (hposition referenceAccountId)
  rw [hlost, hkept] at hbalance
  cases hbalance

end StripeEntitlements
