import StripeEntitlements.Credits.PackOperations
import StripeEntitlements.Tenancy.Ownership

/-!
# Credit Operations Act for One Account

Charging, collecting and reversing credits follow references from row to row: a reversal goes
from an allocation to its lot, from the lot to the debt of its order, and from there to the
collections that paid the debt. Every reference stays inside the account that was locked.

## Main results

- `collectPackDebtsFromLot_acts`, `collectPackDebtsFromSubscription_acts`,
  `collectClawbackDebts_acts` — the collectors
- `restoreAllocationEffect_acts` — reversals, through every debt they unwind
- `charge_acts`, `refund_acts` — the two operations of the service
-/

namespace StripeEntitlements

open Relational

variable {tx : Tx} {b b' : Billing}

/-! ## Collectors -/

theorem collectPackDebt_acts {grantEpoch amount : Nat} {lotId : Option String} {debt : PackDebt}
    (hb : Ownership b) (hdebt : b.owns PackDebt debt.orderId debt.accountId)
    (h : collectPackDebt tx grantEpoch lotId b debt amount = .ok b') :
    Acts (some debt.accountId) b b' := by
  obtain ⟨debts, debits, allocations, hdebts, hdebits, -, hallocations, rfl⟩ :=
    collectPackDebt_eq_ok h
  have h₁ : Acts (some debt.accountId) b { b with packDebts := debts } :=
    .update hb hdebts (fun _ => rfl) (fun _ => rfl) hdebt fun _ h => h
  have h₂ : Acts (some debt.accountId) { b with packDebts := debts }
      { b with packDebts := debts, debits := debits } :=
    .insert h₁.ownership hdebits (.inr rfl) trivial
  -- the allocation belongs to the debit that was just inserted
  have hdebit : ({ b with packDebts := debts, debits := debits } : Billing).owns Debit
      (collectionDebit tx b debt amount grantEpoch).idempotencyKey debt.accountId :=
    Table.Owns.insert hdebits rfl
  have h₃ : Acts (some debt.accountId) { b with packDebts := debts, debits := debits }
      { b with packDebts := debts, debits := debits, allocations := allocations } :=
    .insert h₂.ownership hallocations (.inr rfl) hdebit
  exact (h₁.trans h₂).trans h₃

/-- The debts a collector runs over belong to the account. -/
theorem outstandingPackDebts_owned {accountId : String} {debt : PackDebt}
    (h : debt ∈ outstandingPackDebts b accountId) :
    debt.accountId = accountId ∧ b.owns PackDebt debt.orderId debt.accountId := by
  have hmem := Table.mem_orderBy.1 h
  have hrow : debt ∈ b.packDebts.rows := List.mem_of_mem_filter hmem
  have hcond := List.of_mem_filter hmem
  simp only [Bool.and_eq_true, decide_eq_true_eq] at hcond
  exact ⟨hcond.1, Table.Owns.of_mem hrow rfl⟩

/-- A loop over the outstanding debts of an account acts for it, if its body does. -/
theorem drain_packDebts_acts {accountId : String}
    {body : Billing → PackDebt → Nat → Nat → Transaction Billing} {available left : Nat}
    (hb : Ownership b)
    (hbody : ∀ s s' debt amount left, Ownership s → debt.accountId = accountId →
      s.owns PackDebt debt.orderId debt.accountId → body s debt amount left = .ok s' →
      Acts (some accountId) s s')
    (h : drain PackDebt.outstanding body (outstandingPackDebts b accountId) available b =
      .ok (b', left)) : Acts (some accountId) b b' := by
  obtain ⟨_, hend, -⟩ := drain_invariant
    (P := fun xs _ s => Acts (some accountId) b s ∧ ∀ d ∈ xs, d.accountId = accountId ∧
      b.owns PackDebt d.orderId d.accountId) (by
      rintro debt rest amount left s s' - - - ⟨hs, hxs⟩ hrun
      obtain ⟨haccount, hdebt⟩ := hxs debt List.mem_cons_self
      have hstep := hbody s s' debt amount left hs.ownership haccount
        (hs.packDebts.keeps _ _ hdebt) hrun
      exact ⟨hs.trans hstep, fun d hd => hxs d (List.mem_cons_of_mem _ hd)⟩)
    ⟨.refl hb, fun d hd => outstandingPackDebts_owned hd⟩ h
  exact hend

theorem collectPackDebtsFromLot_acts {accountId lotId : String} {available collected : Nat}
    (hb : Ownership b) (hlot : b.owns FundingLot lotId accountId)
    (h : collectPackDebtsFromLot tx b accountId lotId available = .ok (b', collected)) :
    Acts (some accountId) b b' := by
  obtain ⟨_, b₁, _, -, hdrain, -, lots, hlots, rfl⟩ := collectPackDebtsFromLot_eq_ok h
  have hloop : Acts (some accountId) b b₁ := by
    refine drain_packDebts_acts hb (fun s s' debt amount _ hs haccount hdebt hrun => ?_) hdrain
    subst haccount
    exact collectPackDebt_acts hs hdebt hrun
  refine hloop.trans (.updateWhere hloop.ownership hlots (fun _ => rfl) (fun _ => rfl) ?_
    fun _ h => h)
  intro l hl hp
  simp only [Bool.and_eq_true, decide_eq_true_eq] at hp
  exact (hloop.lots.keeps _ _ hlot).owner_eq hl hp.1

theorem collectPackDebtsFromSubscription_acts {accountId eventId : String}
    {grantEpoch collected : Nat} (hb : Ownership b)
    (h : collectPackDebtsFromSubscription tx b accountId grantEpoch eventId = .ok (b', collected)) :
    Acts (some accountId) b b' := by
  obtain ⟨_, b₁, balance, -, hdrain, -, hend⟩ := collectPackDebtsFromSubscription_eq_ok h
  have hloop : Acts (some accountId) b b₁ := by
    refine drain_packDebts_acts hb (fun s s' debt amount _ hs haccount hdebt hrun => ?_) hdrain
    rw [bind_eq_ok] at hrun
    obtain ⟨s₁, hcollect, hledger⟩ := hrun
    have h₁ := collectPackDebt_acts hs hdebt hcollect
    rw [haccount] at h₁
    exact h₁.trans (.insertEntry h₁.ownership hledger)
  rcases hend with ⟨-, rfl⟩ | ⟨accounts, haccounts, rfl⟩
  · exact hloop
  · exact hloop.trans (.setAccount hloop.ownership
      (Billing.update_eq_ok.2 ⟨accounts, haccounts, rfl⟩) fun _ => rfl)

theorem collectClawbackDebts_acts {accountId eventId : String} {grantEpoch collected : Nat}
    (hb : Ownership b)
    (h : collectClawbackDebts b accountId grantEpoch eventId = .ok (b', collected)) :
    Acts (some accountId) b b' := by
  obtain ⟨_, b₁, _, -, hdrain, -, hend⟩ := collectClawbackDebts_eq_ok h
  have hloop : Acts (some accountId) b b₁ := by
    refine drain_rule (P := fun _ s => Acts (some accountId) b s) ?_ (.refl hb) hdrain
    intro debt amount _ s s' _ _ hs hbody
    simp only [collectClawbackDebt, bind_eq_ok, Billing.update_eq_ok] at hbody
    obtain ⟨_, ⟨debts, hdebts, rfl⟩, hledger⟩ := hbody
    -- the key of the debt names the account
    have hdebt : Acts (some accountId) s { s with clawbackDebts := debts } :=
      .updateWhere hs.ownership hdebts (fun _ => rfl) (fun _ => rfl)
        (fun d _ hd => congrArg (fun k : ClawbackDebtKey => some k.accountId)
          (of_decide_eq_true hd)) fun _ h => h
    exact (hs.trans hdebt).trans (.insertEntry hdebt.ownership hledger)
  rcases hend with ⟨-, rfl⟩ | ⟨accounts, haccounts, rfl⟩
  · exact hloop
  · exact hloop.trans (.setAccount hloop.ownership
      (Billing.update_eq_ok.2 ⟨accounts, haccounts, rfl⟩) fun _ => rfl)

/-! ## Returns -/

theorem returnSubscriptionAtoms_acts {account : Account} {amount returned : Nat}
    {eventId : String} {reason : LedgerReason} (hb : Ownership b)
    (h : returnSubscriptionAtoms tx b account amount eventId reason = .ok (b', returned)) :
    Acts (some account.id) b b' := by
  rcases returnSubscriptionAtoms_eq_ok h with ⟨-, rfl, -⟩ |
    ⟨-, -, _, accounts, b₁, b₂, _, _, -, haccounts, hledger, hclaw, hpack⟩
  · exact .refl hb
  have h₁ : Acts (some account.id) b { b with accounts := accounts } :=
    .setAccount hb (Billing.update_eq_ok.2 ⟨accounts, haccounts, rfl⟩) fun _ => rfl
  have h₂ : Acts (some account.id) { b with accounts := accounts } b₁ :=
    .insertEntry h₁.ownership hledger
  have h₃ := collectClawbackDebts_acts h₂.ownership hclaw
  have h₄ := collectPackDebtsFromSubscription_acts h₃.ownership hpack
  exact ((h₁.trans h₂).trans h₃).trans h₄

/-! ## Reversals -/

section

variable {account : Account}

theorem expireAllocationLot_acts {lotId : String} {lot : FundingLot} (hb : Ownership b)
    (h : expireAllocationLot tx b account lotId = .ok (b', lot)) :
    Acts (some account.id) b b' ∧ b'.owns FundingLot lot.id account.id := by
  obtain ⟨l, lots, hl, howner, hcase, rfl⟩ := expireAllocationLot_eq_ok h
  have hlot : b.owns FundingLot l.id account.id := by
    rw [← howner]
    exact Table.Owns.of_mem (Table.find?_mem hl) rfl
  rcases hcase with ⟨-, -, rfl, hlots⟩ | ⟨-, rfl, rfl⟩
  · have hexpire : Acts (some account.id) b { b with lots := lots } :=
      .update hb hlots (fun _ => rfl) (fun _ => rfl) hlot fun _ h => h
    exact ⟨hexpire, hexpire.lots.keeps _ _ hlot⟩
  · exact ⟨.refl hb, hlot⟩

theorem settleLot_acts {order : PackOrder} {lot : FundingLot} {restorable returned : Nat}
    (hb : Ownership b) (hlot : b.owns FundingLot lot.id account.id)
    (h : settleLot tx b account order lot restorable = .ok (b', returned)) :
    Acts (some account.id) b b' := by
  rcases settleLot_eq_ok h with ⟨-, rfl⟩ | ⟨-, -, lots, _, hlots, hcollect⟩ |
    ⟨-, lots, hlots, rfl⟩
  · exact .refl hb
  · have h₁ : Acts (some account.id) b { b with lots := lots } :=
      .update hb hlots (fun _ => rfl) (fun _ => rfl) hlot fun _ h => h
    exact h₁.trans (collectPackDebtsFromLot_acts h₁.ownership (h₁.lots.keeps _ _ hlot) hcollect)
  · exact .update hb hlots (fun _ => rfl) (fun _ => rfl) hlot fun _ h => h

/-- A debt of an order of the account belongs to the account. -/
theorem Ownership.packDebt_owner (hb : Ownership b) {orderId accountId : String}
    (horder : b.owns PackOrder orderId accountId) {d : PackDebt} (hd : d ∈ b.packDebts.rows)
    (hid : d.orderId = orderId) : d.accountId = accountId := by
  have hanchor : b.owns PackOrder d.orderId d.accountId := hb.packDebts d hd
  rw [hid] at hanchor
  exact hanchor.unique horder

/-- One collection is unwound: the debt, the callee, the allocation and its debit. -/
theorem Unwinds.acts {visiting : List String} {orderId : String} {a : Allocation} {k : Nat}
    {s s₁ s₂ s' : Billing} (hb : Ownership s) (horder : s.owns PackOrder orderId account.id)
    (hu : Unwinds account visiting orderId a k s s₁ s₂ s')
    (hcallee : Ownership s₁ → Acts (some account.id) s₁ s₂) : Acts (some account.id) s s' := by
  obtain ⟨debts, hdebts, rfl⟩ := hu.release
  have h₁ : Acts (some account.id) s { s with packDebts := debts } := by
    refine .updateWhere hb hdebts (fun _ => rfl) (fun _ => rfl) (fun d hd hp => ?_) fun _ h => h
    simp only [Bool.and_eq_true, decide_eq_true_eq] at hp
    exact congrArg some (hb.packDebt_owner horder hd hp.1)
  have h₂ := hcallee h₁.ownership
  -- the allocation and its debit are rows of the account, also after the callee
  have hallocation : s.owns Allocation a.id account.id := by
    rw [← hu.owner]
    exact Table.Owns.of_mem hu.row rfl
  have hdebit : s.owns Debit a.debitKey account.id := by
    rw [← hu.owner]
    exact hb.allocations a hu.row
  have h₁₂ := h₁.trans h₂
  obtain ⟨allocations, debits, f, hallocations, hdebits, hf, rfl⟩ := hu.mark
  have h₃ : Acts (some account.id) s₂ { s₂ with allocations := allocations } :=
    .update h₂.ownership hallocations (fun _ => rfl) (fun _ => rfl)
      (h₁₂.allocations.keeps _ _ hallocation) fun _ h => h
  have h₄ : Acts (some account.id) { s₂ with allocations := allocations }
      { s₂ with allocations := allocations, debits := debits } :=
    .update h₃.ownership hdebits (fun d => Debit.key_of_static (hf d))
      (fun d => (congrArg (fun x : Debit => some x.accountId) (hf d) :))
      ((h₁₂.trans h₃).debits.keeps _ _ hdebit) fun _ _ => trivial
  exact (h₁₂.trans h₃).trans h₄

/-- A reversal acts for the account, through every debt it relieves. -/
theorem restoreAllocationEffect_acts {fuel : Nat} {source : FundingSource} {n restored : Nat}
    {eventId : String} {reason : LedgerReason} {visiting : List String} (hb : Ownership b)
    (hreason : reason.isReturn)
    (h : restoreAllocationEffect tx account fuel b source n eventId reason visiting =
      .ok (b', restored)) : Acts (some account.id) b b' := by
  -- By the recursion of the reversal: it changes the account's rows only, and every debt, order
  -- and lot it reaches belongs to the account.
  refine restore_induction
    (P := fun _ s _ _ s' => Ownership s → Acts (some account.id) s s')
    (Q := fun _ orderId s _ s' => Ownership s → s.owns PackOrder orderId account.id →
      Acts (some account.id) s s')
    ?stale ?subscription ?unrelieved ?release ?unwind ?lot hreason h hb
  case stale => exact fun _ _ _ _ _ hs => .refl hs
  case subscription =>
    exact fun _ _ _ _ _ _ _ _ hreturn hs => returnSubscriptionAtoms_acts hs hreturn
  case unrelieved => exact fun _ _ _ hs _ => .refl hs
  -- Relieving a debt changes one row, which the loop has checked to be the account's.
  case release =>
    intro _ orderId s d debts r hd hdebt _ hdebts hs _
    have hown : s.owns PackDebt orderId account.id := ⟨d, hd, congrArg some hdebt⟩
    exact .update hs hdebts (fun _ => rfl) (fun _ => rfl) hown fun _ h => h
  -- The callee acts for the account by hypothesis, and its order is still the account's after it.
  case unwind =>
    intro _ orderId s _ _ a s₁ s₂ s₃ s' hq _ hu hcallee hs horder
    have hsofar := hq hs horder
    exact hsofar.trans (hu.acts hsofar.ownership (hsofar.orders.keeps _ _ horder) hcallee)
  -- The lot names the order, whose owner the code compares with the account before it settles.
  case lot =>
    intro _ s lotId n s₁ lot order s₂ s' _ hexpire horder howner _ hq hsettle hs
    obtain ⟨h₁, hlot⟩ := expireAllocationLot_acts hs hexpire
    have hown : s₁.owns PackOrder order.id account.id := by
      rw [← howner]
      exact Table.Owns.of_mem (Table.find?_mem horder) rfl
    have h₂ := hq h₁.ownership hown
    exact (h₁.trans h₂).trans (settleLot_acts h₂.ownership (h₂.lots.keeps _ _ hlot) hsettle)

end

/-! ## Product refunds -/

theorem expireAccountPackLots_acts {accountId : String} {asOf : Int} {expired : Bool}
    (hb : Ownership b) (h : expireAccountPackLots b accountId asOf = .ok (b', expired)) :
    Acts (some accountId) b b' := by
  simp only [expireAccountPackLots, bind_eq_ok, Billing.updateWhere_eq_ok, pure_eq_ok] at h
  obtain ⟨_, ⟨lots, hlots, rfl⟩, heq⟩ := h
  cases heq
  refine .updateWhere hb hlots (fun _ => rfl) (fun _ => rfl) (fun l _ hp => ?_) fun _ h => h
  simp only [Bool.and_eq_true, decide_eq_true_eq] at hp
  exact congrArg some hp.1.1

theorem refundAllocations_acts {account : Account} {fuel total total' : Nat} {key : String}
    {rows : List Allocation} (hb : Ownership b)
    (hrows : ∀ a ∈ rows, b.owns Allocation a.id account.id)
    (h : refundAllocations (restoreAllocationEffect tx account fuel) key rows (b, total) =
      .ok (b', total')) : Acts (some account.id) b b' := by
  -- By the list of allocations; the ones still to be refunded stay the account's.
  induction rows generalizing b total with
  | nil =>
    cases h
    exact .refl hb
  | cons a rest ih =>
    have hrest : ∀ a ∈ rest, b.owns Allocation a.id account.id :=
      fun a ha => hrows a (List.mem_cons_of_mem _ ha)
    simp only [refundAllocations] at h
    -- An allocation that is refunded already is passed over.
    split at h
    · exact ih hb hrest h
    · simp only [bind_eq_ok, markRefunded, Billing.updateWhere_eq_ok] at h
      obtain ⟨⟨b₁, restored⟩, hrestore, _, ⟨allocations, hallocations, rfl⟩, h⟩ := h
      -- The credits return first, and then the row is marked, which keeps its owner.
      have h₁ := restoreAllocationEffect_acts hb (.inl rfl) hrestore
      have h₂ : Acts (some account.id) b₁ { b₁ with allocations := allocations } := by
        refine .updateWhere h₁.ownership hallocations (fun _ => rfl) (fun _ => rfl)
          (fun x hx hp => ?_) fun _ h => h
        simp only [Bool.and_eq_true, decide_eq_true_eq] at hp
        exact (h₁.allocations.keeps _ _ (hrows a List.mem_cons_self)).owner_eq hx hp.1
      have h₁₂ := h₁.trans h₂
      exact h₁₂.trans (ih h₁₂.ownership (fun x hx => h₁₂.allocations.keeps _ _ (hrest x hx)) h)

/-- The allocations of a debit belong to the account of the debit. -/
theorem Ownership.allocation_owner (hb : Ownership b) {key accountId : String}
    (hdebit : b.owns Debit key accountId) {a : Allocation} (ha : a ∈ b.allocations.rows)
    (hkey : a.debitKey = key) : b.owns Allocation a.id accountId := by
  have hanchor : b.owns Debit a.debitKey a.accountId := hb.allocations a ha
  rw [hkey] at hanchor
  rw [← hanchor.unique hdebit]
  exact Table.Owns.of_mem ha rfl

theorem reverseDebit_acts {account : Account} {debit : Debit} {key : String} {restored : Nat}
    (hb : Ownership b) (hdebit : b.owns Debit key account.id)
    (h : reverseDebit tx b account debit key = .ok (b', restored)) :
    Acts (some account.id) b b' := by
  simp only [reverseDebit] at h
  split at h
  · split at h
    · exact returnSubscriptionAtoms_acts hb h
    · rw [pure_eq_ok] at h
      cases h
      exact .refl hb
  · refine refundAllocations_acts hb (fun a ha => ?_) h
    have hmem := Table.mem_orderBy.1 ha
    have hkey := List.of_mem_filter hmem
    exact hb.allocation_owner hdebit (List.mem_of_mem_filter hmem) (of_decide_eq_true hkey)

/-- A refund that did not raise resolved to the account of the debit. -/
theorem refund_resolved {printable : Char → Bool} {idempotencyKey : String}
    {expectedAccountId : Option String} {result : CreditResult}
    (h : refund printable tx b idempotencyKey expectedAccountId = .ok (b', result)) :
    ∃ debit, b.debits.find? idempotencyKey = some debit ∧
      refundAccountId b idempotencyKey expectedAccountId = .ok debit.accountId := by
  simp only [refund, bind_eq_ok, fetch_eq_ok, require_eq_ok, decide_eq_true_eq] at h
  obtain ⟨key, hkey, accountId, hresolved, account, haccount, ⟨b₁, expired⟩, hexpire, debit, hdebit,
    -, howner, -⟩ := h
  obtain rfl : idempotencyKey = key := by
    unfold validateIdempotencyKey at hkey
    split at hkey
    · exact Except.ok.inj hkey
    · cases hkey
  have hid : account.id = accountId := Table.find?_key haccount
  simp only [expireAccountPackLots, bind_eq_ok, Billing.updateWhere_eq_ok, pure_eq_ok] at hexpire
  obtain ⟨_, ⟨lots, -, rfl⟩, heq⟩ := hexpire
  cases heq
  exact ⟨debit, hdebit, by rw [howner, hid]; exact hresolved⟩

/-- **Product refunds** act for the account they resolved to. -/
theorem refund_acts {printable : Char → Bool} {idempotencyKey accountId : String}
    {expectedAccountId : Option String} {result : CreditResult} (hb : Ownership b)
    (hresolved : refundAccountId b idempotencyKey expectedAccountId = .ok accountId)
    (h : refund printable tx b idempotencyKey expectedAccountId = .ok (b', result)) :
    Acts (some accountId) b b' := by
  obtain ⟨debit₀, hdebit₀, hresolved'⟩ := refund_resolved h
  rw [hresolved, Except.ok.injEq] at hresolved'
  obtain ⟨account, b₁, _, debit, -, hexpire, hdebit, howner, -, hcase⟩ := refund_eq_ok h
  have h₁ := expireAccountPackLots_acts hb hexpire
  -- the debit that is refunded is the one that was resolved
  have hsame : account.id = accountId := by
    have hown : b.owns Debit idempotencyKey accountId :=
      ⟨debit₀, hdebit₀, congrArg some hresolved'.symm⟩
    have hown' := h₁.debits.keeps _ _ hown
    have hfound := hown'.owner_eq (Table.find?_mem hdebit) (Table.find?_key hdebit)
    rw [← howner]
    exact Option.some.inj hfound
  subst hsame
  have hdebits : b₁.owns Debit idempotencyKey account.id := ⟨debit, hdebit, congrArg some howner⟩
  rcases hcase with ⟨-, rfl, -⟩ | ⟨-, b₂, _, debits, hreverse, hupdate, rfl, -⟩
  · exact h₁
  · have h₂ := reverseDebit_acts h₁.ownership hdebits hreverse
    have h₃ : Acts (some account.id) b₂ { b₂ with debits := debits } :=
      .update h₂.ownership hupdate (fun _ => rfl) (fun _ => rfl) (h₂.debits.keeps _ _ hdebits)
        fun _ _ => trivial
    exact (h₁.trans h₂).trans h₃

/-! ## Charges -/

/-- The lots a charge draws from belong to the account. -/
theorem chargeSources_owned {account : Account} {accountId : String} {asOf : Int}
    {lot : FundingLot}
    (h : ChargeSource.creditPack lot ∈ chargeSources account (spendableLots b accountId asOf) asOf) :
    b.owns FundingLot lot.id accountId := by
  have hrow := (chargeSources_drawable account accountId asOf b).current lot h
  obtain ⟨subscription, heq, hnone⟩ :=
    chargeSources_eq account (spendableLots b accountId asOf) asOf
  rw [heq, Table.mem_orderBy, List.mem_append] at h
  rcases h with h | h
  · obtain ⟨l, hl, hsource⟩ := List.mem_map.1 h
    cases hsource
    have hspendable := List.of_mem_filter (Table.mem_orderBy.1 (List.mem_of_mem_filter hl))
    simp only [Bool.and_eq_true, decide_eq_true_eq] at hspendable
    exact ⟨lot, hrow, congrArg some hspendable.1.1⟩
  · have hlot := List.filterMap_eq_nil_iff.1 hnone _ h
    cases hlot

theorem drawFromSource_acts {account : Account} {key : String} {source : ChargeSource}
    {used left total total' : Nat} (hb : Ownership b) (hdebit : b.owns Debit key account.id)
    (hlot : ∀ lot, source = .creditPack lot → b.owns FundingLot lot.id account.id)
    (h : drawFromSource account key (b, total) source used left = .ok (b', total')) :
    Acts (some account.id) b b' := by
  cases source with
  | subscription a expiresAt =>
    simp only [drawFromSource, bind_eq_ok, pure_eq_ok] at h
    obtain ⟨b₁, hinsert, heq⟩ := h
    cases heq
    exact .insertAllocation hb hinsert hdebit
  | creditPack lot =>
    simp only [drawFromSource, bind_eq_ok, Billing.updateWhere_eq_ok, pure_eq_ok] at h
    obtain ⟨_, ⟨lots, hlots, rfl⟩, b₁, hinsert, heq⟩ := h
    cases heq
    have h₁ : Acts (some account.id) b { b with lots := lots } := by
      refine .updateWhere hb hlots (fun _ => rfl) (fun _ => rfl) (fun l hl hp => ?_) fun _ h => h
      simp only [Bool.and_eq_true, decide_eq_true_eq] at hp
      exact (hlot lot rfl).owner_eq hl hp.1
    exact h₁.trans (.insertAllocation h₁.ownership hinsert (h₁.debits.keeps _ _ hdebit))

theorem chargeSubscription_acts {account : Account} {key : String} {used : Nat}
    (hb : Ownership b) (h : chargeSubscription b account key used = .ok b') :
    Acts (some account.id) b b' := by
  unfold chargeSubscription at h
  split at h
  · rw [pure_eq_ok] at h
    exact h ▸ .refl hb
  · rw [bind_eq_ok] at h
    obtain ⟨b₁, hbalance, hledger⟩ := h
    have h₁ : Acts (some account.id) b b₁ := .setAccount hb hbalance fun _ => rfl
    exact h₁.trans (.insertEntry h₁.ownership hledger)

/-- **Charges** act for the account they name. The debit is new, and every lot that is drawn from
    was selected among the lots of the account. -/
theorem charge_acts {printable : Char → Bool} {accountId idempotencyKey : String} {amount : Nat}
    {result : CreditResult} (hb : Ownership b)
    (h : charge printable tx b accountId amount idempotencyKey = .ok (b', result)) :
    Acts (uuidParameter accountId) b b' := by
  simp only [charge, bind_eq_ok, fetch_eq_ok] at h
  -- The account is found by the parameter, and so has the id that it spells.
  obtain ⟨-, -, key, -, account, haccount, ⟨b₁, expired⟩, hexpire, -, -, h⟩ := h
  obtain ⟨id, hcanonical, hfind⟩ := Option.bind_eq_some_iff.1 haccount
  obtain rfl : account.id = id := Table.find?_key hfind
  rw [hcanonical]
  have h₁ := expireAccountPackLots_acts hb hexpire
  -- A key that is used already repeats the old answer and changes nothing.
  split at h
  · simp only [bind_eq_ok, pure_eq_ok] at h
    obtain ⟨_, -, heq⟩ := h
    cases heq
    exact h₁
  simp only [bind_eq_ok, Billing.insert_eq_ok, pure_eq_ok] at h
  -- A new debit, which belongs to the account, and then the draws below it.
  obtain ⟨_, ⟨debits, hdebits, rfl⟩, -, -, ⟨⟨b₂, used⟩, left⟩, hdrain, b₃, hsubscription, heq⟩ := h
  cases heq
  have h₂ : Acts (some account.id) b₁ { b₁ with debits := debits } :=
    .insert h₁.ownership hdebits (.inr rfl) trivial
  have hdebit : ({ b₁ with debits := debits } : Billing).owns Debit key account.id :=
    Table.Owns.insert hdebits rfl
  -- Every source is a lot of the account, so each draw acts for the account.
  obtain ⟨_, h₃, -⟩ := drain_invariant
    (P := fun xs _ (s : Billing × Nat) => Acts (some account.id) { b₁ with debits := debits } s.1 ∧
      ∀ lot, ChargeSource.creditPack lot ∈ xs → b₁.owns FundingLot lot.id account.id) (by
    rintro source rest used left ⟨s, total⟩ ⟨s', total'⟩ - - - ⟨hs, hxs⟩ hrun
    refine ⟨hs.trans (drawFromSource_acts hs.ownership (hs.debits.keeps _ _ hdebit) ?_ hrun),
      fun lot hlot => hxs lot (List.mem_cons_of_mem _ hlot)⟩
    rintro lot rfl
    exact (h₂.trans hs).lots.keeps _ _ (hxs lot List.mem_cons_self))
    ⟨.refl h₂.ownership, fun lot hlot => chargeSources_owned hlot⟩ hdrain
  exact ((h₁.trans h₂).trans h₃).trans (chargeSubscription_acts h₃.ownership hsubscription)

end StripeEntitlements
