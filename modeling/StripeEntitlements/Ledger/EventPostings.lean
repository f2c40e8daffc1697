import StripeEntitlements.Ledger.ClawbackPostings
import StripeEntitlements.Ledger.CreditSteps
import StripeEntitlements.Redelivery.Packs
import StripeEntitlements.Redelivery.Subscriptions
import StripeEntitlements.Runs

/-!
# Postings of Events

Whatever its type, an Event writes at most one account row. The constructors of `Projected`
are the projections the handlers can write, each with the guards it passed; together with
the posting they say all an Event can do to the accounts and the ledger.

## Main results

- `Projected` — the projections of all handlers
- `dispatch_posts` — an Event writes no account, or posts one projection
- `grantDue_posts` — the annual worker posts one slot, or closes the allowance
-/

namespace StripeEntitlements

open Relational

variable {cfg : Config} {tx : Tx} {b b' : Billing} {e : Event} {effect : Effect}

/-! ## Projections -/

/-- A renewal that failed to be paid. -/
def FailedInvoice.project (f : FailedInvoice) (e : Event) (a : Account) : Account :=
  { a with
    subscriptionStatus := .pastDue
    eventCreated := (projectionOrder f.account e).1
    eventRank := (projectionOrder f.account e).2 }

/-- The account row before and after one Event. -/
inductive Projected (cfg : Config) (tx : Tx) (b : Billing) (e : Event) : Account → Account → Prop
  /-- A pack Event binds the customer. -/
  | customer {a : Account} {customerId : Option String} (h : a.stripeCustomerId = none) :
      Projected cfg tx b e a { a with stripeCustomerId := customerId }
  /-- A paid Invoice that only leaves a marker. -/
  | marked {p : PaidInvoice} (hkind : e.kind = .invoicePaid)
      (hp : paidInvoiceGuards cfg b e = .ok p) : Projected cfg tx b e p.account p.account
  | replayed {p : PaidInvoice} {t : PeriodTerms} {existing : LedgerRow}
      (hkind : e.kind = .invoicePaid) (hp : paidInvoiceGuards cfg b e = .ok p)
      (hintent : proratedTransition b p = none) (ht : periodTerms cfg p = .ok t)
      (hslot : firstSlotGrant b p.invoiceId = some existing)
      (howner : existing.accountId = p.account.id) (hwins : wins p.account e = true) :
      Projected cfg tx b e p.account (p.account.repaid e)
  | period {p : PaidInvoice} {t : PeriodTerms} {transition : Option PlanChange} {balance : Nat}
      (hkind : e.kind = .invoicePaid) (hp : paidInvoiceGuards cfg b e = .ok p)
      (hintent : proratedTransition b p = none) (ht : periodTerms cfg p = .ok t)
      (hfree : firstSlotGrant b p.invoiceId = none)
      (hguards : periodGuards b e p t = .ok transition)
      (hopen : (periodSlots p t (recordedInvoice b (p.periodFacts t))).blocked = false) :
      Projected cfg tx b e p.account ((projectPeriod cfg e p t
        (periodSlots p t (recordedInvoice b (p.periodFacts t))) p.account).withBalance balance)
  | delta {p : PaidInvoice} {transition : PlanChange} {f : DeltaFunding}
      {newBalance balance : Nat} (hkind : e.kind = .invoicePaid)
      (hp : paidInvoiceGuards cfg b e = .ok p)
      (hintent : proratedTransition b p = some transition)
      (hguards : deltaGuards cfg b p transition = .ok f) :
      Projected cfg tx b e p.account
        ((projectDelta e p f newBalance p.account).withBalance balance)
  | renewal {f : FailedInvoice} (hkind : e.kind = .invoicePaymentFailed)
      (hf : failedInvoiceGuards cfg b e = .ok f) (hreason : f.billingReason ≠ .subscriptionUpdate)
      (hwins : wins f.account e = true) : Projected cfg tx b e f.account (f.project e f.account)
  | updated {f : SubscriptionFacts} (hkind : e.kind = .customerSubscriptionUpdated)
      (hf : subscriptionGuards cfg b e = .ok f) (hwins : wins f.account e = true) :
      Projected cfg tx b e f.account (f.project e f.account)
  | deleted {account : Account} (hkind : e.kind = .customerSubscriptionDeleted)
      (haccount : deletionGuards cfg b e = .ok account) :
      Projected cfg tx b e account (projectDeletion e account account)
  | completed {s : CompletedSession} (hkind : e.kind = .checkoutSessionCompleted)
      (hs : completedSessionGuards cfg b e = .ok s) :
      Projected cfg tx b e s.account (bindSession s s.account)
  | clawed {c : ClawbackTarget} {leaf : Option FundingAllocation} {balance : Nat}
      (hkind : e.kind = .chargeRefunded ∨ e.kind = .chargeDisputeCreated)
      (hc : c.Locked cfg b e) (hleaf : c.Reverts leaf) :
      Projected cfg tx b e c.account ((c.after tx leaf).withBalance balance)

/-- An Event writes no account, or posts one projection. -/
def Projects (cfg : Config) (tx : Tx) (b : Billing) (e : Event) (b' : Billing) : Prop :=
  Unposted b b' ∨ ∃ a a', Posts a a' b b' ∧ Projected cfg tx b e a a'

theorem Projects.of_eq (h : b' = b) : Projects cfg tx b e b' := .inl (.of_eq h)

/-! ## Subscription handlers -/

theorem paidInvoiceGuards_row {p : PaidInvoice} (hp : paidInvoiceGuards cfg b e = .ok p) :
    b.accounts.find? p.account.id = some p.account :=
  Table.find?_of_mem (lockAccount_mem (paidInvoiceGuards_eq_ok hp).2.2)

theorem invoicePaid_posts (hkind : e.kind = .invoicePaid)
    (h : invoicePaid cfg tx b e = .ok effect) : Projects cfg tx b e effect.billing := by
  rcases Guarded.andThen_eq_ok h with ⟨hb, -⟩ | ⟨p, hp, h⟩
  · exact .of_eq hb
  have hrow := paidInvoiceGuards_row hp
  -- a prorated Invoice is a delta, any other settles a period
  cases hintent : proratedTransition b p with
  | some transition =>
    simp only [hintent] at h
    rcases Guarded.andThen_eq_ok h with ⟨hb, -⟩ | ⟨f, hf, h⟩
    · exact .of_eq hb
    -- the delta posts nothing where its allocation exists or the Invoice is closed
    rcases applyDelta_posts hrow h with ⟨-, hposted⟩ | ⟨-, newBalance, balance, hposted⟩
    · exact .inr ⟨_, _, hposted, .marked hkind hp⟩
    · exact .inr ⟨_, _, hposted, .delta hkind hp hintent hf⟩
  | none =>
    simp only [hintent] at h
    rcases Guarded.andThen_eq_ok h with ⟨hb, -⟩ | ⟨t, ht, h⟩
    · exact .of_eq hb
    -- the period's slot: taken, the replay may still repair the account
    cases hslot : firstSlotGrant b p.invoiceId with
    | some existing =>
      simp only [hslot] at h
      rcases replayPeriod_posts hrow h with ⟨-, hquiet⟩ | ⟨howner, hwins, hposted⟩
      · exact .inl hquiet
      · exact .inr ⟨_, _, hposted, .replayed hkind hp hintent ht hslot howner hwins⟩
    | none =>
      simp only [hslot] at h
      rcases Guarded.andThen_eq_ok h with ⟨hb, -⟩ | ⟨transition, hguards, h⟩
      · exact .of_eq hb
      -- free: a closed Invoice blocks the grant, an open one posts it
      rcases applyPeriod_posts hrow h with ⟨-, hposted⟩ | ⟨hopen, balance, hposted⟩
      · exact .inr ⟨_, _, hposted, .marked hkind hp⟩
      · exact .inr ⟨_, _, hposted, .period hkind hp hintent ht hslot hguards hopen⟩

theorem paymentFailed_posts (hkind : e.kind = .invoicePaymentFailed)
    (h : paymentFailed cfg b e = .ok effect) : Projects cfg tx b e effect.billing := by
  rcases Guarded.andThen_eq_ok h with ⟨hb, -⟩ | ⟨f, hf, h⟩
  · exact .of_eq hb
  split at h
  case isTrue =>
    rcases failPlanChange_eq_ok h with ⟨hb, -⟩ | ⟨_, planChanges, -, -, -, hb⟩
    · exact .of_eq hb
    · rw [hb]
      exact .inl ⟨rfl, rfl⟩
  case isFalse hreason =>
    rcases failRenewal_eq_ok h with ⟨-, hb⟩ | ⟨hwins, accounts, haccounts, hb⟩
    · exact .of_eq hb
    · have hrow := Table.find?_of_mem (lockAccount_mem (failedInvoiceGuards_eq_ok hf).1)
      have hposted : Posts f.account (f.project e f.account) b { b with accounts := accounts } :=
        Posting.update (f := f.project e) hrow haccounts (fun _ => rfl) (.refl _ _ _)
      rw [hb]
      exact .inr ⟨_, _, hposted, .renewal hkind hf hreason hwins⟩

theorem subscriptionUpdated_posts (hkind : e.kind = .customerSubscriptionUpdated)
    (h : subscriptionUpdated cfg b e = .ok effect) : Projects cfg tx b e effect.billing := by
  rcases Guarded.andThen_eq_ok h with ⟨hb, -⟩ | ⟨f, hf, h⟩
  · exact .of_eq hb
  unfold applySubscription at h
  split at h
  case isTrue =>
    rw [pure_eq_ok] at h
    exact .of_eq (h ▸ rfl)
  case isFalse hwins =>
    simp only [bind_eq_ok, Billing.update_eq_ok, pure_eq_ok, Stored.table, Stored.install] at h
    obtain ⟨_, ⟨accounts, haccounts, rfl⟩, rfl⟩ := h
    have hrow := Table.find?_of_mem (lockAccount_mem (subscriptionGuards_eq_ok hf).1)
    have hposted : Posts f.account (f.project e f.account) b { b with accounts := accounts } :=
      Posting.update (f := f.project e) hrow haccounts (fun _ => rfl) (.refl _ _ _)
    -- consuming the claim touches neither the accounts nor the ledger
    have hclaims : Unposted { b with accounts := accounts }
        (consumeClaim { b with accounts := accounts } f.account) := by
      unfold consumeClaim
      split <;> exact ⟨rfl, rfl⟩
    exact .inr ⟨_, _, hclaims.after hposted, .updated hkind hf (by simpa using hwins)⟩

theorem subscriptionDeleted_posts (hkind : e.kind = .customerSubscriptionDeleted)
    (h : subscriptionDeleted cfg b e = .ok effect) : Projects cfg tx b e effect.billing := by
  rcases Guarded.andThen_eq_ok h with ⟨hb, -⟩ | ⟨account, haccount, h⟩
  · exact .of_eq hb
  have hrow := Table.find?_of_mem (lockAccount_mem (deletionGuards_eq_ok haccount).1)
  refine .inr ⟨account, _, ?_, .deleted hkind haccount⟩
  simp only [applyDeletion, bind_eq_ok, Billing.update_eq_ok, Stored.table, Stored.install] at h
  obtain ⟨_, ⟨accounts, haccounts, rfl⟩, h⟩ := h
  -- a zero balance posts no revocation
  split at h
  case isTrue hzero =>
    simp only [bind_eq_ok, pure_eq_ok, Billing.updateWhere_eq_ok, Stored.install] at h
    obtain ⟨_, rfl, _, ⟨planChanges, -, rfl⟩, rfl⟩ := h
    have hentries : Entries account.id account.creditsBalance
        (projectDeletion e account account).creditsBalance b.ledger b.ledger := by
      rw [hzero]
      exact .refl _ _ _
    exact Posting.update (f := projectDeletion e account) hrow haccounts (fun _ => rfl) hentries
  case isFalse =>
    simp only [bind_eq_ok, pure_eq_ok, Billing.updateWhere_eq_ok, Stored.install] at h
    obtain ⟨b₁, hledger, _, ⟨planChanges, -, rfl⟩, rfl⟩ := h
    -- the revocation brings the balance to zero in one row
    have hposted : Posts account (projectDeletion e account account) b b₁ := by
      refine Posting.entry (f := projectDeletion e account) hrow (fun _ => rfl) haccounts hledger
        ?_ rfl rfl
      simp only [projectDeletion]
      omega
    exact hposted

theorem checkoutCompleted_posts (hkind : e.kind = .checkoutSessionCompleted)
    (h : checkoutCompleted cfg b e = .ok effect) : Projects cfg tx b e effect.billing := by
  rcases Guarded.andThen_eq_ok h with ⟨hb, -⟩ | ⟨s, hs, h⟩
  · exact .of_eq hb
  simp only [bind_eq_ok, Billing.update_eq_ok, pure_eq_ok, Stored.table, Stored.install] at h
  obtain ⟨_, ⟨accounts, haccounts, rfl⟩, rfl⟩ := h
  have hrow := Table.find?_of_mem (lockAccount_mem (completedSessionGuards_eq_ok hs).1)
  have hposted : Posts s.account (bindSession s s.account) b { b with accounts := accounts } :=
    Posting.update (f := bindSession s) hrow haccounts (fun _ => rfl) (.refl _ _ _)
  exact .inr ⟨_, _, hposted, .completed hkind hs⟩

theorem checkoutExpired_unposted (h : checkoutExpired b e = .ok effect) :
    Unposted b effect.billing := by
  rcases checkoutExpired_eq_ok h with hb | ⟨hb, -⟩
  · rw [hb]
    exact ⟨rfl, rfl⟩
  · exact .of_eq hb

theorem clawback_projects (hkind : e.kind = .chargeRefunded ∨ e.kind = .chargeDisputeCreated)
    (h : clawback cfg tx b e = .ok effect) : Projects cfg tx b e effect.billing := by
  rcases clawback_posts h with hquiet | ⟨c, leaf, balance, hc, hleaf, hposted⟩
  · exact .inl hquiet
  · exact .inr ⟨_, _, hposted, .clawed hkind hc hleaf⟩

/-! ## Pack handlers -/

/-- At most the customer of one account was bound. -/
def BindsCustomer (b b' : Billing) : Prop :=
  SameBooks b b' ∨ ∃ (a : Account) (customerId : Option String) (accounts : Table Account),
    a.stripeCustomerId = none ∧
      Posts a { a with stripeCustomerId := customerId } b { b with accounts := accounts } ∧
      SameBooks { b with accounts := accounts } b'

theorem SameBooks.unposted (h : SameBooks b b') : Unposted b b' := ⟨h.accounts, h.ledger⟩

namespace BindsCustomer

theorem of_eq (h : b' = b) : BindsCustomer b b' := .inl (h ▸ .refl b)

theorem trans_right {b'' : Billing} (h : BindsCustomer b b') (h' : SameBooks b' b'') :
    BindsCustomer b b'' := by
  rcases h with hsame | ⟨a, customerId, accounts, hnone, hposted, hsame⟩
  · exact .inl (hsame.trans h')
  · exact .inr ⟨a, customerId, accounts, hnone, hposted, hsame.trans h'⟩

theorem trans_left {b'' : Billing} (h : SameBooks b b') (h' : BindsCustomer b' b'') :
    BindsCustomer b b'' := by
  rcases h' with hsame | ⟨a, customerId, accounts, hnone, hposted, hsame⟩
  · exact .inl (h.trans hsame)
  · refine .inr ⟨a, customerId, accounts, hnone, ?_, ?_⟩
    · simp only [Posts, h.accounts, h.ledger] at hposted
      exact hposted
    · have hbefore : SameBooks { b with accounts := accounts } { b' with accounts := accounts } :=
        { h with accounts := rfl }
      exact hbefore.trans hsame

theorem projects (h : BindsCustomer b b') : Projects cfg tx b e b' := by
  rcases h with hsame | ⟨a, customerId, accounts, hnone, hposted, hsame⟩
  · exact .inl hsame.unposted
  · exact .inr ⟨_, _, hsame.unposted.after hposted, .customer hnone⟩

theorem planChanges (h : BindsCustomer b b') : b'.planChanges = b.planChanges := by
  rcases h with hsame | ⟨_, _, _, -, -, hsame⟩
  · exact hsame.planChanges
  · exact hsame.planChanges

end BindsCustomer

theorem bindCustomer_binds {account : Account} {customerId : Option String}
    (hrow : b.accounts.find? account.id = some account)
    (h : bindCustomer b account customerId = .ok b') : BindsCustomer b b' := by
  unfold bindCustomer at h
  split at h
  case isTrue hnone =>
    rw [Billing.update_eq_ok] at h
    obtain ⟨accounts, haccounts, rfl⟩ := h
    refine .inr ⟨account, customerId, accounts, Option.isNone_iff_eq_none.1 hnone, ?_, .refl _⟩
    exact Posting.update (f := fun a => { a with stripeCustomerId := customerId }) hrow haccounts
      (fun _ => rfl) (.refl _ _ _)
  case isFalse =>
    rw [pure_eq_ok] at h
    exact .of_eq h.symm

theorem paymentSucceeded_binds (h : paymentSucceeded cfg tx b e = .ok effect) :
    BindsCustomer b effect.billing := by
  rcases Guarded.andThen_eq_ok h with ⟨hb, -⟩ | ⟨p, hp, h⟩
  · exact .of_eq hb
  obtain ⟨-, -, -, identity, -, hlocked⟩ := packPaymentGuards_facts hp
  have hrow := Table.find?_of_mem (Table.find?_mem (lockedOrder_of_find hlocked).2)
  obtain ⟨orders, accounts, -, hbind, hcase⟩ := applyPackPayment_eq_ok h
  have horders : SameBooks b { b with orders := orders } := ⟨rfl, rfl, rfl, rfl, rfl, rfl, rfl⟩
  have hbinds : BindsCustomer b { b with orders := orders, accounts := accounts } :=
    .trans_left horders (bindCustomer_binds hrow hbind)
  rcases hcase with ⟨-, heq⟩ | ⟨-, lots, -, hcase⟩
  · rw [heq]
    exact hbinds
  refine hbinds.trans_right ?_
  have hlots : SameBooks { b with orders := orders, accounts := accounts }
      { b with orders := orders, accounts := accounts, lots := lots } :=
    ⟨rfl, rfl, rfl, rfl, rfl, rfl, rfl⟩
  rcases hcase with heq | ⟨-, _, hcollect⟩
  · rw [heq]
    exact hlots
  · exact hlots.trans (.collectPackDebtsFromLot hcollect)

namespace SameBooks

theorem clawFunding {c : PackClawback} {delta removed : Nat}
    (h : clawFunding tx b c delta = .ok (b', removed)) : SameBooks b b' := by
  unfold StripeEntitlements.clawFunding at h
  split at h
  · rw [pure_eq_ok] at h
    cases h
    exact .refl b
  · simp only [clawLot, bind_eq_ok, Billing.update_eq_ok, pure_eq_ok] at h
    obtain ⟨⟨b₁, _⟩, ⟨⟨b₂, lot⟩, hexpire, _, -, _, ⟨lots, -, rfl⟩, heq⟩, b₃, hdebt, heq'⟩ := h
    cases heq
    cases heq'
    obtain ⟨debts, rfl, -⟩ := recordPackDebt_eq_ok hdebt
    unfold expireClawbackLot at hexpire
    split at hexpire
    · simp only [bind_eq_ok, Billing.update_eq_ok, pure_eq_ok] at hexpire
      obtain ⟨_, ⟨lots', -, rfl⟩, heq⟩ := hexpire
      cases heq
      exact ⟨rfl, rfl, rfl, rfl, rfl, rfl, rfl⟩
    · rw [pure_eq_ok] at hexpire
      cases hexpire
      exact ⟨rfl, rfl, rfl, rfl, rfl, rfl, rfl⟩

theorem advancePackCash {c : PackClawback} (h : advancePackCash tx b c = .ok effect) :
    SameBooks b effect.billing := by
  unfold StripeEntitlements.advancePackCash at h
  split at h
  · simp only [bind_eq_ok, Billing.update_eq_ok] at h
    obtain ⟨_, ⟨orders, -, rfl⟩, h⟩ := h
    split at h
    · simp only [bind_eq_ok, Billing.updateWhere_eq_ok, pure_eq_ok] at h
      obtain ⟨_, ⟨lots, -, rfl⟩, rfl⟩ := h
      exact ⟨rfl, rfl, rfl, rfl, rfl, rfl, rfl⟩
    · simp only [bind_eq_ok, pure_eq_ok] at h
      obtain ⟨_, rfl, rfl⟩ := h
      exact ⟨rfl, rfl, rfl, rfl, rfl, rfl, rfl⟩
  · rw [pure_eq_ok] at h
    exact h ▸ .refl b

end SameBooks

theorem packClawback_binds {run : Transaction Effect} (hrun : packClawback cfg tx b e = some run)
    (h : run = .ok effect) : BindsCustomer b effect.billing := by
  simp only [packClawback, Option.bind_eq_bind, Option.bind_eq_some_iff, Option.some.injEq] at hrun
  obtain ⟨-, -, identity, -, -, -, rfl⟩ := hrun
  rcases Guarded.andThen_eq_ok h with ⟨hb, -⟩ | ⟨c, hc, h⟩
  · exact .of_eq hb
  have hlocked := (packClawbackGuards_facts hc).1
  have hrow := Table.find?_of_mem (Table.find?_mem (lockedOrder_of_find hlocked).2)
  simp only [applyPackClawback, bind_eq_ok] at h
  obtain ⟨b₁, hbind, h⟩ := h
  refine (bindCustomer_binds hrow hbind).trans_right ?_
  split at h
  · exact .advancePackCash h
  · simp only [bind_eq_ok, Billing.update_eq_ok, pure_eq_ok] at h
    obtain ⟨⟨b₂, removed⟩, hclaw, _, ⟨orders, -, rfl⟩, rfl⟩ := h
    have horders : SameBooks b₂ { b₂ with orders := orders } := ⟨rfl, rfl, rfl, rfl, rfl, rfl, rfl⟩
    exact (SameBooks.clawFunding hclaw).trans horders

theorem packCheckout_binds {sessionId : String} {order : PackOrder}
    (h : packCheckout cfg b e sessionId order = .ok effect) : BindsCustomer b effect.billing := by
  rcases Guarded.andThen_eq_ok h with ⟨hb, -⟩ | ⟨account, haccount, h⟩
  · exact .of_eq hb
  have hrow : b.accounts.find? account.id = some account :=
    Table.find?_of_mem (Table.find?_mem (packCheckoutGuards_eq_ok haccount).1)
  simp only [bind_eq_ok] at h
  obtain ⟨b₁, hattach, h⟩ := h
  -- the Session id is written on the order, off the books
  have hattached : SameBooks b b₁ := by
    unfold attachPackSession at hattach
    split at hattach
    · rw [Billing.update_eq_ok] at hattach
      obtain ⟨orders, -, rfl⟩ := hattach
      exact ⟨rfl, rfl, rfl, rfl, rfl, rfl, rfl⟩
    · rw [pure_eq_ok] at hattach
      exact hattach ▸ .refl b
  refine .trans_left hattached ?_
  -- an expiry and a conflict bind nobody; a completion binds the Customer
  split at h
  · unfold expirePackCheckout at h
    split at h
    · simp only [bind_eq_ok, Billing.update_eq_ok, pure_eq_ok] at h
      obtain ⟨_, ⟨orders, -, rfl⟩, rfl⟩ := h
      exact .inl ⟨rfl, rfl, rfl, rfl, rfl, rfl, rfl⟩
    · simp only [bind_eq_ok, pure_eq_ok] at h
      obtain ⟨_, rfl, rfl⟩ := h
      exact .of_eq rfl
  · simp only [completePackCheckout] at h
    split at h
    · rw [pure_eq_ok] at h
      exact .of_eq (h ▸ rfl)
    · simp only [bind_eq_ok, Billing.updateWhere_eq_ok, pure_eq_ok] at h
      obtain ⟨_, ⟨orders, -, rfl⟩, b₂, hbind, rfl⟩ := h
      have horders : SameBooks b₁ { b₁ with orders := orders } :=
        ⟨rfl, rfl, rfl, rfl, rfl, rfl, rfl⟩
      -- the account row is still the one the guards read
      have hrow₁ : ({ b₁ with orders := orders } : Billing).accounts.find? account.id =
          some account := by
        rw [horders.accounts, hattached.accounts]
        exact hrow
      exact .trans_left horders (bindCustomer_binds hrow₁ hbind)

theorem packCheckoutEvent_binds {run : Transaction Effect}
    (hrun : packCheckoutEvent cfg b e = some run) (h : run = .ok effect) :
    BindsCustomer b effect.billing := by
  rcases packCheckoutEvent_order hrun h with hb | ⟨_, _, -, -, hcheckout⟩
  · exact .of_eq hb
  · exact packCheckout_binds hcheckout

/-! ## All Events -/

/-- **An Event** writes no account, or posts one projection. Each kind of Event has one handler,
    whose own lemma says what it posts. -/
theorem dispatch_posts (h : dispatch cfg tx b e = .ok effect) :
    Projects cfg tx b e effect.billing := by
  unfold dispatch at h
  -- the pack routes bind a Customer at most, the Subscription routes post a projection
  cases hkind : e.kind <;> simp only [hkind] at h
  case paymentIntentSucceeded => exact (paymentSucceeded_binds h).projects
  case invoicePaid => exact invoicePaid_posts hkind h
  case invoicePaymentFailed => exact paymentFailed_posts hkind h
  case customerSubscriptionUpdated => exact subscriptionUpdated_posts hkind h
  case customerSubscriptionDeleted => exact subscriptionDeleted_posts hkind h
  case chargeRefunded | chargeDisputeCreated =>
    cases hpack : packClawback cfg tx b e with
    | none =>
      rw [hpack] at h
      exact clawback_projects (by simp [hkind]) h
    | some run =>
      rw [hpack] at h
      exact (packClawback_binds hpack h).projects
  case checkoutSessionCompleted =>
    cases hpack : packCheckoutEvent cfg b e with
    | none =>
      rw [hpack] at h
      exact checkoutCompleted_posts hkind h
    | some run =>
      rw [hpack] at h
      exact (packCheckoutEvent_binds hpack h).projects
  case checkoutSessionExpired =>
    cases hpack : packCheckoutEvent cfg b e with
    | none =>
      rw [hpack] at h
      exact .inl (checkoutExpired_unposted h)
    | some run =>
      rw [hpack] at h
      exact (packCheckoutEvent_binds hpack h).projects
  case unsupported =>
    rw [pure_eq_ok] at h
    exact .of_eq (h ▸ rfl)

/-! ## The annual worker -/

/-- The account row before and after one run of the annual worker. -/
inductive AnnualStep (cfg : Config) (b : Billing) (now : Int) (snapshot : SubscriptionSnapshot) :
    Account → Account → Prop
  | closed {accountId : String} {account : Account} {state : InvoiceState}
      (haccount : annualAccountGuards b accountId now snapshot = .ok account)
      (hstate : b.invoices.find? (account.fundingInvoiceId.getD "None") = some state)
      (hclosed : state.closed = true) :
      AnnualStep cfg b now snapshot account
        { account with annualGrantsAllowed := account.annualGrantsIssued }
  | granted {accountId : String} {account : Account} {plan : Plan} {state : InvoiceState}
      {balance : Nat} (haccount : annualAccountGuards b accountId now snapshot = .ok account)
      (hplan : annualPlanGuards cfg account accountId snapshot = .ok plan)
      (hslot : account.annualGrantsIssued < annualTargetSlot cfg account now)
      (hstate : b.invoices.find? (account.fundingInvoiceId.getD "None") = some state)
      (hopen : state.closed = false) :
      AnnualStep cfg b now snapshot account
        ((projectAnnualSlot cfg account plan (annualTargetSlot cfg account now)
          account).withBalance balance)

theorem annualAccountGuards_row {accountId : String} {now : Int}
    {snapshot : SubscriptionSnapshot} {account : Account}
    (h : annualAccountGuards b accountId now snapshot = .ok account) :
    b.accounts.find? account.id = some account := by
  simp only [annualAccountGuards, bind_eq_ok, fetch_eq_ok, require_eq_ok, pure_eq_ok,
    Option.bind_eq_some_iff] at h
  obtain ⟨_, ⟨id, -, hfound⟩, _, -, _, -, _, -, _, -, _, -, rfl⟩ := h
  exact Table.find?_of_mem (Table.find?_mem hfound)

theorem grantAnnualSlot_posts {account : Account} {plan : Plan} {invoiceId : String} {slot : Nat}
    (hrow : b.accounts.find? account.id = some account)
    (h : grantAnnualSlot cfg tx b account plan invoiceId slot = .ok b') :
    ∃ balance, Posts account
      ((projectAnnualSlot cfg account plan slot account).withBalance balance) b b' := by
  simp only [grantAnnualSlot, bind_eq_ok, Billing.update_eq_ok, pure_eq_ok, Stored.table,
    Stored.install] at h
  obtain ⟨_, ⟨accounts, haccounts, rfl⟩, b₁, hledger, _, ⟨invoices, -, rfl⟩, ⟨b₂, _⟩, hcollect,
    rfl⟩ := h
  have hgranted : Posts account (projectAnnualSlot cfg account plan slot account) b b₁ := by
    refine Posting.entry (f := projectAnnualSlot cfg account plan slot) hrow (fun _ => rfl)
      haccounts hledger ?_ rfl rfl
    simp only [projectAnnualSlot]
    omega
  have hinvoice : Rebalanced account.id b₁ { b₁ with invoices := invoices } := .of_eq rfl rfl
  obtain ⟨balance, hposted⟩ := Rebalanced.after hgranted
    (hinvoice.trans (collectPackDebtsFromSubscription_rebalanced hcollect))
  exact ⟨balance, hposted⟩

/-- The ends of `grant_due`: it changes nothing, ends the allowance of a closed Invoice, or grants
    one slot. -/
theorem grantDue_eq_ok {accountId : String} {now : Option Int} {snapshot : SubscriptionSnapshot}
    (h : grantDue cfg tx b accountId now snapshot = .ok effect) :
    effect.billing = b ∨ ∃ account plan state,
      annualAccountGuards b accountId (now.getD tx.now) snapshot = .ok account ∧
      annualPlanGuards cfg account accountId snapshot = .ok plan ∧
      account.annualGrantsIssued < annualTargetSlot cfg account (now.getD tx.now) ∧
      b.invoices.find? (account.fundingInvoiceId.getD "None") = some state ∧
      ((state.closed = true ∧ ∃ accounts, b.accounts.update? account.id
            (fun a => { a with annualGrantsAllowed := a.annualGrantsIssued }) = some accounts ∧
          effect.billing = { b with accounts := accounts }) ∨
        (state.closed = false ∧ grantAnnualSlot cfg tx b account plan
          (account.fundingInvoiceId.getD "None")
          (annualTargetSlot cfg account (now.getD tx.now)) = .ok effect.billing)) := by
  rcases Guarded.andThen_eq_ok h with ⟨hb, -⟩ | ⟨⟨account, plan⟩, hguards, h⟩
  · exact .inl hb
  simp only [bind_eq_ok, pure_eq_ok] at hguards
  obtain ⟨_, haccount, _, hplan, heq⟩ := hguards
  cases heq
  simp only [applyAnnualGrant] at h
  -- a slot past the allowance grants nothing, and neither does an unknown Invoice
  split at h
  · rw [pure_eq_ok] at h
    exact .inl (h ▸ rfl)
  case isFalse hslot =>
    split at h
    · rw [pure_eq_ok] at h
      exact .inl (h ▸ rfl)
    case h_2 state hstate =>
      refine .inr ⟨account, plan, state, haccount, hplan, by omega, hstate, ?_⟩
      split at h
      case isTrue hclosed =>
        simp only [bind_eq_ok, Billing.update_eq_ok, pure_eq_ok, Stored.table,
          Stored.install] at h
        obtain ⟨_, ⟨accounts, haccounts, rfl⟩, rfl⟩ := h
        exact .inl ⟨hclosed, accounts, haccounts, rfl⟩
      case isFalse hopen =>
        simp only [bind_eq_ok, pure_eq_ok] at h
        obtain ⟨b₁, hgrant, rfl⟩ := h
        exact .inr ⟨by simpa using hopen, hgrant⟩

/-- **The annual worker** posts one slot, or closes the allowance of a closed Invoice. -/
theorem grantDue_posts {accountId : String} {now : Option Int} {snapshot : SubscriptionSnapshot}
    (h : grantDue cfg tx b accountId now snapshot = .ok effect) :
    Unposted b effect.billing ∨ ∃ a a', Posts a a' b effect.billing ∧
      AnnualStep cfg b (now.getD tx.now) snapshot a a' := by
  rcases grantDue_eq_ok h with hb | ⟨account, plan, state, haccount, hplan, hslot, hstate, hend⟩
  · exact .inl (.of_eq hb)
  have hrow := annualAccountGuards_row haccount
  rcases hend with ⟨hclosed, accounts, haccounts, hb⟩ | ⟨hopen, hgrant⟩
  -- a closed Invoice ends the allowance at what was issued, with no ledger row
  · have hposted := Posting.update
      (f := fun a => { a with annualGrantsAllowed := a.annualGrantsIssued }) hrow haccounts
      (fun _ => rfl) (.refl _ _ b.ledger)
    rw [hb]
    exact .inr ⟨_, _, hposted, .closed haccount hstate hclosed⟩
  -- the slot is granted in one posting
  · obtain ⟨balance, hposted⟩ := grantAnnualSlot_posts hrow hgrant
    exact .inr ⟨_, _, hposted, .granted haccount hplan hslot hstate hopen⟩

/-! ## One account across one transaction -/

/-- What a transaction did to the row of one account. -/
inductive AccountStep (cfg : Config) (db db' : Db) (a a' : Account) : Prop
  | projected {tx : Tx} {e : Event} {result : ProcessResult}
      (h : process cfg tx db e = .ok (db', result)) (hreaches : reachesHandler cfg tx db e = true)
      (hprojected : Projected cfg tx db.billing e a a')
  | credits (h : a'.static = a.static)
  | annual {now : Int} {snapshot : SubscriptionSnapshot}
      (h : AnnualStep cfg db.billing now snapshot a a')
  | stamped (h : a'.unstamped = a.unstamped)

/-- An account moved with the posting, or stayed. -/
theorem Posting.moved {a a' c c' : Account} {k : String} (h : Posts c c' b b')
    (ha : b.accounts.find? k = some a) (ha' : b'.accounts.find? k = some a') :
    (a = c ∧ a' = c') ∨ a' = a := by
  by_cases hk : k = c.id
  · subst hk
    exact .inl ⟨Option.some.inj (ha.symm.trans h.before), Option.some.inj (ha'.symm.trans h.after)⟩
  · exact .inr (Option.some.inj (ha'.symm.trans ((h.others k hk).trans ha)))

/-- A processed Event projects the account, or leaves all but its balance. -/
theorem process_account {db db' : Db} {result : ProcessResult} {a a' : Account} {k : String}
    (h : process cfg tx db e = .ok (db', result))
    (ha : db.billing.accounts.find? k = some a) (ha' : db'.billing.accounts.find? k = some a') :
    a'.static = a.static ∨
      (reachesHandler cfg tx db e = true ∧ Projected cfg tx db.billing e a a') := by
  have hquiet : db'.billing.accounts = db.billing.accounts → a'.static = a.static := by
    intro hsame
    rw [hsame, ha, Option.some.injEq] at ha'
    exact ha' ▸ rfl
  rcases process_cases h with ⟨-, hb⟩ | ⟨hreaches, effect, hdispatch, hb⟩
  · exact .inl (hquiet (hb ▸ rfl))
  · rcases dispatch_posts hdispatch with hunposted | ⟨c, c', hposted, hprojected⟩
    · exact .inl (hquiet (hb ▸ hunposted.accounts))
    · rw [hb] at ha'
      rcases hposted.moved ha ha' with ⟨hsame, hsame'⟩ | hsame
      · exact .inr ⟨hreaches, by rw [hsame, hsame']; exact hprojected⟩
      · exact .inl (hsame ▸ rfl)

/-- **Any transaction** moves an account by one of these steps: an Event posts a projection, a
    credit operation changes its balance alone, the annual worker grants a slot or closes the
    allowance, and everything else at most stamps it. -/
theorem Commits.account {db db' : Db} {a a' : Account} {k : String} (h : Commits cfg db db')
    (ha : db.billing.accounts.find? k = some a) (ha' : db'.billing.accounts.find? k = some a') :
    AccountStep cfg db db' a a' := by
  -- a change of the balance alone is a credits step, whoever is asked about
  have hcredits : ∀ account balance, Posts account (account.withBalance balance) db.billing
      db'.billing → AccountStep cfg db db' a a' := by
    intro account balance hposted
    rcases hposted.moved ha ha' with ⟨hsame, hsame'⟩ | hsame
    · exact .credits (by rw [hsame', hsame, Account.withBalance_static])
    · exact .credits (hsame ▸ rfl)
  -- one case for each kind of transaction
  cases h with
  | @event tx _ _ e result h =>
    rcases process_account h ha ha' with hsame | ⟨hreaches, hprojected⟩
    · exact .credits hsame
    · exact .projected h hreaches hprojected
  | charge h =>
    obtain ⟨account, balance, hposted⟩ := charge_rebalanced h
    exact hcredits account balance hposted
  | refund h =>
    obtain ⟨account, balance, hposted⟩ := refund_rebalanced h
    exact hcredits account balance hposted
  | annual h =>
    rcases grantDue_posts h with hunposted | ⟨c, c', hposted, hstep⟩
    · rw [hunposted.accounts, ha, Option.some.injEq] at ha'
      exact .credits (ha' ▸ rfl)
    -- the worker's account took the annual step, any other stayed
    · rcases hposted.moved ha ha' with ⟨hsame, hsame'⟩ | hsame
      · exact .annual (by rw [hsame, hsame']; exact hstep)
      · exact .credits (hsame ▸ rfl)
  -- outside the books an account keeps all but its stamp
  | outside h =>
    obtain ⟨c, hc, heq⟩ := h.after (Table.find?_mem ha)
    have hid : c.id = a.id := (congrArg Account.id heq :)
    have hkeys : c.id = a'.id :=
      hid.trans ((Table.find?_key ha).trans (Table.find?_key ha').symm)
    have hsame : c = a' := Table.eq_of_key_eq _ hc (Table.find?_mem ha') hkeys
    exact .stamped (hsame ▸ heq)

/-- No transaction deletes an account. -/
theorem Commits.account_isSome {db db' : Db} {a : Account} {k : String} (h : Commits cfg db db')
    (ha : db.billing.accounts.find? k = some a) :
    ∃ a', db'.billing.accounts.find? k = some a' := by
  have hkey : a.id = k := Table.find?_key ha
  -- a posting rewrites one row, under the same id
  have hposts : ∀ c c', Posts c c' db.billing db'.billing →
      ∃ a', db'.billing.accounts.find? k = some a' := by
    intro c c' hposted
    by_cases hk : k = c.id
    · exact ⟨c', hk ▸ hposted.after⟩
    · exact ⟨a, (hposted.others k hk).trans ha⟩
  cases h with
  | event h =>
    rcases process_billing h with hb | ⟨effect, hdispatch, hb⟩
    · exact ⟨a, hb ▸ ha⟩
    · rcases dispatch_posts hdispatch with hunposted | ⟨c, c', hposted, -⟩
      · exact ⟨a, by rw [hb, hunposted.accounts]; exact ha⟩
      · exact hposts c c' (hb ▸ hposted)
  | charge h =>
    obtain ⟨account, balance, hposted⟩ := charge_rebalanced h
    exact hposts _ _ hposted
  | refund h =>
    obtain ⟨account, balance, hposted⟩ := refund_rebalanced h
    exact hposts _ _ hposted
  | annual h =>
    rcases grantDue_posts h with hunposted | ⟨c, c', hposted, -⟩
    · exact ⟨a, hunposted.accounts ▸ ha⟩
    · exact hposts c c' hposted
  | outside h =>
    obtain ⟨c, hc, heq⟩ := h.after (Table.find?_mem ha)
    have hid : c.id = k := (show c.id = a.id from (congrArg Account.id heq :)).trans hkey
    exact ⟨c, hid ▸ Table.find?_of_mem hc⟩

end StripeEntitlements
