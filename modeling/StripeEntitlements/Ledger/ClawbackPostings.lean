import StripeEntitlements.Ledger.InvoicePostings
import StripeEntitlements.Redelivery.Clawbacks

/-!
# Postings of Clawbacks

A clawback of the live entitlement takes the refunded share, reverts a closed leaf upgrade,
limits the annual slots and may revoke the entitlement. The four statements run on the row
the one before them left; together they are one posting of the account it locked.

## Main results

- `ClawbackTarget.after` — the account a clawback leaves, its balance apart
- `clawEntitlement_posts` — the statements of `_clawback` post to that account
- `clawback_posts` — and it is the account of the customer the Charge names
-/

namespace StripeEntitlements

open Relational

variable {cfg : Config} {tx : Tx} {b b' : Billing} {e : Event} {effect : Effect}

/-! ## The account a clawback leaves -/

namespace ClawbackTarget

/-- The source plan of a closed leaf upgrade, in a new epoch. -/
def reverted (c : ClawbackTarget) (f : FundingAllocation) (a : Account) : Account :=
  { a with
    planKey := f.sourcePlanKey
    planInterval := some f.sourceInterval
    grantEpoch := c.account.grantEpoch + 1
    entitlementRevoked := false }

/-- The slots the funding Invoice still allows. -/
def fundedAllowed (c : ClawbackTarget) : Nat :=
  if c.state.closed then c.account.annualGrantsIssued else c.slotsAllowed

def limited (c : ClawbackTarget) (a : Account) : Account :=
  { a with
    annualGrantsAllowed :=
      if c.annualFunding then
        min a.annualGrantsAllowed (max c.account.annualGrantsIssued c.fundedAllowed)
      else
        a.annualGrantsAllowed }

/-- The entitlement ends with this clawback. -/
def revokes (c : ClawbackTarget) (leaf : Option FundingAllocation) : Bool :=
  ((c.state.closed && leaf.isNone) || c.annualOvergrant) && !c.account.entitlementRevoked

def revoked (tx : Tx) (a : Account) : Account :=
  { a with
    grantEpoch := a.grantEpoch + 1
    entitlementRevoked := true
    creditExpiresAt := some (min (a.creditExpiresAt.getD tx.now) tx.now) }

/-- The account once its upgrade was reverted and its slots were limited. -/
def settled (c : ClawbackTarget) (leaf : Option FundingAllocation) : Account :=
  c.limited ((leaf.map fun f => c.reverted f c.account).getD c.account)

/-- The account a clawback leaves, its balance apart. -/
def after (c : ClawbackTarget) (tx : Tx) (leaf : Option FundingAllocation) : Account :=
  if c.revokes leaf then revoked tx (c.settled leaf) else c.settled leaf

end ClawbackTarget

/-! ## The statements -/

variable {c : ClawbackTarget} {a : Account}

theorem clawBalance_posts {removed : Nat}
    (hrow : b.accounts.find? c.account.id = some c.account)
    (h : clawBalance tx b e c = .ok (b', removed)) :
    Posts c.account (c.account.withBalance (c.account.creditsBalance - removed)) b b' := by
  unfold clawBalance at h
  split at h
  · simp only [bind_eq_ok, pure_eq_ok] at h
    obtain ⟨b₁, hremove, heq⟩ := h
    cases heq
    exact removeFromBalance_posts hrow (Nat.min_le_right _ _) hremove
  · exact applyClawbackToGrant_posts hrow h

theorem revertLeaf_posts {f : FundingAllocation} (hid : a.id = c.account.id)
    (hrow : b.accounts.find? a.id = some a) (h : revertLeaf b e c f = .ok b') :
    Posts a (c.reverted f a) b b' := by
  simp only [revertLeaf, bind_eq_ok, fetch_eq_ok, Billing.update_eq_ok, Stored.table,
    Stored.install, ← hid] at h
  obtain ⟨current, hcurrent, _, ⟨accounts, haccounts, rfl⟩, _, ⟨fundings, -, rfl⟩, b₁, hledger,
    planChanges, -, rfl⟩ := h
  have hsame : a = current := Option.some.inj (hrow.symm.trans hcurrent)
  subst hsame
  have hposted : Posts a (c.reverted f a) b b₁ := by
    refine .entry hrow (fun _ => rfl) haccounts hledger ?_ rfl rfl
    change (a.creditsBalance : Int) = a.creditsBalance + 0
    omega
  exact hposted

theorem limitAnnualSlots_posts (hid : a.id = c.account.id)
    (hrow : b.accounts.find? a.id = some a) (h : limitAnnualSlots b c = .ok b') :
    Posts a (c.limited a) b b' := by
  unfold limitAnnualSlots at h
  split at h
  case isTrue hannual =>
    rw [Billing.update_eq_ok, ← hid] at h
    obtain ⟨accounts, haccounts, rfl⟩ := h
    have hlimited : c.limited a = { a with
        annualGrantsAllowed := min a.annualGrantsAllowed
          (max c.account.annualGrantsIssued c.fundedAllowed) } := by
      rw [ClawbackTarget.limited, if_pos hannual]
    rw [hlimited]
    exact Posting.update (f := fun a => { a with
      annualGrantsAllowed := min a.annualGrantsAllowed
        (max c.account.annualGrantsIssued c.fundedAllowed) }) hrow haccounts (fun _ => rfl)
        (.refl _ _ _)
  case isFalse hmonthly =>
    rw [pure_eq_ok] at h
    subst h
    have hlimited : c.limited a = a := by
      rw [ClawbackTarget.limited, if_neg hmonthly]
    rw [hlimited]
    exact .refl hrow _

/-- A clawback of the live entitlement posts to the account it locked. -/
theorem clawEntitlement_posts (hrow : b.accounts.find? c.account.id = some c.account)
    (h : clawEntitlement tx b e c = .ok effect) :
    ∃ b₁ removed balance, clawBalance tx b e c = .ok (b₁, removed) ∧
      Posts c.account ((c.after tx (leafDeltaRevert b₁ c)).withBalance balance) b
        effect.billing := by
  obtain ⟨b₁, removed, b₂, b₃, b₄, hb₁, hb₂, hb₃, hb₄, hlast⟩ := clawEntitlement_eq_ok h
  refine ⟨b₁, removed, c.account.creditsBalance - removed, hb₁, ?_⟩
  have h₁ := clawBalance_posts hrow hb₁
  -- each statement runs on the row the last one left, which differs from the row that was
  -- read by its balance alone
  have h₂ : Posts c.account
      (((leafDeltaRevert b₁ c).map fun f => c.reverted f c.account).getD c.account
        |>.withBalance (c.account.creditsBalance - removed)) b b₂ := by
    cases hleaf : leafDeltaRevert b₁ c with
    | none =>
      rw [hleaf] at hb₂
      rw [hb₂]
      exact h₁
    | some f =>
      rw [hleaf] at hb₂
      have hreverted := revertLeaf_posts
        (a := c.account.withBalance (c.account.creditsBalance - removed)) rfl h₁.after hb₂
      exact h₁.trans hreverted
  have h₃ := h₂.trans (limitAnnualSlots_posts h₂.id_eq (h₂.id_eq ▸ h₂.after) hb₃)
  have hbooks : effect.billing.accounts = b₄.accounts ∧ effect.billing.ledger = b₄.ledger := by
    split at hlast
    · rw [Billing.update_eq_ok] at hlast
      obtain ⟨invoices, -, hb⟩ := hlast
      rw [← hb]
      exact ⟨rfl, rfl⟩
    · rw [hlast]
      exact ⟨rfl, rfl⟩
  rw [Posts, hbooks.1, hbooks.2]
  split at hb₄
  case isTrue hrevokes =>
    rw [revokeEntitlement, Billing.update_eq_ok, ← h₃.id_eq] at hb₄
    obtain ⟨accounts, haccounts, rfl⟩ := hb₄
    have hafter := h₃.id_eq ▸ h₃.after
    have h₄ := h₃.trans (Posting.update hafter haccounts (fun _ => rfl) (.refl _ _ b₃.ledger))
    rw [ClawbackTarget.after, if_pos (show c.revokes _ = true from hrevokes)]
    exact h₄
  case isFalse hkeeps =>
    rw [hb₄, ClawbackTarget.after, if_neg (show ¬c.revokes _ = true from hkeeps)]
    exact h₃

/-! ## The whole clawback -/

/-- The rows a clawback reads before it acts on the entitlement. -/
structure ClawbackTarget.Locked (cfg : Config) (b : Billing) (e : Event) (c : ClawbackTarget) :
    Prop where
  guards : clawbackGuards cfg e = .ok c.facts
  account : clawbackAccount b c.facts = some c.account
  owner : clawbackOwner b c.facts c.account = .ok ()
  state : c.state = recordedInvoice b (c.facts.invoice (some c.account.id))
  grant : invoiceGrant b c.facts.invoiceId = some c.grant
  granted : c.grant.accountId = c.account.id
  allocation : fundingOfInvoice b c.facts.invoiceId = c.allocation

theorem ClawbackTarget.Locked.row (h : c.Locked cfg b e) :
    b.accounts.find? c.account.id = some c.account :=
  Table.find?_of_mem (clawbackAccount_mem h.account)

/-- Why a clawback stops once it has recorded the facts of the Invoice. -/
inductive ClawbackStops (b : Billing) (f : ClawbackFacts) (account : Account)
    (state : InvoiceState) : Prop
  | closed (h : state.closed = true) (happlied : state.closureApplied = true)
  | ungranted (h : invoiceGrant b f.invoiceId = none)
  | foreign {grant : LedgerRow} (hgrant : invoiceGrant b f.invoiceId = some grant)
      (h : grant.accountId ≠ account.id)
  | funding {allocation : FundingAllocation}
      (h : fundingOfInvoice b f.invoiceId = some allocation)
  | older {grant : LedgerRow} (hgrant : invoiceGrant b f.invoiceId = some grant)
      (h : grant.grantEpoch ≠ account.grantEpoch)
      (hannual : account.fundingInvoiceId ≠ some f.invoiceId)

theorem clawGrant_eq_ok (h : clawGrant tx b e c = .ok effect) :
    (c.grant.grantEpoch ≠ c.account.grantEpoch ∧
        c.account.fundingInvoiceId ≠ some c.facts.invoiceId ∧ effect.billing = b) ∨
      clawEntitlement tx b e c = .ok effect := by
  unfold clawGrant at h
  split at h
  case isTrue => exact .inr h
  case isFalse holder =>
    rw [pure_eq_ok] at h
    simp only [reachesEntitlement, ClawbackTarget.annualFunding, Bool.or_eq_true,
      decide_eq_true_eq, not_or] at holder
    exact .inl ⟨holder.1.1, holder.1.2, h ▸ rfl⟩

/-- The allocations are those of the same Invoices. -/
def SameUpgrades (t t' : Table FundingAllocation) : Prop :=
  t'.rows.map FundingAllocation.stripeInvoiceId = t.rows.map FundingAllocation.stripeInvoiceId

theorem SameUpgrades.update {t t' : Table FundingAllocation} {k : Nat}
    {g : FundingAllocation → FundingAllocation} (h : t.update? k g = some t')
    (hg : ∀ f, (g f).stripeInvoiceId = f.stripeInvoiceId) : SameUpgrades t t' :=
  Table.map_updateWhere hg h

/-- The facts of a clawback on its Invoice, and on the allocation the Invoice funds. -/
structure RecordsClawback (b : Billing) (facts : InvoiceState) (invoices : Table InvoiceState)
    (fundings : Table FundingAllocation) : Prop extends Records b facts invoices where
  upgrades : SameUpgrades b.fundings fundings

theorem clawFundedInvoice_eq_ok {account : Account} {f : ClawbackFacts} {state : InvoiceState}
    {grant : LedgerRow} (hgrant : invoiceGrant b f.invoiceId = some grant)
    (h : clawFundedInvoice tx b e account f state grant = .ok effect) :
    ∃ fundings, SameUpgrades b.fundings fundings ∧
      ((ClawbackStops b f account state ∧ effect.billing = { b with fundings := fundings }) ∨
        (grant.accountId = account.id ∧
          clawEntitlement tx { b with fundings := fundings } e
            ⟨account, f, state, grant, fundingOfInvoice b f.invoiceId⟩ = .ok effect)) := by
  -- the branches in the source's order: foreign Invoice, no funding, funding refunded,
  -- entitlement
  simp only [clawFundedInvoice] at h
  split at h
  case isTrue hforeign =>
    rw [pure_eq_ok] at h
    exact ⟨b.fundings, rfl, .inl ⟨.foreign hgrant hforeign, h ▸ rfl⟩⟩
  case isFalse howned =>
    rw [ne_eq, not_not] at howned
    -- an Invoice without a funding row goes straight to its grant
    cases hallocation : fundingOfInvoice b f.invoiceId with
    | none =>
      simp only [hallocation] at h
      rcases clawGrant_eq_ok h with ⟨hepoch, hannual, hb⟩ | h
      · exact ⟨b.fundings, rfl, .inl ⟨.older hgrant hepoch hannual, hb⟩⟩
      · exact ⟨b.fundings, rfl, .inr ⟨howned, h⟩⟩
    | some allocation =>
      simp only [hallocation] at h
      -- the funding was removed in full already
      split at h
      case isTrue =>
        rw [pure_eq_ok] at h
        exact ⟨b.fundings, rfl, .inl ⟨.funding hallocation, h ▸ rfl⟩⟩
      case isFalse =>
        simp only [refundFunding, bind_eq_ok, Billing.update_eq_ok, Stored.table,
          Stored.install] at h
        obtain ⟨_, ⟨fundings, hupdate, rfl⟩, h⟩ := h
        refine ⟨fundings, .update hupdate fun _ => rfl, ?_⟩
        split at h
        case isTrue =>
          rw [pure_eq_ok] at h
          exact .inl ⟨.funding hallocation, h ▸ rfl⟩
        -- an older epoch stops here; the current one claws the entitlement
        case isFalse =>
          rcases clawGrant_eq_ok h with ⟨hepoch, hannual, hb⟩ | h
          · exact .inl ⟨.older hgrant hepoch hannual, hb⟩
          · exact .inr ⟨howned, h⟩

/-- The ends of `_clawback`. -/
theorem clawback_eq_ok (h : clawback cfg tx b e = .ok effect) :
    (effect.billing = b ∧ ∀ f, clawbackGuards cfg e = .ok f →
      ∃ account, clawbackAccount b f = some account ∧ clawbackOwner b f account ≠ .ok ()) ∨
    ∃ f invoices, clawbackGuards cfg e = .ok f ∧
      ((clawbackAccount b f = none ∧
          Records b (f.invoice none) invoices ∧
          effect.billing = { b with invoices := invoices }) ∨
        ∃ account fundings, clawbackAccount b f = some account ∧
          clawbackOwner b f account = .ok () ∧
          RecordsClawback b (f.invoice (some account.id)) invoices fundings ∧
          ((ClawbackStops b f account (recordedInvoice b (f.invoice (some account.id))) ∧
              effect.billing = { b with invoices := invoices, fundings := fundings }) ∨
            ∃ c : ClawbackTarget, c.account = account ∧ c.facts = f ∧ c.Locked cfg b e ∧
              clawEntitlement tx { b with invoices := invoices, fundings := fundings } e c =
                .ok effect)) := by
  -- a stopped guard writes nothing
  rcases Guarded.andThen_eq_ok h with ⟨hb, hstop⟩ | ⟨f, hf, h⟩
  · exact .inl ⟨hb, fun f hf => absurd hf (hstop f)⟩
  cases haccount : clawbackAccount b f with
  -- nobody owns the Invoice yet, so its refund facts are retained for later
  | none =>
    simp only [haccount, retainClawback, bind_eq_ok, pure_eq_ok] at h
    obtain ⟨⟨b₁, state⟩, hrecord, rfl⟩ := h
    obtain ⟨rfl, invoices, rfl, hrecords⟩ := recordInvoice_eq_ok hrecord
    exact .inr ⟨f, invoices, hf, .inl ⟨haccount, hrecords, rfl⟩⟩
  | some account =>
    simp only [haccount] at h
    rcases Guarded.andThen_eq_ok h with ⟨hb, hstop⟩ | ⟨⟨⟩, howner, h⟩
    · refine .inl ⟨hb, fun f' hf' => ⟨account, ?_⟩⟩
      cases hf.symm.trans hf'
      exact ⟨haccount, hstop ()⟩
    -- the Invoice facts are recorded before the branches look at them
    simp only [applyClawback, bind_eq_ok] at h
    obtain ⟨⟨b₁, state⟩, hrecord, h⟩ := h
    obtain ⟨rfl, invoices, rfl, hrecords⟩ := recordInvoice_eq_ok hrecord
    -- what follows the recording stops somewhere, or acts on the entitlement with its facts locked
    have hend : ∃ fundings, SameUpgrades b.fundings fundings ∧
        ((ClawbackStops b f account (recordedInvoice b (f.invoice (some account.id))) ∧
            effect.billing = { b with invoices := invoices, fundings := fundings }) ∨
          ∃ c : ClawbackTarget, c.account = account ∧ c.facts = f ∧ c.Locked cfg b e ∧
            clawEntitlement tx { b with invoices := invoices, fundings := fundings } e c =
              .ok effect) := by
      dsimp only at h
      split at h
      -- the closure of the Invoice was applied by an earlier Event
      case isTrue hreplayed =>
        rw [Bool.and_eq_true] at hreplayed
        rw [pure_eq_ok] at h
        exact ⟨b.fundings, rfl, .inl ⟨.closed hreplayed.1 hreplayed.2, h ▸ rfl⟩⟩
      case isFalse =>
        cases hgrant : invoiceGrant { b with invoices := invoices } f.invoiceId with
        | none =>
          simp only [hgrant, pure_eq_ok] at h
          exact ⟨b.fundings, rfl, .inl ⟨.ungranted hgrant, h ▸ rfl⟩⟩
        | some grant =>
          simp only [hgrant] at h
          -- the stop is the same over the recorded Invoice
          obtain ⟨fundings, hupgrades, ⟨hstops, hb⟩ | ⟨hgranted, hrun⟩⟩ :=
            clawFundedInvoice_eq_ok hgrant h
          · refine ⟨fundings, hupgrades, .inl ⟨?_, hb⟩⟩
            cases hstops with
            | closed h happlied => exact .closed h happlied
            | ungranted h => exact .ungranted h
            | foreign hgrant h => exact .foreign hgrant h
            | funding h => exact .funding h
            | older hgrant h hannual => exact .older hgrant h hannual
          · let c : ClawbackTarget := ⟨account, f, recordedInvoice b (f.invoice (some account.id)),
              grant, fundingOfInvoice b f.invoiceId⟩
            have hlocked : c.Locked cfg b e := ⟨hf, haccount, howner, rfl, hgrant, hgranted, rfl⟩
            exact ⟨fundings, hupgrades, .inr ⟨c, rfl, rfl, hlocked, hrun⟩⟩
    obtain ⟨fundings, hupgrades, hend⟩ := hend
    exact .inr ⟨f, invoices, hf, .inr ⟨account, fundings, haccount, howner,
      { hrecords with upgrades := hupgrades }, hend⟩⟩

/-- A leaf upgrade is reverted on the account that still has its target plan. -/
def ClawbackTarget.Reverts (c : ClawbackTarget) (leaf : Option FundingAllocation) : Prop :=
  ∀ f, leaf = some f → c.state.closed = true ∧ c.account.planKey = f.targetPlanKey ∧
    c.account.planInterval = some f.targetInterval ∧ c.account.grantEpoch = f.grantEpoch ∧
    c.allocation = some f

theorem leafDeltaRevert_reverts : c.Reverts (leafDeltaRevert b c) := by
  intro f hf
  simp only [leafDeltaRevert, Option.filter_eq_some_iff, Bool.and_eq_true, decide_eq_true_eq] at hf
  obtain ⟨hallocation, ⟨⟨⟨hclosed, -⟩, hplan⟩, hinterval⟩, hepoch⟩ := hf
  exact ⟨hclosed, hplan, hinterval, hepoch, hallocation⟩

/-- **A clawback** posts at most to the account it locked. -/
theorem clawback_posts (h : clawback cfg tx b e = .ok effect) :
    Unposted b effect.billing ∨
    ∃ (c : ClawbackTarget) (leaf : Option FundingAllocation) (balance : Nat), c.Locked cfg b e ∧
      c.Reverts leaf ∧
      Posts c.account ((c.after tx leaf).withBalance balance) b effect.billing := by
  rcases clawback_eq_ok h with ⟨hb, -⟩ | ⟨f, invoices, hf, ⟨-, -, hb⟩ | ⟨account, fundings, -, -, -,
    ⟨-, hb⟩ | ⟨c, -, -, hlocked, hrun⟩⟩⟩
  · exact .inl (.of_eq hb)
  · rw [hb]
    exact .inl ⟨rfl, rfl⟩
  · rw [hb]
    exact .inl ⟨rfl, rfl⟩
  · have hrow : ({ b with invoices := invoices, fundings := fundings } : Billing).accounts.find?
        c.account.id = some c.account := hlocked.row
    obtain ⟨b₁, -, balance, -, hposted⟩ := clawEntitlement_posts hrow hrun
    exact .inr ⟨c, leafDeltaRevert b₁ c, balance, hlocked, leafDeltaRevert_reverts, hposted⟩

end StripeEntitlements
