import Mathlib.Order.Bounds.Basic
import StripeEntitlements.Scheduled.CivilMonths
import StripeEntitlements.Scheduled.Fairness
import StripeEntitlements.Scheduled.GrantReturns

/-!
# The Windows of an Annual Plan

The scan selects an account by one inequality on the months it was granted; the grant takes
the greatest of twelve month boundaries. Both read the same windows, and the credits of one
window last until the next one begins.

## Main results

- `isDue_iff` — what the scan selects is what the grant finds a slot for
- `annualTargetSlot_isGreatest` — the slot is the last one whose window has begun
- `AnnualService.Selects` — what both services do with a selected account, and with any other
- `annual_selection_agrees` — all of it, with windows that tile the funded period
-/

namespace StripeEntitlements

open Relational

/-! ## Boundaries -/

section

variable {cfg : Config} {a : Account} {anchor now : Int}

theorem annualBoundaries_spec (cfg : Config) (anchor now : Int) :
    annualBoundaries cfg (some anchor) now = 0 ∨
    (1 ≤ annualBoundaries cfg (some anchor) now ∧ annualBoundaries cfg (some anchor) now ≤ 12 ∧
      cfg.addMonths anchor (annualBoundaries cfg (some anchor) now) ≤ now) := by
  have hmax : ∀ xs : List Nat, xs.foldr max 0 = 0 ∨ xs.foldr max 0 ∈ xs := by
    intro xs
    induction xs with
    | nil => exact .inl rfl
    | cons x xs ih =>
      rw [List.foldr_cons]
      rcases Nat.le_total x (xs.foldr max 0) with hle | hle
      · rw [Nat.max_eq_right hle]
        exact ih.imp_right (List.mem_cons_of_mem x)
      · rw [Nat.max_eq_left hle]
        exact .inr List.mem_cons_self
  rcases hmax ((List.range' 1 12).filter fun slot => cfg.addMonths anchor slot ≤ now) with
    hzero | hmem
  · exact .inl hzero
  · right
    obtain ⟨hrange, hpassed⟩ := List.mem_filter.1 hmem
    rw [List.mem_range'_1] at hrange
    exact ⟨hrange.1, Nat.lt_succ_iff.1 hrange.2, of_decide_eq_true hpassed⟩

/-- More months are later. -/
def MonthsAscend (cfg : Config) : Prop := ∀ anchor, StrictMono (cfg.addMonths anchor)

/-- A boundary counts exactly when it has passed. -/
theorem le_annualBoundaries_iff (hmonths : MonthsAscend cfg) {slot : Nat} (hpos : 1 ≤ slot)
    (hle : slot ≤ 12) :
    slot ≤ annualBoundaries cfg (some anchor) now ↔ cfg.addMonths anchor slot ≤ now := by
  constructor
  · intro hslot
    rcases annualBoundaries_spec cfg anchor now with hzero | ⟨-, -, hpassed⟩
    · omega
    · exact ((hmonths anchor).monotone hslot).trans hpassed
  · intro hpassed
    apply le_annualBoundaries _ hpassed
    rw [List.mem_range'_1]
    omega

/-- The counters of a funded annual plan. -/
structure Account.Counts (a : Account) : Prop where
  issued : 1 ≤ a.annualGrantsIssued
  within : a.annualGrantsIssued ≤ a.annualGrantsAllowed
  allowed : a.annualGrantsAllowed ≤ 12

/-- **A slot is left** exactly when the boundary after the granted months has passed. -/
theorem issued_lt_iff (hmonths : MonthsAscend cfg) (ha : a.Counts) :
    a.annualGrantsIssued < annualTargetSlot cfg a now ↔
      a.annualGrantsIssued < a.annualGrantsAllowed ∧
        a.annualAnchor.any (fun anchor => cfg.addMonths anchor a.annualGrantsIssued ≤ now) := by
  have hissued := ha.issued
  have hallowed := ha.allowed
  unfold annualTargetSlot
  cases a.annualAnchor with
  | none =>
    simp only [annualBoundaries, Option.any_none, Bool.false_eq_true, and_false, iff_false]
    omega
  | some anchor =>
    rw [Option.any_some, decide_eq_true_eq,
      ← le_annualBoundaries_iff hmonths hissued (ha.within.trans hallowed)]
    omega

/-- **The slot is the last one whose window has begun**, within what is allowed. The source takes
    the largest boundary that has passed, where the window of the next slot begins; since months
    ascend, no later window has begun. -/
theorem annualTargetSlot_isGreatest (hmonths : MonthsAscend cfg) (ha : a.Counts)
    (hanchor : a.annualAnchor = some anchor)
    (hleft : a.annualGrantsIssued < annualTargetSlot cfg a now) :
    IsGreatest {slot | 1 ≤ slot ∧ slot ≤ a.annualGrantsAllowed ∧
      cfg.addMonths anchor (slot - 1) ≤ now} (annualTargetSlot cfg a now) := by
  have hissued := ha.issued
  have hallowed := ha.allowed
  unfold annualTargetSlot at hleft ⊢
  rw [hanchor] at hleft ⊢
  constructor
  · refine ⟨by omega, by omega, ?_⟩
    rw [← le_annualBoundaries_iff hmonths (by omega) (by omega)]
    omega
  · rintro slot ⟨hpos, hslot, hbegun⟩
    rcases Nat.lt_or_ge slot 2 with hfirst | hlater
    · omega
    · rw [← le_annualBoundaries_iff hmonths (by omega) (by omega)] at hbegun
      omega

end

/-! ## Services -/

/-- One of the two annual services. -/
structure AnnualService where
  planGuards : Account → String → SubscriptionSnapshot → Guarded Plan
  grantDue : Tx → Billing → String → Option Int → SubscriptionSnapshot → Transaction Effect

def pythonAnnualService (cfg : Config) : AnnualService where
  planGuards := annualPlanGuards cfg
  grantDue := grantDue cfg

def TypeScript.annualService (cfg : Config) : AnnualService where
  planGuards := TypeScript.annualPlanGuards cfg
  grantDue := TypeScript.grantDue cfg

/-- An account with an annual funding Invoice. -/
structure Account.Funded (b : Billing) (a : Account) (state : InvoiceState) : Prop
    extends a.Counts where
  row : b.accounts.find? a.id = some a
  canonical : canonicalUuid a.id = some a.id
  funding : ∃ invoiceId, a.fundingInvoiceId = some invoiceId ∧
    b.invoices.find? invoiceId = some state

/-- The snapshot shows the Subscription and the annual plan of the account. -/
structure AnnualService.Matches (service : AnnualService) (a : Account)
    (snapshot : SubscriptionSnapshot) (plan : Plan) : Prop where
  subscription : a.stripeSubscriptionId = some snapshot.subscriptionId
  status : snapshot.status = "active" ∨ snapshot.status = "trialing"
  plan : service.planGuards a a.id snapshot = .ok plan

/-- The credits of the last granted slot last until the next window, or until the period
    ends. -/
structure Account.Window (cfg : Config) (anchor periodEnd : Int) (a : Account) : Prop where
  anchored : a.annualAnchor = some anchor
  ends : a.entitlementPeriodEnd = some periodEnd
  expires : a.creditExpiresAt = some (min periodEnd (cfg.addMonths anchor a.annualGrantsIssued))

section

variable {cfg : Config} {tx : Tx} {b : Billing} {a : Account} {state : InvoiceState}
  {snapshot : SubscriptionSnapshot} {plan : Plan} {effect : Effect} {now anchor periodEnd : Int}

/-- What the guards of the account ask for besides the snapshot. -/
def Account.standing (a : Account) (now : Int) : Bool :=
  a.subscriptionStatus = .active && a.planInterval = some .year && !a.entitlementRevoked &&
    a.entitlementPeriodEnd.any (now < ·)

theorem annualAccountGuards_eq_ok {service : AnnualService} (ha : a.Funded b state)
    (hsnapshot : service.Matches a snapshot plan) :
    annualAccountGuards b a.id now snapshot = .ok a ↔ a.standing now = true := by
  simp only [annualAccountGuards, bind_eq_ok, fetch_eq_ok, require_eq_ok, pure_eq_ok,
    Option.bind_eq_some_iff, Account.standing, Bool.and_eq_true, Bool.or_eq_true,
    decide_eq_true_eq]
  constructor
  · rintro ⟨_, ⟨id, hid, hrow⟩, _, ⟨hstatus, hyear⟩, _, hlive, _, hperiod, -, -, -, -, rfl⟩
    exact ⟨⟨⟨hstatus, hyear⟩, hlive⟩, hperiod⟩
  · rintro ⟨⟨⟨hstatus, hyear⟩, hlive⟩, hperiod⟩
    have hbound : uuidParameter a.id = some a.id := (uuidParameter_canonical ha.canonical).1
    exact ⟨a, ⟨a.id, hbound, ha.row⟩, (), ⟨hstatus, hyear⟩, (), hlive, (), hperiod, (),
      hsnapshot.subscription, (), hsnapshot.status, rfl⟩

/-- **The scan selects** exactly the accounts that the grant finds a slot for. -/
theorem isDue_iff (hmonths : MonthsAscend cfg) (ha : a.Funded b state) :
    a.isDue cfg now = true ↔
      a.standing now = true ∧ a.annualGrantsIssued < annualTargetSlot cfg a now := by
  obtain ⟨invoiceId, hfunding, -⟩ := ha.funding
  rw [issued_lt_iff hmonths ha.toCounts]
  simp only [Account.isDue, Account.standing, hfunding, Option.isSome_some, Bool.and_eq_true,
    decide_eq_true_eq]
  tauto

end

/-! ## A grant -/

section

variable {cfg : Config} {service : AnnualService} {tx : Tx} {b : Billing} {a : Account}
  {state : InvoiceState} {snapshot : SubscriptionSnapshot} {plan : Plan} {effect : Effect}
  {now anchor periodEnd : Int}

/-- The two services. -/
def AnnualService.OfRepository (cfg : Config) (service : AnnualService) : Prop :=
  service = pythonAnnualService cfg ∨ service = TypeScript.annualService cfg

theorem guards_pass {planGuards : Account → String → SubscriptionSnapshot → Guarded Plan}
    (haccount : annualAccountGuards b a.id now snapshot = .ok a)
    (hplan : planGuards a a.id snapshot = .ok plan) :
    (do
      let account ← annualAccountGuards b a.id now snapshot
      let plan ← planGuards account a.id snapshot
      pure (account, plan)) = .ok (a, plan) := by
  rw [haccount]
  change (planGuards a a.id snapshot >>= fun plan => pure (a, plan)) = _
  rw [hplan]
  rfl

/-- Past the guards both services do the same. -/
theorem grantDue_standing (hservice : service.OfRepository cfg) (ha : a.Funded b state)
    (hsnapshot : service.Matches a snapshot plan) (hstanding : a.standing now = true) :
    service.grantDue tx b a.id (some now) snapshot =
      applyAnnualGrant cfg tx b a plan a.id now := by
  have haccount := (annualAccountGuards_eq_ok ha hsnapshot).2 hstanding
  rcases hservice with rfl | rfl
  · have hplan : annualPlanGuards cfg a a.id snapshot = .ok plan := hsnapshot.plan
    simp only [pythonAnnualService, grantDue, Option.getD_some]
    rw [guards_pass haccount hplan]
    rfl
  · have hplan : TypeScript.annualPlanGuards cfg a a.id snapshot = .ok plan := hsnapshot.plan
    simp only [TypeScript.annualService, TypeScript.grantDue, Option.getD_some]
    rw [guards_pass haccount hplan]
    obtain ⟨invoiceId, hfunding, -⟩ := ha.funding
    change TypeScript.applyAnnualGrant cfg tx b a plan a.id now = _
    rw [TypeScript.applyAnnualGrant, if_neg]
    simp [hfunding]

/-- What is left of `grant_due` where it ended normally. -/
theorem grantDue_cases (hservice : service.OfRepository cfg)
    (hrow : b.accounts.find? a.id = some a) (hid : canonicalUuid a.id = some a.id)
    (h : service.grantDue tx b a.id (some now) snapshot = .ok effect) :
    (effect.billing = b ∧ effect.result.outcome = .ignored) ∨
      (a.standing now = true ∧ ∃ plan, applyAnnualGrant cfg tx b a plan a.id now = .ok effect) := by
  -- both services ask for the same account facts before they read the plan
  have hpassed : ∀ {planGuards : Account → String → SubscriptionSnapshot → Guarded Plan}
      {account : Account} {plan : Plan}, (do
        let account ← annualAccountGuards b a.id now snapshot
        let plan ← planGuards account a.id snapshot
        pure (account, plan)) = .ok (account, plan) → account = a ∧ a.standing now = true := by
    intro planGuards account plan hguards
    simp only [bind_eq_ok, pure_eq_ok, Prod.mk.injEq] at hguards
    obtain ⟨_, haccount, _, -, rfl, rfl⟩ := hguards
    have hbound : uuidParameter a.id = some a.id := (uuidParameter_canonical hid).1
    simp only [annualAccountGuards, bind_eq_ok, fetch_eq_ok, require_eq_ok, pure_eq_ok,
      Option.bind_eq_some_iff, hbound, Option.some.injEq, Bool.and_eq_true,
      decide_eq_true_eq] at haccount
    obtain ⟨_, ⟨_, rfl, hfound⟩, _, ⟨hstatus, hyear⟩, _, hlive, _, hperiod, -, -, -, -, rfl⟩ :=
      haccount
    rw [hrow, Option.some.injEq] at hfound
    subst hfound
    simp only [Account.standing, hstatus, hyear, hlive, hperiod, decide_true, Bool.and_self,
      and_self]
  -- Python guards and applies; TypeScript guards with its own plan rules and checks the plan
  -- again
  rcases hservice with rfl | rfl
  · simp only [pythonAnnualService, grantDue, Option.getD_some] at h
    have hdrops : Guarded.Drops (do
        let account ← annualAccountGuards b a.id now snapshot
        let plan ← annualPlanGuards cfg account a.id snapshot
        pure (account, plan)) :=
      .bind annualAccountGuards_drops fun account =>
        .bind annualPlanGuards_drops fun _ => .pure _
    rcases hdrops.andThen h with hstopped | ⟨⟨account, plan⟩, hguards, hok⟩
    -- a stopped guard leaves the database and answers `ignored`
    · exact .inl hstopped
    · obtain ⟨rfl, hstanding⟩ := hpassed hguards
      exact .inr ⟨hstanding, plan, hok⟩
  · simp only [TypeScript.annualService, TypeScript.grantDue, Option.getD_some] at h
    have hdrops : Guarded.Drops (do
        let account ← annualAccountGuards b a.id now snapshot
        let plan ← TypeScript.annualPlanGuards cfg account a.id snapshot
        pure (account, plan)) :=
      .bind annualAccountGuards_drops fun account =>
        .bind TypeScript.annualPlanGuards_drops fun _ => .pure _
    rcases hdrops.andThen h with hstopped | ⟨⟨account, plan⟩, hguards, hok⟩
    · exact .inl hstopped
    · obtain ⟨rfl, hstanding⟩ := hpassed hguards
      simp only [TypeScript.applyAnnualGrant] at hok
      split at hok
      · cases hok
        exact .inl ⟨rfl, rfl⟩
      · exact .inr ⟨hstanding, plan, hok⟩

/-- The credits of a slot that was just granted. -/
theorem projectAnnualSlot_window {slot balance : Nat} (hanchor : a.annualAnchor = some anchor)
    (hends : a.entitlementPeriodEnd = some periodEnd) :
    ((projectAnnualSlot cfg a plan slot a).withBalance balance).Window cfg anchor periodEnd := by
  refine ⟨hanchor, hends, ?_⟩
  simp only [projectAnnualSlot, Account.withBalance, hanchor, hends, Option.map_some]

/-- What `grant_due` did where it had a slot to grant and an open Invoice. -/
theorem applyAnnualGrant_grants (hrow : b.accounts.find? a.id = some a)
    (hleft : a.annualGrantsIssued < annualTargetSlot cfg a now)
    (hopen : ∀ invoice, b.invoices.find? (a.fundingInvoiceId.getD "None") = some invoice →
      invoice.closed = false)
    (hfound : (b.invoices.find? (a.fundingInvoiceId.getD "None")).isSome)
    (h : applyAnnualGrant cfg tx b a plan a.id now = .ok effect) :
    effect.result.outcome = .handled ∧ ∃ balance, effect.billing.accounts.find? a.id =
      some ((projectAnnualSlot cfg a plan (annualTargetSlot cfg a now) a).withBalance balance) := by
  simp only [applyAnnualGrant, if_neg (Nat.not_le.2 hleft)] at h
  split at h
  case h_1 hnone =>
    rw [hnone] at hfound
    cases hfound
  case h_2 invoice hinvoice =>
    rw [hopen invoice hinvoice] at h
    simp only [Bool.false_eq_true, if_false, bind_eq_ok, pure_eq_ok] at h
    obtain ⟨b₁, hgrant, rfl⟩ := h
    obtain ⟨balance, hposted⟩ := grantAnnualSlot_posts hrow hgrant
    exact ⟨rfl, balance, hposted.after⟩

/-- Only a grant is handled. -/
theorem applyAnnualGrant_handled (hrow : b.accounts.find? a.id = some a)
    (h : applyAnnualGrant cfg tx b a plan a.id now = .ok effect)
    (hhandled : effect.result.outcome = .handled) :
    a.annualGrantsIssued < annualTargetSlot cfg a now ∧
      ∃ balance, effect.billing.accounts.find? a.id =
        some ((projectAnnualSlot cfg a plan (annualTargetSlot cfg a now) a).withBalance
          balance) := by
  -- only the last of the four branches answers `handled`
  by_cases hleft : annualTargetSlot cfg a now ≤ a.annualGrantsIssued
  · simp only [applyAnnualGrant, if_pos hleft, pure_eq_ok] at h
    subst h
    cases hhandled
  refine ⟨Nat.lt_of_not_le hleft, ?_⟩
  simp only [applyAnnualGrant, if_neg hleft] at h
  split at h
  · rw [pure_eq_ok] at h
    subst h
    cases hhandled
  · split at h
    · simp only [bind_eq_ok, pure_eq_ok] at h
      obtain ⟨_, -, rfl⟩ := h
      cases hhandled
    · simp only [bind_eq_ok, pure_eq_ok] at h
      obtain ⟨b₁, hgrant, rfl⟩ := h
      obtain ⟨balance, hposted⟩ := grantAnnualSlot_posts hrow hgrant
      exact ⟨balance, hposted.after⟩

end

/-! ## Runs of grants -/

/-- Half-open windows that lead from one instant to another without a gap. -/
inductive Tiles : Int → List (Int × Int) → Int → Prop
  | nil (instant : Int) : Tiles instant [] instant
  | cons {start finish last : Int} {rest : List (Int × Int)} (hlt : start < finish)
      (h : Tiles finish rest last) : Tiles start ((start, finish) :: rest) last

/-- Another transaction kept the columns of the annual schedule. It may have charged, refunded or
    renamed the account. -/
structure Account.SameSchedule (a a' : Account) : Prop where
  anchor : a'.annualAnchor = a.annualAnchor
  ends : a'.entitlementPeriodEnd = a.entitlementPeriodEnd
  expires : a'.creditExpiresAt = a.creditExpiresAt
  issued : a'.annualGrantsIssued = a.annualGrantsIssued
  allowed : a'.annualGrantsAllowed = a.annualGrantsAllowed

theorem Account.SameSchedule.counts {a a' : Account} (h : a.SameSchedule a') (ha : a.Counts) :
    a'.Counts where
  issued := h.issued ▸ ha.issued
  within := by rw [h.issued, h.allowed]; exact ha.within
  allowed := h.allowed ▸ ha.allowed

theorem Account.SameSchedule.window {cfg : Config} {anchor periodEnd : Int} {a a' : Account}
    (h : a.SameSchedule a') (ha : a.Window cfg anchor periodEnd) :
    a'.Window cfg anchor periodEnd where
  anchored := h.anchor.trans ha.anchored
  ends := h.ends.trans ha.ends
  expires := by rw [h.expires, h.issued]; exact ha.expires

/-- A run of worker grants, each at the instant the account becomes due again, with the windows
    of their credits. Between them other transactions may write the account, except for the
    columns of its schedule. -/
inductive GrantRun (service : AnnualService) (id : String) :
    Billing → List (Int × Int) → Billing → Prop
  | nil (b : Billing) : GrantRun service id b [] b
  | other {b b₁ b' : Billing} {windows : List (Int × Int)}
      (h : ∀ a, b.accounts.find? id = some a →
        ∃ a₁, b₁.accounts.find? id = some a₁ ∧ a.SameSchedule a₁)
      (hrun : GrantRun service id b₁ windows b') : GrantRun service id b windows b'
  | grant {b b' : Billing} {tx : Tx} {a a' : Account} {snapshot : SubscriptionSnapshot}
      {effect : Effect} {now expiry : Int} {windows : List (Int × Int)}
      (hrow : b.accounts.find? id = some a) (hdue : a.creditExpiresAt = some now)
      (h : service.grantDue tx b id (some now) snapshot = .ok effect)
      (hhandled : effect.result.outcome = .handled)
      (hrow' : effect.billing.accounts.find? id = some a')
      (hexpiry : a'.creditExpiresAt = some expiry)
      (hrun : GrantRun service id effect.billing windows b') :
      GrantRun service id b ((now, expiry) :: windows) b'

section

variable {cfg : Config} {service : AnnualService} {tx : Tx} {b : Billing} {a : Account}
  {snapshot : SubscriptionSnapshot} {effect : Effect} {now anchor periodEnd : Int}

/-- At the instant an account becomes due, the next slot is the one that is granted. -/
theorem annualTargetSlot_due (hmonths : MonthsAscend cfg) (ha : a.Counts)
    (hanchor : a.annualAnchor = some anchor)
    (hnow : now = cfg.addMonths anchor a.annualGrantsIssued)
    (hleft : a.annualGrantsIssued < annualTargetSlot cfg a now) :
    annualTargetSlot cfg a now = a.annualGrantsIssued + 1 := by
  have hissued := ha.issued
  have hallowed := ha.allowed
  have hboundaries : annualBoundaries cfg (some anchor) now ≤ a.annualGrantsIssued := by
    rcases annualBoundaries_spec cfg anchor now with hzero | ⟨-, -, hpassed⟩
    · omega
    · rw [hnow] at hpassed ⊢
      exact (hmonths anchor).le_iff_le.1 hpassed
  unfold annualTargetSlot at hleft ⊢
  rw [hanchor] at hleft ⊢
  omega

/-- One grant of such a run. -/
theorem grantDue_window (hmonths : MonthsAscend cfg) (hservice : service.OfRepository cfg)
    (hrow : b.accounts.find? a.id = some a) (hid : canonicalUuid a.id = some a.id)
    (ha : a.Counts) (hwindow : a.Window cfg anchor periodEnd) (hdue : a.creditExpiresAt = some now)
    (h : service.grantDue tx b a.id (some now) snapshot = .ok effect)
    (hhandled : effect.result.outcome = .handled) :
    ∃ a', effect.billing.accounts.find? a.id = some a' ∧ a'.Counts ∧
      a'.Window cfg anchor periodEnd ∧ a'.annualGrantsIssued = a.annualGrantsIssued + 1 ∧
      a'.id = a.id ∧ now = cfg.addMonths anchor a.annualGrantsIssued ∧ now < periodEnd := by
  -- the grant was made, so the account stands at `now`
  rcases grantDue_cases hservice hrow hid h with ⟨-, hignored⟩ | ⟨hstanding, plan, hok⟩
  · rw [hhandled] at hignored
    cases hignored
  have hperiod : now < periodEnd := by
    simp only [Account.standing, hwindow.ends, Bool.and_eq_true, Option.any_some,
      decide_eq_true_eq] at hstanding
    exact hstanding.2
  -- the credits expire now, and they expire where slot `issued` begins
  have hnow : now = cfg.addMonths anchor a.annualGrantsIssued := by
    have hexpires := hwindow.expires
    rw [hdue, Option.some.injEq] at hexpires
    omega
  obtain ⟨hleft, balance, hafter⟩ := applyAnnualGrant_handled hrow hok hhandled
  -- so the slot to be granted is the next one
  have hslot := annualTargetSlot_due hmonths ha hwindow.anchored hnow hleft
  refine ⟨_, hafter, ?_, projectAnnualSlot_window hwindow.anchored hwindow.ends, hslot, rfl, hnow,
    hperiod⟩
  have hallowed : annualTargetSlot cfg a now ≤ a.annualGrantsAllowed := by
    unfold annualTargetSlot
    omega
  exact ⟨Nat.le_trans ha.issued hleft.le, hallowed, ha.allowed⟩

/-- What a run of grants leaves. -/
structure Granted (cfg : Config) (anchor periodEnd : Int) (a a' : Account)
    (windows : List (Int × Int)) : Prop where
  counts : a'.Counts
  window : a'.Window cfg anchor periodEnd
  issued : a'.annualGrantsIssued = a.annualGrantsIssued + windows.length
  /-- The windows lead from the expiry of the credits to the expiry of the last ones. -/
  tiles : Tiles (min periodEnd (cfg.addMonths anchor a.annualGrantsIssued)) windows
    (min periodEnd (cfg.addMonths anchor a'.annualGrantsIssued))
  /-- Each begins when its slot becomes due, and ends when the next one does or the period
      is over. -/
  each : ∀ i (h : i < windows.length), windows[i] =
    (cfg.addMonths anchor (a.annualGrantsIssued + i),
      min periodEnd (cfg.addMonths anchor (a.annualGrantsIssued + i + 1)))

/-- **The windows of a run of grants tile** the funded period. By induction on the run: each grant
    begins where the last one ended, and what happens in between keeps the schedule of the account.
    -/
theorem GrantRun.granted {b' : Billing} {id : String} {windows : List (Int × Int)}
    (hmonths : MonthsAscend cfg) (hservice : service.OfRepository cfg)
    (hid : canonicalUuid id = some id) (hrun : GrantRun service id b windows b') :
    ∀ {a : Account}, b.accounts.find? id = some a → a.Counts → a.Window cfg anchor periodEnd →
      ∃ a', b'.accounts.find? id = some a' ∧ Granted cfg anchor periodEnd a a' windows := by
  -- induction on the run; another transaction keeps the schedule, a grant opens the next window
  induction hrun with
  | nil b =>
    intro a hrow ha hwindow
    refine ⟨a, hrow, ha, hwindow, rfl, .nil _, fun i hi => absurd hi (Nat.not_lt_zero i)⟩
  | other hother _ ih =>
    -- the account is the same up to what the schedule does not read
    intro a hrow ha hwindow
    obtain ⟨a₁, hrow₁, hsame⟩ := hother a hrow
    obtain ⟨a', hlast, hgranted⟩ := ih hrow₁ (hsame.counts ha) (hsame.window hwindow)
    refine ⟨a', hlast, hgranted.counts, hgranted.window, ?_, ?_, ?_⟩
    · rw [hgranted.issued, hsame.issued]
    · rw [← hsame.issued]
      exact hgranted.tiles
    · intro i hi
      rw [hgranted.each i hi, hsame.issued]
  | @grant b b' tx a₀ a₁ snapshot effect now expiry rest hrow₀ hdue h hhandled hrow' hexpiry _ ih =>
    intro a hrow ha hwindow
    have hkey : a.id = id := Table.find?_key hrow
    rw [hrow, Option.some.injEq] at hrow₀
    subst hrow₀ hkey
    -- the grant moves the counter by one and leaves the account in its window
    obtain ⟨a₂, hafter, hcounts, hwindow', hissued, -, hnow, hperiod⟩ :=
      grantDue_window hmonths hservice hrow hid ha hwindow hdue h hhandled
    rw [hafter, Option.some.injEq] at hrow'
    subst hrow'
    obtain ⟨a', hlast, hgranted⟩ := ih hafter hcounts hwindow'
    have hexpires := hwindow'.expires
    rw [hexpiry, Option.some.injEq, hissued] at hexpires
    refine ⟨a', hlast, hgranted.counts, hgranted.window, ?_, ?_, ?_⟩
    · rw [hgranted.issued, hissued, List.length_cons]
      omega
    · -- the window of this slot, and then those of the others
      have htiles := hgranted.tiles
      rw [hissued, ← hexpires] at htiles
      have hlater := hmonths anchor (Nat.lt_succ_self a.annualGrantsIssued)
      rw [← hnow, min_eq_right hperiod.le]
      refine .cons ?_ htiles
      rw [hexpires]
      exact lt_min hperiod (hnow ▸ hlater)
    -- the first window begins now, the i-th after it where the i-th later slot does
    · intro i hi
      cases i with
      | zero =>
        rw [List.getElem_cons_zero, hexpires, hnow]
        rfl
      | succ i =>
        rw [List.getElem_cons_succ, hgranted.each i (Nat.lt_of_succ_lt_succ hi), hissued]
        rw [show a.annualGrantsIssued + 1 + i = a.annualGrantsIssued + (i + 1) by omega]

end

/-! ## Selection and grant -/

/-- What the annual worker selects and what it grants. -/
structure AnnualService.Selects (cfg : Config) (service : AnnualService) : Prop where
  /-- A page that is long enough holds every account that is due. -/
  page : ∀ {s : AnnualScan} {now : Int} {limit : Nat} {a : Account},
    s.db.billing.accounts.rows.length ≤ limit →
      (a ∈ dueAccounts cfg s now limit ↔
        a ∈ s.db.billing.accounts.rows ∧ a.isDue cfg now = true)
  /-- An account is due exactly where the grant passes its own guards and finds a slot. -/
  agrees : ∀ {b : Billing} {a : Account} {state : InvoiceState} {snapshot : SubscriptionSnapshot}
    {plan : Plan} (now : Int), a.Funded b state → service.Matches a snapshot plan →
      (a.isDue cfg now = true ↔ annualAccountGuards b a.id now snapshot = .ok a ∧
        a.annualGrantsIssued < annualTargetSlot cfg a now)
  /-- A due account is granted its slot. -/
  grants : ∀ {tx : Tx} {b : Billing} {a : Account} {state : InvoiceState}
    {snapshot : SubscriptionSnapshot} {plan : Plan} {effect : Effect} {now : Int},
      a.Funded b state → service.Matches a snapshot plan → a.isDue cfg now = true →
      state.closed = false → service.grantDue tx b a.id (some now) snapshot = .ok effect →
      effect.result.outcome = .handled ∧ ∃ a' anchor periodEnd,
        effect.billing.accounts.find? a.id = some a' ∧
        a'.annualGrantsIssued = annualTargetSlot cfg a now ∧ a'.Window cfg anchor periodEnd
  /-- The call returns where the ledger does not hold the slot yet and the UUIDs are new. Where the
      Invoice is closed it returns anyway. -/
  returns : ∀ {tx : Tx} {b : Billing} {a : Account} {state : InvoiceState}
    {snapshot : SubscriptionSnapshot} {plan : Plan} {now : Int},
      a.Funded b state → service.Matches a snapshot plan → a.isDue cfg now = true →
      (state.closed = false → b.SlotFree state.invoiceId (annualTargetSlot cfg a now) ∧
        tx.Fresh b ∧ ∀ c ∈ b.allocations.rows, (b.debits.find? c.debitKey).isSome) →
      ∃ effect, service.grantDue tx b a.id (some now) snapshot = .ok effect
  /-- Where its Invoice is closed, no further slot is allowed. -/
  closes : ∀ {tx : Tx} {b : Billing} {a : Account} {state : InvoiceState}
    {snapshot : SubscriptionSnapshot} {plan : Plan} {effect : Effect} {now : Int},
      a.Funded b state → service.Matches a snapshot plan → a.isDue cfg now = true →
      state.closed = true → service.grantDue tx b a.id (some now) snapshot = .ok effect →
      effect.result.reason = some "funding invoice is closed" ∧
        effect.billing.accounts.find? a.id =
          some { a with annualGrantsAllowed := a.annualGrantsIssued }
  /-- Any other account is left alone, whatever the snapshot says. -/
  idles : ∀ {tx : Tx} {b : Billing} {a : Account} {state : InvoiceState}
    {snapshot : SubscriptionSnapshot} {effect : Effect} {now : Int},
      a.Funded b state → a.isDue cfg now = false →
      service.grantDue tx b a.id (some now) snapshot = .ok effect → effect.billing = b
  /-- The slot is the last one whose window has begun, within what is allowed. -/
  greatest : ∀ {b : Billing} {a : Account} {state : InvoiceState} {now anchor : Int},
    a.Funded b state → a.isDue cfg now = true → a.annualAnchor = some anchor →
      IsGreatest {slot | 1 ≤ slot ∧ slot ≤ a.annualGrantsAllowed ∧
        cfg.addMonths anchor (slot - 1) ≤ now} (annualTargetSlot cfg a now)
  /-- The first slot is granted with the Invoice. -/
  opens : ∀ (e : Event) (p : PaidInvoice) (t : PeriodTerms) (state : InvoiceState) (a : Account),
    t.interval = .year →
      (projectPeriod cfg e p t (periodSlots p t state) a).annualGrantsIssued = 1 ∧
      (projectPeriod cfg e p t (periodSlots p t state) a).Window cfg t.periodStart t.periodEnd
  /-- Within the period, the credits of a slot expire at the instant the next one is due. -/
  due : ∀ {b : Billing} {a : Account} {state : InvoiceState} {now anchor periodEnd expiry : Int},
    a.Funded b state → a.Window cfg anchor periodEnd → a.creditExpiresAt = some expiry →
      a.standing now = true → a.annualGrantsIssued < a.annualGrantsAllowed →
        (a.isDue cfg now = true ↔ expiry ≤ now)
  /-- Grants at those instants tile the funded period. -/
  tiles : ∀ {b b' : Billing} {a : Account} {anchor periodEnd : Int} {windows : List (Int × Int)},
    b.accounts.find? a.id = some a → canonicalUuid a.id = some a.id → a.Counts →
      a.Window cfg anchor periodEnd → GrantRun service a.id b windows b' →
      ∃ a', b'.accounts.find? a.id = some a' ∧ Granted cfg anchor periodEnd a a' windows

/-- **The annual worker grants what it selects**, in both services. The inequality of the scan and
    the greatest of twelve boundaries agree at every instant, since more months are later; for the
    same reason each window of credits ends where the next one begins. -/
theorem annual_selection_agrees {cfg : Config} {service : AnnualService}
    (hmonths : MonthsAscend cfg) (hservice : service.OfRepository cfg) :
    service.Selects cfg where
  page := by
    intro s now limit a hlimit
    -- a limit as large as the table cuts nothing off
    have hall : dueAccounts cfg s now limit =
        Table.orderBy (fun a : Account => s.position a.id) (s.due cfg now []) := by
      apply List.take_of_length_le
      rw [(Table.orderBy_perm _ _).length_eq]
      exact (List.length_filter_le _ _).trans hlimit
    rw [hall, Table.mem_orderBy, AnnualScan.due, Table.select, List.mem_filter]
    simp
  agrees now ha hsnapshot := by
    rw [isDue_iff hmonths ha, annualAccountGuards_eq_ok ha hsnapshot]
  grants := by
    intro tx b a state snapshot plan effect now ha hsnapshot hdue hopen h
    -- due means standing and with a slot left, by the arithmetic of the boundaries
    obtain ⟨hstanding, hleft⟩ := (isDue_iff hmonths ha).1 hdue
    obtain ⟨invoiceId, hfunding, hstate⟩ := ha.funding
    rw [grantDue_standing hservice ha hsnapshot hstanding] at h
    have hinvoice : b.invoices.find? (a.fundingInvoiceId.getD "None") = some state := by
      rw [hfunding]
      exact hstate
    -- the funding Invoice is open, so the grant is made
    obtain ⟨hhandled, balance, hafter⟩ := applyAnnualGrant_grants ha.row hleft
      (fun invoice hfound => Option.some.inj (hinvoice.symm.trans hfound) ▸ hopen)
      (by rw [hinvoice]; rfl) h
    have hanchored := ((issued_lt_iff hmonths ha.toCounts).1 hleft).2
    simp only [Account.standing, Bool.and_eq_true] at hstanding
    cases hanchor : a.annualAnchor with
    | none => simp [hanchor] at hanchored
    | some anchor =>
      cases hends : a.entitlementPeriodEnd with
      | none => simp [hends] at hstanding
      | some periodEnd =>
        exact ⟨hhandled, _, anchor, periodEnd, hafter, rfl,
          projectAnnualSlot_window hanchor hends⟩
  returns := by
    intro tx b a state snapshot plan now ha hsnapshot hdue hready
    obtain ⟨hstanding, hleft⟩ := (isDue_iff hmonths ha).1 hdue
    obtain ⟨invoiceId, hfunding, hstate⟩ := ha.funding
    rw [grantDue_standing hservice ha hsnapshot hstanding]
    -- the two branches that are left: the Invoice is closed, or the slot is granted
    simp only [applyAnnualGrant, if_neg (Nat.not_le.2 hleft), hfunding, Option.getD_some, hstate]
    cases hclosed : state.closed with
    | true =>
      -- ending the allowance keeps the account's constraints and its indexes
      obtain ⟨accounts, haccounts⟩ := Table.updateWhere?_isSome (t := b.accounts)
        (p := fun c => Relation.key c = a.id)
        (f := fun c => { c with annualGrantsAllowed := c.annualGrantsIssued }) (fun _ => rfl)
        (by
          intro c hc _
          have hcheck := b.accounts.valid.checked c hc
          simp only [Relation.check, Bool.and_eq_true] at hcheck ⊢
          exact ⟨hcheck.1, hcheck.1⟩)
        (by simp [Relation.indexes])
      exact ⟨_, bind_eq_ok.2 ⟨_, Billing.update_eq_ok.2 ⟨accounts, haccounts, rfl⟩, rfl⟩⟩
    | false =>
      -- no ledger row holds the slot and the charge of the debts returns, so the grant does
      obtain ⟨hfree, hfresh, hcharged⟩ := hready hclosed
      have hinvoice : state.invoiceId = invoiceId := Table.find?_key hstate
      rw [hinvoice] at hfree
      have hissued := ha.issued
      have hlast : annualTargetSlot cfg a now ≤ 12 := Nat.min_le_right _ _
      obtain ⟨b', hgrant⟩ := grantAnnualSlot_returns cfg plan ha.row
        (Nat.le_trans hissued hleft.le) hlast hfree hfresh hcharged
      exact ⟨_, bind_eq_ok.2 ⟨b', hgrant, rfl⟩⟩
  closes := by
    intro tx b a state snapshot plan effect now ha hsnapshot hdue hclosed h
    obtain ⟨hstanding, hleft⟩ := (isDue_iff hmonths ha).1 hdue
    obtain ⟨invoiceId, hfunding, hstate⟩ := ha.funding
    rw [grantDue_standing hservice ha hsnapshot hstanding] at h
    simp only [applyAnnualGrant, if_neg (Nat.not_le.2 hleft), hfunding, Option.getD_some,
      hstate, hclosed, if_true, bind_eq_ok, Billing.update_eq_ok, pure_eq_ok, Stored.table,
      Stored.install] at h
    -- a closed Invoice writes the allowance and nothing else
    obtain ⟨_, ⟨accounts, hupdate, rfl⟩, rfl⟩ := h
    refine ⟨rfl, ?_⟩
    have hfind := Table.find?_update_self hupdate fun _ => rfl
    rw [ha.row] at hfind
    exact hfind
  idles := by
    intro tx b a state snapshot effect now ha hidle h
    -- not due: the guards stop, or no slot is left for the branch
    rcases grantDue_cases hservice ha.row ha.canonical h with ⟨hb, -⟩ | ⟨hstanding, plan, hok⟩
    · exact hb
    have hnone : annualTargetSlot cfg a now ≤ a.annualGrantsIssued := by
      by_contra hleft
      rw [(isDue_iff hmonths ha).2 ⟨hstanding, Nat.lt_of_not_le hleft⟩] at hidle
      cases hidle
    simp only [applyAnnualGrant, if_pos hnone, pure_eq_ok] at hok
    rw [← hok]
  greatest ha hdue hanchor :=
    annualTargetSlot_isGreatest hmonths ha.toCounts hanchor ((isDue_iff hmonths ha).1 hdue).2
  opens := by
    intro e p t state a hyear
    -- the first slot of a year is granted by the paid Invoice itself
    have hslots : (periodSlots p t state).annualAnchor = some t.periodStart ∧
        (periodSlots p t state).annualIssued = 1 := by
      unfold periodSlots
      rw [hyear]
      exact ⟨rfl, rfl⟩
    refine ⟨hslots.2, hslots.1, rfl, ?_⟩
    simp only [projectPeriod, hyear, hslots.2]
  due := by
    intro b a state now anchor periodEnd expiry ha hwindow hexpiry hstanding hleft
    rw [isDue_iff hmonths ha, issued_lt_iff hmonths ha.toCounts, hwindow.anchored]
    -- the credits of the window expire where the next slot begins
    have hexpires := hwindow.expires
    rw [hexpiry, Option.some.injEq] at hexpires
    have hperiod : now < periodEnd := by
      simp only [Account.standing, hwindow.ends, Bool.and_eq_true, Option.any_some,
        decide_eq_true_eq] at hstanding
      exact hstanding.2
    simp only [hstanding, hleft, true_and, Option.any_some, decide_eq_true_eq]
    omega
  tiles hrow hid ha hwindow hrun := hrun.granted hmonths hservice hid hrow ha hwindow

/-! ### The reference calendar -/

/-- Months are added in the calendar of a UTC session. -/
theorem reference_selection_agrees :
    (pythonAnnualService referenceConfig).Selects referenceConfig ∧
      (TypeScript.annualService referenceConfig).Selects referenceConfig :=
  ⟨annual_selection_agrees addCivilMonths_strictMono (.inl rfl),
    annual_selection_agrees addCivilMonths_strictMono (.inr rfl)⟩

end StripeEntitlements
