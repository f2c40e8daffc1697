import StripeEntitlements.Credits.ServiceFrame
import StripeEntitlements.Processor.Quiet
import StripeEntitlements.Redelivery.Clawbacks
import StripeEntitlements.Runs

/-!
# Recoveries Take Atoms in Every Run

The ledger only ever grows, and no transaction books a recovery that gives atoms. Clawbacks
rely on it: what they already took from a grant is a sum over such rows.

## Main results

- `RecoveriesTake.commits` — one transaction keeps the recoveries taking
- `Reachable.recoveriesTake` — they take in every reachable state
-/

namespace StripeEntitlements

open Relational

variable {cfg : Config} {tx : Tx} {b b' : Billing} {e : Event} {effect : Effect}

namespace RecoveriesTake

theorem insertLedger {b₀ : Billing} {accountId eventId : String} {delta : Int}
    {balanceAfter grantEpoch : Nat} {reason : LedgerReason} {invoiceId : Option String}
    {slot : Option Nat} {units : Nat} (hs : RecoveriesTake b)
    (h : b₀.insertLedger accountId delta balanceAfter reason grantEpoch eventId invoiceId slot
      units = .ok b') (hb₀ : b₀.ledger = b.ledger) (hreason : reason.isRecovery = false) :
    RecoveriesTake b' := by
  rw [Billing.insertLedger, Billing.insert_eq_ok] at h
  obtain ⟨ledger, hinsert, rfl⟩ := h
  intro r hr hrecovery
  simp only [Stored.table, Stored.install, Table.insert?_eq_some.1 hinsert, List.mem_append,
    List.mem_singleton] at hr
  rcases hr with hr | rfl
  · exact hs r (hb₀ ▸ hr) hrecovery
  · exact absurd (hreason.symm.trans hrecovery) Bool.noConfusion

theorem after {b₀ : Billing} (hs : RecoveriesTake b) (h : Settlement b₀ b')
    (hb₀ : b₀.ledger = b.ledger) : RecoveriesTake b' := (hs.of_eq hb₀).settlement h

/-! ## Paid Invoices -/

theorem replayPeriod {p : PaidInvoice} {existing : LedgerRow} (hs : RecoveriesTake b)
    (h : replayPeriod b e p existing = .ok effect) : RecoveriesTake effect.billing := by
  rcases Guarded.andThen_eq_ok h with ⟨hb, -⟩ | ⟨_, -, h⟩
  · rw [hb]
    exact hs
  split at h
  · simp only [bind_eq_ok, Billing.update_eq_ok, pure_eq_ok] at h
    obtain ⟨_, ⟨accounts, -, rfl⟩, rfl⟩ := h
    exact hs.of_eq rfl
  · simp only [bind_eq_ok, pure_eq_ok] at h
    obtain ⟨_, rfl, rfl⟩ := h
    exact hs

theorem completeTransition {p : PaidInvoice} {t : PeriodTerms} {transition : Option PlanChange}
    (hs : RecoveriesTake b) (h : completeTransition b p t transition = .ok effect) :
    RecoveriesTake effect.billing := by
  simp only [StripeEntitlements.completeTransition] at h
  split at h
  · rw [pure_eq_ok] at h
    exact h ▸ hs
  · simp only [bind_eq_ok, pure_eq_ok] at h
    obtain ⟨b₁, hsettle, rfl⟩ := h
    obtain ⟨planChanges, rfl, -⟩ := settleTransition_eq_ok hsettle
    exact hs.of_eq rfl

theorem applyPeriod {p : PaidInvoice} {t : PeriodTerms} {transition : Option PlanChange}
    (hs : RecoveriesTake b) (h : applyPeriod cfg tx b e p t transition = .ok effect) :
    RecoveriesTake effect.billing := by
  obtain ⟨invoices, -, h⟩ := applyPeriod_eq_ok h
  split at h
  · simp only [blockPeriod, bind_eq_ok, Billing.update_eq_ok] at h
    obtain ⟨b₁, hledger, _, ⟨invoices', -, rfl⟩, h⟩ := h
    have hs₁ : RecoveriesTake b₁ := hs.insertLedger hledger rfl rfl
    cases transition with
    | none =>
      simp only [bind_eq_ok, pure_eq_ok] at h
      obtain ⟨_, rfl, rfl⟩ := h
      exact hs₁.of_eq rfl
    | some c =>
      simp only [bind_eq_ok, pure_eq_ok] at h
      obtain ⟨b₂, hsettle, rfl⟩ := h
      obtain ⟨planChanges, rfl, -⟩ := settleTransition_eq_ok hsettle
      exact hs₁.of_eq rfl
  · simp only [grantPeriod, bind_eq_ok, Billing.update_eq_ok] at h
    obtain ⟨_, ⟨accounts, -, rfl⟩, b₁, hledger, _, ⟨invoices', -, rfl⟩, b₂, hsettle,
      hcomplete⟩ := h
    have hs₁ : RecoveriesTake b₁ := hs.insertLedger hledger rfl rfl
    exact (hs₁.after (settlePeriod_settlement hsettle) rfl).completeTransition hcomplete

theorem applyDelta {p : PaidInvoice} {transition : PlanChange} {f : DeltaFunding}
    (hs : RecoveriesTake b) (h : applyDelta tx b e p transition f = .ok effect) :
    RecoveriesTake effect.billing := by
  obtain ⟨invoices, -, ⟨-, hb⟩ | ⟨-, fundings, -, h⟩⟩ := applyDelta_eq_ok h
  · exact hs.of_eq (by rw [hb])
  split at h
  · simp only [blockDelta, bind_eq_ok, Billing.update_eq_ok, pure_eq_ok] at h
    obtain ⟨b₁, hledger, _, ⟨invoices', -, rfl⟩, _, ⟨planChanges, -, rfl⟩, rfl⟩ := h
    have hs₁ : RecoveriesTake b₁ := hs.insertLedger hledger rfl rfl
    exact hs₁.of_eq rfl
  · simp only [grantDelta, bind_eq_ok, Billing.update_eq_ok, pure_eq_ok] at h
    obtain ⟨_, -, _, ⟨accounts, -, rfl⟩, b₁, hledger, _, ⟨invoices', -, rfl⟩, b₂, hsettle,
      _, ⟨planChanges, -, rfl⟩, rfl⟩ := h
    have hs₁ : RecoveriesTake b₁ := hs.insertLedger hledger rfl rfl
    exact (hs₁.after (settleDelta_settlement hsettle) rfl).of_eq rfl

theorem invoicePaid (hs : RecoveriesTake b) (h : invoicePaid cfg tx b e = .ok effect) :
    RecoveriesTake effect.billing := by
  rcases Guarded.andThen_eq_ok h with ⟨hb, -⟩ | ⟨p, -, h⟩
  · rw [hb]
    exact hs
  split at h
  · rcases Guarded.andThen_eq_ok h with ⟨hb, -⟩ | ⟨f, -, h⟩
    · rw [hb]
      exact hs
    · exact hs.applyDelta h
  · rcases Guarded.andThen_eq_ok h with ⟨hb, -⟩ | ⟨t, -, h⟩
    · rw [hb]
      exact hs
    split at h
    · exact hs.replayPeriod h
    · rcases Guarded.andThen_eq_ok h with ⟨hb, -⟩ | ⟨transition, -, h⟩
      · rw [hb]
        exact hs
      · exact hs.applyPeriod h

/-! ## The other transactions -/

theorem subscriptionDeleted (hs : RecoveriesTake b)
    (h : subscriptionDeleted cfg b e = .ok effect) : RecoveriesTake effect.billing := by
  rcases Guarded.andThen_eq_ok h with ⟨hb, -⟩ | ⟨account, -, h⟩
  · rw [hb]
    exact hs
  simp only [applyDeletion, bind_eq_ok, Billing.update_eq_ok] at h
  obtain ⟨_, ⟨accounts, -, rfl⟩, h⟩ := h
  split at h
  · simp only [bind_eq_ok, pure_eq_ok, Billing.updateWhere_eq_ok] at h
    obtain ⟨_, rfl, _, ⟨planChanges, -, rfl⟩, rfl⟩ := h
    exact hs.of_eq rfl
  · simp only [bind_eq_ok, pure_eq_ok, Billing.updateWhere_eq_ok] at h
    obtain ⟨b₁, hledger, _, ⟨planChanges, -, rfl⟩, rfl⟩ := h
    have hs₁ : RecoveriesTake b₁ := hs.insertLedger hledger rfl rfl
    exact hs₁.of_eq rfl

theorem clawed (hs : RecoveriesTake b) (h : Clawed b b') : RecoveriesTake b' := by
  intro r hr hreason
  rcases h.ledger.mem_or hr with hold | hnew
  · exact hs r hold hreason
  · exact hnew.recovery hreason

theorem clawFundedInvoice {account : Account} {f : ClawbackFacts} {state : InvoiceState}
    {grant : LedgerRow} (hs : RecoveriesTake b)
    (h : clawFundedInvoice tx b e account f state grant = .ok effect) :
    RecoveriesTake effect.billing := by
  -- on the way to the grant only the funding row may have been written, not the ledger
  have hclaw : ∀ (b₁ : Billing) (c : ClawbackTarget), clawGrant tx b₁ e c = .ok effect →
      b₁.ledger = b.ledger → RecoveriesTake effect.billing := by
    intro b₁ c h hledger
    have hs₁ : RecoveriesTake b₁ := hs.of_eq hledger
    unfold clawGrant at h
    split at h
    · exact hs₁.clawed (clawEntitlement_clawed h).1
    · rw [pure_eq_ok] at h
      exact h ▸ hs₁
  -- the same branches as in `clawFundedInvoice_eq_ok`
  simp only [StripeEntitlements.clawFundedInvoice] at h
  split at h
  · rw [pure_eq_ok] at h
    exact h ▸ hs
  · split at h
    · exact hclaw _ _ h rfl
    · split at h
      · rw [pure_eq_ok] at h
        exact h ▸ hs
      · simp only [refundFunding, bind_eq_ok, Billing.update_eq_ok] at h
        obtain ⟨_, ⟨fundings, -, rfl⟩, h⟩ := h
        split at h
        · rw [pure_eq_ok] at h
          exact h ▸ hs.of_eq rfl
        · exact hclaw _ _ h rfl

theorem clawback (hs : RecoveriesTake b) (h : clawback cfg tx b e = .ok effect) :
    RecoveriesTake effect.billing := by
  rcases Guarded.andThen_eq_ok h with ⟨hb, -⟩ | ⟨f, -, h⟩
  · rw [hb]
    exact hs
  -- a retained clawback writes the Invoice; a known account may reach the grant
  split at h
  · simp only [retainClawback, bind_eq_ok, pure_eq_ok] at h
    obtain ⟨⟨b₁, state⟩, hrecord, rfl⟩ := h
    obtain ⟨-, invoices, rfl, -⟩ := recordInvoice_eq_ok hrecord
    exact hs.of_eq rfl
  · rcases Guarded.andThen_eq_ok h with ⟨hb, -⟩ | ⟨_, -, h⟩
    · rw [hb]
      exact hs
    simp only [applyClawback, bind_eq_ok] at h
    obtain ⟨⟨b₁, state⟩, hrecord, h⟩ := h
    obtain ⟨-, invoices, rfl, -⟩ := recordInvoice_eq_ok hrecord
    have hs₁ : RecoveriesTake { b with invoices := invoices } := hs.of_eq rfl
    dsimp only at h
    split at h
    · rw [pure_eq_ok] at h
      exact h ▸ hs₁
    · split at h
      · rw [pure_eq_ok] at h
        exact h ▸ hs₁
      · exact hs₁.clawFundedInvoice h

theorem paymentSucceeded (hs : RecoveriesTake b) (h : paymentSucceeded cfg tx b e = .ok effect) :
    RecoveriesTake effect.billing := by
  rcases Guarded.andThen_eq_ok h with ⟨hb, -⟩ | ⟨p, -, h⟩
  · rw [hb]
    exact hs
  obtain ⟨orders, accounts, -, -, ⟨-, heq⟩ | ⟨-, lots, -, hcase⟩⟩ := applyPackPayment_eq_ok h
  · rw [heq]
    exact hs.of_eq rfl
  · rcases hcase with heq | ⟨-, _, hcollect⟩
    · rw [heq]
      exact hs.of_eq rfl
    · exact hs.after (collectPackDebtsFromLot_frame hcollect).settlement rfl

theorem dispatch (hs : RecoveriesTake b) (h : dispatch cfg tx b e = .ok effect) :
    RecoveriesTake effect.billing := by
  have hquiet : Quiet b effect.billing → RecoveriesTake effect.billing := fun hq => hs.of_eq hq.ledger
  unfold StripeEntitlements.dispatch at h
  -- only what writes the ledger has a lemma of its own; the other handlers keep it
  cases hkind : e.kind <;> simp only [hkind] at h
  case paymentIntentSucceeded => exact hs.paymentSucceeded h
  case invoicePaid => exact hs.invoicePaid h
  case invoicePaymentFailed => exact hquiet (paymentFailed_quiet h)
  case customerSubscriptionUpdated => exact hquiet (subscriptionUpdated_quiet h)
  case customerSubscriptionDeleted => exact hs.subscriptionDeleted h
  case chargeRefunded | chargeDisputeCreated =>
    cases hpack : packClawback cfg tx b e with
    | none =>
      rw [hpack] at h
      exact hs.clawback h
    | some run =>
      rw [hpack] at h
      exact hquiet (packClawback_quiet hpack h)
  case checkoutSessionCompleted =>
    cases hpack : packCheckoutEvent cfg b e with
    | none =>
      rw [hpack] at h
      exact hquiet (checkoutCompleted_quiet h)
    | some run =>
      rw [hpack] at h
      exact hquiet (packCheckoutEvent_quiet hpack h)
  case checkoutSessionExpired =>
    cases hpack : packCheckoutEvent cfg b e with
    | none =>
      rw [hpack] at h
      exact hquiet (checkoutExpired_quiet h)
    | some run =>
      rw [hpack] at h
      exact hquiet (packCheckoutEvent_quiet hpack h)
  case unsupported =>
    rw [pure_eq_ok] at h
    exact h ▸ hs

theorem grantDue {accountId : String} {now : Option Int} {snapshot : SubscriptionSnapshot}
    (hs : RecoveriesTake b) (h : grantDue cfg tx b accountId now snapshot = .ok effect) :
    RecoveriesTake effect.billing := by
  rcases Guarded.andThen_eq_ok h with ⟨hb, -⟩ | ⟨⟨account, plan⟩, -, h⟩
  · rw [hb]
    exact hs
  simp only [applyAnnualGrant] at h
  split at h
  · rw [pure_eq_ok] at h
    exact h ▸ hs
  · split at h
    · rw [pure_eq_ok] at h
      exact h ▸ hs
    · split at h
      · simp only [bind_eq_ok, Billing.update_eq_ok, pure_eq_ok] at h
        obtain ⟨_, ⟨accounts, -, rfl⟩, rfl⟩ := h
        exact hs.of_eq rfl
      · simp only [grantAnnualSlot, bind_eq_ok, Billing.update_eq_ok, pure_eq_ok] at h
        obtain ⟨_, ⟨_, ⟨accounts, -, rfl⟩, b₁, hledger, _, ⟨invoices, -, rfl⟩, ⟨b₂, _⟩, hcollect,
          rfl⟩, rfl⟩ := h
        have hs₁ : RecoveriesTake b₁ := hs.insertLedger hledger rfl rfl
        exact hs₁.after (collectPackDebtsFromSubscription_frame hcollect).settlement rfl

/-- **One transaction** books no recovery that gives atoms. -/
theorem commits {db db' : Db} (hs : RecoveriesTake db.billing) (h : Commits cfg db db') :
    RecoveriesTake db'.billing := by
  cases h with
  | event h =>
    rcases process_billing h with hb | ⟨effect, hdispatch, hb⟩
    · exact hb ▸ hs
    · exact hb ▸ hs.dispatch hdispatch
  | charge h => exact hs.settlement (charge_frame h).settlement
  | refund h => exact hs.settlement (refund_frame h).settlement
  | annual h => exact hs.grantDue h
  | outside h => exact hs.of_eq h.ledger

end RecoveriesTake

theorem Reachable.recoveriesTake {db : Db} (h : Reachable cfg db) : RecoveriesTake db.billing :=
  h.invariant (fun _ hr => absurd hr List.not_mem_nil) fun _ _ hcommit hs => hs.commits hcommit

end StripeEntitlements
