import StripeEntitlements.Credits.Unwinding

/-!
# What Charges and Product Refunds Keep

A charge draws from lots and from the subscription balance, a product refund reverses the
allocations of a debit. Both stay inside the credit frame, whatever the tables hold.

## Main results

- `charge_frame` — a charge keeps the credit frame
- `refund_frame` — so does a product refund
-/

namespace StripeEntitlements

open Relational

variable {tx : Tx} {b b' : Billing}

/-! ## Charges -/

theorem expireAccountPackLots_frame {accountId : String} {asOf : Int} {expired : Bool}
    (h : expireAccountPackLots b accountId asOf = .ok (b', expired)) : CreditFrame b b' := by
  simp only [expireAccountPackLots, bind_eq_ok, Billing.updateWhere_eq_ok, pure_eq_ok,
    Stored.table, Stored.install] at h
  obtain ⟨_, ⟨lots, hlots, rfl⟩, heq⟩ := h
  cases heq
  exact .updateLots hlots fun _ => rfl

theorem insertAllocation_frame {key accountId : String} {source : FundingSource} {amount : Nat}
    (h : b.insertAllocation key accountId source amount = .ok b') : CreditFrame b b' := by
  obtain ⟨-, t, ht, rfl⟩ := Billing.insertAllocation_eq_ok.1 h
  exact .insertAllocation ht

theorem drawFromSource_frame {account : Account} {key : String} {source : ChargeSource}
    {used left total total' : Nat}
    (h : drawFromSource account key (b, total) source used left = .ok (b', total')) :
    CreditFrame b b' := by
  cases source with
  | subscription a expiresAt =>
    simp only [drawFromSource, bind_eq_ok, pure_eq_ok] at h
    obtain ⟨b₁, hinsert, heq⟩ := h
    cases heq
    exact insertAllocation_frame hinsert
  | creditPack lot =>
    simp only [drawFromSource, bind_eq_ok, Billing.updateWhere_eq_ok, pure_eq_ok, Stored.table,
      Stored.install] at h
    obtain ⟨_, ⟨lots, hlots, rfl⟩, b₁, hinsert, heq⟩ := h
    cases heq
    have hdraw : CreditFrame b { b with lots := lots } := .updateLots hlots fun _ => rfl
    exact hdraw.trans (insertAllocation_frame hinsert)

theorem chargeSubscription_frame {account : Account} {key : String} {used : Nat}
    (h : chargeSubscription b account key used = .ok b') : CreditFrame b b' := by
  unfold chargeSubscription at h
  split at h
  · rw [pure_eq_ok] at h
    exact h ▸ .refl b
  · simp only [bind_eq_ok, Billing.update_eq_ok, Stored.table, Stored.install] at h
    obtain ⟨_, ⟨accounts, haccounts, rfl⟩, hledger⟩ := h
    have hbalance : CreditFrame b { b with accounts := accounts } :=
      .updateAccount haccounts fun _ => rfl
    exact hbalance.trans (.insertLedger hledger (by simp))

theorem charge_frame {printable : Char → Bool} {accountId idempotencyKey : String} {amount : Nat}
    {result : CreditResult}
    (h : charge printable tx b accountId amount idempotencyKey = .ok (b', result)) :
    CreditFrame b b' := by
  simp only [charge, bind_eq_ok] at h
  obtain ⟨-, -, key, -, account, -, ⟨b₁, expired⟩, hexpire, -, -, h⟩ := h
  have hf₁ := expireAccountPackLots_frame hexpire
  split at h
  · simp only [bind_eq_ok, pure_eq_ok] at h
    obtain ⟨_, -, heq⟩ := h
    cases heq
    exact hf₁
  · simp only [bind_eq_ok, Billing.insert_eq_ok, pure_eq_ok, Stored.table, Stored.install] at h
    obtain ⟨_, ⟨debits, hdebits, rfl⟩, -, -, ⟨⟨b₂, used⟩, left⟩, hdrain, b₃, hsubscription, heq⟩ := h
    cases heq
    have hf₂ : CreditFrame b₁ { b₁ with debits := debits } := .insertDebit hdebits
    have hf₃ := drain_rule
      (P := fun _ (s : Billing × Nat) => CreditFrame { b₁ with debits := debits } s.1) (by
      rintro source used left ⟨s, total⟩ ⟨s', total'⟩ _ _ hs hrun
      exact hs.trans (drawFromSource_frame hrun)) (.refl _) hdrain
    exact ((hf₁.trans hf₂).trans hf₃).trans (chargeSubscription_frame hsubscription)

/-! ## Product refunds -/

theorem markRefunded_frame {allocationId amount : Nat}
    (h : markRefunded b allocationId amount = .ok b') : CreditFrame b b' := by
  rw [markRefunded, Billing.updateWhere_eq_ok] at h
  obtain ⟨t, ht, rfl⟩ := h
  exact .updateAllocations ht fun _ => rfl

theorem refundAllocations_frame {account : Account} {fuel total total' : Nat} {key : String}
    {rows : List Allocation}
    (h : refundAllocations (restoreAllocationEffect tx account fuel) key rows (b, total) =
      .ok (b', total')) : CreditFrame b b' := by
  induction rows generalizing b total with
  | nil =>
    cases h
    exact .refl _
  | cons a rest ih =>
    simp only [refundAllocations] at h
    split at h
    · exact ih h
    · simp only [bind_eq_ok] at h
      obtain ⟨⟨b₁, restored⟩, hrestore, b₂, hmark, h⟩ := h
      have hkept := restoreAllocationEffect_keeps tx account fuel _ _ _ _ _ _ _ _ (.inl rfl) hrestore
      exact (hkept.frame.trans (markRefunded_frame hmark)).trans (ih h)

theorem reverseDebit_frame {account : Account} {debit : Debit} {key : String} {restored : Nat}
    (h : reverseDebit tx b account debit key = .ok (b', restored)) : CreditFrame b b' := by
  simp only [reverseDebit] at h
  split at h
  · split at h
    · exact returnSubscriptionAtoms_frame (.inl rfl) h
    · rw [pure_eq_ok] at h
      cases h
      exact .refl b
  · exact refundAllocations_frame h

theorem refund_frame {printable : Char → Bool} {idempotencyKey : String}
    {expectedAccountId : Option String} {result : CreditResult}
    (h : refund printable tx b idempotencyKey expectedAccountId = .ok (b', result)) :
    CreditFrame b b' := by
  obtain ⟨account, b₁, expired, debit, -, hexpire, -, -, -, hcase⟩ := refund_eq_ok h
  have hf₁ := expireAccountPackLots_frame hexpire
  rcases hcase with ⟨-, rfl, -⟩ | ⟨-, b₂, restored, debits, hreverse, hdebits, rfl, -⟩
  · exact hf₁
  · exact (hf₁.trans (reverseDebit_frame hreverse)).trans (.updateDebit hdebits fun _ => rfl)

end StripeEntitlements
