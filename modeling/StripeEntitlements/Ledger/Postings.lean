import StripeEntitlements.Credits.CreditFrame
import StripeEntitlements.Relational.Chain

/-!
# Postings

The code writes the balance of an account and its ledger rows in separate statements, often
from a row it read before. A posting is what a whole operation comes to: one account row
changed, no other row was touched, and the ledger rows that were appended lead from the old
balance to the new one.

## Main results

- `Posts` — one account moved, with the ledger rows that explain it
- `Rebalanced` — a posting that changes nothing but the balance
- `collectClawbackDebts_posts`, `collectPackDebtsFromSubscription_posts`,
  `returnSubscriptionAtoms_posts` — the credit operations are postings
-/

namespace StripeEntitlements

open Relational

/-! ## Entries -/

/-- The ledger ids grow in insertion order. -/
def Serial (t : Table LedgerRow) : Prop := t.rows.Pairwise fun r r' => r.id < r'.id

/-- Only rows of the account `k` were appended; they lead from one balance to the other. -/
structure Entries (k : String) (balance balance' : Nat) (t t' : Table LedgerRow) : Prop where
  rows : ∃ rows, t'.rows = t.rows ++ rows ∧ (∀ r ∈ rows, r.accountId = k) ∧
    Chain LedgerRow.delta LedgerRow.balanceAfter balance rows balance'
  serial : Serial t → Serial t'

namespace Entries

variable {k : String} {x y z : Nat} {t t' t'' : Table LedgerRow} {b b' : Billing}

theorem refl (k : String) (x : Nat) (t : Table LedgerRow) : Entries k x x t t where
  rows := ⟨[], (List.append_nil _).symm, fun _ hr => absurd hr List.not_mem_nil, .nil x⟩
  serial := id

theorem trans (h : Entries k x y t t') (h' : Entries k y z t' t'') : Entries k x z t t'' where
  rows := by
    obtain ⟨rows, hrows, hk, hchain⟩ := h.rows
    obtain ⟨rows', hrows', hk', hchain'⟩ := h'.rows
    refine ⟨rows ++ rows', by rw [hrows', hrows, List.append_assoc], fun r hr => ?_,
      hchain.append hchain'⟩
    rcases List.mem_append.1 hr with hr | hr
    · exact hk r hr
    · exact hk' r hr
  serial hs := h'.serial (h.serial hs)

/-- One `insert into credit_ledger` whose balance is the old one and its change. -/
theorem insertLedger {delta : Int} {reason : LedgerReason} {epoch units : Nat} {eventId : String}
    {invoiceId : Option String} {slot : Option Nat}
    (h : b.insertLedger k delta y reason epoch eventId invoiceId slot units = .ok b')
    (hdelta : (y : Int) = x + delta) :
    Entries k x y b.ledger b'.ledger ∧ b'.accounts = b.accounts := by
  rw [Billing.insertLedger, Billing.insert_eq_ok] at h
  obtain ⟨ledger, hinsert, rfl⟩ := h
  have hrows := Table.insert?_eq_some.1 hinsert
  refine ⟨⟨⟨_, hrows, by simp, .single hdelta⟩, fun hs => ?_⟩, rfl⟩
  -- the serial number is above every id drawn so far
  unfold Serial
  simp only [Stored.table, Stored.install] at hrows ⊢
  rw [hrows, List.pairwise_append]
  refine ⟨hs, List.pairwise_singleton _ _, fun r hr r' hr' => ?_⟩
  rw [List.mem_singleton] at hr'
  subst hr'
  exact lt_nextSerial hr

end Entries

/-! ## Postings -/

/-- The row `a` became `a'`, every other account stayed, and the ledger explains it. -/
structure Posting (a a' : Account) (t t' : Table Account) (l l' : Table LedgerRow) : Prop where
  before : t.find? a.id = some a
  after : t'.find? a.id = some a'
  others : ∀ k, k ≠ a.id → t'.find? k = t.find? k
  entries : Entries a.id a.creditsBalance a'.creditsBalance l l'

/-- A posting between two states. -/
abbrev Posts (a a' : Account) (b b' : Billing) : Prop :=
  Posting a a' b.accounts b'.accounts b.ledger b'.ledger

namespace Posting

variable {a a' a'' : Account} {t t' t'' : Table Account} {l l' l'' : Table LedgerRow}

theorem id_eq (h : Posting a a' t t' l l') : a'.id = a.id := Table.find?_key h.after

theorem refl (h : t.find? a.id = some a) (l : Table LedgerRow) : Posting a a t t l l where
  before := h
  after := h
  others _ _ := rfl
  entries := .refl _ _ _

theorem trans (h : Posting a a' t t' l l') (h' : Posting a' a'' t' t'' l' l'') :
    Posting a a'' t t'' l l'' where
  before := h.before
  after := h.id_eq ▸ h'.after
  others k hk := (h'.others k (h.id_eq ▸ hk)).trans (h.others k hk)
  entries := h.entries.trans (h.id_eq ▸ h'.entries)

/-- One account row is rewritten together with the ledger rows that explain the change. -/
theorem update {f : Account → Account} (ha : t.find? a.id = some a)
    (h : t.update? a.id f = some t') (hid : ∀ a, (f a).id = a.id)
    (he : Entries a.id a.creditsBalance (f a).creditsBalance l l') :
    Posting a (f a) t t' l l' where
  before := ha
  after := by
    have hfind := Table.find?_update_self h hid
    rwa [ha] at hfind
  others k hk := Table.find?_update_ne h hid hk
  entries := he

/-- A row of another account survives. -/
theorem find?_other (h : Posting a a' t t' l l') {c : Account} (hc : c ∈ t.rows)
    (hne : c.id ≠ a.id) : t'.find? c.id = some c :=
  (h.others c.id hne).trans (Table.find?_of_mem hc)

/-- Every account is found again: the posted one changed, any other as it was. -/
theorem mem_cases (h : Posting a a' t t' l l') {c : Account} (hc : c ∈ t.rows) :
    (c = a ∧ t'.find? c.id = some a') ∨ (c.id ≠ a.id ∧ t'.find? c.id = some c) := by
  by_cases hid : c.id = a.id
  · have heq : c = a := t.eq_of_key_eq hc (Table.find?_mem h.before) hid
    exact .inl ⟨heq, heq ▸ h.after⟩
  · exact .inr ⟨hid, h.find?_other hc hid⟩

/-- Every account afterwards is the posted one, or was there before. -/
theorem mem_after (h : Posting a a' t t' l l') {c : Account} (hc : c ∈ t'.rows) :
    c = a' ∨ (c.id ≠ a.id ∧ c ∈ t.rows) := by
  by_cases hid : c.id = a.id
  · exact .inl (t'.eq_of_key_eq hc (Table.find?_mem h.after) (hid.trans h.id_eq.symm))
  · exact .inr ⟨hid, Table.find?_mem ((h.others c.id hid).symm.trans (Table.find?_of_mem hc))⟩

end Posting

/-! ## Postings of the balance alone -/

/-- The account with another balance. -/
def Account.withBalance (a : Account) (balance : Nat) : Account :=
  { a with creditsBalance := balance }

@[simp] theorem Account.withBalance_id (a : Account) (n : Nat) : (a.withBalance n).id = a.id := rfl

@[simp] theorem Account.withBalance_balance (a : Account) (n : Nat) :
    (a.withBalance n).creditsBalance = n := rfl

@[simp] theorem Account.withBalance_withBalance (a : Account) (m n : Nat) :
    (a.withBalance m).withBalance n = a.withBalance n := rfl

@[simp] theorem Account.withBalance_self (a : Account) : a.withBalance a.creditsBalance = a := rfl

@[simp] theorem Account.withBalance_static (a : Account) (n : Nat) :
    (a.withBalance n).static = a.static := rfl

/-- The account `k` at most got another balance. -/
def Rebalanced (k : String) (b b' : Billing) : Prop :=
  ∀ a, b.accounts.find? k = some a → ∃ balance, Posts a (a.withBalance balance) b b'

namespace Rebalanced

variable {k : String} {b b' b'' : Billing}

theorem of_eq (haccounts : b'.accounts = b.accounts) (hledger : b'.ledger = b.ledger) :
    Rebalanced k b b' := by
  intro a ha
  have hid : a.id = k := Table.find?_key ha
  subst hid
  refine ⟨a.creditsBalance, ?_⟩
  rw [Posts, haccounts, hledger]
  exact .refl ha _

theorem refl (k : String) (b : Billing) : Rebalanced k b b := of_eq rfl rfl

theorem trans (h : Rebalanced k b b') (h' : Rebalanced k b' b'') : Rebalanced k b b'' := by
  intro a ha
  have hid : a.id = k := Table.find?_key ha
  subst hid
  obtain ⟨x, hx⟩ := h a ha
  obtain ⟨y, hy⟩ := h' _ hx.after
  exact ⟨y, hx.trans hy⟩

/-- A posting followed by a change of the balance. -/
theorem after {a a' : Account} (hp : Posts a a' b b') (h : Rebalanced a.id b' b'') :
    ∃ balance, Posts a (a'.withBalance balance) b b'' := by
  obtain ⟨y, hy⟩ := h a' hp.after
  exact ⟨y, hp.trans hy⟩

end Rebalanced

variable {tx : Tx} {b b' : Billing}

/-! ## Collectors -/

/-- A collector loop leaves the accounts alone and books every atom it takes. -/
structure Collected (k : String) (b b' : Billing) (x y : Nat) : Prop where
  accounts : b'.accounts = b.accounts
  entries : Entries k x y b.ledger b'.ledger
  le : y ≤ x

/-- The end of a collector: the balance the loop left is written to the account. -/
theorem Collected.posts {k : String} {a : Account} {b₁ : Billing} {left : Nat}
    (ha : b.accounts.find? k = some a) (h : Collected k b b₁ a.creditsBalance left)
    (hend : (left = a.creditsBalance ∧ b' = b₁) ∨
      ∃ accounts, b₁.accounts.update? k (fun a => { a with creditsBalance := left }) =
          some accounts ∧ b' = { b₁ with accounts := accounts }) :
    Posts a (a.withBalance left) b b' := by
  have hid : a.id = k := Table.find?_key ha
  subst hid
  have hentries := h.entries
  rcases hend with ⟨rfl, rfl⟩ | ⟨accounts, haccounts, rfl⟩
  · refine ⟨ha, ?_, fun c _ => ?_, hentries⟩
    · rw [h.accounts]
      exact ha
    · rw [h.accounts]
  · rw [h.accounts] at haccounts
    exact .update ha haccounts (fun _ => rfl) hentries

theorem collectClawbackDebts_collected {k eventId : String} {epoch x left : Nat} {b₁ : Billing}
    {debts : List ClawbackDebt}
    (h : drain ClawbackDebt.outstanding (collectClawbackDebt k epoch eventId) debts x b =
      .ok (b₁, left)) : Collected k b b₁ x left := by
  refine drain_rule (P := fun left s => Collected k b s x left) ?_ ⟨rfl, .refl _ _ _, le_refl x⟩ h
  intro debt amount left s s' _ _ hs hrun
  simp only [collectClawbackDebt, bind_eq_ok, Billing.update_eq_ok] at hrun
  obtain ⟨_, ⟨debts, -, rfl⟩, hledger⟩ := hrun
  obtain ⟨hentries, haccounts⟩ := Entries.insertLedger (x := amount + left) hledger (by omega)
  exact ⟨haccounts.trans hs.accounts, hs.entries.trans hentries, by have := hs.le; omega⟩

theorem collectClawbackDebts_posts {k eventId : String} {epoch collected : Nat} {a : Account}
    (ha : b.accounts.find? k = some a)
    (h : collectClawbackDebts b k epoch eventId = .ok (b', collected)) :
    Posts a (a.withBalance (a.creditsBalance - collected)) b b' := by
  obtain ⟨a', b₁, left, ha', hdrain, rfl, hend⟩ := collectClawbackDebts_eq_ok h
  rw [ha, Option.some.injEq] at ha'
  subst ha'
  have hloop := collectClawbackDebts_collected hdrain
  have hle := hloop.le
  rw [show a.creditsBalance - (a.creditsBalance - left) = left by omega]
  exact hloop.posts ha (hend.imp_left fun hzero => ⟨by omega, hzero.2⟩)

theorem collectPackDebt_accounts {epoch amount : Nat} {lotId : Option String} {debt : PackDebt}
    (h : collectPackDebt tx epoch lotId b debt amount = .ok b') :
    b'.accounts = b.accounts ∧ b'.ledger = b.ledger ∧ b'.clawbackDebts = b.clawbackDebts := by
  obtain ⟨debts, debits, allocations, -, -, -, -, rfl⟩ := collectPackDebt_eq_ok h
  exact ⟨rfl, rfl, rfl⟩

theorem collectPackDebtsFromSubscription_collected {k eventId : String} {epoch x left : Nat}
    {b₁ : Billing} {debts : List PackDebt}
    (h : drain PackDebt.outstanding (fun b debt amount balance => do
        let b ← collectPackDebt tx epoch none b debt amount
        b.insertLedger k (-amount) balance .creditPackDebtCollection epoch eventId none none 0)
      debts x b = .ok (b₁, left)) : Collected k b b₁ x left := by
  refine drain_rule (P := fun left s => Collected k b s x left) ?_ ⟨rfl, .refl _ _ _, le_refl x⟩ h
  intro debt amount left s s' _ _ hs hrun
  simp only [bind_eq_ok] at hrun
  obtain ⟨s₁, hcollect, hledger⟩ := hrun
  obtain ⟨haccounts₁, hledger₁, -⟩ := collectPackDebt_accounts hcollect
  obtain ⟨hentries, haccounts⟩ := Entries.insertLedger (x := amount + left) hledger (by omega)
  rw [hledger₁] at hentries
  exact ⟨(haccounts.trans haccounts₁).trans hs.accounts, hs.entries.trans hentries,
    by have := hs.le; omega⟩

theorem collectPackDebtsFromSubscription_posts {k eventId : String} {epoch collected : Nat}
    {a : Account} (ha : b.accounts.find? k = some a)
    (h : collectPackDebtsFromSubscription tx b k epoch eventId = .ok (b', collected)) :
    Posts a (a.withBalance (a.creditsBalance - collected)) b b' := by
  obtain ⟨a', b₁, left, ha', hdrain, rfl, hend⟩ := collectPackDebtsFromSubscription_eq_ok h
  rw [ha, Option.some.injEq] at ha'
  subst ha'
  have hloop := collectPackDebtsFromSubscription_collected hdrain
  have hle := hloop.le
  rw [show a.creditsBalance - (a.creditsBalance - left) = left by omega]
  exact hloop.posts ha hend

theorem collectClawbackDebts_rebalanced {k eventId : String} {epoch collected : Nat}
    (h : collectClawbackDebts b k epoch eventId = .ok (b', collected)) : Rebalanced k b b' :=
  fun _ ha => ⟨_, collectClawbackDebts_posts ha h⟩

theorem collectPackDebtsFromSubscription_rebalanced {k eventId : String} {epoch collected : Nat}
    (h : collectPackDebtsFromSubscription tx b k epoch eventId = .ok (b', collected)) :
    Rebalanced k b b' :=
  fun _ ha => ⟨_, collectPackDebtsFromSubscription_posts ha h⟩

/-! ## Returns -/

/-- The return is booked on the row as it is now, not on the one the caller read. -/
theorem returnSubscriptionAtoms_posts {account : Account} {amount returned : Nat}
    {eventId : String} {reason : LedgerReason}
    (h : returnSubscriptionAtoms tx b account amount eventId reason = .ok (b', returned)) :
    Rebalanced account.id b b' := by
  rcases returnSubscriptionAtoms_eq_ok h with ⟨-, rfl, -⟩ |
    ⟨-, -, current, accounts, b₁, b₂, c₁, c₂, hcurrent, haccounts, hledger, hclaw, hpack⟩
  · exact .refl _ _
  intro a ha
  rw [ha, Option.some.injEq] at hcurrent
  subst hcurrent
  have hid : a.id = account.id := Table.find?_key ha
  rw [← hid] at haccounts hledger hclaw hpack ha
  obtain ⟨hentries, hsame⟩ := Entries.insertLedger (x := a.creditsBalance) hledger (by omega)
  have hbooked : Posts a (a.withBalance (a.creditsBalance + amount)) b b₁ := by
    rw [Posts, hsame]
    exact .update ha haccounts (fun _ => rfl) hentries
  have hrest : Rebalanced a.id b₁ b' :=
    (collectClawbackDebts_rebalanced hclaw).trans
      (collectPackDebtsFromSubscription_rebalanced hpack)
  obtain ⟨balance, hposted⟩ := Rebalanced.after hbooked hrest
  exact ⟨balance, hposted⟩

end StripeEntitlements
