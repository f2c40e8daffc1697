import StripeEntitlements.Ledger.EventPostings
import StripeEntitlements.Reference

/-!
# The Ledger Audits the Balance

The ledger rows of an account, in id order, start at zero, add up row by row and end at the
balance of the account. Every transaction is a posting or leaves the books alone, so the
statement holds in every state the system can reach.

## Main results

- `Audited` — the invariant, with the two facts about ids it needs
- `Audited.posts` — a posting keeps it
- `ledger_audits_balance` — it holds in every run
-/

namespace StripeEntitlements

open Relational

variable {cfg : Config} {b b' : Billing}

/-! ## The invariant -/

/-- The ledger rows of one account. -/
def Billing.journal (b : Billing) (accountId : String) : List LedgerRow :=
  b.ledger.select fun r => r.accountId = accountId

/-- The rows lead from an empty balance to this one. -/
def Explains (rows : List LedgerRow) (balance : Nat) : Prop :=
  Chain LedgerRow.delta LedgerRow.balanceAfter 0 rows balance

structure Audited (b : Billing) : Prop where
  serial : Serial b.ledger
  /-- `credit_ledger.account_id` references an account. -/
  owned : ∀ r ∈ b.ledger.rows, ∃ a ∈ b.accounts.rows, a.id = r.accountId
  explained : ∀ a ∈ b.accounts.rows, Explains (b.journal a.id) a.creditsBalance

namespace Audited

theorem empty : Audited .empty where
  serial := List.Pairwise.nil
  owned _ hr := absurd hr List.not_mem_nil
  explained _ ha := absurd ha List.not_mem_nil

/-- Appended rows of the account `k` are the end of its journal, and of no other. -/
theorem journal_append {t : Table LedgerRow} {k k' : String} {rows : List LedgerRow}
    (h : b'.ledger.rows = t.rows ++ rows) (hk : ∀ r ∈ rows, r.accountId = k) (ht : b.ledger = t) :
    b'.journal k' = b.journal k' ++ if k' = k then rows else [] := by
  subst ht
  unfold Billing.journal Table.select
  rw [h, List.filter_append]
  congr 1
  split
  case isTrue heq =>
    refine List.filter_eq_self.2 fun r hr => ?_
    rw [heq, decide_eq_true (hk r hr)]
  case isFalse hne =>
    refine List.filter_eq_nil_iff.2 fun r hr => ?_
    rw [hk r hr, decide_eq_true_eq]
    exact fun heq => hne heq.symm

/-- A posting keeps the ledger an audit of the balances. -/
theorem posts {a a' : Account} (hb : Audited b) (h : Posts a a' b b') : Audited b' := by
  obtain ⟨rows, hrows, hk, hchain⟩ := h.entries.rows
  have hid := h.id_eq
  refine ⟨h.entries.serial hb.serial, fun r hr => ?_, fun c hc => ?_⟩
  · -- old rows keep their account, new ones belong to the posted account
    rw [hrows, List.mem_append] at hr
    rcases hr with hold | hnew
    · obtain ⟨c, hc, howner⟩ := hb.owned r hold
      rcases h.mem_cases hc with ⟨rfl, hfind⟩ | ⟨-, hfind⟩
      · exact ⟨a', Table.find?_mem hfind, hid.trans howner⟩
      · exact ⟨c, Table.find?_mem hfind, howner⟩
    · exact ⟨a', Table.find?_mem h.after, hid.trans (hk r hnew).symm⟩
  · rw [journal_append hrows hk rfl]
    rcases h.mem_after hc with rfl | ⟨hother, hold⟩
    · rw [if_pos hid, hid]
      exact (hb.explained a (Table.find?_mem h.before)).append hchain
    · rw [if_neg hother, List.append_nil]
      exact hb.explained c hold

theorem unposted (hb : Audited b) (h : Unposted b b') : Audited b' := by
  obtain ⟨hserial, howned, hexplained⟩ := hb
  unfold Billing.journal at hexplained
  rw [← h.ledger] at hserial howned hexplained
  rw [← h.accounts] at howned hexplained
  exact ⟨hserial, howned, hexplained⟩

/-- An account that was just opened has no balance and no ledger rows. -/
theorem outside (hb : Audited b) (h : Outside b b') : Audited b' := by
  -- the accounts are the old ones, then those that were opened; the ledger is unchanged
  obtain ⟨opened, hrows, hopened⟩ := h.accounts
  have hjournal : ∀ k, b'.journal k = b.journal k := fun k => by
    rw [Billing.journal, h.ledger]
    rfl
  refine ⟨h.ledger ▸ hb.serial, fun r hr => ?_, fun a ha => ?_⟩
  -- a row's owner is still there
  · obtain ⟨c, hc, howner⟩ := hb.owned r (h.ledger ▸ hr)
    have hmem : c.unstamped ∈ b'.accounts.rows.map Account.unstamped := by
      rw [hrows]
      exact List.mem_append_left _ (List.mem_map_of_mem hc)
    obtain ⟨c', hc', heq⟩ := List.mem_map.1 hmem
    exact ⟨c', hc', (show c'.id = c.id from (congrArg Account.id heq :)).trans howner⟩
  · rw [hjournal]
    have hmem : a.unstamped ∈ b.accounts.rows.map Account.unstamped ++ opened :=
      hrows ▸ List.mem_map_of_mem ha
    -- an old account has its old balance and its old journal
    rcases List.mem_append.1 hmem with hold | hnew
    · obtain ⟨c, hc, heq⟩ := List.mem_map.1 hold
      have hid : c.id = a.id := (congrArg Account.id heq :)
      have hbalance : c.creditsBalance = a.creditsBalance :=
        (congrArg Account.creditsBalance heq :)
      rw [← hid, ← hbalance]
      exact hb.explained c hc
    · -- no ledger row can name an account that did not exist
      have hempty : b.journal a.id = [] := by
        refine List.filter_eq_nil_iff.2 fun r hr howner => ?_
        rw [decide_eq_true_eq] at howner
        obtain ⟨c, hc, hcid⟩ := hb.owned r hr
        have hnodup := b'.accounts.valid.keys_nodup
        have hkeys : b'.accounts.rows.map Relation.key =
            b.accounts.rows.map Relation.key ++ opened.map Relation.key := by
          have hmap := congrArg (List.map (Relation.key (R := Account))) hrows
          rw [List.map_append, List.map_map, List.map_map] at hmap
          exact hmap
        rw [hkeys, List.nodup_append] at hnodup
        exact hnodup.2.2 c.id (List.mem_map_of_mem hc) a.unstamped.id (List.mem_map_of_mem hnew)
          (hcid.trans howner)
      have hzero : a.creditsBalance = 0 :=
        (congrArg Account.creditsBalance (hopened _ hnew) : a.unstamped.creditsBalance = 0)
      rw [hempty, hzero]
      exact .nil 0

end Audited

/-! ## All transactions -/

/-- A transaction posts to one account, leaves the books alone, or opens accounts. -/
theorem Commits.posts {db db' : Db} (h : Commits cfg db db') :
    Unposted db.billing db'.billing ∨ (∃ a a', Posts a a' db.billing db'.billing) ∨
      Outside db.billing db'.billing := by
  cases h with
  | event h =>
    rcases process_billing h with hb | ⟨effect, hdispatch, hb⟩
    · exact .inl (.of_eq hb)
    · rw [hb]
      rcases dispatch_posts hdispatch with hquiet | ⟨a, a', hposted, -⟩
      · exact .inl hquiet
      · exact .inr (.inl ⟨a, a', hposted⟩)
  | charge h =>
    obtain ⟨account, balance, hposted⟩ := charge_rebalanced h
    exact .inr (.inl ⟨_, _, hposted⟩)
  | refund h =>
    obtain ⟨account, balance, hposted⟩ := refund_rebalanced h
    exact .inr (.inl ⟨_, _, hposted⟩)
  | annual h =>
    rcases grantDue_posts h with hquiet | ⟨a, a', hposted, -⟩
    · exact .inl hquiet
    · exact .inr (.inl ⟨a, a', hposted⟩)
  | outside h => exact .inr (.inr h)

theorem Audited.commits {db db' : Db} (hdb : Audited db.billing) (h : Commits cfg db db') :
    Audited db'.billing := by
  rcases h.posts with hquiet | ⟨a, a', hposted⟩ | houtside
  · exact hdb.unposted hquiet
  · exact hdb.posts hposted
  · exact hdb.outside houtside

theorem Reachable.audited {db : Db} (h : Reachable cfg db) : Audited db.billing :=
  h.invariant .empty fun _ _ hcommit hdb => hdb.commits hcommit

/-- The journal is already in id order. -/
theorem Audited.journal_ordered (hb : Audited b) (accountId : String) :
    Table.orderBy LedgerRow.id (b.journal accountId) = b.journal accountId := by
  have hserial : (b.journal accountId).Pairwise fun r r' => r.id < r'.id :=
    List.Pairwise.filter _ hb.serial
  refine Table.orderBy_eq_of_perm (fun r hr r' hr' heq => ?_)
    (hserial.imp fun hlt => hlt.le) (.refl _)
  exact b.ledger.eq_of_key_eq (List.mem_filter.1 hr).1 (List.mem_filter.1 hr').1 heq

/-- **The ledger is an exact audit of the balance.** In every state the system can reach, the
    ledger rows of an account in id order start at zero, add up row by row, and the last one
    shows the balance of the account. -/
theorem ledger_audits_balance {db : Db} (h : Reachable cfg db) {a : Account}
    (ha : a ∈ db.billing.accounts.rows) :
    let journal := Table.orderBy LedgerRow.id
      (db.billing.ledger.select fun r => r.accountId = a.id)
    Chain LedgerRow.delta LedgerRow.balanceAfter 0 journal a.creditsBalance ∧
      (∀ r ∈ journal, (0 : Int) ≤ r.balanceAfter) ∧
      (journal.getLast?.map LedgerRow.balanceAfter).getD 0 = a.creditsBalance := by
  have haudited := h.audited
  intro journal
  have hchain : Chain LedgerRow.delta LedgerRow.balanceAfter 0 journal a.creditsBalance := by
    have hordered : journal = db.billing.journal a.id := haudited.journal_ordered a.id
    rw [hordered]
    exact haudited.explained a ha
  exact ⟨hchain, fun r _ => Int.natCast_nonneg _, hchain.last.symm⟩

/-- A paid period of which half is refunded: two rows lead to the balance. -/
theorem ledger_audits_balance_paidFirst :
    ∃ (db : Db) (a : Account), a ∈ db.billing.accounts.rows ∧ a.creditsBalance = 500000000 ∧
      Chain LedgerRow.delta LedgerRow.balanceAfter 0
        (Table.orderBy LedgerRow.id (db.billing.ledger.select fun r => r.accountId = a.id))
        a.creditsBalance := by
  have hok : (processAll referenceConfig ⟨0, 0, fun _ => ""⟩ (checkoutDb "pro" .month)
      [paidFirst, refundedCharge "evt_half" "in_1" 300 4900 2450]).map
      (fun db => db.billing.accounts.rows.map Account.creditsBalance) = .ok [500000000] := by
    decide +kernel
  rw [map_eq_ok] at hok
  obtain ⟨db, hrun, hbalances⟩ := hok
  obtain ⟨a, hrows, hbalance⟩ := List.map_eq_singleton_iff.1 hbalances
  have ha : a ∈ db.billing.accounts.rows := hrows ▸ List.mem_singleton_self a
  have hreach : Reachable referenceConfig db := (checkoutDb_reachable _ _).processAll hrun
  exact ⟨db, a, ha, hbalance, (ledger_audits_balance hreach ha).1⟩

end StripeEntitlements
