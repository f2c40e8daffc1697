import StripeEntitlements.Credits.FirstExpiring
import StripeEntitlements.Reference

/-!
# Charging in Two Runtimes

`CreditService.charge` of `credits.ts`. It sorts nothing: it reads the lots in the order of
their expiry, charges those that expire with the subscription or before it, then the
subscription, then the later lots. This is the order Python sorts its sources into, so both
runtimes leave the same rows.

## Main results

- `chargeSources_partition` — the sorted sources are the partition
- `charge_agrees` — the charges both runtimes accept, and the rows they write
- `charge_contract` — a charge spends first-expiring-first and is atomic
-/

namespace StripeEntitlements

open Relational

/-! ## TypeScript -/

namespace TypeScript

/-- `subscriptionSpendable`. -/
def subscriptionSpendable (account : Account) (asOf : Int) : Bool :=
  account.subscriptionStatus = .active && account.entitlementRevoked = false &&
    match account.creditExpiresAt with
    | some expiresAt => asOf < expiresAt
    | none => false

/-- The column `before_subscription`. -/
def isBeforeSubscription (account : Account) (lot : FundingLot) : Bool :=
  match account.creditExpiresAt with
  | some expiresAt => lot.expiresAt ≤ expiresAt
  | none => true

/-- `beforeSubscription`: the lots charged before the subscription. -/
def beforeSubscription (account : Account) (subscriptionUsable : Bool)
    (lots : List FundingLot) : List FundingLot :=
  if subscriptionUsable then lots.filter (isBeforeSubscription account) else lots

/-- `afterSubscription`: the lots charged after it. -/
def afterSubscription (account : Account) (subscriptionUsable : Bool)
    (lots : List FundingLot) : List FundingLot :=
  if subscriptionUsable then lots.filter (!isBeforeSubscription account ·) else []

/-- `consumeLot`; the accumulator is `remaining`. -/
def consumeLot (account : Account) (idempotencyKey : String) (s : Billing × Nat)
    (lot : FundingLot) : Transaction (Billing × Nat) :=
  let used := min s.2 lot.remainingCredits
  if s.2 = 0 then
    pure s
  else if used = 0 then
    pure s
  else do
    let b ← s.1.updateWhere
      (fun l : FundingLot => l.id = lot.id && used ≤ l.remainingCredits)
      fun l => { l with remainingCredits := l.remainingCredits - used }
    require (s.1.lots.rows.any fun l => l.id = lot.id && used ≤ l.remainingCredits)
      (.runtimeError "pack lot changed while charging credits")
    let b ← b.insertAllocation idempotencyKey account.id (.creditPack lot.id) used
    pure (b, s.2 - used)

/-- The allocation of what the subscription pays. -/
def allocateSubscription (account : Account) (idempotencyKey : String) (b : Billing)
    (subscriptionUsed : Nat) : Transaction Billing :=
  if subscriptionUsed = 0 then
    pure b
  else
    b.insertAllocation idempotencyKey account.id (.subscription account.grantEpoch) subscriptionUsed

/-- The write that takes it from the balance. -/
def paySubscription (account : Account) (idempotencyKey : String)
    (subscriptionAvailable subscriptionUsed : Nat) (b : Billing) : Transaction Billing :=
  if subscriptionUsed = 0 then
    pure b
  else do
    let balance := subscriptionAvailable - subscriptionUsed
    let b ← b.update account.id fun a : Account => { a with creditsBalance := balance }
    b.insertLedger account.id (-subscriptionUsed) balance .usageCharge account.grantEpoch
      s!"usage:{idempotencyKey}" none none 0

/-- The three passes over the sources; the accumulator is `remaining`. -/
def consume (account : Account) (idempotencyKey : String) (lots : List FundingLot)
    (subscriptionUsable : Bool) (b : Billing) (amount : Nat) : Transaction Billing := do
  let subscriptionAvailable := if subscriptionUsable then account.creditsBalance else 0
  let (b, remaining) ← (beforeSubscription account subscriptionUsable lots).foldlM
    (consumeLot account idempotencyKey) (b, amount)
  let subscriptionUsed := min remaining subscriptionAvailable
  let b ← allocateSubscription account idempotencyKey b subscriptionUsed
  let (b, remaining) ← (afterSubscription account subscriptionUsable lots).foldlM
    (consumeLot account idempotencyKey) (b, remaining - subscriptionUsed)
  require (remaining = 0)
    (.runtimeError "credit source allocation did not satisfy the debit")
  paySubscription account idempotencyKey subscriptionAvailable subscriptionUsed b

/-- Why an account without enough atoms cannot be charged. -/
def chargeRefusal (account : Account) (lots : List FundingLot) (subscriptionUsable : Bool)
    (available : Nat) (packWindowExpired : Bool) : Failure :=
  if available = 0 && lots.isEmpty && !subscriptionUsable then
    if account.subscriptionStatus ≠ .active && !packWindowExpired then
      .creditsUnavailable "subscription is not active"
    else if account.entitlementRevoked && !packWindowExpired then
      .creditsUnavailable "the paid entitlement was revoked"
    else
      .creditsUnavailable "the paid credit window has expired"
  else
    .insufficientCredits

/-- `CreditService.charge`. -/
def charge (printable : Char → Bool) (tx : Tx) (b : Billing) (accountId : String)
    (amount : Nat) (idempotencyKey : String) : Transaction (Billing × CreditResult) := do
  require (0 < amount) (.valueError "amount must be greater than zero")
  require (amount ≤ maxCreditAtoms)
    (.valueError "amount exceeds the PostgreSQL bigint atom range")
  let key ← validateIdempotencyKey printable idempotencyKey
  let account ← fetch ((uuidParameter accountId).bind b.accounts.find?)
    (accountFailure (uuidParameter accountId))
  let (b, packWindowExpired) ← expireAccountPackLots b account.id tx.wall
  let lots := spendableLots b account.id tx.wall
  let packAvailable := (lots.map FundingLot.remainingCredits).sum
  let subscriptionUsable := subscriptionSpendable account tx.wall
  let subscriptionAvailable := if subscriptionUsable then account.creditsBalance else 0
  match b.debits.find? key with
  | some existing =>
      let result ← replayCharge existing accountId amount (subscriptionAvailable + packAvailable)
      pure (b, result)
  | none =>
      let b ← b.insert {
        idempotencyKey := key
        accountId := account.id
        amount
        grantEpoch := account.grantEpoch
        createdAt := tx.now : Debit }
      let available := subscriptionAvailable + packAvailable
      require (amount ≤ available)
        (chargeRefusal account lots subscriptionUsable available packWindowExpired)
      let b ← consume account key lots subscriptionUsable b amount
      pure (b, { outcome := .charged, balance := available - amount, requested := amount })

end TypeScript

variable {tx : Tx} {b b' : Billing} {account : Account} {key : String}

theorem subscriptionSpendable_agrees (account : Account) (asOf : Int) :
    TypeScript.subscriptionSpendable account asOf =
      subscriptionCreditsAreSpendable account asOf := by
  unfold TypeScript.subscriptionSpendable subscriptionCreditsAreSpendable
  cases account.creditExpiresAt <;> cases account.entitlementRevoked <;> simp

theorem subscriptionAvailable_agrees (account : Account) (asOf : Int) :
    (if TypeScript.subscriptionSpendable account asOf then account.creditsBalance else 0) =
      spendableSubscriptionAtoms account asOf := by
  rw [subscriptionSpendable_agrees]
  rfl

/-! ## The order of the sources -/

/-- The sources of these lots, in their order. -/
def packSources (lots : List FundingLot) : List ChargeSource :=
  (lots.filter (0 < ·.remainingCredits)).map ChargeSource.creditPack

theorem packSources_append (lots lots' : List FundingLot) :
    packSources (lots ++ lots') = packSources lots ++ packSources lots' := by
  simp [packSources]

/-- Lots in the order the query returns them. -/
theorem spendableLots_sorted (b : Billing) (accountId : String) (asOf : Int) :
    (spendableLots b accountId asOf).Pairwise fun l l' =>
      (toLex (l.expiresAt, l.id) : Int ×ₗ String) ≤ toLex (l'.expiresAt, l'.id) :=
  Table.orderBy_pairwise _ _

theorem packSources_sorted {lots : List FundingLot}
    (h : lots.Pairwise fun l l' =>
      (toLex (l.expiresAt, l.id) : Int ×ₗ String) ≤ toLex (l'.expiresAt, l'.id)) :
    (packSources lots).Pairwise fun s t => s.sortKey ≤ t.sortKey := by
  rw [packSources, List.pairwise_map]
  refine (h.filter _).imp fun {l l'} hle => ?_
  rw [Prod.Lex.toLex_le_toLex] at hle
  change toLex (l.expiresAt, toLex ("credit_pack", l.id)) ≤
    toLex (l'.expiresAt, toLex ("credit_pack", l'.id))
  rw [Prod.Lex.toLex_le_toLex]
  refine hle.imp_right fun ⟨htime, hid⟩ => ⟨htime, ?_⟩
  exact Prod.Lex.toLex_le_toLex.2 (.inr ⟨rfl, hid⟩)

/-- A lot that expires with the subscription or before it comes first. -/
theorem sortKey_before {lot : FundingLot} {expiresAt : Int} (h : lot.expiresAt ≤ expiresAt) :
    (ChargeSource.creditPack lot).sortKey ≤ (ChargeSource.subscription account expiresAt).sortKey := by
  have htype : "credit_pack" < "subscription" := by decide
  refine Prod.Lex.toLex_le_toLex.2 ?_
  rcases lt_or_eq_of_le h with hlt | heq
  · exact .inl hlt
  · exact .inr ⟨heq, Prod.Lex.toLex_le_toLex.2 (.inl htype)⟩

theorem sortKey_after {lot : FundingLot} {expiresAt : Int} (h : expiresAt < lot.expiresAt) :
    (ChargeSource.subscription account expiresAt).sortKey ≤ (ChargeSource.creditPack lot).sortKey :=
  Prod.Lex.toLex_le_toLex.2 (.inl h)

/-- The key tells the sources of one account apart. -/
theorem sortKey_injective {lots : List FundingLot} {asOf : Int} (hlots : ∀ l ∈ lots, l ∈ b.lots.rows) :
    ∀ s ∈ packSources lots ++ subscriptionSource account asOf,
      ∀ t ∈ packSources lots ++ subscriptionSource account asOf, s.sortKey = t.sortKey → s = t := by
  have hcases : ∀ s ∈ packSources lots ++ subscriptionSource account asOf,
      (∃ l ∈ lots, s = .creditPack l) ∨ ∃ expiresAt, account.creditExpiresAt = some expiresAt ∧
        s = .subscription account expiresAt := by
    intro s hs
    rcases List.mem_append.1 hs with hpack | hsubscription
    · obtain ⟨l, hl, rfl⟩ := List.mem_map.1 hpack
      exact .inl ⟨l, List.mem_of_mem_filter hl, rfl⟩
    · obtain ⟨expiresAt, hexpires, rfl, -⟩ := mem_subscriptionSource.1 hsubscription
      exact .inr ⟨expiresAt, hexpires, rfl⟩
  intro s hs t ht heq
  rcases hcases s hs with ⟨l, hl, rfl⟩ | ⟨e, he, rfl⟩
  · rcases hcases t ht with ⟨l', hl', rfl⟩ | ⟨e', he', rfl⟩
    · have hid : l.id = l'.id := congrArg (fun k => (ofLex (ofLex k).2).2) heq
      rw [b.lots.eq_of_key_eq (hlots l hl) (hlots l' hl') hid]
    · have htype : "credit_pack" = "subscription" := congrArg (fun k => (ofLex (ofLex k).2).1) heq
      exact absurd htype (by decide)
  · rcases hcases t ht with ⟨l', hl', rfl⟩ | ⟨e', he', rfl⟩
    · have htype : "subscription" = "credit_pack" := congrArg (fun k => (ofLex (ofLex k).2).1) heq
      exact absurd htype (by decide)
    · rw [he, Option.some.injEq] at he'
      rw [he']

/-- Two sorted parts of the lots with the subscription between them. -/
theorem chargeSources_split {lots left right : List FundingLot} {asOf : Int}
    (hlots : ∀ l ∈ lots, l ∈ b.lots.rows) (hperm : (left ++ right).Perm lots)
    (hleft : (packSources left).Pairwise fun s t => s.sortKey ≤ t.sortKey)
    (hright : (packSources right).Pairwise fun s t => s.sortKey ≤ t.sortKey)
    (hbefore : ∀ s ∈ packSources left, ∀ t ∈ subscriptionSource account asOf ++ packSources right,
      s.sortKey ≤ t.sortKey)
    (hafter : ∀ s ∈ subscriptionSource account asOf, ∀ t ∈ packSources right,
      s.sortKey ≤ t.sortKey) :
    chargeSources account lots asOf =
      packSources left ++ (subscriptionSource account asOf ++ packSources right) := by
  refine Table.orderBy_eq_of_perm (sortKey_injective hlots) ?_ ?_
  · refine List.pairwise_append.2 ⟨hleft, List.pairwise_append.2 ⟨?_, hright, hafter⟩, hbefore⟩
    unfold subscriptionSource
    split
    · split <;> simp
    · simp
  · have hpacks : (packSources left ++ packSources right).Perm (packSources lots) := by
      rw [← packSources_append]
      exact (hperm.filter _).map _
    refine ((@List.perm_append_comm _ (subscriptionSource account asOf) _).append_left _).trans ?_
    rw [← List.append_assoc]
    exact hpacks.append_right _

theorem mem_packSources {lots : List FundingLot} {s : ChargeSource} (h : s ∈ packSources lots) :
    ∃ l ∈ lots, s = .creditPack l := by
  obtain ⟨l, hl, rfl⟩ := List.mem_map.1 h
  exact ⟨l, List.mem_of_mem_filter hl, rfl⟩

/-- **The partition** of the lots around the subscription is the sorted order. Python sorts lots
    and subscription together; TypeScript splits the lots at the expiry of the subscription, and a
    lot that expires with it comes first in both, since its type is smaller. -/
theorem chargeSources_partition (b : Billing) (account : Account) (asOf : Int) :
    let lots := spendableLots b account.id asOf
    let usable := TypeScript.subscriptionSpendable account asOf
    chargeSources account lots asOf =
      packSources (TypeScript.beforeSubscription account usable lots) ++
        (subscriptionSource account asOf ++ packSources (TypeScript.afterSubscription account usable lots)) := by
  intro lots usable
  have hlots : ∀ l ∈ lots, l ∈ b.lots.rows := fun l hl =>
    List.mem_of_mem_filter (Table.mem_orderBy.1 hl)
  have hsorted := spendableLots_sorted b account.id asOf
  cases husable : usable with
  | false =>
    -- nothing to spend: every lot comes before the missing subscription
    have hnone : subscriptionSource account asOf = [] := by
      refine List.eq_nil_iff_forall_not_mem.2 fun s hs => ?_
      obtain ⟨_, -, -, hspendable, -⟩ := mem_subscriptionSource.1 hs
      rw [← subscriptionSpendable_agrees] at hspendable
      exact Bool.false_ne_true (husable.symm.trans hspendable)
    refine chargeSources_split hlots ?_ (packSources_sorted hsorted) .nil ?_ ?_
    · simp [TypeScript.beforeSubscription, TypeScript.afterSubscription]
    · intro s _ t ht
      rw [hnone] at ht
      cases ht
    · intro s hs
      rw [hnone] at hs
      cases hs
  | true =>
    have hspendable : subscriptionCreditsAreSpendable account asOf = true :=
      (subscriptionSpendable_agrees account asOf).symm.trans husable
    obtain ⟨expiresAt, hexpires⟩ : ∃ e, account.creditExpiresAt = some e := by
      cases he : account.creditExpiresAt with
      | none => simp [subscriptionCreditsAreSpendable, he] at hspendable
      | some e => exact ⟨e, rfl⟩
    have hbefore : ∀ l, TypeScript.isBeforeSubscription account l = true ↔ l.expiresAt ≤ expiresAt := by
      intro l
      simp [TypeScript.isBeforeSubscription, hexpires]
    have hearlier : ∀ s ∈ packSources (TypeScript.beforeSubscription account true lots),
        ∃ l, s = .creditPack l ∧ l.expiresAt ≤ expiresAt := by
      intro s hs
      obtain ⟨l, hl, rfl⟩ := mem_packSources hs
      exact ⟨l, rfl, (hbefore l).1 (List.of_mem_filter hl)⟩
    have hlater : ∀ s ∈ packSources (TypeScript.afterSubscription account true lots),
        ∃ l, s = .creditPack l ∧ expiresAt < l.expiresAt := by
      intro s hs
      obtain ⟨l, hl, rfl⟩ := mem_packSources hs
      have hnot : TypeScript.isBeforeSubscription account l = false := by
        simpa using List.of_mem_filter hl
      refine ⟨l, rfl, lt_of_not_ge fun hle => ?_⟩
      rw [(hbefore l).2 hle] at hnot
      cases hnot
    have hsubscription : ∀ s ∈ subscriptionSource account asOf,
        s = .subscription account expiresAt := by
      intro s hs
      obtain ⟨e, he, rfl, -⟩ := mem_subscriptionSource.1 hs
      rw [hexpires, Option.some.injEq] at he
      rw [he]
    refine chargeSources_split hlots (List.filter_append_perm _ _)
      (packSources_sorted (hsorted.filter _)) (packSources_sorted (hsorted.filter _)) ?_ ?_
    · intro s hs t ht
      obtain ⟨l, rfl, hl⟩ := hearlier s hs
      rcases List.mem_append.1 ht with ht | ht
      · rw [hsubscription t ht]
        exact sortKey_before hl
      · obtain ⟨l', rfl, hl'⟩ := hlater t ht
        have hs : _ ≤ (ChargeSource.subscription account expiresAt).sortKey := sortKey_before hl
        exact hs.trans (sortKey_after hl')
    · intro s hs t ht
      obtain ⟨l', rfl, hl'⟩ := hlater t ht
      rw [hsubscription s hs]
      exact sortKey_after hl'

/-! ## The passes -/

theorem Drawing.mono {sources sources' : List ChargeSource} (h : Drawing account key sources b)
    (hsub : sources'.Sublist sources) : Drawing account key sources' b where
  current lot hlot := h.current lot (hsub.subset hlot)
  owned lot hlot := h.owned lot (hsub.subset hlot)
  distinct := h.distinct.sublist (hsub.map _)
  unallocated a ha hkey s hs := h.unallocated a ha hkey s (hsub.subset hs)

/-- Consuming a lot is drawing from it. -/
theorem consumeLot_of_draw {lot : FundingLot} {amount total total' left : Nat}
    (hfind : b.lots.find? lot.id = some lot) (hamount : 0 < amount)
    (hlot : 0 < lot.remainingCredits)
    (h : drawFromSource account key (b, total) (.creditPack lot) (min amount lot.remainingCredits)
      left = .ok (b', total')) :
    TypeScript.consumeLot account key (b, amount) lot =
      .ok (b', amount - min amount lot.remainingCredits) := by
  simp only [drawFromSource, bind_eq_ok, pure_eq_ok] at h
  obtain ⟨b₁, hupdate, b₂, hinsert, heq⟩ := h
  cases heq
  have hused : min amount lot.remainingCredits ≠ 0 := by omega
  have hrow : require (b.lots.rows.any fun l : FundingLot =>
      l.id = lot.id && min amount lot.remainingCredits ≤ l.remainingCredits)
      (Failure.runtimeError "pack lot changed while charging credits") = .ok () := by
    refine require_eq_ok.2 (List.any_eq_true.2 ⟨lot, Table.find?_mem hfind, ?_⟩)
    simp
  simp only [TypeScript.consumeLot, Nat.ne_of_gt hamount, if_false, hused, hupdate]
  simp only [bind, Except.bind, hrow, hinsert]
  rfl

theorem consumeLot_zero (lots : List FundingLot) :
    lots.foldlM (TypeScript.consumeLot account key) (b, 0) = .ok (b, 0) := by
  induction lots with
  | nil => rfl
  | cons l lots ih =>
    rw [List.foldlM_cons]
    exact ih

/-- **One pass** over the lots draws from their sources. -/
theorem consume_lots {lots : List FundingLot} {rest : List ChargeSource} (amount total : Nat)
    (h : Drawing account key (packSources lots ++ rest) b) :
    ∃ b', lots.foldlM (TypeScript.consumeLot account key) (b, amount) =
        .ok (b', amount - drawn (draws ChargeSource.available (packSources lots) amount)) ∧
      (draws ChargeSource.available (packSources lots) amount).foldlM
        (fun s d => drawFromSource account key s d.1 d.2 0) (b, total) = .ok (b', total) ∧
      Drawing account key rest b' := by
  -- induction on the lots; nothing is left to draw, the lot is empty, or it gives what it can
  induction lots generalizing b amount with
  | nil =>
    refine ⟨b, rfl, rfl, h⟩
  | cons l lots ih =>
    rcases Nat.eq_zero_or_pos amount with rfl | hamount
    · refine ⟨b, ?_, ?_, h.mono (List.sublist_append_right _ _)⟩
      · rw [draws_zero]
        exact consumeLot_zero _
      · rw [draws_zero]
        rfl
    · rcases Nat.eq_zero_or_pos l.remainingCredits with hempty | hpos
      · -- an empty lot is no source and is skipped
        have hskip : packSources (l :: lots) = packSources lots := by
          simp [packSources, hempty]
        rw [hskip] at h ⊢
        obtain ⟨b', hrun, hdraws, hdrawing⟩ := ih amount h
        refine ⟨b', ?_, hdraws, hdrawing⟩
        have hstay : TypeScript.consumeLot account key (b, amount) l = .ok (b, amount) := by
          simp only [TypeScript.consumeLot, hempty, Nat.min_zero, if_true, ite_self]
          rfl
        rw [List.foldlM_cons, hstay]
        exact hrun
      -- a lot that holds something is the next source, and both sides draw the same from it
      · have hhead : packSources (l :: lots) = .creditPack l :: packSources lots := by
          simp [packSources, hpos]
        rw [hhead, List.cons_append] at h
        have hfirst : draws ChargeSource.available (.creditPack l :: packSources lots) amount =
            (.creditPack l, min amount l.remainingCredits) ::
              draws ChargeSource.available (packSources lots)
                (amount - min amount l.remainingCredits) := draws_cons_pos hamount hpos
        rw [hhead, hfirst, drawn_cons, List.foldlM_cons]
        have hused : 0 < min amount l.remainingCredits := by omega
        -- the draw of the sorted run is the consumption of this lot
        obtain ⟨b₁, hstep, -, hdrawing⟩ :=
          h.step total 0 hused (Nat.min_le_right _ _)
        have hlot := consumeLot_of_draw (h.current l List.mem_cons_self) hamount hpos hstep
        obtain ⟨b', hrun, hdraws, hdrawing'⟩ :=
          ih (amount - min amount l.remainingCredits) hdrawing
        refine ⟨b', ?_, ?_, hdrawing'⟩
        -- what is left for the later lots is the amount less this draw
        · rw [hlot, ← Nat.sub_sub]
          exact hrun
        · have hnone : drawnFrom [(ChargeSource.creditPack l, min amount l.remainingCredits)] none =
              0 := by
            simp [drawnFrom, ChargeSource.lotId]
          rw [hnone, Nat.add_zero] at hstep
          change (drawFromSource account key (b, total) (.creditPack l)
            (min amount l.remainingCredits) 0 >>= _) = _
          rw [hstep]
          exact hdraws

theorem subscriptionSource_cases (account : Account) (asOf : Int) :
    (subscriptionSource account asOf = [] ∧ spendableSubscriptionAtoms account asOf = 0) ∨
    ∃ expiresAt, subscriptionSource account asOf = [.subscription account expiresAt] ∧
      spendableSubscriptionAtoms account asOf = account.creditsBalance ∧
      0 < account.creditsBalance := by
  have hsum := subscriptionSource_sum account asOf
  cases hsource : subscriptionSource account asOf with
  | nil =>
    rw [hsource] at hsum
    exact .inl ⟨rfl, hsum.symm⟩
  | cons s rest =>
    have hs : s ∈ subscriptionSource account asOf := hsource ▸ List.mem_cons_self
    obtain ⟨expiresAt, hexpires, rfl, hspendable, hpos⟩ := mem_subscriptionSource.1 hs
    refine .inr ⟨expiresAt, ?_, ?_, hpos⟩
    · rw [← hsource, subscriptionSource, hexpires]
      simp [hspendable, hpos]
    · rw [spendableSubscriptionAtoms, if_pos hspendable]

/-- **The subscription** pays what the earlier lots did not. -/
theorem consume_subscription {rest : List ChargeSource} {asOf : Int} (amount : Nat)
    (h : Drawing account key (subscriptionSource account asOf ++ rest) b) :
    let taken := draws ChargeSource.available (subscriptionSource account asOf) amount
    ∃ b', TypeScript.allocateSubscription account key b
        (min amount (spendableSubscriptionAtoms account asOf)) = .ok b' ∧
      taken.foldlM (fun s d => drawFromSource account key s d.1 d.2 0) (b, 0) =
        .ok (b', min amount (spendableSubscriptionAtoms account asOf)) ∧
      drawn taken = min amount (spendableSubscriptionAtoms account asOf) ∧
      Drawing account key rest b' := by
  intro taken
  -- nothing is left for the subscription
  rcases Nat.eq_zero_or_pos amount with rfl | hamount
  · have hnone : taken = [] := draws_zero _
    rw [hnone, Nat.zero_min]
    exact ⟨b, rfl, rfl, rfl, h.mono (List.sublist_append_right _ _)⟩
  -- the balance is no source, or it is the single one
  rcases subscriptionSource_cases account asOf with ⟨hsource, hzero⟩ | ⟨e, hsource, hatoms, hpos⟩
  · have hnone : taken = [] := by simp only [taken, hsource, draws]
    rw [hnone, hzero, Nat.min_zero]
    rw [hsource] at h
    exact ⟨b, rfl, rfl, rfl, h⟩
  · have hfirst : draws ChargeSource.available [.subscription account e] amount =
        (.subscription account e, min amount account.creditsBalance) ::
          draws ChargeSource.available [] (amount - min amount account.creditsBalance) :=
      draws_cons_pos hamount hpos
    -- the balance gives what it can, in one draw
    have htaken : taken = [(.subscription account e, min amount account.creditsBalance)] := by
      simp only [taken, hsource]
      rw [hfirst]
      rfl
    rw [hsource] at h
    have hused : 0 < min amount account.creditsBalance := by omega
    obtain ⟨b', hstep, -, hdrawing⟩ :=
      h.step 0 0 hused (Nat.min_le_right _ _)
    have hall : drawnFrom [(ChargeSource.subscription account e,
        min amount account.creditsBalance)] none = min amount account.creditsBalance := by
      simp [drawnFrom, ChargeSource.lotId]
    rw [hall, Nat.zero_add] at hstep
    rw [htaken, hatoms]
    refine ⟨b', ?_, ?_, by simp, hdrawing⟩
    · rw [TypeScript.allocateSubscription, if_neg (Nat.ne_of_gt hused)]
      simp only [drawFromSource, bind_eq_ok, pure_eq_ok] at hstep
      obtain ⟨b₁, hinsert, heq⟩ := hstep
      obtain rfl : b₁ = b' := (Prod.mk.inj heq).1
      exact hinsert
    · change (drawFromSource account key (b, 0) (.subscription account e)
        (min amount account.creditsBalance) 0 >>= _) = _
      rw [hstep]
      rfl

theorem packSources_pos {lots : List FundingLot} : ∀ s ∈ packSources lots, 0 < s.available := by
  intro s hs
  obtain ⟨l, hl, rfl⟩ := List.mem_map.1 hs
  have hpos := List.of_mem_filter hl
  exact of_decide_eq_true hpos

theorem subscriptionSource_pos {asOf : Int} :
    ∀ s ∈ subscriptionSource account asOf, 0 < s.available := by
  intro s hs
  obtain ⟨_, -, rfl, -, hpos⟩ := mem_subscriptionSource.1 hs
  exact hpos

theorem paySubscription_agrees {used : Nat} {asOf : Int}
    (hused : used ≤ spendableSubscriptionAtoms account asOf) :
    TypeScript.paySubscription account key (spendableSubscriptionAtoms account asOf) used b =
      chargeSubscription b account key used := by
  unfold TypeScript.paySubscription chargeSubscription
  split
  · rfl
  · rcases subscriptionSource_cases account asOf with ⟨-, hzero⟩ | ⟨e, -, hatoms, -⟩
    · omega
    · rw [hatoms]

/-- **The three passes** draw what the sorted sources give. Each pass takes from its part of the
    sources until the amount is used up, so together they are one loop over all of them, in the
    order of the partition. -/
theorem consume_agrees {asOf : Int} {amount : Nat} {lots before after : List FundingLot}
    (hbefore : TypeScript.beforeSubscription account
      (TypeScript.subscriptionSpendable account asOf) lots = before)
    (hafter : TypeScript.afterSubscription account
      (TypeScript.subscriptionSpendable account asOf) lots = after)
    {sources : List ChargeSource}
    (hsources : sources = packSources before ++
      (subscriptionSource account asOf ++ packSources after))
    (h : Drawing account key sources b) (hcovered : amount ≤ (sources.map ChargeSource.available).sum) :
    TypeScript.consume account key lots (TypeScript.subscriptionSpendable account asOf) b amount =
      (draws ChargeSource.available sources amount).foldlM
        (fun s d => drawFromSource account key s d.1 d.2 0) (b, 0) >>= fun s =>
          chargeSubscription s.1 account key s.2 := by
  -- every source has something, which is what splits the draws at the appends
  have hpos : ∀ s ∈ sources, 0 < s.available := by
    intro s hs
    rw [hsources, List.mem_append, List.mem_append] at hs
    rcases hs with hs | hs | hs
    · exact packSources_pos s hs
    · exact subscriptionSource_pos s hs
    · exact packSources_pos s hs
  have htotal : drawn (draws ChargeSource.available sources amount) = amount := by
    rw [drawn_draws hpos, Nat.min_eq_left hcovered]
  have hsplit : draws ChargeSource.available sources amount = _ := hsources ▸
    (draws_append packSources_pos).trans
      (congrArg _ (draws_append subscriptionSource_pos))
  -- what the three passes draw, each named after its pass
  obtain ⟨first, hfirst⟩ : ∃ taken,
    draws ChargeSource.available (packSources before) amount = taken := ⟨_, rfl⟩
  obtain ⟨second, hsecond⟩ : ∃ taken, draws ChargeSource.available
    (subscriptionSource account asOf) (amount - drawn first) = taken := ⟨_, rfl⟩
  obtain ⟨third, hthird⟩ : ∃ taken, draws ChargeSource.available
    (packSources after) (amount - drawn first - drawn second) = taken := ⟨_, rfl⟩
  rw [hfirst, hsecond, hthird] at hsplit
  rw [hsplit, drawn_append, drawn_append] at htotal
  rw [hsources] at h
  -- the earlier lots, then the subscription, then the later lots, each from where the last
  -- stopped
  obtain ⟨b₁, hearlier, hdraws, h₁⟩ := consume_lots amount 0 h
  rw [hfirst] at hearlier hdraws
  obtain ⟨b₂, hallocated, hdraws', hdrawn, h₂⟩ :=
    consume_subscription (amount - drawn first) h₁
  rw [hsecond] at hdraws' hdrawn
  rw [← hdrawn] at hallocated hdraws'
  rw [← List.append_nil (packSources after)] at h₂
  obtain ⟨b₃, hlater, hdraws'', -⟩ :=
    consume_lots (amount - drawn first - drawn second) (drawn second) h₂
  rw [hthird] at hlater hdraws''
  -- the amount is covered, so nothing is left and the requirement of the source is met
  have hleft : require (decide (amount - drawn first - drawn second - drawn third = 0))
      (Failure.runtimeError "credit source allocation did not satisfy the debit") = .ok () :=
    require_eq_ok.2 (decide_eq_true (by omega))
  have hconsume : TypeScript.consume account key lots
      (TypeScript.subscriptionSpendable account asOf) b amount =
      TypeScript.paySubscription account key (spendableSubscriptionAtoms account asOf)
        (drawn second) b₃ := by
    simp only [TypeScript.consume, subscriptionAvailable_agrees, hbefore, hafter, hearlier, bind,
      Except.bind, ← hdrawn, hallocated, hlater, hleft]
  -- the fold over the sorted sources is the three folds after each other
  have hfold : (first ++ (second ++ third)).foldlM
      (fun s d => drawFromSource account key s d.1 d.2 0) (b, 0) = .ok (b₃, drawn second) := by
    simp only [List.foldlM_append, hdraws, hdraws', hdraws'', bind, Except.bind]
  rw [hconsume, paySubscription_agrees (hdrawn ▸ Nat.min_le_right _ _), hsplit, hfold]
  rfl

variable {printable : Char → Bool} {accountId : String} {amount : Nat}

/-- The fresh charge, once the account and its lots are read. -/
theorem charge_fresh_agrees {packWindowExpired : Bool}
    (hdebits : ∀ a ∈ b.allocations.rows, (b.debits.find? a.debitKey).isSome)
    (hfresh : b.debits.find? key = none) (answer : Billing × CreditResult) :
    let lots := spendableLots b account.id tx.wall
    let usable := TypeScript.subscriptionSpendable account tx.wall
    let available := (if usable then account.creditsBalance else 0) +
      (lots.map FundingLot.remainingCredits).sum
    (do
      let b ← b.insert {
        idempotencyKey := key, accountId := account.id, amount
        grantEpoch := account.grantEpoch, createdAt := tx.now : Debit }
      require (amount ≤ available)
        (TypeScript.chargeRefusal account lots usable available packWindowExpired)
      let b ← TypeScript.consume account key lots usable b amount
      pure (b, { outcome := .charged, balance := available - amount
                 requested := amount : CreditResult })) = .ok answer ↔
    (do
      let b ← b.insert {
        idempotencyKey := key, accountId := account.id, amount
        grantEpoch := account.grantEpoch, createdAt := tx.now : Debit }
      let sources := chargeSources account lots tx.wall
      let available := (sources.map ChargeSource.available).sum
      require (amount ≤ available)
        (chargeRefusal account lots tx.wall available packWindowExpired)
      let ((b, subscriptionUsed), _) ← drain ChargeSource.available
        (drawFromSource account key) sources amount (b, 0)
      let b ← chargeSubscription b account key subscriptionUsed
      pure (b, { outcome := .charged, balance := available - amount
                 requested := amount : CreditResult })) = .ok answer := by
  intro lots usable available
  have hsum : ((chargeSources account lots tx.wall).map ChargeSource.available).sum = available := by
    rw [chargeSources_sum, totalBalanceAtoms, ← subscriptionAvailable_agrees]
    rfl
  -- once the debit is stored and covered, both draw from the same sources
  have hsame : ∀ debits, b.debits.insert? {
        idempotencyKey := key, accountId := account.id, amount
        grantEpoch := account.grantEpoch, createdAt := tx.now : Debit } = some debits →
      amount ≤ available → ∀ b',
      TypeScript.consume account key lots usable { b with debits := debits } amount = .ok b' ↔
        ∃ s, drain ChargeSource.available (drawFromSource account key)
          (chargeSources account lots tx.wall) amount ({ b with debits := debits }, 0) = .ok s ∧
          chargeSubscription s.1.1 account key s.1.2 = .ok b' := by
    intro debits hinsert hcovered b'
    have hdrawing := chargeSources_drawing (b := { b with debits := debits }) account tx.wall
      (unallocated_of_fresh (b := b) hdebits hfresh)
    rw [consume_agrees rfl rfl (chargeSources_partition b account tx.wall) hdrawing
      (hsum.symm ▸ hcovered), drain_eq_foldlM _ (f := fun s x used =>
        drawFromSource account key s x used 0) (fun s x used left => by cases x <;> rfl)]
    simp only [bind_eq_ok]
    constructor
    · rintro ⟨s, hdraws, hpay⟩
      exact ⟨_, ⟨s, hdraws, rfl⟩, hpay⟩
    · rintro ⟨_, ⟨s, hdraws, heq⟩, hpay⟩
      cases heq
      exact ⟨s, hdraws, hpay⟩
  simp only [bind_eq_ok, require_eq_ok, decide_eq_true_eq, Billing.insert_eq_ok, hsum]
  constructor
  · rintro ⟨_, ⟨debits, hinsert, rfl⟩, _, hcovered, b', hconsume, hanswer⟩
    obtain ⟨s, hdrain, hpay⟩ := (hsame debits hinsert hcovered b').1 hconsume
    exact ⟨_, ⟨debits, hinsert, rfl⟩, (), hcovered, s, hdrain, b', hpay, hanswer⟩
  · rintro ⟨_, ⟨debits, hinsert, rfl⟩, _, hcovered, s, hdrain, b', hpay, hanswer⟩
    have hconsume := (hsame debits hinsert hcovered b').2 ⟨s, hdrain, hpay⟩
    exact ⟨_, ⟨debits, hinsert, rfl⟩, (), hcovered, b', hconsume, hanswer⟩

/-- **Both runtimes** accept the same charges, with the same rows and the same answer, of an
    account that both drivers find under the given id. Everything before the debit row is
    independent of the language; the two differ in how they walk the sources. -/
theorem charge_agrees (hdebits : ∀ a ∈ b.allocations.rows, (b.debits.find? a.debitKey).isSome)
    (hnamed : uuidParameter accountId = TypeScript.uuidParameter accountId)
    (answer : Billing × CreditResult) :
    TypeScript.charge printable tx b accountId amount key = .ok answer ↔
      charge printable tx b accountId amount key = .ok answer := by
  have hreferenced : ∀ {account : Account} {b₁ : Billing} {expired : Bool},
      expireAccountPackLots b account.id tx.wall = .ok (b₁, expired) →
      ∀ a ∈ b₁.allocations.rows, (b₁.debits.find? a.debitKey).isSome := by
    intro account b₁ expired hexpire
    obtain ⟨lots, _, hlapsed, -⟩ := expireAccountPackLots_ok b account.id tx.wall
    rw [hlapsed] at hexpire
    cases hexpire
    exact hdebits
  -- the two check the amount at different places, then read the same rows
  simp only [TypeScript.charge, charge, ← hnamed, bind_eq_ok, require_eq_ok, fetch_eq_ok,
    decide_eq_true_eq]
  constructor
  · rintro ⟨_, hpos, _, hrange, key', hkey, account, haccount, ⟨b₁, expired⟩, hexpire, hanswer⟩
    refine ⟨(), hpos, key', hkey, account, haccount, ⟨b₁, expired⟩, hexpire, (), hrange, ?_⟩
    dsimp only at hanswer ⊢
    cases hexisting : b₁.debits.find? key' with
    | some existing =>
      rw [hexisting, subscriptionAvailable_agrees] at hanswer
      exact hanswer
    | none =>
      rw [hexisting] at hanswer
      exact (charge_fresh_agrees (hreferenced hexpire) hexisting answer).1 hanswer
  · rintro ⟨_, hpos, key', hkey, account, haccount, ⟨b₁, expired⟩, hexpire, _, hrange, hanswer⟩
    refine ⟨(), hpos, (), hrange, key', hkey, account, haccount, ⟨b₁, expired⟩, hexpire, ?_⟩
    dsimp only at hanswer ⊢
    cases hexisting : b₁.debits.find? key' with
    | some existing =>
      rw [hexisting] at hanswer
      rw [subscriptionAvailable_agrees]
      exact hanswer
    | none =>
      rw [hexisting] at hanswer
      exact (charge_fresh_agrees (hreferenced hexpire) hexisting answer).2 hanswer

/-! ## The contract of a charge -/

/-- The database after a transaction: what it committed, or what was there before it raised. -/
def settled (b : Billing) {α : Type} (run : Transaction (Billing × α)) : Billing :=
  match run with
  | .ok (b', _) => b'
  | .error _ => b

theorem mem_chargeSources {asOf : Int} {source : ChargeSource} :
    source ∈ chargeSources account (spendableLots b account.id asOf) asOf ↔
      (∃ lot ∈ b.lots.rows, source = .creditPack lot ∧ lot.accountId = account.id ∧
        lot.status = .active ∧ asOf < lot.expiresAt ∧ 0 < lot.remainingCredits) ∨
      ∃ expiresAt, account.creditExpiresAt = some expiresAt ∧
        source = .subscription account expiresAt ∧
        subscriptionCreditsAreSpendable account asOf = true ∧ 0 < account.creditsBalance := by
  rw [(chargeSources_perm _ _ _).mem_iff, List.mem_append, mem_subscriptionSource]
  refine or_congr_left ?_
  simp only [List.mem_map, List.mem_filter, spendableLots, Table.mem_orderBy, Table.select,
    Bool.and_eq_true, decide_eq_true_eq]
  constructor
  · rintro ⟨lot, ⟨⟨hlot, ⟨howner, hactive⟩, hexpires⟩, hpos⟩, rfl⟩
    exact ⟨lot, hlot, rfl, howner, hactive, hexpires, hpos⟩
  · rintro ⟨lot, hlot, rfl, howner, hactive, hexpires, hpos⟩
    exact ⟨lot, ⟨⟨hlot, ⟨howner, hactive⟩, hexpires⟩, hpos⟩, rfl⟩

/-- What `CreditService.charge` does to one account under one key. -/
structure ChargeContract (printable : Char → Bool) (b : Billing) (account : Account)
    (key : String) : Prop where
  /-- A fresh charge succeeds when it is positive, covered and within one bigint column. -/
  succeeds : b.debits.find? key = none → ∀ (tx : Tx) (accountId : String) (amount : Nat),
    uuidParameter accountId = some account.id →
      ((∃ answer, charge printable tx b accountId amount key = .ok answer) ↔
        0 < amount ∧ amount ≤ totalBalanceAtoms b account tx.wall ∧ amount ≤ maxCreditAtoms)
  /-- It empties its sources in the order of `(expires_at, source_type, id)`. -/
  firstExpiring : b.debits.find? key = none → ∀ (tx : Tx) (accountId : String) (amount : Nat),
    uuidParameter accountId = some account.id →
      ∀ b' result, charge printable tx b accountId amount key = .ok (b', result) →
        ∃ sources taken,
          (∀ source, source ∈ sources ↔
            (∃ lot ∈ b.lots.rows, source = .creditPack lot ∧ lot.accountId = account.id ∧
              lot.status = .active ∧ tx.wall < lot.expiresAt ∧ 0 < lot.remainingCredits) ∨
            ∃ expiresAt, account.creditExpiresAt = some expiresAt ∧
              source = .subscription account expiresAt ∧
              subscriptionCreditsAreSpendable account tx.wall = true ∧
              0 < account.creditsBalance) ∧
          sources.Pairwise (fun s t => s.sortKey ≤ t.sortKey) ∧
          FirstDrawn ChargeSource.available sources amount taken ∧
          Charged tx account key amount taken b b' ∧
          result = { outcome := .charged, balance := totalBalanceAtoms b account tx.wall - amount
                     requested := amount }
  /-- A failed charge writes nothing, and its key can still be charged. -/
  rollsBack : b.debits.find? key = none → ∀ (tx : Tx) (accountId : String) (amount : Nat) e,
    charge printable tx b accountId amount key = .error e →
      settled b (charge printable tx b accountId amount key) = b ∧
      ∀ (tx' : Tx) (amount' : Nat), 0 < amount' →
        amount' ≤ totalBalanceAtoms b account tx'.wall → amount' ≤ maxCreditAtoms →
        ∃ answer, charge printable tx' (settled b (charge printable tx b accountId amount key))
          account.id amount' key = .ok answer
  /-- A replay returns the stored debit and writes no row but the lots that expired. -/
  replays : ∀ existing, b.debits.find? key = some existing → existing.kind = .usage →
    existing.accountId = account.id → 0 < existing.amount → existing.amount ≤ maxCreditAtoms →
      ∀ tx : Tx, ∃ lots : Table FundingLot,
        lots.rows = b.lots.rows.map (FundingLot.lapse account.id tx.wall) ∧
        charge printable tx b account.id existing.amount key = .ok ({ b with lots := lots }, {
          outcome := .replayed, balance := totalBalanceAtoms b account tx.wall
          requested := existing.amount, restored := existing.restoredCredits })
  /-- Any other amount, account or kind of debit raises. -/
  rejects : ∀ existing, b.debits.find? key = some existing → ∀ (tx : Tx) (amount : Nat),
    (existing.accountId ≠ account.id ∨ existing.amount ≠ amount ∨ existing.kind ≠ .usage) →
      ∃ e, charge printable tx b account.id amount key = .error e
  /-- The TypeScript charge writes the same rows, for every id that both drivers bind alike. -/
  agrees : ∀ (tx : Tx) (accountId : String) (amount : Nat) answer,
    uuidParameter accountId = TypeScript.uuidParameter accountId →
    (TypeScript.charge printable tx b accountId amount key = .ok answer ↔
      charge printable tx b accountId amount key = .ok answer)

/-- **A charge** spends first-expiring-first and is atomic. It succeeds exactly for a positive
    amount that is covered and fits the column, a failure leaves the database as it was, and a
    repeated key is answered from its debit; the TypeScript service does the same to the same rows.
    -/
theorem charge_contract (haccount : b.accounts.find? account.id = some account)
    (hid : canonicalUuid account.id = some account.id)
    (hdebits : ∀ a ∈ b.allocations.rows, (b.debits.find? a.debitKey).isSome)
    (hkey : validateIdempotencyKey printable key = .ok key) :
    ChargeContract printable b account key := by
  have hbound : uuidParameter account.id = some account.id := (uuidParameter_canonical hid).1
  -- an account named in any accepted spelling is chargeable under a valid key
  have hchargeable : ∀ {accountId : String}, uuidParameter accountId = some account.id →
      Chargeable printable b accountId key account := fun hnamed => ⟨hkey, hnamed, haccount⟩
  -- a covered charge draws from the first sources whatever the clock and the spelling
  have hcovered : b.debits.find? key = none → ∀ (tx : Tx) (accountId : String) (amount : Nat),
      uuidParameter accountId = some account.id → 0 < amount →
      amount ≤ totalBalanceAtoms b account tx.wall → amount ≤ maxCreditAtoms →
      ∃ b' taken, charge printable tx b accountId amount key = .ok (b', {
          outcome := .charged, balance := totalBalanceAtoms b account tx.wall - amount
          requested := amount }) ∧
        FirstDrawn ChargeSource.available
          (chargeSources account (spendableLots b account.id tx.wall) tx.wall) amount taken ∧
        Charged tx account key amount taken b b' := fun hfresh _ _ _ hnamed hpos hle hrange =>
    charge_covered (hchargeable hnamed) hdebits hfresh hpos hle hrange
  refine ⟨?_, ?_, ?_, ?_, ?_, fun _ _ _ answer hnamed =>
    charge_agrees hdebits hnamed answer⟩
  -- a fresh key: the call succeeds exactly when the amount is covered
  · intro hfresh tx accountId amount hnamed
    constructor
    · rintro ⟨⟨b', result⟩, hrun⟩
      exact covered_of_charge (hchargeable hnamed) hfresh hrun
    · rintro ⟨hpos, hle, hrange⟩
      obtain ⟨b', _, hrun, -⟩ := hcovered hfresh tx accountId amount hnamed hpos hle hrange
      exact ⟨_, hrun⟩
  -- and then its effect is that of the first sources, because the call is a function
  · intro hfresh tx accountId amount hnamed b' result hrun
    obtain ⟨hpos, hle, hrange⟩ := covered_of_charge (hchargeable hnamed) hfresh hrun
    obtain ⟨b₁, taken, hrun', hfirst, hcharged⟩ :=
      hcovered hfresh tx accountId amount hnamed hpos hle hrange
    rw [hrun] at hrun'
    cases hrun'
    exact ⟨_, taken, fun source => mem_chargeSources, chargeSources_sorted _ _ _, hfirst, hcharged, rfl⟩
  -- a failed call leaves the database, so the same key can still be used
  · intro hfresh tx accountId amount e hrun
    rw [hrun]
    refine ⟨rfl, fun tx' amount' hpos hle hrange => ?_⟩
    obtain ⟨b', _, hrun', -⟩ := hcovered hfresh tx' account.id amount' hbound hpos hle hrange
    exact ⟨_, hrun'⟩
  -- a used key with the same facts answers as before
  · intro existing hexisting hkind howner hpos hrange tx
    obtain ⟨lots, hlots, hrun⟩ := charge_replayed tx (hchargeable hbound) hexisting hpos hrange
    refine ⟨lots, hlots, ?_⟩
    rw [hrun]
    simp [replayCharge, hkind, howner, Except.map]
  -- a used key with other facts raises
  · intro existing hexisting tx amount hother
    cases hrun : charge printable tx b account.id amount key with
    | error e => exact ⟨e, rfl⟩
    | ok answer =>
      obtain ⟨hpos, hrange⟩ := charge_amount hrun
      obtain ⟨lots, -, hreplay⟩ :=
        charge_replayed tx (hchargeable hbound) hexisting hpos hrange
      rw [hrun, eq_comm, map_eq_ok] at hreplay
      obtain ⟨result, hresult, -⟩ := hreplay
      obtain ⟨howner, hamount, hkind⟩ := replayCharge_eq_ok hresult
      rcases hother with h | h | h
      · exact absurd howner h
      · exact absurd hamount h
      · exact absurd hkind h

/-- An account with two packs of `2 ^ 62` atoms each. -/
def wideAccount : Account where
  id := referenceAccountId
  externalRef := "user"

def wideBilling : Billing :=
  { Billing.empty with
    accounts := .singleton wideAccount rfl
    lots := {
      rows := ["first", "second"].map fun id => {
        id, orderId := id, accountId := referenceAccountId, originalCredits := 2 ^ 62
        remainingCredits := 2 ^ 62, expiresAt := 100 }
      valid := by decide } }

theorem wideBilling_contract :
    ChargeContract asciiUnicode.isPrintable wideBilling wideAccount "use" :=
  charge_contract (by decide) (by decide +kernel) (fun a ha => absurd ha (List.not_mem_nil (a := a)))
    (by rfl)

/-- Both packs cover an amount that no debit row can hold. -/
theorem wideBilling_unchargeable :
    wideBilling.debits.find? "use" = none ∧
      uuidParameter referenceAccountId = some wideAccount.id ∧
      2 ^ 63 ≤ totalBalanceAtoms wideBilling wideAccount 0 ∧
      ¬∃ answer, charge asciiUnicode.isPrintable ⟨0, 0, fun _ => ""⟩ wideBilling referenceAccountId
        (2 ^ 63) "use" = .ok answer := by
  refine ⟨by decide, by decide +kernel, by decide +kernel, ?_⟩
  rintro ⟨answer, h⟩
  have hrange := (charge_amount h).2
  exact absurd hrange (by decide)

end StripeEntitlements
