import StripeEntitlements.Catalog.Construction

/-!
# Lookup Keys

Splitting at underscores undoes joining identifiers that hold none, so the generated keys are
told apart by what they were generated from.

## Main results

- `Catalog.planCatalog`, `Catalog.packCatalog` — the catalogs of the other modules
- `parseLookupKey_eq_some` — the keys that parse are the generated ones
- `catalog_keys_unambiguous` — no two offers share a lookup key
-/

namespace StripeEntitlements

variable {u : Unicode}

/-! ## Accepted catalogs -/

/-- What the constructor checked of one plan, as far as prices and keys go. -/
structure CatalogPlan.Checked (key : String) (p : CatalogPlan) : Prop where
  notFree : key ≠ "free"
  keyed : key = p.key
  slug : isCatalogKey key = true
  usd : p.currency = "usd"
  credits : 0 < p.monthlyCredits ∧ p.monthlyCredits ≤ postgresBigintMax
  month : 1 ≤ p.monthUsd ∧ p.monthUsd ≤ catalogPriceMajorUnitMax
  year : 1 ≤ p.yearUsd ∧ p.yearUsd ≤ catalogPriceMajorUnitMax

theorem CatalogPlan.checked {key : String} {p : CatalogPlan} (h : p.check u key = .ok ()) :
    p.Checked key := by
  simp only [CatalogPlan.check, requiredString, requiredInteger, bind_eq_ok, require_eq_ok,
    Bool.and_eq_true, decide_eq_true_eq, exists_and_left, exists_const] at h
  obtain ⟨hfree, ⟨hkey, hslug⟩, -, -, husd, hcredits, ⟨hmonth, -⟩, ⟨hyear, -⟩,
    ⟨hmonth', hyear'⟩, -⟩ := h
  exact ⟨hfree, hkey, hslug, husd, hcredits, ⟨hmonth, hmonth'⟩, hyear, hyear'⟩

/-- What the constructor checked of one pack. -/
structure CatalogPack.Checked (key : String) (p : CatalogPack) : Prop where
  keyed : key = p.key
  slug : isCatalogKey key = true
  usd : p.currency = "usd"
  credits : 0 < p.credits ∧ p.credits ≤ postgresBigintMax
  price : 1 ≤ p.priceUsd ∧ p.priceUsd ≤ catalogPriceMajorUnitMax
  expiresDays : 1 ≤ p.expiresDays ∧ p.expiresDays ≤ 3650

theorem CatalogPack.checked {key : String} {p : CatalogPack} (h : p.check u key = .ok ()) :
    p.Checked key := by
  simp only [CatalogPack.check, requiredString, requiredInteger, bind_eq_ok, require_eq_ok,
    Bool.and_eq_true, decide_eq_true_eq, exists_and_left, exists_const] at h
  obtain ⟨⟨hkey, hslug⟩, -, -, husd, hcredits, hprice, hdays⟩ := h
  exact ⟨hkey, hslug, husd, hcredits, hprice, hdays⟩

/-- What the constructor checked of the whole catalog. -/
structure CatalogArguments.Checked (x : CatalogArguments) : Prop where
  pre : isCatalogKey x.lookupPrefix = true
  plans : ∀ key plan, (key, plan) ∈ x.plans → plan.Checked key
  ranks : ranksAdmissible (x.plans.map (·.2.rank)) = true
  packs : ∀ key pack, (key, pack) ∈ x.creditPacks → pack.Checked key
  owners : ∃ owners, (x.creditPacks.map Prod.fst).foldlM (claimLookupKey x.lookupPrefix)
    (planLookupOwners x.lookupPrefix (x.plans.map Prod.fst)) = .ok owners

theorem CatalogArguments.checked {x : CatalogArguments} (h : x.check u = .ok ()) : x.Checked := by
  simp only [CatalogArguments.check, bind_eq_ok, require_eq_ok, exists_and_left, exists_const,
    pure_eq_ok] at h
  obtain ⟨-, hpre, _, hplans, hranks, -, _, hpacks, -, owners, howners, -⟩ := h
  exact ⟨hpre, fun key plan hmem => CatalogPlan.checked (forM_eq_ok.1 hplans _ hmem), hranks,
    fun key pack hmem => CatalogPack.checked (forM_eq_ok.1 hpacks _ hmem), owners, howners⟩

/-! ## Splitting -/

theorem splitUnderscore_eq (text : String) :
    splitUnderscore text = (text.toList.splitOn '_').map String.ofList := by
  simp only [splitUnderscore]
  apply congrArg
  induction text.toList with
  | nil => rfl
  | cons c cs ih =>
    rw [List.foldr_cons, ih, List.splitOn_cons_eq_if_modifyHead]
    obtain ⟨part, rest, hparts⟩ := List.exists_cons_of_ne_nil (List.splitOn_ne_nil '_' cs)
    rw [hparts]
    by_cases hc : c = '_'
    · simp [hc]
    · simp [hc]

/-- A text of three parts joins them. -/
theorem eq_of_splitUnderscore {text first second third : String}
    (h : splitUnderscore text = [first, second, third]) :
    text = first ++ "_" ++ second ++ "_" ++ third := by
  rw [splitUnderscore_eq] at h
  have hparts : text.toList.splitOn '_' = [first.toList, second.toList, third.toList] := by
    have hback := congrArg (List.map String.toList) h
    rw [List.map_map] at hback
    have hid : String.toList ∘ String.ofList = fun l => l := funext fun l => String.toList_ofList
    rw [hid, List.map_id'] at hback
    exact hback
  have hjoin := @List.intercalate_splitOn Char text.toList _ _ '_'
  rw [hparts] at hjoin
  apply String.toList_inj.1
  rw [← hjoin]
  simp [List.intercalate]

/-- Parts without underscores are split apart again. -/
theorem splitUnderscore_join {first second third : String} (hfirst : '_' ∉ first.toList)
    (hsecond : '_' ∉ second.toList) (hthird : '_' ∉ third.toList) :
    splitUnderscore (first ++ "_" ++ second ++ "_" ++ third) = [first, second, third] := by
  have hjoin : (first ++ "_" ++ second ++ "_" ++ third).toList =
      ['_'].intercalate [first.toList, second.toList, third.toList] := by
    simp [List.intercalate]
  rw [splitUnderscore_eq, hjoin, List.splitOn_intercalate '_' (by simp [hfirst, hsecond, hthird])
    (by simp)]
  simp

/-- No identifier of a catalog holds an underscore. -/
theorem underscore_not_mem_of_catalogKey {key : String} (h : isCatalogKey key = true) :
    '_' ∉ key.toList := by
  unfold isCatalogKey at h
  split at h
  · cases h
  · rename_i c rest hchars
    simp only [Bool.and_eq_true, List.all_eq_true] at h
    rw [hchars, List.mem_cons, not_or]
    refine ⟨?_, fun hmem => ?_⟩
    · rintro rfl
      exact absurd h.1.1 (by decide)
    · exact absurd (h.2 '_' hmem) (by decide)

theorem Interval.text_underscore (i : Interval) : '_' ∉ i.text.toList := by
  cases i <;> decide

/-! ## The catalog as the other modules read it -/

def CatalogPlan.toPlan (p : CatalogPlan) : Plan where
  key := p.key
  rank := p.rank.toNat
  monthlyCredits := p.monthlyCredits
  monthUsd := p.monthUsd.toNat
  yearUsd := p.yearUsd.toNat
  currency := p.currency

def CatalogPack.toCreditPack (p : CatalogPack) : CreditPack where
  key := p.key
  credits := p.credits
  priceUsd := p.priceUsd.toNat
  currency := p.currency
  expiresDays := p.expiresDays.toNat

theorem ranksAdmissible_nodup {ranks : List Int} (h : ranksAdmissible ranks = true) :
    (∀ rank ∈ ranks, 0 < rank) ∧ (ranks.map Int.toNat).Nodup := by
  simp only [ranksAdmissible, Bool.and_eq_true, List.all_eq_true, decide_eq_true_eq] at h
  obtain ⟨hpos, hnodup⟩ := h
  refine ⟨fun rank hrank => (hpos rank hrank).1, hnodup.map_on fun m hm n hn heq => ?_⟩
  have hm := (hpos m hm).1
  have hn := (hpos n hn).1
  omega

namespace Catalog

variable (c : Catalog u)

theorem checked : c.toCatalogArguments.Checked := CatalogArguments.checked c.accepted

/-- Every accepted plan is admissible. -/
theorem plans_admissible (p : Plan) (hp : p ∈ c.plans.map (·.2.toPlan)) : p.admissible = true := by
  obtain ⟨⟨key, plan⟩, hmem, rfl⟩ := List.mem_map.1 hp
  have hplan := c.checked.plans key plan hmem
  have hrank := (ranksAdmissible_nodup c.checked.ranks).1 plan.rank
    (List.mem_map.2 ⟨_, hmem, rfl⟩)
  have hfree : plan.key ≠ "free" := hplan.keyed ▸ hplan.notFree
  have hmonth := hplan.month.1
  have hyear := hplan.year.1
  have hcredits := hplan.credits.1
  simp only [Plan.admissible, Bool.and_eq_true, decide_eq_true_eq]
  dsimp only [CatalogPlan.toPlan]
  exact ⟨⟨⟨⟨⟨hfree, by omega⟩, hcredits⟩, by omega⟩, by omega⟩, hplan.usd⟩

/-- No two accepted plans share a key. -/
theorem planKeys_nodup : ((c.plans.map (·.2.toPlan)).map Plan.key).Nodup := by
  have hkeys : (c.plans.map (·.2.toPlan)).map Plan.key = c.plans.map Prod.fst := by
    rw [List.map_map]
    exact List.map_congr_left fun entry hmem => (c.checked.plans entry.1 entry.2 hmem).keyed.symm
  rw [hkeys]
  exact c.plans_nodup

def planCatalog : PlanCatalog where
  plans := c.plans.map (·.2.toPlan)
  lookupPrefix := c.lookupPrefix
  admissible := c.plans_admissible
  keys_nodup := c.planKeys_nodup
  ranks_nodup := by
    have hranks := (ranksAdmissible_nodup c.checked.ranks).2
    rw [List.map_map] at hranks ⊢
    exact hranks

def packCatalog : PackCatalog where
  packs := c.creditPacks.map (·.2.toCreditPack)
  lookupPrefix := c.lookupPrefix
  admissible p hp := by
    obtain ⟨⟨key, pack⟩, hmem, rfl⟩ := List.mem_map.1 hp
    have hpack := c.checked.packs key pack hmem
    have hprice := hpack.price.1
    have hdays := hpack.expiresDays
    have hcredits := hpack.credits.1
    simp only [CreditPack.admissible, Bool.and_eq_true, decide_eq_true_eq]
    dsimp only [CatalogPack.toCreditPack]
    exact ⟨⟨⟨⟨hpack.usd, hcredits⟩, by omega⟩, by omega⟩, by omega⟩
  keys_nodup := by
    have hkeys : (c.creditPacks.map (·.2.toCreditPack)).map CreditPack.key =
        c.creditPacks.map Prod.fst := by
      rw [List.map_map]
      exact List.map_congr_left fun ⟨key, pack⟩ hmem => (c.checked.packs key pack hmem).keyed.symm
    rw [hkeys]
    exact c.packs_nodup

theorem planKey_underscore {p : Plan} (hp : p ∈ c.planCatalog.plans) : '_' ∉ p.key.toList := by
  obtain ⟨⟨key, plan⟩, hmem, rfl⟩ := List.mem_map.1 hp
  have hplan := c.checked.plans key plan hmem
  exact underscore_not_mem_of_catalogKey (hplan.keyed ▸ hplan.slug)

theorem prefix_underscore : '_' ∉ c.lookupPrefix.toList :=
  underscore_not_mem_of_catalogKey c.checked.pre

end Catalog

/-! ## Reading a key back -/

theorem PlanCatalog.lookupKey_eq (c : PlanCatalog) (p : Plan) (i : Interval) :
    c.lookupKey p i = c.lookupPrefix ++ "_" ++ p.key ++ "_" ++ i.text := rfl

/-- Only a generated key parses. -/
theorem PlanCatalog.parseLookupKey_eq {c : PlanCatalog} {s : String} {p : Plan} {i : Interval}
    (h : c.parseLookupKey (some s) = some (p, i)) : p ∈ c.plans ∧ s = c.lookupKey p i := by
  refine ⟨PlanCatalog.parseLookupKey_mem h, ?_⟩
  unfold PlanCatalog.parseLookupKey at h
  split at h
  · rename_i pre plan interval hparts
    split at h
    · rename_i hpre
      simp only [Option.bind_eq_bind, Option.bind_eq_some_iff] at h
      obtain ⟨q, hq, j, hj, heq⟩ := h
      cases heq
      have hkey : p.key = plan := by simpa [PlanCatalog.plan?] using List.find?_some hq
      have hinterval : interval = i.text := by
        unfold Interval.parse at hj
        split at hj <;> cases hj <;> rfl
      have htext : s = pre ++ "_" ++ plan ++ "_" ++ interval := eq_of_splitUnderscore hparts
      rw [PlanCatalog.lookupKey_eq, htext, hpre, hkey, hinterval]
    · cases h
  · cases h

namespace Catalog

variable {c : Catalog u}

/-- A generated key parses as what it was generated from. -/
theorem parse_lookupKey {p : Plan} (hp : p ∈ c.planCatalog.plans) (i : Interval) :
    c.planCatalog.parseLookupKey (some (c.planCatalog.lookupKey p i)) = some (p, i) := by
  have hsplit : splitUnderscore ((some (c.planCatalog.lookupKey p i)).getD "") =
      [c.lookupPrefix, p.key, i.text] :=
    splitUnderscore_join c.prefix_underscore (c.planKey_underscore hp) i.text_underscore
  have hfind := PlanCatalog.plan?_eq hp
  have hinterval : Interval.parse i.text = some i := by cases i <;> rfl
  have hprefix : c.lookupPrefix = c.planCatalog.lookupPrefix := rfl
  simp only [PlanCatalog.parseLookupKey, hsplit, hprefix, if_true, hfind, hinterval]
  rfl

/-- `credit_pack_lookup_key` of a pack of the catalog. -/
def packLookupKey (c : Catalog u) (p : CreditPack) : String := s!"{c.lookupPrefix}_pack_{p.key}"

theorem creditPackLookupKey_eq {p : CreditPack} (hp : p ∈ c.packCatalog.packs) :
    c.packCatalog.creditPackLookupKey p.key = .ok (c.packLookupKey p) := by
  have hany : require (c.packCatalog.packs.any (·.key = p.key))
      (Failure.valueError s!"unknown credit pack '{p.key}'") = .ok () := by
    refine require_eq_ok.2 (List.any_eq_true.2 ⟨p, hp, ?_⟩)
    simp
  simp only [PackCatalog.creditPackLookupKey, hany]
  rfl

/-- A lookup key that was claimed had no owner before. -/
theorem claimLookupKey_fresh {lookupPrefix : String} {keys : List String}
    {owners owners' : List (String × String)}
    (h : keys.foldlM (claimLookupKey lookupPrefix) owners = .ok owners') :
    ∀ key ∈ keys, owners.lookup s!"{lookupPrefix}_pack_{key}" = none := by
  induction keys generalizing owners with
  | nil => exact fun _ hkey => absurd hkey List.not_mem_nil
  | cons key keys ih =>
    rw [List.foldlM_cons, bind_eq_ok] at h
    obtain ⟨owners₁, hclaim, hrest⟩ := h
    unfold claimLookupKey at hclaim
    dsimp only at hclaim
    split at hclaim
    · cases hclaim
    · rename_i hnone
      cases hclaim
      intro other hother
      rcases List.mem_cons.1 hother with rfl | hother
      · exact hnone
      · have hlater := ih hrest other hother
        rw [List.lookup_cons] at hlater
        split at hlater
        · cases hlater
        · exact hlater

/-- No pack takes the lookup key of a plan. -/
theorem packLookupKey_ne {p : Plan} (hp : p ∈ c.planCatalog.plans) (i : Interval)
    {pack : CreditPack} (hpack : pack ∈ c.packCatalog.packs) :
    c.packLookupKey pack ≠ c.planCatalog.lookupKey p i := by
  intro heq
  obtain ⟨owners, howners⟩ := c.checked.owners
  obtain ⟨⟨key, plan⟩, hmem, rfl⟩ := List.mem_map.1 hp
  obtain ⟨⟨packKey, raw⟩, hraw, rfl⟩ := List.mem_map.1 hpack
  have hkey : key = plan.key := (c.checked.plans key plan hmem).keyed
  have hpackKey : packKey = raw.key := (c.checked.packs packKey raw hraw).keyed
  have hnone := claimLookupKey_fresh howners packKey (List.mem_map.2 ⟨_, hraw, rfl⟩)
  have hsame : s!"{c.lookupPrefix}_pack_{packKey}" = s!"{c.lookupPrefix}_{key}_{i.text}" := by
    rw [hpackKey, hkey]
    exact heq
  rw [hsame, List.lookup_eq_none_iff] at hnone
  have howner : (s!"{c.lookupPrefix}_{key}_{i.text}", s!"plan '{key}' ({i.text})") ∈
      planLookupOwners c.lookupPrefix (c.plans.map Prod.fst) := by
    refine List.mem_flatMap.2 ⟨key, List.mem_map.2 ⟨_, hmem, rfl⟩, List.mem_map.2 ⟨i.text, ?_, rfl⟩⟩
    cases i <;> simp [Interval.text]
  exact absurd (hnone _ howner) (by simp)

/-- No pack key parses as a plan. -/
theorem parse_packLookupKey {pack : CreditPack} (hpack : pack ∈ c.packCatalog.packs) :
    c.planCatalog.parseLookupKey (some (c.packLookupKey pack)) = none := by
  cases hparse : c.planCatalog.parseLookupKey (some (c.packLookupKey pack)) with
  | none => rfl
  | some found =>
    obtain ⟨p, i⟩ := found
    obtain ⟨hp, hkey⟩ := PlanCatalog.parseLookupKey_eq hparse
    exact absurd hkey (packLookupKey_ne hp i hpack)

/-- All lookup keys of the catalog. -/
def lookupKeys (c : Catalog u) : List String :=
  ((c.planCatalog.plans.product [Interval.month, .year]).map fun (p, i) =>
    c.planCatalog.lookupKey p i) ++ c.packCatalog.packs.map c.packLookupKey

theorem packLookupKey_injective {p q : CreditPack} (hp : p ∈ c.packCatalog.packs)
    (hq : q ∈ c.packCatalog.packs) (h : c.packLookupKey p = c.packLookupKey q) : p = q := by
  have hkey : p.key = q.key := by
    have hjoin : c.lookupPrefix ++ "_pack_" ++ p.key = c.lookupPrefix ++ "_pack_" ++ q.key := h
    exact String.append_right_inj _ |>.1 hjoin
  exact List.inj_on_of_nodup_map c.packCatalog.keys_nodup hp hq hkey

theorem lookupKeys_nodup : c.lookupKeys.Nodup := by
  refine List.nodup_append.2 ⟨?_, ?_, ?_⟩
  · have hplans := c.planCatalog.keys_nodup.of_map
    refine (hplans.product (by decide)).map_on ?_
    rintro ⟨p, i⟩ hp ⟨q, j⟩ hq heq
    have hread := parse_lookupKey (List.pair_mem_product.1 hp).1 i
    rw [show c.planCatalog.lookupKey p i = c.planCatalog.lookupKey q j from heq,
      parse_lookupKey (List.pair_mem_product.1 hq).1 j] at hread
    exact (Option.some.inj hread).symm
  · exact c.packCatalog.keys_nodup.of_map.map_on fun p hp q hq => packLookupKey_injective hp hq
  · intro key hkey key' hkey' heq
    obtain ⟨⟨p, i⟩, hp, rfl⟩ := List.mem_map.1 hkey
    obtain ⟨pack, hpack, rfl⟩ := List.mem_map.1 hkey'
    exact packLookupKey_ne (List.pair_mem_product.1 hp).1 i hpack heq.symm

end Catalog

/-- Lookup keys that tell the offers of a catalog apart. -/
structure Catalog.Unambiguous (c : Catalog u) : Prop where
  distinct : c.lookupKeys.Nodup
  reads : ∀ p ∈ c.planCatalog.plans, ∀ i,
    c.planCatalog.parseLookupKey (some (c.planCatalog.lookupKey p i)) = some (p, i)
  exact : ∀ key p i, c.planCatalog.parseLookupKey key = some (p, i) →
    p ∈ c.planCatalog.plans ∧ key = some (c.planCatalog.lookupKey p i)
  packs : ∀ pack ∈ c.packCatalog.packs, ∃ key,
    c.packCatalog.creditPackLookupKey pack.key = .ok key ∧ key ∈ c.lookupKeys ∧
      c.planCatalog.parseLookupKey (some key) = none

/-- **Catalog keys are unambiguous**: a Price key names at most one offer. The keys of all plans
    and packs are distinct, each is read back as the offer it was written for, and a key that is
    read as a plan is exactly the one that this plan writes. -/
theorem catalog_keys_unambiguous (c : Catalog u) : c.Unambiguous where
  distinct := Catalog.lookupKeys_nodup
  reads _ hp i := Catalog.parse_lookupKey hp i
  exact key p i h := by
    cases key with
    | none =>
      have hempty : splitUnderscore ((none : Option String).getD "") = [""] := by decide
      rw [PlanCatalog.parseLookupKey, hempty] at h
      cases h
    | some s =>
      obtain ⟨hp, hs⟩ := PlanCatalog.parseLookupKey_eq h
      exact ⟨hp, congrArg some hs⟩
  packs pack hpack :=
    ⟨_, Catalog.creditPackLookupKey_eq hpack,
      List.mem_append_right _ (List.mem_map_of_mem hpack), Catalog.parse_packLookupKey hpack⟩

end StripeEntitlements
