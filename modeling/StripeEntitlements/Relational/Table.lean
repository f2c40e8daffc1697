import Mathlib.Algebra.Order.BigOperators.Group.List
import Mathlib.Algebra.Order.Ring.Int
import Mathlib.Data.List.Nodup
import Mathlib.Data.List.Pairwise
import Mathlib.Data.List.Sort
import Mathlib.Tactic.Linarith
import Mathlib.Tactic.Ring

/-!
# Validated Relational Tables

A small library for programs whose state lives in a relational database. A `Table R`
is a list of rows in insertion order that satisfies the constraints the database
checks on every statement: the primary key, the row `check` and the (partial) unique
indexes. A statement that would break one of them returns `none`, so a table value
with an invalid row cannot be built.

## Main results

- `Table.commit?_eq_some` — a statement succeeds exactly when the new rows are valid
- `Table.find?_update_self`, `Table.find?_update_ne` — point lookups after an update
- `Table.Grows` — statements keep the columns no statement writes
- `Table.total_update`, `Table.total_insert` — how a sum over all rows changes
-/

namespace StripeEntitlements.Relational

/-- The declared constraints of one relation. An index maps a row to the tuple it must
    not share with another row, or to `none` where a partial index does not apply. -/
class Relation (R : Type) (K : outParam Type) where
  key : R → K
  check : R → Bool
  indexes : List (R → Option (List String))

/-! ## Tables -/

/-- What the database guarantees about the rows of a relation after every statement. -/
structure ValidRows {R K : Type} [Relation R K] (rows : List R) : Prop where
  keys_nodup : (rows.map Relation.key).Nodup
  checked : ∀ r ∈ rows, Relation.check r = true
  indexed : ∀ ix ∈ (Relation.indexes : List (R → Option (List String))),
    (rows.filterMap ix).Nodup

instance {R K : Type} [Relation R K] [DecidableEq K] (rows : List R) :
    Decidable (ValidRows rows) :=
  decidable_of_iff
    ((rows.map Relation.key).Nodup ∧ (∀ r ∈ rows, Relation.check r = true) ∧
      ∀ ix ∈ (Relation.indexes : List (R → Option (List String))), (rows.filterMap ix).Nodup)
    ⟨fun h => ⟨h.1, h.2.1, h.2.2⟩, fun h => ⟨h.1, h.2, h.3⟩⟩

/-- Rows in insertion order, together with the constraints they satisfy. -/
@[ext]
structure Table (R : Type) {K : Type} [Relation R K] where
  rows : List R
  valid : ValidRows rows

namespace Table

variable {R K : Type} [Relation R K]

/-- The table without rows. -/
def empty : Table R where
  rows := []
  valid := ⟨by simp, by simp, by simp⟩

instance : Inhabited (Table R) := ⟨empty⟩

/-- The table of one row. -/
def singleton (r : R) (h : Relation.check r = true) : Table R where
  rows := [r]
  valid := by
    refine ⟨by simp, by simpa using h, fun ix _ => ?_⟩
    cases hr : ix r <;> simp [hr]

variable [DecidableEq K]

/-- Install new rows, or fail with a constraint violation. -/
def commit? (rows : List R) : Option (Table R) :=
  if h : ValidRows rows then some ⟨rows, h⟩ else none

/-- `select … where key = k`. -/
def find? (t : Table R) (k : K) : Option R :=
  t.rows.find? fun r => Relation.key r = k

/-- `select … where p` in insertion order. -/
def select (t : Table R) (p : R → Bool) : List R :=
  t.rows.filter p

/-- `order by key`. -/
def orderBy {α κ : Type} [LinearOrder κ] (key : α → κ) (rows : List α) : List α :=
  rows.insertionSort fun a b => key a ≤ key b

/-- `insert into … values (r)`. -/
def insert? (t : Table R) (r : R) : Option (Table R) :=
  commit? (t.rows ++ [r])

/-- `update … set f where p`. -/
def updateWhere? (t : Table R) (p : R → Bool) (f : R → R) : Option (Table R) :=
  commit? (t.rows.map fun r => if p r then f r else r)

/-- `update … set f where key = k`. -/
def update? (t : Table R) (k : K) (f : R → R) : Option (Table R) :=
  t.updateWhere? (fun r => Relation.key r = k) f

omit [DecidableEq K] in
theorem ValidRows.filter {rows : List R} (h : ValidRows rows) (p : R → Bool) :
    ValidRows (rows.filter p) where
  keys_nodup := h.keys_nodup.sublist (List.filter_sublist.map _)
  checked r hr := h.checked r (List.mem_of_mem_filter hr)
  indexed ix hix := (h.indexed ix hix).sublist (List.filter_sublist.filterMap _)

/-- `delete from … where p`. A deletion cannot violate a constraint. -/
def deleteWhere (t : Table R) (p : R → Bool) : Table R where
  rows := t.rows.filter fun r => !p r
  valid := ValidRows.filter t.valid _

/-! ## Statements that succeed -/

@[simp] theorem commit?_eq_some {rows : List R} {t : Table R} :
    commit? rows = some t ↔ t.rows = rows := by
  constructor
  · intro h
    unfold commit? at h
    split at h
    · exact (Option.some.inj h) ▸ rfl
    · cases h
  · rintro rfl
    exact dif_pos t.valid

@[simp] theorem insert?_eq_some {t t' : Table R} {r : R} :
    t.insert? r = some t' ↔ t'.rows = t.rows ++ [r] := commit?_eq_some

@[simp] theorem updateWhere?_eq_some {t t' : Table R} {p : R → Bool} {f : R → R} :
    t.updateWhere? p f = some t' ↔ t'.rows = t.rows.map fun r => if p r then f r else r :=
  commit?_eq_some

@[simp] theorem update?_eq_some {t t' : Table R} {k : K} {f : R → R} :
    t.update? k f = some t' ↔
      t'.rows = t.rows.map fun r => if Relation.key r = k then f r else r := by
  simp [update?]

/-- An update that changes no row succeeds and returns the same table. -/
theorem updateWhere?_of_fixed {t : Table R} {p : R → Bool} {f : R → R}
    (h : ∀ r ∈ t.rows, p r = true → f r = r) : t.updateWhere? p f = some t := by
  rw [updateWhere?_eq_some]
  have hmap : (t.rows.map fun r => if p r then f r else r) = t.rows.map id := by
    refine List.map_congr_left fun r hr => ?_
    split
    · exact h r hr ‹_›
    · rfl
  rw [hmap, List.map_id]

theorem update?_of_fixed {t : Table R} {k : K} {f : R → R}
    (h : ∀ r ∈ t.rows, Relation.key r = k → f r = r) : t.update? k f = some t :=
  updateWhere?_of_fixed fun r hr hk => h r hr (by simpa using hk)

theorem updateWhere?_congr {t : Table R} {p q : R → Bool} {f : R → R}
    (h : ∀ r ∈ t.rows, p r = q r) : t.updateWhere? p f = t.updateWhere? q f := by
  unfold updateWhere?
  congr 1
  refine List.map_congr_left fun r hr => ?_
  rw [h r hr]

/-- An update that keeps keys and index tuples succeeds when the rows it writes pass their
    checks. -/
theorem updateWhere?_isSome {t : Table R} {p : R → Bool} {f : R → R}
    (hkey : ∀ r, Relation.key (f r) = Relation.key r)
    (hcheck : ∀ r ∈ t.rows, p r = true → Relation.check (f r) = true)
    (hindex : ∀ ix ∈ (Relation.indexes : List (R → Option (List String))), ∀ r, ix (f r) = ix r) :
    ∃ t', t.updateWhere? p f = some t' := by
  let g : R → R := fun r => if p r then f r else r
  -- a column that `f` keeps is kept by the conditional update
  have hg : ∀ {β : Type} (h : R → β), (∀ r, h (f r) = h r) → h ∘ g = h := by
    intro β h hf
    funext r
    simp only [Function.comp_apply, g]
    split
    · exact hf r
    · rfl
  have hvalid : ValidRows (t.rows.map g) := by
    -- keys, checks and indexes in turn
    refine ⟨?_, ?_, fun ix hix => ?_⟩
    · rw [List.map_map, hg Relation.key hkey]
      exact t.valid.keys_nodup
    · intro r' hr'
      obtain ⟨r, hr, rfl⟩ := List.mem_map.1 hr'
      simp only [g]
      split
      · exact hcheck r hr ‹_›
      · exact t.valid.checked r hr
    · rw [List.filterMap_map, hg ix (hindex ix hix)]
      exact t.valid.indexed ix hix
  exact ⟨⟨_, hvalid⟩, updateWhere?_eq_some.2 rfl⟩

/-- An update that writes no column of a constraint succeeds. -/
theorem update?_isSome {t : Table R} {k : K} {f : R → R}
    (hkey : ∀ r, Relation.key (f r) = Relation.key r)
    (hcheck : ∀ r, Relation.check (f r) = Relation.check r)
    (hindex : ∀ ix ∈ (Relation.indexes : List (R → Option (List String))), ∀ r, ix (f r) = ix r) :
    ∃ t', t.update? k f = some t' :=
  updateWhere?_isSome hkey (fun r hr _ => (hcheck r).trans (t.valid.checked r hr)) hindex

/-- An update of one row succeeds when no other row has the index tuples it writes. -/
theorem update?_isSome_of_fresh {t : Table R} {k : K} {f : R → R}
    (hkey : ∀ r, Relation.key (f r) = Relation.key r)
    (hcheck : ∀ r, Relation.check (f r) = Relation.check r)
    (hindex : ∀ ix ∈ (Relation.indexes : List (R → Option (List String))), ∀ r ∈ t.rows,
      Relation.key r = k → ∀ x, ix (f r) = some x → ∀ r' ∈ t.rows, ix r' = some x →
        Relation.key r' = k) :
    ∃ t', t.update? k f = some t' := by
  let g : R → R := fun r => if Relation.key r = k then f r else r
  have hg : ∀ r, Relation.key (g r) = Relation.key r := by
    intro r
    simp only [g]
    split
    · exact hkey r
    · rfl
  have hvalid : ValidRows (t.rows.map g) := by
    refine ⟨?_, ?_, fun ix hix => ?_⟩
    · rw [List.map_map, show Relation.key ∘ g = Relation.key from funext hg]
      exact t.valid.keys_nodup
    · intro r' hr'
      obtain ⟨r, hr, rfl⟩ := List.mem_map.1 hr'
      simp only [g]
      split
      · exact (hcheck r).trans (t.valid.checked r hr)
      · exact t.valid.checked r hr
    -- two rows differ in their keys, so at most one of them is the row that was written
    · rw [List.filterMap_map, List.Nodup, List.pairwise_filterMap]
      have hold := List.pairwise_filterMap.1 (t.valid.indexed ix hix)
      have hkeys := List.pairwise_map.1 t.valid.keys_nodup
      refine (hold.and hkeys).imp_of_mem fun {a b} ha hb ⟨hne, hab⟩ x hx y hy hxy => ?_
      simp only [Function.comp_apply, g] at hx hy
      subst hxy
      split at hx
      case isTrue hk =>
        rw [if_neg fun hk' => hab (hk.trans hk'.symm)] at hy
        exact hab (hk.trans (hindex ix hix a ha hk x hx b hb hy).symm)
      case isFalse hk =>
        split at hy
        case isTrue hk' => exact hk (hindex ix hix b hb hk' x hy a ha hx)
        case isFalse => exact hne x hx x hy rfl
  exact ⟨⟨_, hvalid⟩, update?_eq_some.2 rfl⟩

/-- A row with a fresh key and fresh index tuples can be inserted. -/
theorem insert?_isSome {t : Table R} {r : R} (hkey : t.find? (Relation.key r) = none)
    (hcheck : Relation.check r = true)
    (hindex : ∀ ix ∈ (Relation.indexes : List (R → Option (List String))), ∀ x, ix r = some x →
      ∀ r' ∈ t.rows, ix r' ≠ some x) :
    ∃ t', t.insert? r = some t' := by
  have hvalid : ValidRows (t.rows ++ [r]) := by
    -- the new row's key is fresh, its check passes, and its index tuples are on no other row
    refine ⟨?_, fun r' hr' => ?_, fun ix hix => ?_⟩
    · rw [List.map_append, List.nodup_append]
      refine ⟨t.valid.keys_nodup, by simp, fun k hk k' hk' => ?_⟩
      obtain ⟨r', hr', rfl⟩ := List.mem_map.1 hk
      rw [List.map_singleton, List.mem_singleton] at hk'
      subst hk'
      exact fun heq => List.find?_eq_none.1 hkey r' hr' (decide_eq_true heq)
    · rcases List.mem_append.1 hr' with hr' | hr'
      · exact t.valid.checked r' hr'
      · exact List.mem_singleton.1 hr' ▸ hcheck
    · rw [List.filterMap_append, List.nodup_append]
      refine ⟨t.valid.indexed ix hix, ?_, fun x hx x' hx' => ?_⟩
      · cases hr : ix r <;> simp [hr]
      · obtain ⟨r₁, hr₁, hx₁⟩ := List.mem_filterMap.1 hx
        obtain ⟨r₂, hr₂, hx₂⟩ := List.mem_filterMap.1 hx'
        rw [List.mem_singleton] at hr₂
        subst hr₂
        rintro rfl
        exact hindex ix hix x hx₂ r₁ hr₁ hx₁
  exact ⟨⟨_, hvalid⟩, insert?_eq_some.2 rfl⟩

/-- An update of one row changes it in place. -/
theorem update?_split {t t' : Table R} {r : R} {f : R → R} (hr : r ∈ t.rows)
    (h : t.update? (Relation.key r) f = some t') :
    ∃ before after, t.rows = before ++ r :: after ∧ t'.rows = before ++ f r :: after := by
  obtain ⟨before, after, hrows⟩ := List.append_of_mem hr
  have hnodup := t.valid.keys_nodup
  rw [hrows, List.map_append, List.map_cons, List.nodup_middle, List.nodup_cons] at hnodup
  have hne : ∀ x ∈ before ++ after,
      (if Relation.key x = Relation.key r then f x else x) = x := by
    intro x hx
    refine if_neg fun heq => hnodup.1 ?_
    rw [← heq, ← List.map_append]
    exact List.mem_map_of_mem hx
  refine ⟨before, after, hrows, ?_⟩
  rw [update?_eq_some.1 h, hrows, List.map_append, List.map_cons, if_pos rfl]
  rw [List.map_congr_left fun x hx => hne x (List.mem_append_left _ hx), List.map_id',
    List.map_congr_left fun x hx => hne x (List.mem_append_right _ hx), List.map_id']

/-! ## Point lookups -/

theorem find?_mem {t : Table R} {k : K} {r : R} (h : t.find? k = some r) : r ∈ t.rows :=
  List.mem_of_find?_eq_some h

theorem find?_key {t : Table R} {k : K} {r : R} (h : t.find? k = some r) :
    Relation.key r = k := by
  simpa using List.find?_some h

omit [DecidableEq K] in
/-- The primary key identifies a row. -/
theorem eq_of_key_eq (t : Table R) {r r' : R} (hr : r ∈ t.rows) (hr' : r' ∈ t.rows)
    (h : Relation.key r = Relation.key r') : r = r' :=
  List.inj_on_of_nodup_map t.valid.keys_nodup hr hr' h

omit [DecidableEq K] in
/-- A unique index identifies a row. -/
theorem eq_of_index_eq (t : Table R) {ix : R → Option (List String)}
    (hix : ix ∈ (Relation.indexes : List (R → Option (List String)))) {r r' : R}
    (hr : r ∈ t.rows) (hr' : r' ∈ t.rows) {x : List String} (hx : ix r = some x)
    (hx' : ix r' = some x) : r = r' := by
  have hpair := List.pairwise_filterMap.1 (t.valid.indexed ix hix)
  by_contra hne
  have : Std.Symm fun a b : R => ∀ c, ix a = some c → ∀ d, ix b = some d → c ≠ d :=
    ⟨fun a b h c hc d hd heq => h d hd c hc heq.symm⟩
  exact hpair.forall hr hr' hne x hx x hx' rfl

theorem find?_eq_some_iff {t : Table R} {k : K} {r : R} :
    t.find? k = some r ↔ r ∈ t.rows ∧ Relation.key r = k := by
  constructor
  · exact fun h => ⟨find?_mem h, find?_key h⟩
  · rintro ⟨hr, hk⟩
    have hsome : (t.rows.find? fun r => Relation.key r = k).isSome := by
      rw [List.find?_isSome]
      exact ⟨r, hr, by simpa using hk⟩
    obtain ⟨r', hr'⟩ := Option.isSome_iff_exists.1 hsome
    have hfind : t.find? k = some r' := hr'
    rw [hfind, t.eq_of_key_eq (find?_mem hfind) hr ((find?_key hfind).trans hk.symm)]

theorem find?_eq_none_iff {t : Table R} {k : K} :
    t.find? k = none ↔ ∀ r ∈ t.rows, Relation.key r ≠ k := by
  simp [find?]

theorem find?_of_mem {t : Table R} {r : R} (hr : r ∈ t.rows) :
    t.find? (Relation.key r) = some r := find?_eq_some_iff.2 ⟨hr, rfl⟩

/-- An update of one row under a guard that the row passes. -/
theorem update?_of_guarded {t : Table R} {k : K} {p : R → Bool} {f : R → R} {r : R}
    (hr : t.find? k = some r) (hp : p r = true) :
    t.update? k f = t.updateWhere? (fun x => Relation.key x = k && p x) f := by
  refine updateWhere?_congr fun x hx => ?_
  by_cases hk : Relation.key x = k
  · have hfind : t.find? k = some x := find?_eq_some_iff.2 ⟨hx, hk⟩
    rw [hr, Option.some.injEq] at hfind
    simp [← hfind, hp]
  · simp [hk]

/-- The rows that an update writes decide it. -/
theorem update?_congr {t : Table R} {k : K} {f g : R → R}
    (h : ∀ r, t.find? k = some r → f r = g r) : t.update? k f = t.update? k g := by
  unfold update? updateWhere?
  congr 1
  refine List.map_congr_left fun r hr => ?_
  by_cases hk : Relation.key r = k
  · simp [hk, h r (find?_eq_some_iff.2 ⟨hr, hk⟩)]
  · simp [hk]

/-- A lookup after an update that keeps primary keys. -/
theorem find?_updateWhere {t t' : Table R} {p : R → Bool} {f : R → R}
    (h : t.updateWhere? p f = some t') (hkey : ∀ r, Relation.key (f r) = Relation.key r) (k : K) :
    t'.find? k = (t.find? k).map fun r => if p r then f r else r := by
  rw [updateWhere?_eq_some] at h
  unfold find?
  rw [h, List.find?_map]
  congr 2
  funext r
  simp only [Function.comp_apply]
  split <;> simp [hkey]

theorem find?_update_self {t t' : Table R} {k : K} {f : R → R}
    (h : t.update? k f = some t') (hkey : ∀ r, Relation.key (f r) = Relation.key r) :
    t'.find? k = (t.find? k).map f := by
  rw [find?_updateWhere h hkey]
  cases hf : t.find? k with
  | none => rfl
  | some r => simp [find?_key hf]

theorem find?_update_ne {t t' : Table R} {k k' : K} {f : R → R}
    (h : t.update? k f = some t') (hkey : ∀ r, Relation.key (f r) = Relation.key r)
    (hne : k' ≠ k) : t'.find? k' = t.find? k' := by
  rw [find?_updateWhere h hkey]
  cases hf : t.find? k' with
  | none => rfl
  | some r => simp [find?_key hf, hne]

theorem find?_insert {t t' : Table R} {r : R} (h : t.insert? r = some t') (k : K) :
    t'.find? k = if Relation.key r = k then some r else t.find? k := by
  have hrows := insert?_eq_some.1 h
  have hnodup := t'.valid.keys_nodup
  rw [hrows, List.map_append, List.nodup_append] at hnodup
  split
  case isTrue hk =>
    exact find?_eq_some_iff.2 ⟨by simp [hrows], hk⟩
  case isFalse hk =>
    unfold find?
    rw [hrows, List.find?_append]
    simp [hk]

/-- A row inserted with a fresh key: no earlier row had it. -/
theorem find?_eq_none_of_insert {t t' : Table R} {r : R} (h : t.insert? r = some t') :
    t.find? (Relation.key r) = none := by
  have hnodup := t'.valid.keys_nodup
  rw [insert?_eq_some.1 h, List.map_append, List.nodup_append] at hnodup
  rw [find?_eq_none_iff]
  intro r' hr'
  exact hnodup.2.2 _ (List.mem_map_of_mem hr') _ (by simp)

/-! ## Columns that never change -/

/-- The static part `s` of every row stays, and new rows come after the old ones. -/
def Grows {S : Type} (s : R → S) (t t' : Table R) : Prop :=
  t.rows.map s <+: t'.rows.map s

section

variable {S : Type} {s : R → S}

omit [DecidableEq K] in
theorem Grows.refl (t : Table R) : Grows s t t := List.prefix_refl _

omit [DecidableEq K] in
theorem Grows.trans {t t' t'' : Table R} (h : Grows s t t') (h' : Grows s t' t'') :
    Grows s t t'' := List.IsPrefix.trans h h'

theorem Grows.insert {t t' : Table R} {r : R} (h : t.insert? r = some t') : Grows s t t' := by
  unfold Grows
  rw [insert?_eq_some.1 h, List.map_append]
  exact List.prefix_append _ _

theorem map_updateWhere {t t' : Table R} {p : R → Bool} {f : R → R}
    (hf : ∀ r, s (f r) = s r) (h : t.updateWhere? p f = some t') :
    t'.rows.map s = t.rows.map s := by
  rw [updateWhere?_eq_some.1 h, List.map_map]
  refine List.map_congr_left fun r _ => ?_
  simp only [Function.comp_apply]
  split
  · exact hf r
  · rfl

omit [DecidableEq K] in
/-- The same static parts, row for row. -/
theorem Grows.of_map_eq {t t' : Table R} (h : t'.rows.map s = t.rows.map s) : Grows s t t' :=
  ⟨[], (List.append_nil _).trans h.symm⟩

theorem Grows.updateWhere {t t' : Table R} {p : R → Bool} {f : R → R}
    (hf : ∀ r, s (f r) = s r) (h : t.updateWhere? p f = some t') : Grows s t t' :=
  .of_map_eq (map_updateWhere hf h)

theorem Grows.update {t t' : Table R} {k : K} {f : R → R}
    (hf : ∀ r, s (f r) = s r) (h : t.update? k f = some t') : Grows s t t' :=
  Grows.updateWhere hf h

omit [DecidableEq K] in
theorem Grows.exists_mem {t t' : Table R} (h : Grows s t t') {r : R} (hr : r ∈ t.rows) :
    ∃ r' ∈ t'.rows, s r' = s r :=
  List.mem_map.1 (h.subset (List.mem_map_of_mem hr))

/-- A row found by its key is found again, with the same static part. -/
theorem Grows.find? {t t' : Table R} (h : Grows s t t') (key : S → K)
    (hkey : ∀ r, key (s r) = Relation.key r) {k : K} {r : R} (hr : t.find? k = some r) :
    ∃ r', t'.find? k = some r' ∧ s r' = s r := by
  obtain ⟨r', hr', hs⟩ := h.exists_mem (find?_mem hr)
  refine ⟨r', find?_eq_some_iff.2 ⟨hr', ?_⟩, hs⟩
  rw [← hkey, hs, hkey, find?_key hr]

end

/-! ## Append-only tables -/

/-- New rows come after the old ones, and all of them satisfy `P`. -/
def Appends (P : R → Prop) (t t' : Table R) : Prop :=
  ∃ rows, t'.rows = t.rows ++ rows ∧ ∀ r ∈ rows, P r

section

variable {P : R → Prop} {t t' t'' : Table R}

omit [DecidableEq K] in
theorem Appends.refl (t : Table R) : Appends P t t :=
  ⟨[], (List.append_nil _).symm, fun _ hr => absurd hr List.not_mem_nil⟩

omit [DecidableEq K] in
theorem Appends.trans (h : Appends P t t') (h' : Appends P t' t'') : Appends P t t'' := by
  obtain ⟨rows, hrows, hP⟩ := h
  obtain ⟨rows', hrows', hP'⟩ := h'
  refine ⟨rows ++ rows', by rw [hrows', hrows, List.append_assoc], fun r hr => ?_⟩
  rcases List.mem_append.1 hr with hr | hr
  · exact hP r hr
  · exact hP' r hr

theorem Appends.insert {r : R} (h : t.insert? r = some t') (hr : P r) :
    Appends P t t' :=
  ⟨[r], insert?_eq_some.1 h, by simpa using hr⟩

omit [DecidableEq K] in
theorem Appends.mem (h : Appends P t t') {r : R} (hr : r ∈ t.rows) : r ∈ t'.rows := by
  obtain ⟨rows, hrows, -⟩ := h
  exact hrows ▸ List.mem_append_left _ hr

omit [DecidableEq K] in
/-- A row of the later table is an old one or satisfies `P`. -/
theorem Appends.mem_or (h : Appends P t t') {r : R} (hr : r ∈ t'.rows) : r ∈ t.rows ∨ P r := by
  obtain ⟨rows, hrows, hP⟩ := h
  rw [hrows] at hr
  exact (List.mem_append.1 hr).imp id (hP r)

omit [DecidableEq K] in
/-- A selection that the new rows do not meet stays the same. -/
theorem Appends.select_eq (h : Appends P t t') {p : R → Bool} (hp : ∀ r, P r → p r = false) :
    t'.select p = t.select p := by
  obtain ⟨rows, hrows, hP⟩ := h
  have hnew : rows.filter p = [] :=
    List.filter_eq_nil_iff.2 fun r hr => by simp [hp r (hP r hr)]
  rw [select, select, hrows, List.filter_append, hnew, List.append_nil]

end

/-! ## Ordered selections -/

omit [DecidableEq K] in
theorem orderBy_perm {α κ : Type} [LinearOrder κ] (key : α → κ) (rows : List α) :
    (orderBy key rows).Perm rows := List.perm_insertionSort _ rows

@[simp] theorem mem_orderBy {α κ : Type} [LinearOrder κ] {key : α → κ} {rows : List α} {a : α} :
    a ∈ orderBy key rows ↔ a ∈ rows := (orderBy_perm key rows).mem_iff

theorem orderBy_pairwise {α κ : Type} [LinearOrder κ] (key : α → κ) (rows : List α) :
    (orderBy key rows).Pairwise fun a b => key a ≤ key b := by
  have : Std.Total fun a b : α => key a ≤ key b := ⟨fun a b => le_total (key a) (key b)⟩
  have : IsTrans α fun a b => key a ≤ key b := ⟨fun _ _ _ => le_trans⟩
  exact List.pairwise_insertionSort _ rows

omit [DecidableEq K] in
theorem map_orderBy {α β κ : Type} [LinearOrder κ] {f : α → β} {key : α → κ} {key' : β → κ}
    (h : ∀ a, key' (f a) = key a) (rows : List α) :
    (orderBy key rows).map f = orderBy key' (rows.map f) := by
  unfold orderBy
  refine List.map_insertionSort _ _ f rows fun a _ b _ => ?_
  rw [h, h]

/-- An ordered list is determined by its elements when the key tells them apart. -/
theorem orderBy_eq_of_perm {α κ : Type} [LinearOrder κ] {key : α → κ} {rows sorted : List α}
    (hinj : ∀ a ∈ rows, ∀ b ∈ rows, key a = key b → a = b)
    (hsorted : sorted.Pairwise fun a b => key a ≤ key b) (hperm : sorted.Perm rows) :
    orderBy key rows = sorted := by
  have hanti : ∀ a b, a ∈ orderBy key rows → b ∈ sorted → key a ≤ key b → key b ≤ key a →
      a = b := fun a b ha hb hab hba =>
    hinj a (mem_orderBy.1 ha) b (hperm.mem_iff.1 hb) (le_antisymm hab hba)
  exact List.Perm.eq_of_pairwise hanti (orderBy_pairwise key rows) hsorted
    ((orderBy_perm key rows).trans hperm.symm)

/-! ## Sums over all rows -/

/-- The sum of a weight over all rows. -/
def total (w : R → ℤ) (t : Table R) : ℤ := (t.rows.map w).sum

omit [DecidableEq K] in
/-- A sum over selected rows. -/
theorem total_ite {w : R → ℤ} {p : R → Prop} [DecidablePred p] {q : R → Bool}
    (h : ∀ r, q r = true ↔ p r) (t : Table R) :
    (t.total fun r => if p r then w r else 0) = ((t.select q).map w).sum := by
  unfold total select
  induction t.rows with
  | nil => rfl
  | cons r rows ih =>
    rw [List.map_cons, List.sum_cons, ih, List.filter_cons]
    by_cases hp : p r
    · rw [if_pos hp, if_pos ((h r).2 hp), List.map_cons, List.sum_cons]
    · rw [if_neg hp, if_neg fun hq => hp ((h r).1 hq), zero_add]

theorem total_insert {w : R → ℤ} {t t' : Table R} {r : R} (h : t.insert? r = some t') :
    t'.total w = t.total w + w r := by
  simp [total, insert?_eq_some.1 h]

theorem total_updateWhere {w : R → ℤ} {t t' : Table R} {p : R → Bool} {f : R → R}
    (h : t.updateWhere? p f = some t') :
    t'.total w = t.total fun r => if p r then w (f r) else w r := by
  simp only [total, updateWhere?_eq_some.1 h, List.map_map]
  congr 1
  refine List.map_congr_left fun r _ => ?_
  simp only [Function.comp_apply]
  split <;> rfl

private theorem sum_map_replace {w v : R → ℤ} {r : R} :
    ∀ {rows : List R}, (rows.map Relation.key).Nodup → r ∈ rows →
      (rows.map fun x => if Relation.key x = Relation.key r then v x else w x).sum
        = (rows.map w).sum + (v r - w r)
  | [], _, hr => absurd hr List.not_mem_nil
  | x :: xs, hnodup, hr => by
    rw [List.map_cons, List.nodup_cons] at hnodup
    rcases List.mem_cons.1 hr with rfl | hr
    · have hrest : ∀ y ∈ xs, Relation.key y ≠ Relation.key r := by
        intro y hy heq
        exact hnodup.1 (heq ▸ List.mem_map_of_mem hy)
      have htail : (xs.map fun x => if Relation.key x = Relation.key r then v x else w x)
          = xs.map w := List.map_congr_left fun y hy => if_neg (hrest y hy)
      simp only [List.map_cons, List.sum_cons, if_true, htail]
      ring
    · have hne : Relation.key x ≠ Relation.key r := by
        intro heq
        exact hnodup.1 (heq ▸ List.mem_map_of_mem hr)
      simp only [List.map_cons, List.sum_cons, if_neg hne, sum_map_replace hnodup.2 hr]
      ring

/-- Updating the row `r` moves the sum by the change of its weight. -/
theorem total_update {w : R → ℤ} {t t' : Table R} {k : K} {f : R → R} {r : R}
    (h : t.update? k f = some t') (hr : t.find? k = some r) :
    t'.total w = t.total w + (w (f r) - w r) := by
  rw [total_updateWhere h]
  have hk := find?_key hr
  subst hk
  simpa [total] using
    sum_map_replace (w := w) (v := fun x => w (f x)) t.valid.keys_nodup (find?_mem hr)

omit [DecidableEq K] in
theorem total_nonneg {w : R → ℤ} (t : Table R) (h : ∀ r ∈ t.rows, 0 ≤ w r) :
    0 ≤ t.total w :=
  List.sum_nonneg (by simpa using h)

omit [DecidableEq K] in
/-- No single row outweighs the sum of non-negative weights. -/
theorem le_total {w : R → ℤ} {t : Table R} {r : R} (h : ∀ r ∈ t.rows, 0 ≤ w r)
    (hr : r ∈ t.rows) : w r ≤ t.total w :=
  List.single_le_sum (by simpa using h) _ (List.mem_map_of_mem hr)

omit [DecidableEq K] in
/-- A sum of smaller weights stays behind by at least what one row loses. -/
theorem total_add_le {w v : R → ℤ} {t : Table R} {r : R} (h : ∀ r ∈ t.rows, v r ≤ w r)
    (hr : r ∈ t.rows) : t.total v + (w r - v r) ≤ t.total w := by
  have hdiff : t.total (fun x => w x - v x) = t.total w - t.total v := by
    unfold total
    induction t.rows with
    | nil => rfl
    | cons x xs ih =>
      simp only [List.map_cons, List.sum_cons, ih]
      ring
  have hle : w r - v r ≤ t.total fun x => w x - v x :=
    le_total (fun x hx => sub_nonneg.2 (h x hx)) hr
  rw [hdiff] at hle
  linarith

end Table

end StripeEntitlements.Relational
