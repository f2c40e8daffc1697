import StripeEntitlements.Relational.Table

/-!
# Tenants of a Table

Rows that carry an owner column. A transaction acts for one tenant, or for none: the rows
of every other tenant stay as they are, in their order, and a row that has an owner keeps
it. Rows without an owner may be adopted by the tenant the transaction acts for.

## Main results

- `Table.Confined` — what one table shows of a transaction that acts for `who`
- `Table.Confined.adopt`, `Table.Confined.insert` — the statements that stay confined
- `Table.Owns.owner_eq` — an owned key has no other owner
-/

namespace StripeEntitlements.Relational

/-- Mapping over a list and then filtering, when the map changes no element of the filter. -/
theorem filter_map_of_fixed {R : Type} {q : R → Bool} {g : R → R} {rows : List R}
    (hsame : ∀ r ∈ rows, q (g r) = q r) (hfixed : ∀ r ∈ rows, q r = true → g r = r) :
    (rows.map g).filter q = rows.filter q := by
  induction rows with
  | nil => rfl
  | cons r rows ih =>
    have htail := ih (fun r hr => hsame r (List.mem_cons_of_mem _ hr))
      (fun r hr => hfixed r (List.mem_cons_of_mem _ hr))
    rw [List.map_cons, List.filter_cons, List.filter_cons, hsame r List.mem_cons_self, htail]
    split
    case isTrue hq => rw [hfixed r List.mem_cons_self hq]
    case isFalse => rfl

namespace Table

variable {R K T : Type} [Relation R K] [DecidableEq K] [DecidableEq T]

/-- The rows of one tenant. -/
def ownedBy (owner : R → Option T) (t : Table R) (x : T) : List R :=
  t.select fun r => owner r = some x

/-- The row with the key `k` is there and belongs to `x`. -/
def Owns (owner : R → Option T) (t : Table R) (k : K) (x : T) : Prop :=
  ∃ r, t.find? k = some r ∧ owner r = some x

/-- A transaction that acts for `who`: nobody else's rows change, and owned rows stay owned. -/
structure Confined (owner : R → Option T) (who : Option T) (t t' : Table R) : Prop where
  others : ∀ x, who ≠ some x → t'.ownedBy owner x = t.ownedBy owner x
  keeps : ∀ k x, t.Owns owner k x → t'.Owns owner k x

variable {owner : R → Option T} {who : Option T} {t t' t'' : Table R}

/-! ## Owned keys -/

omit [DecidableEq T] in
theorem Owns.of_mem {r : R} {x : T} (hr : r ∈ t.rows) (h : owner r = some x) :
    t.Owns owner (Relation.key r) x :=
  ⟨r, find?_of_mem hr, h⟩

omit [DecidableEq T] in
/-- The row of an owned key has that owner and no other. -/
theorem Owns.owner_eq {k : K} {x : T} {r : R} (h : t.Owns owner k x) (hr : r ∈ t.rows)
    (hk : Relation.key r = k) : owner r = some x := by
  obtain ⟨r', hfind, howner⟩ := h
  have hsame : r' = r := t.eq_of_key_eq (find?_mem hfind) hr ((find?_key hfind).trans hk.symm)
  exact hsame ▸ howner

omit [DecidableEq T] in
/-- A key has one owner. -/
theorem Owns.unique {k : K} {x y : T} (h : t.Owns owner k x) (h' : t.Owns owner k y) : x = y := by
  obtain ⟨r, hfind, howner⟩ := h
  have hr := h'.owner_eq (find?_mem hfind) (find?_key hfind)
  exact Option.some.inj (howner.symm.trans hr)

/-! ## Statements -/

namespace Confined

theorem refl (t : Table R) : Confined owner who t t := ⟨fun _ _ => rfl, fun _ _ h => h⟩

theorem trans (h : Confined owner who t t') (h' : Confined owner who t' t'') :
    Confined owner who t t'' where
  others x hx := (h'.others x hx).trans (h.others x hx)
  keeps k x hk := h'.keeps k x (h.keeps k x hk)

/-- An update that may give rows without an owner to the acting tenant. -/
theorem adopt {p : R → Bool} {f : R → R} (h : t.updateWhere? p f = some t')
    (hkey : ∀ r, Relation.key (f r) = Relation.key r)
    (hwho : ∀ r ∈ t.rows, p r = true → owner r = who ∧ owner (f r) = who ∨
      owner r = none ∧ (owner (f r) = none ∨ owner (f r) = who)) :
    Confined owner who t t' where
  others x hx := by
    unfold ownedBy select
    rw [updateWhere?_eq_some.1 h]
    -- no other tenant owns a row before the update and after it differently
    refine filter_map_of_fixed (fun r hr => ?_) (fun r hr hown => ?_)
    · split
      case isTrue hp =>
        rcases hwho r hr hp with ⟨h₁, h₂⟩ | ⟨h₁, h₂ | h₂⟩
        · rw [h₁, h₂]
        · rw [h₁, h₂]
        · rw [h₁, h₂]
          simp [hx]
      case isFalse => rfl
    · -- a row of another tenant is not among the updated ones
      rw [decide_eq_true_eq] at hown
      refine if_neg fun hp => ?_
      rcases hwho r hr hp with ⟨h₁, -⟩ | ⟨h₁, -⟩
      · exact hx (h₁.symm.trans hown)
      · rw [h₁] at hown
        cases hown
  keeps k x hk := by
    obtain ⟨r, hfind, howner⟩ := hk
    have hr := find?_mem hfind
    refine ⟨_, (find?_updateWhere h hkey k).trans (congrArg _ hfind), ?_⟩
    dsimp only
    -- an owned row is only written by its owner, who keeps it
    split
    case isTrue hp =>
      rcases hwho r hr hp with ⟨h₁, h₂⟩ | ⟨h₁, -⟩
      · rw [h₂, ← h₁, howner]
      · rw [h₁] at howner
        cases howner
    case isFalse => exact howner

theorem insert {r : R} (h : t.insert? r = some t') (hwho : owner r = none ∨ owner r = who) :
    Confined owner who t t' where
  others x hx := by
    have hnot : owner r ≠ some x := by
      rcases hwho with hr | hr
      · simp [hr]
      · rw [hr]
        exact hx
    simp [ownedBy, select, insert?_eq_some.1 h, hnot]
  keeps k x hk := by
    obtain ⟨r', hfind, howner⟩ := hk
    refine ⟨r', ?_, howner⟩
    have hne : Relation.key r ≠ k := by
      rintro rfl
      rw [find?_eq_none_of_insert h] at hfind
      cases hfind
    rw [find?_insert h, if_neg hne, hfind]

end Confined

omit [DecidableEq T] in
/-- The row that was inserted is owned. -/
theorem Owns.insert {r : R} {x : T} (h : t.insert? r = some t') (hr : owner r = some x) :
    t'.Owns owner (Relation.key r) x :=
  ⟨r, (find?_insert h _).trans (if_pos rfl), hr⟩

omit [DecidableEq K] in
/-- Deleting rows of one tenant leaves the rows of the others. -/
theorem ownedBy_deleteWhere {p : R → Bool} (hwho : ∀ r ∈ t.rows, p r = true → owner r = who)
    {x : T} (hx : who ≠ some x) : (t.deleteWhere p).ownedBy owner x = t.ownedBy owner x := by
  unfold ownedBy select deleteWhere
  rw [List.filter_filter]
  refine List.filter_congr fun r hr => ?_
  by_cases hp : p r = true
  · simp [hwho r hr hp, hx]
  · simp [hp]

end Table

end StripeEntitlements.Relational
