import Mathlib.Data.Option.Defs
import StripeEntitlements.Relational.Table

/-!
# Evolution of Rows

A table evolves when no row comes or goes and each row moves along a relation. Statements that
only update rows evolve their table; a relation that is a preorder is kept along any run of
them.

## Main results

- `Table.Evolves` — row by row, along a relation
- `Table.Evolves.trans`, `Table.Evolves.updateWhere`, `Table.Evolves.update`
- `Table.Evolves.before`, `Table.Evolves.after` — the row that a row came from, and became
-/

namespace StripeEntitlements.Relational

namespace Table

variable {R K : Type} [DecidableEq K] [Relation R K] {P : R → R → Prop} {t t' t'' : Table R}

/-- Each row of `t'` is a row of `t` that moved along `P`, and none is lost. -/
def Evolves (P : R → R → Prop) (t t' : Table R) : Prop :=
  ∀ k, Option.Rel P (t.find? k) (t'.find? k)

namespace Evolves

theorem refl (hrefl : ∀ r, P r r) (t : Table R) : Evolves P t t := by
  intro k
  cases t.find? k with
  | none => exact .none
  | some r => exact .some (hrefl r)

theorem of_eq (hrefl : ∀ r, P r r) (h : t' = t) : Evolves P t t' := h ▸ refl hrefl t

theorem trans (htrans : ∀ {r r' r''}, P r r' → P r' r'' → P r r'') (h : Evolves P t t')
    (h' : Evolves P t' t'') : Evolves P t t'' := by
  intro k
  have hk := h k
  have hk' := h' k
  generalize t.find? k = a at hk ⊢
  generalize t'.find? k = c at hk hk'
  generalize t''.find? k = d at hk' ⊢
  cases hk with
  | none =>
    cases hk'
    exact .none
  | some hp =>
    cases hk' with
    | some hp' => exact .some (htrans hp hp')

theorem updateWhere {p : R → Bool} {f : R → R} (hrefl : ∀ r, P r r)
    (h : t.updateWhere? p f = some t') (hkey : ∀ r, Relation.key (f r) = Relation.key r)
    (hf : ∀ r ∈ t.rows, p r = true → P r (f r)) : Evolves P t t' := by
  intro k
  rw [find?_updateWhere h hkey]
  cases hr : t.find? k with
  | none => exact .none
  | some r =>
    rw [Option.map_some]
    apply Option.Rel.some
    split
    case isTrue hp => exact hf r (find?_mem hr) hp
    case isFalse => exact hrefl r

theorem update {k : K} {f : R → R} (hrefl : ∀ r, P r r) (h : t.update? k f = some t')
    (hkey : ∀ r, Relation.key (f r) = Relation.key r) (hf : ∀ r, P r (f r)) : Evolves P t t' :=
  updateWhere hrefl h hkey fun r _ _ => hf r

/-- The row that a row came from. -/
theorem before (h : Evolves P t t') {r' : R} (hr' : r' ∈ t'.rows) :
    ∃ r ∈ t.rows, Relation.key r = Relation.key r' ∧ P r r' := by
  have hk := h (Relation.key r')
  rw [find?_of_mem hr'] at hk
  cases hr : t.find? (Relation.key r') with
  | none =>
    rw [hr] at hk
    cases hk
  | some r =>
    rw [hr] at hk
    cases hk with
    | some hp => exact ⟨r, find?_mem hr, find?_key hr, hp⟩

/-- The row that a row became. -/
theorem after (h : Evolves P t t') {r : R} (hr : r ∈ t.rows) :
    ∃ r' ∈ t'.rows, Relation.key r' = Relation.key r ∧ P r r' := by
  have hk := h (Relation.key r)
  rw [find?_of_mem hr] at hk
  cases hr' : t'.find? (Relation.key r) with
  | none =>
    rw [hr'] at hk
    cases hk
  | some r' =>
    rw [hr'] at hk
    cases hk with
    | some hp => exact ⟨r', find?_mem hr', find?_key hr', hp⟩

end Evolves

end Table

end StripeEntitlements.Relational
