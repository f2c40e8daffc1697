import Mathlib.Logic.Relation
import Mathlib.Order.Defs.PartialOrder

/-!
# Graphs with Ascending Labels

A graph whose edges carry labels, such as the serial ids of the rows they come from. When
labels ascend along every path of two edges the graph has no cycle. A new edge keeps this
if its label is above the others and no edge leaves its end.

## Main results

- `Ascending.extend` — edges that may be added
- `Ascending.acyclic` — no path returns to its start
-/

namespace StripeEntitlements.Relational

variable {ι α : Type}

/-- Labels ascend along every path of two edges; `edge i x y` is an edge from `x` to `y`
    with label `i`. -/
def Ascending [LT ι] (edge : ι → α → α → Prop) : Prop :=
  ∀ ⦃i j x y z⦄, edge i x y → edge j y z → i < j

namespace Ascending

/-- A graph with fewer edges. -/
theorem mono [LT ι] {edge edge' : ι → α → α → Prop} (h : Ascending edge)
    (hsub : ∀ i x y, edge' i x y → edge i x y) : Ascending edge' :=
  fun i j x y z hxy hyz => h (hsub i x y hxy) (hsub j y z hyz)

/-- Every edge was there before, or has a label above the old ones and ends where no edge
    starts. -/
theorem extend [LT ι] {edge edge' : ι → α → α → Prop} (h : Ascending edge)
    (hnew : ∀ i x y, edge' i x y → edge i x y ∨
      (∀ j z, ¬ edge' j y z) ∧ ∀ j u v, edge j u v → j < i) : Ascending edge' := by
  intro i j x y z hxy hyz
  rcases hnew i x y hxy with hold | ⟨hend, -⟩
  · rcases hnew j y z hyz with hold' | ⟨-, habove⟩
    · exact h hold hold'
    · exact habove i x y hold
  · exact absurd hyz (hend j z)

variable [Preorder ι] {edge : ι → α → α → Prop}

/-- The first edge of a path has the least label. -/
theorem first_le_last (h : Ascending edge) {x y : α}
    (hpath : Relation.TransGen (fun x y => ∃ i, edge i x y) x y) :
    ∃ i j u v, edge i x u ∧ edge j v y ∧ i ≤ j := by
  induction hpath with
  | @single y hxy =>
    obtain ⟨i, hi⟩ := hxy
    exact ⟨i, i, y, x, hi, hi, le_refl i⟩
  | @tail y z _ hyz ih =>
    obtain ⟨i, j, u, v, hi, hj, hle⟩ := ih
    obtain ⟨k, hk⟩ := hyz
    exact ⟨i, k, u, y, hi, hk, le_trans hle (le_of_lt (h hj hk))⟩

/-- **No cycles.** No path returns to its start. -/
theorem acyclic (h : Ascending edge) (x : α) :
    ¬ Relation.TransGen (fun x y => ∃ i, edge i x y) x x := by
  intro hpath
  obtain ⟨i, j, u, v, hi, hj, hle⟩ := h.first_le_last hpath
  -- the last edge runs into the first one
  exact lt_irrefl i (lt_of_le_of_lt hle (h hj hi))

end Ascending

end StripeEntitlements.Relational
