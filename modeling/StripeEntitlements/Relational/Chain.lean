import Mathlib.Data.Int.Order.Basic
import Mathlib.Data.List.Basic
import Mathlib.Tactic.Ring

/-!
# Running Balances

A journal of rows that each carry a signed change and the balance after it. The journal is
a chain when every row books its change on the balance the row before it left.

## Main results

- `Chain.append` — chains compose
- `Chain.last` — the last row shows the final balance
-/

namespace StripeEntitlements.Relational

variable {R : Type} {delta : R → Int} {after : R → Nat}

/-- The rows lead from the balance `start` to the balance `finish`. -/
inductive Chain (delta : R → Int) (after : R → Nat) : Nat → List R → Nat → Prop
  | nil (balance : Nat) : Chain delta after balance [] balance
  | cons {start finish : Nat} {r : R} {rows : List R} (hr : (after r : Int) = start + delta r)
      (h : Chain delta after (after r) rows finish) : Chain delta after start (r :: rows) finish

namespace Chain

variable {start mid finish : Nat} {rows rows' : List R} {r : R}

theorem append (h : Chain delta after start rows mid) (h' : Chain delta after mid rows' finish) :
    Chain delta after start (rows ++ rows') finish := by
  induction h with
  | nil balance => exact h'
  | cons hr _ ih => exact .cons hr (ih h')

theorem single (hr : (after r : Int) = start + delta r) :
    Chain delta after start [r] (after r) := .cons hr (.nil _)

/-- The last row shows the final balance. -/
theorem last (h : Chain delta after start rows finish) :
    finish = (rows.getLast?.map after).getD start := by
  induction h with
  | nil balance => rfl
  | @cons start finish r rows hr h ih =>
    cases rows with
    | nil =>
      cases h
      rfl
    | cons r' rows =>
      rw [List.getLast?_cons_cons, ih]
      cases hlast : (r' :: rows).getLast? with
      | none => simp at hlast
      | some x => rfl

end Chain

end StripeEntitlements.Relational
