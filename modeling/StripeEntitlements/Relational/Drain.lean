import Mathlib.Algebra.BigOperators.Group.List.Basic
import Mathlib.Algebra.Ring.Nat
import Mathlib.Data.Nat.Basic

/-!
# Draining an Amount Over a List

The loop that settles an available amount against a list of claims in order: each claim
takes the smaller of its capacity and what is left, and the loop stops when nothing is
left. The body of an iteration may fail, which ends the whole loop.

## Main results

- `drain_invariant` — an invariant indexed by the claims still to come and the amount left
- `drain_eq_error` — a loop fails only where an iteration fails from an invariant state
- `drain_returns` — a loop whose iterations all succeed from the invariant ends
- `drain_left` — what is left is the available amount minus all capacities, or nothing
-/

namespace StripeEntitlements.Relational

variable {α σ ε : Type}

/-- Settle `available` against the claims in order. The body receives the state, the
    claim, the amount it takes and the amount left afterwards. -/
def drain (cap : α → Nat) (body : σ → α → Nat → Nat → Except ε σ) :
    List α → Nat → σ → Except ε (σ × Nat)
  | [], available, s => .ok (s, available)
  | x :: xs, available, s =>
      let amount := min available (cap x)
      if amount = 0 then .ok (s, available)
      else do
        let s' ← body s x amount (available - amount)
        drain cap body xs (available - amount) s'

/-- One iteration of a loop that did not fail: it stopped, or the body ran. -/
theorem drain_cons_eq_ok {cap : α → Nat} {body : σ → α → Nat → Nat → Except ε σ}
    {x : α} {xs : List α} {available left : Nat} {s t : σ}
    (h : drain cap body (x :: xs) available s = .ok (t, left)) :
    (min available (cap x) = 0 ∧ t = s ∧ left = available) ∨
    (0 < min available (cap x) ∧ ∃ s',
      body s x (min available (cap x)) (available - min available (cap x)) = .ok s' ∧
      drain cap body xs (available - min available (cap x)) s' = .ok (t, left)) := by
  simp only [drain] at h
  split at h
  case isTrue hzero =>
    cases h
    exact .inl ⟨hzero, rfl, rfl⟩
  case isFalse hpos =>
    refine .inr ⟨Nat.pos_of_ne_zero hpos, ?_⟩
    cases hbody : body s x (min available (cap x)) (available - min available (cap x)) with
    | error e => rw [hbody] at h; cases h
    | ok s' =>
      rw [hbody] at h
      exact ⟨s', rfl, h⟩

/-- **Loop rule**: an invariant of the claims still to come, the amount left and the
    state, kept by every iteration, holds when the loop ends. Only the last iteration takes
    less than the capacity of its claim. -/
theorem drain_invariant {cap : α → Nat} {body : σ → α → Nat → Nat → Except ε σ}
    {P : List α → Nat → σ → Prop}
    (hstep : ∀ x xs amount left s s', 0 < amount → amount ≤ cap x →
      (0 < left → amount = cap x) → P (x :: xs) (amount + left) s →
      body s x amount left = .ok s' → P xs left s')
    {xs : List α} {available left : Nat} {s t : σ} (hs : P xs available s)
    (h : drain cap body xs available s = .ok (t, left)) : ∃ rest, P rest left t := by
  induction xs generalizing available s with
  | nil =>
    cases h
    exact ⟨[], hs⟩
  | cons x xs ih =>
    rcases drain_cons_eq_ok h with ⟨-, rfl, rfl⟩ | ⟨hpos, s', hbody, hrest⟩
    · exact ⟨x :: xs, hs⟩
    · refine ih (hstep x xs _ _ s s' hpos (Nat.min_le_right _ _) (by omega) ?_ hbody) hrest
      rwa [Nat.add_sub_cancel' (Nat.min_le_left _ _)]

/-- The loop rule for an invariant of the state and the amount left. -/
theorem drain_rule {cap : α → Nat} {body : σ → α → Nat → Nat → Except ε σ}
    {P : Nat → σ → Prop}
    (hstep : ∀ x amount left s s', 0 < amount → amount ≤ cap x →
      P (amount + left) s → body s x amount left = .ok s' → P left s')
    {xs : List α} {available left : Nat} {s t : σ} (hs : P available s)
    (h : drain cap body xs available s = .ok (t, left)) : P left t := by
  obtain ⟨_, ht⟩ := drain_invariant (P := fun _ => P)
    (fun x _ amount left s s' hpos hle _ => hstep x amount left s s' hpos hle) hs h
  exact ht

/-- **Failure rule**: a loop fails only where an iteration fails from a state of the
    invariant. -/
theorem drain_eq_error {cap : α → Nat} {body : σ → α → Nat → Nat → Except ε σ}
    {P : List α → Nat → σ → Prop}
    (hstep : ∀ x xs amount left s s', 0 < amount → amount ≤ cap x →
      (0 < left → amount = cap x) → P (x :: xs) (amount + left) s →
      body s x amount left = .ok s' → P xs left s')
    {xs : List α} {available : Nat} {s : σ} {e : ε} (hs : P xs available s)
    (h : drain cap body xs available s = .error e) :
    ∃ x rest amount left s', 0 < amount ∧ amount ≤ cap x ∧ (0 < left → amount = cap x) ∧
      P (x :: rest) (amount + left) s' ∧ body s' x amount left = .error e := by
  -- induction on the sources; the first failure is the body at the source in hand
  induction xs generalizing available s with
  | nil => cases h
  | cons x xs ih =>
    simp only [drain] at h
    split at h
    · cases h
    case isFalse hpos =>
      have hcap : 0 < available - min available (cap x) → min available (cap x) = cap x := by omega
      have hsplit : min available (cap x) + (available - min available (cap x)) = available :=
        Nat.add_sub_cancel' (Nat.min_le_left _ _)
      rw [← hsplit] at hs
      -- what was taken and what is left make up what was available, which is the form `hstep`
      -- asks for
      cases hbody : body s x (min available (cap x)) (available - min available (cap x)) with
      | error e' =>
        rw [hbody] at h
        cases h
        exact ⟨x, xs, _, _, s, Nat.pos_of_ne_zero hpos, Nat.min_le_right _ _, hcap, hs, hbody⟩
      | ok s' =>
        rw [hbody] at h
        exact ih (hstep x xs _ _ s s' (Nat.pos_of_ne_zero hpos) (Nat.min_le_right _ _) hcap hs hbody) h

/-- **Progress rule**: a loop returns where every iteration succeeds from a state of the
    invariant and keeps it. -/
theorem drain_returns {cap : α → Nat} {body : σ → α → Nat → Nat → Except ε σ}
    {P : List α → σ → Prop}
    (hstep : ∀ x xs amount left s, 0 < amount → amount ≤ cap x → P (x :: xs) s →
      ∃ s', body s x amount left = .ok s' ∧ P xs s')
    {xs : List α} {available : Nat} {s : σ} (hs : P xs s) :
    ∃ t left, drain cap body xs available s = .ok (t, left) := by
  cases hrun : drain cap body xs available s with
  | ok answer => exact ⟨answer.1, answer.2, rfl⟩
  | error e =>
    -- an iteration from the invariant would have raised
    obtain ⟨x, rest, amount, left, s', hpos, hle, -, hs', hbody⟩ :=
      drain_eq_error (P := fun xs _ s => P xs s) (by
        intro x xs amount left s s' hpos hle _ hs hbody
        obtain ⟨_, hstepped, hnext⟩ := hstep x xs amount left s hpos hle hs
        rw [hbody, Except.ok.injEq] at hstepped
        rwa [hstepped]) hs hrun
    obtain ⟨_, hstepped, -⟩ := hstep x rest amount left s' hpos hle hs'
    rw [hbody] at hstepped
    cases hstepped

/-- What is left after draining over non-empty claims. -/
theorem drain_left {cap : α → Nat} {body : σ → α → Nat → Nat → Except ε σ}
    {xs : List α} {available left : Nat} {s t : σ} (hcap : ∀ x ∈ xs, 0 < cap x)
    (h : drain cap body xs available s = .ok (t, left)) :
    left = available - (xs.map cap).sum := by
  induction xs generalizing available s with
  | nil =>
    cases h
    simp
  | cons x xs ih =>
    have hx := hcap x List.mem_cons_self
    rcases drain_cons_eq_ok h with ⟨hzero, rfl, rfl⟩ | ⟨hpos, s', hbody, hrest⟩
    · have : left = 0 := by omega
      simp [this]
    · rw [ih (fun y hy => hcap y (List.mem_cons_of_mem _ hy)) hrest, List.map_cons,
        List.sum_cons]
      omega

end StripeEntitlements.Relational
