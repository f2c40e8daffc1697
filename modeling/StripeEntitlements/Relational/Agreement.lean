import StripeEntitlements.Relational.Drain

/-!
# Two Runs of One Program

A program that may fail is run from two states that differ only in what it does not read.
`Agree R` says of the two outcomes that both runs end, in results related by `R`, or both
fail alike. The rules follow the structure of the program, so that a proof walks it once.

## Main results

- `Agree.bind` — the rule for a sequence
- `Agree.drain` — the rule for a settlement loop over the same claims
- `Agree.of_ok` — one run that ends gives the other
-/

namespace StripeEntitlements.Relational

variable {ε α β γ δ : Type}

/-- Both runs end in related results, or both fail alike. -/
inductive Agree (R : α → β → Prop) : Except ε α → Except ε β → Prop
  | ok {a : α} {b : β} (h : R a b) : Agree R (.ok a) (.ok b)
  | error (e : ε) : Agree R (.error e) (.error e)

namespace Agree

variable {R : α → β → Prop} {S : γ → δ → Prop} {x : Except ε α} {y : Except ε β}

/-- The run that ends on the right ends on the left. -/
theorem of_ok {b : β} (h : Agree R x (.ok b)) : ∃ a, x = .ok a ∧ R a b := by
  cases h with
  | ok h => exact ⟨_, rfl, h⟩

/-- The relation may use how the left run ended. -/
theorem left (h : Agree R x y) : Agree (fun a b => x = .ok a ∧ R a b) x y := by
  cases h with
  | ok h => exact .ok ⟨rfl, h⟩
  | error e => exact .error e

theorem pure {a : α} {b : β} (h : R a b) : Agree R (Pure.pure a : Except ε α) (Pure.pure b) :=
  .ok h

/-- **Rule for a sequence**: the continuations agree on related results, and may use that the
    right run got there. -/
theorem bind {f : α → Except ε γ} {g : β → Except ε δ} (h : Agree R x y)
    (hf : ∀ a b, y = .ok b → R a b → Agree S (f a) (g b)) : Agree S (x >>= f) (y >>= g) := by
  cases h with
  | ok h => exact hf _ _ rfl h
  | error e => exact .error e

/-- A step both runs share. -/
theorem same {f : α → Except ε γ} {g : α → Except ε δ} (x : Except ε α)
    (hf : ∀ a, x = .ok a → Agree S (f a) (g a)) : Agree S (x >>= f) (x >>= g) := by
  cases x with
  | ok a => exact hf a rfl
  | error e => exact .error e

/-- **Rule for a settlement loop**: both runs settle the same amount against the same
    claims. -/
theorem drain {cap : γ → Nat} {f : α → γ → Nat → Nat → Except ε α}
    {g : β → γ → Nat → Nat → Except ε β} {xs : List γ}
    (hstep : ∀ x ∈ xs, ∀ amount left s t, R s t → Agree R (f s x amount left) (g t x amount left))
    {available : Nat} {s : α} {t : β} (h : R s t) :
    Agree (fun p q => R p.1 q.1 ∧ p.2 = q.2) (drain cap f xs available s)
      (drain cap g xs available t) := by
  induction xs generalizing available s t with
  | nil => exact .ok ⟨h, rfl⟩
  | cons x xs ih =>
    simp only [Relational.drain]
    split
    · exact .ok ⟨h, rfl⟩
    · refine (hstep x List.mem_cons_self _ _ s t h).bind fun s' t' _ h' => ?_
      exact ih (fun y hy => hstep y (List.mem_cons_of_mem _ hy)) h'

end Agree

end StripeEntitlements.Relational
