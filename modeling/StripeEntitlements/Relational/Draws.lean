import StripeEntitlements.Relational.Drain

/-!
# Draws

What a drain takes from each claim, as a list. A covered amount empties its claims in order
and the last one at least in part, and cutting the claims in two cuts the draws in two.

## Main results

- `draws_first` — every claim before the last is emptied, and the draws add up
- `draws_append` — the draws of two lists of claims, one after the other
- `drain_eq_foldlM` — a drain whose body ignores what is left folds over its draws
-/

namespace StripeEntitlements.Relational

variable {α σ ε : Type} {cap : α → Nat}

/-- What is taken from each claim, in order, until the amount is settled. -/
def draws (cap : α → Nat) : List α → Nat → List (α × Nat)
  | [], _ => []
  | x :: xs, amount =>
      let taken := min amount (cap x)
      if taken = 0 then [] else (x, taken) :: draws cap xs (amount - taken)

example : draws id [3, 4] 5 = [(3, 3), (4, 2)] := by simp [draws]

/-- The atoms of all draws. -/
def drawn (taken : List (α × Nat)) : Nat := (taken.map Prod.snd).sum

@[simp] theorem drawn_nil : drawn ([] : List (α × Nat)) = 0 := rfl

@[simp] theorem drawn_cons (d : α × Nat) (taken : List (α × Nat)) :
    drawn (d :: taken) = d.2 + drawn taken := by
  simp [drawn]

@[simp] theorem drawn_append (taken taken' : List (α × Nat)) :
    drawn (taken ++ taken') = drawn taken + drawn taken' := by
  simp [drawn]

@[simp] theorem draws_zero (xs : List α) : draws cap xs 0 = [] := by
  cases xs <;> simp [draws]

theorem draws_cons_pos {x : α} {xs : List α} {amount : Nat} (hamount : 0 < amount)
    (hx : 0 < cap x) :
    draws cap (x :: xs) amount =
      (x, min amount (cap x)) :: draws cap xs (amount - min amount (cap x)) := by
  have hne : min amount (cap x) ≠ 0 := by omega
  simp [draws, hne]

/-- A draw is positive and within its claim. -/
theorem mem_draws {xs : List α} {amount : Nat} {d : α × Nat} (h : d ∈ draws cap xs amount) :
    d.1 ∈ xs ∧ 0 < d.2 ∧ d.2 ≤ cap d.1 := by
  induction xs generalizing amount with
  | nil => cases h
  | cons x xs ih =>
    simp only [draws] at h
    split at h
    case isTrue => cases h
    case isFalse hne =>
      rcases List.mem_cons.1 h with rfl | hrest
      · exact ⟨List.mem_cons_self, Nat.pos_of_ne_zero hne, Nat.min_le_right _ _⟩
      · obtain ⟨hmem, hpos, hle⟩ := ih hrest
        exact ⟨List.mem_cons_of_mem _ hmem, hpos, hle⟩

/-- The claims drawn from are the first ones. -/
theorem draws_prefix (xs : List α) (amount : Nat) :
    (draws cap xs amount).map Prod.fst <+: xs := by
  induction xs generalizing amount with
  | nil => exact List.prefix_rfl
  | cons x xs ih =>
    simp only [draws]
    split
    · exact List.nil_prefix
    · rw [List.map_cons, List.cons_prefix_cons]
      exact ⟨rfl, ih _⟩

theorem drawn_draws {xs : List α} {amount : Nat} (hcap : ∀ x ∈ xs, 0 < cap x) :
    drawn (draws cap xs amount) = min amount (xs.map cap).sum := by
  induction xs generalizing amount with
  | nil => simp [draws]
  | cons x xs ih =>
    rcases Nat.eq_zero_or_pos amount with rfl | hamount
    · simp
    · rw [draws_cons_pos hamount (hcap x List.mem_cons_self), drawn_cons,
        ih fun y hy => hcap y (List.mem_cons_of_mem _ hy), List.map_cons, List.sum_cons]
      omega

/-- The claims an amount is drawn from: all before the last are emptied. -/
structure FirstDrawn (cap : α → Nat) (xs : List α) (amount : Nat) (taken : List (α × Nat)) :
    Prop where
  split : ∃ emptied last used rest, xs = emptied ++ last :: rest ∧
    taken = emptied.map (fun x => (x, cap x)) ++ [(last, used)] ∧ 0 < used ∧ used ≤ cap last
  total : drawn taken = amount

theorem FirstDrawn.cons {x : α} {xs : List α} {amount : Nat} {taken : List (α × Nat)}
    (h : FirstDrawn cap xs amount taken) :
    FirstDrawn cap (x :: xs) (cap x + amount) ((x, cap x) :: taken) := by
  obtain ⟨⟨emptied, last, used, rest, rfl, rfl, hpos, hle⟩, htotal⟩ := h
  refine ⟨⟨x :: emptied, last, used, rest, rfl, rfl, hpos, hle⟩, ?_⟩
  rw [drawn_cons, htotal]

/-- **First claims first**: a covered amount empties claims in order. Only the last claim that is
    drawn from may keep a rest, and what is drawn adds up to the amount. -/
theorem draws_first {xs : List α} {amount : Nat} (hcap : ∀ x ∈ xs, 0 < cap x)
    (hamount : 0 < amount) (hcovered : amount ≤ (xs.map cap).sum) :
    FirstDrawn cap xs amount (draws cap xs amount) := by
  induction xs generalizing amount with
  | nil =>
    simp only [List.map_nil, List.sum_nil] at hcovered
    omega
  | cons x xs ih =>
    have hx := hcap x List.mem_cons_self
    rw [List.map_cons, List.sum_cons] at hcovered
    rw [draws_cons_pos hamount hx]
    by_cases hlast : amount ≤ cap x
    · rw [Nat.min_eq_left hlast, Nat.sub_self, draws_zero]
      exact ⟨⟨[], x, amount, xs, rfl, rfl, hamount, hlast⟩, by simp⟩
    · have hrest := ih (fun y hy => hcap y (List.mem_cons_of_mem _ hy))
        (Nat.sub_pos_of_lt (lt_of_not_ge hlast)) (by omega)
      rw [Nat.min_eq_right (by omega)]
      have hcons := hrest.cons (x := x)
      rwa [Nat.add_sub_cancel' (by omega)] at hcons

/-- **Draws of two lists**, one after the other. -/
theorem draws_append {xs ys : List α} {amount : Nat} (hcap : ∀ x ∈ xs, 0 < cap x) :
    draws cap (xs ++ ys) amount =
      draws cap xs amount ++ draws cap ys (amount - drawn (draws cap xs amount)) := by
  induction xs generalizing amount with
  | nil => simp [draws]
  | cons x xs ih =>
    rcases Nat.eq_zero_or_pos amount with rfl | hamount
    · simp
    · have hx := hcap x List.mem_cons_self
      rw [List.cons_append, draws_cons_pos hamount hx, draws_cons_pos hamount hx,
        ih fun y hy => hcap y (List.mem_cons_of_mem _ hy), drawn_cons, List.cons_append,
        Nat.sub_sub]

/-- A drain whose body ignores what is left. -/
theorem drain_eq_foldlM (cap : α → Nat) {body : σ → α → Nat → Nat → Except ε σ} {f : σ → α → Nat → Except ε σ}
    (hbody : ∀ s x amount left, body s x amount left = f s x amount) (xs : List α)
    (amount : Nat) (s : σ) :
    drain cap body xs amount s =
      (draws cap xs amount).foldlM (fun s d => f s d.1 d.2) s >>= fun t =>
        .ok (t, amount - drawn (draws cap xs amount)) := by
  induction xs generalizing amount s with
  | nil => rfl
  | cons x xs ih =>
    simp only [drain, draws]
    split
    case isTrue => rfl
    case isFalse =>
      rw [hbody, List.foldlM_cons]
      cases f s x (min amount (cap x)) with
      | error e => rfl
      | ok t =>
        rw [drawn_cons, ← Nat.sub_sub]
        exact ih _ t

end StripeEntitlements.Relational
