import Mathlib.Logic.Relation
import Mathlib.Order.Lattice

/-!
# Leases

A lease is taken with a fresh token until an instant; its holder may renew or release it
while it lasts, and anybody may take it once it has lapsed. A worker compares its token and
the clock before it acts, so a worker that lost its lease never acts again, however late
its messages arrive.

## Main results

- `Lease.Step.lost` — one step gives no lost lease back
- `Leased.lost` — neither does a run of any system whose steps are lease steps
-/

namespace StripeEntitlements.Relational

variable {T C : Type} [LinearOrder C]

/-- The token of the holder and the instant its lease lapses. -/
abbrev Lease (T C : Type) := Option (T × C)

namespace Lease

/-- The token holds the lease at `now`. -/
def Current (l : Lease T C) (t : T) (now : C) : Prop :=
  ∃ lapse, l = some (t, lapse) ∧ now < lapse

/-- Nobody holds the lease at `now`. -/
def Lapsed (l : Lease T C) (now : C) : Prop :=
  ∀ t lapse, l = some (t, lapse) → lapse ≤ now

/-- One transaction at `now`; `drawn` are the tokens drawn before it. -/
inductive Step (drawn : T → Prop) (now : C) (l : Lease T C) : Lease T C → Prop
  | keep : Step drawn now l l
  | take {t : T} {lapse : C} (hfree : l.Lapsed now) (hfresh : ¬drawn t) :
      Step drawn now l (some (t, lapse))
  | renew {t : T} {lapse : C} (hcurrent : l.Current t now) : Step drawn now l (some (t, lapse))
  | release {t : T} (hcurrent : l.Current t now) : Step drawn now l none

variable {l l' : Lease T C} {t : T} {now later : C} {drawn : T → Prop}

/-- A lease that is current was current. -/
theorem Current.earlier (h : l.Current t later) (hle : now ≤ later) : l.Current t now := by
  obtain ⟨lapse, hl, hlapse⟩ := h
  exact ⟨lapse, hl, hle.trans_lt hlapse⟩

/-- **A lost lease** does not come back. -/
theorem Step.lost (h : Step drawn now l l') (hdrawn : drawn t) (hlost : ¬l.Current t now)
    (hle : now ≤ later) : ¬l'.Current t later := by
  intro hcurrent
  have hnow := hcurrent.earlier hle
  cases h with
  | keep => exact hlost hnow
  | take _ hfresh =>
    obtain ⟨_, hl, -⟩ := hnow
    cases hl
    exact hfresh hdrawn
  | renew hholder =>
    obtain ⟨_, hl, -⟩ := hnow
    cases hl
    exact hlost hholder
  | release _ =>
    obtain ⟨_, hl, -⟩ := hnow
    cases hl

end Lease

/-- A system whose steps are lease steps, seen through its clock, its lease and the tokens
    drawn so far. -/
structure Leased {σ : Type} (R : σ → σ → Prop) (clock : σ → C) (lease : σ → Lease T C)
    (drawn : σ → T → Prop) : Prop where
  step : ∀ s s', R s s' → Lease.Step (drawn s) (clock s') (lease s) (lease s')
  clock : ∀ s s', R s s' → clock s ≤ clock s'
  drawn : ∀ s s', R s s' → ∀ t, drawn s t → drawn s' t

/-- **A lost lease** stays lost in every run. -/
theorem Leased.lost {σ : Type} {R : σ → σ → Prop} {clock : σ → C} {lease : σ → Lease T C}
    {drawn : σ → T → Prop} (h : Leased R clock lease drawn) {s s' : σ} {t : T}
    (hrun : Relation.ReflTransGen R s s') (hdrawn : drawn s t)
    (hlost : ¬(lease s).Current t (clock s)) :
    drawn s' t ∧ ¬(lease s').Current t (clock s') := by
  induction hrun with
  | refl => exact ⟨hdrawn, hlost⟩
  | tail _ hstep ih =>
    have hlater : ¬(lease _).Current t (clock _) := fun hcurrent =>
      ih.2 (hcurrent.earlier (h.clock _ _ hstep))
    exact ⟨h.drawn _ _ hstep _ ih.1, (h.step _ _ hstep).lost ih.1 hlater le_rfl⟩

end StripeEntitlements.Relational
