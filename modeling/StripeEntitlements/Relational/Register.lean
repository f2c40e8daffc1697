import Mathlib.Data.List.Induction
import Mathlib.Data.List.Pairwise
import Mathlib.Data.List.Perm.Basic
import Mathlib.Order.MinMax

/-!
# Registers with a Stamp

A register keeps the stamp of its last write. A write from above the stamp is applied; any
other is dropped whole. Writes that replace the value commute, so that their order does not
matter; a part of the value that only some writes touch shows the last of them that was
above everything before it.

## Main results

- `Register.writes_perm` — replacing writes with distinct stamps converge
- `Register.writes_kept` — a part no applied write touches is kept
- `Register.writes_applied` — a part shows the last applied write that touches it
-/

namespace StripeEntitlements.Relational

variable {ι α β γ : Type}

/-- A value with the stamp of its last write. -/
@[ext]
structure Register (ι α : Type) where
  stamp : ι
  value : α

namespace Register

/-- The register of a part of the value. -/
def map (g : α → β) (r : Register ι α) : Register ι β := ⟨r.stamp, g r.value⟩

@[simp] theorem map_stamp (g : α → β) (r : Register ι α) : (r.map g).stamp = r.stamp := rfl

@[simp] theorem map_value (g : α → β) (r : Register ι α) : (r.map g).value = g r.value := rfl

variable [LinearOrder ι]

/-- Apply a write from above the stamp. -/
def write (r : Register ι α) (w : ι × (α → α)) : Register ι α :=
  if r.stamp < w.1 then ⟨w.1, w.2 r.value⟩ else r

/-- Apply writes in the order of the list. -/
def writes (r : Register ι α) (ws : List (ι × (α → α))) : Register ι α :=
  ws.foldl write r

@[simp] theorem writes_nil (r : Register ι α) : r.writes [] = r := rfl

@[simp] theorem writes_cons (r : Register ι α) (w : ι × (α → α)) (ws : List (ι × (α → α))) :
    r.writes (w :: ws) = (r.write w).writes ws := rfl

@[simp] theorem writes_append (r : Register ι α) (ws ws' : List (ι × (α → α))) :
    r.writes (ws ++ ws') = (r.writes ws).writes ws' :=
  List.foldl_append

theorem write_of_lt {r : Register ι α} {w : ι × (α → α)} (h : r.stamp < w.1) :
    r.write w = ⟨w.1, w.2 r.value⟩ :=
  if_pos h

theorem write_of_le {r : Register ι α} {w : ι × (α → α)} (h : w.1 ≤ r.stamp) : r.write w = r :=
  if_neg (not_lt_of_ge h)

theorem write_stamp (r : Register ι α) (w : ι × (α → α)) :
    (r.write w).stamp = max r.stamp w.1 := by
  rcases lt_or_ge r.stamp w.1 with hlt | hge
  · rw [write_of_lt hlt, max_eq_right hlt.le]
  · rw [write_of_le hge, max_eq_left hge]

/-- A stamp is above a sequence of writes when it is above all of them. -/
theorem writes_stamp_lt {r : Register ι α} {ws : List (ι × (α → α))} {i : ι} :
    (r.writes ws).stamp < i ↔ r.stamp < i ∧ ∀ w ∈ ws, w.1 < i := by
  induction ws generalizing r with
  | nil => simp
  | cons w ws ih =>
    rw [writes_cons, ih, write_stamp, max_lt_iff, List.forall_mem_cons, and_assoc]

/-- A part of the value that every write maps by itself is a register of its own. -/
theorem map_writes {g : α → β} {es : List γ} {w : γ → ι × (α → α)} {f : γ → β → β}
    (h : ∀ e ∈ es, ∀ x, g ((w e).2 x) = f e (g x)) (r : Register ι α) :
    (r.writes (es.map w)).map g = (r.map g).writes (es.map fun e => ((w e).1, f e)) := by
  induction es generalizing r with
  | nil => rfl
  | cons e es ih =>
    simp only [List.map_cons, writes_cons, ih fun x hx => h x (List.mem_cons_of_mem _ hx)]
    congr 1
    rcases lt_or_ge r.stamp (w e).1 with hlt | hge
    · rw [write_of_lt hlt, write_of_lt (by exact hlt)]
      exact Register.ext rfl (h e List.mem_cons_self r.value)
    · rw [write_of_le hge, write_of_le (by exact hge)]

/-- Replacing writes with different stamps commute. -/
theorem write_comm (r : Register ι α) {i j : ι} (hne : i ≠ j) (x y : α) :
    (r.write (i, fun _ => x)).write (j, fun _ => y) =
      (r.write (j, fun _ => y)).write (i, fun _ => x) := by
  unfold write
  rcases lt_or_gt_of_ne hne with hij | hij
  · grind
  · grind

/-- **Convergence**: replacing writes with distinct stamps give the same register in every
    order. -/
theorem writes_perm {ws ws' : List (ι × α)} (hperm : ws.Perm ws')
    (hdistinct : ws.Pairwise fun w w' => w.1 ≠ w'.1) (r : Register ι α) :
    r.writes (ws.map fun w => (w.1, fun _ => w.2)) =
      r.writes (ws'.map fun w => (w.1, fun _ => w.2)) := by
  simp only [writes, List.foldl_map]
  refine hperm.foldl_eq' (fun w hw w' hw' r => ?_) r
  by_cases hsame : w = w'
  · rw [hsame]
  · have : Std.Symm fun w w' : ι × α => w.1 ≠ w'.1 := ⟨fun _ _ hne => hne.symm⟩
    exact write_comm r (hdistinct.forall hw hw' hsame) w.2 w'.2

/-- The write is above the register and everything written before it. -/
def Overtakes (r : Register ι α) (before : List (ι × (α → α))) (i : ι) : Prop :=
  r.stamp < i ∧ ∀ w ∈ before, w.1 < i

/-- A part of the value is kept when no write that overtakes touches it. -/
theorem writes_kept {g : α → β} {r : Register ι α} {ws : List (ι × (α → α))}
    (h : ∀ pre w post, ws = pre ++ w :: post → r.Overtakes pre w.1 → ∀ x, g (w.2 x) = g x) :
    g (r.writes ws).value = g r.value := by
  induction ws using List.reverseRecOn with
  | nil => rfl
  | append_singleton ws w ih =>
    have hkept : g (r.writes ws).value = g r.value := by
      refine ih fun pre v post hws => h pre v (post ++ [w]) ?_
      rw [hws, List.append_assoc, List.cons_append]
    rw [writes_append, writes_cons, writes_nil, ← hkept]
    rcases lt_or_ge (r.writes ws).stamp w.1 with hlt | hge
    · rw [write_of_lt hlt]
      exact h ws w [] rfl (writes_stamp_lt.1 hlt) _
    · rw [write_of_le hge]

/-- A part of the value shows the last write that overtakes and touches it. -/
theorem writes_applied {g : α → β} {r : Register ι α} {pre post : List (ι × (α → α))}
    {w : ι × (α → α)} {y : β} (hw : r.Overtakes pre w.1) (hy : ∀ x, g (w.2 x) = y)
    (hlast : ∀ mid v rest, post = mid ++ v :: rest → r.Overtakes (pre ++ w :: mid) v.1 →
      ∀ x, g (v.2 x) = g x) :
    g (r.writes (pre ++ w :: post)).value = y := by
  have hwrite := write_of_lt (writes_stamp_lt.2 hw)
  rw [writes_append, writes_cons, writes_kept (g := g), hwrite]
  · exact hy _
  · intro mid v rest hpost hovertakes
    refine hlast mid v rest hpost ?_
    -- the register after the write is the one before it with a longer history
    have hlt : (r.writes (pre ++ w :: mid)).stamp < v.1 := by
      rw [writes_append, writes_cons]
      exact writes_stamp_lt.2 hovertakes
    exact writes_stamp_lt.1 hlt

end Register

end StripeEntitlements.Relational
