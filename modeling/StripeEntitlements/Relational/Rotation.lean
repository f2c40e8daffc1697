import Mathlib.Data.Finset.Card
import StripeEntitlements.Relational.Table

/-!
# Pages in Rotation

A worker takes the first rows of an order, one page at a time. Where each page goes behind the
rows that were left out, no row is left out for ever: the rows before it get fewer with every
page.

## Main results

- `page_first`, `page_full` — what a page leaves out comes later, and the page is full
- `attempted_of_rotates` — how many pages a row can be left out of
-/

namespace StripeEntitlements.Relational

/-! ## Pages -/

section

variable {α κ : Type} [LinearOrder κ] {key : α → κ} {k : Nat} {rows : List α} {a b : α}

/-- `order by key limit k`. -/
def page (key : α → κ) (k : Nat) (rows : List α) : List α := (Table.orderBy key rows).take k

theorem mem_of_mem_page (h : a ∈ page key k rows) : a ∈ rows :=
  Table.mem_orderBy.1 (List.mem_of_mem_take h)

theorem mem_drop_of_not_mem_page (hb : b ∈ rows) (hpage : b ∉ page key k rows) :
    b ∈ (Table.orderBy key rows).drop k := by
  have hmem : b ∈ (Table.orderBy key rows).take k ++ (Table.orderBy key rows).drop k := by
    rw [List.take_append_drop]
    exact Table.mem_orderBy.2 hb
  exact (List.mem_append.1 hmem).resolve_left hpage

/-- A page comes before what it leaves out. -/
theorem page_first (ha : a ∈ page key k rows) (hb : b ∈ rows) (hpage : b ∉ page key k rows) :
    key a ≤ key b := by
  have hsorted := Table.orderBy_pairwise key rows
  rw [← List.take_append_drop k (Table.orderBy key rows), List.pairwise_append] at hsorted
  exact hsorted.2.2 a ha b (mem_drop_of_not_mem_page hb hpage)

/-- A page that leaves something out is full. -/
theorem page_full (hb : b ∈ rows) (hpage : b ∉ page key k rows) :
    (page key k rows).length = k := by
  have hlater := List.length_pos_of_mem (mem_drop_of_not_mem_page hb hpage)
  rw [List.length_drop] at hlater
  rw [page, List.length_take]
  omega

end

/-! ## Rotation -/

section

variable {α κ : Type} [LinearOrder κ] [DecidableEq α]

/-- One page was taken from what is due, and what stays live of it went behind the rest. -/
structure Rotates (k : Nat) (position : α → κ) (due page live : Finset α) (position' : α → κ)
    (live' : Finset α) : Prop where
  first : ∀ a ∈ page, ∀ b ∈ due, b ∉ page → position a < position b
  full : ∀ b ∈ due, b ∉ page → k ≤ page.card
  behind : ∀ a ∈ page, a ∈ live' → ∀ b ∈ due, b ∉ page → position' b < position' a
  rest : ∀ a, a ∉ page → position' a = position a
  within : page ⊆ live
  fewer : live' ⊆ live

/-- The live rows before one that is left out are fewer by a page. -/
theorem Rotates.card_before {k : Nat} {position position' : α → κ} {due page live live' : Finset α}
    {u : α} (h : Rotates k position due page live position' live') (hu : u ∈ due)
    (hleft : u ∉ page) : (live'.filter fun a => position' a < position' u).card + k ≤
      (live.filter fun a => position a < position u).card := by
  have hpage : page ⊆ live.filter fun a => position a < position u := by
    intro a ha
    exact Finset.mem_filter.2 ⟨h.within ha, h.first a ha u hu hleft⟩
  have hbefore : (live'.filter fun a => position' a < position' u) ⊆
      (live.filter fun a => position a < position u) \ page := by
    intro a ha
    obtain ⟨hlive, hlt⟩ := Finset.mem_filter.1 ha
    have hrest : a ∉ page := fun hin => absurd hlt (h.behind a hin hlive u hu hleft).asymm
    rw [h.rest a hrest, h.rest u hleft] at hlt
    exact Finset.mem_sdiff.2 ⟨Finset.mem_filter.2 ⟨h.fewer hlive, hlt⟩, hrest⟩
  have hcard := Finset.card_le_card hbefore
  rw [Finset.card_sdiff_of_subset hpage] at hcard
  have hfull := h.full u hu hleft
  have hle := Finset.card_le_card hpage
  omega

/-- **No row is left out for ever** where the pages rotate. The rows before the one that waits
    become fewer by a page with every batch, so it comes to the head of the order within as many
    batches as cover all of them. -/
theorem attempted_of_rotates {k n : Nat} {position : Nat → α → κ} {due page live : Nat → Finset α}
    {u : α} (h : ∀ i < n, u ∈ due i → u ∉ page i →
      Rotates k (position i) (due i) (page i) (live i) (position (i + 1)) (live (i + 1)))
    (hu : ∀ i < n, (∀ j < i, u ∉ page j) → u ∈ due i) (hn : (live 0).card < n * k) :
    ∃ i < n, u ∈ page i := by
  by_contra hnever
  have hleft : ∀ i < n, u ∉ page i := fun i hi hmem => hnever ⟨i, hi, hmem⟩
  have hdue : ∀ i < n, u ∈ due i := fun i hi => hu i hi fun j hj => hleft j (hj.trans hi)
  have hbefore : ∀ i ≤ n, ((live i).filter fun a => position i a < position i u).card + i * k ≤
      (live 0).card := by
    intro i hi
    induction i with
    | zero =>
      rw [Nat.zero_mul, Nat.add_zero]
      exact Finset.card_filter_le _ _
    | succ i ih =>
      have hstep := (h i hi (hdue i hi) (hleft i hi)).card_before (hdue i hi) (hleft i hi)
      have hrun := ih (Nat.le_of_succ_le hi)
      rw [Nat.succ_mul]
      omega
  have hlast := hbefore n le_rfl
  omega

end

end StripeEntitlements.Relational
