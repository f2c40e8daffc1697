import Mathlib.Data.List.Basic

/-!
# Patterns

Regular expressions over characters, as far as a match of a whole text and a search need
them. A pattern takes a place in a text to the places where a match may end. Some runtimes
match a whole text, others search for the pattern between `^` and `$`: the answers are the
same.

## Main results

- `Place.mem_walk` — a walk stays in its text
- `Pattern.search_anchored` — a search for the anchored pattern is a match of the whole text
-/

namespace StripeEntitlements.Text

/-! ## Places -/

/-- A place in a text: what is before it, the last character first, and what is after it. -/
structure Place where
  before : List Char
  after : List Char

namespace Place

/-- The text around a place. -/
def text (s : Place) : List Char := s.before.reverse ++ s.after

/-- The places reached over characters of one class, one character after another. -/
def walk (class? : Char → Bool) (before : List Char) : List Char → List Place
  | [] => [⟨before, []⟩]
  | c :: rest =>
      ⟨before, c :: rest⟩ :: if class? c then walk class? (c :: before) rest else []

theorem mem_walk {class? : Char → Bool} {before after : List Char} {s : Place}
    (h : s ∈ walk class? before after) : s.text = before.reverse ++ after := by
  induction after generalizing before with
  | nil =>
    rw [walk, List.mem_singleton] at h
    rw [h, text]
  | cons c rest ih =>
    rw [walk, List.mem_cons] at h
    rcases h with rfl | h
    · rfl
    · split at h
      · rw [ih h]
        simp
      · exact absurd h List.not_mem_nil

theorem walk_start (class? : Char → Bool) (before after : List Char) :
    ⟨before, after⟩ ∈ walk class? before after := by
  cases after with
  | nil => exact List.mem_singleton_self _
  | cons c rest => exact List.mem_cons_self

end Place

/-! ## Patterns -/

inductive Pattern where
  | empty
  | one (class? : Char → Bool)
  /-- Repetitions of one character class. -/
  | many (class? : Char → Bool) (least : Nat) (most : Option Nat)
  | seq (p q : Pattern)
  | alt (p q : Pattern)
  /-- `(?<!…)` for one character class. -/
  | notAfter (class? : Char → Bool)
  | start
  | stop

namespace Pattern

/-- The places where a match that starts here may end. -/
def ends : Pattern → Place → List Place
  | empty, s => [s]
  | one class?, s =>
      match s.after with
      | [] => []
      | c :: rest => if class? c then [⟨c :: s.before, rest⟩] else []
  | many class? least most, s =>
      let reached := Place.walk class? s.before s.after
      (match most with
        | none => reached
        | some n => reached.take (n + 1)).drop least
  | seq p q, s => (p.ends s).flatMap q.ends
  | alt p q, s => p.ends s ++ q.ends s
  | notAfter class?, s => if s.before.head?.any class? then [] else [s]
  | start, s => if s.before.isEmpty then [s] else []
  | stop, s => if s.after.isEmpty then [s] else []

/-- The pattern of one text. -/
def lit (chars : String) : Pattern :=
  chars.toList.foldr (fun c p => seq (one (· = c)) p) empty

def opt (p : Pattern) : Pattern := alt p empty

/-- The patterns one after another. -/
def seqs (ps : List Pattern) : Pattern := ps.foldr seq empty

/-- The pattern matches the whole text. -/
def fullmatch (p : Pattern) (text : String) : Bool :=
  (p.ends ⟨[], text.toList⟩).any (·.after.isEmpty)

/-- The pattern matches somewhere in the text. -/
def search (p : Pattern) (text : String) : Bool :=
  (Place.walk (fun _ => true) [] text.toList).any fun s => !(p.ends s).isEmpty

/-- `^p$`. -/
def anchored (p : Pattern) : Pattern := seq start (seq p stop)

theorem mem_ends_stop {s t : Place} : t ∈ stop.ends s ↔ t = s ∧ s.after = [] := by
  rw [ends]
  split
  case isTrue h => simp [List.isEmpty_iff.1 h]
  case isFalse h =>
    rw [List.isEmpty_iff] at h
    simp [h]

theorem mem_ends_start {s t : Place} : t ∈ start.ends s ↔ t = s ∧ s.before = [] := by
  rw [ends]
  split
  case isTrue h => simp [List.isEmpty_iff.1 h]
  case isFalse h =>
    rw [List.isEmpty_iff] at h
    simp [h]

/-- **A search for the anchored pattern** matches the whole text. -/
theorem search_anchored (p : Pattern) (text : String) :
    p.anchored.search text = p.fullmatch text := by
  rw [Bool.eq_iff_iff]
  simp only [search, fullmatch, List.any_eq_true, Bool.not_eq_true', List.isEmpty_eq_false_iff_exists_mem,
    List.isEmpty_iff, anchored]
  constructor
  · rintro ⟨s, hs, t, ht⟩
    rw [ends, List.mem_flatMap] at ht
    obtain ⟨s', hs', ht⟩ := ht
    obtain ⟨rfl, hbefore⟩ := mem_ends_start.1 hs'
    rw [ends, List.mem_flatMap] at ht
    obtain ⟨u, hu, ht⟩ := ht
    obtain ⟨rfl, hafter⟩ := mem_ends_stop.1 ht
    -- nothing is before the place, so all of the text is after it
    have htext := Place.mem_walk hs
    rw [Place.text, hbefore, List.reverse_nil, List.nil_append, List.nil_append] at htext
    have hstart : s' = ⟨[], text.toList⟩ := by
      cases s'
      simp only [Place.mk.injEq]
      exact ⟨hbefore, htext⟩
    exact ⟨t, hstart ▸ hu, hafter⟩
  · rintro ⟨t, ht, hafter⟩
    refine ⟨⟨[], text.toList⟩, Place.walk_start _ _ _, t, ?_⟩
    rw [ends, List.mem_flatMap]
    refine ⟨_, mem_ends_start.2 ⟨rfl, rfl⟩, ?_⟩
    rw [ends, List.mem_flatMap]
    exact ⟨t, ht, mem_ends_stop.2 ⟨rfl, hafter⟩⟩

end Pattern

end StripeEntitlements.Text
