import StripeEntitlements.Parity.Pattern
import Mathlib.Computability.Language

/-!
# The Language of a Pattern

A pattern without anchors matches the words of a language, wherever it starts. Two such
patterns one after the other split a whole text, and both runtimes report the same halves.

## Main results

- `Pattern.mem_ends` — a plain pattern moves over one word of its language
- `Pattern.groups_eq_some` — the halves of a whole match
- `Pattern.exec_groups` — a search for the anchored pattern reports the same halves
-/

namespace StripeEntitlements.Text

open scoped Computability

/-! ## Walks -/

theorem Place.walk_getElem {class? : Char → Bool} {before after : List Char} {n : Nat} {t : Place} :
    (Place.walk class? before after)[n]? = some t ↔
      ∃ word rest, after = word ++ rest ∧ word.length = n ∧ (∀ c ∈ word, class? c) ∧
        t = ⟨word.reverse ++ before, rest⟩ := by
  induction after generalizing before n with
  | nil =>
    rw [Place.walk]
    constructor
    · intro h
      cases n with
      | zero =>
        cases h
        exact ⟨[], [], rfl, rfl, by simp, rfl⟩
      | succ n => simp at h
    · rintro ⟨word, rest, hword, rfl, -, rfl⟩
      obtain ⟨rfl, rfl⟩ := List.append_eq_nil_iff.1 hword.symm
      rfl
  | cons c after ih =>
    rw [Place.walk]
    cases n with
    | zero =>
      -- a walk starts with the place it starts from
      constructor
      · intro h
        cases h
        exact ⟨[], c :: after, rfl, rfl, by simp, rfl⟩
      · rintro ⟨word, rest, hword, hlength, -, rfl⟩
        obtain rfl := List.length_eq_zero_iff.1 hlength
        rw [hword]
        rfl
    | succ n =>
      rw [List.getElem?_cons_succ]
      by_cases hc : class? c
      · rw [if_pos hc, ih]
        constructor
        · rintro ⟨word, rest, rfl, rfl, hclass, rfl⟩
          refine ⟨c :: word, rest, rfl, rfl, ?_, by simp⟩
          intro d hd
          rcases List.mem_cons.1 hd with rfl | hd
          · exact hc
          · exact hclass d hd
        · rintro ⟨word, rest, hword, hlength, hclass, rfl⟩
          cases word with
          | nil => cases hlength
          | cons d word =>
            rw [List.cons_append, List.cons.injEq] at hword
            obtain ⟨rfl, rfl⟩ := hword
            refine ⟨word, rest, rfl, by simpa using hlength, ?_, by simp⟩
            exact fun d hd => hclass d (List.mem_cons_of_mem _ hd)
      · rw [if_neg hc]
        constructor
        · intro h
          simp at h
        · rintro ⟨word, rest, hword, hlength, hclass, -⟩
          cases word with
          | nil => cases hlength
          | cons d word =>
            rw [List.cons_append, List.cons.injEq] at hword
            obtain ⟨rfl, -⟩ := hword
            exact absurd (hclass c List.mem_cons_self) hc

namespace Pattern

/-! ## Languages -/

/-- The words a pattern matches. An anchor or a lookbehind matches no character. -/
def language : Pattern → Language Char
  | empty => 1
  | one class? => { word | ∃ c, word = [c] ∧ class? c }
  | many class? least most =>
      { word | (∀ c ∈ word, class? c) ∧ least ≤ word.length ∧ ∀ n ∈ most, word.length ≤ n }
  | seq p q => p.language * q.language
  | alt p q => p.language + q.language
  | notAfter _ => 1
  | start => 1
  | stop => 1

/-- The pattern looks at no character outside its match. -/
def Plain : Pattern → Prop
  | empty => True
  | one _ => True
  | many _ _ _ => True
  | seq p q => p.Plain ∧ q.Plain
  | alt p q => p.Plain ∧ q.Plain
  | notAfter _ => False
  | start => False
  | stop => False

/-- The place after a word. -/
def After (word : List Char) (s t : Place) : Prop :=
  s.after = word ++ t.after ∧ t.before = word.reverse ++ s.before

theorem After.trans {word word' : List Char} {s t u : Place} (h : After word s t)
    (h' : After word' t u) : After (word ++ word') s u := by
  constructor
  · rw [h.1, h'.1, List.append_assoc]
  · rw [h'.2, h.2, List.reverse_append, List.append_assoc]

theorem After.exists {word rest : List Char} {s : Place} (h : s.after = word ++ rest) :
    After word s ⟨word.reverse ++ s.before, rest⟩ := ⟨h, rfl⟩

theorem After.append {word word' : List Char} {s u : Place} (h : After (word ++ word') s u) :
    ∃ t, After word s t ∧ After word' t u := by
  refine ⟨⟨word.reverse ++ s.before, word' ++ u.after⟩, ⟨?_, rfl⟩, rfl, ?_⟩
  · rw [h.1, List.append_assoc]
  · rw [h.2, List.reverse_append, List.append_assoc]

theorem mem_ends_many {class? : Char → Bool} {least : Nat} {most : Option Nat} {s t : Place} :
    t ∈ (many class? least most).ends s ↔
      ∃ word ∈ (many class? least most).language, After word s t := by
  -- walking a class for `n` characters is reading a word of length `n` in it
  have hwalk : ∀ n, (Place.walk class? s.before s.after)[n]? = some t ↔
      ∃ word, word.length = n ∧ (∀ c ∈ word, class? c) ∧ After word s t := by
    intro n
    rw [Place.walk_getElem]
    constructor
    · rintro ⟨word, rest, hword, hlength, hclass, rfl⟩
      exact ⟨word, hlength, hclass, .exists hword⟩
    · rintro ⟨word, hlength, hclass, hafter⟩
      refine ⟨word, t.after, hafter.1, hlength, hclass, ?_⟩
      rw [← hafter.2]
  -- without an upper bound the walk goes on as long as the class lasts
  cases most with
  | none =>
    rw [ends, List.mem_iff_getElem?]
    simp only [List.getElem?_drop, hwalk]
    constructor
    · rintro ⟨n, word, hlength, hclass, hafter⟩
      exact ⟨word, ⟨hclass, by omega, by simp⟩, hafter⟩
    · rintro ⟨word, ⟨hclass, hleast, -⟩, hafter⟩
      exact ⟨word.length - least, word, by omega, hclass, hafter⟩
  -- with one, the places past the bound are cut off
  | some most =>
    rw [ends, List.mem_iff_getElem?]
    simp only [List.getElem?_drop, List.getElem?_take]
    constructor
    · rintro ⟨n, h⟩
      split at h
      case isFalse => cases h
      case isTrue hn =>
        obtain ⟨word, hlength, hclass, hafter⟩ := (hwalk _).1 h
        refine ⟨word, ⟨hclass, by omega, ?_⟩, hafter⟩
        intro m hm
        cases hm
        omega
    · rintro ⟨word, ⟨hclass, hleast, hmost⟩, hafter⟩
      have hle := hmost most rfl
      refine ⟨word.length - least, ?_⟩
      rw [if_pos (by omega)]
      exact (hwalk _).2 ⟨word, by omega, hclass, hafter⟩

/-- **A plain pattern** moves over one word of its language. This is an induction on the pattern; a
    repetition follows its loop, whose places only move forward. -/
theorem mem_ends {p : Pattern} (hp : p.Plain) {s t : Place} :
    t ∈ p.ends s ↔ ∃ word ∈ p.language, After word s t := by
  -- induction on the pattern, for every place at once, since a sequence moves on from where it is
  induction p generalizing s t with
  | empty =>
    rw [ends, List.mem_singleton]
    constructor
    · rintro rfl
      exact ⟨[], rfl, rfl, rfl⟩
    · rintro ⟨word, rfl, hafter, hbefore⟩
      cases s
      cases t
      exact Place.mk.injEq .. ▸ ⟨hbefore, hafter.symm⟩
  | one class? =>
    rw [ends]
    cases hs : s.after with
    | nil =>
      simp only [List.not_mem_nil, false_iff]
      rintro ⟨_, ⟨c, rfl, -⟩, hafter, -⟩
      rw [hs] at hafter
      cases hafter
    -- one character, and the place before and after it
    | cons c rest =>
      dsimp only
      constructor
      · intro ht
        split at ht
        case isTrue hc =>
          rw [List.mem_singleton.1 ht]
          exact ⟨[c], ⟨c, rfl, hc⟩, hs, rfl⟩
        case isFalse => cases ht
      · rintro ⟨_, ⟨d, rfl, hd⟩, hafter, hbefore⟩
        rw [hs, List.singleton_append, List.cons.injEq] at hafter
        obtain ⟨rfl, rfl⟩ := hafter
        rw [if_pos hd, List.mem_singleton]
        cases t
        exact Place.mk.injEq .. ▸ ⟨hbefore, rfl⟩
  | many class? least most => exact mem_ends_many
  -- a sequence is a product of languages: the word splits where the first part ends
  | seq p q ihp ihq =>
    rw [ends, List.mem_flatMap]
    constructor
    · rintro ⟨u, hu, ht⟩
      obtain ⟨word, hword, hafter⟩ := (ihp hp.1).1 hu
      obtain ⟨word', hword', hafter'⟩ := (ihq hp.2).1 ht
      exact ⟨word ++ word', Language.append_mem_mul hword hword', hafter.trans hafter'⟩
    · rintro ⟨word, hword, hafter⟩
      obtain ⟨word₁, h₁, word₂, h₂, rfl⟩ := Language.mem_mul.1 hword
      obtain ⟨u, hu, ht⟩ := hafter.append
      exact ⟨u, (ihp hp.1).2 ⟨word₁, h₁, hu⟩, (ihq hp.2).2 ⟨word₂, h₂, ht⟩⟩
  | alt p q ihp ihq =>
    rw [ends, List.mem_append, ihp hp.1, ihq hp.2]
    constructor
    · rintro (⟨word, hword, hafter⟩ | ⟨word, hword, hafter⟩)
      · exact ⟨word, .inl hword, hafter⟩
      · exact ⟨word, .inr hword, hafter⟩
    · rintro ⟨word, hword | hword, hafter⟩
      · exact .inl ⟨word, hword, hafter⟩
      · exact .inr ⟨word, hword, hafter⟩
  -- anchors look at the place and are no plain patterns
  | notAfter | start | stop => exact hp.elim

/-! ## Groups -/

/-- The end of the group `p` in a match of `p` and `q` up to the end of the text. -/
def groupEnd (p q : Pattern) (s : Place) : Option Place :=
  (p.ends s).find? fun t => (q.ends t).any (·.after.isEmpty)

/-- `fullmatch` of `p` and `q`: what each of them matched. -/
def groups (p q : Pattern) (text : String) : Option (List Char × List Char) :=
  (groupEnd p q ⟨[], text.toList⟩).map fun t => (t.before.reverse, t.after)

/-- `exec` of `^pq$`: what `p` and `q` matched at the first place where they do. -/
def exec (p q : Pattern) (text : String) : Option (List Char × List Char) :=
  ((Place.walk (fun _ => true) [] text.toList).findSome? fun s =>
    (start.ends s).findSome? (groupEnd p q)).map fun t => (t.before.reverse, t.after)

variable {p q : Pattern} {text : String} {x y : List Char}

/-- **The halves of a whole match**, where no text has two. -/
theorem groups_eq_some (hp : p.Plain) (hq : q.Plain)
    (hone : ∀ a ∈ p.language, ∀ b ∈ q.language, ∀ a' ∈ p.language, ∀ b' ∈ q.language,
      a ++ b = a' ++ b' → a = a') :
    groups p q text = some (x, y) ↔
      text.toList = x ++ y ∧ x ∈ p.language ∧ y ∈ q.language := by
  have hend : ∀ t : Place, ((q.ends t).any (·.after.isEmpty)) = true ↔ t.after ∈ q.language := by
    intro t
    rw [List.any_eq_true]
    constructor
    · rintro ⟨u, hu, hempty⟩
      obtain ⟨word, hword, hafter, -⟩ := (mem_ends hq).1 hu
      rw [List.isEmpty_iff.1 hempty, List.append_nil] at hafter
      exact hafter ▸ hword
    · intro h
      exact ⟨⟨t.after.reverse ++ t.before, []⟩,
        (mem_ends hq).2 ⟨_, h, (List.append_nil _).symm, rfl⟩, rfl⟩
  have hfound : ∀ {t : Place}, groupEnd p q ⟨[], text.toList⟩ = some t →
      t ∈ p.ends ⟨[], text.toList⟩ ∧ t.after ∈ q.language := by
    intro t ht
    rw [groupEnd] at ht
    have hmatch := List.find?_some ht
    exact ⟨List.mem_of_find?_eq_some ht, (hend t).1 hmatch⟩
  have hplace : ∀ t : Place, t ∈ p.ends ⟨[], text.toList⟩ ∧ t.after ∈ q.language ↔
      text.toList = t.before.reverse ++ t.after ∧ t.before.reverse ∈ p.language ∧
        t.after ∈ q.language := by
    intro t
    rw [mem_ends hp]
    constructor
    · rintro ⟨⟨word, hword, hafter, hbefore⟩, ht⟩
      rw [List.append_nil] at hbefore
      rw [hbefore, List.reverse_reverse]
      exact ⟨hafter, hword, ht⟩
    · rintro ⟨htext, hword, ht⟩
      exact ⟨⟨_, hword, htext, by simp⟩, ht⟩
  rw [groups, Option.map_eq_some_iff]
  constructor
  · rintro ⟨t, ht, heq⟩
    cases heq
    exact (hplace t).1 (hfound ht)
  · rintro ⟨htext, hx, hy⟩
    have hmem : (⟨x.reverse, y⟩ : Place) ∈ p.ends ⟨[], text.toList⟩ ∧ y ∈ q.language :=
      (hplace _).2 ⟨by simpa using htext, by simpa using hx, hy⟩
    cases hfind : groupEnd p q ⟨[], text.toList⟩ with
    | none =>
      exact absurd ((hend ⟨x.reverse, y⟩).2 hy) (List.find?_eq_none.1 hfind _ hmem.1)
    | some t =>
      -- the match that was found splits the text in the same place
      obtain ⟨htext', hx', hy'⟩ := (hplace t).1 (hfound hfind)
      have hsame : t.before.reverse = x :=
        hone _ hx' _ hy' _ hx _ hy (htext'.symm.trans htext)
      refine ⟨t, rfl, ?_⟩
      rw [hsame] at htext' ⊢
      rw [List.append_cancel_left (htext'.symm.trans htext)]

/-- **A search for the anchored pattern** reports the halves of a whole match. -/
theorem exec_groups : exec p q text = groups p q text := by
  have hlater : ∀ before after, before ≠ [] →
      (Place.walk (fun _ => true) before after).findSome? (fun s =>
        (start.ends s).findSome? (groupEnd p q)) = none := by
    intro before after
    induction after generalizing before with
    | nil =>
      intro hbefore
      simp [Place.walk, ends, hbefore]
    | cons c after ih =>
      intro hbefore
      rw [Place.walk, List.findSome?_cons, if_pos rfl, ih _ (List.cons_ne_nil c before)]
      simp [ends, hbefore]
  have hfirst : ∀ after, (Place.walk (fun _ => true) [] after).findSome? (fun s =>
      (start.ends s).findSome? (groupEnd p q)) = groupEnd p q ⟨[], after⟩ := by
    intro after
    cases after with
    | nil => simp [Place.walk, ends]
    | cons c rest =>
      rw [Place.walk, List.findSome?_cons, if_pos rfl, hlater _ _ (List.cons_ne_nil c [])]
      cases h : groupEnd p q ⟨[], c :: rest⟩ <;> simp [ends, h]
  rw [exec, hfirst, groups]

end Pattern

end StripeEntitlements.Text
