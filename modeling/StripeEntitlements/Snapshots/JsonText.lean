import Mathlib.Algebra.Ring.Nat
import Mathlib.Data.Bool.AllAny
import Mathlib.Data.List.Infix
import Mathlib.Data.String.Basic
import StripeEntitlements.Json

/-!
# JSON Text

`json.dumps` as far as a stored request is held to a size and kept free of secrets. A marker
made of letters and underscores cannot lie across the punctuation of the text, so it is in
the text only when it is in one of the strings.

## Main results

- `Json.marker_dumps` — a marker of the text lies in a string of the value
- `Json.utf8Len_dumps_le` — the text is no longer than the weight of the value
-/

namespace StripeEntitlements

/-! ## Infixes across punctuation -/

section

variable {α : Type} {m : List α}

/-- What avoids `c` is on one side of it. -/
theorem infix_append_cons {c : α} (hc : c ∉ m) {xs ys : List α} :
    m <:+: xs ++ c :: ys ↔ m <:+: xs ∨ m <:+: ys := by
  constructor
  · intro h
    rcases List.infix_append_iff.1 h with hleft | hright | ⟨front, back, rfl, hfront, hback⟩
    · exact .inl hleft
    · rcases List.infix_cons_iff.1 hright with hprefix | htail
      · cases m with
        | nil => exact .inl List.nil_infix
        | cons x rest =>
          have hx : x = c := (List.cons_prefix_cons.1 hprefix).1
          exact absurd (hx ▸ List.mem_cons_self) hc
      · exact .inr htail
    · cases back with
      | nil => exact .inl (by simpa using hfront.isInfix)
      | cons x rest =>
        have hx : x = c := (List.cons_prefix_cons.1 hback).1
        exact absurd (List.mem_append_right _ (hx ▸ List.mem_cons_self)) hc
  · rintro (h | h)
    · exact h.trans (List.prefix_append _ _).isInfix
    · exact h.trans ((List.suffix_cons _ _).trans (List.suffix_append _ _)).isInfix

theorem infix_cons {c : α} (hc : c ∉ m) {ys : List α} :
    m <:+: c :: ys ↔ m <:+: [] ∨ m <:+: ys := @infix_append_cons α m c hc [] ys

theorem infix_concat {c : α} (hc : c ∉ m) {xs : List α} :
    m <:+: xs ++ [c] ↔ m <:+: xs ∨ m <:+: [] := infix_append_cons hc

end

/-! ## The text -/

namespace Json

/-- One character of a string in `json.dumps(…, ensure_ascii=False)`. -/
def dumpsChar (c : Char) : List Char :=
  let hex (n : Nat) : Char := Char.ofNat (if n < 10 then 48 + n else 87 + n)
  match c.toNat with
  | 34 => "\\\"".toList
  | 92 => "\\\\".toList
  | 8 => "\\b".toList
  | 9 => "\\t".toList
  | 10 => "\\n".toList
  | 12 => "\\f".toList
  | 13 => "\\r".toList
  | n => if n < 32 then "\\u00".toList ++ [hex (n / 16), hex (n % 16)] else [c]

def dumpsText (text : String) : List Char :=
  '"' :: (text.toList.flatMap dumpsChar ++ ['"'])

/-- `",".join(parts)`. -/
def joinComma : List (List Char) → List Char
  | [] => []
  | [part] => part
  | part :: next :: rest => part ++ ',' :: joinComma (next :: rest)

mutual

/-- `json.dumps(value, ensure_ascii=False, separators=(",", ":"))`. -/
def dumps : Json → List Char
  | .null => "null".toList
  | .bool true => "true".toList
  | .bool false => "false".toList
  | .int n => (toString n).toList
  | .float mantissa exponent => (toString mantissa ++ "e" ++ toString exponent).toList
  | .str s => dumpsText s
  | .arr items => '[' :: (joinComma (dumpsItems items) ++ [']'])
  | .obj members => '\x7b' :: (joinComma (dumpsMembers members) ++ ['\x7d'])

def dumpsItems : List Json → List (List Char)
  | [] => []
  | x :: xs => dumps x :: dumpsItems xs

def dumpsMembers : List (String × Json) → List (List Char)
  | [] => []
  | (key, x) :: xs => (dumpsText key ++ ':' :: dumps x) :: dumpsMembers xs

end

/-! ## Strings and weight -/

mutual

/-- The strings of a value, member names included. -/
def strings : Json → List String
  | .str s => [s]
  | .arr items => stringsItems items
  | .obj members => stringsMembers members
  | _ => []

def stringsItems : List Json → List String
  | [] => []
  | x :: xs => strings x ++ stringsItems xs

def stringsMembers : List (String × Json) → List String
  | [] => []
  | (key, x) :: xs => key :: (strings x ++ stringsMembers xs)

end

mutual

/-- A bound on the bytes of the text: a character of a string takes at most twice its own. -/
def weight : Json → Nat
  | .null => 4
  | .bool _ => 5
  | .int n => String.utf8Len (toString n).toList
  | .float mantissa exponent => String.utf8Len (toString mantissa ++ "e" ++ toString exponent).toList
  | .str s => 2 * s.utf8ByteSize + 2
  | .arr items => weightItems items + 2
  | .obj members => weightMembers members + 2

def weightItems : List Json → Nat
  | [] => 0
  | x :: xs => weight x + 1 + weightItems xs

def weightMembers : List (String × Json) → Nat
  | [] => 0
  | (key, x) :: xs => 2 * key.utf8ByteSize + 4 + weight x + weightMembers xs

end

/-! ## What the text contains -/

/-- No character is a control character. -/
def Visible (text : String) : Prop := ∀ c ∈ text.toList, 32 ≤ c.toNat

theorem dumpsChar_of_visible {c : Char} (hc : 32 ≤ c.toNat) :
    dumpsChar c = [c] ∨ (dumpsChar c = ['\\', c] ∧ (c = '"' ∨ c = '\\')) := by
  unfold dumpsChar
  dsimp only
  split
  case h_1 h =>
    obtain rfl : c = '"' := Char.toNat_inj.1 h
    exact .inr ⟨rfl, .inl rfl⟩
  case h_2 h =>
    obtain rfl : c = '\\' := Char.toNat_inj.1 h
    exact .inr ⟨rfl, .inr rfl⟩
  case h_8 => exact .inl (if_neg (by omega))
  all_goals omega

theorem utf8Len_dumpsChar {c : Char} (hc : 32 ≤ c.toNat) :
    String.utf8Len (dumpsChar c) ≤ 2 * c.utf8Size := by
  have hpos := c.utf8Size_pos
  rcases dumpsChar_of_visible hc with h | ⟨h, rfl | rfl⟩ <;> rw [h]
  · simp only [String.utf8Len_cons, String.utf8Len_nil]
    omega
  · decide
  · decide

theorem utf8Len_escaped {cs : List Char} (h : ∀ c ∈ cs, 32 ≤ c.toNat) :
    String.utf8Len (cs.flatMap dumpsChar) ≤ 2 * String.utf8Len cs := by
  induction cs with
  | nil => simp
  | cons c cs ih =>
    have htail := ih fun x hx => h x (List.mem_cons_of_mem _ hx)
    have hhead := utf8Len_dumpsChar (h c List.mem_cons_self)
    rw [List.flatMap_cons, String.utf8Len_append, String.utf8Len_cons]
    omega

/-- Letters and underscores, with an underscore among them. -/
structure Marker (m : List Char) : Prop where
  underscore : '_' ∈ m
  letters : ∀ c ∈ m, c ∉ ['"', '\\', ',', ':', '[', ']', '\x7b', '\x7d']

namespace Marker

variable {m : List Char}

theorem not_found (h : Marker m) {xs : List Char} (hxs : '_' ∉ xs) : ¬m <:+: xs :=
  fun hfound => hxs (hfound.subset h.underscore)

theorem not_mem (h : Marker m) {c : Char}
    (hc : c ∈ ['"', '\\', ',', ':', '[', ']', '\x7b', '\x7d']) : c ∉ m :=
  fun hm => h.letters c hm hc

/-- A marker of an escaped string lies in the string; `r` is the part already read. -/
theorem escaped (h : Marker m) {cs r : List Char} (hcs : ∀ c ∈ cs, 32 ≤ c.toNat)
    (hfound : m <:+: r ++ cs.flatMap dumpsChar) : m <:+: r ++ cs := by
  induction cs generalizing r with
  | nil => simpa using hfound
  | cons c cs ih =>
    have htail : ∀ x ∈ cs, 32 ≤ x.toNat := fun x hx => hcs x (List.mem_cons_of_mem _ hx)
    rw [List.flatMap_cons] at hfound
    rcases dumpsChar_of_visible (hcs c List.mem_cons_self) with hplain | ⟨hescaped, hc⟩
    · have hread := ih htail (r := r ++ [c]) (by simpa [hplain] using hfound)
      simpa using hread
    · -- neither the escape nor the character it escapes is in a marker
      have hcm : c ∉ m := by
        rcases hc with rfl | rfl
        · exact h.not_mem (by decide)
        · exact h.not_mem (by decide)
      rw [hescaped, List.cons_append, List.singleton_append] at hfound
      rcases (infix_append_cons (h.not_mem (by decide))).1 hfound with hleft | hright
      · exact hleft.trans (List.prefix_append _ _).isInfix
      · rcases (infix_cons hcm).1 hright with hnil | hrest
        · exact absurd hnil (h.not_found List.not_mem_nil)
        · have hread := ih htail (r := []) hrest
          exact (infix_append_cons hcm).2 (.inr hread)

theorem dumpsText (h : Marker m) {text : String} (hvisible : Visible text)
    (hfound : m <:+: Json.dumpsText text) : m <:+: text.toList := by
  rcases (infix_cons (h.not_mem (by decide))).1 hfound with hnil | hrest
  · exact absurd hnil (h.not_found List.not_mem_nil)
  · rcases (infix_concat (h.not_mem (by decide))).1 hrest with hbody | hnil
    · exact h.escaped (r := []) hvisible hbody
    · exact absurd hnil (h.not_found List.not_mem_nil)

theorem joinComma (h : Marker m) {parts : List (List Char)}
    (hfound : m <:+: Json.joinComma parts) : ∃ part ∈ parts, m <:+: part := by
  induction parts with
  | nil => exact absurd hfound (h.not_found List.not_mem_nil)
  | cons part rest ih =>
    cases rest with
    | nil => exact ⟨part, List.mem_cons_self, hfound⟩
    | cons next rest =>
      rcases (infix_append_cons (h.not_mem (by decide))).1 hfound with hpart | hrest
      · exact ⟨part, List.mem_cons_self, hpart⟩
      · obtain ⟨found, hfound, hm⟩ := ih hrest
        exact ⟨found, List.mem_cons_of_mem _ hfound, hm⟩

/-- What stands between two brackets. -/
theorem bracketed (h : Marker m) {open? close : Char} {body : List Char} (hopen : open? ∉ m)
    (hclose : close ∉ m) (hfound : m <:+: open? :: (body ++ [close])) : m <:+: body := by
  rcases (infix_cons hopen).1 hfound with hnil | hrest
  · exact absurd hnil (h.not_found List.not_mem_nil)
  · rcases (infix_concat hclose).1 hrest with hbody | hnil
    · exact hbody
    · exact absurd hnil (h.not_found List.not_mem_nil)

end Marker

theorem underscore_not_mem_nat (n : Nat) : '_' ∉ (toString n).toList := by
  rw [Nat.toString_eq_repr, Nat.toList_repr]
  exact Nat.underscore_not_in_toDigits

theorem underscore_not_mem_int (n : Int) : '_' ∉ (toString n).toList := by
  cases n with
  | ofNat n => exact underscore_not_mem_nat n
  | negSucc n =>
    have htext : (toString (Int.negSucc n)).toList = '-' :: (toString (n + 1)).toList := by
      rw [Int.toString_eq_repr, Int.repr, String.toList_append]
      rfl
    rw [htext, List.mem_cons, not_or]
    exact ⟨by decide, underscore_not_mem_nat _⟩

mutual

/-- **A marker of the text** lies in one of the strings. -/
theorem marker_dumps {m : List Char} (h : Marker m) {v : Json}
    (hv : ∀ s ∈ v.strings, Visible s) (hfound : m <:+: v.dumps) :
    ∃ s ∈ v.strings, m <:+: s.toList := by
  match v with
  | .null => exact absurd hfound (h.not_found (by decide))
  | .bool true => exact absurd hfound (h.not_found (by decide))
  | .bool false => exact absurd hfound (h.not_found (by decide))
  | .int n => exact absurd hfound (h.not_found (underscore_not_mem_int n))
  | .float mantissa exponent =>
    refine absurd hfound (h.not_found ?_)
    simp only [dumps, String.toList_append, List.mem_append, not_or]
    exact ⟨⟨underscore_not_mem_int _, by decide⟩, underscore_not_mem_int _⟩
  | .str s =>
    exact ⟨s, List.mem_singleton_self s, h.dumpsText (hv s (List.mem_singleton_self s)) hfound⟩
  | .arr items =>
    have hbody := h.bracketed (h.not_mem (by decide)) (h.not_mem (by decide)) hfound
    obtain ⟨part, hpart, hm⟩ := h.joinComma hbody
    exact marker_items h hv hpart hm
  | .obj members =>
    have hbody := h.bracketed (h.not_mem (by decide)) (h.not_mem (by decide)) hfound
    obtain ⟨part, hpart, hm⟩ := h.joinComma hbody
    exact marker_members h hv hpart hm

theorem marker_items {m : List Char} (h : Marker m) {items : List Json}
    (hv : ∀ s ∈ stringsItems items, Visible s) {part : List Char}
    (hpart : part ∈ dumpsItems items) (hfound : m <:+: part) :
    ∃ s ∈ stringsItems items, m <:+: s.toList := by
  match items with
  | [] => cases hpart
  | x :: xs =>
    rcases List.mem_cons.1 hpart with rfl | hrest
    · obtain ⟨s, hs, hm⟩ := marker_dumps h (fun s hs => hv s (List.mem_append_left _ hs)) hfound
      exact ⟨s, List.mem_append_left _ hs, hm⟩
    · obtain ⟨s, hs, hm⟩ := marker_items h (fun s hs => hv s (List.mem_append_right _ hs))
        hrest hfound
      exact ⟨s, List.mem_append_right _ hs, hm⟩

theorem marker_members {m : List Char} (h : Marker m) {members : List (String × Json)}
    (hv : ∀ s ∈ stringsMembers members, Visible s) {part : List Char}
    (hpart : part ∈ dumpsMembers members) (hfound : m <:+: part) :
    ∃ s ∈ stringsMembers members, m <:+: s.toList := by
  match members with
  | [] => cases hpart
  | (key, x) :: xs =>
    rcases List.mem_cons.1 hpart with rfl | hrest
    · rcases (infix_append_cons (h.not_mem (by decide))).1 hfound with hkey | hvalue
      · exact ⟨key, List.mem_cons_self, h.dumpsText (hv key List.mem_cons_self) hkey⟩
      · obtain ⟨s, hs, hm⟩ := marker_dumps h
          (fun s hs => hv s (List.mem_cons_of_mem _ (List.mem_append_left _ hs))) hvalue
        exact ⟨s, List.mem_cons_of_mem _ (List.mem_append_left _ hs), hm⟩
    · obtain ⟨s, hs, hm⟩ := marker_members h
        (fun s hs => hv s (List.mem_cons_of_mem _ (List.mem_append_right _ hs))) hrest hfound
      exact ⟨s, List.mem_cons_of_mem _ (List.mem_append_right _ hs), hm⟩

end

/-! ## How long the text is -/

theorem utf8Len_dumpsText {text : String} (h : Visible text) :
    String.utf8Len (dumpsText text) ≤ 2 * text.utf8ByteSize + 2 := by
  have hbody := utf8Len_escaped h
  have hsize : text.utf8ByteSize = String.utf8Len text.toList := by
    rw [← String.utf8ByteSize_ofList, String.ofList_toList]
  have hquote : '"'.utf8Size = 1 := by decide
  rw [dumpsText, String.utf8Len_cons, String.utf8Len_append, String.utf8Len_cons,
    String.utf8Len_nil, hquote, hsize]
  omega

theorem utf8Len_joinComma (parts : List (List Char)) :
    String.utf8Len (joinComma parts) ≤ (parts.map fun part => String.utf8Len part + 1).sum := by
  induction parts with
  | nil => simp [joinComma]
  | cons part rest ih =>
    cases rest with
    | nil => simp [joinComma]
    | cons next rest =>
      have hcomma : ','.utf8Size = 1 := by decide
      rw [joinComma, String.utf8Len_append, String.utf8Len_cons, hcomma, List.map_cons,
        List.sum_cons]
      omega

mutual

/-- **The text** is no longer than the weight. -/
theorem utf8Len_dumps_le {v : Json} (hv : ∀ s ∈ v.strings, Visible s) :
    String.utf8Len v.dumps ≤ v.weight := by
  match v with
  | .null => decide
  | .bool true => decide
  | .bool false => decide
  | .int n => exact le_rfl
  | .float mantissa exponent => exact le_rfl
  | .str s => exact utf8Len_dumpsText (hv s (List.mem_singleton_self s))
  -- The brackets are two bytes, and every comma is counted with its item.
  | .arr items =>
    have hjoin := utf8Len_joinComma (dumpsItems items)
    have hitems := utf8Len_items_le hv
    have hopen : '['.utf8Size = 1 := by decide
    have hclose : ']'.utf8Size = 1 := by decide
    rw [dumps, weight, String.utf8Len_cons, String.utf8Len_append, String.utf8Len_cons,
      String.utf8Len_nil, hopen, hclose]
    omega
  -- The braces are two bytes, and colon and comma are counted with their member.
  | .obj members =>
    have hjoin := utf8Len_joinComma (dumpsMembers members)
    have hmembers := utf8Len_members_le hv
    have hopen : '\x7b'.utf8Size = 1 := by decide
    have hclose : '\x7d'.utf8Size = 1 := by decide
    rw [dumps, weight, String.utf8Len_cons, String.utf8Len_append, String.utf8Len_cons,
      String.utf8Len_nil, hopen, hclose]
    omega

theorem utf8Len_items_le {items : List Json} (hv : ∀ s ∈ stringsItems items, Visible s) :
    ((dumpsItems items).map fun part => String.utf8Len part + 1).sum ≤ weightItems items := by
  match items with
  | [] => exact le_rfl
  | x :: xs =>
    have hx := utf8Len_dumps_le (v := x) fun s hs => hv s (List.mem_append_left _ hs)
    have hxs := @utf8Len_items_le xs fun s hs => hv s (List.mem_append_right _ hs)
    rw [dumpsItems, weightItems, List.map_cons, List.sum_cons]
    omega

theorem utf8Len_members_le {members : List (String × Json)}
    (hv : ∀ s ∈ stringsMembers members, Visible s) :
    ((dumpsMembers members).map fun part => String.utf8Len part + 1).sum ≤
      weightMembers members := by
  match members with
  | [] => exact le_rfl
  | (key, x) :: xs =>
    have hkey := utf8Len_dumpsText (hv key List.mem_cons_self)
    have hx := utf8Len_dumps_le (v := x) fun s hs =>
      hv s (List.mem_cons_of_mem _ (List.mem_append_left _ hs))
    have hxs := @utf8Len_members_le xs fun s hs =>
      hv s (List.mem_cons_of_mem _ (List.mem_append_right _ hs))
    have hcolon : ':'.utf8Size = 1 := by decide
    rw [dumpsMembers, weightMembers, List.map_cons, List.sum_cons, String.utf8Len_append,
      String.utf8Len_cons, hcolon]
    omega

end

end Json

end StripeEntitlements
