import Mathlib.Data.List.Basic
import Mathlib.Data.String.Basic

/-!
# Identifiers

A row is found by its UUID, and three readers turn a text into one: the constructor `UUID` of
Python, the asyncpg codec of a parameter `$1::uuid`, and PostgreSQL itself for node-postgres,
which sends texts. They differ in the spellings they accept. All of them write a UUID in one
form, and read that form back.

## Main definitions

- `canonicalUuid` — `str(UUID(value))`
- `uuidParameter` — a text bound to `$1::uuid` by asyncpg
- `TypeScript.uuidParameter` — a text cast by PostgreSQL

## Main results

- `canonicalUuid_lower` — a canonical UUID is in lower case
- `uuidParameter_canonical` — both drivers bind it as itself
-/

namespace StripeEntitlements

/-! ## Hexadecimal digits -/

/-- The digits of a number in the given width. -/
def hexText : Nat → Nat → List Char
  | 0, _ => []
  | width + 1, n => hexText width (n / 16) ++ [Nat.digitChar (n % 16)]

/-- A digit of base 16, in either case. -/
def isHexDigit (c : Char) : Bool :=
  c.isDigit || ('a' ≤ c && c ≤ 'f') || ('A' ≤ c && c ≤ 'F')

/-- The value of an ASCII digit of base 16. -/
def hexValue (c : Char) : Option Nat :=
  if c.isDigit then some (c.toNat - '0'.toNat)
  else if 'a' ≤ c && c ≤ 'f' then some (c.toNat - 'a'.toNat + 10)
  else if 'A' ≤ c && c ≤ 'F' then some (c.toNat - 'A'.toNat + 10)
  else none

/-- 32 digits in the groups of a UUID. -/
def hyphenated (digits : List Char) : String :=
  String.ofList <| digits.take 8 ++ '-' :: (digits.drop 8).take 4 ++
    '-' :: (digits.drop 12).take 4 ++ '-' :: (digits.drop 16).take 4 ++ '-' :: digits.drop 20

/-! ## `int(value, 16)` -/

/-- The zeros of the decimal digits past ASCII, as of Unicode 15. -/
def decimalZeros : List Nat := [
  0x660, 0x6f0, 0x7c0, 0x966, 0x9e6, 0xa66, 0xae6, 0xb66, 0xbe6, 0xc66, 0xce6, 0xd66, 0xde6, 0xe50,
  0xed0, 0xf20, 0x1040, 0x1090, 0x17e0, 0x1810, 0x1946, 0x19d0, 0x1a80, 0x1a90, 0x1b50, 0x1bb0,
  0x1c40, 0x1c50, 0xa620, 0xa8d0, 0xa900, 0xa9d0, 0xa9f0, 0xaa50, 0xabf0, 0xff10, 0x104a0, 0x10d30,
  0x11066, 0x110f0, 0x11136, 0x111d0, 0x112f0, 0x11450, 0x114d0, 0x11650, 0x116c0, 0x11730, 0x118e0,
  0x11950, 0x11c50, 0x11d50, 0x11da0, 0x11f50, 0x16a60, 0x16ac0, 0x16b50, 0x1d7ce, 0x1d7d8, 0x1d7e2,
  0x1d7ec, 0x1d7f6, 0x1e140, 0x1e2f0, 0x1e4f0, 0x1e950, 0x1fbf0]

/-- The white space past ASCII, as of Unicode 15. -/
def isWideSpace (n : Nat) : Bool :=
  n = 0x85 || n = 0xa0 || n = 0x1680 || (0x2000 ≤ n && n ≤ 0x200a) || n = 0x2028 || n = 0x2029 ||
    n = 0x202f || n = 0x205f || n = 0x3000

/-- What `int` makes of a character before it reads digits: decimal digits and white space become
    those of ASCII, any other character past ASCII becomes a question mark. -/
def asciiForm (c : Char) : Char :=
  if c.toNat < 127 then c
  else if isWideSpace c.toNat then ' '
  else
    match decimalZeros.find? fun first => first ≤ c.toNat && c.toNat < first + 10 with
    | some first => Nat.digitChar (c.toNat - first)
    | none => '?'

/-- The white space that `int` strips. -/
def isIntSpace (c : Char) : Bool := c = ' ' || ('\t' ≤ c && c ≤ '\r')

/-- Digits of base 16 after a first one; one underscore may stand between two digits. -/
def intDigits (value : Nat) : List Char → Option Nat
  | [] => some value
  | '_' :: c :: rest => (hexValue c).bind fun digit => intDigits (value * 16 + digit) rest
  | c :: rest => (hexValue c).bind fun digit => intDigits (value * 16 + digit) rest

/-- The marker `0x`, after which one underscore may stand. -/
def dropMarker : List Char → List Char
  | '0' :: 'x' :: '_' :: rest | '0' :: 'X' :: '_' :: rest => rest
  | '0' :: 'x' :: rest | '0' :: 'X' :: rest => rest
  | digits => digits

/-- `int(value, 16)` of a text without a minus sign. -/
def intBase16 (value : List Char) : Option Nat :=
  let stripped :=
    (((value.map asciiForm).dropWhile isIntSpace).reverse.dropWhile isIntSpace).reverse
  let unsigned := if stripped.head? = some '+' then stripped.tail else stripped
  match dropMarker unsigned with
  | [] => none
  | c :: rest => (hexValue c).bind fun digit => intDigits digit rest

/-! ## `UUID(value)` -/

/-- `value.replace(part, "")`; what is left of a part that was found is skipped. -/
def removeParts (part : List Char) : Nat → List Char → List Char
  | _, [] => []
  | skip + 1, _ :: rest => removeParts part skip rest
  | 0, c :: rest =>
      if part.isPrefixOf (c :: rest) then removeParts part (part.length - 1) rest
      else c :: removeParts part 0 rest

/-- `value.strip("\x7b\x7d")`. -/
def stripBraces (value : List Char) : List Char :=
  let brace := fun c : Char => c = '\x7b' || c = '\x7d'
  ((value.dropWhile brace).reverse.dropWhile brace).reverse

/-- `str(UUID(value))`, or `None` where the constructor raises. -/
def canonicalUuid (value : String) : Option String :=
  let plain := removeParts "uuid:".toList 0 (removeParts "urn:".toList 0 value.toList)
  let digits := (stripBraces plain).filter (· ≠ '-')
  if digits.length = 32 then
    (intBase16 digits).map fun n => hyphenated (hexText 32 n)
  else
    none

example : canonicalUuid "\x7burn:uuid:00112233-4455-6677-8899-AABBCCDDEEFF\x7d" =
    some "00112233-4455-6677-8899-aabbccddeeff" := by decide +kernel

-- the underscore counts as one of the 32 characters
example : canonicalUuid "0011_233445566778899aabbccddeeff" =
    some "00011233-4455-6677-8899-aabbccddeeff" := by decide +kernel

/-! ## `$1::uuid` -/

/-- The text that asyncpg binds to a parameter `uuid`, as the database stores it: 32 digits, with
    hyphens anywhere, in at most 36 bytes. Other texts are refused before the statement runs. -/
def uuidParameter (value : String) : Option String :=
  let digits := value.toList.filter (· ≠ '-')
  if value.utf8ByteSize ≤ 36 && digits.length = 32 && digits.all isHexDigit then
    some (hyphenated (digits.map Char.toLower))
  else
    none

namespace TypeScript

/-- Groups of four digits, all but the last one with a hyphen behind them or not; with the text
    that is left. -/
def uuidGroups : Nat → List Char → Option (List Char × List Char)
  | 0, rest => some ([], rest)
  | groups + 1, c₁ :: c₂ :: c₃ :: c₄ :: rest =>
      if isHexDigit c₁ && isHexDigit c₂ && isHexDigit c₃ && isHexDigit c₄ then
        let rest := if groups ≠ 0 && rest.head? = some '-' then rest.tail else rest
        (uuidGroups groups rest).map fun read => (c₁ :: c₂ :: c₃ :: c₄ :: read.1, read.2)
      else
        none
  | _, _ => none

/-- The text that PostgreSQL casts to `uuid`, as it stores it: the digits may stand in braces. -/
def uuidParameter (value : String) : Option String :=
  let braced := value.toList.head? = some '\x7b'
  let body := if braced then value.toList.tail else value.toList
  let ending := if braced then ['\x7d'] else []
  ((uuidGroups 8 body).filter (·.2 = ending)).map fun read =>
    hyphenated (read.1.map Char.toLower)

end TypeScript

/-! ## The canonical form -/

theorem digitChar_hex {n : Nat} (h : n < 16) :
    isHexDigit n.digitChar = true ∧ n.digitChar.toLower = n.digitChar ∧ n.digitChar ≠ '-' ∧
      n.digitChar ≠ '\x7b' ∧ n.digitChar.utf8Size = 1 := by
  revert n
  decide

theorem hexText_length (width n : Nat) : (hexText width n).length = width := by
  induction width generalizing n with
  | zero => rfl
  | succ width ih => rw [hexText, List.length_append, ih, List.length_singleton]

theorem mem_hexText {width n : Nat} {c : Char} (h : c ∈ hexText width n) :
    ∃ d < 16, c = Nat.digitChar d := by
  induction width generalizing n with
  | zero => cases h
  | succ width ih =>
    rw [hexText, List.mem_append, List.mem_singleton] at h
    rcases h with h | rfl
    · exact ih h
    · exact ⟨n % 16, Nat.mod_lt _ (by decide), rfl⟩

/-- A canonical UUID is the form of some number. -/
theorem canonicalUuid_eq_some {raw id : String} (h : canonicalUuid raw = some id) :
    ∃ n, id = hyphenated (hexText 32 n) := by
  simp only [canonicalUuid, Option.ite_none_right_eq_some, Option.map_eq_some_iff] at h
  obtain ⟨-, n, -, rfl⟩ := h
  exact ⟨n, rfl⟩

theorem toLower_hexText (width n : Nat) :
    (hexText width n).map Char.toLower = hexText width n := by
  conv_rhs => rw [← List.map_id (hexText width n)]
  refine List.map_congr_left fun c hc => ?_
  obtain ⟨d, hd, rfl⟩ := mem_hexText hc
  exact (digitChar_hex hd).2.1

/-- A canonical UUID is in lower case. -/
theorem canonicalUuid_lower {raw id : String} (h : canonicalUuid raw = some id) :
    id.toList.map Char.toLower = id.toList := by
  obtain ⟨n, rfl⟩ := canonicalUuid_eq_some h
  have hhyphen : Char.toLower '-' = '-' := rfl
  simp only [hyphenated, String.toList_ofList, List.map_append, List.map_cons, List.map_take,
    List.map_drop, toLower_hexText, hhyphen]

/-- The digits of a canonical UUID are 32 hexadecimal ones in lower case. -/
structure CanonicalDigits (digits : List Char) : Prop where
  length : digits.length = 32
  hex : ∀ c ∈ digits, isHexDigit c = true
  lower : digits.map Char.toLower = digits
  plain : ∀ c ∈ digits, c ≠ '-' ∧ c ≠ '\x7b' ∧ c.utf8Size = 1

theorem canonicalDigits_hexText (n : Nat) : CanonicalDigits (hexText 32 n) where
  length := hexText_length 32 n
  hex c hc := by
    obtain ⟨d, hd, rfl⟩ := mem_hexText hc
    exact (digitChar_hex hd).1
  lower := toLower_hexText 32 n
  plain c hc := by
    obtain ⟨d, hd, rfl⟩ := mem_hexText hc
    exact (digitChar_hex hd).2.2

theorem utf8Len_of_ascii {chars : List Char} (h : ∀ c ∈ chars, c.utf8Size = 1) :
    String.utf8Len chars = chars.length := by
  induction chars with
  | nil => rfl
  | cons c chars ih =>
    rw [String.utf8Len_cons, ih fun x hx => h x (List.mem_cons_of_mem _ hx),
      h c List.mem_cons_self, List.length_cons]

/-- The groups of the form are the digits again. -/
theorem groups_append (digits : List Char) :
    digits.take 8 ++ (digits.drop 8).take 4 ++ (digits.drop 12).take 4 ++
      (digits.drop 16).take 4 ++ digits.drop 20 = digits := by
  -- every group takes what the one after it drops
  have hfour : ∀ n, (digits.drop n).take 4 ++ digits.drop (n + 4) = digits.drop n := by
    intro n
    rw [← List.drop_drop]
    exact List.take_append_drop 4 _
  simp only [List.append_assoc, hfour 16, hfour 12, hfour 8, List.take_append_drop]

namespace CanonicalDigits

variable {digits : List Char} (h : CanonicalDigits digits)
include h

/-- Without its hyphens the form is the digits again. -/
theorem filter_hyphenated : (hyphenated digits).toList.filter (· ≠ '-') = digits := by
  have hkept : ∀ {part : List Char}, part ⊆ digits → part.filter (· ≠ '-') = part := by
    intro part hpart
    refine List.filter_eq_self.2 fun c hc => ?_
    simpa using (h.plain c (hpart hc)).1
  have hdrop : ∀ n, digits.drop n ⊆ digits := fun n => List.drop_subset n digits
  have hmiddle : ∀ n, (digits.drop n).take 4 ⊆ digits := fun n _ hc =>
    hdrop n (List.take_subset 4 _ hc)
  simp only [hyphenated, String.toList_ofList, List.filter_append, List.append_assoc,
    List.cons_append, List.filter_cons_of_neg (a := '-') (p := (· ≠ '-')) (by simp),
    hkept (List.take_subset 8 digits), hkept (hmiddle 8), hkept (hmiddle 12), hkept (hmiddle 16),
    hkept (hdrop 20)]
  simpa only [List.append_assoc] using groups_append digits

theorem utf8ByteSize_hyphenated : (hyphenated digits).utf8ByteSize = 36 := by
  have hascii : ∀ c ∈ (hyphenated digits).toList, c.utf8Size = 1 := by
    intro c hc
    by_cases hhyphen : c = '-'
    · rw [hhyphen]
      rfl
    · refine (h.plain c ?_).2.2
      rw [← h.filter_hyphenated]
      exact List.mem_filter.2 ⟨hc, by simpa using hhyphen⟩
  have hlength : (hyphenated digits).toList.length = 36 := by
    simp [hyphenated, h.length]
  rw [← hlength, ← utf8Len_of_ascii hascii, ← String.utf8ByteSize_ofList, String.ofList_toList]

/-- asyncpg binds the form as itself. -/
theorem uuidParameter_hyphenated :
    uuidParameter (hyphenated digits) = some (hyphenated digits) := by
  have hhex : digits.all isHexDigit = true := List.all_eq_true.2 h.hex
  unfold uuidParameter
  dsimp only
  rw [h.filter_hyphenated, h.utf8ByteSize_hyphenated, h.length, hhex, h.lower]
  rfl

end CanonicalDigits

namespace TypeScript

/-- One more group of digits is read off the front. -/
theorem uuidGroups_cons {groups : Nat} {c₁ c₂ c₃ c₄ : Char} {rest : List Char}
    (h : isHexDigit c₁ && isHexDigit c₂ && isHexDigit c₃ && isHexDigit c₄) :
    uuidGroups (groups + 1) (c₁ :: c₂ :: c₃ :: c₄ :: rest) =
      (uuidGroups groups
        (if groups ≠ 0 && rest.head? = some '-' then rest.tail else rest)).map
        fun read => (c₁ :: c₂ :: c₃ :: c₄ :: read.1, read.2) := by
  rw [uuidGroups, if_pos h]

/-- Whole groups, and then a hyphen. -/
theorem uuidGroups_hyphen {groups left : Nat} {digits rest : List Char}
    (hlength : digits.length = 4 * (groups + 1)) (hhex : ∀ c ∈ digits, isHexDigit c = true)
    (hplain : ∀ c ∈ digits, c ≠ '-') (hleft : left ≠ 0) :
    uuidGroups (left + groups + 1) (digits ++ '-' :: rest) =
      (uuidGroups left rest).map fun read => (digits ++ read.1, read.2) := by
  -- By the number of groups, each of four digits; a hyphen may follow the last one only.
  induction groups generalizing digits with
  | zero =>
    obtain ⟨c₁, c₂, c₃, c₄, rfl⟩ := List.length_eq_four.1 hlength
    rw [List.cons_append, List.cons_append, List.cons_append, List.cons_append, List.nil_append,
      uuidGroups_cons (by simp [hhex])]
    simp [hleft]
  | succ groups ih =>
    match digits, hlength with
    | c₁ :: c₂ :: c₃ :: c₄ :: d :: digits, hlength =>
      -- The group is followed by a digit, so no hyphen is looked for here.
      have hnext : (d :: digits).length = 4 * (groups + 1) := by simp at hlength ⊢; omega
      have hd : d ≠ '-' := hplain d (by simp)
      rw [List.cons_append, List.cons_append, List.cons_append, List.cons_append,
        uuidGroups_cons (by simp [hhex])]
      simp only [List.cons_append, List.head?_cons, Option.some.injEq, hd, decide_false,
        Bool.and_false, Bool.false_eq_true, if_false]
      have hrest := ih hnext (fun c hc => hhex c (by simp at hc ⊢; tauto))
        (fun c hc => hplain c (by simp at hc ⊢; tauto))
      rw [List.cons_append, Nat.add_assoc left] at hrest
      rw [hrest, Option.map_map]
      rfl

/-- The last groups. -/
theorem uuidGroups_last {groups : Nat} {digits : List Char}
    (hlength : digits.length = 4 * groups) (hhex : ∀ c ∈ digits, isHexDigit c = true)
    (hplain : ∀ c ∈ digits, c ≠ '-') : uuidGroups groups digits = some (digits, []) := by
  induction groups generalizing digits with
  | zero =>
    obtain rfl := List.length_eq_zero_iff.1 hlength
    rfl
  | succ groups ih =>
    match digits, hlength with
    | c₁ :: c₂ :: c₃ :: c₄ :: digits, hlength =>
      have hnext : digits.length = 4 * groups := by simp at hlength; omega
      have hhead : ¬(digits.head? = some '-') := by
        intro hhead
        exact hplain '-' (by simp [List.mem_of_mem_head? hhead]) rfl
      rw [uuidGroups_cons (by simp [hhex])]
      simp only [hhead, decide_false, Bool.and_false, Bool.false_eq_true, if_false]
      rw [ih hnext (fun c hc => hhex c (by simp [hc])) fun c hc => hplain c (by simp [hc])]
      rfl

/-- PostgreSQL casts the form to itself. -/
theorem uuidParameter_hyphenated {digits : List Char} (h : CanonicalDigits digits) :
    uuidParameter (hyphenated digits) = some (hyphenated digits) := by
  have hmiddle : ∀ n, (digits.drop n).take 4 ⊆ digits := fun n _ hc =>
    List.drop_subset n digits (List.take_subset 4 _ hc)
  have hgroup : ∀ (left groups : Nat) {part rest : List Char}, part ⊆ digits →
      part.length = 4 * (groups + 1) → left ≠ 0 →
      uuidGroups (left + groups + 1) (part ++ '-' :: rest) =
        (uuidGroups left rest).map fun read => (part ++ read.1, read.2) :=
    fun _ _ _ _ hpart hlength hleft => uuidGroups_hyphen hlength (fun c hc => h.hex c (hpart hc))
      (fun c hc => (h.plain c (hpart hc)).1) hleft
  have hlast : uuidGroups 3 (digits.drop 20) = some (digits.drop 20, []) :=
    uuidGroups_last (by simp [h.length]) (fun c hc => h.hex c (List.drop_subset 20 digits hc))
      fun c hc => (h.plain c (List.drop_subset 20 digits hc)).1
  have hread : uuidGroups 8 (hyphenated digits).toList = some (digits, []) := by
    simp only [hyphenated, String.toList_ofList, List.append_assoc, List.cons_append]
    -- two groups, one, one, one, and the last three
    rw [hgroup 6 1 (List.take_subset 8 digits) (by simp [h.length]) (by decide),
      hgroup 5 0 (hmiddle 8) (by simp [h.length]) (by decide),
      hgroup 4 0 (hmiddle 12) (by simp [h.length]) (by decide),
      hgroup 3 0 (hmiddle 16) (by simp [h.length]) (by decide), hlast]
    simp only [Option.map_some, ← List.append_assoc]
    rw [groups_append]
  have hplain : (hyphenated digits).toList.head? ≠ some '\x7b' := by
    intro hbrace
    have hdigit : '\x7b' ∈ digits := by
      rw [← h.filter_hyphenated]
      exact List.mem_filter.2 ⟨List.mem_of_mem_head? hbrace, by decide⟩
    exact (h.plain _ hdigit).2.1 rfl
  unfold uuidParameter
  dsimp only
  rw [if_neg hplain, if_neg hplain, hread]
  simp [h.lower]

end TypeScript

/-- **A canonical UUID** is bound as itself by both drivers. So an id that the constructor wrote,
    and every id that the database returned, names the same row in Python and in TypeScript; only
    the spellings that callers bring from outside can be read differently. -/
theorem uuidParameter_canonical {raw id : String} (h : canonicalUuid raw = some id) :
    uuidParameter id = some id ∧ TypeScript.uuidParameter id = some id := by
  obtain ⟨n, rfl⟩ := canonicalUuid_eq_some h
  have hdigits := canonicalDigits_hexText n
  exact ⟨hdigits.uuidParameter_hyphenated, TypeScript.uuidParameter_hyphenated hdigits⟩

end StripeEntitlements
