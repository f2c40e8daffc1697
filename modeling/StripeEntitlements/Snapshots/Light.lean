import StripeEntitlements.Snapshots.Fields

/-!
# Light Values

A value is light when its strings are clean and its text is short. Light fields make a light
object, so that a frozen request stays below the size limit of a snapshot because each of its
fields does.

## Main results

- `Json.Light.obj`, `Json.Light.arr` — light parts make a light whole
- `Json.Light.safeJson` — a light value is safe to store
-/

namespace StripeEntitlements

variable {u : Unicode} {v : Json}

/-- The strings are clean, and the text is no longer than `n` bytes. -/
structure Json.Light (v : Json) (n : Nat) : Prop where
  clean : ∀ s ∈ v.strings, CleanString s
  weight : v.weight ≤ n

/-- Clean strings, as far as a computation can tell. -/
def cleanLiterals (texts : List String) : Bool :=
  texts.all fun s => s.toList.all (32 ≤ ·.toNat) && !hasSecretMarker s.toList

theorem cleanString_of_literal {texts : List String} (h : cleanLiterals texts = true) :
    ∀ s ∈ texts, CleanString s := by
  intro s hs
  simp only [cleanLiterals, List.all_eq_true, Bool.and_eq_true, decide_eq_true_eq,
    Bool.not_eq_true'] at h
  exact ⟨(h s hs).1, (h s hs).2⟩

/-- What the member names add to the weight of an object. -/
def keysWeight (keys : List String) : Nat := (keys.map fun key => 2 * key.utf8ByteSize + 4).sum

namespace Json.Light

theorem mono {n n' : Nat} (h : v.Light n) (hle : n ≤ n') : v.Light n' := ⟨h.clean, h.weight.trans hle⟩

/-- **A light value** is safe to store. -/
theorem safeJson {n : Nat} (h : v.Light n) (hn : n ≤ 32 * 1024) :
    StripeEntitlements.safeJson v = .ok () := safeJson_of_clean h.clean (h.weight.trans hn)

theorem null : Json.null.Light 4 := ⟨nofun, le_rfl⟩

theorem bool (b : Bool) : (Json.bool b).Light 5 := ⟨nofun, le_rfl⟩

theorem str {text : String} {n : Nat} (h : CleanString text) (hn : text.utf8ByteSize ≤ n) :
    (Json.str text).Light (2 * n + 2) := by
  constructor
  · intro s hs
    rw [List.mem_singleton.1 hs]
    exact h
  · rw [Json.weight]
    omega

theorem text (hu : u.Lawful) {maximum : Nat} {text : String} (h : CleanText u maximum text) :
    (Json.str text).Light (2 * maximum + 2) := str (h.cleanString hu) h.size_le

theorem literal {text : String} (n : Nat) (h : cleanLiterals [text] = true)
    (hn : text.utf8ByteSize ≤ n) : (Json.str text).Light (2 * n + 2) :=
  str (cleanString_of_literal h text List.mem_cons_self) hn

theorem utf8Len_ascii {cs : List Char} (h : ∀ c ∈ cs, c.toNat < 128) :
    String.utf8Len cs = cs.length := by
  induction cs with
  | nil => rfl
  | cons c rest ih =>
    have hc : c.utf8Size = 1 := by
      rw [Char.utf8Size_eq_one_iff, UInt32.le_iff_toNat_le]
      exact Nat.le_of_lt_succ (h c List.mem_cons_self)
    rw [String.utf8Len_cons, hc, ih fun d hd => h d (List.mem_cons_of_mem _ hd), List.length_cons]

theorem isDigit_ascii {c : Char} (h : c.isDigit = true) : 48 ≤ c.toNat ∧ c.toNat < 58 := by
  have hrange := Char.isDigit_iff_toNat.1 h
  have hzero : '0'.toNat = 48 := rfl
  have hnine : '9'.toNat = 57 := rfl
  omega

/-- The text of a number is as long as its digits. -/
theorem nat {n k : Nat} (hk : 0 < k) (h : n < 10 ^ k) : (Json.int n).Light k := by
  constructor
  · nofun
  · have htext : (toString (n : Int)).toList = Nat.toDigits 10 n := by
      change (toString n).toList = _
      rw [Nat.toString_eq_repr, Nat.toList_repr]
    have hascii : ∀ c ∈ Nat.toDigits 10 n, c.toNat < 128 := fun c hc =>
      (isDigit_ascii (Nat.isDigit_of_mem_toDigits (by decide) (by decide) hc)).2.trans (by decide)
    rw [Json.weight, htext, utf8Len_ascii hascii]
    exact (Nat.length_toDigits_le_iff (by decide) hk).2 h

theorem int {n : Int} (hpos : 0 ≤ n) (hle : n ≤ 253402300799) : (Json.int n).Light 12 := by
  obtain ⟨m, rfl⟩ := Int.eq_ofNat_of_zero_le hpos
  exact nat (by decide) (by omega)

/-- **Light items** make a light list. -/
theorem arr {items : List Json} {ns : List Nat} {n : Nat}
    (h : List.Forall₂ (fun x n => x.Light n) items ns) (hn : (ns.map (· + 1)).sum + 2 ≤ n) :
    (Json.arr items).Light n := by
  have hitems : (∀ s ∈ Json.stringsItems items, CleanString s) ∧
      Json.weightItems items ≤ (ns.map (· + 1)).sum := by
    clear hn
    induction h with
    | nil => exact ⟨nofun, le_rfl⟩
    | cons hx _ ih =>
      obtain ⟨hclean, hweight⟩ := ih
      constructor
      · intro s hs
        rcases List.mem_append.1 hs with hs | hs
        · exact hx.clean s hs
        · exact hclean s hs
      · have hhead := hx.weight
        rw [Json.weightItems, List.map_cons, List.sum_cons]
        omega
  refine ⟨hitems.1, ?_⟩
  rw [Json.weight]
  have hweight := hitems.2
  omega

/-- **Light members** make a light object. -/
theorem obj {keys : List String} {members : List (String × Json)} {ns : List Nat} {n : Nat}
    (hmembers : members.map Prod.fst = keys) (hkeys : cleanLiterals keys = true)
    (h : List.Forall₂ (fun m n => m.2.Light n) members ns)
    (hn : keysWeight keys + ns.sum + 2 ≤ n) : (Json.obj members).Light n := by
  subst hmembers
  -- Keys and values are counted together, by induction on the members and their bounds.
  have hmembers : (∀ s ∈ Json.stringsMembers members,
      s ∈ members.map Prod.fst ∨ CleanString s) ∧
      Json.weightMembers members ≤ keysWeight (members.map Prod.fst) + ns.sum := by
    clear hkeys hn
    induction h with
    | nil => exact ⟨nofun, le_rfl⟩
    | @cons m n members ns hx _ ih =>
      obtain ⟨hclean, hweight⟩ := ih
      obtain ⟨key, x⟩ := m
      constructor
      -- A string of the object is a key of it, or a string of one of the values.
      · intro s hs
        rcases List.mem_cons.1 hs with rfl | hs
        · exact .inl List.mem_cons_self
        · rcases List.mem_append.1 hs with hs | hs
          · exact .inr (hx.clean s hs)
          · exact (hclean s hs).imp_left (List.mem_cons_of_mem _)
      · have hhead := hx.weight
        simp only [keysWeight, List.map_cons, List.sum_cons] at hweight ⊢
        rw [Json.weightMembers]
        dsimp only at hhead ⊢
        omega
  -- The two braces are the only weight that is left.
  constructor
  · intro s hs
    rcases hmembers.1 s hs with hkey | hclean
    · exact cleanString_of_literal hkeys s hkey
    · exact hclean
  · rw [Json.weight]
    have hle := hmembers.2
    omega

end Json.Light

/-! ## ASCII texts -/

theorem utf8ByteSize_eq (s : String) : s.utf8ByteSize = String.utf8Len s.toList := by
  rw [← String.utf8ByteSize_ofList, String.ofList_toList]

/-- Neither a control character nor a blank, and ASCII. -/
def isAsciiText (c : Char) : Bool := 33 ≤ c.toNat && c.toNat < 127

/-- A text of such characters is visible as far as it is short. -/
theorem visible_of_ascii (hu : u.Lawful) {maximum : Nat} {s : String} (hne : s ≠ "")
    (hchars : ∀ c ∈ s.toList, isAsciiText c = true) (hsize : s.length ≤ maximum) :
    u.visible maximum s = true := by
  have hrange : ∀ c ∈ s.toList, 33 ≤ c.toNat ∧ c.toNat < 127 := by
    intro c hc
    simpa [isAsciiText] using hchars c hc
  have hbytes : s.utf8ByteSize ≤ maximum := by
    rw [utf8ByteSize_eq, Json.Light.utf8Len_ascii fun c hc => (hrange c hc).2.trans (by decide),
      String.length_toList]
    exact hsize
  have hblank : ∀ c ∈ s.toList, c ≠ ' ' := by
    rintro c hc rfl
    exact absurd (hrange ' ' hc).1 (by decide)
  simp only [Unicode.visible, Bool.and_eq_true, decide_eq_true_eq, List.all_eq_true]
  refine ⟨⟨⟨⟨hne, hbytes⟩, fun c hc => ?_⟩, fun hhead => ?_⟩, fun hlast => ?_⟩
  · exact hu.printable c ((by decide : 32 ≤ 33).trans (hrange c hc).1) (hrange c hc).2
  · exact hblank ' ' (List.mem_of_head? hhead) rfl
  · exact hblank ' ' (List.mem_of_getLast? hlast) rfl

end StripeEntitlements
