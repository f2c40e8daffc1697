import StripeEntitlements.Events
import StripeEntitlements.Snapshots.JsonText

/-!
# Fields of a Frozen Request

The checks that `stripe_request_snapshots.py` makes on one field, and what an accepted field
is: a text is that string, an integer is that JSON integer, a mapping has these members and no
others.

## Main results

- `exactMapping_eq_ok`, `Unicode.snapshotText_eq_ok`, `snapshotInteger_eq_ok` — one per check
- `beq_of_exact` — a mapping is the mapping of its members
- `safeJson_of_clean` — clean fields make a clean text
-/

namespace StripeEntitlements

/-! ## Secrets -/

/-- `_SECRET_MARKERS`. -/
def secretMarkers : List (List Char) :=
  ["sk_test_", "sk_live_", "rk_test_", "rk_live_", "whsec_"].map String.toList

def hasSecretMarker (text : List Char) : Bool :=
  secretMarkers.any fun marker => decide (marker <:+: text)

theorem secretMarkers_marker {m : List Char} (hm : m ∈ secretMarkers) : Json.Marker m := by
  have hall : ∀ m ∈ secretMarkers, '_' ∈ m ∧
      (m.all fun c => c ∉ ['"', '\\', ',', ':', '[', ']', '\x7b', '\x7d']) = true := by
    decide
  exact ⟨(hall m hm).1, List.all_iff_forall_prop.1 (hall m hm).2⟩

theorem hasSecretMarker_eq_true {text : List Char} :
    hasSecretMarker text = true ↔ ∃ m ∈ secretMarkers, m <:+: text := by
  simp [hasSecretMarker]

/-! ## Checks -/

/-- `raise StripeRequestSnapshotError(f"… is invalid")`. -/
def invalidField (field : String) : Failure := .stripeRequestSnapshot (field ++ " is invalid")

/-- `_exact_mapping`. A Python mapping has each key once. -/
def exactMapping (value : Json) (keys : List String) (field : String) : Transaction Json :=
  match value with
  | .obj members => do
      require (members.length = keys.length && keys.all value.has)
        (.stripeRequestSnapshot (field ++ " has an unsupported shape"))
      pure value
  | _ => .error (.stripeRequestSnapshot (field ++ " has an unsupported shape"))

/-- `_text`. -/
def Unicode.snapshotText (u : Unicode) (value : Json) (field : String) (maximum : Nat) :
    Transaction String := do
  let text ← fetch (value.asStr.filter (u.visible maximum)) (invalidField field)
  require (!hasSecretMarker text.toList)
    (.stripeRequestSnapshot (field ++ " contains a prohibited secret marker"))
  pure text

/-- `_stripe_id`. -/
def Unicode.snapshotStripeId (u : Unicode) (value : Json) (pre field : String) :
    Transaction String := do
  let text ← u.snapshotText value field 255
  require (pre.toList.isPrefixOf text.toList) (invalidField field)
  pure text

/-- `_integer`. -/
def snapshotInteger (value : Json) (field : String) : Transaction Int :=
  fetch (value.asInt.filter fun n => 0 ≤ n && n ≤ 253402300799) (invalidField field)

/-- `_safe_json`. -/
def safeJson (value : Json) : Transaction Unit := do
  let encoded := value.dumps
  require (String.utf8Len encoded ≤ 32 * 1024)
    (.stripeRequestSnapshot "request snapshot exceeds 32 KiB")
  require (!hasSecretMarker encoded)
    (.stripeRequestSnapshot "request snapshot contains a prohibited secret marker")

/-- Membership in a set raises for a value that cannot be hashed. -/
def oneOf {α : Type} (parse : String → Option α) (value : Json) (message : String) :
    Transaction α := do
  require value.hashable (.typeError value.unhashableType)
  fetch (value.asStr.bind parse) (.stripeRequestSnapshot message)

/-- `value == 1`, which Python also holds of `True` and of `1.0`. -/
def Json.isOne : Json → Bool
  | .int n => n = 1
  | .bool b => b
  | .float mantissa exponent =>
      if 0 ≤ exponent then mantissa = 1 && exponent = 0 else mantissa = 10 ^ exponent.natAbs
  | _ => false

/-! ## Instants -/

/-- The whole number nearest to a quotient, the even one of two. -/
def roundHalfEven (n d : Nat) : Nat :=
  if 2 * (n % d) < d || (2 * (n % d) = d && n / d % 2 = 0) then n / d else n / d + 1

/-- `int(value.timestamp())`: the microseconds are divided to the nearest double, which may be the
    next second from the year 2514 on. -/
def epochSeconds (value : Int) : Int :=
  let micros := value.natAbs
  -- the double keeps 53 bits of the quotient
  let shift := 52 - (micros / 1000000).log2
  let seconds := roundHalfEven (micros * 2 ^ shift) 1000000 / 2 ^ shift
  if 0 ≤ value then seconds else -seconds

-- the last microsecond of 2513 is cut off, one of a year later is rounded up
example : epochSeconds 17166988799999999 = 17166988799 ∧
    epochSeconds 17198524799999999 = 17198524800 := by decide +kernel

theorem roundHalfEven_mul {d : Nat} (hd : 0 < d) (q : Nat) : roundHalfEven (q * d) d = q := by
  simp [roundHalfEven, Nat.mul_mod_left, Nat.mul_div_cancel q hd, hd]

/-- Whole seconds are read back exactly. -/
@[simp] theorem epochSeconds_mul (seconds : Int) : epochSeconds (seconds * 1000000) = seconds := by
  have hexact : ∀ shift, roundHalfEven ((seconds * 1000000).natAbs * 2 ^ shift) 1000000 / 2 ^ shift =
      seconds.natAbs := by
    intro shift
    rw [Int.natAbs_mul, show (1000000 : Int).natAbs = 1000000 from rfl, Nat.mul_right_comm,
      roundHalfEven_mul (by decide), Nat.mul_div_cancel _ (Nat.two_pow_pos shift)]
  unfold epochSeconds
  dsimp only
  rw [hexact]
  split <;> omega

/-- `_epoch`. -/
def snapshotEpoch (value : Int) : Transaction Json := do
  let seconds ← snapshotInteger (.int (epochSeconds value)) "plan-change timestamp"
  pure (.int seconds)

/-! ## Accepted fields -/

-- values of different kinds are told apart
example : (Json.int 1).beq (.str "1") = false := by simp [Json.beq]

@[simp] theorem Json.asStr_str (s : String) : (Json.str s).asStr = some s := rfl

@[simp] theorem Json.text_str (s : String) : (Json.str s).text = s := rfl

@[simp] theorem Json.asInt_int (n : Int) : (Json.int n).asInt = some n := rfl

@[simp] theorem Json.truthy_bool (b : Bool) : (Json.bool b).truthy = b := rfl

@[simp] theorem Json.beq_str {v : Json} {s : String} : v.beq (.str s) = true ↔ v = .str s := by
  cases v <;> simp [Json.beq]

theorem Json.str_beq {v : Json} {s : String} : (Json.str s).beq v = true ↔ v = .str s := by
  cases v <;> simp [Json.beq, eq_comm]

@[simp] theorem Json.beq_int {v : Json} {n : Int} : v.beq (.int n) = true ↔ v = .int n := by
  cases v <;> simp [Json.beq]

@[simp] theorem Json.beq_bool {v : Json} {b : Bool} : v.beq (.bool b) = true ↔ v = .bool b := by
  cases v <;> simp [Json.beq]

@[simp] theorem Json.beq_null {v : Json} : v.beq .null = true ↔ v = .null := by
  cases v <;> simp [Json.beq]

theorem Json.beq_self_of_isOne {v : Json} (h : v.isOne = true) : v.beq v = true := by
  cases v <;> simp_all [Json.isOne, Json.beq]

theorem asStr_eq_some {v : Json} {s : String} : v.asStr = some s ↔ v = .str s := by
  cases v <;> simp [Json.asStr]

theorem asInt_eq_some {v : Json} {n : Int} : v.asInt = some n ↔ v = .int n := by
  cases v <;> simp [Json.asInt]

theorem Json.isNull_eq_true {v : Json} : v.isNull = true ↔ v = .null := by
  cases v <;> simp [Json.isNull]

theorem asBool_isSome {v : Json} : v.asBool.isSome = true ↔ ∃ b, v = .bool b := by
  cases v <;> simp [Json.asBool]

/-- A text that `_text` lets through. -/
structure CleanText (u : Unicode) (maximum : Nat) (text : String) : Prop where
  visible : u.visible maximum text = true
  unmarked : hasSecretMarker text.toList = false

variable {u : Unicode} {v w : Json} {field : String}

instance {maximum : Nat} {text : String} : Decidable (CleanText u maximum text) :=
  decidable_of_iff (u.visible maximum text = true ∧ hasSecretMarker text.toList = false)
    ⟨fun h => ⟨h.1, h.2⟩, fun h => ⟨h.visible, h.unmarked⟩⟩

theorem snapshotText_eq_ok {maximum : Nat} {text : String} :
    u.snapshotText v field maximum = .ok text ↔ v = .str text ∧ CleanText u maximum text := by
  simp only [Unicode.snapshotText, bind_eq_ok, fetch_eq_ok, Option.filter_eq_some_iff,
    require_eq_ok, pure_eq_ok, asStr_eq_some, Bool.not_eq_true']
  constructor
  · rintro ⟨_, ⟨rfl, hvisible⟩, _, hmarked, rfl⟩
    exact ⟨rfl, hvisible, hmarked⟩
  · rintro ⟨rfl, hvisible, hmarked⟩
    exact ⟨text, ⟨rfl, hvisible⟩, (), hmarked, rfl⟩

theorem snapshotStripeId_eq_ok {pre text : String} :
    u.snapshotStripeId v pre field = .ok text ↔
      v = .str text ∧ CleanText u 255 text ∧ pre.toList.isPrefixOf text.toList = true := by
  simp only [Unicode.snapshotStripeId, bind_eq_ok, snapshotText_eq_ok, require_eq_ok, pure_eq_ok]
  constructor
  · rintro ⟨_, ⟨rfl, hclean⟩, _, hpre, rfl⟩
    exact ⟨rfl, hclean, hpre⟩
  · rintro ⟨rfl, hclean, hpre⟩
    exact ⟨text, ⟨rfl, hclean⟩, (), hpre, rfl⟩

theorem snapshotInteger_eq_ok {n : Int} :
    snapshotInteger v field = .ok n ↔ v = .int n ∧ 0 ≤ n ∧ n ≤ 253402300799 := by
  simp only [snapshotInteger, fetch_eq_ok, Option.filter_eq_some_iff, asInt_eq_some,
    Bool.and_eq_true, decide_eq_true_eq]

theorem oneOf_eq_ok {α : Type} {parse : String → Option α} {message : String} {a : α} :
    oneOf parse v message = .ok a ↔ ∃ s, v = .str s ∧ parse s = some a := by
  simp only [oneOf, bind_eq_ok, require_eq_ok, fetch_eq_ok, Option.bind_eq_some_iff, asStr_eq_some]
  constructor
  · rintro ⟨_, -, h⟩
    exact h
  · rintro ⟨s, rfl, hparse⟩
    exact ⟨(), rfl, s, rfl, hparse⟩

theorem snapshotEpoch_eq_ok {value : Int} :
    snapshotEpoch value = .ok v ↔ v = .int (epochSeconds value) ∧ 0 ≤ epochSeconds value ∧
      epochSeconds value ≤ 253402300799 := by
  simp only [snapshotEpoch, bind_eq_ok, snapshotInteger_eq_ok, pure_eq_ok, Json.int.injEq]
  constructor
  · rintro ⟨_, ⟨rfl, hlow, hhigh⟩, rfl⟩
    exact ⟨rfl, hlow, hhigh⟩
  · rintro ⟨rfl, hlow, hhigh⟩
    exact ⟨_, ⟨rfl, hlow, hhigh⟩, rfl⟩

/-! ## Mappings -/

/-- A mapping with these members and no others. -/
structure ExactMapping (v : Json) (keys : List String) : Prop where
  mapping : ∃ members, v = .obj members ∧ members.length = keys.length
  has : ∀ key ∈ keys, v.has key = true

/-- The order of the names does not matter. -/
theorem ExactMapping.perm {keys names : List String} (h : ExactMapping v keys)
    (hperm : keys.Perm names) : ExactMapping v names where
  mapping := by
    obtain ⟨members, rfl, hlength⟩ := h.mapping
    exact ⟨members, rfl, hlength.trans hperm.length_eq⟩
  has key hkey := h.has key (hperm.mem_iff.2 hkey)

theorem exactMapping_eq_ok {keys : List String} :
    exactMapping v keys field = .ok w ↔ w = v ∧ ExactMapping v keys := by
  unfold exactMapping
  split
  case h_1 members =>
    simp only [bind_eq_ok, require_eq_ok, pure_eq_ok, Bool.and_eq_true, decide_eq_true_eq,
      List.all_eq_true]
    constructor
    · rintro ⟨_, ⟨hlength, hhas⟩, rfl⟩
      exact ⟨rfl, ⟨members, rfl, hlength⟩, hhas⟩
    · rintro ⟨rfl, ⟨_, heq, hlength⟩, hhas⟩
      cases heq
      exact ⟨(), ⟨hlength, hhas⟩, rfl⟩
  case h_2 hother =>
    constructor
    · intro h
      cases h
    · rintro ⟨-, ⟨members, heq, -⟩, -⟩
      exact absurd heq (hother members)

theorem lookup_eq_some_of_nodup {members : List (String × Json)}
    (h : (members.map Prod.fst).Nodup) {key : String} {x : Json} (hmem : (key, x) ∈ members) :
    members.lookup key = some x := by
  induction members with
  | nil => cases hmem
  | cons m rest ih =>
    obtain ⟨name, y⟩ := m
    rw [List.map_cons, List.nodup_cons] at h
    rcases List.mem_cons.1 hmem with heq | hrest
    · cases heq
      exact List.lookup_cons_self
    · have hne : key ≠ name := by
        rintro rfl
        exact h.1 (List.mem_map.2 ⟨(key, x), hrest, rfl⟩)
      rw [List.lookup_cons, beq_false_of_ne hne]
      exact ih h.2 hrest

theorem mem_of_lookup_isSome {members : List (String × Json)} {key : String}
    (h : (members.lookup key).isSome = true) : key ∈ members.map Prod.fst := by
  induction members with
  | nil => cases h
  | cons m rest ih =>
    obtain ⟨name, y⟩ := m
    rw [List.lookup_cons] at h
    cases heq : key == name with
    | true => exact List.mem_cons.2 (.inl (eq_of_beq heq))
    | false =>
      rw [heq] at h
      exact List.mem_cons_of_mem _ (ih h)

/-- The members of an exact mapping are its keys, each once. -/
theorem ExactMapping.members {members : List (String × Json)} {keys : List String}
    (h : ExactMapping (.obj members) keys) (hkeys : keys.Nodup) :
    (members.map Prod.fst).Perm keys := by
  obtain ⟨_, heq, hlength⟩ := h.mapping
  cases heq
  have hsubset : keys ⊆ members.map Prod.fst := fun key hkey => mem_of_lookup_isSome (h.has key hkey)
  have hsubperm := List.subperm_of_subset hkeys hsubset
  refine (hsubperm.perm_of_length_le ?_).symm
  rw [List.length_map, hlength]

theorem beqMembers_of_forall {members : List (String × Json)}
    (h : ∀ m ∈ members, w.has m.1 = true ∧ m.2.beq (w.get m.1) = true) :
    Json.beqMembers members w = true := by
  induction members with
  | nil => rfl
  | cons m rest ih =>
    obtain ⟨key, x⟩ := m
    obtain ⟨hhas, hget⟩ := h (key, x) List.mem_cons_self
    rw [Json.beqMembers, hhas, hget, ih fun m hm => h m (List.mem_cons_of_mem _ hm)]
    rfl

/-- **A mapping is the mapping of its members**, in any order. -/
theorem beq_of_exact {keys : List String} {members : List (String × Json)}
    (h : ExactMapping v keys) (hkeys : keys.Nodup) (hmembers : members.map Prod.fst = keys)
    (hget : ∀ key ∈ keys, (v.get key).beq ((Json.obj members).get key) = true) :
    v.beq (.obj members) = true := by
  obtain ⟨rows, rfl, hlength⟩ := h.mapping
  -- The keys are a permutation of the names, and so there are no more and no fewer.
  have hperm := h.members hkeys
  have hnodup : (rows.map Prod.fst).Nodup := hperm.nodup_iff.2 hkeys
  have hsame : rows.length = members.length := by
    rw [hlength, ← hmembers, List.length_map]
  -- Every name of the members is a key of the mapping.
  have hnames : (members.all fun m => (Json.obj rows).has m.1) = true := by
    rw [List.all_eq_true]
    intro m hm
    exact h.has m.1 (hmembers ▸ List.mem_map_of_mem hm)
  rw [Json.beq, hsame, hnames]
  simp only [decide_true, Bool.true_and, Bool.and_true]
  -- The members of the mapping are compared one by one, each under its own name.
  refine beqMembers_of_forall fun m hm => ?_
  obtain ⟨key, x⟩ := m
  have hkey : key ∈ keys := hperm.subset (List.mem_map_of_mem (f := Prod.fst) hm)
  have hx : (Json.obj rows).get key = x := by
    rw [Json.get, lookup_eq_some_of_nodup hnodup hm]
    rfl
  refine ⟨?_, hx ▸ hget key hkey⟩
  -- The names are distinct, so a lookup finds the member itself.
  have hin : key ∈ members.map Prod.fst := hmembers ▸ hkey
  obtain ⟨⟨_, y⟩, hy, rfl⟩ := List.mem_map.1 hin
  rw [Json.has, lookup_eq_some_of_nodup (hmembers ▸ hkeys) hy]
  rfl

/-- A mapping whose members are the ones of a list. -/
theorem beq_obj {members : List (String × Json)} (h : ExactMapping v (members.map Prod.fst))
    (hkeys : (members.map Prod.fst).Nodup) (hget : ∀ m ∈ members, (v.get m.1).beq m.2 = true) :
    v.beq (.obj members) = true := by
  apply beq_of_exact h hkeys rfl
  intro key hkey
  obtain ⟨⟨_, x⟩, hx, rfl⟩ := List.mem_map.1 hkey
  rw [Json.get, lookup_eq_some_of_nodup hkeys hx]
  exact hget _ hx

/-- Equal mappings agree on every member. -/
theorem get_beq_get {members : List (String × Json)} {key : String}
    (h : (Json.obj members).beq w = true) (hhas : (Json.obj members).has key = true) :
    w.has key = true ∧ ((Json.obj members).get key).beq (w.get key) = true := by
  have hmembers : Json.beqMembers members w = true := by
    cases w <;> simp_all [Json.beq]
  clear h
  induction members with
  | nil => cases hhas
  | cons m rest ih =>
    obtain ⟨name, x⟩ := m
    simp only [Json.beqMembers, Bool.and_eq_true] at hmembers
    by_cases hname : key = name
    · have hget : (Json.obj ((name, x) :: rest)).get key = x := by
        rw [Json.get, List.lookup_cons, hname, BEq.rfl]
        rfl
      rw [hget, hname]
      exact hmembers.1
    · have hlookup : ((name, x) :: rest).lookup key = rest.lookup key := by
        rw [List.lookup_cons, beq_false_of_ne hname]
      rw [Json.has, hlookup] at hhas
      rw [Json.get, hlookup]
      exact ih hhas hmembers.2

/-- What equals a mapping has its members and no others. -/
theorem exact_of_beq {members : List (String × Json)} (h : v.beq (.obj members) = true) :
    ExactMapping v (members.map Prod.fst) := by
  cases v with
  | obj rows =>
    simp only [Json.beq, Bool.and_eq_true, decide_eq_true_eq, List.all_eq_true] at h
    obtain ⟨⟨hlength, -⟩, hhas⟩ := h
    refine ⟨⟨rows, rfl, by rw [hlength, List.length_map]⟩, fun key hkey => ?_⟩
    obtain ⟨m, hm, rfl⟩ := List.mem_map.1 hkey
    exact hhas m hm
  | _ => cases h

/-- A copy of a mapping of texts is that mapping. -/
theorem beq_copy {members : List (String × Json)} (hkeys : (members.map Prod.fst).Nodup)
    (htexts : ∀ m ∈ members, ∃ s, m.2 = .str s) (hv : v.beq (.obj members) = true)
    (hcopy : v.beq w = true) : w.beq (.obj members) = true := by
  -- Every member is a text, and the copy reads the same text under each name.
  have hexact := exact_of_beq hv
  obtain ⟨rows, rfl, hlength⟩ := hexact.mapping
  have hcopied : ∀ m ∈ members, w.has m.1 = true ∧ w.get m.1 = m.2 := by
    intro m hm
    obtain ⟨s, hs⟩ := htexts m hm
    have hhas := hexact.has m.1 (List.mem_map_of_mem hm)
    have hget := (get_beq_get hv hhas).2
    have hsame := get_beq_get hcopy hhas
    have hmember : (Json.obj members).get m.1 = m.2 := by
      rw [Json.get, lookup_eq_some_of_nodup hkeys (x := m.2) hm]
      rfl
    rw [hmember, hs, Json.beq_str] at hget
    rw [hget, Json.str_beq] at hsame
    rw [hs]
    exact hsame
  -- Only an object has members, so the copy is one, with as many rows.
  cases w with
  | obj rows' =>
    simp only [Json.beq, Bool.and_eq_true, decide_eq_true_eq] at hcopy
    refine beq_obj ⟨⟨rows', rfl, hcopy.1.1.symm.trans hlength⟩, ?_⟩ hkeys ?_
    · intro key hkey
      obtain ⟨m, hm, rfl⟩ := List.mem_map.1 hkey
      exact (hcopied m hm).1
    · intro m hm
      obtain ⟨s, hs⟩ := htexts m hm
      rw [(hcopied m hm).2, hs, Json.beq_str]
  | _ => cases hcopy

/-! ## Clean texts -/

/-- What Python documents of `str.isprintable` and `str.lower`. -/
structure Unicode.Lawful (u : Unicode) : Prop where
  printable : ∀ c : Char, 32 ≤ c.toNat → c.toNat < 127 → u.isPrintable c = true
  control : ∀ c : Char, c.toNat < 32 → u.isPrintable c = false
  lower : ∀ s : String, (∀ c ∈ s.toList, c.toNat < 128 ∧ c.isUpper = false) → u.lower s = s

theorem CleanText.text_visible (hu : u.Lawful) {maximum : Nat} {text : String}
    (h : CleanText u maximum text) : Json.Visible text := by
  intro c hc
  have hvisible := h.visible
  simp only [Unicode.visible, Bool.and_eq_true, List.all_eq_true] at hvisible
  by_contra hcontrol
  have hfalse := hu.control c (by omega)
  rw [hvisible.1.1.2 c hc] at hfalse
  cases hfalse

theorem CleanText.size_le {maximum : Nat} {text : String} (h : CleanText u maximum text) :
    text.utf8ByteSize ≤ maximum := by
  have hvisible := h.visible
  simp only [Unicode.visible, Bool.and_eq_true, decide_eq_true_eq] at hvisible
  exact hvisible.1.1.1.2

/-- A string that neither lengthens the text beyond its weight nor hides a secret. -/
structure CleanString (s : String) : Prop where
  visible : Json.Visible s
  unmarked : hasSecretMarker s.toList = false

theorem CleanText.cleanString (hu : u.Lawful) {maximum : Nat} {text : String}
    (h : CleanText u maximum text) : CleanString text := ⟨h.text_visible hu, h.unmarked⟩

/-- **Clean strings** make a clean text. -/
theorem safeJson_of_clean (hv : ∀ s ∈ v.strings, CleanString s)
    (hweight : v.weight ≤ 32 * 1024) : safeJson v = .ok () := by
  have hsize : String.utf8Len v.dumps ≤ 32 * 1024 :=
    (Json.utf8Len_dumps_le fun s hs => (hv s hs).visible).trans hweight
  have hclean : hasSecretMarker v.dumps = false := by
    by_contra hmarked
    rw [Bool.not_eq_false, hasSecretMarker_eq_true] at hmarked
    obtain ⟨m, hm, hfound⟩ := hmarked
    obtain ⟨s, hs, hin⟩ := Json.marker_dumps (secretMarkers_marker hm)
      (fun s hs => (hv s hs).visible) hfound
    have hfalse := (hv s hs).unmarked
    rw [hasSecretMarker_eq_true.2 ⟨m, hm, hin⟩] at hfalse
    cases hfalse
  simp only [safeJson, require, hsize, hclean, decide_true, if_true, Bool.not_false]
  rfl

end StripeEntitlements
