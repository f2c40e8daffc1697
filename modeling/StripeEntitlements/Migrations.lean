import Mathlib.Data.List.Sort
import StripeEntitlements.Parity.Language
import StripeEntitlements.Statements

/-!
# Migrations

`Database.apply_migrations`: the files of a bundle are numbered from one on, and those that the
database does not hold yet are applied in one transaction. The guard on the history compares
whole filenames, and the order it keeps is the order of the numbers; a history stays one
sequence where the two agree.

## Main results

- `applyPending_eq_ok` — what a call appends
- `numbered_after_iff` — when a call keeps the sequence
- `migrations_append_only` — the history over every run of calls
-/

namespace StripeEntitlements

open Text

/-! ## Bundles -/

/-- What `apply_migrations` raises. -/
inductive MigrationError where
  | fileNotFound (message : String)
  | runtimeError (message : String)
  | unicodeDecodeError
  /-- A migration failed, or its row violated a constraint. -/
  | postgresError
  deriving DecidableEq, Repr

/-- The order of `str`, by code points. -/
def Precedes (a b : String) : Prop := a.toList < b.toList

instance (a b : String) : Decidable (Precedes a b) := inferInstanceAs (Decidable (a.toList < b.toList))

/-- The decimal digits of Unicode, as `\d` and `int` know them. -/
structure DecimalDigits where
  value : Char → Option Nat
  ascii : ∀ c : Char, c.toNat < 128 → value c = if c.isDigit then some (c.toNat - 48) else none

structure BundledFile where
  name : String
  payload : ByteArray

/-- The root of a bundle; without files it is no directory. -/
structure MigrationRoot where
  path : String
  files : Option (List BundledFile)

/-- The group of `_MIGRATION_NAME`: `\d{3}`. -/
def sequencePattern (d : DecimalDigits) : Pattern := .many (fun c => (d.value c).isSome) 3 (some 3)

/-- `_MIGRATION_NAME` after its group: `_[a-z0-9][a-z0-9_]*\.sql`. -/
def suffixPattern : Pattern :=
  let plain (c : Char) : Bool := ('a' ≤ c && c ≤ 'z') || c.isDigit
  .seqs [.lit "_", .one plain, .many (fun c => plain c || c = '_') 0 none, .lit ".sql"]

/-- `int(match.group(1))`, where the name matches. -/
def migrationNumber (d : DecimalDigits) (name : String) : Option Nat :=
  (Pattern.groups (sequencePattern d) suffixPattern name).map fun (digits, _) =>
    digits.foldl (fun n c => 10 * n + (d.value c).getD 0) 0

/-- `_migration_paths`. -/
def migrationPaths (d : DecimalDigits) (root : MigrationRoot) :
    Except MigrationError (List BundledFile) := do
  let files ← fetch root.files
    (.fileNotFound s!"migration directory does not exist: {root.path}")
  let paths := (files.filter fun file => ".sql".toList.isSuffixOf file.name.toList).insertionSort
    fun a b => ¬ Precedes b.name a.name
  require (!paths.isEmpty)
    (.runtimeError s!"migration directory contains no SQL files: {root.path}")
  let sequences ← paths.mapM fun path => fetch (migrationNumber d path.name)
    (.runtimeError s!"invalid migration filename: '{path.name}'")
  require (sequences = List.range' 1 paths.length)
    (.runtimeError <| "migration filenames must form one contiguous append-only sequence " ++
      s!"starting at 001; observed={sequences}")
  pure paths

structure MigrationFile where
  filename : String
  sql : String
  checksum : String
  deriving DecidableEq, Repr

/-- `_load_migrations`. -/
def loadMigrations (d : DecimalDigits) (sha256 : ByteArray → String) (root : MigrationRoot) :
    Except MigrationError (List MigrationFile) := do
  let paths ← migrationPaths d root
  paths.mapM fun path => do
    let sql ← fetch (String.fromUTF8? path.payload) .unicodeDecodeError
    pure { filename := path.name, sql, checksum := sha256 path.payload }

/-! ## The history -/

/-- A row of `schema_migrations`. -/
structure AppliedMigration where
  filename : String
  sha256 : String
  deriving DecidableEq, Repr

/-- `schema_migrations` in the order of the inserts, once it is created, and the rest of the
    schema. -/
structure MigrationDb (σ : Type) where
  table : Option (List AppliedMigration)
  schema : σ

/-- The applied files. -/
def MigrationDb.history {σ : Type} (db : MigrationDb σ) : List AppliedMigration := db.table.getD []

/-- `filename in applied`. -/
def isApplied (applied : List AppliedMigration) (filename : String) : Bool :=
  applied.any (·.filename = filename)

/-- `max(applied, default="")`. -/
def maxApplied (applied : List AppliedMigration) : String :=
  applied.foldr (fun row greatest =>
    if Precedes greatest row.filename then row.filename else greatest) ""

section

variable {σ : Type}

/-- One pending migration: its statements, and then its row. -/
def applyMigration (execute : String → σ → Option σ) (m : MigrationFile)
    (s : List AppliedMigration × σ) : Except MigrationError (List AppliedMigration × σ) := do
  let schema ← fetch (execute m.sql s.2) .postgresError
  require (!isApplied s.1 m.filename && m.checksum.length = 64) .postgresError
  pure (s.1 ++ [{ filename := m.filename, sha256 := m.checksum }], schema)

/-- The loop over the bundle. -/
def applyPending (execute : String → σ → Option σ) (applied : List AppliedMigration) :
    String → List MigrationFile → List AppliedMigration × σ →
      Except MigrationError (List AppliedMigration × σ)
  | _, [], s => .ok s
  | greatest, m :: ms, s =>
      if isApplied applied m.filename then
        applyPending execute applied greatest ms s
      else do
        require (!(greatest ≠ "" && Precedes m.filename greatest)) (.runtimeError
          s!"migration '{m.filename}' was inserted before already applied history")
        let s ← applyMigration execute m s
        applyPending execute applied m.filename ms s

/-- The body of the transaction. -/
def migrate (execute : String → σ → Option σ) (migrations : List MigrationFile)
    (db : MigrationDb σ) : Except MigrationError (MigrationDb σ) := do
  let applied := db.history
  require (!(migrations.any (·.filename = "001_v3_baseline.sql") &&
      isApplied applied "001_schema.sql"))
    (.runtimeError <| "database uses the unsupported pre-0.3 migration lineage " ++
      "(001_schema.sql); create a fresh database for the 0.3 baseline")
  migrations.forM fun m =>
    require (applied.all fun row => row.filename ≠ m.filename || row.sha256 = m.checksum)
      (.runtimeError s!"applied migration checksum changed for '{m.filename}'")
  let (rows, schema) ← applyPending execute applied (maxApplied applied) migrations
    (applied, db.schema)
  pure { table := some rows, schema }

/-- `Database.apply_migrations`: what it raises, and the database after it; a transaction that
    raises is rolled back. -/
def applyMigrations (d : DecimalDigits) (sha256 : ByteArray → String)
    (execute : String → σ → Option σ) (root : MigrationRoot) (db : MigrationDb σ) :
    Except MigrationError Unit × MigrationDb σ :=
  match loadMigrations d sha256 root >>= fun migrations => migrate execute migrations db with
  | .ok db => (.ok (), db)
  | .error e => (.error e, db)

/-- The database after calls with these bundles. -/
def migrateAll (d : DecimalDigits) (sha256 : ByteArray → String)
    (execute : String → σ → Option σ) (db : MigrationDb σ) (roots : List MigrationRoot) :
    MigrationDb σ :=
  roots.foldl (fun db root => (applyMigrations d sha256 execute root db).2) db

end

/-! ## Numbered names -/

/-- The names bear the numbers from one on, in order. -/
def Numbered (d : DecimalDigits) (names : List String) : Prop :=
  ∀ i name, names[i]? = some name → migrationNumber d name = some (i + 1)

namespace Numbered

variable {d : DecimalDigits} {names more : List String} {name : String}

theorem nil : Numbered d [] := by
  intro i name h
  simp at h

/-- A name has a number up to the length. -/
theorem of_mem (h : Numbered d names) (hmem : name ∈ names) :
    ∃ i, names[i]? = some name ∧ i < names.length ∧ migrationNumber d name = some (i + 1) := by
  obtain ⟨i, hi⟩ := List.mem_iff_getElem?.1 hmem
  exact ⟨i, hi, (List.getElem?_eq_some_iff.1 hi).1, h i name hi⟩

/-- Two names of one number are one. -/
theorem inj (h : Numbered d names) {i j : Nat} {a b : String} (ha : names[i]? = some a)
    (hb : names[j]? = some b) (heq : a = b) : i = j := by
  have hi := h i a ha
  have hj := h j b hb
  rw [heq, hj] at hi
  exact (Nat.succ.inj (Option.some.inj hi)).symm

theorem nodup (h : Numbered d names) : names.Nodup := by
  rw [List.nodup_iff_getElem?_ne_getElem?]
  intro i j hij hj heq
  have hj' : names[j]? = some names[j] := List.getElem?_eq_getElem hj
  exact absurd (h.inj (heq.trans hj') hj' rfl) hij.ne

theorem append (h : Numbered d names)
    (hmore : ∀ i name, more[i]? = some name →
      migrationNumber d name = some (names.length + i + 1)) : Numbered d (names ++ more) := by
  intro i name hi
  rcases Nat.lt_or_ge i names.length with hlt | hge
  · rw [List.getElem?_append_left hlt] at hi
    exact h i name hi
  · rw [List.getElem?_append_right hge] at hi
    rw [hmore _ _ hi]
    congr 1
    omega

/-- The first name that a numbered list lacks, and the names after it. -/
structure Lacks (applied before : List String) (name : String) (after : List String) : Prop where
  before : ∀ a ∈ before, a ∈ applied
  name : name ∉ applied

variable {applied before after : List String}

/-- **A numbered list goes on** where the first name it lacks has a greater number than all it
    has. -/
theorem extend (happlied : Numbered d applied) (hnames : Numbered d (before ++ name :: after))
    (hlacks : Lacks applied before name after)
    (hgreater : ∀ a ∈ applied, ∀ k ∈ migrationNumber d a, k < before.length + 1) :
    applied.length = before.length ∧ (∀ a ∈ after, a ∉ applied) ∧
      Numbered d (applied ++ name :: after) := by
  -- the number of the i-th pending name is its place in the full list
  have hindex : ∀ i a, (name :: after)[i]? = some a →
      migrationNumber d a = some (before.length + i + 1) := by
    intro i a hi
    apply hnames
    rw [List.getElem?_append_right (Nat.le_add_right _ _), Nat.add_sub_cancel_left, hi]
  -- both lists are numbered from one, so their lengths are compared through their last names
  have hlength : applied.length = before.length := by
    apply le_antisymm
    · -- the last applied name has the greatest number
      cases hlast : applied.getLast? with
      | none => rw [List.getLast?_eq_none_iff.1 hlast]; exact Nat.zero_le _
      | some a =>
        have hne : applied ≠ [] := by rintro rfl; simp at hlast
        have hpos := List.length_pos_iff.2 hne
        rw [List.getLast?_eq_getElem?] at hlast
        have hnumber := hgreater a (List.mem_of_getElem? hlast) _ (happlied _ _ hlast)
        omega
    -- the last name before `name` is applied, so its number is within the applied ones
    · cases hlast : before.getLast? with
      | none => rw [List.getLast?_eq_none_iff.1 hlast]; exact Nat.zero_le _
      | some a =>
        have hne : before ≠ [] := by rintro rfl; simp at hlast
        have hpos := List.length_pos_iff.2 hne
        have hmem : a ∈ before := List.mem_of_getLast? hlast
        rw [List.getLast?_eq_getElem?] at hlast
        obtain ⟨i, -, hi, hnumber⟩ := happlied.of_mem (hlacks.before a hmem)
        have hnumber' := hnames (before.length - 1) a (by
          rw [List.getElem?_append_left (by omega), hlast])
        rw [hnumber] at hnumber'
        have := Option.some.inj hnumber'
        omega
  refine ⟨hlength, ?_, happlied.append fun i a hi => by rw [hindex i a hi, hlength]⟩
  -- a later name's number is past the applied ones, so it is not among them
  intro a hafter hmem
  obtain ⟨j, hj⟩ := List.mem_iff_getElem?.1 hafter
  obtain ⟨i, -, hi, hnumber⟩ := happlied.of_mem hmem
  rw [hindex (j + 1) a hj] at hnumber
  have := Option.some.inj hnumber
  omega

/-- Otherwise what follows is not numbered. -/
theorem of_extend (happlied : Numbered d applied)
    (hnames : Numbered d (before ++ name :: after)) {more : List String}
    (h : Numbered d (applied ++ name :: more)) :
    ∀ a ∈ applied, ∀ k ∈ migrationNumber d a, k < before.length + 1 := by
  have hnumber : migrationNumber d name = some (before.length + 1) := hnames _ _ (by simp)
  have hnumber' : migrationNumber d name = some (applied.length + 1) := h _ _ (by simp)
  rw [hnumber] at hnumber'
  have hlength := Option.some.inj hnumber'
  intro a ha k hk
  obtain ⟨i, -, hi, hnumber⟩ := happlied.of_mem ha
  obtain rfl := Option.some.inj (hnumber.symm.trans hk)
  omega

end Numbered

/-! ## Loading -/

theorem mapM_eq_ok {ε α β : Type} {f : α → Except ε β} {xs : List α} {ys : List β} :
    xs.mapM f = .ok ys ↔ List.Forall₂ (fun x y => f x = .ok y) xs ys := by
  induction xs generalizing ys with
  | nil =>
    rw [List.mapM_nil, List.forall₂_nil_left_iff]
    exact ⟨fun h => (Except.ok.inj h).symm, fun h => h ▸ rfl⟩
  | cons x xs ih =>
    rw [List.mapM_cons, bind_eq_ok, List.forall₂_cons_left_iff]
    simp only [bind_eq_ok, pure_eq_ok, ih]
    constructor
    · rintro ⟨y, hy, rest, hrest, rfl⟩
      exact ⟨y, rest, hy, hrest, rfl⟩
    · rintro ⟨y, rest, hy, hrest, rfl⟩
      exact ⟨y, hy, rest, hrest, rfl⟩

theorem forall₂_getElem? {α β : Type} {r : α → β → Prop} {xs : List α} {ys : List β}
    (h : List.Forall₂ r xs ys) {i : Nat} {x : α} (hx : xs[i]? = some x) :
    ∃ y, ys[i]? = some y ∧ r x y := by
  induction h generalizing i with
  | nil => simp at hx
  | cons hxy _ ih =>
    cases i with
    | zero =>
      cases hx
      exact ⟨_, rfl, hxy⟩
    | succ i => exact ih hx

section

variable {d : DecimalDigits} {sha256 : ByteArray → String} {root : MigrationRoot}
  {ms : List MigrationFile}

/-- The loop of `_migration_paths` accepts numbered names. -/
theorem migrationPaths_numbered {paths : List BundledFile} (h : migrationPaths d root = .ok paths) :
    Numbered d (paths.map BundledFile.name) := by
  simp only [migrationPaths, bind_eq_ok, pure_eq_ok, require_eq_ok, decide_eq_true_eq,
    mapM_eq_ok, fetch_eq_ok] at h
  obtain ⟨files, -, -, -, sequences, hsequences, -, hrange, rfl⟩ := h
  intro i name hi
  rw [List.getElem?_map, Option.map_eq_some_iff] at hi
  obtain ⟨path, hpath, rfl⟩ := hi
  obtain ⟨n, hn, hnumber⟩ := forall₂_getElem? hsequences hpath
  rw [hrange, List.getElem?_range'] at hn
  · rw [hnumber, ← hn]
    congr 1
    omega
  · exact (List.getElem?_eq_some_iff.1 hpath).1

theorem loadMigrations_numbered (h : loadMigrations d sha256 root = .ok ms) :
    Numbered d (ms.map MigrationFile.filename) := by
  simp only [loadMigrations, bind_eq_ok, mapM_eq_ok, fetch_eq_ok, pure_eq_ok] at h
  obtain ⟨paths, hpaths, hloaded⟩ := h
  have hnumbered := migrationPaths_numbered hpaths
  clear hpaths
  have hnames : ms.map MigrationFile.filename = paths.map BundledFile.name := by
    clear hnumbered
    induction hloaded with
    | nil => rfl
    | cons hfile _ ih =>
      obtain ⟨sql, -, rfl⟩ := hfile
      rw [List.map_cons, List.map_cons, ih]
  rw [hnames]
  exact hnumbered

end

/-! ## One call -/

def MigrationFile.row (m : MigrationFile) : AppliedMigration where
  filename := m.filename
  sha256 := m.checksum

/-- The files of a bundle that are not applied. -/
def pending (applied : List AppliedMigration) (ms : List MigrationFile) : List MigrationFile :=
  ms.filter fun m => !isApplied applied m.filename

theorem isApplied_iff {applied : List AppliedMigration} {filename : String} :
    isApplied applied filename = true ↔ filename ∈ applied.map AppliedMigration.filename := by
  simp [isApplied]

section

variable {σ : Type} {execute : String → σ → Option σ} {ms : List MigrationFile}
  {db db' : MigrationDb σ}

/-- **The loop** appends what is pending, and the first of it is not before the history. Later
    files need no check of their own, since the release is sorted. -/
theorem applyPending_eq_ok {applied : List AppliedMigration} {greatest : String}
    {s s' : List AppliedMigration × σ}
    (h : applyPending execute applied greatest ms s = .ok s') :
    s'.1 = s.1 ++ (pending applied ms).map MigrationFile.row ∧
      ∀ m ∈ (pending applied ms).head?, ¬ Precedes m.filename greatest := by
  -- induction on the files; the greatest name applied so far moves with the loop
  induction ms generalizing greatest s with
  | nil =>
    cases h
    exact ⟨(List.append_nil _).symm, nofun⟩
  | cons m ms ih =>
    rw [applyPending] at h
    by_cases happlied : isApplied applied m.filename = true
    -- an applied file is skipped; its checksum was compared before the loop
    · rw [if_pos happlied] at h
      have hpending : pending applied (m :: ms) = pending applied ms :=
        List.filter_cons_of_neg (by simp [happlied])
      rw [hpending]
      exact ih h
    · rw [if_neg happlied] at h
      have hpending : pending applied (m :: ms) = m :: pending applied ms :=
        List.filter_cons_of_pos (by simp [happlied])
      simp only [bind_eq_ok, require_eq_ok, applyMigration, fetch_eq_ok, pure_eq_ok] at h
      obtain ⟨-, hguard, _, ⟨schema, -, -, -, rfl⟩, hrest⟩ := h
      rw [hpending]
      -- the first pending file is the head itself, and its guard is the second part
      constructor
      · rw [(ih hrest).1, List.map_cons, List.append_assoc]
        rfl
      · intro first hfirst
        cases hfirst
        rw [Bool.not_eq_true', Bool.and_eq_false_iff, decide_eq_false_iff_not,
          decide_eq_false_iff_not, not_not] at hguard
        rcases hguard with rfl | hguard
        · exact List.not_lt_nil _
        · exact hguard

/-- What a call does when it returns. -/
structure Migrated (db : MigrationDb σ) (ms : List MigrationFile) (db' : MigrationDb σ) : Prop where
  history : db'.history = db.history ++ (pending db.history ms).map MigrationFile.row
  guard : ∀ m ∈ (pending db.history ms).head?, ¬ Precedes m.filename (maxApplied db.history)
  checksums : ∀ m ∈ ms, ∀ row ∈ db.history, row.filename = m.filename → row.sha256 = m.checksum

theorem migrate_eq_ok (h : migrate execute ms db = .ok db') : Migrated db ms db' := by
  simp only [migrate, bind_eq_ok, require_eq_ok, pure_eq_ok] at h
  obtain ⟨_, -, _, hchecksums, ⟨rows, schema⟩, hloop, rfl⟩ := h
  obtain ⟨hrows, hguard⟩ := applyPending_eq_ok hloop
  refine ⟨hrows, hguard, fun m hm row hrow hname => ?_⟩
  have hcheck := forM_eq_ok.1 hchecksums m hm
  simp only [require_eq_ok, List.all_eq_true, Bool.or_eq_true, decide_eq_true_eq] at hcheck
  exact (hcheck row hrow).resolve_left (by simp [hname])

/-- The names of a history. -/
def names (history : List AppliedMigration) : List String := history.map AppliedMigration.filename

/-- The first pending file, if the guard on whole filenames lets it pass, has a greater number than
    every applied file. -/
def Appends (d : DecimalDigits) (history : List AppliedMigration) (ms : List MigrationFile) : Prop :=
  ∀ m ∈ (pending history ms).head?, ¬ Precedes m.filename (maxApplied history) →
    ∀ row ∈ history, ∀ k ∈ migrationNumber d row.filename,
      ∀ n ∈ migrationNumber d m.filename, k < n

/-- **A call keeps the sequence** exactly where its first file is numbered behind it. History and
    release are numbered each by itself, so only the seam between them is in question. -/
theorem numbered_after_iff {d : DecimalDigits} (hms : Numbered d (ms.map MigrationFile.filename))
    (hdb : Numbered d (names db.history)) (h : Migrated db ms db') :
    Numbered d (names db'.history) ↔ Appends d db.history ms := by
  have hnames : names db'.history =
      names db.history ++ (pending db.history ms).map MigrationFile.filename := by
    rw [names, h.history, List.map_append, List.map_map]
    rfl
  cases hpending : pending db.history ms with
  | nil =>
    rw [hnames, hpending, List.map_nil, List.append_nil, Appends, hpending]
    exact iff_of_true hdb nofun
  | cons m rest =>
    obtain ⟨before, after, rfl, hbefore, hm, hrest⟩ := List.filter_eq_cons_iff.1 hpending
    have hguard : ¬ Precedes m.filename (maxApplied db.history) := h.guard m (by rw [hpending]; rfl)
    rw [List.map_append, List.map_cons] at hms
    have hlength : (before.map MigrationFile.filename).length = before.length := List.length_map _
    have hlacks : Numbered.Lacks (names db.history) (before.map MigrationFile.filename) m.filename
        (after.map MigrationFile.filename) := by
      constructor
      · intro a ha
        obtain ⟨x, hx, rfl⟩ := List.mem_map.1 ha
        exact isApplied_iff.1 (by simpa using hbefore x hx)
      · intro hmem
        have happlied := isApplied_iff.2 hmem
        simp [happlied] at hm
    have hnumber : migrationNumber d m.filename = some (before.length + 1) :=
      hms _ _ (by simp)
    have hgreater : Appends d db.history (before ++ m :: after) ↔
        ∀ a ∈ names db.history, ∀ k ∈ migrationNumber d a,
          k < (before.map MigrationFile.filename).length + 1 := by
      rw [hlength, Appends, hpending]
      constructor
      · intro happends a ha k hk
        obtain ⟨row, hrow, rfl⟩ := List.mem_map.1 ha
        exact happends m rfl hguard row hrow k hk _ hnumber
      · intro hall x hx _ row hrow k hk n hn
        cases hx
        obtain rfl := Option.some.inj (hnumber.symm.trans hn)
        exact hall _ (List.mem_map.2 ⟨row, hrow, rfl⟩) k hk
    rw [hgreater, hnames, hpending, List.map_cons]
    constructor
    · exact Numbered.of_extend hdb hms
    · intro hall
      obtain ⟨-, hafter, hnumbered⟩ := Numbered.extend hdb hms hlacks hall
      -- nothing after the first pending file is applied
      have hrest' : rest = after := by
        rw [← hrest, List.filter_eq_self]
        intro x hx
        have hx' := hafter _ (List.mem_map.2 ⟨x, hx, rfl⟩)
        rw [Bool.not_eq_true', ← Bool.not_eq_true, isApplied_iff]
        exact hx'
      rw [hrest']
      exact hnumbered

end

/-! ## Runs -/

section

variable {σ : Type} {d : DecimalDigits} {sha256 : ByteArray → String}
  {execute : String → σ → Option σ} {root : MigrationRoot} {roots : List MigrationRoot}
  {db : MigrationDb σ}

/-- A call returns where its bundle loads and the transaction commits. -/
theorem applyMigrations_cases (d : DecimalDigits) (sha256 : ByteArray → String)
    (execute : String → σ → Option σ) (root : MigrationRoot) (db : MigrationDb σ) :
    (∃ ms db', loadMigrations d sha256 root = .ok ms ∧ Migrated db ms db' ∧
      applyMigrations d sha256 execute root db = (.ok (), db')) ∨
    ∃ e, applyMigrations d sha256 execute root db = (.error e, db) := by
  rw [applyMigrations]
  cases hcall : loadMigrations d sha256 root >>= fun migrations => migrate execute migrations db with
  | error e => exact .inr ⟨e, rfl⟩
  | ok db' =>
    obtain ⟨ms, hms, hmigrate⟩ := bind_eq_ok.1 hcall
    exact .inl ⟨ms, db', hms, migrate_eq_ok hmigrate, rfl⟩

/-- Names are not applied twice. -/
theorem Migrated.nodup {ms : List MigrationFile} {db' : MigrationDb σ} (h : Migrated db ms db')
    (hms : (ms.map MigrationFile.filename).Nodup) (hdb : (names db.history).Nodup) :
    (names db'.history).Nodup := by
  rw [names, h.history, List.map_append, List.map_map]
  refine List.Nodup.append hdb ?_ ?_
  · exact hms.sublist (List.filter_sublist.map _)
  · intro a ha hpending
    obtain ⟨m, hm, rfl⟩ := List.mem_map.1 hpending
    have hnot := (List.mem_filter.1 hm).2
    rw [Bool.not_eq_true', ← Bool.not_eq_true, isApplied_iff] at hnot
    exact hnot ha

/-- The files of a bundle are applied with their checksums after it. -/
theorem Migrated.mem {ms : List MigrationFile} {db' : MigrationDb σ} (h : Migrated db ms db')
    {m : MigrationFile} (hm : m ∈ ms) : m.row ∈ db'.history := by
  rw [h.history]
  cases happlied : isApplied db.history m.filename with
  | true =>
    obtain ⟨row, hrow, hname⟩ := List.mem_map.1 (isApplied_iff.1 happlied)
    have hchecksum := h.checksums m hm row hrow hname
    apply List.mem_append_left
    have hsame : row = m.row := by
      rw [MigrationFile.row, ← hname, ← hchecksum]
    exact hsame ▸ hrow
  | false =>
    apply List.mem_append_right
    exact List.mem_map_of_mem (List.mem_filter.2 ⟨hm, by simp [happlied]⟩)

theorem migrateAll_cons (db : MigrationDb σ) (root : MigrationRoot) (roots : List MigrationRoot) :
    migrateAll d sha256 execute db (root :: roots) =
      migrateAll d sha256 execute (applyMigrations d sha256 execute root db).2 roots := rfl

theorem migrateAll_append (before after : List MigrationRoot) :
    migrateAll d sha256 execute db (before ++ after) =
      migrateAll d sha256 execute (migrateAll d sha256 execute db before) after :=
  List.foldl_append

/-- Nothing is taken from a history. -/
theorem history_subset_migrateAll (db : MigrationDb σ) (roots : List MigrationRoot) :
    db.history ⊆ (migrateAll d sha256 execute db roots).history := by
  induction roots generalizing db with
  | nil => exact List.Subset.refl _
  | cons root roots ih =>
    refine List.Subset.trans ?_ (ih (applyMigrations d sha256 execute root db).2)
    rcases applyMigrations_cases d sha256 execute root db with ⟨ms, db', -, hmigrated, hcall⟩ | ⟨e, hcall⟩
    · rw [hcall, hmigrated.history]
      exact List.subset_append_left _ _
    · rw [hcall]
      exact List.Subset.refl _

theorem nodup_migrateAll (hdb : (names db.history).Nodup) (roots : List MigrationRoot) :
    (names (migrateAll d sha256 execute db roots).history).Nodup := by
  induction roots generalizing db with
  | nil => exact hdb
  | cons root roots ih =>
    rw [migrateAll_cons]
    apply ih
    rcases applyMigrations_cases d sha256 execute root db with
      ⟨ms, db', hms, hmigrated, hcall⟩ | ⟨e, hcall⟩
    · rw [hcall]
      exact hmigrated.nodup (loadMigrations_numbered hms).nodup hdb
    · rw [hcall]
      exact hdb

/-- A database before its first migration. -/
def MigrationDb.fresh (schema : σ) : MigrationDb σ := ⟨none, schema⟩

/-- Every call of the run that returns appends to the history it finds. Calls that raise, also
    those whose bundle does not load, are free. -/
def AppendingRun (d : DecimalDigits) (sha256 : ByteArray → String)
    (execute : String → σ → Option σ) (schema : σ) (roots : List MigrationRoot) : Prop :=
  ∀ before root after ms, roots = before ++ root :: after →
    loadMigrations d sha256 root = .ok ms →
    (applyMigrations d sha256 execute root
      (migrateAll d sha256 execute (.fresh schema) before)).1 = .ok () →
    Appends d (migrateAll d sha256 execute (.fresh schema) before).history ms

/-- The history over the calls with some bundles, from a fresh database on. Checksums and calls
    that raise are as they should be in every run, the sequence where the calls append. -/
structure MigrationHistory (d : DecimalDigits) (sha256 : ByteArray → String)
    (execute : String → σ → Option σ) (schema : σ) (roots : List MigrationRoot) : Prop where
  /-- The applied files bear the numbers from one on, in the order they were applied. -/
  numbered : AppendingRun d sha256 execute schema roots →
    Numbered d (names (migrateAll d sha256 execute (.fresh schema) roots).history)
  /-- They do so at every point of the run exactly where its calls append. -/
  sequence : (∀ before after, roots = before ++ after →
      Numbered d (names (migrateAll d sha256 execute (.fresh schema) before).history)) ↔
    AppendingRun d sha256 execute schema roots
  /-- A file that a call accepted is recorded with its checksum, and with no other. -/
  checksums : ∀ before root after ms, roots = before ++ root :: after →
    loadMigrations d sha256 root = .ok ms →
    (applyMigrations d sha256 execute root
      (migrateAll d sha256 execute (.fresh schema) before)).1 = .ok () →
    ∀ m ∈ ms, ∀ row, row ∈ (migrateAll d sha256 execute (.fresh schema) roots).history ∧
      row.filename = m.filename ↔ row = m.row
  /-- A call that raises leaves the database as it was. -/
  raised : ∀ root e, (applyMigrations d sha256 execute root
      (migrateAll d sha256 execute (.fresh schema) roots)).1 = .error e →
    (applyMigrations d sha256 execute root
      (migrateAll d sha256 execute (.fresh schema) roots)).2 =
      migrateAll d sha256 execute (.fresh schema) roots
  /-- The next call that returns keeps the sequence exactly where its bundle appends to it. -/
  next : AppendingRun d sha256 execute schema roots →
    ∀ root ms, loadMigrations d sha256 root = .ok ms →
    (applyMigrations d sha256 execute root
      (migrateAll d sha256 execute (.fresh schema) roots)).1 = .ok () →
    (Numbered d (names (migrateAll d sha256 execute (.fresh schema) (roots ++ [root])).history) ↔
      Appends d (migrateAll d sha256 execute (.fresh schema) roots).history ms)

/-- Whatever a run starts with is a run whose calls append. -/
theorem AppendingRun.of_append {schema : σ} {before after : List MigrationRoot}
    (h : AppendingRun d sha256 execute schema (before ++ after)) :
    AppendingRun d sha256 execute schema before := by
  rintro first root rest ms rfl hms hok
  exact h first root (rest ++ after) ms (by simp) hms hok

/-- A call that returns, after a history in sequence. -/
theorem numbered_next_iff {schema : σ} {ms : List MigrationFile}
    (hbefore : Numbered d (names (migrateAll d sha256 execute (.fresh schema) roots).history))
    (hms : loadMigrations d sha256 root = .ok ms)
    (hok : (applyMigrations d sha256 execute root
      (migrateAll d sha256 execute (.fresh schema) roots)).1 = .ok ()) :
    Numbered d (names (migrateAll d sha256 execute (.fresh schema) (roots ++ [root])).history) ↔
      Appends d (migrateAll d sha256 execute (.fresh schema) roots).history ms := by
  rcases applyMigrations_cases d sha256 execute root
      (migrateAll d sha256 execute (.fresh schema) roots) with
    ⟨ms', db', hms', hmigrated, hcall⟩ | ⟨e, hcall⟩
  · obtain rfl : ms = ms' := Except.ok.inj (hms.symm.trans hms')
    rw [migrateAll_append, migrateAll_cons]
    change Numbered d (names (applyMigrations d sha256 execute root
      (migrateAll d sha256 execute (.fresh schema) roots)).2.history) ↔ _
    rw [hcall]
    exact numbered_after_iff (loadMigrations_numbered hms) hbefore hmigrated
  · rw [hcall] at hok
    cases hok

/-- **A run whose calls append** numbers its history from one on. A call that raises keeps the
    history, and one that returns keeps the sequence. -/
theorem numbered_migrateAll {schema : σ} (h : AppendingRun d sha256 execute schema roots) :
    Numbered d (names (migrateAll d sha256 execute (.fresh schema) roots).history) := by
  -- on the last call of the run, which keeps the sequence or raises
  induction roots using List.reverseRecOn with
  | nil => exact Numbered.nil
  | append_singleton roots root ih =>
    have hnumbered := ih h.of_append
    rcases applyMigrations_cases d sha256 execute root
        (migrateAll d sha256 execute (.fresh schema) roots) with
      ⟨ms, db', hms, -, hcall⟩ | ⟨e, hcall⟩
    · have hok : (applyMigrations d sha256 execute root
          (migrateAll d sha256 execute (.fresh schema) roots)).1 = .ok () := by rw [hcall]
      exact (numbered_next_iff hnumbered hms hok).2 (h roots root [] ms rfl hms hok)
    · rw [migrateAll_append, migrateAll_cons]
      change Numbered d (names (applyMigrations d sha256 execute root
        (migrateAll d sha256 execute (.fresh schema) roots)).2.history)
      rw [hcall]
      exact hnumbered

/-- A file that a call accepted stays recorded with its checksum, whatever is called later. -/
theorem checksums_migrateAll {schema : σ} {before after : List MigrationRoot}
    {ms : List MigrationFile} (hms : loadMigrations d sha256 root = .ok ms)
    (hok : (applyMigrations d sha256 execute root
      (migrateAll d sha256 execute (.fresh schema) before)).1 = .ok ())
    {m : MigrationFile} (hm : m ∈ ms) (row : AppliedMigration) :
    row ∈ (migrateAll d sha256 execute (.fresh schema) (before ++ root :: after)).history ∧
      row.filename = m.filename ↔ row = m.row := by
  rcases applyMigrations_cases d sha256 execute root
      (migrateAll d sha256 execute (.fresh schema) before) with
    ⟨ms', db', hms', hmigrated, hcall⟩ | ⟨e, hcall⟩
  · obtain rfl : ms = ms' := Except.ok.inj (hms.symm.trans hms')
    have hmem : m.row ∈ (migrateAll d sha256 execute (.fresh schema)
        (before ++ root :: after)).history := by
      rw [migrateAll_append, migrateAll_cons]
      refine history_subset_migrateAll _ after ?_
      rw [hcall]
      exact hmigrated.mem hm
    -- no name is applied twice, so that the row of the file is the only one
    have hnodup := @nodup_migrateAll σ d sha256 execute (.fresh schema) List.nodup_nil
      (before ++ root :: after)
    constructor
    · rintro ⟨hrow, hname⟩
      exact List.inj_on_of_nodup_map hnodup hrow hmem hname
    · rintro rfl
      exact ⟨hmem, rfl⟩
  · rw [hcall] at hok
    cases hok

/-- **Applied history is one append-only sequence** over every run whose calls append, and at
    every point of a run only over those. In every run an accepted file stays recorded with its
    checksum, and a call that raises leaves the database as it was. -/
theorem migrations_append_only (d : DecimalDigits) (sha256 : ByteArray → String)
    (execute : String → σ → Option σ) (schema : σ) (roots : List MigrationRoot) :
    MigrationHistory d sha256 execute schema roots where
  numbered := numbered_migrateAll
  sequence := by
    constructor
    · rintro hall before root after ms rfl hms hok
      refine (numbered_next_iff (hall before (root :: after) rfl) hms hok).1 ?_
      exact hall (before ++ [root]) after (by simp)
    · rintro h before after rfl
      exact numbered_migrateAll h.of_append
  checksums := by
    rintro before root after ms rfl hms hok m hm row
    exact checksums_migrateAll hms hok hm row
  raised := by
    intro root e he
    rcases applyMigrations_cases d sha256 execute root
        (migrateAll d sha256 execute (.fresh schema) roots) with
      ⟨ms, db', hms, hmigrated, hcall⟩ | ⟨e', hcall⟩
    · rw [hcall] at he
      cases he
    · rw [hcall]
  next := fun h _ _ hms hok => numbered_next_iff (numbered_migrateAll h) hms hok

theorem AppendingRun.nil {schema : σ} : AppendingRun d sha256 execute schema [] := by
  intro before root after ms h
  simp at h

/-- A run goes on with a call that appends. -/
theorem AppendingRun.concat {schema : σ} {ms : List MigrationFile}
    (h : AppendingRun d sha256 execute schema roots) (hms : loadMigrations d sha256 root = .ok ms)
    (happends : Appends d (migrateAll d sha256 execute (.fresh schema) roots).history ms) :
    AppendingRun d sha256 execute schema (roots ++ [root]) := by
  intro before root' after ms' heq hms' hok
  rcases List.eq_nil_or_concat after with rfl | ⟨after, last, rfl⟩
  · obtain ⟨rfl, rfl⟩ := List.append_inj' heq rfl |>.imp id (List.singleton_inj.1 ·)
    obtain rfl : ms = ms' := Except.ok.inj (hms.symm.trans hms')
    exact happends
  · have hsplit : before ++ root' :: (after ++ [last]) = (before ++ root' :: after) ++ [last] := by
      simp
    rw [List.concat_eq_append, hsplit] at heq
    exact h before root' after ms' (List.append_inj' heq rfl).1 hms' hok

end

/-! ## Two releases that diverged -/

def asciiDigits : DecimalDigits where
  value c := if c.isDigit then some (c.toNat - 48) else none
  ascii _ _ := rfl

/-- A digest for tests. -/
def zeroDigest (_ : ByteArray) : String := String.ofList (List.replicate 64 '0')

/-- A bundle of empty files. -/
def emptyBundle (names : List String) : MigrationRoot where
  path := "migrations"
  files := some (names.map fun name => ⟨name, ByteArray.empty⟩)

/-- The schema is left as it is. -/
def noStatements (_ : String) (schema : Unit) : Option Unit := some schema

/-- A newer release adds its second file, behind the first one. -/
theorem migrations_append_only_upgrade :
    MigrationHistory asciiDigits zeroDigest noStatements ()
        [emptyBundle ["001_a.sql"], emptyBundle ["001_a.sql", "002_b.sql"]] ∧
      Numbered asciiDigits (names (migrateAll asciiDigits zeroDigest noStatements (.fresh ())
        [emptyBundle ["001_a.sql"], emptyBundle ["001_a.sql", "002_b.sql"]]).history) := by
  have hfirst : loadMigrations asciiDigits zeroDigest (emptyBundle ["001_a.sql"]) =
      .ok [⟨"001_a.sql", "", zeroDigest .empty⟩] := by decide +kernel
  have hsecond : loadMigrations asciiDigits zeroDigest (emptyBundle ["001_a.sql", "002_b.sql"]) =
      .ok [⟨"001_a.sql", "", zeroDigest .empty⟩, ⟨"002_b.sql", "", zeroDigest .empty⟩] := by
    decide +kernel
  have hlaws := migrations_append_only asciiDigits zeroDigest noStatements ()
    [emptyBundle ["001_a.sql"], emptyBundle ["001_a.sql", "002_b.sql"]]
  refine ⟨hlaws, hlaws.numbered ((AppendingRun.nil.concat hfirst ?_).concat hsecond ?_)⟩
  · unfold Appends
    decide +kernel
  · unfold Appends
    decide +kernel

/-- A release with another second file applies it after the second file that is there. -/
theorem diverged_history :
    names (migrateAll asciiDigits zeroDigest noStatements (.fresh ())
        [emptyBundle ["001_a.sql", "002_b.sql"], emptyBundle ["001_a.sql", "002_c.sql"]]).history =
      ["001_a.sql", "002_b.sql", "002_c.sql"] ∧
    migrationNumber asciiDigits "002_b.sql" = some 2 ∧
    migrationNumber asciiDigits "002_c.sql" = some 2 := by
  decide +kernel

end StripeEntitlements
