import StripeEntitlements.Credits.Decimal
import StripeEntitlements.Credits.SubscriptionFunding
import StripeEntitlements.Parity.Language

/-!
# Credit Amounts in Two Runtimes

`credit_amount.py` and `credit-amount.ts` read the decimal spelling of a credit amount into
atoms and write it back. Python matches the whole text and refuses to read more than 4300
digits as one integer; TypeScript searches for the anchored pattern and reads integers of
any length. A literal that long is beyond the bigint limit, so the amounts are the same.

## Main results

- `creditAtoms_eq_ok` — the spellings that are accepted, and their atoms
- `creditDecimal_eq` — the spelling that is written is the canonical one
- `credit_codec` — the two directions, checked addition, and the two runtimes
-/

namespace StripeEntitlements

open Text

/-- `CREDIT_SCALE`. -/
def creditScale : Nat := 1000000

/-- `MAX_WHOLE_CREDITS`. -/
def maxWholeCredits : Nat := maxCreditAtoms / creditScale

/-! ## The pattern -/

/-- `_PLAIN_DECIMAL` up to the first group: `0|[1-9][0-9]*`. -/
def wholePattern : Pattern :=
  .alt (.lit "0") (.seq (.one fun c => c.isDigit && c ≠ '0') (.many Char.isDigit 0 none))

/-- `_PLAIN_DECIMAL` after the first group: `(?:\.([0-9]{1,6}))?`. -/
def fractionPattern : Pattern := .opt (.seq (.lit ".") (.many Char.isDigit 1 (some 6)))

/-- The second group of `_PLAIN_DECIMAL`, empty where it did not take part. -/
def fractionGroup (matched : List Char) : List Char := matched.drop 1

/-! ## Python -/

/-- `int` of decimal digits. The interpreter converts at most 4300 of them. -/
def pythonInt (digits : List Char) : Transaction Nat :=
  if 4300 < digits.length then
    .error (.valueError s!"Exceeds the limit (4300 digits) for integer string conversion: value has {digits.length} digits; use sys.set_int_max_str_digits() to increase the limit")
  else
    .ok (numeral digits)

/-- `credit_atoms` of a `str`. -/
def creditAtoms (field : String) (allowZero : Bool) (value : String) : Transaction Nat := do
  match Pattern.groups wholePattern fractionPattern value with
  | none => .error (.valueError s!"{field} must be a non-negative plain decimal with at most 6 fractional digits")
  | some (wholeText, matched) => do
    let fractionalText := fractionGroup matched
    let whole ← pythonInt wholeText
    require (whole ≤ maxWholeCredits)
      (.valueError s!"{field} exceeds the PostgreSQL bigint atom range")
    let fractional ← pythonInt (fractionalText ++ List.replicate (6 - fractionalText.length) '0')
    let atoms := whole * creditScale + fractional
    require (atoms ≤ maxCreditAtoms)
      (.valueError s!"{field} exceeds the PostgreSQL bigint atom range")
    require (allowZero || atoms ≠ 0) (.valueError s!"{field} must be greater than zero")
    pure atoms

/-! ## TypeScript -/

namespace TypeScript

/-- `creditAtoms` of a string. -/
def creditAtoms (field : String) (allowZero : Bool) (value : String) : Transaction Nat := do
  match Pattern.exec wholePattern fractionPattern value with
  | none => .error (.valueError s!"{field} must be a non-negative plain decimal with at most 6 fractional digits")
  | some (wholeText, matched) => do
    let whole := numeral wholeText
    require (whole ≤ maxWholeCredits)
      (.valueError s!"{field} exceeds the PostgreSQL bigint atom range")
    let fractionalText := fractionGroup matched
    let fractionalText := fractionalText ++ List.replicate (6 - fractionalText.length) '0'
    let atoms := whole * creditScale + numeral fractionalText
    require (atoms ≤ maxCreditAtoms)
      (.valueError s!"{field} exceeds the PostgreSQL bigint atom range")
    require (allowZero || atoms ≠ 0) (.valueError s!"{field} must be greater than zero")
    pure atoms

/-- `creditDecimal`. Atoms are natural numbers here, so its check for a negative amount has no
    counterpart. -/
def creditDecimal (atoms : Nat) : String :=
  let whole := atoms / creditScale
  let fractional := atoms % creditScale
  if fractional = 0 then
    toString whole
  else
    let digits := (toString fractional).toList
    let padded := List.replicate (6 - digits.length) '0' ++ digits
    toString whole ++ "." ++ String.ofList (padded.rdropWhile (· = '0'))

/-- `checkedAddAtoms`. The operands are natural numbers: what the source asks besides, that they
    are not negative, holds of them. -/
def checkedAddAtoms (field : String) (left right : Nat) : Transaction Nat :=
  if maxCreditAtoms < left || maxCreditAtoms < right then
    .error (.valueError s!"{field} operands must be non-negative PostgreSQL bigint values")
  else if maxCreditAtoms - right < left then
    .error (.valueError s!"{field} exceeds the PostgreSQL bigint atom range")
  else
    .ok (left + right)

end TypeScript

/-! ## The grammar -/

/-- A credit amount as it is written. -/
abbrev CreditLiteral := Decimal 6

/-- The text spells a literal of the rational. -/
def Denotes (text : String) (amount : ℚ) : Prop :=
  ∃ d : CreditLiteral, d.text = text.toList ∧ d.value = amount

theorem lit_language (c : Char) (s : String) (h : s.toList = [c]) :
    (Pattern.lit s).language = { word | word = [c] } := by
  ext word
  rw [Pattern.lit, h]
  change word ∈ (Pattern.one (· = c)).language * 1 ↔ word = [c]
  rw [mul_one]
  constructor
  · rintro ⟨d, rfl, hd⟩
    simpa using hd
  · rintro rfl
    exact ⟨c, rfl, by simp⟩

theorem mem_wholePattern {xs : List Char} :
    xs ∈ wholePattern.language ↔ Digits xs ∧ Leading xs := by
  rw [wholePattern, Pattern.language, Language.mem_add, lit_language '0' "0" rfl]
  change xs = ['0'] ∨ xs ∈ (Pattern.one fun c => c.isDigit && c ≠ '0').language *
    (Pattern.many Char.isDigit 0 none).language ↔ _
  rw [Language.mem_mul]
  constructor
  · rintro (rfl | ⟨_, ⟨c, rfl, hc⟩, rest, ⟨hrest, -, -⟩, rfl⟩)
    · exact ⟨by simp [Digits], .inl rfl⟩
    · simp only [Bool.and_eq_true, decide_eq_true_eq] at hc
      refine ⟨?_, .inr ⟨c, rest, rfl, hc.2⟩⟩
      intro d hd
      rcases List.mem_cons.1 hd with rfl | hd
      · exact hc.1
      · exact hrest d hd
  · rintro ⟨hdigits, rfl | ⟨c, rest, rfl, hc⟩⟩
    · exact .inl rfl
    · refine .inr ⟨[c], ⟨c, rfl, ?_⟩, rest, ⟨hdigits.tail, Nat.zero_le _, nofun⟩, rfl⟩
      simp [hdigits.head, hc]

theorem mem_fractionPattern {xs : List Char} :
    xs ∈ fractionPattern.language ↔
      ∃ digits, xs = Decimal.pointed digits ∧ Digits digits ∧ digits.length ≤ 6 := by
  rw [fractionPattern, Pattern.opt, Pattern.language, Language.mem_add]
  change xs ∈ (Pattern.lit ".").language * (Pattern.many Char.isDigit 1 (some 6)).language ∨
    xs = [] ↔ _
  rw [Language.mem_mul, lit_language '.' "." rfl]
  constructor
  · rintro (⟨_, rfl, digits, ⟨hdigits, hleast, hmost⟩, rfl⟩ | rfl)
    · refine ⟨digits, ?_, hdigits, hmost 6 rfl⟩
      cases digits with
      | nil => simp at hleast
      | cons => rfl
    · exact ⟨[], rfl, by simp [Digits], by simp⟩
  · rintro ⟨digits, rfl, hdigits, hlength⟩
    cases digits with
    | nil => exact .inr rfl
    | cons c rest =>
      refine .inl ⟨['.'], rfl, c :: rest, ⟨hdigits, by simp, ?_⟩, rfl⟩
      intro n hn
      cases hn
      exact hlength

theorem wholePattern_plain : wholePattern.Plain := ⟨⟨trivial, trivial⟩, trivial, trivial⟩

theorem fractionPattern_plain : fractionPattern.Plain := ⟨⟨⟨trivial, trivial⟩, trivial⟩, trivial⟩

/-- **The pattern matches the literals**, and the groups are their parts. -/
theorem groups_eq_some {text : String} {x y : List Char} :
    Pattern.groups wholePattern fractionPattern text = some (x, y) ↔
      ∃ d : CreditLiteral, d.text = text.toList ∧ x = d.whole ∧ y = Decimal.pointed d.fraction := by
  have hsplit : ∀ {a b : List Char}, a ∈ wholePattern.language → b ∈ fractionPattern.language →
      ∃ d : CreditLiteral, a = d.whole ∧ b = Decimal.pointed d.fraction := by
    intro a b ha hb
    obtain ⟨hdigits, hleading⟩ := mem_wholePattern.1 ha
    obtain ⟨fraction, rfl, hfraction, hlength⟩ := mem_fractionPattern.1 hb
    exact ⟨⟨a, fraction, hdigits, hleading, hfraction, hlength⟩, rfl, rfl⟩
  rw [Pattern.groups_eq_some wholePattern_plain fractionPattern_plain]
  · constructor
    · rintro ⟨htext, hx, hy⟩
      obtain ⟨d, rfl, rfl⟩ := hsplit hx hy
      exact ⟨d, htext.symm, rfl, rfl⟩
    · rintro ⟨d, htext, rfl, rfl⟩
      exact ⟨htext.symm, mem_wholePattern.2 ⟨d.whole_digits, d.whole_leading⟩,
        mem_fractionPattern.2 ⟨_, rfl, d.fraction_digits, d.fraction_length⟩⟩
  · -- the whole credits end where the digits of the text do
    intro a ha b hb a' ha' b' hb' heq
    obtain ⟨d, rfl, rfl⟩ := hsplit ha hb
    obtain ⟨e, rfl, rfl⟩ := hsplit ha' hb'
    exact congrArg Decimal.whole (Decimal.text_injective heq)

/-! ## Reading -/

theorem fractionGroup_pointed (digits : List Char) :
    fractionGroup (Decimal.pointed digits) = digits := by
  cases digits <;> rfl

theorem CreditLiteral.atoms_eq (d : CreditLiteral) :
    numeral d.whole * creditScale +
      numeral (d.fraction ++ List.replicate (6 - d.fraction.length) '0') = d.atoms := rfl

/-- A numeral without a leading zero is within the limit only where it is short. -/
theorem length_of_leading {digits : List Char} (h : Digits digits) (hleading : Leading digits)
    (hle : numeral digits ≤ maxWholeCredits) : digits.length ≤ 4300 := by
  have hlt : numeral digits < 10 ^ 13 :=
    lt_of_le_of_lt hle (by norm_num [maxWholeCredits, maxCreditAtoms, postgresBigintMax, creditScale])
  have hlength := (Nat.length_toDigits_le_iff (by decide) (by decide)).2 hlt
  rw [toDigits_numeral h hleading] at hlength
  omega

theorem pythonInt_eq_ok {digits : List Char} {n : Nat} :
    pythonInt digits = .ok n ↔ digits.length ≤ 4300 ∧ n = numeral digits := by
  rw [pythonInt]
  split
  case isTrue h =>
    simp only [reduceCtorEq, false_iff, not_and]
    intro hle
    omega
  case isFalse h =>
    rw [Except.ok.injEq]
    constructor
    · rintro rfl
      exact ⟨by omega, rfl⟩
    · rintro ⟨-, rfl⟩
      rfl

/-- **The accepted spellings** are the literals within the limit. A text is accepted where the
    pattern matches it whole and the atoms that its two groups give stay within the column. -/
theorem creditAtoms_eq_ok {field : String} {allowZero : Bool} {value : String} {atoms : Nat} :
    creditAtoms field allowZero value = .ok atoms ↔
      ∃ d : CreditLiteral, d.text = value.toList ∧ atoms = d.atoms ∧ atoms ≤ maxCreditAtoms ∧
        (allowZero ∨ atoms ≠ 0) := by
  rw [creditAtoms]
  cases hgroups : Pattern.groups wholePattern fractionPattern value with
  | none =>
    simp only [reduceCtorEq, false_iff]
    rintro ⟨d, htext, -⟩
    have hsome := groups_eq_some.2 ⟨d, htext, rfl, rfl⟩
    rw [hgroups] at hsome
    cases hsome
  | some matched =>
    obtain ⟨x, y⟩ := matched
    obtain ⟨d, htext, rfl, rfl⟩ := groups_eq_some.1 hgroups
    have hfraction : (d.fraction ++ List.replicate (6 - d.fraction.length) '0').length ≤ 4300 :=
      d.padded_length.le.trans (by decide)
    simp only [bind_eq_ok, require_eq_ok, pythonInt_eq_ok, fractionGroup_pointed, pure_eq_ok,
      decide_eq_true_eq, Bool.or_eq_true]
    constructor
    · rintro ⟨whole, ⟨-, rfl⟩, -, hwhole, fraction, ⟨-, rfl⟩, -, hle, -, hzero, rfl⟩
      exact ⟨d, htext, d.atoms_eq, hle, hzero⟩
    · rintro ⟨e, he, rfl, hle, hzero⟩
      obtain rfl := Decimal.text_injective (htext.trans he.symm)
      -- the whole credits of a literal within the limit are within theirs
      have hwhole : numeral d.whole ≤ maxWholeCredits := by
        have hscale : numeral d.whole * creditScale ≤ d.atoms := Nat.le_add_right _ _
        exact (Nat.le_div_iff_mul_le (by decide)).2 (hscale.trans hle)
      exact ⟨_, ⟨length_of_leading d.whole_digits d.whole_leading hwhole, rfl⟩, (), hwhole, _,
        ⟨hfraction, rfl⟩, (), hle, (), hzero, d.atoms_eq⟩

/-- **The two runtimes read the same amounts.** -/
theorem TypeScript.creditAtoms_eq_ok {field : String} {allowZero : Bool} {value : String}
    {atoms : Nat} :
    TypeScript.creditAtoms field allowZero value = .ok atoms ↔
      StripeEntitlements.creditAtoms field allowZero value = .ok atoms := by
  rw [StripeEntitlements.creditAtoms, TypeScript.creditAtoms, Pattern.exec_groups]
  cases hgroups : Pattern.groups wholePattern fractionPattern value with
  | none => simp only [reduceCtorEq]
  | some matched =>
    obtain ⟨x, y⟩ := matched
    obtain ⟨d, -, rfl, rfl⟩ := groups_eq_some.1 hgroups
    have hfraction : (d.fraction ++ List.replicate (6 - d.fraction.length) '0').length ≤ 4300 :=
      d.padded_length.le.trans (by decide)
    simp only [bind_eq_ok, require_eq_ok, pythonInt_eq_ok, fractionGroup_pointed, pure_eq_ok,
      decide_eq_true_eq]
    constructor
    · rintro ⟨-, hwhole, -, hle, -, hzero, rfl⟩
      -- what TypeScript finds within the limit is short enough for Python to read
      have hlength := length_of_leading d.whole_digits d.whole_leading hwhole
      exact ⟨_, ⟨hlength, rfl⟩, (), hwhole, _, ⟨hfraction, rfl⟩, (), hle, (), hzero, rfl⟩
    · rintro ⟨whole, ⟨-, rfl⟩, -, hwhole, fraction, ⟨-, rfl⟩, -, hle, -, hzero, rfl⟩
      exact ⟨(), hwhole, (), hle, (), hzero, rfl⟩

/-! ## Writing -/

theorem trimmed_ne_nil {fractional : Nat} (h : fractional ≠ 0) :
    Decimal.trimmed (Decimal.leftPadded 6 fractional) ≠ [] := by
  intro hnil
  obtain ⟨n, hn⟩ := Decimal.trimmed_zeros (Decimal.leftPadded 6 fractional)
  have hvalue := Decimal.numeral_leftPadded 6 fractional
  rw [hn, hnil, numeral_append_zeros, numeral_nil, Nat.zero_mul] at hvalue
  exact h hvalue.symm

/-- **What is written is the canonical literal**: the whole part has no leading zero, and the
    fraction no trailing one. A value without a fraction is written without a point. -/
theorem creditDecimal_eq (atoms : Nat) :
    (creditDecimal atoms).toList = (Decimal.ofAtoms (by decide) atoms : CreditLiteral).text := by
  -- the whole part is the decimal numeral, the fraction is padded to six digits
  have hwhole : (toString (atoms / 1000000)).toList = Nat.toDigits 10 (atoms / 1000000) :=
    Nat.toList_repr
  have hpadded : List.replicate (6 - (toString (atoms % 1000000)).toList.length) '0' ++
      (toString (atoms % 1000000)).toList = Decimal.leftPadded 6 (atoms % 1000000) := by
    have hdigits : (toString (atoms % 1000000)).toList = Nat.toDigits 10 (atoms % 1000000) :=
      Nat.toList_repr
    rw [hdigits, Decimal.leftPadded]
  rw [creditDecimal, Decimal.text, Decimal.ofAtoms]
  dsimp only
  rw [hpadded, show (10 : Nat) ^ 6 = 1000000 from rfl]
  -- no fraction, no point; otherwise the trailing zeros go and some digit remains
  split
  case isTrue hzero =>
    rw [hzero, hwhole]
    have hnone : Decimal.trimmed (Decimal.leftPadded 6 0) = [] := by decide
    rw [hnone, Decimal.pointed, List.append_nil]
  case isFalse hne =>
    have htrimmed : ((Decimal.leftPadded 6 (atoms % 1000000)).reverse.dropWhile (· = '0')).reverse =
        Decimal.trimmed (Decimal.leftPadded 6 (atoms % 1000000)) := rfl
    rw [htrimmed]
    cases h : Decimal.trimmed (Decimal.leftPadded 6 (atoms % 1000000)) with
    | nil => exact absurd h (trimmed_ne_nil hne)
    | cons c rest =>
      change (toString (atoms / 1000000) ++ "." ++ String.ofList (c :: rest)).toList = _
      rw [String.toList_append, String.toList_append, hwhole, @String.toList_ofList (c :: rest),
        List.append_assoc]
      rfl

theorem TypeScript.creditDecimal_agrees (atoms : Nat) :
    TypeScript.creditDecimal atoms = StripeEntitlements.creditDecimal atoms := by
  rw [TypeScript.creditDecimal, StripeEntitlements.creditDecimal, creditScale]
  split <;> rfl

theorem TypeScript.checkedAddAtoms_eq_ok {field : String} {left right sum : Nat} :
    TypeScript.checkedAddAtoms field left right = .ok sum ↔
      StripeEntitlements.checkedAddAtoms field left right = .ok sum := by
  rw [TypeScript.checkedAddAtoms, StripeEntitlements.checkedAddAtoms]
  split
  · simp only [reduceCtorEq]
  · split
    · simp only [reduceCtorEq]
    · exact Iff.rfl

/-! ## The codec -/

/-- Credit amounts as both runtimes read and write them. -/
structure CreditCodec : Prop where
  /-- What is written is read back. -/
  round_trip : ∀ field atoms, atoms ≤ maxCreditAtoms →
    creditAtoms field true (creditDecimal atoms) = .ok atoms
  /-- What was read is written in the one canonical spelling of the same rational. -/
  canonical : ∀ field allowZero text atoms, creditAtoms field allowZero text = .ok atoms →
    ∃ amount, ∃ d : CreditLiteral, Denotes text amount ∧ d.value = amount ∧ d.Canonical ∧
      d.text = (creditDecimal atoms).toList ∧
      ∀ e : CreditLiteral, e.Canonical → e.value = amount → e = d
  /-- Atoms tell rationals apart. -/
  exact : ∀ field allowZero text text' atoms atoms',
    creditAtoms field allowZero text = .ok atoms → creditAtoms field allowZero text' = .ok atoms' →
    ∃ amount amount', Denotes text amount ∧ Denotes text' amount' ∧
      (atoms = atoms' ↔ amount = amount')
  /-- The accepted texts are the literals within the limit. -/
  grammar : ∀ field text, (∃ atoms, creditAtoms field true text = .ok atoms) ↔
    ∃ amount, Denotes text amount ∧ amount ≤ maxCreditAtoms / 10 ^ 6
  /-- Zero is refused where it is not allowed, and nothing else. -/
  positive : ∀ field text atoms, creditAtoms field false text = .ok atoms ↔
    creditAtoms field true text = .ok atoms ∧ 0 < atoms
  /-- Checked addition is exact within the limit and fails beyond it. -/
  addition : ∀ field left right sum, checkedAddAtoms field left right = .ok sum ↔
    sum = left + right ∧ left + right ≤ maxCreditAtoms
  /-- The other runtime reads, writes and adds the same amounts. -/
  reads : ∀ field allowZero text atoms, TypeScript.creditAtoms field allowZero text = .ok atoms ↔
    creditAtoms field allowZero text = .ok atoms
  writes : ∀ atoms, TypeScript.creditDecimal atoms = creditDecimal atoms
  adds : ∀ field left right sum, TypeScript.checkedAddAtoms field left right = .ok sum ↔
    checkedAddAtoms field left right = .ok sum

/-- The limit on atoms is the limit on the rational. -/
theorem CreditLiteral.value_le_iff (d : CreditLiteral) :
    d.value ≤ maxCreditAtoms / 10 ^ 6 ↔ d.atoms ≤ maxCreditAtoms := by
  have hscale : (0 : ℚ) < 10 ^ 6 := by norm_num
  rw [le_div_iff₀ hscale, ← Decimal.atoms_eq, Nat.cast_le]

/-- **Exact fixed-point credits.** Writing and reading are inverse up to the canonical spelling,
    atoms are equal exactly where the rationals are, the accepted texts are the decimal literals
    within the limit, and checked addition never wraps. -/
theorem credit_codec : CreditCodec where
  round_trip field atoms hle := by
    apply creditAtoms_eq_ok.2
    exact ⟨_, (creditDecimal_eq atoms).symm, (Decimal.atoms_ofAtoms _ atoms).symm, hle, .inl rfl⟩
  -- one value has one canonical literal, the one that is written
  canonical field allowZero text atoms h := by
    obtain ⟨d, htext, rfl, -⟩ := creditAtoms_eq_ok.1 h
    refine ⟨d.value, Decimal.ofAtoms (by decide) d.atoms, ⟨d, htext, rfl⟩, ?_,
      Decimal.canonical_ofAtoms _ _, (creditDecimal_eq _).symm, fun e he hvalue => ?_⟩
    · exact Decimal.atoms_eq_iff.1 (Decimal.atoms_ofAtoms _ _)
    · rw [← Decimal.atoms_eq_iff.2 hvalue]
      exact Decimal.eq_ofAtoms _ he
  -- equal atoms and equal values are the same thing, so no digit is lost
  exact field allowZero text text' atoms atoms' h h' := by
    obtain ⟨d, htext, rfl, -⟩ := creditAtoms_eq_ok.1 h
    obtain ⟨e, htext', rfl, -⟩ := creditAtoms_eq_ok.1 h'
    exact ⟨_, _, ⟨d, htext, rfl⟩, ⟨e, htext', rfl⟩, Decimal.atoms_eq_iff⟩
  grammar field text := by
    -- the accepted texts are the literals within the bound
    constructor
    · rintro ⟨atoms, h⟩
      obtain ⟨d, htext, rfl, hle, -⟩ := creditAtoms_eq_ok.1 h
      exact ⟨_, ⟨d, htext, rfl⟩, d.value_le_iff.2 hle⟩
    · rintro ⟨_, ⟨d, htext, rfl⟩, hle⟩
      exact ⟨_, creditAtoms_eq_ok.2 ⟨d, htext, rfl, d.value_le_iff.1 hle, .inl rfl⟩⟩
  positive field text atoms := by
    -- a zero amount is what the positive field refuses
    rw [creditAtoms_eq_ok, creditAtoms_eq_ok]
    constructor
    · rintro ⟨d, htext, rfl, hle, hzero | hne⟩
      · cases hzero
      · exact ⟨⟨d, htext, rfl, hle, .inl rfl⟩, Nat.pos_of_ne_zero hne⟩
    · rintro ⟨⟨d, htext, rfl, hle, -⟩, hpos⟩
      exact ⟨d, htext, rfl, hle, .inr hpos.ne'⟩
  addition _ _ _ _ := checkedAddAtoms_eq_ok
  reads _ _ _ _ := TypeScript.creditAtoms_eq_ok
  writes := TypeScript.creditDecimal_agrees
  adds _ _ _ _ := TypeScript.checkedAddAtoms_eq_ok

example : creditAtoms "credit amount" true "12.340500" = .ok 12340500 := by decide +kernel

end StripeEntitlements
