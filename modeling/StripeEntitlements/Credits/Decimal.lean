import Mathlib.Data.List.DropRight
import Mathlib.Data.Rat.Defs
import Mathlib.Algebra.Order.Field.Rat
import Mathlib.Tactic.FieldSimp
import Mathlib.Tactic.NormNum

/-!
# Decimal Literals

Plain decimals with a bounded number of fraction digits. A literal denotes a rational and
counts atoms, the units of its last possible place. Each number of atoms has one canonical
literal, the one without zeros at its end.

## Main results

- `toDigits_numeral` — a numeral without a leading zero is the one of its value
- `Decimal.atoms_eq` — the atoms of a literal are its value at the scale
- `Decimal.eq_ofAtoms` — a canonical literal is the one of its atoms
-/

namespace StripeEntitlements.Text

/-! ## Numerals -/

/-- The value of decimal digits. -/
def numeral (digits : List Char) : Nat := Nat.ofDigitChars 10 digits 0

/-- The value of one digit. -/
def digitValue (c : Char) : Nat := c.toNat - 48

variable {c : Char} {xs ys : List Char}

@[simp] theorem numeral_nil : numeral [] = 0 := rfl

theorem numeral_append (xs ys : List Char) :
    numeral (xs ++ ys) = 10 ^ ys.length * numeral xs + numeral ys := by
  rw [numeral, Nat.ofDigitChars_append, Nat.ofDigitChars_eq_ofDigitChars_zero]
  rfl

theorem numeral_singleton (c : Char) : numeral [c] = digitValue c := by
  rw [numeral, Nat.ofDigitChars_cons, Nat.ofDigitChars_nil, Nat.mul_zero, Nat.zero_add]
  rfl

theorem numeral_cons (c : Char) (xs : List Char) :
    numeral (c :: xs) = 10 ^ xs.length * digitValue c + numeral xs := by
  rw [← numeral_singleton]
  exact numeral_append [c] xs

theorem numeral_concat (xs : List Char) (c : Char) :
    numeral (xs ++ [c]) = 10 * numeral xs + digitValue c := by
  rw [numeral_append, numeral_singleton]
  rfl

theorem numeral_zeros_append (n : Nat) (xs : List Char) :
    numeral (List.replicate n '0' ++ xs) = numeral xs := by
  rw [numeral_append, numeral, Nat.ofDigitChars_replicate_zero]
  simp

theorem numeral_append_zeros (xs : List Char) (n : Nat) :
    numeral (xs ++ List.replicate n '0') = numeral xs * 10 ^ n := by
  rw [numeral_append, List.length_replicate]
  have hzeros : numeral (List.replicate n '0') = 0 := by
    simp [numeral, Nat.ofDigitChars_replicate_zero]
  rw [hzeros, Nat.add_zero, Nat.mul_comm]

@[simp] theorem numeral_toDigits (n : Nat) : numeral (Nat.toDigits 10 n) = n :=
  Nat.ofDigitChars_ten_toDigits

theorem digitValue_lt (hc : c.isDigit) : digitValue c < 10 := by
  have h := (Char.isDigit_iff_toNat.1 hc).2
  have hnine : '9'.toNat = 57 := rfl
  rw [digitValue]
  omega

theorem digitChar_digitValue (hc : c.isDigit) : (digitValue c).digitChar = c := by
  rw [← Char.toNat_inj, Nat.toNat_digitChar_of_lt_ten (digitValue_lt hc), digitValue]
  have h := (Char.isDigit_iff_toNat.1 hc).1
  have hzero : '0'.toNat = 48 := rfl
  omega

/-- Every character is a decimal digit. -/
def Digits (xs : List Char) : Prop := ∀ c ∈ xs, c.isDigit

theorem Digits.head (h : Digits (c :: xs)) : c.isDigit := h c List.mem_cons_self

theorem Digits.tail (h : Digits (c :: xs)) : Digits xs := fun d hd => h d (List.mem_cons_of_mem _ hd)

theorem Digits.append (h : Digits xs) (h' : Digits ys) : Digits (xs ++ ys) := by
  intro c hc
  rcases List.mem_append.1 hc with hc | hc
  · exact h c hc
  · exact h' c hc

theorem Digits.zeros (n : Nat) : Digits (List.replicate n '0') := by
  intro c hc
  rw [List.eq_of_mem_replicate hc]
  rfl

theorem Digits.toDigits (n : Nat) : Digits (Nat.toDigits 10 n) :=
  fun _ hc => Nat.isDigit_of_mem_toDigits (by decide) (by decide) hc

theorem numeral_lt (h : Digits xs) : numeral xs < 10 ^ xs.length := by
  induction xs with
  | nil => simp
  | cons c xs ih =>
    have hc := digitValue_lt h.head
    have hxs := ih h.tail
    rw [numeral_cons, List.length_cons, Nat.pow_succ]
    calc 10 ^ xs.length * digitValue c + numeral xs
        < 10 ^ xs.length * digitValue c + 10 ^ xs.length := Nat.add_lt_add_left hxs _
      _ = 10 ^ xs.length * (digitValue c + 1) := by rw [Nat.mul_add, Nat.mul_one]
      _ ≤ 10 ^ xs.length * 10 := Nat.mul_le_mul_left _ hc

/-- Numerals of one length are told apart by their value. -/
theorem numeral_inj (hx : Digits xs) (hy : Digits ys) (hlength : xs.length = ys.length)
    (heq : numeral xs = numeral ys) : xs = ys := by
  induction xs generalizing ys with
  | nil => exact (List.length_eq_zero_iff.1 hlength.symm).symm
  | cons c xs ih =>
    cases ys with
    | nil => cases hlength
    | cons d ys =>
      have hlength' : xs.length = ys.length := by simpa using hlength
      rw [numeral_cons, numeral_cons, ← hlength'] at heq
      have hxs := numeral_lt hx.tail
      have hys := numeral_lt hy.tail
      rw [← hlength'] at hys
      have hdigit : digitValue c = digitValue d := by
        have h := congrArg (· / 10 ^ xs.length) heq
        simpa [Nat.mul_add_div, Nat.div_eq_of_lt hxs, Nat.div_eq_of_lt hys] using h
      have hchar : c = d := by
        rw [← digitChar_digitValue hx.head, hdigit, digitChar_digitValue hy.head]
      rw [hdigit] at heq
      rw [hchar, ih hx.tail hy.tail hlength' (Nat.add_left_cancel heq)]

/-- A numeral without a leading zero. -/
def Leading (xs : List Char) : Prop := xs = ['0'] ∨ ∃ c rest, xs = c :: rest ∧ c ≠ '0'

/-- **A numeral without a leading zero** is the one of its value. -/
theorem toDigits_numeral (h : Digits xs) (hleading : Leading xs) :
    Nat.toDigits 10 (numeral xs) = xs := by
  induction xs using List.reverseRecOn with
  | nil =>
    rcases hleading with h | ⟨c, rest, h, -⟩ <;> cases h
  | append_singleton xs c ih =>
    have hc : c.isDigit := h c (List.mem_append_right _ (List.mem_singleton_self c))
    have hxs : Digits xs := fun d hd => h d (List.mem_append_left _ hd)
    have hlast : Nat.toDigits 10 (digitValue c) = [c] := by
      rw [Nat.toDigits_of_lt_base (digitValue_lt hc), digitChar_digitValue hc]
    rw [numeral_concat]
    cases xs with
    | nil => simpa using hlast
    | cons d rest =>
      -- more than one digit: the first is not zero, so the value before the last is positive
      have hd : d ≠ '0' := by
        rcases hleading with hzero | ⟨d', rest', heq, hd⟩
        · simp at hzero
        · rw [List.cons_append, List.cons.injEq] at heq
          rwa [heq.1]
      have hdigits := ih hxs (.inr ⟨d, rest, rfl, hd⟩)
      have hpos : 0 < numeral (d :: rest) := by
        apply Nat.pos_of_ne_zero
        intro hzero
        rw [hzero, Nat.toDigits_zero, List.cons.injEq] at hdigits
        exact hd hdigits.1.symm
      rw [← Nat.toDigits_append_toDigits (by decide) hpos (digitValue_lt hc), hdigits, hlast]

theorem leading_toDigits (n : Nat) : Leading (Nat.toDigits 10 n) := by
  induction n using Nat.strong_induction_on with
  | _ n ih =>
    rcases Nat.lt_or_ge n 10 with hn | hn
    · rw [Nat.toDigits_of_lt_base hn]
      by_cases hzero : n = 0
      · exact .inl (by rw [hzero]; rfl)
      · exact .inr ⟨_, [], rfl, by simpa using hzero⟩
    · rw [Nat.toDigits_of_base_le (by decide) hn]
      rcases ih (n / 10) (by omega) with h | ⟨c, rest, h, hc⟩
      · have hvalue := numeral_toDigits (n / 10)
        rw [h] at hvalue
        have : numeral ['0'] = 0 := rfl
        omega
      · exact .inr ⟨c, _, by rw [h]; rfl, hc⟩

/-! ## Literals -/

/-- A plain decimal with at most `places` fraction digits. -/
@[ext]
structure Decimal (places : Nat) where
  whole : List Char
  fraction : List Char
  whole_digits : Digits whole
  whole_leading : Leading whole
  fraction_digits : Digits fraction
  fraction_length : fraction.length ≤ places

namespace Decimal

variable {places : Nat} {d e : Decimal places}

/-- The fraction as it is written: a point and the digits, or nothing. -/
def pointed : List Char → List Char
  | [] => []
  | digits => '.' :: digits

/-- The text of a literal. -/
def text (d : Decimal places) : List Char := d.whole ++ pointed d.fraction

/-- The rational a literal denotes. -/
def value (d : Decimal places) : ℚ :=
  numeral d.whole + numeral d.fraction / 10 ^ d.fraction.length

/-- The fraction with zeros up to the last place. -/
def padded (d : Decimal places) : List Char :=
  d.fraction ++ List.replicate (places - d.fraction.length) '0'

/-- The literal in units of the last place. -/
def atoms (d : Decimal places) : Nat := numeral d.whole * 10 ^ places + numeral d.padded

/-- The fraction does not end in a zero. -/
def Canonical (d : Decimal places) : Prop := d.fraction.getLast? ≠ some '0'

theorem padded_length (d : Decimal places) : d.padded.length = places := by
  have h := d.fraction_length
  rw [padded, List.length_append, List.length_replicate]
  omega

theorem padded_digits (d : Decimal places) : Digits d.padded := d.fraction_digits.append (.zeros _)

theorem padded_lt (d : Decimal places) : numeral d.padded < 10 ^ places := by
  have h := numeral_lt d.padded_digits
  rwa [d.padded_length] at h

/-- **The atoms of a literal** are its value at the scale of the last place. -/
theorem atoms_eq (d : Decimal places) : (d.atoms : ℚ) = d.value * 10 ^ places := by
  have hplaces : (10 : ℚ) ^ places = 10 ^ d.fraction.length * 10 ^ (places - d.fraction.length) := by
    rw [← pow_add, Nat.add_sub_cancel' d.fraction_length]
  rw [atoms, value, padded, numeral_append_zeros]
  push_cast
  rw [hplaces]
  field_simp

theorem atoms_eq_iff : d.atoms = e.atoms ↔ d.value = e.value := by
  have hscale : (10 : ℚ) ^ places ≠ 0 := pow_ne_zero _ (by norm_num)
  rw [← Nat.cast_inj (R := ℚ), atoms_eq, atoms_eq]
  constructor
  · exact mul_right_cancel₀ hscale
  · intro h
    rw [h]

/-- The literal without zeros at its end. -/
theorem rdropWhile_padded (h : d.Canonical) : d.padded.rdropWhile (· = '0') = d.fraction := by
  have htrim : ∀ n, (d.fraction ++ List.replicate n '0').rdropWhile (· = '0') =
      d.fraction.rdropWhile (· = '0') := by
    intro n
    induction n with
    | zero => rw [List.replicate_zero, List.append_nil]
    | succ n ih =>
      rw [List.replicate_succ', ← List.append_assoc, List.rdropWhile_concat_pos _ _ _ (by simp), ih]
  rw [padded, htrim, List.rdropWhile_eq_self_iff]
  intro hne hlast
  apply h
  rw [List.getLast?_eq_some_getLast hne]
  exact congrArg some (by simpa using hlast)

/-- Two canonical literals with the same atoms are one. -/
theorem Canonical.eq (hd : d.Canonical) (he : e.Canonical) (h : d.atoms = e.atoms) : d = e := by
  have hscale : 0 < 10 ^ places := Nat.pow_pos (by decide)
  rw [atoms, atoms] at h
  have hwhole : numeral d.whole = numeral e.whole := by
    have hdiv : ∀ d : Decimal places,
        (numeral d.whole * 10 ^ places + numeral d.padded) / 10 ^ places = numeral d.whole := by
      intro d
      rw [Nat.add_comm, Nat.add_mul_div_right _ _ hscale, Nat.div_eq_of_lt d.padded_lt,
        Nat.zero_add]
    rw [← hdiv d, h, hdiv]
  rw [hwhole] at h
  have hpadded : d.padded = e.padded :=
    numeral_inj d.padded_digits e.padded_digits (d.padded_length.trans e.padded_length.symm)
      (Nat.add_left_cancel h)
  apply Decimal.ext
  · rw [← toDigits_numeral d.whole_digits d.whole_leading, hwhole,
      toDigits_numeral e.whole_digits e.whole_leading]
  · rw [← rdropWhile_padded hd, hpadded, rdropWhile_padded he]

/-! ## The canonical literal -/

/-- A fraction of atoms with zeros before it up to the first place. -/
def leftPadded (places fraction : Nat) : List Char :=
  List.replicate (places - (Nat.toDigits 10 fraction).length) '0' ++ Nat.toDigits 10 fraction

theorem leftPadded_length {fraction : Nat} (hplaces : 0 < places) (h : fraction < 10 ^ places) :
    (leftPadded places fraction).length = places := by
  have hle := (Nat.length_toDigits_le_iff (by decide) hplaces).2 h
  rw [leftPadded, List.length_append, List.length_replicate]
  omega

theorem leftPadded_digits (places fraction : Nat) : Digits (leftPadded places fraction) :=
  (Digits.zeros _).append (.toDigits _)

theorem numeral_leftPadded (places fraction : Nat) :
    numeral (leftPadded places fraction) = fraction := by
  rw [leftPadded, numeral_zeros_append, numeral_toDigits]

/-- The digits up to the last one that is not zero. -/
def trimmed (digits : List Char) : List Char := digits.rdropWhile (· = '0')

theorem trimmed_zeros (digits : List Char) :
    ∃ n, digits = trimmed digits ++ List.replicate n '0' := by
  refine ⟨(digits.rtakeWhile (· = '0')).length, ?_⟩
  have hzeros : digits.rtakeWhile (· = '0') =
      List.replicate (digits.rtakeWhile (· = '0')).length '0' :=
    List.eq_replicate_iff.2 ⟨rfl, fun c hc => by simpa using List.mem_rtakeWhile_imp hc⟩
  rw [← hzeros]
  exact List.rdropWhile_append_rtakeWhile.symm

/-- The canonical literal of a number of atoms. -/
def ofAtoms (hplaces : 0 < places) (n : Nat) : Decimal places where
  whole := Nat.toDigits 10 (n / 10 ^ places)
  fraction := trimmed (leftPadded places (n % 10 ^ places))
  whole_digits := .toDigits _
  whole_leading := leading_toDigits _
  fraction_digits c hc := leftPadded_digits _ _ c ((List.rdropWhile_prefix _ _).subset hc)
  fraction_length := by
    have hlt : n % 10 ^ places < 10 ^ places := Nat.mod_lt _ (Nat.pow_pos (by decide))
    exact (List.rdropWhile_prefix _ _).length_le.trans (leftPadded_length hplaces hlt).le

theorem ofAtoms_padded (hplaces : 0 < places) (n : Nat) :
    (ofAtoms hplaces n).padded = leftPadded places (n % 10 ^ places) := by
  have hlt : n % 10 ^ places < 10 ^ places := Nat.mod_lt _ (Nat.pow_pos (by decide))
  obtain ⟨k, hk⟩ := trimmed_zeros (leftPadded places (n % 10 ^ places))
  have hlength := leftPadded_length hplaces hlt
  rw [hk, List.length_append, List.length_replicate] at hlength
  rw [padded, ofAtoms]
  dsimp only
  rw [show places - (trimmed (leftPadded places (n % 10 ^ places))).length = k by omega]
  exact hk.symm

theorem atoms_ofAtoms (hplaces : 0 < places) (n : Nat) : (ofAtoms hplaces n).atoms = n := by
  rw [atoms, ofAtoms_padded, numeral_leftPadded, ofAtoms, numeral_toDigits, Nat.mul_comm]
  exact Nat.div_add_mod n (10 ^ places)

theorem canonical_ofAtoms (hplaces : 0 < places) (n : Nat) : (ofAtoms hplaces n).Canonical := by
  intro h
  have hne : (ofAtoms hplaces n).fraction ≠ [] := by
    intro hnil
    rw [hnil] at h
    cases h
  rw [List.getLast?_eq_some_getLast hne, Option.some.injEq] at h
  exact List.rdropWhile_last_not _ _ hne (decide_eq_true h)

/-- **A canonical literal** is the one of its atoms. -/
theorem eq_ofAtoms (hplaces : 0 < places) (h : d.Canonical) : d = ofAtoms hplaces d.atoms :=
  h.eq (canonical_ofAtoms hplaces _) (atoms_ofAtoms hplaces _).symm

/-! ## Texts -/

/-- What is written before the point. -/
theorem takeWhile_text (d : Decimal places) : d.text.takeWhile Char.isDigit = d.whole := by
  rw [text, List.takeWhile_append_of_pos d.whole_digits]
  cases d.fraction <;> simp [pointed, Char.isDigit]

theorem text_injective (h : d.text = e.text) : d = e := by
  have hwhole : d.whole = e.whole := by
    rw [← takeWhile_text d, h, takeWhile_text]
  rw [text, text, hwhole] at h
  have hpointed := List.append_cancel_left h
  apply Decimal.ext hwhole
  cases hd : d.fraction with
  | nil =>
    rw [hd] at hpointed
    cases he : e.fraction with
    | nil => rfl
    | cons c rest =>
      rw [he] at hpointed
      cases hpointed
  | cons c rest =>
    rw [hd] at hpointed
    cases he : e.fraction with
    | nil =>
      rw [he] at hpointed
      cases hpointed
    | cons c' rest' =>
      rw [he] at hpointed
      exact (List.cons.inj hpointed).2

end Decimal

end StripeEntitlements.Text
