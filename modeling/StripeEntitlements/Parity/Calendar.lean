import Mathlib.Data.Prod.Lex
import Mathlib.Order.Monotone.Basic
import Mathlib.Tactic.IntervalCases
import Mathlib.Tactic.Linarith

/-!
# The Gregorian Calendar

Dates and clock readings, counted by the lengths of the years and months before them. A date
holds only a day that its month has.

## Main results

- `Date.number_next` — the next date has the next number
- `Date.number_strictMono` — numbers are ordered as dates are
- `Reading.micros_strictMono` — microseconds are ordered as readings are
-/

namespace StripeEntitlements.Calendar

/-! ## Years and months -/

def Leap (year : Nat) : Prop := year % 4 = 0 ∧ (year % 100 ≠ 0 ∨ year % 400 = 0)

instance : DecidablePred Leap := fun year => by unfold Leap; infer_instance

def yearLength (year : Nat) : Nat := if Leap year then 366 else 365

def monthLength (year : Nat) : Nat → Nat
  | 1 | 3 | 5 | 7 | 8 | 10 | 12 => 31
  | 4 | 6 | 9 | 11 => 30
  | 2 => if Leap year then 29 else 28
  | _ => 0

theorem monthLength_pos (year : Nat) {month : Nat} (hpos : 1 ≤ month) (hle : month ≤ 12) :
    1 ≤ monthLength year month := by
  interval_cases month
  case «2» =>
    rw [monthLength]
    split <;> omega
  all_goals exact Nat.one_le_ofNat

/-- The days of the years before one, from the year 0 on. -/
def daysBeforeYear : Nat → Nat
  | 0 => 0
  | year + 1 => daysBeforeYear year + yearLength year

/-- The days of a year before one of its months. -/
def daysBeforeMonth (year : Nat) : Nat → Nat
  | 0 => 0
  | month + 1 => daysBeforeMonth year month + monthLength year month

/-- The quotient that rounds up passes to the next number after a multiple. -/
theorem roundedUp_succ {n : Nat} (hn : 0 < n) (year : Nat) :
    (year + n) / n = (year + (n - 1)) / n + if year % n = 0 then 1 else 0 := by
  rw [show year + n = year + (n - 1) + 1 by omega, Nat.succ_div]
  have hdvd : n ∣ year + (n - 1) + 1 ↔ year % n = 0 := by
    rw [show year + (n - 1) + 1 = year + n by omega, Nat.dvd_add_self_right, Nat.dvd_iff_mod_eq_zero]
  simp only [hdvd]

/-- A leap year is counted by the quotients of its own number, and by those of the next. -/
theorem leap_quotients (year : Nat) : year / 4 + (year + 99) / 100 + year / 400 + 1 =
    (year + 3) / 4 + year / 100 + (year + 399) / 400 + if Leap year then 1 else 0 := by
  have hfour := roundedUp_succ (by decide : 0 < 4) year
  have hcentury := roundedUp_succ (by decide : 0 < 100) year
  have hera := roundedUp_succ (by decide : 0 < 400) year
  rw [Nat.add_div_right year (by decide)] at hfour hcentury hera
  -- an era starts a century, and a century starts a group of four
  have hnested : year % 400 = 0 → year % 100 = 0 := by omega
  have hgroup : year % 100 = 0 → year % 4 = 0 := by omega
  generalize year / 4 = four, year / 100 = century, year / 400 = era, (year + 3) / 4 = four',
    (year + 99) / 100 = century', (year + 399) / 400 = era' at hfour hcentury hera ⊢
  by_cases h400 : year % 400 = 0
  · have h100 := hnested h400
    have hleap : Leap year := ⟨hgroup h100, .inr h400⟩
    rw [if_pos (hgroup h100)] at hfour
    rw [if_pos h100] at hcentury
    rw [if_pos h400] at hera
    rw [if_pos hleap]
    linarith
  rw [if_neg h400] at hera
  by_cases h100 : year % 100 = 0
  · have hcommon : ¬Leap year := fun h => h.2.elim (· h100) h400
    rw [if_pos (hgroup h100)] at hfour
    rw [if_pos h100] at hcentury
    rw [if_neg hcommon]
    linarith
  rw [if_neg h100] at hcentury
  by_cases h4 : year % 4 = 0
  · have hleap : Leap year := ⟨h4, .inl h100⟩
    rw [if_pos h4] at hfour
    rw [if_pos hleap]
    linarith
  · have hcommon : ¬Leap year := fun h => h4 h.1
    rw [if_neg h4] at hfour
    rw [if_neg hcommon]
    linarith

/-- The leap years before a year are counted by three quotients. -/
theorem daysBeforeYear_eq (year : Nat) :
    daysBeforeYear year + (year + 99) / 100 = 365 * year + (year + 3) / 4 + (year + 399) / 400 := by
  induction year with
  | zero => rfl
  | succ year ih =>
    have hfour : (year + 1 + 3) / 4 = year / 4 + 1 := by omega
    have hcentury : (year + 1 + 99) / 100 = year / 100 + 1 := by omega
    have hera : (year + 1 + 399) / 400 = year / 400 + 1 := by omega
    have hleap := leap_quotients year
    rw [daysBeforeYear, yearLength, hfour, hcentury, hera]
    generalize year / 4 = four, year / 100 = century, year / 400 = era, (year + 3) / 4 = four',
      (year + 99) / 100 = century', (year + 399) / 400 = era' at *
    split_ifs at * <;> omega

/-- The months of a year make up the year. -/
theorem daysBeforeMonth_year (year : Nat) : daysBeforeMonth year 13 = yearLength year := by
  simp only [daysBeforeMonth, monthLength, yearLength]
  split <;> rfl

theorem daysBeforeYear_mono : Monotone daysBeforeYear :=
  monotone_nat_of_le_succ fun _ => Nat.le_add_right _ _

theorem daysBeforeMonth_mono (year : Nat) : Monotone (daysBeforeMonth year) :=
  monotone_nat_of_le_succ fun _ => Nat.le_add_right _ _

example : daysBeforeYear 1970 = 719528 := by decide +kernel

/-! ## Dates -/

/-- A day of the calendar. -/
@[ext]
structure Date where
  year : Nat
  month : Nat
  day : Nat
  month_le : month ≤ 12
  day_pos : 1 ≤ day
  day_le : day ≤ monthLength year month
  deriving DecidableEq

namespace Date

/-- The date of these numbers, where there is one. -/
def of? (year month day : Nat) : Option Date :=
  if h : month ≤ 12 ∧ 1 ≤ day ∧ day ≤ monthLength year month then
    some ⟨year, month, day, h.1, h.2.1, h.2.2⟩
  else
    none

theorem month_pos (d : Date) : 1 ≤ d.month := by
  rcases Nat.eq_zero_or_pos d.month with hzero | hpos
  · have hle := d.day_le
    have hpos := d.day_pos
    rw [hzero] at hle
    simp only [monthLength] at hle
    omega
  · exact hpos

/-- The days from the first of January of the year 0. -/
def number (d : Date) : Nat := daysBeforeYear d.year + daysBeforeMonth d.year d.month + (d.day - 1)

/-- The day after. -/
def next (d : Date) : Date :=
  if hday : d.day < monthLength d.year d.month then
    ⟨d.year, d.month, d.day + 1, d.month_le, Nat.le_add_left 1 _, hday⟩
  else if hmonth : d.month < 12 then
    ⟨d.year, d.month + 1, 1, hmonth, le_rfl, monthLength_pos d.year (Nat.le_add_left 1 _) hmonth⟩
  else
    ⟨d.year + 1, 1, 1, by decide, le_rfl, by simp [monthLength]⟩

/-- **The next date** has the next number. -/
theorem number_next (d : Date) : d.next.number = d.number + 1 := by
  have hpos := d.day_pos
  have hle := d.day_le
  unfold next
  split
  case isTrue hday =>
    simp only [number]
    omega
  case isFalse hday =>
    have hlast : d.day = monthLength d.year d.month := by omega
    split
    case isTrue hmonth =>
      simp only [number, daysBeforeMonth]
      omega
    case isFalse hmonth =>
      -- the last of December: the months of the year are its days
      have hdecember : d.month = 12 := le_antisymm d.month_le (by omega)
      have hyear := daysBeforeMonth_year d.year
      rw [daysBeforeMonth, ← hdecember] at hyear
      simp only [number, daysBeforeYear, show daysBeforeMonth (d.year + 1) 1 = 0 from rfl]
      omega

instance : LinearOrder Date :=
  LinearOrder.lift' (fun d => toLex (d.year, toLex (d.month, d.day))) fun d e h => by
    simp only [EmbeddingLike.apply_eq_iff_eq, Prod.mk.injEq] at h
    exact Date.ext h.1 h.2.1 h.2.2

theorem lt_iff {d e : Date} : d < e ↔ d.year < e.year ∨
    d.year = e.year ∧ (d.month < e.month ∨ d.month = e.month ∧ d.day < e.day) := by
  change toLex (d.year, toLex (d.month, d.day)) < toLex (e.year, toLex (e.month, e.day)) ↔ _
  rw [Prod.Lex.toLex_lt_toLex, Prod.Lex.toLex_lt_toLex]

theorem number_lt_nextMonth (d : Date) :
    d.number < daysBeforeYear d.year + daysBeforeMonth d.year (d.month + 1) := by
  have hpos := d.day_pos
  have hle := d.day_le
  rw [number, daysBeforeMonth]
  omega

theorem number_lt_nextYear (d : Date) : d.number < daysBeforeYear (d.year + 1) := by
  have hmonth := d.number_lt_nextMonth
  have hle := daysBeforeMonth_mono d.year (show d.month + 1 ≤ 13 from Nat.succ_le_succ d.month_le)
  rw [daysBeforeMonth_year] at hle
  rw [daysBeforeYear]
  omega

/-- **Numbers are ordered as dates are.** -/
theorem number_strictMono : StrictMono number := by
  intro d e h
  rcases lt_iff.1 h with hyear | ⟨hyear, hmonth | ⟨hmonth, hday⟩⟩
  · calc d.number < daysBeforeYear (d.year + 1) := d.number_lt_nextYear
      _ ≤ daysBeforeYear e.year := daysBeforeYear_mono hyear
      _ ≤ e.number := by rw [number]; omega
  · calc d.number < daysBeforeYear d.year + daysBeforeMonth d.year (d.month + 1) :=
          d.number_lt_nextMonth
      _ ≤ daysBeforeYear d.year + daysBeforeMonth d.year e.month :=
          Nat.add_le_add_left (daysBeforeMonth_mono d.year hmonth) _
      _ ≤ e.number := by rw [number, hyear]; omega
  · have hpos := d.day_pos
    rw [number, number, hyear, hmonth]
    omega

end Date

/-! ## Clock readings -/

/-- What a calendar and a clock show at one place. -/
@[ext]
structure Reading where
  date : Date
  hour : Nat
  minute : Nat
  second : Nat
  micro : Nat
  hour_lt : hour < 24
  minute_lt : minute < 60
  second_lt : second < 60
  micro_lt : micro < 1000000
  deriving DecidableEq

namespace Reading

/-- The reading of these numbers, where there is one. -/
def of? (date : Option Date) (hour minute second micro : Nat) : Option Reading :=
  if h : hour < 24 ∧ minute < 60 ∧ second < 60 ∧ micro < 1000000 then
    date.map fun date => ⟨date, hour, minute, second, micro, h.1, h.2.1, h.2.2.1, h.2.2.2⟩
  else
    none

/-- The microseconds from the start of the year 0. -/
def micros (r : Reading) : Nat :=
  (((r.date.number * 24 + r.hour) * 60 + r.minute) * 60 + r.second) * 1000000 + r.micro

instance : LinearOrder Reading :=
  LinearOrder.lift'
    (fun r => toLex (r.date, toLex (r.hour, toLex (r.minute, toLex (r.second, r.micro)))))
    fun r s h => by
      simp only [EmbeddingLike.apply_eq_iff_eq, Prod.mk.injEq] at h
      exact Reading.ext h.1 h.2.1 h.2.2.1 h.2.2.2.1 h.2.2.2.2

theorem lt_iff {r s : Reading} : r < s ↔ r.date < s.date ∨ r.date = s.date ∧
    (r.hour < s.hour ∨ r.hour = s.hour ∧ (r.minute < s.minute ∨ r.minute = s.minute ∧
      (r.second < s.second ∨ r.second = s.second ∧ r.micro < s.micro))) := by
  change toLex (r.date, toLex (r.hour, toLex (r.minute, toLex (r.second, r.micro)))) <
    toLex (s.date, toLex (s.hour, toLex (s.minute, toLex (s.second, s.micro)))) ↔ _
  simp only [Prod.Lex.toLex_lt_toLex]

/-- The digit that is carried decides. -/
theorem radix_lt {a b x y n : Nat} (hx : x < n) (h : a < b) : a * n + x < b * n + y :=
  calc a * n + x < (a + 1) * n := by rw [Nat.add_mul, Nat.one_mul]; omega
    _ ≤ b * n := Nat.mul_le_mul_right n h
    _ ≤ b * n + y := Nat.le_add_right _ _

/-- **Microseconds are ordered as readings are.** -/
theorem micros_strictMono : StrictMono micros := by
  intro r s h
  rcases lt_iff.1 h with hdate | ⟨hdate, hhour | ⟨hhour, hminute | ⟨hminute, hsecond | hmicro⟩⟩⟩
  · exact radix_lt r.micro_lt (radix_lt r.second_lt (radix_lt r.minute_lt
      (radix_lt r.hour_lt (Date.number_strictMono hdate))))
  · refine radix_lt r.micro_lt (radix_lt r.second_lt (radix_lt r.minute_lt ?_))
    rw [hdate]
    omega
  · refine radix_lt r.micro_lt (radix_lt r.second_lt ?_)
    rw [hdate, hhour]
    omega
  · refine radix_lt r.micro_lt ?_
    rw [hdate, hhour, hminute]
    omega
  · rw [micros, micros, hdate, hhour, hminute, hmicro.1]
    omega

end Reading

end StripeEntitlements.Calendar
