import Mathlib.Data.Bool.AllAny
import StripeEntitlements.Json
import StripeEntitlements.Parity.Calendar
import StripeEntitlements.Parity.CreditAmount

/-!
# PostgreSQL Timestamps in TypeScript

`subscription-state.ts` reads the text of a `timestamptz` into microseconds, with a civil-date
conversion of its own; `plan-changes.ts` holds a copy of the same function. The conversion
counts days as the calendar does, so the microseconds are those of the instant.

## Main results

- `daysFromCivil_date` — the conversion counts days
- `timestampMicros_stamp` — the microseconds of every text of the grammar
- `timestamps_exact` — order, normalization and the comparisons made with them
-/

namespace StripeEntitlements

open Text Calendar

namespace TypeScript

/-! ## The pattern -/

/-- `\d{n}`. -/
def digitsPattern (n : Nat) : Pattern := .many Char.isDigit n (some n)

/-- `TIMESTAMP` up to its last group. -/
def localPattern : Pattern :=
  .seqs [digitsPattern 4, .lit "-", digitsPattern 2, .lit "-", digitsPattern 2,
    .one (fun c => c = 'T' || c = ' '), digitsPattern 2, .lit ":", digitsPattern 2, .lit ":",
    digitsPattern 2, .opt (.seq (.lit ".") (.many Char.isDigit 1 (some 6)))]

/-- The last group of `TIMESTAMP`: `Z|[+-]\d{2}(?::?\d{2})?`. -/
def zonePattern : Pattern :=
  .alt (.lit "Z") (.seqs [.one (fun c => c = '+' || c = '-'), digitsPattern 2,
    .opt (.seq (.opt (.lit ":")) (digitsPattern 2))])

/-- The groups of `TIMESTAMP`. The first six have their places; the fraction is empty where it
    did not take part. -/
structure TimestampMatch where
  year : List Char
  month : List Char
  day : List Char
  hour : List Char
  minute : List Char
  second : List Char
  fraction : List Char
  timezone : List Char

/-- `TIMESTAMP.exec`. -/
def timestampExec (value : String) : Option TimestampMatch :=
  (Pattern.exec localPattern zonePattern value).map fun (matched, timezone) =>
    { year := matched.take 4
      month := (matched.drop 5).take 2
      day := (matched.drop 8).take 2
      hour := (matched.drop 11).take 2
      minute := (matched.drop 14).take 2
      second := (matched.drop 17).take 2
      fraction := matched.drop 20
      timezone }

/-! ## The conversion -/

def isLeapYear (year : Nat) : Bool := year % 4 = 0 && (year % 100 ≠ 0 || year % 400 = 0)

def daysInMonth (year : Nat) : Nat → Nat
  | 0 => 0
  | index + 1 =>
      let lengths := [31, if isLeapYear year then 29 else 28, 31, 30, 31, 30, 31, 31, 30, 31, 30, 31]
      lengths[index]?.getD 0

/-- `daysFromCivil`; `Math.floor` of a quotient is the division of integers. -/
def daysFromCivil (year month day : Int) : Int :=
  let adjustedYear := year - if month ≤ 2 then 1 else 0
  let era := adjustedYear / 400
  let yearOfEra := adjustedYear - era * 400
  let shiftedMonth := month + if month > 2 then -3 else 9
  let dayOfYear := (153 * shiftedMonth + 2) / 5 + day - 1
  let dayOfEra := yearOfEra * 365 + yearOfEra / 4 - yearOfEra / 100 + dayOfYear
  era * 146097 + dayOfEra - 719468

/-- The offset of a zone in seconds. -/
def offsetSeconds (timezone : List Char) : Option Int :=
  if timezone = ['Z'] then
    some 0
  else
    let sign : Int := if timezone.head? = some '+' then 1 else -1
    let compact := (timezone.drop 1).erase ':'
    let offsetHours := numeral (compact.take 2)
    let offsetMinutes := if compact.length = 4 then numeral (compact.drop 2) else 0
    if offsetHours > 23 ∨ offsetMinutes > 59 then
      none
    else
      some (sign * (offsetHours * 3600 + offsetMinutes * 60))

def timestampMicros (value : Json) : Option Int := do
  let text ← value.asStr
  let groups ← timestampExec text
  let year := numeral groups.year
  let month := numeral groups.month
  let day := numeral groups.day
  let hour := numeral groups.hour
  let minute := numeral groups.minute
  let second := numeral groups.second
  if year < 1 ∨ year > 9999 ∨ month < 1 ∨ month > 12 ∨ day < 1 ∨ day > daysInMonth year month ∨
      hour > 23 ∨ minute > 59 ∨ second > 59 then
    none
  else do
    let offset ← offsetSeconds groups.timezone
    let localSeconds := daysFromCivil year month day * 86400 + (hour * 3600 + minute * 60 + second)
    let fractionalMicros := numeral (groups.fraction ++ List.replicate (6 - groups.fraction.length) '0')
    pure ((localSeconds - offset) * 1000000 + fractionalMicros)

def rfc3339Timestamp (value : String) : Transaction String :=
  match timestampExec value with
  | none => .error (.typeError "PostgreSQL timestamp is outside the supported RFC 3339 range")
  | some groups => do
      require (timestampMicros (.str value)).isSome
        (.typeError "PostgreSQL timestamp is outside the supported RFC 3339 range")
      let timezone := groups.timezone
      let normalizedTimezone :=
        if timezone = ['Z'] ∨ ':' ∈ timezone then timezone
        else if timezone.length = 3 then timezone ++ [':', '0', '0']
        else timezone.take 3 ++ ':' :: timezone.drop 3
      let chars := value.toList
      pure (String.ofList (chars.take 10 ++
        'T' :: ((chars.drop 11).take (chars.length - timezone.length - 11)) ++ normalizedTimezone))

/-- `timestampEqualsEpoch`. -/
def timestampEqualsEpoch (timestamp : Json) (epochSeconds : Int) : Bool :=
  timestampMicros timestamp = some (epochSeconds * 1000000)

/-- `subscriptionCreditsAreSpendable`. -/
def subscriptionCreditsAreSpendable (account input : Json) : Bool :=
  account.isObj && input.isObj && (account.get "subscription_status").asStr = some "active" &&
    ((account.get "entitlement_revoked").isNull ||
      (account.get "entitlement_revoked").asBool = some false) &&
    (match timestampMicros (input.get "asOf"), timestampMicros (account.get "credit_expires_at") with
      | some asOf, some expiresAt => asOf < expiresAt
      | _, _ => false)

/-! ## The grammar -/

/-- A field of decimal digits. -/
@[ext]
structure Field (n : Nat) where
  chars : List Char
  digits : Digits chars
  length : chars.length = n

namespace Field

variable {n : Nat}

def value (f : Field n) : Nat := numeral f.chars

theorem value_lt (f : Field n) : f.value < 10 ^ n := by
  have hlt := numeral_lt f.digits
  rwa [f.length] at hlt

theorem value_injective {f g : Field n} (h : f.value = g.value) : f = g :=
  Field.ext (numeral_inj f.digits g.digits (f.length.trans g.length.symm) h)

theorem mem_digitsPattern {xs : List Char} :
    xs ∈ (digitsPattern n).language ↔ ∃ f : Field n, f.chars = xs := by
  constructor
  · rintro ⟨hdigits, hleast, hmost⟩
    exact ⟨⟨xs, hdigits, le_antisymm (hmost n rfl) hleast⟩, rfl⟩
  · rintro ⟨f, rfl⟩
    refine ⟨f.digits, f.length.ge, fun m hm => ?_⟩
    cases hm
    exact f.length.le

theorem take_chars (f : Field n) (rest : List Char) : (f.chars ++ rest).take n = f.chars :=
  List.take_left' f.length

theorem drop_chars (f : Field n) (rest : List Char) : (f.chars ++ rest).drop n = rest :=
  List.drop_left' f.length

theorem drop_next (f : Field n) (c : Char) (rest : List Char) :
    (f.chars ++ c :: rest).drop (n + 1) = rest := by
  rw [← List.drop_drop, f.drop_chars]
  rfl

theorem not_mem (f : Field n) {c : Char} (hc : c.isDigit = false) : c ∉ f.chars :=
  fun hmem => absurd (f.digits c hmem) (by simp [hc])

end Field

/-- A zone as it is written. -/
inductive Zone where
  | utc
  | offset (east : Bool) (hours : Field 2) (minutes : Option (Bool × Field 2))

namespace Zone

/-- The minutes of an offset, after a colon or at once. -/
def minuteChars : Option (Bool × Field 2) → List Char
  | none => []
  | some (colon, minutes) => (if colon then [':'] else []) ++ minutes.chars

def chars : Zone → List Char
  | utc => ['Z']
  | offset east hours minutes =>
      (if east then '+' else '-') :: (hours.chars ++ minuteChars minutes)

/-- The seconds a zone is ahead, where a clock can be so far ahead. -/
def seconds? : Zone → Option Int
  | utc => some 0
  | offset east hours minutes =>
      let minutes := minutes.elim 0 fun m => m.2.value
      if hours.value < 24 ∧ minutes < 60 then
        some ((if east then 1 else -1) * (hours.value * 3600 + minutes * 60))
      else
        none

/-- No zone starts like a fraction or a digit. -/
theorem chars_head (z : Zone) : ∃ c rest, z.chars = c :: rest ∧ c ∈ ['Z', '+', '-'] := by
  cases z with
  | utc => exact ⟨'Z', [], rfl, by decide⟩
  | offset east hours minutes => exact ⟨_, _, rfl, by cases east <;> decide⟩

end Zone

/-- A timestamp as it is written. -/
structure Stamp where
  year : Field 4
  month : Field 2
  day : Field 2
  /-- A blank stands between the date and the time, not a `T`. -/
  blank : Bool
  hour : Field 2
  minute : Field 2
  second : Field 2
  fraction : List Char
  fraction_digits : Digits fraction
  fraction_length : fraction.length ≤ 6
  zone : Zone

namespace Stamp

/-- The time of the day. -/
def time (s : Stamp) : List Char :=
  s.hour.chars ++ ':' :: (s.minute.chars ++ ':' :: (s.second.chars ++ Decimal.pointed s.fraction))

/-- The date and the time. -/
def matched (s : Stamp) : List Char :=
  s.year.chars ++ '-' :: (s.month.chars ++ '-' :: (s.day.chars ++
    (if s.blank then ' ' else 'T') :: s.time))

def text (s : Stamp) : String := String.ofList (s.matched ++ s.zone.chars)

/-- The date, where the calendar has it; no year is before the first. -/
def date? (s : Stamp) : Option Date :=
  if 1 ≤ s.year.value then Date.of? s.year.value s.month.value s.day.value else none

/-- The microseconds of the fraction. -/
def micro (s : Stamp) : Nat :=
  numeral (s.fraction ++ List.replicate (6 - s.fraction.length) '0')

/-- What calendar and clock show, where they can show it. -/
def reading? (s : Stamp) : Option Reading :=
  Reading.of? s.date? s.hour.value s.minute.value s.second.value s.micro

/-- The reading of the first of January 1970. -/
def epoch : Nat := 719528 * 86400 * 1000000

/-- The microsecond of a timestamp, where there is such a date, time and zone. -/
def instant? (s : Stamp) : Option Int := do
  let reading ← s.reading?
  let offset ← s.zone.seconds?
  pure (reading.micros - epoch - offset * 1000000)

theorem drop_matched_11 (s : Stamp) : s.matched.drop 11 = s.time := by
  rw [matched, show 11 = 5 + (3 + 3) from rfl, ← List.drop_drop, s.year.drop_next,
    ← List.drop_drop, s.month.drop_next, s.day.drop_next]

theorem drop_matched_17 (s : Stamp) :
    s.matched.drop 17 = s.second.chars ++ Decimal.pointed s.fraction := by
  rw [show 17 = 11 + (3 + 3) from rfl, ← List.drop_drop, s.drop_matched_11, time,
    ← List.drop_drop, s.hour.drop_next, s.minute.drop_next]

theorem drop_matched_19 (s : Stamp) : s.matched.drop 19 = Decimal.pointed s.fraction := by
  rw [show 19 = 17 + 2 from rfl, ← List.drop_drop, s.drop_matched_17, s.second.drop_chars]

theorem matched_length (s : Stamp) : 19 ≤ s.matched.length := by
  simp only [matched, time, List.length_append, List.length_cons, Field.length]
  omega

/-- The groups of a match. -/
theorem groups (s : Stamp) :
    s.matched.take 4 = s.year.chars ∧ (s.matched.drop 5).take 2 = s.month.chars ∧
      (s.matched.drop 8).take 2 = s.day.chars ∧ (s.matched.drop 11).take 2 = s.hour.chars ∧
      (s.matched.drop 14).take 2 = s.minute.chars ∧ (s.matched.drop 17).take 2 = s.second.chars ∧
      s.matched.drop 20 = s.fraction := by
  refine ⟨s.year.take_chars _, ?_, ?_, ?_, ?_, ?_, ?_⟩
  · rw [matched, s.year.drop_next, s.month.take_chars]
  · rw [matched, show 8 = 5 + 3 from rfl, ← List.drop_drop, s.year.drop_next, s.month.drop_next,
      s.day.take_chars]
  · rw [s.drop_matched_11, time, s.hour.take_chars]
  · rw [show 14 = 11 + 3 from rfl, ← List.drop_drop, s.drop_matched_11, time, s.hour.drop_next,
      s.minute.take_chars]
  · rw [s.drop_matched_17, s.second.take_chars]
  · rw [show 20 = 19 + 1 from rfl, ← List.drop_drop, s.drop_matched_19]
    exact fractionGroup_pointed s.fraction

end Stamp

/-! ## The language of the pattern -/

theorem mem_seq {p q : Pattern} {xs : List Char} : xs ∈ (Pattern.seq p q).language ↔
    ∃ a ∈ p.language, ∃ b ∈ q.language, a ++ b = xs := Language.mem_mul

theorem mem_lit {c : Char} {t : String} (h : t.toList = [c]) {xs : List Char} :
    xs ∈ (Pattern.lit t).language ↔ xs = [c] := by
  rw [lit_language c t h]
  rfl

theorem mem_opt {p : Pattern} {xs : List Char} :
    xs ∈ (Pattern.opt p).language ↔ xs ∈ p.language ∨ xs = [] := Iff.rfl

theorem mem_zonePattern {xs : List Char} :
    xs ∈ zonePattern.language ↔ ∃ z : Zone, z.chars = xs := by
  -- the minutes are optional, and so is the colon before them
  have hminutes : ∀ {ys : List Char},
      ys ∈ (Pattern.opt (.seq (.opt (.lit ":")) (digitsPattern 2))).language ↔
        ∃ minutes, Zone.minuteChars minutes = ys := by
    intro ys
    rw [mem_opt, mem_seq]
    constructor
    · rintro (⟨colon, hcolon, digits, hdigits, rfl⟩ | rfl)
      · obtain ⟨f, rfl⟩ := Field.mem_digitsPattern.1 hdigits
        rcases mem_opt.1 hcolon with hcolon | rfl
        · rw [(mem_lit rfl).1 hcolon]
          exact ⟨some (true, f), rfl⟩
        · exact ⟨some (false, f), rfl⟩
      · exact ⟨none, rfl⟩
    · rintro ⟨_ | ⟨colon, f⟩, rfl⟩
      · exact .inr rfl
      · refine .inl ⟨_, ?_, f.chars, Field.mem_digitsPattern.2 ⟨f, rfl⟩, rfl⟩
        cases colon
        · exact mem_opt.2 (.inr rfl)
        · exact mem_opt.2 (.inl ((mem_lit rfl).2 rfl))
  rw [zonePattern, Pattern.language, Language.mem_add, mem_lit rfl]
  simp only [Pattern.seqs, List.foldr_cons, List.foldr_nil, mem_seq, hminutes]
  constructor
  -- a zone is the letter Z, or a sign with hours and perhaps minutes
  · rintro (rfl | ⟨_, ⟨c, rfl, hc⟩, _, ⟨digits, hdigits, _, ⟨_, ⟨minutes, rfl⟩, _, rfl, rfl⟩, rfl⟩,
      rfl⟩)
    · exact ⟨.utc, rfl⟩
    · obtain ⟨f, rfl⟩ := Field.mem_digitsPattern.1 hdigits
      simp only [Bool.or_eq_true, decide_eq_true_eq] at hc
      rcases hc with rfl | rfl
      · exact ⟨.offset true f minutes, by simp [Zone.chars]⟩
      · exact ⟨.offset false f minutes, by simp [Zone.chars]⟩
  · rintro ⟨_ | ⟨east, hours, minutes⟩, rfl⟩
    · exact .inl rfl
    · refine .inr ⟨_, ⟨if east then '+' else '-', rfl, ?_⟩, _, ⟨hours.chars,
        Field.mem_digitsPattern.2 ⟨hours, rfl⟩, _, ⟨_, ⟨minutes, rfl⟩, [], rfl, rfl⟩, rfl⟩, ?_⟩
      · cases east <;> rfl
      · simp [Zone.chars]

theorem mem_localPattern {xs : List Char} :
    xs ∈ localPattern.language ↔ ∃ s : Stamp, s.matched = xs := by
  -- the pattern is a sequence, so a word of it is the words of its parts, one after the other
  simp only [localPattern, Pattern.seqs, List.foldr_cons, List.foldr_nil, mem_seq,
    Field.mem_digitsPattern, mem_lit (show "-".toList = ['-'] from rfl),
    mem_lit (show ":".toList = [':'] from rfl), mem_lit (show ".".toList = ['.'] from rfl), mem_opt]
  constructor
  · rintro ⟨_, ⟨year, rfl⟩, _, ⟨_, rfl, _, ⟨_, ⟨month, rfl⟩, _, ⟨_, rfl, _, ⟨_, ⟨day, rfl⟩, _,
      ⟨_, ⟨c, rfl, hc⟩, _, ⟨_, ⟨hour, rfl⟩, _, ⟨_, rfl, _, ⟨_, ⟨minute, rfl⟩, _, ⟨_, rfl, _,
      ⟨_, ⟨second, rfl⟩, _, ⟨_, hfraction, _, rfl, rfl⟩, rfl⟩, rfl⟩, rfl⟩, rfl⟩, rfl⟩, rfl⟩, rfl⟩,
      rfl⟩, rfl⟩, rfl⟩, rfl⟩
    -- the optional fraction has at most six digits after its point
    obtain ⟨fraction, rfl, hdigits, hlength⟩ :
        ∃ digits, _ = Decimal.pointed digits ∧ Digits digits ∧ digits.length ≤ 6 :=
      mem_fractionPattern.1 (mem_opt.2 (hfraction.imp_left fun h => by
        obtain ⟨_, rfl, digits, hdigits, rfl⟩ := h
        exact mem_seq.2 ⟨_, (mem_lit rfl).2 rfl, digits, hdigits, rfl⟩))
    simp only [Bool.or_eq_true, decide_eq_true_eq] at hc
    refine ⟨⟨year, month, day, c = ' ', hour, minute, second, fraction, hdigits, hlength, .utc⟩, ?_⟩
    rcases hc with rfl | rfl <;> simp [Stamp.matched, Stamp.time]
  -- conversely each part is matched where the text has it
  · rintro ⟨s, rfl⟩
    have hfraction := mem_fractionPattern.2 ⟨_, rfl, s.fraction_digits, s.fraction_length⟩
    rw [fractionPattern, mem_opt, mem_seq] at hfraction
    simp only [mem_lit (show ".".toList = ['.'] from rfl)] at hfraction
    refine ⟨_, ⟨s.year, rfl⟩, _, ⟨_, rfl, _, ⟨_, ⟨s.month, rfl⟩, _, ⟨_, rfl, _, ⟨_, ⟨s.day, rfl⟩, _,
      ⟨_, ⟨if s.blank then ' ' else 'T', rfl, ?_⟩, _, ⟨_, ⟨s.hour, rfl⟩, _, ⟨_, rfl, _,
      ⟨_, ⟨s.minute, rfl⟩, _, ⟨_, rfl, _, ⟨_, ⟨s.second, rfl⟩, _, ⟨_, hfraction, [], rfl, rfl⟩, rfl⟩,
      rfl⟩, rfl⟩, rfl⟩, rfl⟩, rfl⟩, rfl⟩, rfl⟩, rfl⟩, rfl⟩, ?_⟩
    · cases s.blank <;> rfl
    · simp [Stamp.matched, Stamp.time]

theorem localPattern_plain : localPattern.Plain := by
  repeat first | exact trivial | refine ⟨?_, ?_⟩

theorem zonePattern_plain : zonePattern.Plain := by
  repeat first | exact trivial | refine ⟨?_, ?_⟩

/-- The text between the seconds and the zone is the fraction. -/
theorem takeWhile_fraction (s : Stamp) (z : Zone) :
    (Decimal.pointed s.fraction ++ z.chars).takeWhile (fun c => c.isDigit || c = '.') =
      Decimal.pointed s.fraction := by
  have hfraction : ∀ c ∈ Decimal.pointed s.fraction, (c.isDigit || c = '.') = true := by
    intro c hc
    unfold Decimal.pointed at hc
    split at hc
    · cases hc
    · rcases List.mem_cons.1 hc with rfl | hc
      · rfl
      · rw [s.fraction_digits c hc, Bool.true_or]
  rw [List.takeWhile_append_of_pos hfraction]
  obtain ⟨c, rest, hchars, hc⟩ := z.chars_head
  have hstop : (c.isDigit || c = '.') = false :=
    (List.all_iff_forall_prop.1 (by decide) :
      ∀ c ∈ ['Z', '+', '-'], (c.isDigit || c = '.') = false) c hc
  rw [hchars, List.takeWhile_cons_of_neg (by simp [hstop]), List.append_nil]

/-- **The pattern matches the timestamps**, and the halves are their parts. -/
theorem exec_eq_some {text : String} {x y : List Char} :
    Pattern.exec localPattern zonePattern text = some (x, y) ↔
      ∃ s : Stamp, s.text = text ∧ s.matched = x ∧ s.zone.chars = y := by
  rw [Pattern.exec_groups, Pattern.groups_eq_some localPattern_plain zonePattern_plain,
    mem_localPattern, mem_zonePattern]
  · constructor
    · rintro ⟨htext, ⟨s, rfl⟩, z, rfl⟩
      refine ⟨{ s with zone := z }, ?_, rfl, rfl⟩
      rw [Stamp.text, ← String.toList_inj, String.toList_ofList, htext]
      rfl
    · rintro ⟨s, rfl, rfl, rfl⟩
      exact ⟨String.toList_ofList, ⟨s, rfl⟩, s.zone, rfl⟩
  · -- nineteen characters, and then the fraction as far as it goes
    intro a ha b hb a' ha' b' hb' heq
    obtain ⟨s, rfl⟩ := mem_localPattern.1 ha
    obtain ⟨t, rfl⟩ := mem_localPattern.1 ha'
    obtain ⟨z, rfl⟩ := mem_zonePattern.1 hb
    obtain ⟨z', rfl⟩ := mem_zonePattern.1 hb'
    have hstart : s.matched.take 19 = t.matched.take 19 := by
      have h := congrArg (List.take 19) heq
      rwa [List.take_append_of_le_length s.matched_length,
        List.take_append_of_le_length t.matched_length] at h
    have hend : s.matched.drop 19 = t.matched.drop 19 := by
      have h := congrArg (List.drop 19) heq
      rw [List.drop_append_of_le_length s.matched_length,
        List.drop_append_of_le_length t.matched_length, s.drop_matched_19, t.drop_matched_19] at h
      rw [s.drop_matched_19, t.drop_matched_19, ← takeWhile_fraction s z, h, takeWhile_fraction t z']
    rw [← List.take_append_drop 19 s.matched, hstart, hend, List.take_append_drop]

theorem timestampExec_text (s : Stamp) : timestampExec s.text =
    some ⟨s.year.chars, s.month.chars, s.day.chars, s.hour.chars, s.minute.chars, s.second.chars,
      s.fraction, s.zone.chars⟩ := by
  obtain ⟨hyear, hmonth, hday, hhour, hminute, hsecond, hfraction⟩ := s.groups
  simp only [timestampExec, exec_eq_some.2 ⟨s, rfl, rfl, rfl⟩, Option.map_some, hyear, hmonth, hday,
    hhour, hminute, hsecond, hfraction]

theorem text_of_timestampExec {text : String} {groups : TimestampMatch}
    (h : timestampExec text = some groups) : ∃ s : Stamp, s.text = text := by
  obtain ⟨⟨x, y⟩, hexec, -⟩ := Option.map_eq_some_iff.1 h
  obtain ⟨s, htext, -⟩ := exec_eq_some.1 hexec
  exact ⟨s, htext⟩

/-! ## The conversion counts -/

theorem isLeapYear_eq (year : Nat) : isLeapYear year = decide (Leap year) := by
  rw [Bool.eq_iff_iff, decide_eq_true_eq]
  simp [isLeapYear, Leap]

theorem daysInMonth_eq (year month : Nat) : daysInMonth year month = monthLength year month := by
  match month with
  | 0 | 1 | 3 | 4 | 5 | 6 | 7 | 8 | 9 | 10 | 11 | 12 => rfl
  | 2 =>
    show (if isLeapYear year then 29 else 28) = if Leap year then 29 else 28
    simp only [isLeapYear_eq, decide_eq_true_eq]
  | _ + 13 => rfl

/-- The years of an era are counted by the same quotients as all years. -/
theorem eras_eq (year rest : Int) :
    year / 400 * 146097 + ((year - year / 400 * 400) * 365 + (year - year / 400 * 400) / 4 -
      (year - year / 400 * 400) / 100 + rest) =
        year * 365 + year / 4 - year / 100 + year / 400 + rest := by
  omega

/-- March to December follow the day that a leap year adds. -/
theorem daysBeforeMonth_march {d : Date} (hge : 3 ≤ d.month) :
    daysBeforeMonth d.year d.month =
      (153 * (d.month - 3) + 2) / 5 + (if Leap d.year then 60 else 59) := by
  have hle := d.month_le
  generalize d.month = month at hge hle
  interval_cases month <;> simp only [daysBeforeMonth, monthLength] <;> split <;> rfl

/-- **The conversion of a civil date** counts the days from the first of January 1970. It works in
    eras of four hundred years that begin in March; the calendar counts the days of all years
    before, and both agree on the day numbers. -/
theorem daysFromCivil_date (d : Date) :
    daysFromCivil d.year d.month d.day = d.number - 719528 := by
  have hmonth := d.month_pos
  have hday := d.day_pos
  rw [Date.number]
  rcases Nat.lt_or_ge d.month 3 with hlt | hge
  · have hbefore : daysBeforeMonth d.year d.month = 31 * (d.month - 1) := by
      obtain h | h : d.month = 1 ∨ d.month = 2 := by omega
      · rw [h]; rfl
      · rw [h]; rfl
    have hshifted : (153 * ((d.month : Int) + 9) + 2) / 5 = 31 * d.month + 275 := by omega
    -- the quotients of the year before
    have hfour : ((d.year : Int) - 1) / 4 = ((d.year + 3) / 4 : Nat) - 1 := by omega
    have hcentury : ((d.year : Int) - 1) / 100 = ((d.year + 99) / 100 : Nat) - 1 := by omega
    have hera : ((d.year : Int) - 1) / 400 = ((d.year + 399) / 400 : Nat) - 1 := by omega
    have hyears := daysBeforeYear_eq d.year
    dsimp only [daysFromCivil]
    rw [if_pos (by omega), if_neg (by omega), hbefore, hshifted, eras_eq, hfour, hcentury, hera]
    generalize (d.year + 3) / 4 = four, (d.year + 99) / 100 = century,
      (d.year + 399) / 400 = era at hyears ⊢
    omega
  · have hshifted : (((153 * (d.month - 3) + 2) / 5 : Nat) : Int) =
        (153 * ((d.month : Int) + -3) + 2) / 5 := by omega
    dsimp only [daysFromCivil]
    rw [if_neg (by omega), if_pos (by omega), daysBeforeMonth_march hge, Int.sub_zero, eras_eq,
      ← hshifted]
    have hfour : (d.year : Int) / 4 = (d.year / 4 : Nat) := rfl
    have hcentury : (d.year : Int) / 100 = (d.year / 100 : Nat) := rfl
    have hera : (d.year : Int) / 400 = (d.year / 400 : Nat) := rfl
    rw [hfour, hcentury, hera]
    have hyears := daysBeforeYear_eq d.year
    have hleap := leap_quotients d.year
    generalize (153 * (d.month - 3) + 2) / 5 = shifted
    generalize d.year / 4 = four, d.year / 100 = century, d.year / 400 = era,
      (d.year + 3) / 4 = four', (d.year + 99) / 100 = century',
      (d.year + 399) / 400 = era' at hyears hleap ⊢
    push_cast
    split_ifs at hleap ⊢ <;> omega

/-- The offset of a zone is the one it spells. -/
theorem offsetSeconds_chars (z : Zone) : offsetSeconds z.chars = z.seconds? := by
  cases z with
  | utc => rfl
  | offset east hours minutes =>
    have hne : (Zone.offset east hours minutes).chars ≠ ['Z'] := by
      cases east <;> simp [Zone.chars]
    have hhead : ((Zone.offset east hours minutes).chars.head? = some '+') ↔ east = true := by
      cases east <;> simp [Zone.chars]
    -- dropping the colon leaves two digits, or four
    have hcompact : ((Zone.offset east hours minutes).chars.drop 1).erase ':' =
        hours.chars ++ (minutes.elim [] fun m => m.2.chars) := by
      show (hours.chars ++ Zone.minuteChars minutes).erase ':' = _
      rw [List.erase_append_right _ (hours.not_mem rfl)]
      match minutes with
      | none => rfl
      | some (true, m) => rfl
      | some (false, m) =>
        show hours.chars ++ ([] ++ m.chars).erase ':' = hours.chars ++ m.chars
        rw [List.nil_append, List.erase_of_not_mem (m.not_mem rfl)]
    simp only [offsetSeconds, if_neg hne, hhead, hcompact, hours.take_chars, hours.drop_chars,
      Zone.seconds?]
    have hminutes : (if (hours.chars ++ (minutes.elim [] fun m => m.2.chars)).length = 4 then
        numeral (minutes.elim [] fun m => m.2.chars) else 0) =
        minutes.elim 0 fun m => m.2.value := by
      cases minutes with
      | none => rw [if_neg (by simp [hours.length])]; rfl
      | some m => rw [if_pos (by simp [hours.length, m.2.length])]; rfl
    rw [hminutes]
    by_cases h : hours.value > 23 ∨ (minutes.elim 0 fun m => m.2.value) > 59
    · exact (if_pos h).trans (if_neg (by omega)).symm
    · exact (if_neg h).trans (if_pos (by omega)).symm

theorem Stamp.micro_lt (s : Stamp) : s.micro < 1000000 := by
  have hlength := s.fraction_length
  have hlt := numeral_lt (s.fraction_digits.append (Digits.zeros (6 - s.fraction.length)))
  rw [List.length_append, List.length_replicate,
    show s.fraction.length + (6 - s.fraction.length) = 6 by omega] at hlt
  exact hlt

/-- **The microseconds of a timestamp** are those of its instant, and an impossible date, time or
    zone has none. The guards of the source compare the same fields as the calendar does, and its
    count of days is the calendar's. -/
theorem timestampMicros_text (s : Stamp) : timestampMicros (.str s.text) = s.instant? := by
  have hyear : s.year.value ≤ 9999 := Nat.le_of_lt_succ s.year.value_lt
  have hmicro := s.micro_lt
  simp only [timestampMicros, Json.asStr, Option.bind_eq_bind, Option.bind_some,
    timestampExec_text, offsetSeconds_chars]
  -- the date and time guards of the source, as comparisons of the fields
  change (if s.year.value < 1 ∨ s.year.value > 9999 ∨ s.month.value < 1 ∨ s.month.value > 12 ∨
    s.day.value < 1 ∨ s.day.value > daysInMonth s.year.value s.month.value ∨ s.hour.value > 23 ∨
    s.minute.value > 59 ∨ s.second.value > 59 then none else _) = _
  rw [daysInMonth_eq]
  split
  -- one of them fails, so no reading exists
  case isTrue h =>
    have hnone : s.reading? = none := by
      rw [Stamp.reading?, Reading.of?, Stamp.date?, Date.of?]
      split
      case isFalse => rfl
      case isTrue htime =>
        split
        case isFalse => rfl
        case isTrue hfirst =>
          -- the date is impossible: its month or its day is out of range
          rw [dif_neg]
          · rfl
          · rintro ⟨hmonth, hday, hday'⟩
            have hpos := Date.month_pos ⟨_, _, _, hmonth, hday, hday'⟩
            dsimp only at hpos
            omega
    rw [Stamp.instant?, hnone]
    rfl
  -- all pass, so the date is a calendar date and the reading exists
  case isFalse h =>
    have hdate : s.date? =
        some ⟨s.year.value, s.month.value, s.day.value, by omega, by omega, by omega⟩ := by
      rw [Stamp.date?, if_pos (by omega), Date.of?, dif_pos (by omega)]
    rw [Stamp.instant?, Stamp.reading?, hdate, Reading.of?, dif_pos ⟨by omega, by omega, by omega, hmicro⟩]
    cases s.zone.seconds? with
    | none => rfl
    | some offset =>
      -- `Date.UTC` of the source counts days as the calendar does
      have hdays := daysFromCivil_date
        ⟨s.year.value, s.month.value, s.day.value, by omega, by omega, by omega⟩
      dsimp only at hdays
      simp only [Option.bind_some, Option.map_some, Option.bind_eq_bind, Option.pure_def,
        Option.some.injEq]
      change (daysFromCivil s.year.value s.month.value s.day.value * 86400 +
        (s.hour.value * 3600 + s.minute.value * 60 + s.second.value) - offset) * 1000000 +
          (s.micro : Int) = _
      rw [hdays, Reading.micros, Stamp.epoch]
      push_cast
      ring

/-- A value has microseconds where it is the text of a timestamp that has an instant. -/
theorem timestampMicros_eq_some {value : Json} {n : Int} :
    timestampMicros value = some n ↔ ∃ s : Stamp, value = .str s.text ∧ s.instant? = some n := by
  constructor
  · intro h
    obtain ⟨text, htext, hgroups⟩ := Option.bind_eq_some_iff.1 h
    obtain ⟨groups, hexec, -⟩ := Option.bind_eq_some_iff.1 hgroups
    obtain ⟨s, rfl⟩ := text_of_timestampExec hexec
    have hvalue : value = .str s.text := by
      cases value <;> cases htext
      rfl
    rw [hvalue, timestampMicros_text] at h
    exact ⟨s, hvalue, h⟩
  · rintro ⟨s, rfl, h⟩
    rw [timestampMicros_text, h]

/-! ## Normalization -/

def Field.zero : Field 2 := ⟨['0', '0'], Digits.zeros 2, rfl⟩

/-- The zone with its minutes after a colon. -/
def Zone.normalized : Zone → Zone
  | utc => utc
  | offset east hours minutes =>
      offset east hours (some (true, minutes.elim Field.zero fun m => m.2))

/-- The timestamp as RFC 3339 writes it. -/
def Stamp.normalized (s : Stamp) : Stamp := { s with blank := false, zone := s.zone.normalized }

/-- RFC 3339: a `T` stands between date and time, and a zone other than `Z` has its minutes after
    a colon. -/
structure Stamp.Rfc3339 (s : Stamp) : Prop where
  separator : s.blank = false
  zone : ∀ east hours minutes, s.zone = .offset east hours minutes →
    ∃ m, minutes = some (true, m)

theorem Stamp.normalized_rfc3339 (s : Stamp) : s.normalized.Rfc3339 where
  separator := rfl
  zone east hours minutes heq := by
    change s.zone.normalized = _ at heq
    cases hzone : s.zone with
    | utc =>
      rw [hzone] at heq
      cases heq
    | offset east' hours' minutes' =>
      rw [hzone] at heq
      cases heq
      exact ⟨_, rfl⟩

theorem Zone.seconds?_normalized (z : Zone) : z.normalized.seconds? = z.seconds? := by
  match z with
  | .utc => rfl
  | .offset _ _ none => rfl
  | .offset _ _ (some _) => rfl

theorem Stamp.instant?_normalized (s : Stamp) : s.normalized.instant? = s.instant? := by
  rw [instant?, instant?, normalized]
  dsimp only
  rw [s.zone.seconds?_normalized]
  rfl

/-- The colon and the minutes that a zone lacks are put in. -/
theorem Zone.chars_normalized (z : Zone) : z.normalized.chars =
    if z.chars = ['Z'] ∨ ':' ∈ z.chars then z.chars
    else if z.chars.length = 3 then z.chars ++ [':', '0', '0']
    else z.chars.take 3 ++ ':' :: z.chars.drop 3 := by
  match z with
  | .utc => rfl
  | .offset east hours none =>
    have hcolon : ':' ∉ hours.chars := hours.not_mem rfl
    rw [if_neg (by cases east <;> simp [chars, minuteChars, hcolon]),
      if_pos (by cases east <;> simp [chars, minuteChars, hours.length])]
    simp [normalized, chars, minuteChars, Field.zero]
  | .offset east hours (some (true, m)) =>
    rw [if_pos (.inr (by simp [chars, minuteChars]))]
    rfl
  | .offset east hours (some (false, m)) =>
    have hcolon : ':' ∉ hours.chars := hours.not_mem rfl
    have hcolon' : ':' ∉ m.chars := m.not_mem rfl
    rw [if_neg (by cases east <;> simp [chars, minuteChars, hcolon, hcolon']),
      if_neg (by simp [chars, minuteChars, hours.length, m.length])]
    simp [normalized, chars, minuteChars, hours.length]

theorem rfc3339Timestamp_text {s : Stamp} (h : s.instant?.isSome) :
    rfc3339Timestamp s.text = .ok s.normalized.text := by
  simp only [rfc3339Timestamp, timestampExec_text, timestampMicros_text, h, bind_eq_ok,
    require_eq_ok, pure_eq_ok]
  refine ⟨(), trivial, ?_⟩
  rw [← s.zone.chars_normalized, Stamp.text, Stamp.text]
  congr 1
  have hlength := s.matched_length
  rw [String.toList_ofList, List.take_append_of_le_length (by omega),
    List.drop_append_of_le_length (by omega), List.length_append,
    show s.matched.length + s.zone.chars.length - s.zone.chars.length - 11 =
      (s.matched.drop 11).length by rw [List.length_drop]; omega, List.take_left,
    s.drop_matched_11]
  show _ = s.normalized.matched ++ s.zone.normalized.chars
  congr 1
  have hdate : s.matched.take 10 =
      s.year.chars ++ '-' :: (s.month.chars ++ '-' :: s.day.chars) := by
    have hsplit : s.matched = (s.year.chars ++ '-' :: (s.month.chars ++ '-' :: s.day.chars)) ++
        (if s.blank then ' ' else 'T') :: s.time := by simp [Stamp.matched]
    rw [hsplit]
    exact List.take_left' (by simp [Field.length])
  rw [hdate]
  simp [Stamp.matched, Stamp.normalized, Stamp.time]

theorem rfc3339Timestamp_error {text : String} (h : timestampMicros (.str text) = none) :
    rfc3339Timestamp text =
      .error (.typeError "PostgreSQL timestamp is outside the supported RFC 3339 range") := by
  rw [rfc3339Timestamp]
  split
  · rfl
  · rw [h]
    rfl

/-! ## Stored texts -/

/-- The text of a stored timestamp in a session at UTC. -/
structure Stamp.Stored (s : Stamp) : Prop where
  blank : s.blank = true
  zone : s.zone = .offset true Field.zero none
  fraction : s.fraction.getLast? ≠ some '0'

/-- The fraction as a literal of six places. -/
def Stamp.part (s : Stamp) : Decimal 6 where
  whole := ['0']
  fraction := s.fraction
  whole_digits := Digits.zeros 1
  whole_leading := .inl rfl
  fraction_digits := s.fraction_digits
  fraction_length := s.fraction_length

/-- **A stored text** is the only one of its instant: it is in the zone UTC, and its fraction ends
    where the digits do. -/
theorem Stamp.Stored.eq {s t : Stamp} (hs : s.Stored) (ht : t.Stored)
    (hsome : s.instant?.isSome) (h : s.instant? = t.instant?) : s.text = t.text := by
  obtain ⟨n, hn⟩ := Option.isSome_iff_exists.1 hsome
  have hutc : (Zone.offset true Field.zero none).seconds? = some 0 := by decide
  have hreadings : ∀ {s : Stamp}, s.Stored → s.instant? = some n →
      ∃ r, s.reading? = some r ∧ (r.micros : Int) = n + Stamp.epoch := by
    intro s hs hn
    rw [instant?, hs.zone, hutc] at hn
    obtain ⟨r, hr, hmicros⟩ := Option.bind_eq_some_iff.1 hn
    refine ⟨r, hr, ?_⟩
    have hmicros : (r.micros : Int) - Stamp.epoch - 0 * 1000000 = n := Option.some.inj hmicros
    omega
  obtain ⟨r, hr, hmicros⟩ := hreadings hs hn
  obtain ⟨r', hr', hmicros'⟩ := hreadings ht (h ▸ hn)
  obtain rfl : r = r' := Reading.micros_strictMono.injective
    (Int.ofNat_inj.1 (hmicros.trans hmicros'.symm))
  -- the reading tells the numbers of the fields
  have hfields : ∀ {s : Stamp}, s.reading? = some r → s.year.value = r.date.year ∧
      s.month.value = r.date.month ∧ s.day.value = r.date.day ∧ s.hour.value = r.hour ∧
      s.minute.value = r.minute ∧ s.second.value = r.second ∧ s.micro = r.micro := by
    intro s hr
    rw [reading?, Reading.of?, date?, Date.of?] at hr
    split_ifs at hr
    · cases hr
      exact ⟨rfl, rfl, rfl, rfl, rfl, rfl, rfl⟩
    all_goals cases hr
  obtain ⟨hyear, hmonth, hday, hhour, hminute, hsecond, hmicro⟩ := hfields hr
  obtain ⟨hyear', hmonth', hday', hhour', hminute', hsecond', hmicro'⟩ := hfields hr'
  have hpart : s.part = t.part := by
    have hatoms : ∀ s : Stamp, s.part.atoms = s.micro := by
      intro s
      show 0 * 10 ^ 6 + s.micro = s.micro
      rw [Nat.zero_mul, Nat.zero_add]
    apply Decimal.Canonical.eq (show s.part.Canonical from hs.fraction)
      (show t.part.Canonical from ht.fraction)
    rw [hatoms, hatoms, hmicro, hmicro']
  rw [text, text, matched, matched, time, time, hs.blank, ht.blank, hs.zone, ht.zone,
    Field.value_injective (hyear.trans hyear'.symm), Field.value_injective (hmonth.trans hmonth'.symm),
    Field.value_injective (hday.trans hday'.symm), Field.value_injective (hhour.trans hhour'.symm),
    Field.value_injective (hminute.trans hminute'.symm),
    Field.value_injective (hsecond.trans hsecond'.symm),
    show s.fraction = t.fraction from congrArg Decimal.fraction hpart]

/-! ## Exact timestamps -/

/-- What the microseconds of timestamps tell. -/
structure ExactTimestamps : Prop where
  /-- A timestamp has the microseconds of its instant, and none where its date, time or zone is
      impossible; nothing else has any. -/
  exact : ∀ (value : Json) (n : Int), timestampMicros value = some n ↔
    ∃ s : Stamp, value = .str s.text ∧ s.instant? = some n
  impossible : ∀ s : Stamp, timestampMicros (.str s.text) = none ↔
    s.reading? = none ∨ s.zone.seconds? = none
  /-- In one zone the microseconds are ordered as calendar and clock are. -/
  ordered : ∀ (s t : Stamp) (r r' : Reading) (n m : Int), s.reading? = some r →
    t.reading? = some r' → s.zone.seconds? = t.zone.seconds? →
    timestampMicros (.str s.text) = some n → timestampMicros (.str t.text) = some m →
    (n < m ↔ r < r') ∧ (n = m ↔ r = r')
  /-- The next day at the same time is a day later. -/
  nextDay : ∀ (s t : Stamp) (r : Reading) (n : Int), s.reading? = some r →
    t.reading? = some { r with date := r.date.next } → t.zone.seconds? = s.zone.seconds? →
    timestampMicros (.str s.text) = some n →
    timestampMicros (.str t.text) = some (n + 86400 * 1000000)
  /-- A zone that is ahead is as much earlier. -/
  shifted : ∀ (s : Stamp) (n offset : Int), timestampMicros (.str s.text) = some n →
    s.zone.seconds? = some offset →
    timestampMicros (.str { s with zone := .utc }.text) = some (n + offset * 1000000)
  /-- Normalization answers the RFC 3339 text of the same instant, and refuses what has none. -/
  normalized : ∀ text : String,
    (timestampMicros (.str text) = none ∧ ∃ e, rfc3339Timestamp text = .error e) ∨
      ∃ t : Stamp, rfc3339Timestamp text = .ok t.text ∧ t.Rfc3339 ∧
        (timestampMicros (.str text)).isSome ∧
        timestampMicros (.str t.text) = timestampMicros (.str text)
  /-- Credits are spendable before the instant they expire at. -/
  spendable : ∀ account input : Json, subscriptionCreditsAreSpendable account input = true ↔
    account.isObj = true ∧ input.isObj = true ∧
      (account.get "subscription_status").asStr = some "active" ∧
      ((account.get "entitlement_revoked").isNull = true ∨
        (account.get "entitlement_revoked").asBool = some false) ∧
      ∃ (s t : Stamp) (asOf expiresAt : Int), input.get "asOf" = .str s.text ∧
        account.get "credit_expires_at" = .str t.text ∧ s.instant? = some asOf ∧
        t.instant? = some expiresAt ∧ asOf < expiresAt
  /-- A period ends at an epoch second where its instant is that second. -/
  epoch : ∀ (timestamp : Json) (epochSeconds : Int),
    timestampEqualsEpoch timestamp epochSeconds = true ↔
      ∃ s : Stamp, timestamp = .str s.text ∧ s.instant? = some (epochSeconds * 1000000)
  /-- Stored texts are equal where their instants are. -/
  stored : ∀ s t : Stamp, s.Stored → t.Stored → s.instant?.isSome →
    (s.text = t.text ↔ s.instant? = t.instant?)

theorem instant?_eq_some {s : Stamp} {n : Int} : s.instant? = some n ↔
    ∃ r offset, s.reading? = some r ∧ s.zone.seconds? = some offset ∧
      n = r.micros - Stamp.epoch - offset * 1000000 := by
  simp only [Stamp.instant?, Option.bind_eq_bind, Option.bind_eq_some_iff, Option.pure_def,
    Option.some.injEq]
  constructor
  · rintro ⟨r, hr, offset, hoffset, rfl⟩
    exact ⟨r, offset, hr, hoffset, rfl⟩
  · rintro ⟨r, offset, hr, hoffset, rfl⟩
    exact ⟨r, hr, offset, hoffset, rfl⟩

/-- **Timestamps are exact.** The conversion gives the microseconds of the instant that calendar,
    clock and zone name, and nothing for an impossible one. They are ordered as the readings are, a
    zone shifts them by its offset, and normalizing a text keeps them. -/
theorem timestamps_exact : ExactTimestamps where
  exact _ _ := timestampMicros_eq_some
  impossible s := by
    -- an impossible date, time or zone has no instant, and no other text has none
    rw [timestampMicros_text, Stamp.instant?]
    cases s.reading? <;> cases s.zone.seconds? <;> simp
  -- under one zone the offset cancels, so instants are ordered as their readings
  ordered := by
    intro s t r r' n m hr hr' hzone hn hm
    rw [timestampMicros_text, instant?_eq_some] at hn hm
    obtain ⟨_, offset, hs, hoffset, rfl⟩ := hn
    obtain ⟨_, offset', ht, hoffset', rfl⟩ := hm
    obtain rfl := Option.some.inj (hs.symm.trans hr)
    obtain rfl := Option.some.inj (ht.symm.trans hr')
    obtain rfl := Option.some.inj (hoffset.symm.trans (hzone.trans hoffset'))
    rw [← Reading.micros_strictMono.lt_iff_lt, ← Reading.micros_strictMono.injective.eq_iff]
    omega
  -- the next date is one day number later, and the rest of the reading is the same
  nextDay := by
    intro s t r n hr hr' hzone hn
    rw [timestampMicros_text, instant?_eq_some] at hn ⊢
    obtain ⟨_, offset, hs, hoffset, rfl⟩ := hn
    obtain rfl := Option.some.inj (hs.symm.trans hr)
    refine ⟨_, offset, hr', hzone.trans hoffset, ?_⟩
    simp only [Reading.micros, Date.number_next]
    push_cast
    ring
  -- the same reading in UTC, shifted by the offset
  shifted := by
    intro s n offset hn hoffset
    rw [timestampMicros_text, instant?_eq_some] at hn ⊢
    obtain ⟨r, offset', hr, hoffset', rfl⟩ := hn
    obtain rfl := Option.some.inj (hoffset'.symm.trans hoffset)
    exact ⟨r, 0, hr, rfl, by ring⟩
  normalized := by
    intro text
    -- an unreadable text is refused, a readable one keeps its instant when it is normalized
    cases hmicros : timestampMicros (.str text) with
    | none => exact .inl ⟨rfl, _, rfc3339Timestamp_error hmicros⟩
    | some n =>
      obtain ⟨s, htext, hn⟩ := timestampMicros_eq_some.1 hmicros
      obtain rfl := Json.str.inj htext
      refine .inr ⟨s.normalized, rfc3339Timestamp_text (by rw [hn]; rfl), s.normalized_rfc3339,
        rfl, ?_⟩
      rw [timestampMicros_text, s.instant?_normalized, hn]
  spendable := by
    intro account input
    -- both instants must be there for the comparison to be made
    have hcompared : (match timestampMicros (input.get "asOf"),
          timestampMicros (account.get "credit_expires_at") with
        | some asOf, some expiresAt => decide (asOf < expiresAt)
        | _, _ => false) = true ↔
        ∃ asOf expiresAt, timestampMicros (input.get "asOf") = some asOf ∧
          timestampMicros (account.get "credit_expires_at") = some expiresAt ∧
          asOf < expiresAt := by
      cases timestampMicros (input.get "asOf") <;>
        cases timestampMicros (account.get "credit_expires_at") <;> simp
    simp only [subscriptionCreditsAreSpendable, Bool.and_eq_true, Bool.or_eq_true,
      decide_eq_true_eq, hcompared, timestampMicros_eq_some]
    constructor
    · rintro ⟨⟨⟨⟨haccount, hinput⟩, hactive⟩, hrevoked⟩, n, m, ⟨s, hs, hn⟩, ⟨t, ht, hm⟩, hlt⟩
      exact ⟨haccount, hinput, hactive, hrevoked, s, t, n, m, hs, ht, hn, hm, hlt⟩
    · rintro ⟨haccount, hinput, hactive, hrevoked, s, t, n, m, hs, ht, hn, hm, hlt⟩
      exact ⟨⟨⟨⟨haccount, hinput⟩, hactive⟩, hrevoked⟩, n, m, ⟨s, hs, hn⟩, ⟨t, ht, hm⟩, hlt⟩
  epoch timestamp epochSeconds := by
    rw [timestampEqualsEpoch, decide_eq_true_eq, timestampMicros_eq_some]
  stored s t hs ht hsome := by
    -- equal stored texts are equal instants, and conversely within one form
    constructor
    · intro h
      rw [← timestampMicros_text, ← timestampMicros_text, h]
    · exact hs.eq ht hsome

-- an offset takes the leap day of 2024 back to the day before
example : timestampMicros (.str "2024-02-29 00:30:00.5+01:00") = some 1709163000500000 := by
  decide +kernel

end TypeScript

end StripeEntitlements
