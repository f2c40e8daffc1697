import Mathlib.Data.Int.ConditionallyCompleteOrder
import Mathlib.Order.Monotone.Basic
import StripeEntitlements.Reference

/-!
# Adding Months

`timestamp + n months` keeps the day of the month, or takes the last one the month has. Either
way it stays in its month, so that more months come later.

## Main results

- `firstOfMonth_lt` — months follow each other
- `addCivilMonths_strictMono` — more months are later, from every instant on
-/

namespace StripeEntitlements

/-- The day number of the first day, `index` months after January of `year`. -/
def firstOfMonth (year : Int) (index : Nat) : Int :=
  daysFromCivil (year + (index / 12 : Nat)) (index % 12 + 1) 1

/-- The days of the years before one, in the count that starts in March. -/
private def yearDays (y : Int) : Int :=
  let era := y / 400
  era * 146097 + ((y - era * 400) * 365 + (y - era * 400) / 4 - (y - era * 400) / 100)

private theorem yearDays_succ (y : Int) : yearDays y + 365 ≤ yearDays (y + 1) := by
  unfold yearDays
  dsimp only
  omega

private theorem daysFromCivil_eq (year : Int) (month : Nat) :
    daysFromCivil year month 1 = yearDays (if month ≤ 2 then year - 1 else year) +
      (153 * ((month + 9) % 12 : Nat) + 2) / 5 - 719468 := by
  unfold daysFromCivil yearDays
  dsimp only
  omega

/-- A month is over before the next one begins. -/
theorem daysFromCivil_lt_next (year : Int) {month : Nat} (hpos : 1 ≤ month) (hle : month ≤ 12) :
    daysFromCivil year month 1 <
      daysFromCivil (if month = 12 then year + 1 else year) (month % 12 + 1) 1 := by
  rw [daysFromCivil_eq, daysFromCivil_eq]
  have hstep := yearDays_succ (year - 1)
  rw [sub_add_cancel] at hstep
  -- only from February on the year of the count is the next one
  by_cases hlast : month = 12
  · rw [if_pos hlast, hlast, add_sub_cancel_right]
    simp
  · rw [if_neg hlast]
    split_ifs
    all_goals omega

theorem firstOfMonth_succ (year : Int) (index : Nat) :
    firstOfMonth year (index + 1) = daysFromCivil
      (if index % 12 + 1 = 12 then year + (index / 12 : Nat) + 1 else year + (index / 12 : Nat))
      ((index % 12 + 1) % 12 + 1) 1 := by
  unfold firstOfMonth
  by_cases hlast : index % 12 + 1 = 12
  · rw [if_pos hlast, show (index + 1) / 12 = index / 12 + 1 by omega,
      show (index + 1) % 12 = (index % 12 + 1) % 12 by omega]
    push_cast
    rw [add_assoc]
  · rw [if_neg hlast, show (index + 1) / 12 = index / 12 by omega,
      show (index + 1) % 12 = (index % 12 + 1) % 12 by omega]

/-- **Months follow each other.** -/
theorem firstOfMonth_lt (year : Int) (index : Nat) :
    firstOfMonth year index < firstOfMonth year (index + 1) := by
  rw [firstOfMonth_succ]
  exact daysFromCivil_lt_next _ (Nat.le_add_left 1 _) (by omega)

theorem daysFromCivil_day (year : Int) (month day : Nat) :
    daysFromCivil year month day = daysFromCivil year month 1 + day - 1 := by
  unfold daysFromCivil
  dsimp only
  omega

/-- A day that is clipped to its month. -/
def clippedDay (year : Int) (index day : Nat) : Int :=
  firstOfMonth year index +
    (min day (firstOfMonth year (index + 1) - firstOfMonth year index).toNat : Nat) - 1

theorem clippedDay_lt (year : Int) (day index : Nat) :
    clippedDay year index day < clippedDay year (index + 1) day := by
  have hfirst := firstOfMonth_lt year index
  have hnext := firstOfMonth_lt year (index + 1)
  unfold clippedDay
  omega

theorem addCivilMonths_eq (instant : Int) (months : Nat) :
    addCivilMonths instant months =
      clippedDay (civilFromDays (instant / 86400000000)).1
          ((civilFromDays (instant / 86400000000)).2.1 - 1 + months)
          (civilFromDays (instant / 86400000000)).2.2 * 86400000000 + instant % 86400000000 := by
  unfold addCivilMonths
  dsimp only
  rw [daysFromCivil_day, clippedDay, firstOfMonth_succ]
  rfl

/-- **More months are later**, from every instant on. -/
theorem addCivilMonths_strictMono (instant : Int) : StrictMono (addCivilMonths instant) := by
  refine strictMono_nat_of_lt_succ fun months => ?_
  have hday := clippedDay_lt (civilFromDays (instant / 86400000000)).1
    (civilFromDays (instant / 86400000000)).2.2
    ((civilFromDays (instant / 86400000000)).2.1 - 1 + months)
  rw [addCivilMonths_eq, addCivilMonths_eq]
  rw [← Nat.add_assoc]
  omega

end StripeEntitlements
