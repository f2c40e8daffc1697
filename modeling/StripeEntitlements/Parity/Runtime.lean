import Mathlib.Algebra.Order.Group.Unbundled.Int
import StripeEntitlements.Catalog

/-!
# Two Runtimes

The policies exist twice, in Python and in TypeScript, and read the same JSON. What the two
languages do with a value of an unexpected type differs: Python raises for a list that it
looks up in a set and takes `0` for `False`; TypeScript compares by identity.
-/

namespace StripeEntitlements

/-! ## JSON both runtimes decode alike -/

/-- `Number.MAX_SAFE_INTEGER`. -/
def maxSafeInteger : Int := 9007199254740991

namespace Json

mutual

/-- Every number in the value is a safe integer without fraction or exponent. -/
def safe : Json → Bool
  | .int n => -maxSafeInteger ≤ n && n ≤ maxSafeInteger
  | .float _ _ => false
  | .arr items => safeItems items
  | .obj members => safeMembers members
  | _ => true

def safeItems : List Json → Bool
  | [] => true
  | x :: xs => safe x && safeItems xs

def safeMembers : List (String × Json) → Bool
  | [] => true
  | (_, x) :: xs => safe x && safeMembers xs

end

theorem safe_lookup {members : List (String × Json)} {key : String} {v : Json}
    (h : safeMembers members = true) (hv : members.lookup key = some v) : v.safe = true := by
  induction members with
  | nil => cases hv
  | cons member rest ih =>
    obtain ⟨name, x⟩ := member
    rw [safeMembers, Bool.and_eq_true] at h
    rw [List.lookup_cons] at hv
    split at hv
    · cases hv
      exact h.1
    · exact ih h.2 hv

/-- The members of a safe value are safe. -/
theorem safe_get {v : Json} (h : v.safe = true) (key : String) : (v.get key).safe = true := by
  cases v with
  | obj members =>
    rw [safe] at h
    change ((members.lookup key).getD .null).safe = true
    cases hv : members.lookup key with
    | none => rfl
    | some x => exact safe_lookup h hv
  | _ => rfl

end Json

/-! ## Python -/

namespace Python

/-- A policy reads its argument with `.get`, which only a mapping has. -/
def onMapping {α : Type} (value : Json) (policy : Transaction α) : Transaction α :=
  if value.isObj then policy else .error (.attributeError "object has no attribute 'get'")

theorem onMapping_eq_ok {α : Type} {value : Json} {policy : Transaction α} {a : α} :
    onMapping value policy = .ok a ↔ value.isObj = true ∧ policy = .ok a := by
  unfold onMapping
  split
  case isTrue h => simp [h]
  case isFalse h => simp [h]

end Python

/-! ## TypeScript -/

namespace TypeScript

/-- `isAbsent`: undefined or null. -/
def isAbsent (value : Json) : Bool := value.isNull

/-- `typeof value === "number" && Number.isSafeInteger(value)`, of a number that is written
    as an integer. -/
def safeInteger : Json → Option Int
  | .int n => if -maxSafeInteger ≤ n ∧ n ≤ maxSafeInteger then some n else none
  | _ => none

def isExplicitZero (value : Json) : Bool := safeInteger value = some 0

/-- `ownValueOrDefault(value, field, fallback) === fallback` for a text. -/
def ownValueOrDefault (value : Json) (field fallback : String) : Bool :=
  !value.has field || (value.get field).asStr = some fallback

/-- Absent, or the expected text. -/
def isAbsentOr (value : Json) (expected : String) : Bool :=
  isAbsent value || value.asStr = some expected

/-- An integer of a safe value is a safe integer. -/
theorem safeInteger_eq {v : Json} (h : v.safe = true) : safeInteger v = v.asInt := by
  cases v with
  | int n =>
    simp only [Json.safe, Bool.and_eq_true, decide_eq_true_eq] at h
    exact if_pos h
  | _ => rfl

theorem safeInteger_eq_some {v : Json} {n : Int} (h : safeInteger v = some n) :
    safeInteger (.int n) = some n := by
  cases v with
  | int m =>
    have hm : m = n := by
      simp only [safeInteger, Option.ite_none_right_eq_some, Option.some.injEq] at h
      exact h.2
    exact hm ▸ h
  | _ => cases h

theorem isExplicitZero_eq {v : Json} (h : v.safe = true) :
    (isAbsent v || isExplicitZero v) = v.isZeroOrNull := by
  rw [isExplicitZero, safeInteger_eq h, isAbsent, Json.isZeroOrNull]

/-- A membership test that Python answers is the comparison of TypeScript. -/
theorem isNullOr_eq {v : Json} {expected : String} :
    v.isNullOr expected = if v.hashable then .ok (isAbsentOr v expected) else
      .error (.typeError v.unhashableType) := rfl

/-- TypeScript refuses what Python cannot look up. -/
theorem isAbsentOr_hashable {v : Json} {expected : String} (h : isAbsentOr v expected = true) :
    v.hashable = true := by
  cases v <;> first | rfl | cases h

end TypeScript

end StripeEntitlements
