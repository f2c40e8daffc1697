import Mathlib.Data.List.Basic

/-!
# JSON Values

The decoded JSON that Stripe Events carry, read with the operations Python has for it:
`dict.get`, `isinstance`, truthiness, identity with `True`, and `str()`. Python `bool` is
kept apart from `int`, as `type(value) is int` does.
-/

namespace StripeEntitlements

/-- A decoded JSON value. An object keeps its members in source order; `get` reads the
    first member of a name. -/
inductive Json where
  | null
  | bool (value : Bool)
  | int (value : Int)
  /-- `mantissa * 10 ^ exponent`. -/
  | float (mantissa exponent : Int)
  | str (value : String)
  | arr (items : List Json)
  | obj (members : List (String × Json))

namespace Json

/-- `value.get(key)` of a mapping; anything else has no members. -/
def get (value : Json) (key : String) : Json :=
  match value with
  | .obj members => (members.lookup key).getD .null
  | _ => .null

/-- `key in value`. -/
def has (value : Json) (key : String) : Bool :=
  match value with
  | .obj members => (members.lookup key).isSome
  | _ => false

def isNull : Json → Bool
  | .null => true
  | _ => false

/-- `isinstance(value, Mapping)`. -/
def isObj : Json → Bool
  | .obj _ => true
  | _ => false

def asStr : Json → Option String
  | .str s => some s
  | _ => none

/-- `value if type(value) is int else None`. -/
def asInt : Json → Option Int
  | .int n => some n
  | _ => none

def asBool : Json → Option Bool
  | .bool b => some b
  | _ => none

/-- `value is True`. -/
def isTrue : Json → Bool
  | .bool true => true
  | _ => false

/-- `isinstance(value, list)`. -/
def asArr : Json → Option (List Json)
  | .arr items => some items
  | _ => none

/-- `bool(value)`. -/
def truthy : Json → Bool
  | .null => false
  | .bool b => b
  | .int n => n ≠ 0
  | .float mantissa _ => mantissa ≠ 0
  | .str s => s ≠ ""
  | .arr items => !items.isEmpty
  | .obj members => !members.isEmpty

/-- `hash(value)` raises for lists and dicts. -/
def hashable : Json → Bool
  | .arr _ | .obj _ => false
  | _ => true

/-- The message of the `TypeError` that `hash(value)` raises. -/
def unhashableType : Json → String
  | .arr _ => "unhashable type: 'list'"
  | _ => "unhashable type: 'dict'"

/-- `str(value)`. The text of a list or dict is not spelled out. -/
def text : Json → String
  | .null => "None"
  | .bool true => "True"
  | .bool false => "False"
  | .int n => toString n
  | .float mantissa exponent => s!"{mantissa}e{exponent}"
  | .str s => s
  | .arr _ => "[...]"
  | .obj _ => "\x7b...\x7d"

mutual

/-- `==` on decoded values; member order does not matter. Python equates numbers across
    types; the comparisons of this program are between values of one type. -/
def beq : Json → Json → Bool
  | .null, .null => true
  | .bool a, .bool b => a = b
  | .int a, .int b => a = b
  | .float m e, .float m' e' => m = m' && e = e'
  | .str a, .str b => a = b
  | .arr xs, .arr ys => beqItems xs ys
  | .obj xs, .obj ys =>
      xs.length = ys.length && beqMembers xs (.obj ys) && ys.all fun m => (obj xs).has m.1
  | _, _ => false

def beqItems : List Json → List Json → Bool
  | [], [] => true
  | x :: xs, y :: ys => beq x y && beqItems xs ys
  | _, _ => false

def beqMembers : List (String × Json) → Json → Bool
  | [], _ => true
  | (key, x) :: xs, other => other.has key && beq x (other.get key) && beqMembers xs other

end

end Json

end StripeEntitlements
