import Conform.Number.Basic
import Conform.Table

/-! # JSON values

Objects keep their members in order.  Equality is structural, numbers being
equal by value and objects regardless of the order of their members; an order
exists between two numbers and between two strings only.
-/
namespace Conform

inductive Json where
  | null
  | bool (value : Bool)
  | number (value : Number)
  | string (value : String)
  | array (items : List Json)
  | object (members : List (String × Json))
deriving Repr, Inhabited

namespace Json

def string? : Json → Option String
  | string s => some s
  | _ => none

def number? : Json → Option Number
  | number n => some n
  | _ => none

def isNull : Json → Bool
  | null => true
  | _ => false

def isBoolean : Json → Bool
  | bool _ => true
  | _ => false

def isNumber : Json → Bool
  | number _ => true
  | _ => false

def isString : Json → Bool
  | string _ => true
  | _ => false

def isArray : Json → Bool
  | array _ => true
  | _ => false

def isObject : Json → Bool
  | object _ => true
  | _ => false

/-- A number without a fractional part. -/
def isInteger : Json → Bool
  | number n => n.isIntegral
  | _ => false

/-- Any other number. -/
def isDecimal (v : Json) : Bool := v.isNumber && !v.isInteger

/-- Empty and zero values count as unset, containers as set. -/
def isTruthy : Json → Bool
  | null => false
  | bool b => b
  | number n => !n.isZero
  | string s => s ≠ ""
  | array _ | object _ => true

mutual

def equal : Json → Json → Bool
  | null, null => true
  | bool a, bool b => a = b
  | number a, number b => Number.equal a b
  | string a, string b => a = b
  | array xs, array ys => equalItems xs ys
  | object xs, object ys => xs.length = ys.length && membersWithin xs ys
  | _, _ => false
termination_by structural a => a

/-- Items are equal in pairs, and equally many. -/
def equalItems : List Json → List Json → Bool
  | [], [] => true
  | x :: xs, y :: ys => equal x y && equalItems xs ys
  | _, _ => false
termination_by structural xs => xs

/-- Every member occurs in the second list with an equal value. -/
def membersWithin : List (String × Json) → List (String × Json) → Bool
  | [], _ => true
  | (key, x) :: xs, ys =>
    (match Table.get? ys key with
      | some y => equal x y
      | none => false) && membersWithin xs ys
termination_by structural xs => xs

end

def compare? : Json → Json → Option Ordering
  | number a, number b => some (Number.compare a b)
  | string a, string b => some (Ord.compare a b)
  | _, _ => none

end Json
end Conform
