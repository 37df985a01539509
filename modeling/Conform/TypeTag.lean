import Conform.Json.Basic

/-! # Type tags

A tag names a class of values.  Integers are the numbers without a fractional
part, however they are written, and decimals are the other numbers.
-/
namespace Conform

inductive TypeTag where
  | string
  | number
  | integer
  | decimal
  | boolean
  | null
  | array
  | object
deriving DecidableEq, Repr

namespace TypeTag

def all : List TypeTag := [string, number, integer, decimal, boolean, null, array, object]

def name : TypeTag → String
  | string => "string"
  | number => "number"
  | integer => "integer"
  | decimal => "decimal"
  | boolean => "boolean"
  | null => "null"
  | array => "array"
  | object => "object"

def parse? (text : String) : Option TypeTag := all.find? fun tag => tag.name = text

/-- The value belongs to the class of the tag. -/
def admits : TypeTag → Json → Bool
  | string, .string _ => true
  | number, .number _ => true
  | integer, .number n => n.isIntegral
  | decimal, .number n => !n.isIntegral
  | boolean, .bool _ => true
  | null, .null => true
  | array, .array _ => true
  | object, .object _ => true
  | _, _ => false

def predicate : TypeTag → Json → Bool
  | string => Json.isString
  | number => Json.isNumber
  | integer => Json.isInteger
  | decimal => Json.isDecimal
  | boolean => Json.isBoolean
  | null => Json.isNull
  | array => Json.isArray
  | object => Json.isObject

/-- The test for the type that a text names; nothing if it names none. -/
def predicate? (text : String) : Option (Json → Bool) := (parse? text).map predicate

/-- The tags whose values can be bounded by numbers. -/
def isNumeric : TypeTag → Bool
  | number | integer | decimal => true
  | _ => false

def listing : String := String.intercalate ", " (all.map name)

theorem parse?_name (tag : TypeTag) : parse? tag.name = some tag := by
  cases tag <;> decide

theorem name_of_parse? {text : String} {tag : TypeTag} (h : parse? text = some tag) :
    tag.name = text := by
  simpa using List.find?_some h

end TypeTag

/-- The narrowest tag of a value. -/
def Json.tag : Json → TypeTag
  | .null => .null
  | .bool _ => .boolean
  | .number n => if n.isIntegral then .integer else .decimal
  | .string _ => .string
  | .array _ => .array
  | .object _ => .object

/-- A value belongs to its narrowest class, and to the numbers if that is numeric. -/
theorem TypeTag.admits_iff (tag : TypeTag) (v : Json) :
    tag.admits v = true ↔ tag = v.tag ∨ (tag = .number ∧ v.tag.isNumeric = true) := by
  cases v <;> cases tag <;> simp [admits, Json.tag, isNumeric]
  all_goals (split <;> simp_all)

/-- Whether a value has the type that a text names; nothing if it names none. -/
def Json.hasType? (tag : String) (v : Json) : Option Bool :=
  (TypeTag.parse? tag).map fun t => t.admits v

end Conform
