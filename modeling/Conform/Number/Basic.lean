import Conform.Number.Shortest

/-! # Numbers of a document

A number is an integer or a double, and stays what its literal made it.  Two
integers are equal when they are the same; every other comparison is made on the
doubles nearest to the operands.

A literal is an optional minus, a whole part without leading zeros, an optional
fraction and an optional exponent.  A literal with neither of the last two is an
integer if a 64-bit word holds it; all others are doubles, computed from a
64-bit significand by one multiplication or division by a power of ten.
-/
namespace Conform

inductive Number where
  | integer (value : Int)
  | double (value : Double)
deriving DecidableEq, Repr

namespace Number

def toDouble : Number → Double
  | integer n => .ofInt n
  | double d => d

def equal : Number → Number → Bool
  | integer m, integer n => m = n
  | a, b => Double.equal a.toDouble b.toDouble

def compare (a b : Number) : Ordering := Double.compare a.toDouble b.toDouble

def isIntegral : Number → Bool
  | integer _ => true
  | double d => d.isIntegral

def isZero : Number → Bool
  | integer n => n = 0
  | double d => d.isZero

def text : Number → String
  | integer n => toString n
  | double d => d.text

@[simp] theorem equal_integer (m n : Int) : equal (integer m) (integer n) = decide (m = n) := rfl

theorem equal_self (a : Number) : equal a a = true := by
  cases a <;> simp [equal, Double.equal, Double.compare_self]

theorem equal_comm (a b : Number) : equal a b = equal b a := by
  cases a <;> cases b <;> simp [equal, Double.equal_comm, eq_comm]

/-- A number as written, its parts being lists of decimal digits. -/
structure Literal where
  negative : Bool
  whole : List Nat
  fraction : Option (List Nat)
  exponent : Option (Bool × List Nat)
deriving DecidableEq, Repr

namespace Literal

def digitValue (c : Char) : Nat := c.toNat - '0'.toNat

def splitDigits (cs : List Char) : List Nat × List Char :=
  ((cs.takeWhile Char.isDigit).map digitValue, cs.dropWhile Char.isDigit)

/-- A whole part is a single zero or starts with another digit. -/
def isWhole : List Nat → Bool
  | [] => false
  | [_] => true
  | d :: _ => d ≠ 0

def splitFraction : List Char → Option (Option (List Nat) × List Char)
  | '.' :: cs =>
    match splitDigits cs with
    | ([], _) => none
    | (digits, rest) => some (some digits, rest)
  | cs => some (none, cs)

def splitSign : List Char → Bool × List Char
  | '+' :: cs => (false, cs)
  | '-' :: cs => (true, cs)
  | cs => (false, cs)

def splitExponent : List Char → Option (Option (Bool × List Nat) × List Char)
  | [] => some (none, [])
  | c :: cs =>
    if c = 'e' ∨ c = 'E' then
      let (negative, cs) := splitSign cs
      match splitDigits cs with
      | ([], _) => none
      | (digits, rest) => some (some (negative, digits), rest)
    else some (none, c :: cs)

def parse? (cs : List Char) : Option Literal := do
  let (negative, cs) := match cs with
    | '-' :: rest => (true, rest)
    | _ => (false, cs)
  let (whole, cs) := splitDigits cs
  guard (isWhole whole)
  let (fraction, cs) ← splitFraction cs
  let (exponent, cs) ← splitExponent cs
  guard cs.isEmpty
  return { negative, whole, fraction, exponent }

/-- One past the largest significand that is collected, `2^64`. -/
def wordLimit : Nat := 0x10000000000000000

/-- Append digits to a significand until the next one would not fit; the result
holds the significand, the number of digits taken and of digits left. -/
def collect (significand : Nat) : List Nat → Nat × Nat × Nat
  | [] => (significand, 0, 0)
  | d :: rest =>
    let next := significand * 10 + d
    if next < wordLimit then
      let (s, taken, left) := collect next rest
      (s, taken + 1, left)
    else (significand, 0, rest.length + 1)

def digitsValue (digits : List Nat) : Nat := digits.foldl (fun n d => n * 10 + d) 0

/-- The largest power of ten in one step of scaling. -/
def maxStep : Nat := 308

/-- Divide by `10^n` in steps of at most `10^308`. -/
def scaleDown (d : Double) (n : Nat) : Double :=
  if n ≤ maxStep then d.div (.ofNat (Nat.pow 10 n))
  else if d.isZero then d
  else scaleDown (d.div (.ofNat (Nat.pow 10 maxStep))) (n - maxStep)
termination_by n
decreasing_by simp only [maxStep] at *; omega

/-- The double of `significand · 10^exponent`, refused when it is too large. -/
def scale (significand : Nat) (exponent : Int) : Option Double :=
  let d := Double.ofNat significand
  match exponent with
  | .negSucc n => some (scaleDown d (n + 1))
  | .ofNat n =>
    if d.isZero then some d
    else if maxStep < n then none
    else
      let scaled := d.mul (.ofNat (Nat.pow 10 n))
      if scaled.overflows then none else some scaled

/-- The number that a literal denotes, unless it is too large for a double. -/
def value? (l : Literal) : Option Number := do
  let (whole, _, dropped) := collect 0 l.whole
  if l.fraction.isNone && l.exponent.isNone && dropped = 0 then
    if !l.negative then return .integer whole
    else if 0 < whole ∧ 2 * whole ≤ wordLimit then return .integer (-whole)
    else return .double (Double.ofNat whole).neg
  else
    let (significand, taken, _) := collect whole (l.fraction.getD [])
    let written : Int := match l.exponent with
      | none => 0
      | some (true, digits) => -(digitsValue digits : Int)
      | some (false, digits) => digitsValue digits
    let magnitude ← scale significand (written + dropped - taken)
    return .double (if l.negative then magnitude.neg else magnitude)

end Literal

/-- Read a number literal. -/
def parse? (cs : List Char) : Option Number := Literal.parse? cs >>= Literal.value?

end Number
end Conform
