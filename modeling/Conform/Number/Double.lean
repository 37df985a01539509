/-! # Binary floating-point values

A double is kept as exact data: a sign, a significand and a power of two.  Every
operation forms its exact rational result first and rounds it once, to the
nearest representable value with a half going to the even significand.
-/
namespace Conform

/-- The value `±significand · 2^exponent`; zero keeps its sign. -/
structure Double where
  negative : Bool
  significand : Nat
  exponent : Int
deriving DecidableEq, Repr

/-- A quotient rounded to the nearest natural number, a half to the even one. -/
def roundQuotient (num den : Nat) : Nat :=
  let q := num / den
  let r := num % den
  if 2 * r < den then q
  else if den < 2 * r then q + 1
  else q + q % 2

theorem roundQuotient_lower (num den : Nat) : num / den ≤ roundQuotient num den := by
  unfold roundQuotient
  dsimp only
  split <;> try split
  all_goals omega

theorem roundQuotient_upper (num den : Nat) : roundQuotient num den ≤ num / den + 1 := by
  unfold roundQuotient
  dsimp only
  split <;> try split
  all_goals omega

/-- The largest `k` with `2^k ≤ num / den`, for positive operands. -/
def floorLog2 (num den : Nat) : Int :=
  let k : Int := (num.log2 : Int) - (den.log2 : Int)
  if den * Nat.pow 2 k.toNat ≤ num * Nat.pow 2 (-k).toNat then k else k - 1

namespace Double

def minExponent : Int := -1074

def maxExponent : Int := 971

/-- The smallest significand of full precision, `2^52`. -/
def leastNormal : Nat := 0x10000000000000

def zero (negative : Bool) : Double := ⟨negative, 0, minExponent⟩

/-- The double nearest to `±num / den`.  The exponent is not bounded above, so
that an overflow can be told from the result. -/
def ofRatio (negative : Bool) (num den : Nat) : Double :=
  if num = 0 then zero negative
  else
    let e := max (floorLog2 num den - 52) minExponent
    let m := roundQuotient (num * Nat.pow 2 (-e).toNat) (den * Nat.pow 2 e.toNat)
    if m = 2 * leastNormal then ⟨negative, leastNormal, e + 1⟩ else ⟨negative, m, e⟩

def ofNat (n : Nat) : Double := ofRatio false n 1

def ofInt (n : Int) : Double := ofRatio (n < 0) n.natAbs 1

def isZero (d : Double) : Bool := d.significand = 0

def overflows (d : Double) : Bool := maxExponent < d.exponent

def neg (d : Double) : Double := { d with negative := !d.negative }

def mul (a b : Double) : Double :=
  let e := a.exponent + b.exponent
  ofRatio (a.negative != b.negative)
    (a.significand * b.significand * Nat.pow 2 e.toNat) (Nat.pow 2 (-e).toNat)

def div (a b : Double) : Double :=
  let e := a.exponent - b.exponent
  ofRatio (a.negative != b.negative)
    (a.significand * Nat.pow 2 e.toNat) (b.significand * Nat.pow 2 (-e).toNat)

/-- The value as a multiple of `2^e`, exact when `e` is at most the exponent. -/
def scaledTo (d : Double) (e : Int) : Int :=
  let m := d.significand * Nat.pow 2 (d.exponent - e).toNat
  if d.negative then -(m : Int) else m

/-- The order of the values; both zeros are equal. -/
def compare (a b : Double) : Ordering :=
  let e := min a.exponent b.exponent
  Ord.compare (a.scaledTo e) (b.scaledTo e)

def equal (a b : Double) : Bool := compare a b = .eq

def isIntegral (d : Double) : Bool :=
  d.significand % Nat.pow 2 (-d.exponent).toNat = 0

theorem compare_self (a : Double) : compare a a = .eq := by
  simp [compare]

theorem equal_comm (a b : Double) : equal a b = equal b a := by
  have h : (compare a b = .eq) ↔ (compare b a = .eq) := by
    unfold compare
    rw [Int.min_comm b.exponent a.exponent, Int.compare_eq_eq, Int.compare_eq_eq]
    exact eq_comm
  simp only [equal, h]

end Double
end Conform
