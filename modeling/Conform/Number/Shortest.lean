import Conform.Number.Double

/-! # Shortest decimal text of a double

Among the decimals that read back as the double, the ones with the fewest digits
are sought on the decimal grids of one, two, … seventeen digits, and the nearest
of them is written.  Magnitudes from `10^-5` up to `10^16` are written
positionally with a point, all others with a signed exponent.
-/
namespace Conform.Double

/-- A positive decimal `digits · 10^exponent`. -/
structure Decimal where
  digits : Nat
  exponent : Int
deriving DecidableEq, Repr

def decimalDigits (n : Nat) : List Char := Nat.toDigits 10 n

/-- The largest `k` with `10^k ≤ significand · 2^exponent`.  No double is as
small as `10^-340`, so scaling by that power makes the question one of counting
digits. -/
def floorLog10 (d : Double) : Int :=
  let scaled :=
    d.significand * Nat.pow 2 d.exponent.toNat * Nat.pow 10 340 / Nat.pow 2 (-d.exponent).toNat
  (decimalDigits scaled).length - 341

/-- The multiples of a quarter of the last place between which every real rounds
to the double; below a power of two the spacing is halved. -/
def roundingInterval (d : Double) : Nat × Nat :=
  let m := 4 * d.significand
  if d.significand = leastNormal ∧ minExponent < d.exponent then (m - 1, m + 2) else (m - 2, m + 2)

/-- The nearest multiple of `10^k` that reads back as the double, if one of the
two neighbours does; a tie goes to the even one. -/
def nearestOnGrid (d : Double) (k : Int) : Option Nat :=
  let e := d.exponent - 2
  let gridUnit := Nat.pow 10 k.toNat * Nat.pow 2 (-e).toNat
  let binaryUnit := Nat.pow 2 e.toNat * Nat.pow 10 (-k).toNat
  let (low, high) := d.roundingInterval
  let value := 4 * d.significand * binaryUnit
  let reads (c : Nat) : Bool :=
    if d.significand % 2 = 0 then
      low * binaryUnit ≤ c * gridUnit && c * gridUnit ≤ high * binaryUnit
    else
      low * binaryUnit < c * gridUnit && c * gridUnit < high * binaryUnit
  let below := value / gridUnit
  let above := below + 1
  match reads below, reads above with
  | false, false => none
  | true, false => some below
  | false, true => some above
  | true, true =>
    let toBelow := value - below * gridUnit
    let toAbove := above * gridUnit - value
    if toBelow < toAbove then some below
    else if toAbove < toBelow then some above
    else if below % 2 = 0 then some below else some above

def firstGrid (d : Double) (top : Int) : List Nat → Decimal
  | [] => ⟨d.significand, 0⟩
  | n :: rest =>
    match d.nearestOnGrid (top - n) with
    | some c => ⟨c, top - n⟩
    | none => firstGrid d top rest

def shortest (d : Double) : Decimal := firstGrid d d.floorLog10 (List.range 17)

def significantDigits (c : Nat) : List Char :=
  ((decimalDigits c).reverse.dropWhile (· = '0')).reverse

def Decimal.magnitude (c : Decimal) : Int := c.exponent + (decimalDigits c.digits).length - 1

def positional (digits : List Char) (magnitude : Int) : List Char :=
  if magnitude < 0 then
    '0' :: '.' :: List.replicate (-magnitude - 1).toNat '0' ++ digits
  else
    let whole := magnitude.toNat + 1
    if digits.length ≤ whole then
      digits ++ List.replicate (whole - digits.length) '0' ++ ['.', '0']
    else digits.take whole ++ '.' :: digits.drop whole

def scientific (digits : List Char) (magnitude : Int) : List Char :=
  let mantissa := match digits with
    | [] => []
    | [c] => [c]
    | c :: rest => c :: '.' :: rest
  let sign := if magnitude < 0 then '-' else '+'
  mantissa ++ 'e' :: sign :: decimalDigits magnitude.natAbs

def text (d : Double) : String :=
  let magnitudeText :=
    if d.isZero then ['0', '.', '0']
    else
      let c := d.shortest
      let digits := significantDigits c.digits
      if -5 ≤ c.magnitude ∧ c.magnitude < 16 then positional digits c.magnitude
      else scientific digits c.magnitude
  String.ofList (if d.negative then '-' :: magnitudeText else magnitudeText)

end Conform.Double
