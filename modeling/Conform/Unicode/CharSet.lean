/-! # Sets of code points

A set is a list of closed ranges in ascending order with a gap between any two.
Tables of ranges are written in hexadecimal, `A-B` standing for a range and
`A-B/S` for every `S`-th code point of it.
-/
namespace Conform

structure CharSet where
  ranges : List (Nat × Nat)
deriving DecidableEq, Repr, Inhabited

namespace CharSet

def maxCode : Nat := 0x10FFFF

def empty : CharSet := ⟨[]⟩

def full : CharSet := ⟨[(0, maxCode)]⟩

/-- Join ranges that overlap or touch, the first being given apart and the others in
ascending order of their starts. -/
def coalesce (lo hi : Nat) : List (Nat × Nat) → List (Nat × Nat)
  | [] => [(lo, hi)]
  | (lo', hi') :: rest =>
    if lo' ≤ hi + 1 then coalesce lo (max hi hi') rest else (lo, hi) :: coalesce lo' hi' rest

def ofRanges (ranges : List (Nat × Nat)) : CharSet :=
  match (ranges.filter fun r => r.1 ≤ r.2).mergeSort fun a b => a.1 ≤ b.1 with
  | [] => empty
  | (lo, hi) :: rest => ⟨coalesce lo hi rest⟩

def singleton (code : Nat) : CharSet := ⟨[(code, code)]⟩

/-- One of the ranges, which are in ascending order, holds the code point. -/
def holds (code : Nat) : List (Nat × Nat) → Bool
  | [] => false
  | (lo, hi) :: rest => if code ≤ hi then lo ≤ code else holds code rest

def contains (s : CharSet) (code : Nat) : Bool := holds code s.ranges

def union (s t : CharSet) : CharSet := ofRanges (s.ranges ++ t.ranges)

/-- The gaps between ranges, from a code point on. -/
def gaps (start : Nat) : List (Nat × Nat) → List (Nat × Nat)
  | [] => if start ≤ maxCode then [(start, maxCode)] else []
  | (lo, hi) :: rest =>
    if start < lo then (start, lo - 1) :: gaps (hi + 1) rest else gaps (hi + 1) rest

def complement (s : CharSet) : CharSet := ⟨gaps 0 s.ranges⟩

def inter (s t : CharSet) : CharSet := (s.complement.union t.complement).complement

def diff (s t : CharSet) : CharSet := s.inter t.complement

def symmDiff (s t : CharSet) : CharSet := (s.diff t).union (t.diff s)

def unions (sets : List CharSet) : CharSet := ofRanges (sets.flatMap ranges)

def isBelow (bound : Nat) (s : CharSet) : Bool := s.ranges.all fun r => r.2 < bound

/-- A table that is being read: its finished entries, the numbers before the last one
of the entry in progress, all in reverse, and that last number. -/
structure TableReading where
  entries : List (List Nat)
  numbers : List Nat
  current : Option Nat

namespace TableReading

def start : TableReading := ⟨[], [], none⟩

def digit? (c : Char) : Option Nat :=
  if c.isDigit then some (c.toNat - '0'.toNat)
  else if 'A' ≤ c ∧ c ≤ 'F' then some (c.toNat - 'A'.toNat + 10)
  else none

/-- The end of an entry, if one is in progress. -/
def endEntry (r : TableReading) : TableReading :=
  match r.current with
  | some n => ⟨(n :: r.numbers).reverse :: r.entries, [], none⟩
  | none => r

/-- Take a digit, a blank after an entry, or a mark between its numbers. -/
def step (r : TableReading) (c : Char) : TableReading :=
  match digit? c with
  | some d => { r with current := some (16 * r.current.getD 0 + d) }
  | none =>
    if c.isWhitespace then r.endEntry
    else { r with numbers := r.current.getD 0 :: r.numbers, current := none }

end TableReading

def readEntries (table : String) : List (List Nat) :=
  (table.toList.foldl TableReading.step TableReading.start).endEntry.entries.reverse

def rangesOfEntry : List Nat → List (Nat × Nat)
  | [code] => [(code, code)]
  | [lo, hi] => [(lo, hi)]
  | [lo, hi, step] =>
    (List.range ((hi - lo) / step + 1)).map fun i => (lo + i * step, lo + i * step)
  | _ => []

def ofTable (table : String) : CharSet := ofRanges ((readEntries table).flatMap rangesOfEntry)

end CharSet
end Conform
