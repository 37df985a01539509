import Conform.Pattern.Regex

/-! # The size of compiled patterns

A compiled pattern has a state of 32 bytes for every byte that a match may take.
A character set beyond ASCII is compiled to a tree over the encodings of its code
points: a first byte and up to three continuation bytes of six bits each.  Ranges
that agree in their first bytes share the branch.
-/
namespace Conform.Pattern

/-- How many code points a subtree over a number of continuation bytes holds. -/
def blockSize : Nat → Nat
  | 0 => 1
  | n + 1 => 64 * blockSize n

/-- The branches of a range of code points whose encodings have a given number of
continuation bytes.  Whole blocks are taken together, and a block that is cut is
divided further. -/
def branches : Nat → Nat → Nat → List (List (Nat × Nat))
  | 0, lo, hi => [[(lo, hi)]]
  | n + 1, lo, hi =>
    let block := blockSize (n + 1)
    let a := lo / block
    let b := hi / block
    let cut (head first last : Nat) := (branches n first last).map ((head, head) :: ·)
    if a = b then cut a (lo % block) (hi % block)
    else
      let start := if lo % block = 0 then a else a + 1
      let stop := if hi % block = block - 1 then b + 1 else b
      (if start = a then [] else cut a (lo % block) (block - 1)) ++
      (if start < stop then [(start, stop - 1) :: List.replicate (n + 1) (0, 63)] else []) ++
      (if stop = b then cut b 0 (hi % block) else [])

def codesOfLength : Nat → List (Nat × Nat)
  | 0 => [(0, 0x7F)]
  | 1 => [(0x80, 0x7FF)]
  | 2 => [(0x800, 0xD7FF), (0xE000, 0xFFFF)]
  | _ => [(0x10000, 0x10FFFF)]

def clip (bounds : List (Nat × Nat)) (ranges : List (Nat × Nat)) : List (Nat × Nat) :=
  ranges.flatMap fun r => bounds.filterMap fun bound =>
    let lo := max r.1 bound.1
    let hi := min r.2 bound.2
    if lo ≤ hi then some (lo, hi) else none

def commonLength : List (Nat × Nat) → List (Nat × Nat) → Nat
  | x :: xs, y :: ys => if x = y then commonLength xs ys + 1 else 0
  | _, _ => 0

/-- The states of a tree of branches in ascending order, of which the last one before
them is given. -/
def treeStates (previous : List (Nat × Nat)) : List (List (Nat × Nat)) → Nat
  | [] => 0
  | b :: rest => b.length - commonLength previous b + treeStates b rest

def setSize (s : CharSet) : Nat :=
  match s.ranges with
  | [(lo, hi)] =>
    if lo = hi then 32 * (String.singleton (Char.ofNat lo)).utf8ByteSize else treeSize
  | _ => if s.isBelow 0x80 then 64 + 8 * s.ranges.length else treeSize
where
  /-- The size of the tree of the set. -/
  treeSize : Nat :=
    [0, 1, 2, 3].foldl (fun total n =>
      let bs := (clip (codesOfLength n) s.ranges).flatMap fun r => branches n r.1 r.2
      total + 32 * treeStates [] bs + 4 * bs.length) 64

namespace Regex

def isZeroWidth : Regex → Bool
  | empty | look _ => true
  | set _ => false
  | seq r₁ r₂ | alt r₁ r₂ => isZeroWidth r₁ && isZeroWidth r₂
  | .repeat r _ max => isZeroWidth r || max = some 0

/-- The size of a compiled expression in bytes, with a state for each branching.
What consumes nothing is not compiled more than once. -/
def size : Regex → Nat
  | empty => 32
  | set s => setSize s
  | look _ => 32
  | seq r₁ r₂ => size r₁ + size r₂
  | alt r₁ r₂ => size r₁ + size r₂ + 4
  | .repeat r min max =>
    if isZeroWidth r then size r + 40
    else
      match max with
      | some max => min * size r + (max - min) * (size r + 40)
      | none => Nat.max min 1 * size r + 40

end Regex
end Conform.Pattern
