import Conform.Json.Basic

/-! # Paths into a document

A path leads from the root of a document through array positions and object
keys.  The two kinds of segment are told apart in writing, but looking a path up
depends on the text of its segments alone: an index selects the member of that
name in an object, and a key that is a canonical decimal selects an item of an
array.  In the text of a path keys are joined by points and indices stand in
brackets, and a key that would not be read back as it stands is quoted inside
brackets.
-/
namespace Conform

inductive Segment where
  | index (position : Nat)
  | key (name : String)
deriving DecidableEq, Repr, Inhabited

/-- The number that a text writes in decimal without leading zeros, if a 64-bit
word holds it. -/
def canonicalIndex? (cs : List Char) : Option Nat :=
  if cs ≠ [] ∧ cs.all Char.isDigit ∧ (cs = ['0'] ∨ cs.head? ≠ some '0') then
    let n := cs.foldl (fun n c => 10 * n + (c.toNat - '0'.toNat)) 0
    if n < 0x10000000000000000 then some n else none
  else none

namespace Segment

def text : Segment → String
  | index n => toString n
  | key k => k

/-- The part of a container that the segment leads to. -/
def select? (s : Segment) : Json → Option Json
  | .array items =>
    match s with
    | index n => items[n]?
    | key k => (canonicalIndex? k.toList).bind fun n => items[n]?
  | .object members => Table.get? members s.text
  | _ => none

/-- Empty keys, keys with a point or a bracket, and keys of digits only are quoted. -/
def needsQuotes (name : List Char) : Bool :=
  name.isEmpty || name.any (fun c => c = '.' || c = '[' || c = ']') || name.all Char.isDigit

def escaped (name : List Char) : List Char :=
  name.flatMap fun c => if c = '"' ∨ c = '\\' then ['\\', c] else [c]

/-- The text that a segment adds to a path; a plain key is set off by a point
unless it comes first. -/
def textAfter (isFirst : Bool) : Segment → List Char
  | index n => '[' :: (toString n).toList ++ [']']
  | key k =>
    if needsQuotes k.toList then '[' :: '"' :: escaped k.toList ++ ['"', ']']
    else if isFirst then k.toList
    else '.' :: k.toList

end Segment

/-- The segments from the root on; the root itself has none. -/
abbrev Path := List Segment

namespace Path

def root : Path := []

def child (p : Path) (s : Segment) : Path := p ++ [s]

/-- The path without its last segment; the root has no parent. -/
def parent? (p : Path) : Option Path := if p.isEmpty then none else some p.dropLast

def lookup? : Path → Json → Option Json
  | [], v => some v
  | s :: rest, v => (s.select? v).bind (lookup? rest)

def rootText : String := "(root)"

def chars : Path → List Char
  | [] => rootText.toList
  | s :: rest => s.textAfter true ++ rest.flatMap (Segment.textAfter false)

def text (p : Path) : String := String.ofList p.chars

theorem lookup?_append (p q : Path) (v : Json) :
    lookup? (p ++ q) v = (lookup? p v).bind (lookup? q) := by
  induction p generalizing v with
  | nil => rfl
  | cons s rest ih =>
    simp only [List.cons_append, lookup?]
    cases s.select? v with
    | none => rfl
    | some w => exact ih w

theorem lookup?_child (p : Path) (s : Segment) (v : Json) :
    lookup? (p.child s) v = (lookup? p v).bind s.select? := by
  rw [child, lookup?_append]
  cases lookup? p v with
  | none => rfl
  | some w => simp [lookup?]

end Path
end Conform
