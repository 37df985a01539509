import Conform.Pattern.Bracket
import Conform.Pattern.Opening

/-! # Reading patterns

A pattern is read from left to right, and the groups that are still open are kept on
a stack.  A repetition applies to the term before it.  Reading goes on only while
the text gets shorter.
-/
namespace Conform.Pattern

/-- One more than the largest count of a repetition, `2^32`. -/
def countLimit : Nat := 0x100000000

def readCount? (verbose : Bool) (cs : List Char) : Option (Nat × List Char) := do
  let (digits, cs) := takeSpaced verbose Char.isDigit false (cs.dropWhile isBlank)
  guard (!digits.isEmpty)
  let n := digits.foldl (fun n c => 10 * n + (c.toNat - '0'.toNat)) 0
  guard (n < countLimit)
  return (n, cs.dropWhile isBlank)

/-- The mark of reluctance after a repetition, if there is one. -/
def dropReluctance : List Char → List Char
  | '?' :: rest => rest
  | cs => cs

/-- Read the largest count of a repetition, up to the closing brace: it equals the
smallest one if there is no comma, and is missing if nothing follows the comma. -/
def readMax? (verbose : Bool) (min : Nat) : List Char → Option (Option Nat × List Char)
  | ',' :: cs =>
    match skip verbose cs with
    | '}' :: rest => some (none, '}' :: rest)
    | cs => (readCount? verbose cs).map fun (max, rest) => (some max, rest)
  | cs => some (some min, cs)

def readCounts? (verbose : Bool) (cs : List Char) :
    Option (Nat × Option Nat × List Char) := do
  let (min, cs) ← readCount? verbose (skip verbose cs)
  let (max, cs) ← readMax? verbose min cs
  match cs with
  | '}' :: rest =>
    guard (max.all (min ≤ ·))
    return (min, max, dropReluctance (skip verbose rest))
  | _ => none

def sequenceOf : List Term → Term
  | [] => .empty
  | [t] => t
  | ts => .concat ts.reverse

/-- The alternatives read so far and the terms of the last one, in reverse. -/
structure Branches where
  earlier : List Term
  terms : List Term

namespace Branches

def start : Branches := ⟨[], []⟩

def push (b : Branches) (t : Term) : Branches := { b with terms := t :: b.terms }

def next (b : Branches) : Branches := ⟨sequenceOf b.terms :: b.earlier, []⟩

def toTerm (b : Branches) : Term :=
  match b.earlier with
  | [] => sequenceOf b.terms
  | earlier => .alternate (sequenceOf b.terms :: earlier).reverse

/-- Repeat the last term; there must be one to repeat. -/
def repeatLast? (b : Branches) (min : Nat) (max : Option Nat) : Option Branches :=
  match b.terms with
  | [] | .flags _ :: _ | .empty :: _ => none
  | t :: rest => some { b with terms := .repeat t min max :: rest }

end Branches

/-- A group that is still open: its flags, what precedes it, and whether the
text around it is verbose. -/
structure OpenGroup where
  changes : FlagChanges
  outer : Branches
  verbose : Bool

structure Reading where
  stack : List OpenGroup
  current : Branches
  verbose : Bool
  names : List (List Char)

namespace Reading

def start : Reading := ⟨[], .start, false, []⟩

def push (r : Reading) (t : Term) : Reading := { r with current := r.current.push t }

def openGroup (r : Reading) (changes : FlagChanges) : Reading where
  stack := ⟨changes, r.current, r.verbose⟩ :: r.stack
  current := .start
  verbose := (changes.lookup .verbose).getD r.verbose
  names := r.names

def closeGroup? (r : Reading) : Option Reading :=
  match r.stack with
  | [] => none
  | g :: stack => some {
      stack := stack
      current := g.outer.push (.group g.changes r.current.toTerm)
      verbose := g.verbose
      names := r.names }

def repeated? (r : Reading) (min : Nat) (max : Option Nat) : Option Reading :=
  (r.current.repeatLast? min max).map fun b => { r with current := b }

/-- Take the next part of a pattern. -/
def step? (r : Reading) : List Char → Option (Reading × List Char)
  | [] => none
  | c :: rest =>
    if c = '(' then do
      match ← readOpening? r.verbose rest with
      | (.group changes, rest) => return (r.openGroup changes, rest)
      | (.named name, rest) =>
        guard (!r.names.contains name)
        return ({ r with names := name :: r.names }.openGroup [], rest)
      | (.directive changes, rest) =>
        let verbose := (changes.lookup .verbose).getD r.verbose
        return ({ r with verbose := verbose }.push (.flags changes), rest)
    else if c = ')' then do return (← r.closeGroup?, rest)
    else if c = '|' then some ({ r with current := r.current.next }, rest)
    else if c = '[' then do
      let (t, rest) ← readClass? r.verbose rest
      return (r.push (.class t), rest)
    else if c = '?' then do return (← r.repeated? 0 (some 1), dropReluctance rest)
    else if c = '*' then do return (← r.repeated? 0 none, dropReluctance rest)
    else if c = '+' then do return (← r.repeated? 1 none, dropReluctance rest)
    else if c = '{' then do
      let (min, max, rest) ← readCounts? r.verbose rest
      return (← r.repeated? min max, rest)
    else if c = '\\' then do
      let (p, rest) ← readEscape? r.verbose rest
      return (r.push p.toTerm, rest)
    else if c = '.' then some (r.push .dot, rest)
    else if c = '^' then some (r.push (.anchor .lineStart), rest)
    else if c = '$' then some (r.push (.anchor .lineEnd), rest)
    else some (r.push (.literal c false), rest)

def run? (r : Reading) (cs : List Char) : Option Term :=
  match skip r.verbose cs with
  | [] => if r.stack.isEmpty then some r.current.toTerm else none
  | rest =>
    match r.step? rest with
    | none => none
    | some (next, rest) => if rest.length < cs.length then next.run? rest else none
termination_by cs.length

end Reading

def maxHeight : Nat := 250

def Term.parse? (text : String) : Option Term :=
  (Reading.start.run? text.toList).filter fun t => t.height ≤ maxHeight

end Conform.Pattern
