import Conform.Pattern.Escape

/-! # Parentheses

A parenthesis opens a group, which may have a name or flags of its own, or encloses
flags for the rest of the group around it.  Groups that look ahead or behind are no
patterns.
-/
namespace Conform.Pattern

def isNameStart (c : Char) : Bool := c = '_' || Unicode.alphabetic.contains c.toNat

def isNameChar (c : Char) : Bool :=
  c = '_' || c = '.' || c = '[' || c = ']' || Unicode.alphanumeric.contains c.toNat

def readName? (cs : List Char) : Option (List Char × List Char) := do
  let (name, rest) ← splitAtChar? '>' cs
  match name with
  | [] => none
  | c :: more =>
    guard (isNameStart c && more.all isNameChar)
    return (name, rest)

def flag? (c : Char) : Option Flag :=
  if c = 'i' then some .ignoreCase
  else if c = 'm' then some .multiLine
  else if c = 's' then some .dotAll
  else if c = 'U' then some .swapGreed
  else if c = 'u' then some .unicode
  else if c = 'R' then some .carriageReturn
  else if c = 'x' then some .verbose
  else none

/-- Flags as far as they have been read. -/
structure FlagReading where
  changes : FlagChanges
  negated : Bool
  dangling : Bool

/-- Take one flag or the single minus; no flag may be repeated. -/
def FlagReading.step? (r : FlagReading) (c : Char) : Option FlagReading := do
  if c = '-' then
    guard (!r.negated)
    return { r with negated := true, dangling := true }
  else
    let f ← flag? c
    guard (r.changes.all fun change => change.1 ≠ f)
    return { r with changes := r.changes ++ [(f, !r.negated)], dangling := false }

/-- Read flags up to the colon or parenthesis after them, which is returned. -/
def readFlags? (cs : List Char) : Option (FlagReading × Char × List Char) := do
  match cs.span fun c => c ≠ ':' && c ≠ ')' with
  | (flags, mark :: rest) =>
    let r ← flags.foldlM FlagReading.step? ⟨[], false, false⟩
    guard (!r.dangling)
    return (r, mark, rest)
  | (_, []) => none

inductive Opening where
  | group (changes : FlagChanges)
  | named (name : List Char)
  | directive (changes : FlagChanges)

def readOpening? (verbose : Bool) (cs : List Char) : Option (Opening × List Char) :=
  match skip verbose cs with
  | '?' :: '=' :: _ | '?' :: '!' :: _ | '?' :: '<' :: '=' :: _ | '?' :: '<' :: '!' :: _ => none
  | '?' :: 'P' :: '<' :: rest => (readName? rest).map fun (name, rest) => (.named name, rest)
  | '?' :: '<' :: rest => (readName? rest).map fun (name, rest) => (.named name, rest)
  | '?' :: rest => do
    let (r, mark, rest) ← readFlags? rest
    if mark = ':' then return (.group r.changes, rest)
    else
      guard (!r.changes.isEmpty)
      return (.directive r.changes, rest)
  | rest => some (.group [], rest)

end Conform.Pattern
