/-! # Patterns as written

A term is the structure of a pattern text, before flags and character classes
are given their meaning.
-/
namespace Conform.Pattern

inductive Flag where
  | ignoreCase
  | multiLine
  | dotAll
  | swapGreed
  | unicode
  | carriageReturn
  | verbose
deriving DecidableEq, Repr

/-- Flags that are switched on or off. -/
abbrev FlagChanges := List (Flag × Bool)

inductive Anchor where
  | lineStart
  | lineEnd
  | textStart
  | textEnd
  | wordEdge
  | notWordEdge
  | wordStart
  | wordEnd
  | wordStartHalf
  | wordEndHalf
deriving DecidableEq, Repr

inductive Shorthand where
  | digit
  | space
  | word
deriving DecidableEq, Repr

/-- A Unicode property, with a value if one is written. -/
inductive Property where
  | named (name : List Char)
  | valued (name value : List Char)
deriving DecidableEq, Repr

inductive SetOperator where
  | intersection
  | difference
  | symmetricDifference
deriving DecidableEq, Repr

inductive ClassTerm where
  | literal (c : Char)
  | range (first last : Char)
  | posix (negated : Bool) (ranges : List (Nat × Nat))
  | shorthand (negated : Bool) (kind : Shorthand)
  | property (negated : Bool) (p : Property)
  | bracket (negated : Bool) (body : ClassTerm)
  | union (items : List ClassTerm)
  | operation (op : SetOperator) (left right : ClassTerm)
deriving Repr, Inhabited

/-- The parts of a pattern.  A literal written as two hexadecimal digits stands for
a byte where Unicode is off.  Whether a repetition prefers more or less is left out,
because it does not decide whether a text matches. -/
inductive Term where
  | empty
  | flags (changes : FlagChanges)
  | literal (c : Char) (isByte : Bool)
  | dot
  | anchor (a : Anchor)
  | class (c : ClassTerm)
  | repeat (t : Term) (min : Nat) (max : Option Nat)
  | group (changes : FlagChanges) (t : Term)
  | concat (ts : List Term)
  | alternate (ts : List Term)
deriving Repr, Inhabited

mutual

/-- How deep brackets, sets and operators of a class nest. -/
def ClassTerm.height : ClassTerm → Nat
  | .bracket _ body => body.height + 1
  | .union items => if items.isEmpty then 0 else classHeight items + 1
  | .operation _ left right => max left.height right.height + 1
  | _ => 0
termination_by structural c => c

def classHeight : List ClassTerm → Nat
  | [] => 0
  | c :: rest => max c.height (classHeight rest)
termination_by structural cs => cs

end

mutual

def Term.height : Term → Nat
  | .class c =>
    match c with
    | .bracket .. => c.height
    | _ => 0
  | .repeat t _ _ => t.height + 1
  | .group _ t => t.height + 1
  | .concat ts => termHeight ts + 1
  | .alternate ts => termHeight ts + 1
  | _ => 0
termination_by structural t => t

def termHeight : List Term → Nat
  | [] => 0
  | t :: rest => max t.height (termHeight rest)
termination_by structural ts => ts

end

end Conform.Pattern
