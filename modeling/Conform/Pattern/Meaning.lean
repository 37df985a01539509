import Conform.Pattern.Reader
import Conform.Pattern.Size
import Conform.Unicode.Age
import Conform.Unicode.Boundary
import Conform.Unicode.Folding

/-! # The meaning of patterns

The meaning of a term depends on the flags in force.  A directive changes them
for the rest of its group, alternatives included, and a group restores them at
its end.  Where Unicode is off, classes are made of ASCII characters, and a pattern
that could match a byte of a longer character is refused.
-/
namespace Conform.Pattern

structure Flags where
  ignoreCase : Bool := false
  multiLine : Bool := false
  dotAll : Bool := false
  unicode : Bool := true
  carriageReturn : Bool := false

def Flags.apply (f : Flags) : FlagChanges → Flags
  | [] => f
  | (flag, on) :: rest =>
    let f := match flag with
      | .ignoreCase => { f with ignoreCase := on }
      | .multiLine => { f with multiLine := on }
      | .dotAll => { f with dotAll := on }
      | .unicode => { f with unicode := on }
      | .carriageReturn => { f with carriageReturn := on }
      | .swapGreed | .verbose => f
    f.apply rest

namespace Flags

/-- A set with all cases of its members, if case does not matter. -/
def fold (f : Flags) (s : CharSet) : CharSet :=
  if !f.ignoreCase then s
  else if f.unicode then Unicode.foldClosure s
  else Unicode.asciiFoldClosure s

/-- A set that may be negated.  Where Unicode is off, the complement of a set would
have bytes beyond ASCII. -/
def negate? (f : Flags) (negated : Bool) (s : CharSet) : Option CharSet :=
  if !negated then some s else if f.unicode then some s.complement else none

/-- The code of a character of a class, which must be ASCII where Unicode is off. -/
def classCode? (f : Flags) (c : Char) : Option Nat :=
  if f.unicode || c.toNat < 0x80 then some c.toNat else none

def shorthand (f : Flags) : Shorthand → CharSet
  | .digit => if f.unicode then Unicode.decimalDigit else ⟨[(0x30, 0x39)]⟩
  | .space => if f.unicode then Unicode.whiteSpace else ⟨[(0x09, 0x0D), (0x20, 0x20)]⟩
  | .word => if f.unicode then Unicode.wordChar else asciiWord

def anchor (f : Flags) : Anchor → Look
  | .lineStart => if f.multiLine then .lineStart f.carriageReturn else .textStart
  | .lineEnd => if f.multiLine then .lineEnd f.carriageReturn else .textEnd
  | .textStart => .textStart
  | .textEnd => .textEnd
  | .wordEdge => .wordEdge f.unicode
  | .notWordEdge => .notWordEdge f.unicode
  | .wordStart => .wordStart f.unicode
  | .wordEnd => .wordEnd f.unicode
  | .wordStartHalf => .wordStartHalf f.unicode
  | .wordEndHalf => .wordEndHalf f.unicode

def dot? (f : Flags) : Option CharSet :=
  if !f.unicode then none
  else if f.dotAll then some .full
  else if f.carriageReturn then some (CharSet.ofRanges [(0x0A, 0x0A), (0x0D, 0x0D)]).complement
  else some (CharSet.singleton 0x0A).complement

/-- The set of a literal.  Only ASCII letters have cases where Unicode is off. -/
def literal? (f : Flags) (c : Char) (isByte : Bool) : Option CharSet :=
  if !f.unicode && isByte && 0x80 ≤ c.toNat then none
  else if !f.unicode && 0x80 ≤ c.toNat then some (.singleton c.toNat)
  else some (f.fold (.singleton c.toNat))

end Flags

/-- A property name without blanks, hyphens, underscores and a leading `is`, in
small letters. -/
def normalizeName (name : List Char) : String :=
  let (stripped, rest) := match name with
    | a :: b :: rest =>
      if (a = 'i' ∨ a = 'I') ∧ (b = 's' ∨ b = 'S') then (true, rest) else (false, name)
    | _ => (false, name)
  let isKept (c : Char) : Bool := c ≠ ' ' && c ≠ '_' && c ≠ '-' && c.toNat < 0x80
  let kept := (rest.filter isKept).map Char.toLower
  if stripped && kept = ['c'] then "isc" else String.ofList kept

/-- Names that mean a category though they are short for a property as well. -/
def isCategoryFirst (name : String) : Bool := name = "cf" || name = "sc" || name = "lc"

def Property.set? : Property → Option CharSet
  | .named name =>
    let name := normalizeName name
    let property := if isCategoryFirst name then none else Unicode.property? name
    property.or ((Unicode.category? name).or (Unicode.script? name))
  | .valued name value =>
    let name := normalizeName name
    let value := normalizeName value
    if name = "gc" ∨ name = "generalcategory" then Unicode.category? value
    else if name = "sc" ∨ name = "script" then Unicode.script? value
    else if name = "scx" ∨ name = "scriptextensions" then Unicode.extendedScript? value
    else if name = "age" then Unicode.age? value
    else if name = "gcb" ∨ name = "graphemeclusterbreak" then Unicode.graphemeBreak? value
    else if name = "wb" ∨ name = "wordbreak" then Unicode.wordBreak? value
    else if name = "sb" ∨ name = "sentencebreak" then Unicode.sentenceBreak? value
    else none

mutual

def ClassTerm.set? (f : Flags) : ClassTerm → Option CharSet
  | .literal c => CharSet.singleton <$> f.classCode? c
  | .range a b => do return ⟨[(← f.classCode? a, ← f.classCode? b)]⟩
  | .posix negated ranges => f.negate? negated (f.fold ⟨ranges⟩)
  | .shorthand negated kind => f.negate? negated (f.shorthand kind)
  | .property negated p => do
    guard f.unicode
    f.negate? negated (f.fold (← p.set?))
  | .bracket negated body => do f.negate? negated (f.fold (← body.set? f))
  | .union items => classUnion? f items
  | .operation op left right => do
    let a := f.fold (← left.set? f)
    let b := f.fold (← right.set? f)
    match op with
    | .intersection => return a.inter b
    | .difference => return a.diff b
    | .symmetricDifference => return a.symmDiff b
termination_by structural c => c

def classUnion? (f : Flags) : List ClassTerm → Option CharSet
  | [] => some .empty
  | c :: rest => do
    let s ← c.set? f
    return s.union (← classUnion? f rest)
termination_by structural cs => cs

end

mutual

/-- The expression that a term means under flags, with the flags after it. -/
def Term.regex? (f : Flags) : Term → Option (Regex × Flags)
  | .empty => some (.empty, f)
  | .flags changes => some (.empty, f.apply changes)
  | .literal c isByte => do return (.set (← f.literal? c isByte), f)
  | .dot => do return (.set (← f.dot?), f)
  | .anchor a => some (.look (f.anchor a), f)
  | .class c => do return (.set (← c.set? f), f)
  | .repeat t min max => do
    let (r, f) ← t.regex? f
    return (.repeat r min max, f)
  | .group changes t => do
    let (r, _) ← t.regex? (f.apply changes)
    return (r, f)
  | .concat ts => sequence? f ts
  | .alternate ts => alternatives? f ts
termination_by structural t => t

def sequence? (f : Flags) : List Term → Option (Regex × Flags)
  | [] => some (.empty, f)
  | t :: rest => do
    let (r, f) ← t.regex? f
    if rest.isEmpty then return (r, f)
    else
      let (rs, f) ← sequence? f rest
      return (.seq r rs, f)
termination_by structural ts => ts

/-- The flags at the end of one alternative hold at the start of the next. -/
def alternatives? (f : Flags) : List Term → Option (Regex × Flags)
  | [] => some (.set .empty, f)
  | t :: rest => do
    let (r, f) ← t.regex? f
    let (rs, f) ← alternatives? f rest
    return (.alt r rs, f)
termination_by structural ts => ts

end

/-- How much memory a compiled pattern may take, in bytes: ten mebibytes. -/
def maxSize : Nat := 10485760

/-- The expression that a pattern text stands for. -/
def parse? (text : String) : Option Regex := do
  let t ← Term.parse? text
  let (r, _) ← t.regex? {}
  guard (r.size ≤ maxSize)
  return r

def matcher? (text : String) : Option (String → Bool) := Regex.isMatch <$> parse? text

end Conform.Pattern
