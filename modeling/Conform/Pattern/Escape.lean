import Conform.Pattern.Blank
import Conform.Pattern.Term

/-! # Escapes

A backslash gives the character after it another meaning, or takes one away.  What
an escape stands for may be a literal, a position, or a class.
-/
namespace Conform.Pattern

def hexValue? (c : Char) : Option Nat :=
  if c.isDigit then some (c.toNat - '0'.toNat)
  else if 'a' ≤ c ∧ c ≤ 'f' then some (c.toNat - 'a'.toNat + 10)
  else if 'A' ≤ c ∧ c ≤ 'F' then some (c.toNat - 'A'.toNat + 10)
  else none

def isHex (c : Char) : Bool := (hexValue? c).isSome

def charOfHex? (digits : List Char) : Option Char :=
  let n := digits.foldl (fun n c => 16 * n + (hexValue? c).getD 0) 0
  if n.isValidChar then some (Char.ofNat n) else none

def takeHex? (verbose : Bool) : Nat → List Char → Option (List Char × List Char)
  | 0, cs => some ([], cs)
  | n + 1, c :: rest => do
    guard (isHex c)
    let (digits, rest) ← takeHex? verbose n (skip verbose rest)
    return (c :: digits, rest)
  | _ + 1, [] => none

inductive Primitive where
  | literal (c : Char) (isByte : Bool)
  | anchor (a : Anchor)
  | shorthand (negated : Bool) (kind : Shorthand)
  | property (negated : Bool) (p : Property)
deriving Repr

/-- Read the code of a character, in braces or with a fixed number of digits. -/
def readHex? (verbose : Bool) (width : Nat) (cs : List Char) :
    Option (Primitive × List Char) := do
  match skip verbose cs with
  | '{' :: cs =>
    let (digits, cs) := takeSpaced verbose isHex false cs
    guard (!digits.isEmpty)
    match cs with
    | '}' :: cs => return (.literal (← charOfHex? digits) false, skip verbose cs)
    | _ => none
  | cs =>
    let (digits, cs) ← takeHex? verbose width cs
    return (.literal (← charOfHex? digits) (width = 2), cs)

def splitAtChar? (mark : Char) (cs : List Char) : Option (List Char × List Char) :=
  match cs.span (· ≠ mark) with
  | (before, _ :: after) => some (before, after)
  | (_, []) => none

/-- Split at the first place where `!=` is written. -/
def splitAtUnequal? : List Char → Option (List Char × List Char)
  | '!' :: '=' :: after => some ([], after)
  | c :: rest => (splitAtUnequal? rest).map fun (before, after) => (c :: before, after)
  | [] => none

/-- A property between braces.  A name and a value may be joined by any of three
signs, which all mean the same. -/
def propertyOf (text : List Char) : Property :=
  let parts := (splitAtUnequal? text).or ((splitAtChar? ':' text).or (splitAtChar? '=' text))
  match parts with
  | some (name, value) => .valued name value
  | none => .named text

def readProperty? (verbose negated : Bool) (cs : List Char) :
    Option (Primitive × List Char) :=
  match skip verbose cs with
  | '{' :: cs =>
    match takeSpaced verbose (· ≠ '}') false cs with
    | (text, _ :: cs) => some (.property negated (propertyOf text), cs)
    | (_, []) => none
  | '\\' :: _ => none
  | c :: cs => some (.property negated (.named [c]), skip verbose cs)
  | [] => none

def isMeta (c : Char) : Bool := "\\.+*?()|[]\x7b\x7d^$#&-~".toList.contains c

def isEscapable (c : Char) : Bool :=
  isMeta c || (c.toNat < 0x80 && !c.isAlphanum && c ≠ '<' && c ≠ '>')

def controlChar? (c : Char) : Option Char :=
  if c = 'a' then some '\x07'
  else if c = 'f' then some '\x0c'
  else if c = 't' then some '\t'
  else if c = 'n' then some '\n'
  else if c = 'r' then some '\r'
  else if c = 'v' then some '\x0b'
  else none

def wordAnchor? (name : List Char) : Option Anchor :=
  if name = "start".toList then some .wordStart
  else if name = "end".toList then some .wordEnd
  else if name = "start-half".toList then some .wordStartHalf
  else if name = "end-half".toList then some .wordEndHalf
  else none

/-- Read what follows a word edge: the name of a special one in braces, unless
the brace opens a repetition. -/
def readWordEdge? (verbose : Bool) (cs : List Char) : Option (Primitive × List Char) :=
  match cs with
  | '{' :: inner =>
    let isNameChar (c : Char) : Bool := c.isAlpha || c = '-'
    match skip verbose inner with
    | [] => none
    | c :: rest =>
      if isNameChar c then
        match takeSpaced verbose isNameChar false (c :: rest) with
        | (name, '}' :: after) => (wordAnchor? name).map fun a => (.anchor a, after)
        | _ => none
      else some (.anchor .wordEdge, cs)
  | _ => some (.anchor .wordEdge, cs)

def readEscape? (verbose : Bool) : List Char → Option (Primitive × List Char)
  | [] => none
  | c :: rest =>
    if c = 'x' then readHex? verbose 2 rest
    else if c = 'u' then readHex? verbose 4 rest
    else if c = 'U' then readHex? verbose 8 rest
    else if c = 'p' then readProperty? verbose false rest
    else if c = 'P' then readProperty? verbose true rest
    else if c = 'd' then some (.shorthand false .digit, rest)
    else if c = 'D' then some (.shorthand true .digit, rest)
    else if c = 's' then some (.shorthand false .space, rest)
    else if c = 'S' then some (.shorthand true .space, rest)
    else if c = 'w' then some (.shorthand false .word, rest)
    else if c = 'W' then some (.shorthand true .word, rest)
    else if isEscapable c then some (.literal c false, rest)
    else if c = 'A' then some (.anchor .textStart, rest)
    else if c = 'z' then some (.anchor .textEnd, rest)
    else if c = 'b' then readWordEdge? verbose rest
    else if c = 'B' then some (.anchor .notWordEdge, rest)
    else if c = '<' then some (.anchor .wordStart, rest)
    else if c = '>' then some (.anchor .wordEnd, rest)
    else (controlChar? c).map fun c => (.literal c false, rest)

def Primitive.toTerm : Primitive → Term
  | literal c isByte => .literal c isByte
  | anchor a => .anchor a
  | shorthand negated kind => .class (.shorthand negated kind)
  | property negated p => .class (.property negated p)

/-- Anchors are no members of a class. -/
def Primitive.toClass? : Primitive → Option ClassTerm
  | literal c _ => some (.literal c)
  | anchor _ => none
  | shorthand negated kind => some (.shorthand negated kind)
  | property negated p => some (.property negated p)

end Conform.Pattern
