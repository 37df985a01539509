/-! # Tokens of JSON text

The text is scanned once from left to right.  A token is a mark, a quoted string
with its escapes undone, or a word: a longest run of characters that are
neither blank, mark nor quote.  Words are told apart later.
-/
namespace Conform.Json

/-- A character of a string, or a code unit that was written as `\uXXXX`. -/
inductive TextUnit where
  | char (c : Char)
  | code (n : Nat)
deriving DecidableEq, Repr

namespace TextUnit

def ofEscape? (c : Char) : Option Char :=
  if c = '"' ∨ c = '\\' ∨ c = '/' then some c
  else if c = 'b' then some '\x08'
  else if c = 'f' then some '\x0c'
  else if c = 'n' then some '\n'
  else if c = 'r' then some '\r'
  else if c = 't' then some '\t'
  else none

def hexValue? (c : Char) : Option Nat :=
  if '0' ≤ c ∧ c ≤ '9' then some (c.toNat - '0'.toNat)
  else if 'a' ≤ c ∧ c ≤ 'f' then some (c.toNat - 'a'.toNat + 10)
  else if 'A' ≤ c ∧ c ≤ 'F' then some (c.toNat - 'A'.toNat + 10)
  else none

def hexNumber? (cs : List Char) : Option Nat :=
  cs.foldlM (fun n c => (16 * n + ·) <$> hexValue? c) 0

/-- Undo the escapes of a string body; control characters must be escaped. -/
def decode? : List Char → Option (List TextUnit)
  | [] => some []
  | '\\' :: 'u' :: a :: b :: c :: d :: rest => do
    let n ← hexNumber? [a, b, c, d]
    let units ← decode? rest
    return code n :: units
  | '\\' :: e :: rest => do
    let c ← ofEscape? e
    let units ← decode? rest
    return char c :: units
  | c :: rest => do
    guard (0x20 ≤ c.toNat)
    let units ← decode? rest
    return char c :: units

def isLeading (n : Nat) : Bool := 0xD800 ≤ n && n < 0xDC00

def isTrailing (n : Nat) : Bool := 0xDC00 ≤ n && n < 0xE000

/-- Join the code units of surrogate pairs; a unit without its partner is refused. -/
def join? : List TextUnit → Option (List Char)
  | [] => some []
  | char c :: rest => do
    let cs ← join? rest
    return c :: cs
  | code n :: rest =>
    if isTrailing n then none
    else if isLeading n then
      match rest with
      | code m :: rest => do
        guard (isTrailing m)
        let cs ← join? rest
        return Char.ofNat (0x10000 + (n - 0xD800) * 0x400 + (m - 0xDC00)) :: cs
      | _ => none
    else do
      let cs ← join? rest
      return Char.ofNat n :: cs

end TextUnit

inductive Token where
  | openArray
  | closeArray
  | openObject
  | closeObject
  | comma
  | colon
  | string (units : List TextUnit)
  | word (text : List Char)
deriving DecidableEq, Repr

namespace Token

def ofMark? (c : Char) : Option Token :=
  if c = '[' then some openArray
  else if c = ']' then some closeArray
  else if c = '{' then some openObject
  else if c = '}' then some closeObject
  else if c = ',' then some comma
  else if c = ':' then some colon
  else none

def isBlank (c : Char) : Bool := c = ' ' || c = '\t' || c = '\n' || c = '\r'

/-- Where the scan stands; texts are collected in reverse. -/
inductive Place where
  | between
  | inWord (text : List Char)
  | inString (body : List Char)
  | inEscape (body : List Char)

/-- A scan in progress, its tokens in reverse. -/
structure Scan where
  place : Place
  tokens : List Token

/-- Take a character outside of strings, all earlier tokens being complete. -/
def beginAt (tokens : List Token) (c : Char) : Scan :=
  if isBlank c then ⟨.between, tokens⟩
  else if c = '"' then ⟨.inString [], tokens⟩
  else match ofMark? c with
    | some mark => ⟨.between, mark :: tokens⟩
    | none => ⟨.inWord [c], tokens⟩

def endsWord (c : Char) : Bool := isBlank c || c = '"' || (ofMark? c).isSome

def step (s : Scan) (c : Char) : Option Scan :=
  match s.place with
  | .between => some (beginAt s.tokens c)
  | .inWord text =>
    if endsWord c then some (beginAt (word text.reverse :: s.tokens) c)
    else some ⟨.inWord (c :: text), s.tokens⟩
  | .inString body =>
    if c = '"' then do
      let units ← TextUnit.decode? body.reverse
      return ⟨.between, string units :: s.tokens⟩
    else if c = '\\' then some ⟨.inEscape (c :: body), s.tokens⟩
    else some ⟨.inString (c :: body), s.tokens⟩
  | .inEscape body => some ⟨.inString (c :: body), s.tokens⟩

def finish (s : Scan) : Option (List Token) :=
  match s.place with
  | .between => some s.tokens.reverse
  | .inWord text => some (word text.reverse :: s.tokens).reverse
  | .inString _ | .inEscape _ => none

def scan? (cs : List Char) : Option (List Token) :=
  cs.foldlM step ⟨.between, []⟩ >>= finish

end Token
end Conform.Json
