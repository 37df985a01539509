import Conform.Unicode.Property

/-! # Regular expressions

An expression is matched by following sets of positions: from the positions at
which a match may start it yields those at which one may end.  A set of
positions is a number whose bits are its members, so that a character set moves
all of its positions by one shift, and a text of `n` characters has `n + 1`
positions.  Every expression therefore ends on every text.
-/
namespace Conform.Pattern

inductive Look where
  | textStart
  | textEnd
  | lineStart (withReturn : Bool)
  | lineEnd (withReturn : Bool)
  | wordEdge (unicode : Bool)
  | notWordEdge (unicode : Bool)
  | wordStart (unicode : Bool)
  | wordEnd (unicode : Bool)
  | wordStartHalf (unicode : Bool)
  | wordEndHalf (unicode : Bool)
deriving DecidableEq, Repr

inductive Regex where
  | empty
  | set (s : CharSet)
  | look (l : Look)
  | seq (first second : Regex)
  | alt (left right : Regex)
  | repeat (r : Regex) (min : Nat) (max : Option Nat)
deriving Repr, Inhabited

/-- The characters of words where Unicode is off. -/
def asciiWord : CharSet := ⟨[(0x30, 0x39), (0x41, 0x5A), (0x5F, 0x5F), (0x61, 0x7A)]⟩

def isWordChar (unicode : Bool) (c : Char) : Bool :=
  (if unicode then Unicode.wordChar else asciiWord).contains c.toNat

def Look.holds (l : Look) (before after : Option Char) : Bool :=
  let word (unicode : Bool) (c : Option Char) : Bool := c.any (isWordChar unicode)
  match l with
  | textStart => before.isNone
  | textEnd => after.isNone
  | lineStart false => before.isNone || before = some '\n'
  | lineEnd false => after.isNone || after = some '\n'
  | lineStart true =>
    before.isNone || before = some '\n' || (before = some '\r' && after ≠ some '\n')
  | lineEnd true =>
    after.isNone || after = some '\r' || (after = some '\n' && before ≠ some '\r')
  | wordEdge u => word u before != word u after
  | notWordEdge u => word u before == word u after
  | wordStart u => !word u before && word u after
  | wordEnd u => word u before && !word u after
  | wordStartHalf u => !word u before
  | wordEndHalf u => !word u after

/-- Positions in a text, as the bits of a number. -/
abbrev Positions := Nat

def allPositions (length : Nat) : Positions := Nat.pow 2 (length + 1) - 1

def positionsBefore (s : CharSet) : List Char → Positions
  | [] => 0
  | c :: rest => 2 * positionsBefore s rest + (if s.contains c.toNat then 1 else 0)

/-- The positions at which a condition holds, the character before the text
being given. -/
def positionsWhere (l : Look) (before : Option Char) : List Char → Positions
  | [] => if l.holds before none then 1 else 0
  | c :: rest =>
    2 * positionsWhere l (some c) rest + (if l.holds before (some c) then 1 else 0)

/-- Apply a step a number of times, unless nothing changes any more. -/
def iterate (f : Positions → Positions) : Nat → Positions → Positions
  | 0, s => s
  | n + 1, s => if f s = s then s else iterate f n (f s)

/-- Apply a step at most a number of times, keeping all positions on the way. -/
def upTo (f : Positions → Positions) : Nat → Positions → Positions
  | 0, s => s
  | n + 1, s => if s ||| f s = s then s else upTo f n (s ||| f s)

/-- An expression on a given text: its character sets and conditions have become
sets of positions. -/
inductive Route where
  | stay (on : Positions)
  | step (before : Positions)
  | seq (first second : Route)
  | alt (left right : Route)
  | repeat (r : Route) (min : Nat) (max : Option Nat)

def Route.ends (length : Nat) : Route → Positions → Positions
  | stay on, starts => starts &&& on
  | step before, starts => (starts &&& before) <<< 1
  | seq r₁ r₂, starts => ends length r₂ (ends length r₁ starts)
  | alt r₁ r₂, starts => ends length r₁ starts ||| ends length r₂ starts
  | .repeat r min max, starts =>
    let required := iterate (ends length r) min starts
    match max with
    | some max => upTo (ends length r) (max - min) required
    | none => upTo (ends length r) (length + 1) required

namespace Regex

def route (text : List Char) : Regex → Route
  | empty => .stay (allPositions text.length)
  | set s => .step (positionsBefore s text)
  | look l => .stay (positionsWhere l none text)
  | seq r₁ r₂ => .seq (route text r₁) (route text r₂)
  | alt r₁ r₂ => .alt (route text r₁) (route text r₂)
  | .repeat r min max => .repeat (route text r) min max

def isMatch (r : Regex) (text : String) : Bool :=
  let cs := text.toList
  (r.route cs).ends cs.length (allPositions cs.length) ≠ 0

end Regex
end Conform.Pattern
