import Conform.TypeTag

/-! # Conditions on a field

An operator compares a field of the input, which may be absent, with an operand,
which may be missing.  A rule adds something when its operator holds and
otherwise hands over to one alternative.  What is added is left open here.
-/
namespace Conform

inductive Operator where
  | equal
  | notEqual
  | greater
  | less
  | atLeast
  | atMost
  | typeOf
  | memberOf
deriving DecidableEq, Repr

namespace Operator

/-- Every text that names no other operator stands for membership. -/
def parse (text : String) : Operator :=
  if text = "=" then equal
  else if text = "!=" then notEqual
  else if text = ">" then greater
  else if text = "<" then less
  else if text = ">=" then atLeast
  else if text = "<=" then atMost
  else if text = "typeof" then typeOf
  else memberOf

/-- Absent values are equal to each other only. -/
def agrees : Option Json → Option Json → Bool
  | none, none => true
  | some a, some b => Json.equal a b
  | _, _ => false

def order? (field operand : Option Json) : Option Ordering := do
  let a ← field
  let b ← operand
  Json.compare? a b

def hasNamedType (field operand : Option Json) : Bool :=
  match field, operand.bind Json.string? with
  | some v, some tag => v.hasType? tag = some true
  | _, _ => false

def occursIn (field operand : Option Json) : Bool :=
  match field, operand with
  | some v, some (.array items) => items.any fun item => Json.equal item v
  | _, _ => false

def holds (op : Operator) (field operand : Option Json) : Bool :=
  match op with
  | equal => agrees field operand
  | notEqual => !agrees field operand
  | greater => order? field operand = some .gt
  | less => order? field operand = some .lt
  | atLeast => order? field operand = some .gt || order? field operand = some .eq
  | atMost => order? field operand = some .lt || order? field operand = some .eq
  | typeOf => hasNamedType field operand
  | memberOf => occursIn field operand

end Operator

/-- A rule with its two alternatives; without an operator it is inert. -/
structure Rule (α : Type) where
  operator : Option Operator
  operand : Option Json
  added : Option α
  elseIf : Option (Rule α)
  otherwise : Option (Rule α)

/-- The rules that look at one field of the input. -/
structure Block (α : Type) where
  field : String
  rules : List (Rule α)

namespace Rule
variable {α : Type}

/-- The first rule of the chain that holds.  The second alternative is consulted
only when there is no first, and an inert rule ends the chain. -/
def resolve? (field : Option Json) : Rule α → Option (Rule α)
  | ⟨none, _, _, _, _⟩ => none
  | ⟨some op, operand, added, elseIf, otherwise⟩ =>
    if op.holds field operand then some ⟨some op, operand, added, elseIf, otherwise⟩
    else
      match elseIf with
      | some next => next.resolve? field
      | none =>
        match otherwise with
        | some next => next.resolve? field
        | none => none

theorem resolve?_of_no_operator (field : Option Json) (r : Rule α) (h : r.operator = none) :
    r.resolve? field = none := by
  obtain ⟨_, _, _, _, _⟩ := r
  subst h
  rfl

end Rule

/-- What the rules of a block add, given the value of its field. -/
def Block.additions {α : Type} (b : Block α) (field : Option Json) : List α :=
  b.rules.filterMap fun rule => (rule.resolve? field).bind Rule.added

end Conform
