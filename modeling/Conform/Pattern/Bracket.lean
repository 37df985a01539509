import Conform.Pattern.Escape

/-! # Bracketed classes

A bracket holds characters, ranges, escapes, named sets and further brackets, which
are joined unless one of the set operators stands between them.  The brackets that
are still open are kept on a stack, and reading goes on only while the text gets
shorter.
-/
namespace Conform.Pattern

def posixTable : List (String × List (Nat × Nat)) := [
  ("alnum", [(0x30, 0x39), (0x41, 0x5A), (0x61, 0x7A)]),
  ("alpha", [(0x41, 0x5A), (0x61, 0x7A)]),
  ("ascii", [(0x00, 0x7F)]),
  ("blank", [(0x09, 0x09), (0x20, 0x20)]),
  ("cntrl", [(0x00, 0x1F), (0x7F, 0x7F)]),
  ("digit", [(0x30, 0x39)]),
  ("graph", [(0x21, 0x7E)]),
  ("lower", [(0x61, 0x7A)]),
  ("print", [(0x20, 0x7E)]),
  ("punct", [(0x21, 0x2F), (0x3A, 0x40), (0x5B, 0x60), (0x7B, 0x7E)]),
  ("space", [(0x09, 0x0D), (0x20, 0x20)]),
  ("upper", [(0x41, 0x5A)]),
  ("word", [(0x30, 0x39), (0x41, 0x5A), (0x5F, 0x5F), (0x61, 0x7A)]),
  ("xdigit", [(0x30, 0x39), (0x41, 0x46), (0x61, 0x66)])]

/-- Read a named set such as `[:alpha:]`, after its bracket. -/
def readPosix? : List Char → Option (ClassTerm × List Char)
  | ':' :: cs => do
    let (negated, cs) := match cs with
      | '^' :: cs => (true, cs)
      | cs => (false, cs)
    let (name, cs) := cs.span (· ≠ ':')
    match cs with
    | ':' :: ']' :: rest =>
      let ranges ← posixTable.lookup (String.ofList name)
      return (.posix negated ranges, rest)
    | _ => none
  | _ => none

def readClassItem? (verbose : Bool) : List Char → Option (Primitive × List Char)
  | [] => none
  | '\\' :: rest => readEscape? verbose rest
  | c :: rest => some (.literal c false, rest)

def readClassRange? (verbose : Bool) (cs : List Char) : Option (ClassTerm × List Char) := do
  let (first, cs) ← readClassItem? verbose cs
  let cs := skip verbose cs
  match cs with
  | [] => none
  | '-' :: after =>
    let next := peekSpaced verbose cs
    if next = some ']' ∨ next = some '-' then return (← first.toClass?, cs)
    else
      let (last, rest) ← readClassItem? verbose (skip verbose after)
      match first, last with
      | .literal a _, .literal b _ => if a ≤ b then return (.range a b, rest) else none
      | _, _ => none
  | _ => return (← first.toClass?, cs)

/-- A class that is still open: its negation, the items of the class around it,
and the operation whose right side is being read. -/
structure OpenClass where
  negated : Bool
  outer : List ClassTerm
  pending : Option (SetOperator × ClassTerm)

def classOfItems : List ClassTerm → ClassTerm
  | [item] => item
  | items => .union items.reverse

/-- The operands read so far, with the pending operation carried out. -/
def OpenClass.complete (o : OpenClass) (items : List ClassTerm) : ClassTerm :=
  match o.pending with
  | none => classOfItems items
  | some (op, left) => .operation op left (classOfItems items)

/-- Read what opens a class after its bracket: a negation, and hyphens or a
closing bracket that stand for themselves. -/
def openClass? (verbose : Bool) (cs : List Char) :
    Option (Bool × List ClassTerm × List Char) := do
  let (negated, cs) := match skip verbose cs with
    | '^' :: cs => (true, skip verbose cs)
    | cs => (false, cs)
  let (hyphens, cs) := takeSpaced verbose (· = '-') false cs
  let items := hyphens.map ClassTerm.literal
  match cs with
  | [] => none
  | ']' :: rest =>
    if items.isEmpty then
      let rest := skip verbose rest
      if rest.isEmpty then none else some (negated, [.literal ']'], rest)
    else some (negated, items, cs)
  | cs => some (negated, items, cs)

inductive ClassStep where
  | more (stack : List OpenClass) (items : List ClassTerm) (rest : List Char)
  | done (c : ClassTerm) (rest : List Char)

def setOperator? : List Char → Option (SetOperator × List Char)
  | '&' :: '&' :: rest => some (.intersection, rest)
  | '-' :: '-' :: rest => some (.difference, rest)
  | '~' :: '~' :: rest => some (.symmetricDifference, rest)
  | _ => none

/-- Take one step inside the classes of a stack, the items of the innermost one
being collected in reverse. -/
def classStep? (verbose : Bool) (stack : List OpenClass) (items : List ClassTerm)
    (cs : List Char) : Option ClassStep := do
  match stack, skip verbose cs with
  | _, [] | [], _ => none
  | top :: below, '[' :: rest =>
    match readPosix? rest with
    | some (c, rest) => return .more stack (c :: items) rest
    | none =>
      let (negated, inner, rest) ← openClass? verbose rest
      return .more (⟨negated, items, none⟩ :: top :: below) inner rest
  | top :: below, ']' :: rest =>
    let c := ClassTerm.bracket top.negated (top.complete items)
    if below.isEmpty then return .done c rest else return .more below (c :: top.outer) rest
  | top :: below, cs =>
    match setOperator? cs with
    | some (op, rest) =>
      return .more ({ top with pending := some (op, top.complete items) } :: below) [] rest
    | none =>
      let (c, rest) ← readClassRange? verbose cs
      return .more stack (c :: items) rest

def readClassFrom? (verbose : Bool) (stack : List OpenClass) (items : List ClassTerm)
    (cs : List Char) : Option (ClassTerm × List Char) :=
  match classStep? verbose stack items cs with
  | none => none
  | some (.done c rest) => some (c, rest)
  | some (.more stack items rest) =>
    if rest.length < cs.length then readClassFrom? verbose stack items rest else none
termination_by cs.length

def readClass? (verbose : Bool) (cs : List Char) : Option (ClassTerm × List Char) := do
  let (negated, items, rest) ← openClass? verbose cs
  readClassFrom? verbose [⟨negated, [], none⟩] items rest

end Conform.Pattern
