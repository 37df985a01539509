import Conform.Extension
import Conform.Issue.Catalog

/-! # Checking an input

A check walks a schema and an input together and stops at the first issue that
is reported.  An absent value is checked too, against what is required.  Below
an enumeration the alternatives are tried in order: an issue of the data domain
only says that an alternative does not fit, while one of the schema domain ends
the check.

Validation is a check under a catalog.  The catalog decides which issues are
reported, and words each of them where it is raised.
-/
namespace Conform
variable {ε : Type} [Complaint ε]

def schemaIssue (code : IssueCode) (here : Path) (about : Annotations)
    (params : List (String × String) := []) : Issue :=
  ⟨.schema, code, here, params, about⟩

def dataIssue (code : IssueCode) (here : Path) (about : Annotations)
    (params : List (String × String) := []) : Issue :=
  ⟨.data, code, here, params, about⟩

/-- Check the type of a value; the tag is returned only if the value has it. -/
def checkTag (p : Policy) (name : String) (v : Json) (here : Path) (about : Annotations) :
    Except ε (Option TypeTag) :=
  match TypeTag.parse? name with
  | none => do
    p.raise (schemaIssue .typeof here about [("type", name), ("allowedTypes", TypeTag.listing)])
    return none
  | some tag =>
    if tag.admits v then return some tag
    else do
      p.raise (dataIssue .typeof here about [("type", name)])
      return none

def checkType (p : Policy) (name : String) (v : Json) (here : Path) : Except ε Unit := do
  let _ ← checkTag p name v here {}

def checkPattern (p : Policy) (pattern : Option String) (text : String) (here : Path)
    (about : Annotations) : Except ε Unit :=
  match pattern with
  | none => return
  | some source =>
    match p.matcher? source with
    | none => p.raise (schemaIssue .pattern here about [("pattern", source)])
    | some accepts =>
      if accepts text then return
      else p.raise (dataIssue .pattern here about [("pattern", source)])

/-- What a size counts: characters of a string or items of an array. -/
inductive Measure where
  | length
  | items
deriving DecidableEq, Repr

namespace Measure

def minCode : Measure → IssueCode
  | length => .minLength
  | items => .minItems

def maxCode : Measure → IssueCode
  | length => .maxLength
  | items => .maxItems

def vacuousCode : Measure → IssueCode
  | length => .minLengthMinimum
  | items => .minItemsMinimum

def min (l : Limits) : Measure → Option Json
  | length => l.minLength
  | items => l.minItems

def max (l : Limits) : Measure → Option Json
  | length => l.maxLength
  | items => l.maxItems

end Measure

/-- The number that a bound declares; anything else is an issue. -/
def readBound (p : Policy) (code : IssueCode) (bound : Option Json) (here : Path)
    (about : Annotations) : Except ε (Option Number) :=
  match bound with
  | none => return none
  | some (.number n) => return some n
  | some _ => do
    p.raise (schemaIssue code here about [("bound", code.name)])
    return none

/-- A lower bound that is not positive says nothing and is an issue. -/
def checkVacuous (p : Policy) (m : Measure) (bound : Option Number) (here : Path)
    (about : Annotations) : Except ε Unit :=
  match bound with
  | none => return
  | some n =>
    if n.compare (.integer 0) = .gt then return
    else p.raise (schemaIssue m.vacuousCode here about [("bound", m.minCode.name)])

/-- Check a number against one bound, which is violated by the given orders. -/
def checkBound (p : Policy) (code : IssueCode) (violates : Ordering → Bool) (n : Number)
    (bound : Option Number) (here : Path) (about : Annotations) : Except ε Unit :=
  match bound with
  | none => return
  | some b =>
    if violates (n.compare b) then p.raise (dataIssue code here about [(code.name, b.text)])
    else return

/-- Check a size: first that its bounds make sense, then that they are kept. -/
def checkSize (p : Policy) (m : Measure) (l : Limits) (size : Nat) (here : Path)
    (about : Annotations) : Except ε Unit := do
  let max ← readBound p m.maxCode (m.max l) here about
  let min ← readBound p m.minCode (m.min l) here about
  checkVacuous p m min here about
  checkBound p m.maxCode (· = .gt) (.integer size) max here about
  checkBound p m.minCode (· = .lt) (.integer size) min here about

def checkText (p : Policy) (l : Limits) (text : String) (here : Path) (about : Annotations) :
    Except ε Unit := do
  checkPattern p l.pattern text here about
  checkSize p .length l text.length here about

def checkRange (p : Policy) (l : Limits) (n : Number) (here : Path) (about : Annotations) :
    Except ε Unit := do
  checkBound p .minimum (· = .lt) n l.minimum here about
  checkBound p .maximum (· = .gt) n l.maximum here about
  checkBound p .exclusiveMinimum (· ≠ .gt) n l.exclusiveMinimum here about
  checkBound p .exclusiveMaximum (· ≠ .lt) n l.exclusiveMaximum here about

def checkEach (check : Json → Path → Except ε Unit) (here : Path) (position : Nat) :
    List Json → Except ε Unit
  | [] => return
  | v :: rest => do
    check v (here.child (.index position))
    checkEach check here (position + 1) rest

def checkKeys (p : Policy) (declared : Table Node) (here : Path) (about : Annotations) :
    List String → Except ε Unit
  | [] => return
  | key :: rest => do
    if !declared.contains key then
      p.raise (dataIssue .unexpectedKey (here.child (.key key)) about)
    checkKeys p declared here about rest

/-- Additional properties are admitted only where no table is declared. -/
def checkUnexpected (p : Policy) (additional : Bool) (properties : Properties)
    (ms : Table Json) (here : Path) (about : Annotations) : Except ε Unit :=
  match properties.table? with
  | some declared => checkKeys p declared here about ms.keys
  | none => if additional then return else checkKeys p [] here about ms.keys

def hasLiteral (members : List Member) (input : Option Json) : Bool :=
  match input with
  | none => false
  | some v => members.any fun member =>
    match member with
    | .literal literal => Json.equal literal v
    | _ => false

/-- Check an enumeration, given how its alternatives are tried. -/
def checkEnumWith (p : Policy) (members : List Member) (input : Option Json) (here : Path)
    (inEnum : Bool) (about : Annotations) (tryMembers : Unit → Except ε Unit) :
    Except ε Unit := do
  if inEnum then p.raise (schemaIssue .nestedEnum here about)
  if hasLiteral members input then return
  tryMembers ()

def checkProperties (p : Policy) (properties : Properties) (here : Path) (about : Annotations) :
    Except ε Unit :=
  match properties with
  | .malformed _ => p.raise (schemaIssue .properties here about)
  | _ => return

/-- Check that a value is present where it is required and has no default. -/
def checkPresence (p : Policy) (required : Bool) (input : Option Json) (here : Path)
    (about : Annotations) : Except ε Unit :=
  if required && input.isNone && about.default.isNone then
    p.raise (dataIssue .required here about)
  else return

mutual

/-- Check a value, or its absence, against a node. -/
def checkNode (p : Policy) (node : Node) (input : Option Json) (here : Path) (inEnum : Bool) :
    Except ε Unit :=
  match node with
  | .tag name =>
    match input with
    | some v => checkType p name v here
    | none => return
  | .enum members =>
    checkEnumWith p members input here inEnum {} fun _ =>
      tryMembers p members input here {} (membersLabel members) 0
  | .spec s => checkSpec p s input here inEnum
termination_by structural node

/-- Try the members of an enumeration from a position on. -/
def tryMembers (p : Policy) (members : List Member) (input : Option Json) (here : Path)
    (about : Annotations) (label : String) (position : Nat) : Except ε Unit :=
  match members with
  | [] => p.raise (dataIssue .enum here about [("enums", label)])
  | .literal _ :: rest => tryMembers p rest input here about label (position + 1)
  | .nested _ :: rest => do
    p.raise (schemaIssue .nestedEnum here about)
    tryMembers p rest input here about label (position + 1)
  | .alternative s :: rest =>
    match checkSpec p s input (here.child (.index position)) true with
    | .ok () => return
    | .error i =>
      if Complaint.domain i = .data then
        tryMembers p rest input here about label (position + 1)
      else .error i
termination_by structural members

def checkSpec (p : Policy) (s : Spec) (input : Option Json) (here : Path) (inEnum : Bool) :
    Except ε Unit :=
  match s with
  | ⟨type, properties, items, _, required, nullable, additional, limits, about⟩ => do
    checkProperties p properties here about
    match type with
    | .undeclared => p.raise (schemaIssue .requireType here about)
    | .enum members =>
      checkPresence p required input here about
      match input with
      | none => return
      | some v =>
        checkEnumWith p members (some v) here inEnum about fun _ =>
          tryMembers p members (some v) here about (membersLabel members) 0
    | .tag name =>
      checkPresence p required input here about
      match input with
      | none => return
      | some v =>
        if nullable && v.isNull then return
        match ← checkTag p name v here about, v with
        | some .string, .string text => checkText p limits text here about
        | some .array, .array xs =>
          checkSize p .items limits xs.length here about
          checkItems p items xs here
        | some .object, .object ms =>
          checkDeclared p properties ms here
          checkUnexpected p additional properties ms here about
        | some tag, .number n => if tag.isNumeric then checkRange p limits n here about
        | _, _ => return
    | .malformed raw =>
      checkPresence p required input here about
      match input with
      | none => return
      | some v =>
        if nullable && v.isNull then return
        p.raise (schemaIssue .typeof here about
          [("type", raw.display), ("allowedTypes", TypeTag.listing)])
termination_by structural s

/-- Check the items of an array; positions without a node are free. -/
def checkItems (p : Policy) (items : Items) (xs : List Json) (here : Path) :
    Except ε Unit :=
  match items with
  | .unconstrained => return
  | .each node => checkEach (fun v there => checkNode p node (some v) there false) here 0 xs
  | .positional nodes => checkPositional p nodes xs here 0
  | .eachTag name => checkEach (fun v there => checkType p name v there) here 0 xs
termination_by structural items

def checkPositional (p : Policy) (nodes : List Node) (xs : List Json) (here : Path)
    (position : Nat) : Except ε Unit :=
  match nodes, xs with
  | node :: nodes, v :: xs => do
    checkNode p node (some v) (here.child (.index position)) false
    checkPositional p nodes xs here (position + 1)
  | _, _ => return
termination_by structural nodes

/-- Check the members of an object that are declared, in the order declared. -/
def checkDeclared (p : Policy) (properties : Properties) (ms : List (String × Json))
    (here : Path) : Except ε Unit :=
  match properties with
  | .declared table => checkTable p table ms here
  | _ => return
termination_by structural properties

def checkTable (p : Policy) (table : List (String × Node)) (ms : List (String × Json))
    (here : Path) : Except ε Unit :=
  match table with
  | [] => return
  | (key, node) :: rest => do
    checkNode p node (Table.get? ms key) (here.child (.key key)) false
    checkTable p rest ms here
termination_by structural table

end

/-- Check an input against the extension of a schema. -/
def check (p : Policy) (schema : Node) (input : Json) : Except ε Unit := do
  let extended ← extend p schema input
  checkNode p extended (some input) Path.root false

namespace Catalog

/-- Report the issues that the catalog has templates for. -/
def policy (c : Catalog) (matcher? : String → Option (String → Bool)) : Policy :=
  ⟨c.covers, matcher?⟩

/-- The reports in the words of the catalog. -/
def Wording (_ : Catalog) : Type := Report

instance (c : Catalog) : Complaint c.Wording := ⟨c.report, Report.domain, fun _ => rfl⟩

end Catalog

/-- Validate an input against a schema, patterns being read by the given function. -/
def validateWith (matcher? : String → Option (String → Bool)) (c : Catalog) (schema : Node)
    (input : Json) : Except Report Unit :=
  @check c.Wording _ (c.policy matcher?) schema input

/-- The schema that applies to an input, under a catalog. -/
def extendUnder (c : Catalog) (schema : Node) (input : Json) : Except Report Node :=
  @extend c.Wording _ (c.policy fun _ => none) schema input

end Conform
