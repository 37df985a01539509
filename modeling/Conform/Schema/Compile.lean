import Conform.Schema.Basic

/-! # Reading schemas

Every JSON value reads as a schema node.  A keyword of the wrong shape is kept
as malformed where a check can report it and is ignored otherwise.  The keywords
of an object are looked for member by member, so that reading descends through
the value itself.
-/
namespace Conform

def isSet (ms : Table Json) (keyword : String) : Bool :=
  match ms.get? keyword with
  | some v => v.isTruthy
  | none => false

def numberAt? (ms : Table Json) (keyword : String) : Option Number :=
  (ms.get? keyword).bind Json.number?

/-- The text at a keyword; an empty one counts as missing. -/
def textAt? (ms : Table Json) (keyword : String) : Option String :=
  ((ms.get? keyword).bind Json.string?).filter fun s => s ≠ ""

def Annotations.ofMembers (ms : Table Json) : Annotations where
  title := ms.get? "title"
  description := ms.get? "description"
  examples := ms.get? "examples"
  default := ms.get? "default"

def Limits.ofMembers (ms : Table Json) : Limits where
  minimum := numberAt? ms "minimum"
  maximum := numberAt? ms "maximum"
  exclusiveMinimum := numberAt? ms "exclusiveMinimum"
  exclusiveMaximum := numberAt? ms "exclusiveMaximum"
  minLength := ms.get? "minLength"
  maxLength := ms.get? "maxLength"
  minItems := ms.get? "minItems"
  maxItems := ms.get? "maxItems"
  pattern := textAt? ms "pattern"

/-- A specification from its members and the parts read from them.  The keyword
`enum` declares a type only where `type` is missing. -/
def Spec.assemble (ms : Table Json) (type enum : Option TypeRef) (properties : Properties)
    (items : Items) (conditions : List (Block (Table Node))) : Spec where
  type := (type.or enum).getD .undeclared
  properties := properties
  items := items
  conditions := conditions
  required := isSet ms "required" || isSet ms "require"
  nullable := isSet ms "nullable"
  additionalProperties := isSet ms "additionalProperties"
  limits := .ofMembers ms
  annotations := .ofMembers ms

def Rule.assemble {α : Type} (ms : Table Json) (added : Option α)
    (elseIf otherwise : Option (Rule α)) : Rule α where
  operator := (textAt? ms "operator").map Operator.parse
  operand := ms.get? "value"
  added := added
  elseIf := elseIf
  otherwise := otherwise

/-- A block needs the name of a field and at least one place for rules. -/
def Block.assemble? {α : Type} (ms : Table Json) (rules : Option (List (Rule α))) :
    Option (Block α) := do
  let field ← textAt? ms "value"
  let rules ← rules
  return ⟨field, rules⟩

mutual

def Node.ofJson : Json → Node
  | .string name => .tag name
  | .array members => .enum (membersOf members)
  | .object ms =>
    .spec (Spec.assemble ms (typeIn ms) (enumIn ms) (propertiesIn ms) (itemsIn ms)
      (conditionsIn ms))
  | _ => .spec Spec.empty
termination_by structural v => v

def Member.ofJson : Json → Member
  | .array members => .nested (membersOf members)
  | .object ms =>
    .alternative (Spec.assemble ms (typeIn ms) (enumIn ms) (propertiesIn ms) (itemsIn ms)
      (conditionsIn ms))
  | v => .literal v
termination_by structural v => v

def membersOf : List Json → List Member
  | [] => []
  | v :: rest => Member.ofJson v :: membersOf rest
termination_by structural vs => vs

def nodesOf : List Json → List Node
  | [] => []
  | v :: rest => Node.ofJson v :: nodesOf rest
termination_by structural vs => vs

def tableOf : List (String × Json) → List (String × Node)
  | [] => []
  | (key, v) :: rest => (key, Node.ofJson v) :: tableOf rest
termination_by structural ms => ms

def typeIn : List (String × Json) → Option TypeRef
  | [] => none
  | (key, v) :: rest =>
    if key = "type" then
      match v with
      | .string name => some (.tag name)
      | .array members => some (.enum (membersOf members))
      | v => some (.malformed v)
    else typeIn rest
termination_by structural ms => ms

def enumIn : List (String × Json) → Option TypeRef
  | [] => none
  | (key, v) :: rest =>
    if key = "enum" then
      match v with
      | .array members => some (.enum (membersOf members))
      | _ => none
    else enumIn rest
termination_by structural ms => ms

def propertiesIn : List (String × Json) → Properties
  | [] => .undeclared
  | (key, v) :: rest =>
    if key = "properties" then
      match v with
      | .object ms => .declared (tableOf ms)
      | v => .malformed v
    else propertiesIn rest
termination_by structural ms => ms

def itemsIn : List (String × Json) → Items
  | [] => .unconstrained
  | (key, v) :: rest =>
    if key = "items" then
      match v with
      | .object ms =>
        .each (.spec (Spec.assemble ms (typeIn ms) (enumIn ms) (propertiesIn ms) (itemsIn ms)
          (conditionsIn ms)))
      | .array nodes => .positional (nodesOf nodes)
      | .string name => .eachTag name
      | _ => .unconstrained
    else itemsIn rest
termination_by structural ms => ms

/-- The blocks at `if`: a list of them or a single one. -/
def conditionsIn : List (String × Json) → List (Block (List (String × Node)))
  | [] => []
  | (key, v) :: rest =>
    if key = "if" then
      match v with
      | .array blocks => blocksOf blocks
      | v => (blockOf? v).toList
    else conditionsIn rest
termination_by structural ms => ms

def blocksOf : List Json → List (Block (List (String × Node)))
  | [] => []
  | v :: rest => (blockOf? v).toList ++ blocksOf rest
termination_by structural vs => vs

def blockOf? : Json → Option (Block (List (String × Node)))
  | .object ms => Block.assemble? ms (rulesIn? ms)
  | _ => none
termination_by structural v => v

/-- The rules at `conditions`: a list of them or a single one. -/
def rulesIn? : List (String × Json) → Option (List (Rule (List (String × Node))))
  | [] => none
  | (key, v) :: rest =>
    if key = "conditions" then
      match v with
      | .array rules => some (rulesOf rules)
      | v => (ruleOf? v).map fun rule => [rule]
    else rulesIn? rest
termination_by structural ms => ms

def rulesOf : List Json → List (Rule (List (String × Node)))
  | [] => []
  | v :: rest => (ruleOf? v).toList ++ rulesOf rest
termination_by structural vs => vs

def ruleOf? : Json → Option (Rule (List (String × Node)))
  | .object ms =>
    some (Rule.assemble ms (addedIn? ms) (ruleIn? "elseIf" ms) (ruleIn? "else" ms))
  | _ => none
termination_by structural v => v

def addedIn? : List (String × Json) → Option (List (String × Node))
  | [] => none
  | (key, v) :: rest =>
    if key = "addProperties" then
      match v with
      | .object ms => some (tableOf ms)
      | _ => none
    else addedIn? rest
termination_by structural ms => ms

def ruleIn? (keyword : String) : List (String × Json) → Option (Rule (List (String × Node)))
  | [] => none
  | (key, v) :: rest => if key = keyword then ruleOf? v else ruleIn? keyword rest
termination_by structural ms => ms

end

/-- The specification that an object reads as. -/
def Spec.ofMembers (ms : Table Json) : Spec :=
  .assemble ms (typeIn ms) (enumIn ms) (propertiesIn ms) (itemsIn ms) (conditionsIn ms)

theorem Node.ofJson_object (ms : Table Json) :
    Node.ofJson (.object ms) = .spec (.ofMembers ms) := rfl

end Conform
