import Conform.Condition
import Conform.Json.Printer

/-! # Schemas

A schema is a tree of nodes.  A node is a bare type tag, an enumeration, or a
full specification of a value.  Malformed parts of a specification are kept in
the tree, to be reported when a check reaches them.
-/
namespace Conform

/-- Descriptive parts that accompany every issue about a specification. -/
structure Annotations where
  title : Option Json := none
  description : Option Json := none
  examples : Option Json := none
  default : Option Json := none
deriving Repr, Inhabited

/-- Bounds and the pattern.  Length and item bounds may be any value; one that
is not a number is reported by the check. -/
structure Limits where
  minimum : Option Number := none
  maximum : Option Number := none
  exclusiveMinimum : Option Number := none
  exclusiveMaximum : Option Number := none
  minLength : Option Json := none
  maxLength : Option Json := none
  minItems : Option Json := none
  maxItems : Option Json := none
  pattern : Option String := none
deriving Repr, Inhabited

mutual

inductive Node where
  | tag (name : String)
  | enum (members : List Member)
  | spec (spec : Spec)

/-- A member of an enumeration.  A list among the members is malformed. -/
inductive Member where
  | literal (value : Json)
  | alternative (spec : Spec)
  | nested (members : List Member)

inductive TypeRef where
  | undeclared
  | tag (name : String)
  | enum (members : List Member)
  | malformed (value : Json)

inductive Properties where
  | undeclared
  | declared (table : List (String × Node))
  | malformed (value : Json)

/-- What is required of the items of an array. -/
inductive Items where
  | unconstrained
  | each (node : Node)
  | positional (nodes : List Node)
  | eachTag (name : String)

structure Spec where
  type : TypeRef
  properties : Properties
  items : Items
  conditions : List (Block (List (String × Node)))
  required : Bool
  nullable : Bool
  additionalProperties : Bool
  limits : Limits
  annotations : Annotations

end

def Spec.empty : Spec :=
  ⟨.undeclared, .undeclared, .unconstrained, [], false, false, false, {}, {}⟩

/-- A specification that declares only a type tag. -/
def Spec.ofTag (name : String) : Spec := { Spec.empty with type := .tag name }

instance : Inhabited Spec := ⟨.empty⟩
instance : Inhabited Node := ⟨.spec .empty⟩

def Properties.table? : Properties → Option (Table Node)
  | declared table => some table
  | _ => none

/-- Properties after an injection; whatever is not a table is replaced. -/
def Properties.merge (p : Properties) (extra : Table Node) : Properties :=
  match p with
  | declared table => declared (Table.merge table extra)
  | _ => declared extra

def Spec.inject (s : Spec) (extra : Table Node) : Spec :=
  { s with properties := s.properties.merge extra }

namespace Items

def nodeAt? (items : Items) (position : Nat) : Option Node :=
  match items with
  | unconstrained => none
  | each node => some node
  | positional nodes => nodes[position]?
  | eachTag name => some (.tag name)

end Items

mutual

/-- A member as messages name it. -/
def Member.label : Member → String
  | .literal value => value.display
  | .alternative spec => spec.label
  | .nested members => "[" ++ String.intercalate ", " (memberLabels members) ++ "]"
termination_by structural m => m

def memberLabels : List Member → List String
  | [] => []
  | member :: rest => member.label :: memberLabels rest
termination_by structural members => members

def TypeRef.label : TypeRef → String
  | .undeclared => "undefined"
  | .tag name => name
  | .enum members => String.intercalate ", " (memberLabels members)
  | .malformed value => value.compact
termination_by structural t => t

def Spec.label : Spec → String
  | { type, .. } => type.label
termination_by structural s => s

end

def membersLabel (members : List Member) : String :=
  String.intercalate ", " (memberLabels members)

def Node.label : Node → String
  | .tag name => name
  | .enum members => membersLabel members
  | .spec s => s.label

end Conform
