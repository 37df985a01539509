import Conform.Schema.Basic
import Conform.Proofs.Table

/-!
# Revisions of a schema

A revision goes through a schema and rewrites what it comes to, in a mode.  The
nodes of properties, declared or added by a rule, are in the mode of the node
that has them; the nodes for items and the members of enumerations are in a mode
of their own, or else left as they are.  Everything else about a revision is
what it does with tags and with item nodes, and which blocks it keeps.
-/
namespace Conform

section Rules
variable {α β : Type} (f : α → β)

mutual

/-- A rule that adds something else. -/
def Rule.map : Rule α → Rule β
  | ⟨operator, operand, added, elseIf, otherwise⟩ =>
    ⟨operator, operand, added.map f, mapAlternative elseIf, mapAlternative otherwise⟩
termination_by structural rule => rule

def Rule.mapAlternative : Option (Rule α) → Option (Rule β)
  | none => none
  | some rule => some rule.map
termination_by structural alternative => alternative

end

def Block.map (b : Block α) : Block β := ⟨b.field, b.rules.map (Rule.map f)⟩

@[simp] theorem Block.map_field (b : Block α) : (b.map f).field = b.field := rfl

/-- The alternatives of a rule are tried as before. -/
theorem Rule.resolve?_map (field : Option Json) (r : Rule α) :
    (r.map f).resolve? field = (r.resolve? field).map (Rule.map f) := by
  fun_induction resolve? field r with
  | case1 operand added elseIf otherwise => rfl
  | case2 op operand added elseIf otherwise hop =>
    rw [map]
    unfold resolve?
    rw [if_pos hop]
    rfl
  | case3 op operand added otherwise hop next ih =>
    simp only [map, mapAlternative, resolve?, if_neg hop]
    exact ih
  | case4 op operand added hop next ih =>
    simp only [map, mapAlternative, resolve?, if_neg hop]
    exact ih
  | case5 op operand added hop =>
    simp only [map, mapAlternative, resolve?, if_neg hop]
    rfl

theorem Block.additions_map (b : Block α) (field : Option Json) :
    (b.map f).additions field = (b.additions field).map f := by
  unfold additions map
  rw [List.filterMap_map, List.map_filterMap]
  congr
  funext rule
  rw [Function.comp_apply, Rule.resolve?_map]
  cases rule.resolve? field with
  | none => rfl
  | some r => cases r; rfl

end Rules

/-- Properties with other nodes under the same keys. -/
def Properties.map (f : Node → Node) : Properties → Properties
  | declared table => declared (Table.mapValues f table)
  | ps => ps

theorem Properties.map_merge (f : Node → Node) (ps : Properties) (extra : Table Node) :
    (ps.merge extra).map f = (ps.map f).merge (Table.mapValues f extra) := by
  cases ps with
  | declared table => exact congrArg declared (Table.mapValues_merge f table extra)
  | undeclared | malformed => rfl

/-- What a revision does with the parts of a schema, in each of its modes. -/
structure Revision (σ : Type) where
  /-- The mode for items and for members of enumerations, if these are gone into. -/
  inner : Option σ
  /-- The blocks with this field stay. -/
  keeps : σ → String → Bool := fun _ _ => true
  tag : String → Node := .tag
  /-- The node that stands for a revised one as that of an item. -/
  item : Node → Node := id
  eachTag : String → Items := .eachTag

namespace Revision
variable {σ : Type}

mutual

def node (r : Revision σ) (mode : σ) : Node → Node
  | .tag name => r.tag name
  | .enum members => .enum (r.inner.elim members fun inner => r.members inner members)
  | .spec s => .spec (r.spec mode s)
termination_by structural n => n

def member (r : Revision σ) (mode : σ) : Member → Member
  | .literal value => .literal value
  | .alternative a => .alternative (r.spec mode a)
  | .nested members => .nested (r.members mode members)
termination_by structural m => m

def members (r : Revision σ) (mode : σ) : List Member → List Member
  | [] => []
  | member :: rest => r.member mode member :: r.members mode rest
termination_by structural members => members

def type (r : Revision σ) (mode : σ) : TypeRef → TypeRef
  | .enum members => .enum (r.members mode members)
  | type => type
termination_by structural type => type

def properties (r : Revision σ) (mode : σ) : Properties → Properties
  | .declared table => .declared (r.table mode table)
  | ps => ps
termination_by structural ps => ps

def table (r : Revision σ) (mode : σ) : List (String × Node) → List (String × Node)
  | [] => []
  | (key, node) :: rest => (key, r.node mode node) :: r.table mode rest
termination_by structural table => table

def items (r : Revision σ) (mode : σ) : Items → Items
  | .unconstrained => .unconstrained
  | .each node => .each (r.item (r.node mode node))
  | .positional nodes => .positional (r.nodes mode nodes)
  | .eachTag name => r.eachTag name
termination_by structural items => items

/-- Nodes for items. -/
def nodes (r : Revision σ) (mode : σ) : List Node → List Node
  | [] => []
  | node :: rest => r.item (r.node mode node) :: r.nodes mode rest
termination_by structural nodes => nodes

def blocks (r : Revision σ) (mode : σ) :
    List (Block (List (String × Node))) → List (Block (List (String × Node)))
  | [] => []
  | ⟨field, rules⟩ :: rest =>
    if r.keeps mode field then ⟨field, r.rules mode rules⟩ :: r.blocks mode rest
    else r.blocks mode rest
termination_by structural blocks => blocks

def rules (r : Revision σ) (mode : σ) :
    List (Rule (List (String × Node))) → List (Rule (List (String × Node)))
  | [] => []
  | rule :: rest => r.rule mode rule :: r.rules mode rest
termination_by structural rules => rules

def rule (r : Revision σ) (mode : σ) :
    Rule (List (String × Node)) → Rule (List (String × Node))
  | ⟨operator, operand, added, elseIf, otherwise⟩ =>
    ⟨operator, operand, r.added mode added, r.alternative mode elseIf,
      r.alternative mode otherwise⟩
termination_by structural rule => rule

def added (r : Revision σ) (mode : σ) :
    Option (List (String × Node)) → Option (List (String × Node))
  | none => none
  | some table => some (r.table mode table)
termination_by structural added => added

/-- The rule that is an alternative of another. -/
def alternative (r : Revision σ) (mode : σ) :
    Option (Rule (List (String × Node))) → Option (Rule (List (String × Node)))
  | none => none
  | some rule => some (r.rule mode rule)
termination_by structural alternative => alternative

def spec (r : Revision σ) (mode : σ) : Spec → Spec
  | ⟨type, properties, items, conditions, required, nullable, additional, limits, about⟩ =>
    ⟨r.inner.elim type fun inner => r.type inner type, r.properties mode properties,
      r.inner.elim items fun inner => r.items inner items, r.blocks mode conditions, required,
      nullable, additional, limits, about⟩
termination_by structural s => s

end

variable (r : Revision σ) (mode : σ)

theorem members_eq (members : List Member) :
    r.members mode members = members.map (r.member mode) := by
  induction members with
  | nil => rfl
  | cons member rest ih => rw [Revision.members, ih, List.map_cons]

theorem nodes_eq (nodes : List Node) :
    r.nodes mode nodes = nodes.map fun node => r.item (r.node mode node) := by
  induction nodes with
  | nil => rfl
  | cons node rest ih => rw [Revision.nodes, ih, List.map_cons]

theorem table_eq (table : Table Node) : r.table mode table = table.mapValues (r.node mode) := by
  induction table with
  | nil => rfl
  | cons e rest ih =>
    rw [Revision.table, ih]
    rfl

theorem properties_eq (ps : Properties) : r.properties mode ps = ps.map (r.node mode) := by
  cases ps with
  | declared table => exact congrArg Properties.declared (r.table_eq mode table)
  | undeclared | malformed => rfl

mutual

theorem rule_eq : ∀ rule : Rule (Table Node),
    r.rule mode rule = rule.map (Table.mapValues (r.node mode))
  | ⟨operator, operand, added, elseIf, otherwise⟩ => by
    have hadded : r.added mode added = added.map (Table.mapValues (r.node mode)) := by
      cases added with
      | none => rfl
      | some table => exact congrArg some (r.table_eq mode table)
    rw [Revision.rule, Rule.map, hadded, alternative_eq elseIf, alternative_eq otherwise]
termination_by structural rule => rule

theorem alternative_eq : ∀ alternative : Option (Rule (Table Node)),
    r.alternative mode alternative =
      Rule.mapAlternative (Table.mapValues (r.node mode)) alternative
  | none => rfl
  | some rule => congrArg some (rule_eq rule)
termination_by structural alternative => alternative

end

theorem rules_eq (rules : List (Rule (Table Node))) :
    r.rules mode rules = rules.map (Rule.map (Table.mapValues (r.node mode))) := by
  induction rules with
  | nil => rfl
  | cons rule rest ih => rw [Revision.rules, ih, rule_eq, List.map_cons]

theorem blocks_eq (blocks : List (Block (Table Node))) : r.blocks mode blocks =
    (blocks.filter fun b => r.keeps mode b.field).map
      (Block.map (Table.mapValues (r.node mode))) := by
  induction blocks with
  | nil => rfl
  | cons b rest ih =>
    rw [Revision.blocks, ih, rules_eq, List.filter_cons]
    cases r.keeps mode b.field <;> rfl

/-- A revised specification, part by part. -/
theorem spec_eq (s : Spec) : r.spec mode s = { s with
    type := r.inner.elim s.type fun inner => r.type inner s.type
    properties := s.properties.map (r.node mode)
    items := r.inner.elim s.items fun inner => r.items inner s.items
    conditions := (s.conditions.filter fun b => r.keeps mode b.field).map
      (Block.map (Table.mapValues (r.node mode))) } := by
  cases s
  rw [Revision.spec, properties_eq, blocks_eq]

end Revision
end Conform
