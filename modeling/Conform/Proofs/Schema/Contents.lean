import Conform.Schema.Basic
import Mathlib.Logic.Relation

/-!
# What a schema holds

A node holds its properties, the nodes for its items, the alternatives of its
enumeration, and whatever a rule of one of its blocks can add.  A schema
contains the nodes that are reached from it in any number of such steps.  Each
step leads to a smaller node, so a property of all nodes can be proved from what
a node holds.
-/
namespace Conform

/-- A rule leads to itself and to the rules of both of its alternatives. -/
inductive Rule.LeadsTo {α : Type} : Rule α → Rule α → Prop where
  | self (r : Rule α) : LeadsTo r r
  | elseIf {r next r' : Rule α} (h : r.elseIf = some next) (hn : LeadsTo next r') : LeadsTo r r'
  | otherwise {r next r' : Rule α} (h : r.otherwise = some next) (hn : LeadsTo next r') :
    LeadsTo r r'

/-- A rule of the block, on whatever branch, adds the given. -/
def Block.Adds {α : Type} (b : Block α) (extra : α) : Prop :=
  ∃ rule ∈ b.rules, ∃ r, rule.LeadsTo r ∧ r.added = some extra

theorem Rule.leadsTo_of_resolve? {α : Type} {field : Option Json} {r r' : Rule α}
    (h : r.resolve? field = some r') : r.LeadsTo r' := by
  fun_induction Rule.resolve? field r with
  | case1 => cases h
  | case2 op operand added elseIf otherwise =>
    cases h
    exact .self _
  | case3 op operand added otherwise _ next ih => exact .elseIf rfl (ih h)
  | case4 op operand added _ next ih => exact .otherwise rfl (ih h)
  | case5 => cases h

theorem Block.adds_of_mem_additions {α : Type} {b : Block α} {field : Option Json} {extra : α}
    (h : extra ∈ b.additions field) : b.Adds extra := by
  obtain ⟨rule, hrule, h⟩ := List.mem_filterMap.mp h
  obtain ⟨r, hr, hadded⟩ := Option.bind_eq_some_iff.mp h
  exact ⟨rule, hrule, r, Rule.leadsTo_of_resolve? hr, hadded⟩

/-- The nodes that items are checked against. -/
def Items.nodes : Items → List Node
  | unconstrained => []
  | each node => [node]
  | positional nodes => nodes
  | eachTag name => [.tag name]

def TypeRef.members : TypeRef → List Member
  | enum members => members
  | _ => []

namespace Node

/-- The members of the enumeration that a node is or has as its type. -/
def members : Node → List Member
  | tag _ => []
  | enum members => members
  | spec s => s.type.members

/-- The node is an enumeration or has one as its type. -/
def IsEnum : Node → Prop
  | tag _ => False
  | enum _ => True
  | spec s => ∃ members, s.type = .enum members

/-- One node is a part of another or may be added to it. -/
inductive Holds : Node → Node → Prop where
  | property {s : Spec} {table : Table Node} {key : String} {node : Node}
    (h : s.properties = .declared table) (hn : (key, node) ∈ table) : Holds (.spec s) node
  | item {s : Spec} {node : Node} (h : node ∈ s.items.nodes) : Holds (.spec s) node
  | alternative {n : Node} {a : Spec} (h : .alternative a ∈ n.members) : Holds n (.spec a)
  | added {s : Spec} {b : Block (Table Node)} {extra : Table Node} {key : String} {node : Node}
    (h : b ∈ s.conditions) (ha : b.Adds extra) (hn : (key, node) ∈ extra) : Holds (.spec s) node

/-- A node is reached from another. -/
def Contains : Node → Node → Prop := Relation.ReflTransGen Holds

theorem Contains.refl (n : Node) : n.Contains n := Relation.ReflTransGen.refl

theorem Contains.head {n child m : Node} (h : n.Holds child) (hm : child.Contains m) :
    n.Contains m :=
  Relation.ReflTransGen.head h hm

/-- A node contains itself and what the nodes that it holds contain. -/
theorem contains_iff (n m : Node) :
    n.Contains m ↔ n = m ∨ ∃ child, n.Holds child ∧ child.Contains m :=
  Relation.ReflTransGen.cases_head_iff

end Node

theorem Rule.LeadsTo.sizeOf_le {α : Type} [SizeOf α] {r r' : Rule α} (h : r.LeadsTo r') :
    sizeOf r' ≤ sizeOf r := by
  induction h with
  | self r => exact Nat.le_refl _
  | @elseIf r next r' h hn ih =>
    obtain ⟨_, _, _, _, _⟩ := r
    subst h
    simp only [Rule.mk.sizeOf_spec, Option.some.sizeOf_spec]
    omega
  | @otherwise r next r' h hn ih =>
    obtain ⟨_, _, _, _, _⟩ := r
    subst h
    simp only [Rule.mk.sizeOf_spec, Option.some.sizeOf_spec]
    omega

theorem Block.Adds.sizeOf_lt {α : Type} [SizeOf α] {b : Block α} {extra : α} (h : b.Adds extra) :
    sizeOf extra < sizeOf b := by
  obtain ⟨rule, hrule, r, hr, hadded⟩ := h
  have hlt := List.sizeOf_lt_of_mem hrule
  have hle := hr.sizeOf_le
  obtain ⟨_, _, _, _, _⟩ := r
  subst hadded
  obtain ⟨field, rules⟩ := b
  simp only [Rule.mk.sizeOf_spec, Option.some.sizeOf_spec, Block.mk.sizeOf_spec] at *
  omega

theorem sizeOf_lt_of_mem_table {table : Table Node} {key : String} {node : Node}
    (h : (key, node) ∈ table) : sizeOf node < sizeOf table := by
  have hlt := List.sizeOf_lt_of_mem h
  simp only [Prod.mk.sizeOf_spec] at hlt
  omega

theorem sizeOf_lt_of_mem_members {members : List Member} {a : Spec}
    (h : .alternative a ∈ members) : sizeOf (Node.spec a) < sizeOf members := by
  have hlt := List.sizeOf_lt_of_mem h
  simp only [Member.alternative.sizeOf_spec] at hlt
  simp only [Node.spec.sizeOf_spec]
  omega

/-- What a node holds is smaller than the node. -/
theorem Node.Holds.sizeOf_lt {n child : Node} (h : n.Holds child) : sizeOf child < sizeOf n := by
  cases h with
  | @property s table key node h hn =>
    have hlt := sizeOf_lt_of_mem_table hn
    obtain ⟨type, properties, items, conditions, _, _, _, _, _⟩ := s
    subst h
    simp only [Node.spec.sizeOf_spec, Spec.mk.sizeOf_spec, Properties.declared.sizeOf_spec]
    omega
  | @item s node h =>
    obtain ⟨type, properties, items, conditions, _, _, _, _, _⟩ := s
    simp only [Node.spec.sizeOf_spec, Spec.mk.sizeOf_spec]
    cases items with
    | unconstrained => cases h
    | each node =>
      cases List.mem_singleton.mp h
      simp only [Items.each.sizeOf_spec]
      omega
    | positional nodes =>
      have hlt : sizeOf child < sizeOf nodes := List.sizeOf_lt_of_mem h
      simp only [Items.positional.sizeOf_spec]
      omega
    | eachTag name =>
      cases List.mem_singleton.mp h
      simp only [Items.eachTag.sizeOf_spec, Node.tag.sizeOf_spec]
      omega
  | @alternative _ a h =>
    have hlt := sizeOf_lt_of_mem_members h
    cases n with
    | tag name => cases h
    | enum members =>
      simp only [Node.enum.sizeOf_spec, Node.members] at *
      omega
    | spec s =>
      obtain ⟨type, properties, items, conditions, _, _, _, _, _⟩ := s
      cases type with
      | enum members =>
        simp only [Node.spec.sizeOf_spec, Spec.mk.sizeOf_spec, TypeRef.enum.sizeOf_spec,
          Node.members, TypeRef.members] at *
        omega
      | undeclared | tag | malformed => cases h
  | @added s b extra key node h ha hn =>
    have hnode := sizeOf_lt_of_mem_table hn
    have hextra := ha.sizeOf_lt
    have hblock := List.sizeOf_lt_of_mem h
    obtain ⟨type, properties, items, conditions, _, _, _, _, _⟩ := s
    simp only [Node.spec.sizeOf_spec, Spec.mk.sizeOf_spec] at *
    omega

/-- A property of all nodes follows if a node has it whenever all that it holds
has it. -/
theorem Node.holds_induction {P : Node → Prop} (h : ∀ n, (∀ child, n.Holds child → P child) → P n)
    (n : Node) : P n :=
  h n fun child _hc => holds_induction h child
termination_by sizeOf n
decreasing_by exact _hc.sizeOf_lt

end Conform
