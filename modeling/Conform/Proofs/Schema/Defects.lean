import Conform.Check
import Conform.Proofs.Schema.Contents

/-!
# Defects of a schema

Each code of the schema domain names a defect of a node, given which patterns
can be read.  A schema has a defect if a node that it contains has it, so that
an injected node brings no defect that its rule did not already hold.
-/
namespace Conform
variable (matcher? : String → Option (String → Bool))

/-- The defect that a code names, at one node. -/
inductive Node.Defect : Node → IssueCode → Prop where
  | properties {s : Spec} {raw : Json} (h : s.properties = .malformed raw) :
    Defect (.spec s) .properties
  | requireType {s : Spec} (h : s.type = .undeclared) : Defect (.spec s) .requireType
  | unknownTag {name : String} (h : TypeTag.parse? name = none) : Defect (.tag name) .typeof
  | unknownType {s : Spec} {name : String} (h : s.type = .tag name)
    (hn : TypeTag.parse? name = none) : Defect (.spec s) .typeof
  | malformedType {s : Spec} {raw : Json} (h : s.type = .malformed raw) : Defect (.spec s) .typeof
  | maxBound {s : Spec} {raw : Json} (m : Measure) (h : m.max s.limits = some raw)
    (hraw : raw.number? = none) : Defect (.spec s) m.maxCode
  | minBound {s : Spec} {raw : Json} (m : Measure) (h : m.min s.limits = some raw)
    (hraw : raw.number? = none) : Defect (.spec s) m.minCode
  | vacuous {s : Spec} {n : Number} (m : Measure) (h : m.min s.limits = some (.number n))
    (hn : n.compare (.integer 0) ≠ .gt) : Defect (.spec s) m.vacuousCode
  | pattern {s : Spec} {source : String} (h : s.limits.pattern = some source)
    (hs : matcher? source = none) : Defect (.spec s) .pattern
  | nestedList {n : Node} {inner : List Member} (h : .nested inner ∈ n.members) :
    Defect n .nestedEnum
  | nestedEnum {n : Node} {a : Spec} (h : .alternative a ∈ n.members)
    (ha : (Node.spec a).IsEnum) : Defect n .nestedEnum
  | invalidPath {s : Spec} {b : Block (Table Node)} {e : Path.SyntaxError} (h : b ∈ s.conditions)
    (hb : Path.parse b.field = .error e) : Defect (.spec s) .invalidPath

/-- A node that the schema contains has the defect. -/
def Node.HasDefect (n : Node) (code : IssueCode) : Prop :=
  ∃ m, n.Contains m ∧ m.Defect matcher? code

/-- No node that the schema contains has any defect: types are known tags or
enumerations without lists or further enumerations in them, properties are
tables, bounds on sizes are numbers and lower ones positive, patterns can be
read, and the fields of blocks are paths. -/
def Node.DefectFree (n : Node) : Prop := ∀ code, ¬n.HasDefect matcher? code

variable {matcher?} {n child : Node} {code : IssueCode}

theorem Node.Defect.hasDefect (h : n.Defect matcher? code) : n.HasDefect matcher? code :=
  ⟨n, .refl n, h⟩

theorem Node.HasDefect.of_holds (h : n.Holds child) (hc : child.HasDefect matcher? code) :
    n.HasDefect matcher? code := by
  obtain ⟨m, hm, hd⟩ := hc
  exact ⟨m, hm.head h, hd⟩

theorem Node.hasDefect_iff : n.HasDefect matcher? code ↔
    n.Defect matcher? code ∨ ∃ child, n.Holds child ∧ child.HasDefect matcher? code := by
  constructor
  · rintro ⟨m, hm, hd⟩
    rcases (contains_iff n m).mp hm with rfl | ⟨child, hc, hm⟩
    · exact .inl hd
    · exact .inr ⟨child, hc, m, hm, hd⟩
  · rintro (h | ⟨child, hc, h⟩)
    · exact h.hasDefect
    · exact h.of_holds hc

theorem Node.DefectFree.not_defect (h : n.DefectFree matcher?) : ¬n.Defect matcher? code :=
  fun hd => h code hd.hasDefect

theorem Node.DefectFree.of_holds (h : n.DefectFree matcher?) (hc : n.Holds child) :
    child.DefectFree matcher? :=
  fun code hd => h code (hd.of_holds hc)

theorem Node.DefectFree.intro (h : ∀ code, ¬n.Defect matcher? code)
    (hc : ∀ child, n.Holds child → child.DefectFree matcher?) : n.DefectFree matcher? := by
  intro code hd
  rcases hasDefect_iff.mp hd with hd | ⟨child, hchild, hd⟩
  · exact h code hd
  · exact hc child hchild code hd

end Conform
