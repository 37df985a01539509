import Conform.Proofs.Extension.Walk
import Conform.Proofs.Outcome

/-!
# The result of an extension

A block whose field is not a path leaves the specification as it is, unless its
issue is reported.  So the walk meets the same blocks under every policy: there
is one extended node and one list of issues, in the order of the walk, and the
extension is the outcome of the two.
-/
namespace Conform

/-- A specification after one block; a block whose field is not a path is
skipped. -/
def Spec.applyReadable (root : Json) (s : Spec) (b : Block (Table Node)) : Spec :=
  match Path.parse b.field with
  | .ok field => (b.additions (field.lookup? root)).foldl Spec.inject s
  | .error _ => s

/-- A specification with its blocks applied and taken out. -/
def Spec.applied (root : Json) (s : Spec) : Spec :=
  s.conditions.foldl (Spec.applyReadable root) { s with conditions := [] }

/-- The issue of a block, if its field is not a path. -/
def Spec.fieldIssues (s : Spec) (here : Path) (b : Block (Table Node)) : List Issue :=
  match Path.parse b.field with
  | .ok _ => []
  | .error e => [invalidPathIssue s here b.field e.reason]

section
variable {p : Policy} {root : Json} {here : Path} {s : Spec}

theorem Spec.applyBlock_eq_outcome (b : Block (Table Node)) :
    s.applyBlock p root here b = p.outcome (s.fieldIssues here b) (s.applyReadable root b) := by
  unfold applyBlock fieldIssues applyReadable
  cases Path.parse b.field with
  | ok field => rfl
  | error e =>
    dsimp only
    rw [Policy.raise_eq_outcome]
    unfold Policy.outcome
    cases p.first? [invalidPathIssue s here b.field e.reason] <;> rfl

theorem Spec.applyReadable_annotations (b : Block (Table Node)) :
    (s.applyReadable root b).annotations = s.annotations := by
  have h : s.applyBlock .silent root Path.root b = .ok (s.applyReadable root b) := by
    simp [applyBlock_eq_outcome]
  rw [(applyBlock_grows h).same]

/-- The issues are about the specification as it was before its blocks. -/
theorem Spec.applyBlocks_eq_outcome (blocks : List (Block (Table Node))) {s' : Spec}
    (h : s'.annotations = s.annotations) : s'.applyBlocks p root here blocks =
      p.outcome (blocks.flatMap (s.fieldIssues here)) (blocks.foldl (applyReadable root) s') := by
  induction blocks generalizing s' with
  | nil => rfl
  | cons b rest ih =>
    have hb : s'.applyBlock p root here b =
        p.outcome (s.fieldIssues here b) (s'.applyReadable root b) := by
      rw [applyBlock_eq_outcome]
      simp only [fieldIssues, invalidPathIssue, h]
    have hb' : (s'.applyReadable root b).annotations = s.annotations :=
      (applyReadable_annotations b).trans h
    rw [applyBlocks_cons, hb, List.flatMap_cons, List.foldl_cons]
    exact Policy.outcome_bind (ih hb')

theorem Spec.applyConditions_eq_outcome : s.applyConditions p root here =
    p.outcome (s.conditions.flatMap (s.fieldIssues here)) (s.applied root) :=
  applyBlocks_eq_outcome s.conditions rfl

/-- Without reports the blocks are applied as far as they can be. -/
theorem Spec.applyConditions_silent (s : Spec) (root : Json) (here : Path) :
    s.applyConditions .silent root here = .ok (s.applied root) := by
  simp [applyConditions_eq_outcome]

theorem Spec.applied_of_no_conditions (h : s.conditions = []) : s.applied root = s := by
  obtain ⟨_, _, _, _, _, _, _, _, _⟩ := s
  subst h
  rfl

/-- Only the properties are changed, and no block is left. -/
theorem Spec.applied_grows : Spec.Grows s.conditions { s with conditions := [] } (s.applied root) :=
  applyConditions_grows (s.applyConditions_silent root Path.root)

@[simp] theorem Spec.applied_type (s : Spec) (root : Json) : (s.applied root).type = s.type := by
  rw [applied_grows.same]

@[simp] theorem Spec.applied_limits (s : Spec) (root : Json) :
    (s.applied root).limits = s.limits := by
  rw [applied_grows.same]

@[simp] theorem Spec.applied_annotations (s : Spec) (root : Json) :
    (s.applied root).annotations = s.annotations := by
  rw [applied_grows.same]

/-- What is declared after the blocks is of smaller depth. -/
theorem Spec.depth_of_mem_applied {e : String × Node}
    (h : e ∈ (s.applied root).properties.entries) : e.2.depth < (Node.spec s).depth := by
  have hdepth : (s.applied root).properties.depth < s.depth :=
    applyConditions_depth (s.applyConditions_silent root Path.root)
  rw [Node.depth]
  exact Nat.lt_of_le_of_lt (Properties.depth_of_mem_entries h) hdepth

end

/-- Properties with other entries, if there is a table of them. -/
def Properties.withEntries (ps : Properties) (table : Table Node) : Properties :=
  match ps with
  | declared _ => declared table
  | ps => ps

namespace Node

/-- The extension of a node, blocks whose field is not a path being skipped. -/
def extended (root : Json) : Node → Node
  | spec s => spec { s.applied root with
      properties := (s.applied root).properties.withEntries
        ((s.applied root).properties.entries.attach.map fun e => (e.1.1, e.1.2.extended root)) }
  | n => n
termination_by n => n.depth
decreasing_by exact Spec.depth_of_mem_applied e.2

/-- The issues of an extension in the order of its walk: those of a node before
those of its properties. -/
def fieldIssues (root : Json) (here : Path) : Node → List Issue
  | spec s => s.conditions.flatMap (s.fieldIssues here) ++
      (s.applied root).properties.entries.attach.flatMap fun e =>
        e.1.2.fieldIssues root (here.child (.key e.1.1))
  | _ => []
termination_by n => n.depth
decreasing_by exact Spec.depth_of_mem_applied e.2

variable (root : Json) (here : Path)

@[simp] theorem extended_tag (name : String) : (tag name).extended root = tag name := by
  simp [extended]

@[simp] theorem extended_enum (members : List Member) :
    (enum members).extended root = enum members := by
  simp [extended]

theorem extended_spec (s : Spec) : (spec s).extended root = spec { s.applied root with
    properties := (s.applied root).properties.withEntries
      ((s.applied root).properties.entries.map fun e => (e.1, e.2.extended root)) } := by
  rw [extended, List.attach_map_val (f := fun e : String × Node => (e.1, e.2.extended root))]

@[simp] theorem fieldIssues_tag (name : String) : (tag name).fieldIssues root here = [] := by
  simp [fieldIssues]

@[simp] theorem fieldIssues_enum (members : List Member) :
    (enum members).fieldIssues root here = [] := by
  simp [fieldIssues]

theorem fieldIssues_spec (s : Spec) : (spec s).fieldIssues root here =
    s.conditions.flatMap (s.fieldIssues here) ++
      (s.applied root).properties.entries.flatMap fun e =>
        e.2.fieldIssues root (here.child (.key e.1)) := by
  simp only [fieldIssues, List.flatMap_def]
  rw [List.attach_map_val (f := fun e : String × Node =>
    e.2.fieldIssues root (here.child (.key e.1)))]

end Node

/-- A property of nodes at their paths follows if a specification has it whenever
the properties that are declared after its blocks have it. -/
theorem Node.applied_induction (root : Json) {P : Path → Node → Prop}
    (tag : ∀ here name, P here (.tag name)) (enum : ∀ here members, P here (.enum members))
    (spec : ∀ here s, (∀ key node, (key, node) ∈ (s.applied root).properties.entries →
      P (here.child (.key key)) node) → P here (.spec s)) (here : Path) (n : Node) : P here n :=
  extension_induction Issue .silent root tag enum
    (fun here s ih => spec here s fun key node =>
      ih _ key node (s.applyConditions_silent root here)) here n

section
variable {p : Policy} {root : Json} {here : Path}

theorem extendTable_eq_outcome {table : Table Node} (h : ∀ key node, (key, node) ∈ table →
      node.extend p root (here.child (.key key)) =
        p.outcome (node.fieldIssues root (here.child (.key key))) (node.extended root)) :
    extendTable p root here table =
      p.outcome (table.flatMap fun e => e.2.fieldIssues root (here.child (.key e.1)))
        (table.map fun e => (e.1, e.2.extended root)) := by
  induction table with
  | nil => rw [extendTable]; rfl
  | cons e rest ih =>
    obtain ⟨key, node⟩ := e
    have hrest := ih fun key node hn => h key node (List.mem_cons_of_mem _ hn)
    rw [extendTable_cons, h key node (List.mem_cons_self ..), List.flatMap_cons, List.map_cons]
    apply Policy.outcome_bind
    rw [hrest]
    exact Policy.outcome_map (fun rest => (key, node.extended root) :: rest)

theorem Properties.extend_eq_outcome {ps : Properties} (h : ∀ key node, (key, node) ∈ ps.entries →
      node.extend p root (here.child (.key key)) =
        p.outcome (node.fieldIssues root (here.child (.key key))) (node.extended root)) :
    ps.extend p root here =
      p.outcome (ps.entries.flatMap fun e => e.2.fieldIssues root (here.child (.key e.1)))
        (ps.withEntries (ps.entries.map fun e => (e.1, e.2.extended root))) := by
  cases ps with
  | declared table =>
    have htable : ∀ key node, (key, node) ∈ table → _ := h
    rw [extend_declared, extendTable_eq_outcome htable]
    exact Policy.outcome_map declared
  | undeclared | malformed => rfl

/-- The extension is the outcome of its issues and the extended node. -/
theorem Node.extend_eq_outcome (p : Policy) (root : Json) (here : Path) (n : Node) :
    n.extend p root here = p.outcome (n.fieldIssues root here) (n.extended root) := by
  induction here, n using Node.applied_induction root with
  | tag here name => simp
  | enum here members => simp
  | spec here s ih =>
    rw [extend_spec, fieldIssues_spec, extended_spec, Spec.applyConditions_eq_outcome]
    apply Policy.outcome_bind
    rw [Properties.extend_eq_outcome ih]
    exact Policy.outcome_map fun ps => Node.spec { s.applied root with properties := ps }

/-- Every issue of an extension is about a field that is not a path. -/
theorem Node.exists_of_mem_fieldIssues {n : Node} {i : Issue} (h : i ∈ n.fieldIssues root here) :
    ∃ s there field reason, i = invalidPathIssue s there field reason := by
  induction here, n using Node.applied_induction root with
  | tag here name => simp at h
  | enum here members => simp at h
  | spec here s ih =>
    rw [fieldIssues_spec, List.mem_append, List.mem_flatMap, List.mem_flatMap] at h
    rcases h with ⟨b, _, hi⟩ | ⟨e, he, hi⟩
    · unfold Spec.fieldIssues at hi
      split at hi
      · cases hi
      · exact ⟨_, _, _, _, List.mem_singleton.mp hi⟩
    · exact ih e.1 e.2 he hi

theorem Node.code_of_mem_fieldIssues {n : Node} {i : Issue} (h : i ∈ n.fieldIssues root here) :
    i.domain = .schema ∧ i.code = .invalidPath := by
  obtain ⟨s, there, field, reason, rfl⟩ := exists_of_mem_fieldIssues h
  exact ⟨rfl, rfl⟩

end
end Conform
