import Conform.Proofs.Check.Wording
import Conform.Proofs.Extension.Result
import Conform.Proofs.Schema.Decision

/-!
# What an extension reads of an input

Of an input the walk sees no more than what the field of a block leads to.  So
two inputs of which every block adds the same are extended for in the same way,
wherever the blocks come from: a rule that adds a specification brings in the
blocks of that specification, and these are blocks of the schema already.
-/
namespace Conform

/-- The block adds the same for both inputs, if its field is a path. -/
def Block.AddsAlike (root root' : Json) (b : Block (Table Node)) : Prop :=
  ∀ field, Path.parse b.field = .ok field →
    b.additions (field.lookup? root) = b.additions (field.lookup? root')

namespace Node

/-- The blocks of the specification that a node is. -/
def blocks : Node → List (Block (Table Node))
  | spec s => s.conditions
  | _ => []

/-- A block somewhere in the schema, also in what a rule can add, has the path as
its field. -/
def Names (n : Node) (field : Path) : Prop :=
  ∃ m, n.Contains m ∧ ∃ b ∈ m.blocks, Path.parse b.field = .ok field

/-- The paths that a schema names. -/
def fields (n : Node) : List Path :=
  (n.blocks.filterMap fun b => (Path.parse b.field).toOption) ++
    n.children.attach.flatMap fun child => child.1.fields
termination_by sizeOf n
decreasing_by exact (mem_children_iff.mp child.2).sizeOf_lt

theorem names_iff {n : Node} {field : Path} :
    n.Names field ↔ (∃ b ∈ n.blocks, Path.parse b.field = .ok field) ∨
      ∃ child, n.Holds child ∧ child.Names field := by
  constructor
  · rintro ⟨m, hm, hb⟩
    rcases (contains_iff n m).mp hm with rfl | ⟨child, hc, hm⟩
    · exact .inl hb
    · exact .inr ⟨child, hc, m, hm, hb⟩
  · rintro (hb | ⟨child, hc, m, hm, hb⟩)
    · exact ⟨n, .refl n, hb⟩
    · exact ⟨m, hm.head hc, hb⟩

theorem mem_fields_iff {n : Node} {field : Path} : field ∈ n.fields ↔ n.Names field := by
  induction n using Node.holds_induction with
  | h n ih =>
    have hown : field ∈ (n.blocks.filterMap fun b => (Path.parse b.field).toOption) ↔
        ∃ b ∈ n.blocks, Path.parse b.field = .ok field := by
      rw [List.mem_filterMap]
      apply exists_congr
      intro b
      cases Path.parse b.field <;> simp [Except.toOption]
    have hchildren : field ∈ (n.children.attach.flatMap fun child => child.1.fields) ↔
        ∃ child, n.Holds child ∧ child.Names field := by
      simp only [List.mem_flatMap, List.mem_attach, true_and, Subtype.exists]
      apply exists_congr
      intro child
      constructor
      · rintro ⟨hc, hf⟩
        have hheld := mem_children_iff.mp hc
        exact ⟨hheld, (ih child hheld).mp hf⟩
      · rintro ⟨hheld, hf⟩
        exact ⟨mem_children_iff.mpr hheld, (ih child hheld).mpr hf⟩
    rw [fields, List.mem_append, hown, hchildren, names_iff]

end Node

section
variable {root root' : Json} {here : Path} {n : Node}

theorem Spec.applied_congr {s : Spec} (h : ∀ b ∈ s.conditions, b.AddsAlike root root') :
    s.applied root = s.applied root' := by
  unfold applied
  apply List.foldl_ext
  intro s' b hb
  unfold applyReadable
  cases hfield : Path.parse b.field with
  | error e => rfl
  | ok field => simp only [h b hb field hfield]

/-- What is declared after the blocks is held by the specification. -/
theorem Spec.holds_of_mem_applied {s : Spec} {e : String × Node}
    (h : e ∈ (s.applied root).properties.entries) : (Node.spec s).Holds e.2 :=
  holds_of_applyConditions (s.applyConditions_silent root Path.root) h

/-- The walks for both inputs come to the same node and to the same issues. -/
theorem Node.extended_congr
    (h : ∀ m, n.Contains m → ∀ b ∈ m.blocks, b.AddsAlike root root') :
    n.extended root = n.extended root' ∧ n.fieldIssues root here = n.fieldIssues root' here := by
  induction here, n using Node.applied_induction root with
  | tag here name => simp
  | enum here members => simp
  | spec here s ih =>
    have happlied : s.applied root = s.applied root' := Spec.applied_congr (h _ (.refl _))
    -- An injected property is held by `s`, so its blocks are among those of `h`.
    have hchild : ∀ e ∈ (s.applied root).properties.entries,
        e.2.extended root = e.2.extended root' ∧
          e.2.fieldIssues root (here.child (.key e.1)) =
            e.2.fieldIssues root' (here.child (.key e.1)) := by
      intro e he
      apply ih e.1 e.2 he
      intro m hm
      exact h m (hm.head (Spec.holds_of_mem_applied he))
    rw [extended_spec, extended_spec, fieldIssues_spec, fieldIssues_spec, ← happlied]
    have hentries : (s.applied root).properties.entries.map (fun e => (e.1, e.2.extended root)) =
        (s.applied root).properties.entries.map fun e => (e.1, e.2.extended root') :=
      List.map_congr_left fun e he => congrArg (Prod.mk e.1) (hchild e he).1
    rw [hentries]
    exact ⟨rfl, congrArg _ (List.flatMap_congr fun e he => (hchild e he).2)⟩

theorem Node.extend_congr_root (h : ∀ m, n.Contains m → ∀ b ∈ m.blocks, b.AddsAlike root root')
    (p : Policy) : n.extend p root here = n.extend p root' here := by
  obtain ⟨hnode, hissues⟩ := extended_congr h
  rw [extend_eq_outcome, extend_eq_outcome, hnode, hissues]

end

/-- Two inputs that agree at every field that a schema names, be it on what is
there or on that nothing is, are extended for in the same way: the extended
schemas are the same, or the reports are. -/
theorem extension_reads_named_fields_only (c : Catalog) (schema : Node) (v w : Json)
    (h : ∀ field, schema.Names field → field.lookup? v = field.lookup? w) :
    extendUnder c schema v = extendUnder c schema w := by
  have halike : ∀ m, schema.Contains m → ∀ b ∈ m.blocks, b.AddsAlike v w := by
    intro m hm b hb field hfield
    rw [h field ⟨m, hm, b, hb, hfield⟩]
  rw [extendUnder_eq, extendUnder_eq, extend, extend, Node.extend_congr_root halike]

/-- An object with a block that has no path for its field and one that brings in
the property `n` by its second rule; the specification of `n` looks at an item of
`m`, and so brings in `q`. -/
def looksDeeper : Node :=
  .spec { Spec.ofTag "object" with conditions := [
    ⟨"k..", [⟨some .equal, none, some [("p", .tag "null")], none, none⟩]⟩,
    ⟨"k", [⟨some .equal, some (.string "b"), none, some ⟨some .typeOf, some (.string "string"),
      some [("n", .spec { Spec.ofTag "object" with conditions :=
        [⟨"m[0]", [⟨some .equal, some (.bool true), some [("q", .tag "string")], none, none⟩]⟩] })],
      none, none⟩, none⟩]⟩] }

/-- What is at `z`, and the rest of `m`, is not looked at. -/
theorem looksDeeper_reads :
    let v : Json := .object [("k", .string "a"), ("m", .array [.bool true]), ("z", .null)]
    let w : Json := .object
      [("z", .array []), ("m", .array [.bool true, .null]), ("k", .string "a")]
    (∀ field, looksDeeper.Names field → field.lookup? v = field.lookup? w) ∧
    extendUnder .empty looksDeeper v = extendUnder .empty looksDeeper w ∧
    extendUnder .empty looksDeeper v = .ok (.spec { Spec.ofTag "object" with
      properties := .declared [("n", .spec { Spec.ofTag "object" with
        properties := .declared [("q", .tag "string")] })] }) := by
  intro v w
  have hfields : looksDeeper.fields = [[.key "k"], [.key "m", .index 0]] := by cbv
  have hagree : ∀ field, looksDeeper.Names field → field.lookup? v = field.lookup? w := by
    intro field hf
    rw [← Node.mem_fields_iff, hfields, List.mem_pair] at hf
    rcases hf with rfl | rfl <;> cbv
  have hextended : extendUnder .empty looksDeeper v = .ok (.spec { Spec.ofTag "object" with
      properties := .declared [("n", .spec { Spec.ofTag "object" with
        properties := .declared [("q", .tag "string")] })] }) := by
    cbv
  exact ⟨hagree, extension_reads_named_fields_only .empty looksDeeper v w hagree, hextended⟩

end Conform
