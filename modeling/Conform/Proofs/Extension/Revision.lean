import Conform.Proofs.Extension.Fixpoint
import Conform.Proofs.Schema.Revision

/-!
# Extensions of revised schemas

A revision rewrites what is declared and what can be added entry by entry, and
does not look at the difference between the two.  So it commutes with the walk of
an extension if it keeps every block whose field is a path; if it keeps the other
blocks as well, they are met in the same order at the same paths, with the same
issues.
-/
namespace Conform

theorem Properties.entries_map (f : Node → Node) (ps : Properties) :
    (ps.map f).entries = Table.mapValues f ps.entries := by
  cases ps <;> rfl

theorem Properties.map_withEntries (f : Node → Node) (ps : Properties) (table : Table Node) :
    (ps.withEntries table).map f = (ps.map f).withEntries (Table.mapValues f table) := by
  cases ps <;> rfl

namespace Revision
variable {σ : Type} {r : Revision σ} {mode : σ} (root : Json) (here : Path)

@[simp] theorem spec_annotations (s : Spec) : (r.spec mode s).annotations = s.annotations := by
  rw [spec_eq]

theorem spec_properties (s : Spec) :
    (r.spec mode s).properties = s.properties.map (r.node mode) := by
  rw [spec_eq]

/-- Properties are rewritten apart from the rest. -/
theorem spec_update (s : Spec) (ps : Properties) : r.spec mode { s with properties := ps } =
    { r.spec mode s with properties := ps.map (r.node mode) } := by
  rw [spec_eq, spec_eq]

theorem spec_clear (s : Spec) :
    r.spec mode { s with conditions := [] } = { r.spec mode s with conditions := [] } := by
  rw [spec_eq, spec_eq]
  rfl

theorem spec_inject (s : Spec) (extra : Table Node) : r.spec mode (s.inject extra) =
    (r.spec mode s).inject (Table.mapValues (r.node mode) extra) := by
  rw [Spec.inject, spec_update, Properties.map_merge, ← spec_properties]
  rfl

section
variable (hreadable : ∀ field path, Path.parse field = .ok path → r.keeps mode field = true)
include hreadable

theorem spec_applyReadable (s : Spec) (b : Block (Table Node)) :
    r.spec mode (s.applyReadable root b) = if r.keeps mode b.field then
      (r.spec mode s).applyReadable root (b.map (Table.mapValues (r.node mode)))
    else r.spec mode s := by
  unfold Spec.applyReadable
  rw [Block.map_field]
  cases hb : Path.parse b.field with
  | error e => exact (ite_self _).symm
  | ok field =>
    dsimp only
    rw [if_pos (hreadable _ _ hb), Block.additions_map, List.foldl_map]
    exact (List.foldl_hom (r.spec mode) fun s extra => (spec_inject s extra).symm).symm

/-- Blocks that are not kept would have been skipped. -/
theorem spec_applied (s : Spec) :
    r.spec mode (s.applied root) = (r.spec mode s).applied root := by
  have hconditions : (r.spec mode s).conditions =
      (s.conditions.filter fun b => r.keeps mode b.field).map
        (Block.map (Table.mapValues (r.node mode))) := by
    rw [spec_eq]
  unfold Spec.applied
  rw [← spec_clear, hconditions, List.foldl_map, List.foldl_filter]
  exact (List.foldl_hom (r.spec mode) fun s b =>
    (spec_applyReadable root hreadable s b).symm).symm

theorem applied_entries (s : Spec) : ((r.spec mode s).applied root).properties.entries =
    Table.mapValues (r.node mode) (s.applied root).properties.entries := by
  rw [← spec_applied root hreadable, spec_properties, Properties.entries_map]

variable (htag : ∀ name, (r.tag name).Settled)
include htag

/-- A revised node is extended to the revision of what the node is extended to. -/
theorem node_extended (n : Node) :
    (r.node mode n).extended root = r.node mode (n.extended root) := by
  induction Path.root, n using Node.applied_induction root with
  | tag here name =>
    rw [Node.extended_tag]
    exact (htag name).extended_eq
  | enum here members =>
    rw [Node.extended_enum]
    exact (Node.settled_enum _).extended_eq
  | spec here s ih =>
    have hextended : ((r.spec mode s).applied root).properties.entries.map
        (fun e => (e.1, e.2.extended root)) = Table.mapValues (r.node mode)
          ((s.applied root).properties.entries.map fun e => (e.1, e.2.extended root)) := by
      rw [applied_entries root hreadable, Table.mapValues, Table.mapValues, List.map_map,
        List.map_map]
      exact List.map_congr_left fun e he => congrArg (Prod.mk e.1) (ih e.1 e.2 he)
    rw [Revision.node, Node.extended_spec, Node.extended_spec, hextended,
      ← spec_applied root hreadable, spec_properties, ← Properties.map_withEntries,
      ← spec_update]
    rfl

end

section
variable (hkeeps : ∀ field, r.keeps mode field = true) (htag : ∀ name, (r.tag name).Settled)
include hkeeps htag

theorem node_fieldIssues (n : Node) :
    (r.node mode n).fieldIssues root here = n.fieldIssues root here := by
  induction here, n using Node.applied_induction root with
  | tag here name =>
    rw [Node.fieldIssues_tag]
    exact (htag name).fieldIssues_eq
  | enum here members =>
    rw [Node.fieldIssues_enum]
    exact (Node.settled_enum _).fieldIssues_eq
  | spec here s ih =>
    have hconditions : (r.spec mode s).conditions =
        s.conditions.map (Block.map (Table.mapValues (r.node mode))) := by
      simp [spec_eq, hkeeps]
    have hblocks : (r.spec mode s).conditions.flatMap ((r.spec mode s).fieldIssues here) =
        s.conditions.flatMap (s.fieldIssues here) := by
      rw [hconditions, List.flatMap_map]
      unfold Spec.fieldIssues invalidPathIssue
      rw [spec_annotations]
      rfl
    rw [Revision.node, Node.fieldIssues_spec, Node.fieldIssues_spec, hblocks,
      applied_entries root fun field _ _ => hkeeps field, Table.mapValues, List.flatMap_map]
    exact congrArg _ (List.flatMap_congr fun e he => ih e.1 e.2 he)

/-- The extension of a revised schema is the revision of its extension. -/
theorem extend_node (p : Policy) (n : Node) :
    (r.node mode n).extend p root here = (n.extend p root here).map (r.node mode) := by
  rw [Node.extend_eq_outcome, Node.extend_eq_outcome,
    node_extended root (fun field _ _ => hkeeps field) htag,
    node_fieldIssues root here hkeeps htag]
  exact (Policy.outcome_map (r.node mode)).symm

end

end Revision
end Conform
