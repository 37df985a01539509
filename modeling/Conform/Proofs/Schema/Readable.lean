import Conform.Proofs.Extension.Revision

/-!
# Schemas without unreadable blocks

A block whose field is not a path adds nothing.  Such blocks can be deleted from
every specification that is reached along properties, declared or added by a
rule; an extension comes to the same node, and meets no such block any more.
-/
namespace Conform

/-- The field of the block is a path. -/
def Block.isReadable {α : Type} (b : Block α) : Bool := (Path.parse b.field).isOk

/-- The blocks whose field is not a path are left out.  Items and the members of enumerations are
left as they are. -/
def Revision.keepReadable : Revision Unit where
  inner := none
  keeps _ field := (Path.parse field).isOk

def Node.keepReadable : Node → Node := Revision.keepReadable.node ()

theorem Revision.keepReadable_keeps (field : String) (path : Path)
    (h : Path.parse field = .ok path) : keepReadable.keeps () field = true := by
  change (Path.parse field).isOk = true
  rw [h]
  rfl

theorem Properties.map_eq_self {f : Node → Node} {ps : Properties}
    (h : ∀ e ∈ ps.entries, f e.2 = e.2) : ps.map f = ps := by
  cases ps with
  | declared table =>
    have htable : Table.mapValues f table = table :=
      (List.map_congr_left fun e he => congrArg (Prod.mk e.1) (h e he)).trans (List.map_id _)
    exact congrArg declared htable
  | undeclared | malformed => rfl

/-- A node without blocks along its properties is left as it is. -/
theorem Node.Settled.keepReadable_eq {n : Node} (h : n.Settled) : n.keepReadable = n := by
  induction n using Node.holds_induction with
  | h n ih =>
    cases n with
    | tag | enum => rfl
    | spec s =>
      obtain ⟨hself, hchildren⟩ := (settled_iff _).mp h
      have hproperties : s.properties.map keepReadable = s.properties := by
        apply Properties.map_eq_self
        intro e he
        have hdeclares : (spec s).Declares e.2 := .property he
        exact ih e.2 hdeclares.holds (hchildren _ hdeclares)
      have hnone : s.conditions = [] := hself s rfl
      rw [keepReadable, Revision.node, Revision.spec_eq]
      obtain ⟨_, _, _, _, _, _, _, _, _⟩ := s
      subst hnone
      exact congrArg spec (Spec.update_properties hproperties)

/-- A block raises no issue just if its field is a path. -/
theorem Spec.fieldIssues_eq_nil_iff {s : Spec} {here : Path} {b : Block (Table Node)} :
    s.fieldIssues here b = [] ↔ b.isReadable = true := by
  unfold fieldIssues Block.isReadable
  cases Path.parse b.field <;> simp [Except.isOk, Except.toBool]

/-- The walk comes to the same node without the blocks that it passes over. -/
theorem Node.extended_keepReadable (root : Json) (n : Node) :
    n.keepReadable.extended root = n.extended root := by
  have hextended : n.keepReadable.extended root = (n.extended root).keepReadable :=
    Revision.node_extended root Revision.keepReadable_keeps settled_tag n
  rw [hextended, (extended_settled root n).keepReadable_eq]

/-- Nothing is left that an extension could stop at. -/
theorem Node.fieldIssues_keepReadable (root : Json) (here : Path) (n : Node) :
    n.keepReadable.fieldIssues root here = [] := by
  induction here, n using Node.applied_induction root with
  | tag here name => exact fieldIssues_tag root here name
  | enum here members => exact fieldIssues_enum root here members
  | spec here s ih =>
    have hblocks : ∀ b ∈ (Revision.keepReadable.spec () s).conditions,
        (Revision.keepReadable.spec () s).fieldIssues here b = [] := by
      rw [Revision.spec_eq]
      intro b' hb'
      obtain ⟨b, hb, rfl⟩ := List.mem_map.mp hb'
      have hreadable : b.isReadable = true := (List.mem_filter.mp hb).2
      exact Spec.fieldIssues_eq_nil_iff.mpr hreadable
    have hentries : ∀ e ∈ ((Revision.keepReadable.spec () s).applied root).properties.entries,
        e.2.fieldIssues root (here.child (.key e.1)) = [] := by
      rw [Revision.applied_entries root Revision.keepReadable_keeps]
      intro e' he'
      obtain ⟨e, he, rfl⟩ := List.mem_map.mp he'
      exact ih e.1 e.2 he
    rw [keepReadable, Revision.node, fieldIssues_spec, List.flatMap_eq_nil_iff.mpr hblocks,
      List.flatMap_eq_nil_iff.mpr hentries, List.append_nil]

end Conform
