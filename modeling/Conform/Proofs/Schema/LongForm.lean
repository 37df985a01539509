import Conform.Proofs.Extension.Revision

/-!
# The long form of a schema

A schema can be written in short: a type tag for a specification that declares
only that tag, and a list for one that declares only that enumeration.  In its
long form a schema has the specifications, wherever this makes no difference: a
bare `object` is left, since its specification admits no keys, and of the lists
only those for items are not, since they look at an absent value as well.
-/
namespace Conform

/-- A type tag in its long form. -/
def Node.ofTag (name : String) : Node :=
  if name = "object" then .tag name else .spec (.ofTag name)

/-- A specification that declares only an enumeration. -/
def Spec.ofEnum (members : List Member) : Spec := { Spec.empty with type := .enum members }

/-- A node for something that is present: an enumeration is a type then. -/
def Node.present : Node → Node
  | enum members => spec (.ofEnum members)
  | n => n

/-- Tags are written out, and the lists for items. -/
def Revision.lengthen : Revision Unit where
  inner := some ()
  tag := Node.ofTag
  item := Node.present
  eachTag name := .each (.ofTag name)

def Node.longForm : Node → Node := Revision.lengthen.node ()
def Member.longForm : Member → Member := Revision.lengthen.member ()
def TypeRef.longForm : TypeRef → TypeRef := Revision.lengthen.type ()
def Items.longForm : Items → Items := Revision.lengthen.items ()
def Spec.longForm : Spec → Spec := Revision.lengthen.spec ()

/-- The long forms of what a rule adds. -/
def longTable : Table Node → Table Node := Table.mapValues Node.longForm

theorem Spec.longForm_eq (s : Spec) : s.longForm = { s with
    type := s.type.longForm
    properties := s.properties.map Node.longForm
    items := s.items.longForm
    conditions := s.conditions.map (Block.map longTable) } := by
  have hblocks : s.conditions.filter (fun b => Revision.lengthen.keeps () b.field) = s.conditions :=
    List.filter_eq_self.mpr fun _ _ => rfl
  rw [longForm, Revision.spec_eq, hblocks]
  rfl

theorem Node.present_ofTag (name : String) : (ofTag name).present = ofTag name := by
  unfold ofTag
  split <;> rfl

namespace Node

theorem settled_of_undeclared {s : Spec} (hs : s.conditions = [])
    (hp : s.properties = .undeclared) : (spec s).Settled := by
  rw [settled_iff]
  constructor
  · rintro _ ⟨⟩
    exact hs
  · rintro child ⟨hmem⟩
    rw [hp] at hmem
    cases hmem

theorem settled_ofTag (name : String) : (ofTag name).Settled := by
  unfold ofTag
  split
  · exact settled_tag name
  · exact settled_of_undeclared rfl rfl

variable (root : Json) (here : Path)

/-- Where the input is present an enumeration is extended as the type it is. -/
theorem extend_present (p : Policy) (n : Node) :
    n.present.extend p root here = (n.extend p root here).map present := by
  cases n with
  | tag name =>
    change (tag name).extend p root here = _
    rw [extend_tag]
    rfl
  | enum members =>
    have hsettled : (enum members).present.Settled := settled_of_undeclared rfl rfl
    rw [extend_enum]
    exact hsettled.extend_eq p
  | spec s =>
    change (spec s).extend p root here = _
    rw [extend_eq_outcome, Policy.outcome_map, extended_spec]
    rfl

end Node
end Conform
