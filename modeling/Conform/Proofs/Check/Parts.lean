import Conform.Proofs.Check.Issues
import Conform.Proofs.Check.Passing
import Conform.Proofs.Extension.Walk

/-!
# The parts of a value

The check of an array goes through the items that have a node, the check of an
object through the declared properties, present or not.  Both are one walk
through a list of parts, between what is checked of the value before them and
the keys that are left over.
-/
namespace Conform

/-- A part of a value, or its absence, and the node that it is checked against. -/
structure Part where
  segment : Segment
  node : Node
  value : Option Json

/-- The items that have a node. -/
def Items.parts (items : Items) (xs : List Json) : List Part :=
  match items with
  | unconstrained => []
  | each node => xs.zipIdx.map fun e => ⟨.index e.2, node, some e.1⟩
  | positional nodes => (nodes.zip xs).zipIdx.map fun e => ⟨.index e.2, e.1.1, some e.1.2⟩
  | eachTag name => xs.zipIdx.map fun e => ⟨.index e.2, .tag name, some e.1⟩

/-- The parts of a value in the order of the check. -/
def Spec.parts (s : Spec) (v : Json) : List Part :=
  match v with
  | .array xs => s.items.parts xs
  | .object ms => s.properties.entries.map fun e => ⟨.key e.1, e.2, Table.get? ms e.1⟩
  | _ => []

theorem Items.mem_parts_iff {items : Items} {xs : List Json} {part : Part} :
    part ∈ items.parts xs ↔ ∃ k node x, items.nodeAt? k = some node ∧ xs[k]? = some x ∧
      part = ⟨.index k, node, some x⟩ := by
  -- The same node stands at every position.
  have hsame (node : Node) : part ∈ (xs.zipIdx.map fun e => ⟨.index e.2, node, some e.1⟩) ↔
      ∃ k x, xs[k]? = some x ∧ part = ⟨.index k, node, some x⟩ := by
    simp only [List.mem_map, Prod.exists, List.mk_mem_zipIdx_iff_getElem?]
    constructor
    · rintro ⟨x, k, hx, rfl⟩
      exact ⟨k, x, hx, rfl⟩
    · rintro ⟨k, x, hx, rfl⟩
      exact ⟨x, k, hx, rfl⟩
  cases items with
  | unconstrained => simp [parts, nodeAt?]
  | each node => simp [parts, nodeAt?, hsame]
  | eachTag name => simp [parts, nodeAt?, hsame]
  | positional nodes =>
    simp only [parts, nodeAt?, List.mem_map, Prod.exists, List.mk_mem_zipIdx_iff_getElem?,
      List.getElem?_zip_eq_some]
    constructor
    · rintro ⟨node, x, k, ⟨hn, hx⟩, rfl⟩
      exact ⟨k, node, x, hn, hx, rfl⟩
    · rintro ⟨k, node, x, hn, hx, rfl⟩
      exact ⟨node, x, k, ⟨hn, hx⟩, rfl⟩

theorem Spec.mem_parts_object {s : Spec} {key : String} {node : Node}
    (h : (key, node) ∈ s.properties.entries) (ms : Table Json) :
    ⟨.key key, node, ms.get? key⟩ ∈ s.parts (.object ms) :=
  List.mem_map.mpr ⟨(key, node), h, rfl⟩

theorem Spec.holds_of_mem_parts {s : Spec} {v : Json} {part : Part} (h : part ∈ s.parts v) :
    (Node.spec s).Holds part.node := by
  cases v with
  | array xs =>
    obtain ⟨k, node, x, hn, _, rfl⟩ := Items.mem_parts_iff.mp h
    exact .item (Items.mem_nodes_of_nodeAt? hn)
  | object ms =>
    obtain ⟨e, he, rfl⟩ := List.mem_map.mp h
    exact holds_of_mem_entries he
  | null | bool | number | string => cases h

theorem checkEach_eq_forM {ε : Type} {check : Json → Path → Except ε Unit} {xs : List Json}
    {here : Path} {position : Nat} : checkEach check here position xs =
      forM (xs.zipIdx position) fun e => check e.1 (here.child (.index e.2)) := by
  induction xs generalizing position with
  | nil => rfl
  | cons x rest ih => rw [checkEach, ih, List.zipIdx_cons, List.forM_cons]

section
variable {ε : Type} [Complaint ε]

def Part.check (p : Policy) (here : Path) (part : Part) : Except ε Unit :=
  checkNode p part.node part.value (here.child part.segment) false

/-- Check a value before its parts: a text, the size of an array, the range of a
number. -/
def checkContent (p : Policy) (s : Spec) (v : Json) (here : Path) : Except ε Unit :=
  match v with
  | .string text => checkText p s.limits text here s.annotations
  | .array xs => checkSize p .items s.limits xs.length here s.annotations
  | .number n => checkRange p s.limits n here s.annotations
  | _ => return

/-- Check the keys of an object after its parts. -/
def checkClosed (p : Policy) (s : Spec) (v : Json) (here : Path) : Except ε Unit :=
  match v with
  | .object ms => checkUnexpected p s.additionalProperties s.properties ms here s.annotations
  | _ => return

variable {p : Policy} {here : Path}

theorem checkPositional_eq_forM {nodes : List Node} {xs : List Json} {position : Nat} :
    (checkPositional p nodes xs here position : Except ε Unit) =
      forM ((nodes.zip xs).zipIdx position) fun e =>
        checkNode p e.1.1 (some e.1.2) (here.child (.index e.2)) false := by
  induction nodes generalizing xs position with
  | nil => rfl
  | cons node nodes ih =>
    cases xs with
    | nil => rfl
    | cons x xs => rw [checkPositional, ih, List.zip_cons_cons, List.zipIdx_cons, List.forM_cons]

theorem checkTable_eq_forM {table : Table Node} {ms : Table Json} :
    (checkTable p table ms here : Except ε Unit) = forM table fun e =>
      checkNode p e.2 (ms.get? e.1) (here.child (.key e.1)) false := by
  induction table with
  | nil => rfl
  | cons e rest ih => rw [checkTable, ih, List.forM_cons]

theorem checkItems_eq_forM (items : Items) (xs : List Json) :
    (checkItems p items xs here : Except ε Unit) = forM (items.parts xs) (Part.check p here) := by
  cases items with
  | unconstrained => rfl
  | each node =>
    rw [checkItems, checkEach_eq_forM, Items.parts, List.forM_map]
    rfl
  | positional nodes =>
    rw [checkItems, checkPositional_eq_forM, Items.parts, List.forM_map]
    rfl
  | eachTag name =>
    rw [checkItems, checkEach_eq_forM, Items.parts, List.forM_map]
    rfl

theorem checkDeclared_eq_forM (s : Spec) (ms : Table Json) :
    (checkDeclared p s.properties ms here : Except ε Unit) =
      forM (s.parts (.object ms)) (Part.check p here) := by
  rw [Spec.parts, List.forM_map]
  cases s.properties with
  | declared table =>
    rw [checkDeclared, checkTable_eq_forM]
    rfl
  | undeclared | malformed => rfl

/-- The check of a value that has its tag: what comes before its parts, the
parts, and what comes after them. -/
theorem checkFacets_eq {s : Spec} {tag : TypeTag} {v : Json} (hv : tag.admits v = true) :
    (checkFacets p s tag v here : Except ε Unit) = (do
      checkContent p s v here
      forM (s.parts v) (Part.check p here)
      checkClosed p s v here) := by
  have hnone (x : Except ε Unit) (f : Unit → Except ε Unit) (hf : f () = pure ()) :
      x = x >>= fun _ => (forM ([] : List Part) (Part.check p here) >>= f) := by
    cases x with
    | ok _ => exact hf.symm
    | error i => rfl
  cases v with
  | null => cases tag <;> rfl
  | bool value => cases tag <;> rfl
  | number n => cases tag <;> first | exact hnone _ _ rfl | cases hv
  | string text => cases tag <;> first | exact hnone _ _ rfl | cases hv
  | array xs =>
    have hfacets : (checkFacets p s tag (.array xs) here : Except ε Unit) = (do
        checkSize p .items s.limits xs.length here s.annotations
        checkItems p s.items xs here) := by
      cases tag <;> first | rfl | cases hv
    rw [hfacets, checkItems_eq_forM]
    exact congrArg _ (funext fun _ => (bind_pure _).symm)
  | object ms =>
    have hfacets : (checkFacets p s tag (.object ms) here : Except ε Unit) = (do
        checkDeclared p s.properties ms here
        checkUnexpected p s.additionalProperties s.properties ms here s.annotations) := by
      cases tag <;> first | rfl | cases hv
    rw [hfacets, checkDeclared_eq_forM]
    rfl

/-- The check of a value that has the type of its specification. -/
theorem checkSpec_of_admits {s : Spec} {tag : TypeTag} {v : Json} (inEnum : Bool)
    (htype : s.type = .tag tag.name) (hv : tag.admits v = true) :
    (checkSpec p s (some v) here inEnum : Except ε Unit) = (do
      checkProperties p s.properties here s.annotations
      checkContent p s v here
      forM (s.parts v) (Part.check p here)
      checkClosed p s v here) := by
  rw [checkSpec_tag _ _ _ _ htype]
  refine congrArg _ (funext fun _ => ?_)
  change (if _ then _ else _) = _
  split
  · -- A null that is admitted in place of a value has nothing to check.
    rename_i hnull
    rw [Bool.and_eq_true] at hnull
    cases v with
    | null => rfl
    | bool | number | string | array | object => cases hnull.2
  · rw [checkTag_of_admits (TypeTag.parse?_name tag) hv]
    exact checkFacets_eq hv

end
end Conform
