import Conform.Proofs.Extension.Fixpoint
import Conform.Proofs.Schema.Decision

/-!
# The walk of an extension goes down

Depth is counted along edges: along those to the declared properties and, where they are to
count, along those to what the rules of a block can add, on every branch of a rule.  After its
blocks a specification declares what it declared before and some of what its rules add.  So each
node that the walk goes on to is less deep than the specification was when the walk came to it;
the walk ends, and it leaves nothing behind that is deeper than what it began with.
-/
namespace Conform

/-- The edges that a depth is counted along. -/
inductive Edges where
  /-- Those to the declared properties. -/
  | declared
  /-- Those to the declared properties and to all that the blocks can add. -/
  | all
deriving DecidableEq, Repr

/-- The entries that the edges from a specification lead to. -/
def Spec.targets (s : Spec) : Edges → Table Node
  | .declared => s.properties.entries
  | .all => s.properties.entries ++ s.conditions.flatMap fun b => b.tables.flatten

namespace Spec
variable {s : Spec} {edges : Edges} {e : String × Node}

theorem mem_targets_all_iff : e ∈ s.targets .all ↔
    e ∈ s.properties.entries ∨ ∃ b ∈ s.conditions, ∃ extra, b.Adds extra ∧ e ∈ extra := by
  simp [targets, Block.mem_tables_iff]

theorem targets_of_no_conditions (h : s.conditions = []) :
    s.targets edges = s.properties.entries := by
  cases edges <;> simp [targets, h]

theorem holds_of_mem_targets (h : e ∈ s.targets edges) : (Node.spec s).Holds e.2 := by
  have hall : e ∈ s.targets .all := by
    cases edges with
    | declared => exact List.mem_append_left _ h
    | all => exact h
  rcases mem_targets_all_iff.mp hall with he | ⟨b, hb, extra, hadds, he⟩
  · exact holds_of_mem_entries he
  · exact .added hb hadds he

end Spec

namespace Node

/-- The number of edges on the longest way down from a node. -/
def depthAlong (edges : Edges) : Node → Nat
  | spec s => ((s.targets edges).attach.map fun e => e.1.2.depthAlong edges + 1).foldr max 0
  | _ => 0
termination_by n => sizeOf n
decreasing_by exact (Spec.holds_of_mem_targets e.2).sizeOf_lt

@[simp] theorem depthAlong_tag (edges : Edges) (name : String) :
    (tag name).depthAlong edges = 0 := by
  simp [depthAlong]

@[simp] theorem depthAlong_enum (edges : Edges) (members : List Member) :
    (enum members).depthAlong edges = 0 := by
  simp [depthAlong]

theorem depthAlong_spec (edges : Edges) (s : Spec) : (spec s).depthAlong edges =
    ((s.targets edges).map fun e => e.2.depthAlong edges + 1).foldr max 0 := by
  rw [depthAlong, List.attach_map_val (f := fun e : String × Node => e.2.depthAlong edges + 1)]

theorem depthAlong_spec_le_iff {edges : Edges} {s : Spec} {d : Nat} :
    (spec s).depthAlong edges ≤ d ↔ ∀ e ∈ s.targets edges, e.2.depthAlong edges < d := by
  rw [depthAlong_spec]
  induction s.targets edges with
  | nil => simp
  | cons e rest ih =>
    rw [List.map_cons, List.foldr_cons, Nat.max_le, ih, List.forall_mem_cons]
    exact Iff.rfl

end Node

section
variable {p : Policy} {root : Json} {here : Path} {s s' : Spec} {e : String × Node}

/-- What is declared after the blocks is less deep than the specification was before. -/
theorem Spec.depthAlong_lt_of_applyConditions (hs : s.applyConditions p root here = .ok s')
    (he : e ∈ s'.properties.entries) :
    e.2.depthAlong .all < (Node.spec s).depthAlong .all := by
  have htarget : e ∈ s.targets .all :=
    mem_targets_all_iff.mpr ((applyConditions_grows hs).entries e he)
  exact Node.depthAlong_spec_le_iff.mp (Nat.le_refl _) e htarget

end

/-- The declared nodes in turn, each together with its key. -/
def Properties.mapNodesM {m : Type → Type} [Monad m] (f : String → Node → m Node) :
    Properties → m Properties
  | declared table => declared <$> table.mapM fun e => return (e.1, ← f e.1 e.2)
  | ps => return ps

namespace Node

/-- The walk goes from a specification to the properties that there are after its blocks, those
that have been injected included, unless it fails before it comes to one of them. -/
inductive Visits (p : Policy) (root : Json) : Path × Node → Path × Node → Prop where
  | property {here : Path} {s s' : Spec} {key : String} {child : Node}
    (hs : s.applyConditions p root here = .ok s') (hc : (key, child) ∈ s'.properties.entries) :
    Visits p root (here, spec s) (here.child (.key key), child)

/-- The walk with a bound on the calls that are open at once; nothing, if they do not suffice. -/
def extendWithin (p : Policy) (root : Json) : Nat → Path → Node → ExceptT Issue Option Node
  | 0, _, _ => .mk none
  | calls + 1, here, spec s => do
    let s' ← .mk (some (s.applyConditions p root here))
    let ps ← s'.properties.mapNodesM fun key => extendWithin p root calls (here.child (.key key))
    return spec { s' with properties := ps }
  | _ + 1, _, n => return n

section
variable {p : Policy} {root : Json} {here : Path} {n : Node}

theorem Visits.depthAlong_lt {x y : Path × Node} (h : Visits p root x y) :
    y.2.depthAlong .all < x.2.depthAlong .all := by
  obtain ⟨hs, hc⟩ := h
  exact Spec.depthAlong_lt_of_applyConditions hs hc

/-- There is no endless way from one visit to the next. -/
theorem wellFounded_visits (p : Policy) (root : Json) :
    WellFounded fun y x => Visits p root x y :=
  Subrelation.wf Visits.depthAlong_lt (measure fun x : Path × Node => x.2.depthAlong .all).wf

/-- If each entry is walked through to its end, so is the table. -/
theorem mapM_eq_extendTable {walk : String → Node → ExceptT Issue Option Node} {table : Table Node}
    (h : ∀ e ∈ table, walk e.1 e.2 = .mk (some (e.2.extend p root (here.child (.key e.1))))) :
    (table.mapM fun e => return (e.1, ← walk e.1 e.2)) =
      ExceptT.mk (some (extendTable p root here table)) := by
  induction table with
  | nil =>
    rw [extendTable]
    rfl
  | cons e rest ih =>
    obtain ⟨key, node⟩ := e
    rw [List.forall_mem_cons] at h
    rw [List.mapM_cons, h.1, ih h.2, extendTable_cons]
    cases node.extend p root (here.child (.key key)) with
    | error i => rfl
    | ok node' => cases extendTable p root here rest <;> rfl

theorem mapNodesM_eq_extend {walk : String → Node → ExceptT Issue Option Node} {ps : Properties}
    (h : ∀ e ∈ ps.entries, walk e.1 e.2 = .mk (some (e.2.extend p root (here.child (.key e.1))))) :
    ps.mapNodesM walk = .mk (some (ps.extend p root here)) := by
  cases ps with
  | declared table =>
    have htable : ∀ e ∈ table, _ := h
    rw [Properties.mapNodesM, mapM_eq_extendTable htable, Properties.extend_declared]
    cases extendTable p root here table <;> rfl
  | undeclared | malformed => rfl

/-- More calls than the node is deep suffice for the whole walk. -/
theorem extendWithin_eq {calls : Nat} (h : n.depthAlong .all < calls) :
    n.extendWithin p root calls here = .mk (some (n.extend p root here)) := by
  induction calls generalizing here n with
  | zero => omega
  | succ calls ih =>
    cases n with
    | tag name =>
      rw [extend_tag]
      rfl
    | enum members =>
      rw [extend_enum]
      rfl
    | spec s =>
      rw [extend_spec, extendWithin]
      cases hs : s.applyConditions p root here with
      | error i => rfl
      | ok s' =>
        have hps : s'.properties.mapNodesM
            (fun key => extendWithin p root calls (here.child (.key key))) =
              .mk (some (s'.properties.extend p root here)) := by
          apply mapNodesM_eq_extend
          intro e he
          have hlt := Spec.depthAlong_lt_of_applyConditions hs he
          exact ih (by omega)
        change (s'.properties.mapNodesM _ >>= _ : ExceptT Issue Option Node) =
          .mk (some (s'.properties.extend p root here >>= _))
        rw [hps]
        cases s'.properties.extend p root here <;> rfl

theorem depthAlong_extended_le (edges : Edges) (root : Json) (n : Node) :
    (n.extended root).depthAlong edges ≤ n.depthAlong .all := by
  induction Path.root, n using Node.applied_induction root with
  | tag here name => simp
  | enum here members => simp
  | spec here s ih =>
    have hnone : (s.applied root).conditions = [] := by rw [Spec.applied_grows.same]
    have htargets (ps : Properties) :
        ({ s.applied root with properties := ps } : Spec).targets edges = ps.entries :=
      Spec.targets_of_no_conditions hnone
    rw [extended_spec, depthAlong_spec_le_iff, htargets]
    intro e' he'
    obtain ⟨e, he, rfl⟩ := List.mem_map.mp (Properties.mem_of_withEntries he')
    calc (e.2.extended root).depthAlong edges ≤ e.2.depthAlong .all := ih e.1 e.2 he
      _ < (spec s).depthAlong .all :=
        Spec.depthAlong_lt_of_applyConditions (s.applyConditions_silent root here) he

end
end Node

/-- The walk of an extension ends, with as many calls inside one another as the node is deep and
one more.  Each visit leads from a node to less deep ones, be they declared or injected, so that
there is no endless way; and the extension is no deeper along any edges than the node is with all
that its blocks can add. -/
theorem extension_walk_descends (p : Policy) (root : Json) (here : Path) (n : Node) :
    (∀ calls, n.depthAlong .all < calls →
      (n.extendWithin p root calls here).run = some (n.extend p root here)) ∧
    (∀ x y : Path × Node, Node.Visits p root x y →
      y.2.depthAlong .all < x.2.depthAlong .all) ∧
    (WellFounded fun y x => Node.Visits p root x y) ∧
    ∀ extended, n.extend p root here = .ok extended →
      ∀ edges, extended.depthAlong edges ≤ n.depthAlong .all := by
  refine ⟨fun calls h => Node.extendWithin_eq h, fun x y h => h.depthAlong_lt,
    Node.wellFounded_visits p root, fun extended h edges => ?_⟩
  rw [Node.extend_eq_outcome] at h
  rw [← Policy.eq_of_outcome h]
  exact Node.depthAlong_extended_le edges root n

/-- An object with a block that injects `b`. -/
def innerInjection : Node :=
  .spec { Spec.ofTag "object" with
    conditions := [⟨"k", [⟨some .notEqual, none, some [("b", .tag "null")], none, none⟩]⟩] }

/-- An object with a rule that does not hold, and with an alternative that injects
`innerInjection`. -/
def nestedInjection : Spec :=
  { Spec.ofTag "object" with
    conditions := [⟨"k", [⟨some .less, some .null, none,
      some ⟨some .equal, some (.string "on"), some [("a", innerInjection)], none, none⟩, none⟩]⟩] }

def nestedInjectionExtended : Node :=
  .spec { Spec.ofTag "object" with
    properties := .declared [("a", .spec { Spec.ofTag "object" with
      properties := .declared [("b", .tag "null")] })] }

/-- What is injected is visited and injects in turn.  The walk takes three calls inside one
another, and the extension has all of the depth that the blocks had in store. -/
theorem extension_walk_descends_nestedInjection :
    let input := Json.object [("k", .string "on")]
    (Node.spec nestedInjection).depthAlong .declared = 0 ∧
    (Node.spec nestedInjection).depthAlong .all = 2 ∧
    ((Node.spec nestedInjection).extendWithin .silent input 2 Path.root).run = none ∧
    ((Node.spec nestedInjection).extendWithin .silent input 3 Path.root).run =
      some (.ok nestedInjectionExtended) ∧
    Node.Visits .silent input (Path.root, .spec nestedInjection) ([.key "a"], innerInjection) ∧
    innerInjection.depthAlong .all < (Node.spec nestedInjection).depthAlong .all ∧
    (Node.spec nestedInjection).extend .silent input Path.root = .ok nestedInjectionExtended ∧
    nestedInjectionExtended.depthAlong .declared = 2 ∧
    nestedInjectionExtended.depthAlong .declared ≤ (Node.spec nestedInjection).depthAlong .all := by
  intro input
  obtain ⟨hwalk, hvisits, -, hdepth⟩ :=
    extension_walk_descends .silent input Path.root (.spec nestedInjection)
  have hall : (Node.spec nestedInjection).depthAlong .all = 2 := by cbv
  have hextend : (Node.spec nestedInjection).extend .silent input Path.root =
      .ok nestedInjectionExtended := by cbv
  have hblocks : nestedInjection.applyConditions .silent input Path.root =
      .ok { Spec.ofTag "object" with properties := .declared [("a", innerInjection)] } := by cbv
  have hvisit : Node.Visits .silent input (Path.root, .spec nestedInjection)
      ([.key "a"], innerInjection) :=
    .property hblocks (.head _)
  exact ⟨by cbv, hall, by cbv, (hwalk 3 (by omega)).trans (congrArg some hextend), hvisit,
    hvisits _ _ hvisit, hextend, by cbv, hdepth _ hextend .declared⟩

end Conform
