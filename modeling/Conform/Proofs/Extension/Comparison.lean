import Conform.Proofs.Extension.Walk
import Conform.Proofs.Runs

/-!
# Two extensions side by side

Two walks for one input, under two policies, do the same until one of them stops.
A relation between runs that holds of each issue as it is raised holds of both
walks.
-/
namespace Conform

namespace RunRelation
variable {ε ε' : Type} [Complaint ε] [Complaint ε'] (R : RunRelation ε ε') {p q : Policy}
  {root : Json} {here : Path}

/-- The issues that an extension raises are related. -/
def OnFields (R : RunRelation ε ε') (p q : Policy) : Prop :=
  ∀ (s : Spec) (here : Path) (field reason : String),
    R.rel (p.raise (invalidPathIssue s here field reason))
      (q.raise (invalidPathIssue s here field reason))

variable {R}

theorem applyBlock_rel (h : R.OnFields p q) (s : Spec) (b : Block (Table Node)) :
    R.rel (s.applyBlock p root here b) (s.applyBlock q root here b) := by
  unfold Spec.applyBlock
  cases Path.parse b.field with
  | ok field => exact R.ok _
  | error e =>
    have hraise := R.bind (h s here b.field e.reason) fun _ _ _ => R.ok s
    dsimp only
    cases hp : (p.raise (invalidPathIssue s here b.field e.reason) : Except ε Unit) <;>
      cases hq : (q.raise (invalidPathIssue s here b.field e.reason) : Except ε' Unit) <;>
        rw [hp, hq] at hraise <;> exact hraise

theorem applyBlocks_rel (h : R.OnFields p q) (s : Spec) (blocks : List (Block (Table Node))) :
    R.rel (s.applyBlocks p root here blocks) (s.applyBlocks q root here blocks) := by
  induction blocks generalizing s with
  | nil => exact R.ok s
  | cons b rest ih =>
    rw [Spec.applyBlocks_cons, Spec.applyBlocks_cons]
    exact R.bind (applyBlock_rel h s b) fun s' _ _ => ih s'

theorem extendTable_rel {table : Table Node} (h : ∀ e ∈ table,
      R.rel (e.2.extend p root (here.child (.key e.1)))
        (e.2.extend q root (here.child (.key e.1)))) :
    R.rel (extendTable p root here table) (extendTable q root here table) := by
  induction table with
  | nil =>
    rw [extendTable, extendTable]
    exact R.ok []
  | cons e rest ih =>
    rw [List.forall_mem_cons] at h
    rw [extendTable_cons, extendTable_cons]
    refine R.bind h.1 fun node _ _ => ?_
    exact R.bind (ih h.2) fun rest' _ _ => R.ok _

theorem extendProperties_rel {ps : Properties} (h : ∀ e ∈ ps.entries,
      R.rel (e.2.extend p root (here.child (.key e.1)))
        (e.2.extend q root (here.child (.key e.1)))) :
    R.rel (ps.extend p root here) (ps.extend q root here) := by
  cases ps with
  | declared table =>
    rw [Properties.extend_declared, Properties.extend_declared]
    have htable := R.bind (extendTable_rel h) fun table' _ _ => R.ok (Properties.declared table')
    exact htable
  | undeclared | malformed => exact R.ok _

theorem extend_rel (h : R.OnFields p q) (n : Node) :
    R.rel (n.extend p root here) (n.extend q root here) := by
  induction here, n using Node.extension_induction ε p root with
  | tag here name =>
    rw [Node.extend_tag, Node.extend_tag]
    exact R.ok _
  | enum here members =>
    rw [Node.extend_enum, Node.extend_enum]
    exact R.ok _
  | spec here s ih =>
    rw [Node.extend_spec, Node.extend_spec]
    refine R.bind (applyBlocks_rel h _ _) fun s' hs _ => ?_
    refine R.bind (extendProperties_rel fun e he => ih s' e.1 e.2 hs he) fun ps _ _ => ?_
    exact R.ok _

end RunRelation

/-- The walk does not read patterns. -/
theorem Node.extend_congr {p q : Policy} {root : Json} {here : Path} (h : p.reports = q.reports)
    (n : Node) : n.extend p root here = n.extend q root here := by
  apply RunRelation.same.extend_rel
  intro s here field reason
  change p.raise _ = q.raise _
  rw [Policy.raise_def, Policy.raise_def, h]

end Conform
