import Conform.Proofs.Check.Comparison
import Conform.Proofs.Extension.Comparison
import Mathlib

/-!
# Issues and their wording

A run can stop with an issue as it is, or with a report that words it where it is
raised.  Nothing but the domain of what was raised is looked at again, in the
trial of an alternative.  So it is the same to word each issue on the spot, those
of rejected alternatives included, and to word only the one that the run stops
with.

Runs on given inputs are evaluated in the modules that build on this one.  For the
equations of library functions that they unfold, all of Mathlib is imported here.
-/
namespace Conform
variable {ε : Type} [Complaint ε] {p : Policy}

/-- The complaint is made of the issue. -/
def Issue.WordedAs (i : Issue) (e : ε) : Prop := e = Complaint.ofIssue i

theorem Policy.raise_worded (p : Policy) (i : Issue) :
    Alike Issue.WordedAs (p.raise i) (p.raise i : Except ε Unit) := by
  unfold raise
  split
  · exact .error rfl
  · exact .ok ()

/-- Both runs know what an alternative was rejected with by its domain. -/
theorem checkNode_worded (n : Node) (input : Json) (here : Path) :
    Alike Issue.WordedAs (checkNode p n (some input) here false)
      (checkNode p n (some input) here false : Except ε Unit) :=
  (Comparison.ofPolicies (.alike Issue.WordedAs) p p (fun _ _ => True) rfl (fun _ _ => trivial)
    (fun _ _ => trivial) (fun i _ => p.raise_worded i) fun _ hcheck hrest =>
      Alike.tryNext (fun i _ h => h ▸ (Complaint.domain_ofIssue i).symm) hcheck hrest).related
    n trivial (.some rfl) rfl

theorem Node.extend_worded (root : Json) (here : Path) (n : Node) :
    (n.extend p root here : Except ε Node) =
      (n.extend p root here).mapError Complaint.ofIssue := by
  apply Alike.iff_mapError.mp
  exact RunRelation.extend_rel (R := .alike Issue.WordedAs) (fun _ _ _ _ => p.raise_worded _) n

/-- To word each issue as it is raised is to word the one that stops the check. -/
theorem check_worded (schema : Node) (input : Json) : (check p schema input : Except ε Unit) =
    (check p schema input).mapError Complaint.ofIssue := by
  have hextend : Alike Issue.WordedAs (extend p schema input)
      (extend p schema input : Except ε Node) := Alike.iff_mapError.mpr (schema.extend_worded ..)
  exact Alike.iff_mapError.mp (hextend.bind fun n _ _ => checkNode_worded n input Path.root)

theorem validateWith_eq (matcher? : String → Option (String → Bool)) (c : Catalog) (schema : Node)
    (input : Json) : validateWith matcher? c schema input =
      (check (c.policy matcher?) schema input).mapError c.report :=
  @check_worded c.Wording _ ..

theorem extendUnder_eq (c : Catalog) (schema : Node) (input : Json) :
    extendUnder c schema input = (extend (c.policy fun _ => none) schema input).mapError c.report :=
  @Node.extend_worded c.Wording _ ..

end Conform
