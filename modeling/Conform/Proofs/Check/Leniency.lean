import Conform.Proofs.Check.Acceptance
import Conform.Proofs.Check.Comparison
import Conform.Proofs.Extension.Result

/-!
# Fewer reports accept more

An issue that is no longer reported lets a check continue where it has stopped
before.  In a schema without defects nothing worse than an issue about the input
can follow, so an alternative that was accepted is accepted still, unless an
earlier one is accepted now.  Whatever passes under one policy therefore passes
under every policy that reports less.
-/
namespace Conform

/-- A trial that passes still passes, or goes on in the same way, as long as
nothing but the input can be objected to. -/
theorem RunRelation.passes_tryNext {x y rest rest' : Except Issue Unit} (h : passes.rel x y)
    (hrest : passes.rel rest rest') (hy : ∀ i, y = .error i → i.domain = .data) :
    passes.rel (tryNext x rest) (tryNext y rest') := by
  have hpass (hr : rest = .ok ()) : tryNext y rest' = .ok () := by
    cases y with
    | ok _ => rfl
    | error i => exact (if_pos (hy i rfl)).trans (hrest () hr)
  intro _ hok
  cases x with
  | ok _ =>
    rw [h () rfl]
    rfl
  | error i =>
    unfold tryNext at hok
    dsimp only at hok
    split at hok
    · exact hpass hok
    · cases hok

/-- One policy reports no more than another and reads patterns in the same way. -/
structure Policy.Relaxes (q p : Policy) : Prop where
  matcher? : p.matcher? = q.matcher?
  reports : ∀ domain code, q.reports domain code = true → p.reports domain code = true

namespace Policy.Relaxes
variable {p q : Policy}

theorem raise_passes (h : q.Relaxes p) (i : Issue) :
    RunRelation.passes.rel (p.raise i) (q.raise i) := by
  intro _ hok
  rw [raise_eq_ok_iff] at hok ⊢
  cases hq : q.reports i.domain i.code with
  | false => rfl
  | true =>
    rw [h.reports _ _ hq] at hok
    cases hok

def comparison (h : q.Relaxes p) : Comparison Issue Issue :=
  .ofPolicies .passes p q (fun n inEnum => n.DefectFree q.matcher? ∧ (inEnum = true → ¬n.IsEnum))
    h.matcher?
    (fun hn hc => ⟨hn.1.of_holds hc, by simp⟩)
    (fun hn ha =>
      ⟨hn.1.of_holds (.alternative ha), fun _ henum => hn.1.not_defect (.nestedEnum ha henum)⟩)
    (fun i _ => h.raise_passes i)
    fun hn hcheck hrest => RunRelation.passes_tryNext hcheck hrest fun i hi =>
      (checkNode_stops_data hn.1 hn.2 i ((checkNode_spec ..).trans hi)).2

theorem checkNode_eq_ok (h : q.Relaxes p) {n : Node} (hfree : n.DefectFree q.matcher?)
    {v : Json} {here : Path} (hok : checkNode p n (some v) here false = .ok ()) :
    checkNode q n (some v) here false = .ok () :=
  h.comparison.related n ⟨hfree, by simp⟩ (.some rfl) rfl () hok

end Policy.Relaxes

theorem Node.DefectFree.extend_eq {matcher? : String → Option (String → Bool)} {n : Node}
    (h : n.DefectFree matcher?) (p : Policy) (root : Json) :
    Conform.extend p n root = .ok (n.extended root) ∧ (n.extended root).DefectFree matcher? := by
  obtain ⟨n', hn', hfree⟩ : ∃ n', n.extend p root Path.root = .ok n' ∧ n'.DefectFree matcher? :=
    h.extend
  have hresult := (Node.extend_eq_outcome p root Path.root n).symm.trans hn'
  rw [Policy.eq_of_outcome hresult]
  exact ⟨hn', hfree⟩

/-- A schema without defects accepts under every catalog whatever it accepts
under one that has a template for each code that the first has. -/
theorem fewer_templates_accept_more (matcher? : String → Option (String → Bool))
    (c₁ c₂ : Catalog) (schema : Node) (input : Json) (hfree : schema.DefectFree matcher?)
    (hcovers : ∀ domain code, c₂.covers domain code = true → c₁.covers domain code = true)
    (h : validateWith matcher? c₁ schema input = .ok ()) :
    validateWith matcher? c₂ schema input = .ok () := by
  have hrelaxes : (c₂.policy matcher?).Relaxes (c₁.policy matcher?) := ⟨rfl, hcovers⟩
  obtain ⟨h₁, _⟩ := hfree.extend_eq (c₁.policy matcher?) input
  obtain ⟨h₂, hextended⟩ := hfree.extend_eq (c₂.policy matcher?) input
  rw [validateWith_eq_ok_iff, check, h₁] at h
  rw [validateWith_eq_ok_iff, check, h₂]
  exact hrelaxes.checkNode_eq_ok hextended h

/-- An object whose member `k` is null, or one whose member `k` is a string. -/
def eitherMember : Node :=
  .enum [
    .alternative { Spec.ofTag "object" with properties := .declared [("k", .tag "null")] },
    .alternative { Spec.ofTag "object" with properties := .declared [("k", .tag "string")] }]

/-- A text at `k` fits the second alternative; without a template for values of
the wrong type it passes the first one. -/
theorem eitherMember_accepts :
    eitherMember.DefectFree (fun _ => none) ∧
    (∀ domain code, (Catalog.builtin.unset .data .typeof).covers domain code = true →
      Catalog.builtin.covers domain code = true) ∧
    validateWith (fun _ => none) Catalog.builtin eitherMember (.object [("k", .string "a")]) =
      .ok () ∧
    validateWith (fun _ => none) (Catalog.builtin.unset .data .typeof) eitherMember
      (.object [("k", .string "a")]) = .ok () := by
  have hfree : eitherMember.DefectFree (fun _ => none) := (Node.isDefectFree_iff _).mp (by cbv)
  have hcovers : ∀ domain code, (Catalog.builtin.unset .data .typeof).covers domain code = true →
      Catalog.builtin.covers domain code = true := by
    intro domain code
    cases domain <;> cases code <;> decide
  have hcheck : check (Catalog.builtin.policy fun _ => none) eitherMember
      (.object [("k", .string "a")]) = .ok () := by
    cbv
  have haccepts := validateWith_eq_ok_iff.mpr hcheck
  exact ⟨hfree, hcovers, haccepts,
    fewer_templates_accept_more _ _ _ _ _ hfree hcovers haccepts⟩

end Conform
