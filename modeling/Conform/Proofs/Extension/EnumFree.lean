import Conform.Proofs.Extension.Defects
import Conform.Proofs.Extension.Result
import Conform.Proofs.Schema.Decision

/-!
# Schemas without enumerations

A schema that contains no enumeration, neither as a node nor as a type nor among
what its blocks can add, has an extension that contains none.
-/
namespace Conform
namespace Node

/-- No node that is reached is an enumeration or has one as its type. -/
def EnumFree (n : Node) : Prop := ∀ m, n.Contains m → ¬ m.IsEnum

variable {n : Node}

theorem EnumFree.not_isEnum (h : n.EnumFree) : ¬ n.IsEnum := h n (.refl n)

theorem EnumFree.of_holds {child : Node} (h : n.EnumFree) (hc : n.Holds child) : child.EnumFree :=
  fun m hm => h m (.head hc hm)

theorem EnumFree.intro (h : ¬ n.IsEnum) (hchildren : ∀ child, n.Holds child → child.EnumFree) :
    n.EnumFree := by
  intro m hm
  rcases (contains_iff n m).mp hm with rfl | ⟨child, hc, hm⟩
  · exact h
  · exact hchildren child hc m hm

/-- The children that a node lists are all that has to be looked at. -/
theorem enumFree_iff_children :
    n.EnumFree ↔ ¬ n.IsEnum ∧ ∀ child ∈ n.children, child.EnumFree := by
  constructor
  · exact fun h => ⟨h.not_isEnum, fun child hc => h.of_holds (mem_children_iff.mp hc)⟩
  · rintro ⟨h, hchildren⟩
    exact .intro h fun child hc => hchildren child (mem_children_iff.mpr hc)

theorem EnumFree.of_extend {p : Policy} {root : Json} {here : Path} {n' : Node}
    (h : n.EnumFree) (hn : n.extend p root here = .ok n') : n'.EnumFree := by
  induction here, n using Node.extension_induction Issue p root generalizing n' with
  | tag here name =>
    rw [extend_tag] at hn
    cases hn
    exact h
  | enum here members =>
    rw [extend_enum] at hn
    cases hn
    exact h
  | spec here s ih =>
    obtain ⟨s', ps, hs, hps, rfl⟩ := extend_spec_eq_ok_iff.mp hn
    apply EnumFree.intro
    · rintro ⟨members, ht⟩
      rw [(Spec.applyConditions_grows hs).same] at ht
      exact h.not_isEnum ⟨members, ht⟩
    · intro child hc
      rcases Spec.holds_of_extend hs hps hc with ⟨key, node, hmem, hext⟩ | hc
      · have hnode : node.EnumFree := h.of_holds (Spec.holds_of_applyConditions hs hmem)
        exact ih s' key node hs hmem hnode hext
      · exact h.of_holds hc

theorem EnumFree.extended (h : n.EnumFree) (root : Json) : (n.extended root).EnumFree := by
  have hn : n.extend .silent root Path.root = .ok (n.extended root) := by
    rw [extend_eq_outcome, Policy.silent_outcome]
  exact h.of_extend hn

end Node
end Conform
