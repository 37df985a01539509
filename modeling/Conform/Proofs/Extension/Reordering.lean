import Conform.Proofs.Extension.Reading
import Conform.Proofs.Json.Alignment

/-!
# Extensions and the order of keys

What a block adds depends on the value of its field, which is compared with
operands and asked for its type.  The order of keys decides none of this, so
inputs that differ in it extend a schema in the same way.
-/
namespace Conform

section
variable {field field' : Option Json}

/-- An operator does not see the order of the keys in a field. -/
theorem Operator.holds_eq (h : Option.Rel Json.Reordered field field') (op : Operator)
    (operand : Option Json) : op.holds field operand = op.holds field' operand := by
  cases h with
  | none => rfl
  | @some v w hvw =>
    have hequal := hvw.interchangeable
    have hagrees : agrees (some v) operand = agrees (some w) operand := by
      cases operand with
      | none => rfl
      | some l => exact hequal.left l
    have horder : order? (some v) operand = order? (some w) operand := by
      cases operand with
      | none => rfl
      | some l => exact hvw.aligned.compare?_eq l
    have htype : hasNamedType (some v) operand = hasNamedType (some w) operand := by
      unfold hasNamedType
      cases operand.bind Json.string? with
      | none => rfl
      | some tag => simp only [hvw.aligned.hasType?_eq]
    have hmember : occursIn (some v) operand = occursIn (some w) operand := by
      rcases operand with _ | (_ | _ | _ | _ | items | _)
      case some.array => simp only [occursIn, hequal.right]
      all_goals rfl
    cases op <;> simp only [holds, hagrees, horder, htype, hmember]

theorem Rule.resolve?_eq {α : Type} (h : Option.Rel Json.Reordered field field') (r : Rule α) :
    r.resolve? field = r.resolve? field' := by
  fun_induction Rule.resolve? field r with
  | case1 => rfl
  | case2 op operand added elseIf otherwise hop =>
    rw [Operator.holds_eq h] at hop
    unfold resolve?
    rw [if_pos hop]
  | case3 op operand added otherwise hop next ih =>
    rw [Operator.holds_eq h] at hop
    rw [resolve?, if_neg hop, ih]
  | case4 op operand added hop next ih =>
    rw [Operator.holds_eq h] at hop
    rw [resolve?, if_neg hop, ih]
  | case5 op operand added hop =>
    rw [Operator.holds_eq h] at hop
    rw [resolve?, if_neg hop]

theorem Block.additions_eq {α : Type} (h : Option.Rel Json.Reordered field field') (b : Block α) :
    b.additions field = b.additions field' := by
  unfold additions
  simp only [Rule.resolve?_eq h]

end

theorem Node.extend_eq {root root' : Json} (h : root.Reordered root') (p : Policy) (here : Path)
    (n : Node) : n.extend p root here = n.extend p root' here := by
  apply extend_congr_root
  intro m _ b _ field _
  exact b.additions_eq (h.lookup?_rel field)

end Conform
