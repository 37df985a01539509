import Conform.Condition
import Conform.Proofs.Number.Nearest
import Mathlib.Data.String.Basic

/-!
# The operators of a condition side by side

Equality and order are two comparisons.  Strings are equal exactly if neither
comes first, and so are two numbers of which one is a double.  Two integers are
equal if they are the same, but they have the order of their nearest doubles.
So the six operators that compare agree with one another on all values but two
different integers with the same nearest double; there neither operator of a
strict order holds, and both of the others do.
-/
namespace Conform

/-- Two different integers that have the same nearest double. -/
inductive Number.Blurred : Number → Number → Prop where
  | intro {m n : Int} (hne : m ≠ n) (h : nearest m = nearest n) :
    Blurred (.integer m) (.integer n)

theorem Number.Blurred.le_natAbs {m n : Int} (h : Blurred (.integer m) (.integer n)) :
    2 ^ 53 ≤ m.natAbs ∧ 2 ^ 53 ≤ n.natAbs := by
  cases h with
  | intro hne h => exact le_natAbs_of_nearest_eq h hne

/-- Equality is the equality of the order, unless the numbers are blurred. -/
theorem Number.equal_iff_compare_iff (a b : Number) :
    (a.equal b = true ↔ a.compare b = .eq) ↔ ¬ a.Blurred b := by
  -- Two numbers of which one is a double are equal if their order says so, by definition.
  have hdouble (h : a.equal b = Double.equal a.toDouble b.toDouble)
      (hclear : ¬ a.Blurred b) : (a.equal b = true ↔ a.compare b = .eq) ↔ ¬ a.Blurred b := by
    refine iff_of_true ?_ hclear
    rw [h, Double.equal, compare, decide_eq_true_iff]
  cases a with
  | double d => exact hdouble rfl (by rintro ⟨⟩)
  | integer m =>
    cases b with
    | double d => exact hdouble rfl (by rintro ⟨⟩)
    | integer n =>
      rw [equal_integer, decide_eq_true_iff, compare_integer, compare_eq_iff_eq]
      constructor
      · rintro h ⟨hne, hnearest⟩
        exact hne (h.mpr hnearest)
      · intro h
        refine ⟨congrArg nearest, fun hnearest => ?_⟩
        by_contra hne
        exact h ⟨hne, hnearest⟩

namespace Operator

/-- Both values are present, and both are numbers or both are strings. -/
inductive Comparable : Option Json → Option Json → Prop where
  | numbers (a b : Number) : Comparable (some (.number a)) (some (.number b))
  | strings (a b : String) : Comparable (some (.string a)) (some (.string b))

/-- The operators agree as those of one order do. -/
structure Coherent (field operand : Option Json) : Prop where
  trichotomy : ∃! op, op ∈ [less, equal, greater] ∧ op.holds field operand = true
  atLeast : atLeast.holds field operand = true ↔
    greater.holds field operand = true ∨ equal.holds field operand = true
  atMost : atMost.holds field operand = true ↔
    less.holds field operand = true ∨ equal.holds field operand = true
  notEqual : notEqual.holds field operand = true ↔ ¬ equal.holds field operand = true

/-- No operator of an order holds, and one of equality does. -/
structure Unordered (field operand : Option Json) : Prop where
  order : ∀ op ∈ [less, greater, atMost, atLeast], op.holds field operand = false
  equality : ∃! op, op ∈ [equal, notEqual] ∧ op.holds field operand = true

/-- Both values are present, and they are blurred numbers. -/
inductive Blurred : Option Json → Option Json → Prop where
  | intro {a b : Number} (h : a.Blurred b) : Blurred (some (.number a)) (some (.number b))

variable {field operand : Option Json} {order : Ordering}

/-- The order of two comparable values exists, and no other does. -/
theorem comparable_iff : Comparable field operand ↔ ∃ order, order? field operand = some order := by
  constructor
  · rintro (⟨a, b⟩ | ⟨a, b⟩)
    · exact ⟨_, rfl⟩
    · exact ⟨_, rfl⟩
  · rintro ⟨order, h⟩
    cases field with
    | none => cases h
    | some a =>
      cases operand with
      | none => cases a <;> cases h
      | some b =>
        change a.compare? b = some order at h
        cases a <;> cases b <;> first | exact .numbers _ _ | exact .strings _ _ | cases h

/-- The operator that asks for an order. -/
def ofOrder : Ordering → Operator
  | .lt => less
  | .eq => equal
  | .gt => greater

section
variable (h : order? field operand = some order)
include h

theorem less_holds_iff : less.holds field operand = true ↔ order = .lt := by
  simp [holds, h]

theorem greater_holds_iff : greater.holds field operand = true ↔ order = .gt := by
  simp [holds, h]

theorem atLeast_holds_iff :
    atLeast.holds field operand = true ↔ order = .gt ∨ order = .eq := by
  simp [holds, h]

theorem atMost_holds_iff : atMost.holds field operand = true ↔ order = .lt ∨ order = .eq := by
  simp [holds, h]

/-- If equality is the equality of the order, one of three operators holds. -/
theorem holds_iff_eq_ofOrder (hagree : agrees field operand = true ↔ order = .eq) {op : Operator}
    (hop : op ∈ [less, equal, greater]) : op.holds field operand = true ↔ op = ofOrder order := by
  simp only [List.mem_cons, List.not_mem_nil, or_false] at hop
  rcases hop with rfl | rfl | rfl
  · rw [less_holds_iff h]
    cases order <;> simp [ofOrder]
  · change agrees field operand = true ↔ _
    rw [hagree]
    cases order <;> simp [ofOrder]
  · rw [greater_holds_iff h]
    cases order <;> simp [ofOrder]

/-- Where there is an order, the operators agree just if equality is its equality. -/
theorem coherent_iff_of_order :
    Coherent field operand ↔ (agrees field operand = true ↔ order = .eq) := by
  constructor
  · intro hcoherent
    obtain ⟨op, ⟨hop, hholds⟩, hunique⟩ := hcoherent.trichotomy
    have hequal (heq : agrees field operand = true) : op = equal :=
      (hunique equal ⟨by simp, heq⟩).symm
    cases order with
    | lt =>
      have hless : op = less := (hunique less ⟨by simp, (less_holds_iff h).mpr rfl⟩).symm
      exact iff_of_false (fun heq => by cases hless.symm.trans (hequal heq)) (by simp)
    | gt =>
      have hgreater : op = greater :=
        (hunique greater ⟨by simp, (greater_holds_iff h).mpr rfl⟩).symm
      exact iff_of_false (fun heq => by cases hgreater.symm.trans (hequal heq)) (by simp)
    | eq =>
      -- Neither strict operator holds, so the one that does is equality.
      simp only [List.mem_cons, List.not_mem_nil, or_false] at hop
      rcases hop with rfl | rfl | rfl
      · cases (less_holds_iff h).mp hholds
      · exact iff_of_true hholds rfl
      · cases (greater_holds_iff h).mp hholds
  · intro hagree
    have hequal : equal.holds field operand = true ↔ order = .eq := hagree
    refine ⟨⟨ofOrder order, ⟨?_, ?_⟩, ?_⟩, ?_, ?_, ?_⟩
    · cases order <;> simp [ofOrder]
    · exact (holds_iff_eq_ofOrder h hagree (by cases order <;> simp [ofOrder])).mpr rfl
    · rintro op ⟨hop, hholds⟩
      exact (holds_iff_eq_ofOrder h hagree hop).mp hholds
    · rw [atLeast_holds_iff h, greater_holds_iff h, hequal]
    · rw [atMost_holds_iff h, less_holds_iff h, hequal]
    · simp [holds]

end

theorem unordered_of_no_order (h : order? field operand = none) : Unordered field operand where
  order := by simp [holds, h]
  equality := by
    cases hagree : agrees field operand with
    | true =>
      refine ⟨equal, ⟨by simp, hagree⟩, ?_⟩
      simp [holds, hagree]
    | false =>
      refine ⟨notEqual, ⟨by simp, by simp [holds, hagree]⟩, ?_⟩
      simp [holds, hagree]

/-- The operators agree on two comparable values unless these are blurred numbers. -/
theorem Comparable.coherent_iff (h : Comparable field operand) :
    Coherent field operand ↔ ¬ Blurred field operand := by
  cases h with
  | numbers a b =>
    have hblurred : Blurred (some (.number a)) (some (.number b)) ↔ a.Blurred b :=
      ⟨fun ⟨h⟩ => h, .intro⟩
    have horder : order? (some (.number a)) (some (.number b)) = some (a.compare b) := rfl
    rw [coherent_iff_of_order horder, hblurred]
    exact Number.equal_iff_compare_iff a b
  | strings a b =>
    have horder : order? (some (.string a)) (some (.string b)) = some (Ord.compare a b) := rfl
    rw [coherent_iff_of_order horder]
    refine iff_of_true ?_ (by rintro ⟨⟩)
    rw [compare_eq_iff_eq]
    exact decide_eq_true_iff

/-- Of the operators that compare, those that are not strict hold of blurred
numbers, and inequality. -/
theorem Blurred.holds_iff (h : Blurred field operand) {op : Operator}
    (hop : op ∈ [less, equal, greater, notEqual, atMost, atLeast]) :
    op.holds field operand = true ↔ op ∈ [notEqual, atMost, atLeast] := by
  obtain ⟨⟨hne, hnearest⟩⟩ := h
  rename_i m n
  have horder : order? (some (.number (.integer m))) (some (.number (.integer n))) = some .eq := by
    change some ((Number.integer m).compare (.integer n)) = _
    rw [Number.compare_integer, compare_eq_iff_eq.mpr hnearest]
  have hagree : agrees (some (.number (.integer m))) (some (.number (.integer n))) = false :=
    decide_eq_false hne
  simp only [List.mem_cons, List.not_mem_nil, or_false] at hop
  rcases hop with rfl | rfl | rfl | rfl | rfl | rfl <;> simp [holds, horder, hagree]

/-- The operators that compare agree with one another on two numbers and on two
strings, unless the numbers are blurred: then the order takes two integers from
`2^53` on for equal that equality tells apart.  On all other values, present or
absent, no operator of an order holds and one of equality does. -/
theorem operators_agree_iff (field operand : Option Json) :
    (Comparable field operand → (Coherent field operand ↔ ¬ Blurred field operand)) ∧
    (¬ Comparable field operand → Unordered field operand) ∧
    (Blurred field operand → ∀ op ∈ [less, equal, greater, notEqual, atMost, atLeast],
      (op.holds field operand = true ↔ op ∈ [notEqual, atMost, atLeast])) ∧
    ∀ m n : Int, field = some (.number (.integer m)) → operand = some (.number (.integer n)) →
      Blurred field operand → 2 ^ 53 ≤ m.natAbs ∧ 2 ^ 53 ≤ n.natAbs := by
  refine ⟨Comparable.coherent_iff, fun h => ?_, fun h op => h.holds_iff, ?_⟩
  · rw [comparable_iff] at h
    exact unordered_of_no_order (Option.eq_none_iff_forall_ne_some.mpr fun order horder =>
      h ⟨order, horder⟩)
  · rintro m n rfl rfl ⟨hblurred⟩
    exact hblurred.le_natAbs

/-- The last integer up to which all integers are doubles. -/
def lastExact : Option Json := some (.number (.integer 9007199254740992))

/-- The integer after it, which is rounded to it. -/
def firstRounded : Option Json := some (.number (.integer 9007199254740993))

/-- The largest word agrees with the double that it is rounded to, which equals it;
an absent field has no order; and of two integers with one double each is at least
and at most the other. -/
theorem operators_agree_at_limits :
    Coherent (some (.number (.integer 18446744073709551615)))
      (some (.number (.double ⟨false, 0x10000000000000, 12⟩))) ∧
    Unordered none lastExact ∧
    Blurred firstRounded lastExact ∧
    atLeast.holds firstRounded lastExact = true ∧
    2 ^ 53 ≤ (9007199254740993 : Int).natAbs := by
  have hblurred : Blurred firstRounded lastExact := ⟨⟨by decide, by decide +kernel⟩⟩
  obtain ⟨_, _, hholds, hlarge⟩ := operators_agree_iff firstRounded lastExact
  refine ⟨((operators_agree_iff _ _).1 (.numbers _ _)).mpr ?_,
    (operators_agree_iff _ _).2.1 ?_, hblurred, (hholds hblurred _ (by simp)).mpr (by simp),
    (hlarge _ _ rfl rfl hblurred).1⟩
  · rintro ⟨⟨⟩⟩
  · rintro ⟨⟩

/-- The integer is not equal to the one before it, and neither comes first. -/
theorem successor_has_no_place :
    Comparable firstRounded lastExact ∧
    (∀ op ∈ [less, equal, greater], op.holds firstRounded lastExact = false) ∧
    ¬ Coherent firstRounded lastExact := by
  have hnone : ∀ op ∈ [less, equal, greater], op.holds firstRounded lastExact = false := by
    decide +kernel
  refine ⟨.numbers _ _, hnone, fun h => ?_⟩
  obtain ⟨op, ⟨hop, hholds⟩, -⟩ := h.trichotomy
  rw [hnone op hop] at hholds
  cases hholds

end Operator
end Conform
