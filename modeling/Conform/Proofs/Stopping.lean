import Conform.Issue.Basic

/-!
# What a check stops with

A check either runs to its end or stops at a reported issue.  A postcondition on
the issues it can stop with is proved by following the steps of the check.
-/
namespace Conform

theorem bind_eq_ok_iff {ε α β : Type} {x : Except ε α} {f : α → Except ε β} {b : β} :
    (x >>= f) = .ok b ↔ ∃ a, x = .ok a ∧ f a = .ok b := by
  cases x with
  | ok a =>
    change f a = .ok b ↔ _
    simp
  | error e =>
    change Except.error e = .ok b ↔ _
    simp

theorem bind_eq_error_iff {ε α β : Type} {x : Except ε α} {f : α → Except ε β} {e : ε} :
    (x >>= f) = .error e ↔ x = .error e ∨ ∃ a, x = .ok a ∧ f a = .error e := by
  cases x with
  | ok a =>
    change f a = .error e ↔ _
    simp
  | error e' =>
    change Except.error e' = .error e ↔ _
    simp

/-- Checks in a row stop where the first of them stops. -/
theorem forM_eq_error_iff {ε α : Type} {check : α → Except ε Unit} {xs : List α} {e : ε} :
    forM xs check = .error e ↔ ∃ before x after, xs = before ++ x :: after ∧
      (∀ y ∈ before, check y = .ok ()) ∧ check x = .error e := by
  constructor
  · intro h
    induction xs with
    | nil => cases h
    | cons x rest ih =>
      rw [List.forM_cons] at h
      rcases bind_eq_error_iff.mp h with hx | ⟨_, hx, hrest⟩
      · exact ⟨[], x, rest, rfl, List.forall_mem_nil _, hx⟩
      · obtain ⟨before, y, after, rfl, hbefore, hy⟩ := ih hrest
        exact ⟨x :: before, y, after, rfl, List.forall_mem_cons.mpr ⟨hx, hbefore⟩, hy⟩
  · rintro ⟨before, x, after, rfl, hbefore, hx⟩
    induction before with
    | nil =>
      rw [List.nil_append, List.forM_cons, hx]
      rfl
    | cons y rest ih =>
      rw [List.forall_mem_cons] at hbefore
      rw [List.cons_append, List.forM_cons, hbefore.1]
      exact ih hbefore.2

namespace Policy
variable {p : Policy} {α β : Type} {x : Except Issue α} {Q R : Issue → Prop}

/-- Whatever issue stops the check is reported and has a property. -/
def StopsWith (p : Policy) (x : Except Issue α) (Q : Issue → Prop) : Prop :=
  ∀ i, x = .error i → p.reports i.domain i.code = true ∧ Q i

theorem stopsWith_ok (a : α) : p.StopsWith (.ok a) Q := by
  intro i h
  cases h

theorem stopsWith_pure (a : α) : p.StopsWith (pure a) Q := stopsWith_ok a

theorem stopsWith_raise {i : Issue} (h : Q i) : p.StopsWith (p.raise i) Q := by
  intro j hj
  obtain ⟨hr, rfl⟩ := (raise_eq_error_iff p i j).mp hj
  exact ⟨hr, h⟩

theorem StopsWith.bind {f : α → Except Issue β} (hx : p.StopsWith x Q)
    (hf : ∀ a, x = .ok a → p.StopsWith (f a) Q) : p.StopsWith (x >>= f) Q := by
  intro i hi
  rcases bind_eq_error_iff.mp hi with h | ⟨a, ha, h⟩
  · exact hx i h
  · exact hf a ha i h

theorem StopsWith.imp (h : p.StopsWith x Q) (hQ : ∀ i, Q i → R i) : p.StopsWith x R := by
  intro i hi
  exact ⟨(h i hi).1, hQ i (h i hi).2⟩

end Policy
end Conform
