import Conform.Proofs.Stopping

/-!
# The outcome of a list of issues

A check that does not look at what is reported comes to the same issues in the
same order under every policy.  Its outcome is the first of them that is
reported, and its value if there is none; one such check after another has the
outcome of both lists together.
-/
namespace Conform
namespace Policy
variable {p : Policy} {α β : Type}

/-- The first issue of a list that is reported. -/
def first? (p : Policy) (issues : List Issue) : Option Issue :=
  issues.find? fun i => p.reports i.domain i.code

/-- Stop with the first issue that is reported, or else end with a value. -/
def outcome (p : Policy) (issues : List Issue) (a : α) : Except Issue α :=
  match p.first? issues with
  | some i => .error i
  | none => .ok a

theorem first?_append (xs ys : List Issue) :
    p.first? (xs ++ ys) = (p.first? xs).or (p.first? ys) :=
  List.find?_append

@[simp] theorem outcome_nil (a : α) : p.outcome [] a = .ok a := rfl

theorem raise_eq_outcome (i : Issue) : p.raise i = p.outcome [i] () := by
  rw [raise_def]
  unfold outcome first?
  cases h : p.reports i.domain i.code <;> simp [h]

theorem outcome_bind {xs ys : List Issue} {a : α} {b : β} {f : α → Except Issue β}
    (h : f a = p.outcome ys b) : (p.outcome xs a >>= f) = p.outcome (xs ++ ys) b := by
  unfold outcome at h ⊢
  rw [first?_append]
  cases p.first? xs with
  | some i => rfl
  | none => exact h

theorem outcome_append (xs ys : List Issue) (a : α) :
    p.outcome (xs ++ ys) a = (p.outcome xs () >>= fun _ => p.outcome ys a) := by
  symm
  exact outcome_bind rfl

/-- What follows an outcome is run with its value. -/
theorem outcome_bind_eq (xs : List Issue) (a : α) (f : α → Except Issue β) :
    (p.outcome xs a >>= f) = (p.outcome xs () >>= fun _ => f a) := by
  unfold outcome
  cases p.first? xs <;> rfl

theorem outcome_cons_of_reports {i : Issue} (h : p.reports i.domain i.code = true)
    (rest : List Issue) (a : α) : p.outcome (i :: rest) a = .error i := by
  have hfirst : p.first? (i :: rest) = some i := List.find?_cons_of_pos h
  rw [outcome, hfirst]

theorem eq_of_outcome {xs : List Issue} {a b : α} (h : p.outcome xs a = .ok b) : a = b := by
  unfold outcome at h
  cases hf : p.first? xs with
  | some i =>
    rw [hf] at h
    cases h
  | none =>
    rw [hf] at h
    exact Except.ok.inj h

theorem outcome_map {xs : List Issue} {a : α} (f : α → β) :
    (p.outcome xs a).map f = p.outcome xs (f a) := by
  unfold outcome
  cases p.first? xs <;> rfl

theorem stopsWith_outcome {xs : List Issue} {a : α} {Q : Issue → Prop} (h : ∀ i ∈ xs, Q i) :
    p.StopsWith (p.outcome xs a) Q := by
  intro i hi
  unfold outcome at hi
  cases hf : p.first? xs with
  | none =>
    rw [hf] at hi
    cases hi
  | some j =>
    rw [hf] at hi
    cases hi
    exact ⟨List.find?_some (p := fun i : Issue => p.reports i.domain i.code) hf,
      h i (List.mem_of_find?_eq_some hf)⟩

/-- Checks in a row come to their issues in a row. -/
theorem forM_eq_outcome {γ : Type} {check : γ → Except Issue Unit} {issues : γ → List Issue}
    {xs : List γ} (h : ∀ x ∈ xs, check x = p.outcome (issues x) ()) :
    forM xs check = p.outcome (xs.flatMap issues) () := by
  induction xs with
  | nil => rfl
  | cons x rest ih =>
    rw [List.forall_mem_cons] at h
    rw [List.forM_cons, List.flatMap_cons, h.1]
    exact outcome_bind (ih h.2)

/-- Nothing is reported, and no pattern can be read. -/
def silent : Policy := ⟨fun _ _ => false, fun _ => none⟩

@[simp] theorem silent_outcome (xs : List Issue) (a : α) : silent.outcome xs a = .ok a := by
  have h : silent.first? xs = none := by simp [first?, silent]
  rw [outcome, h]

end Policy
end Conform
