import Conform.Proofs.Stopping
import Mathlib.Data.List.Forall2

/-!
# Two runs side by side

Two runs are compared by a relation that holds of equal results and is kept when
both go on from the same result.  Such a relation holds of two loops if it holds
of their steps in pairs.  Runs that end alike are one instance; that the second
run passes wherever the first does is another.  The errors of the two runs may be
of different kinds.
-/
namespace Conform

/-- Both runs end with the same value, or both with an error and the errors are
related. -/
inductive Alike {ε ε' α : Type} (S : ε → ε' → Prop) : Except ε α → Except ε' α → Prop where
  | ok (a : α) : Alike S (.ok a) (.ok a)
  | error {e : ε} {e' : ε'} (h : S e e') : Alike S (.error e) (.error e')

namespace Alike

theorem refl {ε α : Type} {S : ε → ε → Prop} (hS : ∀ e, S e e) (x : Except ε α) :
    Alike S x x := by
  cases x with
  | ok a => exact .ok a
  | error e => exact .error (hS e)

variable {ε ε' ζ ζ' α β : Type} {S : ε → ε' → Prop} {T : ζ → ζ' → Prop} {x : Except ε α}
  {y : Except ε' α}

theorem exists_of_error {e : ε} (h : Alike S (.error e) y) : ∃ e', y = .error e' ∧ S e e' := by
  cases h with
  | error h => exact ⟨_, rfl, h⟩

theorem bind {f : α → Except ε β} {g : α → Except ε' β} (h : Alike S x y)
    (hf : ∀ a, x = .ok a → y = .ok a → Alike S (f a) (g a)) : Alike S (x >>= f) (y >>= g) := by
  cases h with
  | ok a => exact hf a rfl rfl
  | error h => exact .error h

theorem mapError {f : ε → ζ} {g : ε' → ζ'} (h : Alike S x y)
    (hT : ∀ e e', S e e' → T (f e) (g e')) : Alike T (x.mapError f) (y.mapError g) := by
  cases h with
  | ok a => exact .ok a
  | error h => exact .error (hT _ _ h)

/-- Errors that a function takes to each other are those of one run, mapped. -/
theorem iff_mapError {f : ε → ε'} : Alike (fun e e' => e' = f e) x y ↔ y = x.mapError f := by
  constructor
  · rintro (_ | ⟨rfl⟩) <;> rfl
  · rintro rfl
    cases x with
    | ok a => exact .ok a
    | error e => exact .error rfl

end Alike

/-- A relation between runs that is kept as both go on. -/
structure RunRelation (ε ε' : Type) where
  rel : {α : Type} → Except ε α → Except ε' α → Prop
  ok : ∀ {α : Type} (a : α), rel (.ok a) (.ok a)
  bind : ∀ {α β : Type} {x : Except ε α} {y : Except ε' α} {f : α → Except ε β}
    {g : α → Except ε' β}, rel x y →
      (∀ a, x = .ok a → y = .ok a → rel (f a) (g a)) → rel (x >>= f) (y >>= g)

namespace RunRelation
variable {ε ε' : Type}

def same : RunRelation ε ε where
  rel x y := x = y
  ok _ := rfl
  bind := by
    rintro α β x _ f g rfl hf
    cases x with
    | ok a => exact hf a rfl rfl
    | error i => rfl

/-- The second run passes wherever the first one does, and with the same result. -/
def passes : RunRelation ε ε where
  rel x y := ∀ a, x = .ok a → y = .ok a
  ok _ := fun _ h => h
  bind := by
    intro α β x y f g h hf b hb
    obtain ⟨a, ha, hb⟩ := bind_eq_ok_iff.mp hb
    exact bind_eq_ok_iff.mpr ⟨a, h a ha, hf a ha (h a ha) b hb⟩

def alike (S : ε → ε' → Prop) : RunRelation ε ε' where
  rel := Alike S
  ok := .ok
  bind := Alike.bind

theorem forM_rel (R : RunRelation ε ε') {α β : Type} {f : α → Except ε Unit}
    {g : β → Except ε' Unit} {xs : List α} {ys : List β}
    (h : List.Forall₂ (fun x y => R.rel (f x) (g y)) xs ys) : R.rel (forM xs f) (forM ys g) := by
  induction h with
  | nil => exact R.ok ()
  | cons hxy _ ih =>
    rw [List.forM_cons, List.forM_cons]
    exact R.bind hxy fun _ _ _ => ih

end RunRelation
end Conform
