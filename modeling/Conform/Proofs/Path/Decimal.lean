import Conform.Path.Basic

/-!
# Canonical decimals

A text counts as an index when it is the decimal of a number below 2^64.  The
library's reader of digits inverts its printer on exactly the texts without
leading zeros.
-/
namespace Conform

theorem isDigit_bounds {c : Char} (h : c.isDigit = true) : 48 ≤ c.toNat ∧ c.toNat ≤ 57 := by
  simp only [Char.isDigit, Bool.and_eq_true, decide_eq_true_eq] at h
  exact h

theorem digitChar_toNat_sub {c : Char} (h : c.isDigit = true) :
    Nat.digitChar (c.toNat - 48) = c := by
  have hb := isDigit_bounds h
  apply Char.toNat_inj.mp
  rw [Nat.toNat_digitChar_of_lt_ten (by omega)]
  omega

/-- A run of digits after a positive number continues its decimal. -/
theorem toDigits_append_digits (cs : List Char) (n : Nat) (hn : 0 < n)
    (hd : ∀ c ∈ cs, c.isDigit = true) :
    Nat.toDigits 10 n ++ cs = Nat.toDigits 10 (Nat.ofDigitChars 10 cs n) := by
  induction cs generalizing n with
  | nil => simp
  | cons c cs ih =>
    have hc := hd c (List.mem_cons_self ..)
    have hb := isDigit_bounds hc
    have hlast : Nat.toDigits 10 (c.toNat - 48) = [c] := by
      rw [Nat.toDigits_of_lt_base (by omega), digitChar_toNat_sub hc]
    have hstep := Nat.toDigits_append_toDigits (b := 10) (n := n) (d := c.toNat - 48)
      (by decide) hn (by omega)
    rw [hlast] at hstep
    have hrest := ih (10 * n + (c.toNat - 48)) (by omega)
      (fun d h => hd d (List.mem_cons_of_mem _ h))
    rw [Nat.ofDigitChars_cons, List.append_cons, hstep]
    exact hrest

/-- Digits without a leading zero are the decimal of the number that they write. -/
theorem toDigits_ofDigitChars (cs : List Char) (hne : cs ≠ [])
    (hd : ∀ c ∈ cs, c.isDigit = true) (hz : cs = ['0'] ∨ cs.head? ≠ some '0') :
    Nat.toDigits 10 (Nat.ofDigitChars 10 cs 0) = cs := by
  cases cs with
  | nil => exact absurd rfl hne
  | cons c cs =>
    rcases hz with h | h
    · rw [h]
      decide
    · have hc := hd c (List.mem_cons_self ..)
      have hb := isDigit_bounds hc
      have hnz : c.toNat ≠ 48 := by
        intro e
        have hc0 : c = '0' := Char.toNat_inj.mp e
        exact h (by simp [hc0])
      have hrest := toDigits_append_digits cs (c.toNat - 48) (by omega)
        (fun d h => hd d (List.mem_cons_of_mem _ h))
      rw [Nat.toDigits_of_lt_base (by omega), digitChar_toNat_sub hc] at hrest
      rw [Nat.ofDigitChars_cons, Nat.mul_zero, Nat.zero_add]
      exact hrest.symm

/-- Only the decimal of zero starts with a zero. -/
theorem toDigits_head (n : Nat) :
    Nat.toDigits 10 n = ['0'] ∨ (Nat.toDigits 10 n).head? ≠ some '0' := by
  induction n using Nat.strongRecOn with
  | _ n ih =>
    by_cases hn : n < 10
    · rw [Nat.toDigits_of_lt_base hn]
      by_cases h : n.digitChar = '0' <;> simp [h]
    · right
      rw [Nat.toDigits_of_base_le (by decide) (by omega), List.head?_append]
      rcases ih (n / 10) (by omega) with h | h
      · have hz := Nat.ofDigitChars_ten_toDigits (n := n / 10)
        rw [h] at hz
        have : n / 10 = 0 := hz.symm
        omega
      · cases hd : (Nat.toDigits 10 (n / 10)).head? with
        | none => exact absurd (List.head?_eq_none_iff.mp hd) Nat.toDigits_ne_nil
        | some c =>
          rw [hd] at h
          exact h

/-- An index is written as its decimal, and the decimals of 64-bit numbers are
the only texts of indices. -/
theorem canonicalIndex?_eq_some_iff (cs : List Char) (n : Nat) :
    canonicalIndex? cs = some n ↔ n < UInt64.size ∧ cs = (toString n).toList := by
  have htext : (toString n).toList = Nat.toDigits 10 n := by simp
  rw [htext]
  unfold canonicalIndex?
  rw [← Nat.ofDigitChars_eq_foldl]
  constructor
  · intro h
    split at h
    · rename_i hc
      obtain ⟨hne, hd, hz⟩ := hc
      have hdec := toDigits_ofDigitChars cs hne (fun c h => List.all_eq_true.mp hd c h) hz
      dsimp only at h
      split at h
      · rename_i hlt
        cases h
        exact ⟨hlt, hdec.symm⟩
      · cases h
    · cases h
  · rintro ⟨hlt, rfl⟩
    have hd : (Nat.toDigits 10 n).all Char.isDigit = true :=
      List.all_eq_true.mpr fun c hc =>
        Nat.isDigit_of_mem_toDigits (by decide) (by decide) hc
    rw [if_pos ⟨Nat.toDigits_ne_nil, hd, toDigits_head n⟩, Nat.ofDigitChars_ten_toDigits]
    exact if_pos hlt

end Conform
