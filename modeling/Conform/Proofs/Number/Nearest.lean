import Conform.Number.Basic
import Mathlib.Algebra.Order.Field.Power
import Mathlib.Algebra.Order.Field.Rat
import Mathlib.Data.Nat.Log
import Mathlib.Tactic.FieldSimp
import Mathlib.Tactic.Ring

/-!
# The double nearest to an integer

Doubles are compared by their exact values, and the double of an integer has the
value `nearest`: the integer itself below `2^53` in magnitude, and a multiple of
a power of two above.  Rounding keeps the order of the integers but not its
strictness, so a comparison of doubles may take two integers for equal, and it is
right about any two that it does not.
-/
namespace Conform

@[simp] theorem roundQuotient_one (n : Nat) : roundQuotient n 1 = n := by
  simp [roundQuotient, Nat.mod_one]

/-- Rounding keeps the order: of two numbers with one quotient, the lower one is
not rounded up alone. -/
theorem roundQuotient_mono {m n den : Nat} (h : m ≤ n) :
    roundQuotient m den ≤ roundQuotient n den := by
  rcases (Nat.div_le_div_right h : m / den ≤ n / den).lt_or_eq with hlt | heq
  · calc roundQuotient m den ≤ m / den + 1 := roundQuotient_upper m den
      _ ≤ n / den := hlt
      _ ≤ roundQuotient n den := roundQuotient_lower n den
  · have hmod : m % den ≤ n % den := by
      have hm := Nat.div_add_mod m den
      have hn := Nat.div_add_mod n den
      rw [heq] at hm
      omega
    unfold roundQuotient
    rw [heq]
    dsimp only
    split_ifs <;> omega

/-- The distance of the doubles around a natural number, where it is at least
one. -/
def spacing (n : Nat) : Nat := 2 ^ (n.log2 - 52)

def nearestNat (n : Nat) : Nat := roundQuotient n (spacing n) * spacing n

/-- The value of the double nearest to an integer. -/
def nearest (n : Int) : Int := if n < 0 then -(nearestNat n.natAbs) else nearestNat n.natAbs

theorem spacing_pos (n : Nat) : 0 < spacing n := Nat.two_pow_pos _

theorem nearestNat_of_log2_le {n : Nat} (h : n.log2 ≤ 52) : nearestNat n = n := by
  have hspacing : spacing n = 1 := by rw [spacing, Nat.sub_eq_zero_of_le h, pow_zero]
  rw [nearestNat, hspacing, roundQuotient_one, mul_one]

theorem nearestNat_of_lt {n : Nat} (h : n < 2 ^ 53) : nearestNat n = n := by
  refine nearestNat_of_log2_le ?_
  rcases eq_or_ne n 0 with rfl | hn
  · decide
  · exact Nat.lt_succ_iff.mp ((Nat.log2_lt hn).mpr h)

/-- A number of more than 53 digits is rounded within its power of two. -/
theorem two_pow_log2_le_nearestNat {n : Nat} (hn : n ≠ 0) : 2 ^ n.log2 ≤ nearestNat n := by
  rcases Nat.le_total n.log2 52 with h | h
  · rw [nearestNat_of_log2_le h]
    exact Nat.log2_self_le hn
  · have hsplit : 2 ^ n.log2 = 2 ^ 52 * spacing n := by
      rw [spacing, ← pow_add, Nat.add_sub_cancel' h]
    have hquotient : 2 ^ 52 ≤ n / spacing n := by
      rw [Nat.le_div_iff_mul_le (spacing_pos n), ← hsplit]
      exact Nat.log2_self_le hn
    rw [hsplit, nearestNat]
    exact Nat.mul_le_mul_right _ (hquotient.trans (roundQuotient_lower _ _))

theorem nearestNat_le_two_pow (n : Nat) : nearestNat n ≤ 2 ^ (n.log2 + 1) := by
  rcases Nat.le_total n.log2 52 with h | h
  · rw [nearestNat_of_log2_le h]
    exact Nat.lt_log2_self.le
  · have hsplit : 2 ^ (n.log2 + 1) = 2 ^ 53 * spacing n := by
      rw [spacing, ← pow_add]
      congr 1
      omega
    have hquotient : n / spacing n < 2 ^ 53 := by
      rw [Nat.div_lt_iff_lt_mul (spacing_pos n), ← hsplit]
      exact Nat.lt_log2_self
    rw [hsplit, nearestNat]
    exact Nat.mul_le_mul_right _ ((roundQuotient_upper _ _).trans hquotient)

theorem nearestNat_mono {m n : Nat} (h : m ≤ n) : nearestNat m ≤ nearestNat n := by
  rcases eq_or_ne m 0 with rfl | hm
  · rw [nearestNat_of_log2_le (by decide)]
    exact Nat.zero_le _
  have hn : n ≠ 0 := by omega
  have hlog : m.log2 ≤ n.log2 := by
    rw [Nat.log2_eq_log_two, Nat.log2_eq_log_two]
    exact Nat.log_mono_right h
  rcases hlog.lt_or_eq with hlt | heq
  · calc nearestNat m ≤ 2 ^ (m.log2 + 1) := nearestNat_le_two_pow m
      _ ≤ 2 ^ n.log2 := Nat.pow_le_pow_right (by decide) hlt
      _ ≤ nearestNat n := two_pow_log2_le_nearestNat hn
  · have hspacing : spacing m = spacing n := by rw [spacing, heq, spacing]
    rw [nearestNat, nearestNat, hspacing]
    exact Nat.mul_le_mul_right _ (roundQuotient_mono h)

theorem nearest_mono {m n : Int} (h : m ≤ n) : nearest m ≤ nearest n := by
  unfold nearest
  split_ifs with hm hn hn
  · have habs : n.natAbs ≤ m.natAbs := by omega
    have := nearestNat_mono habs
    omega
  · omega
  · omega
  · have habs : m.natAbs ≤ n.natAbs := by omega
    have := nearestNat_mono habs
    omega

theorem nearest_of_lt {n : Int} (h : n.natAbs < 2 ^ 53) : nearest n = n := by
  unfold nearest
  rw [nearestNat_of_lt h]
  split_ifs <;> omega

theorem natAbs_nearest (n : Int) : (nearest n).natAbs = nearestNat n.natAbs := by
  unfold nearest
  split_ifs <;> simp

/-- Rounding does not lead back below `2^53`. -/
theorem natAbs_nearest_lt_iff {n : Int} : (nearest n).natAbs < 2 ^ 53 ↔ n.natAbs < 2 ^ 53 := by
  constructor
  · intro h
    by_contra! hn
    have := nearestNat_mono hn
    have hpow : nearestNat (2 ^ 53) = 2 ^ 53 := by decide +kernel
    rw [natAbs_nearest] at h
    omega
  · intro h
    rwa [nearest_of_lt h]

/-- Only integers from `2^53` on are rounded to the same double. -/
theorem le_natAbs_of_nearest_eq {m n : Int} (h : nearest m = nearest n) (hne : m ≠ n) :
    2 ^ 53 ≤ m.natAbs ∧ 2 ^ 53 ≤ n.natAbs := by
  have hiff : m.natAbs < 2 ^ 53 ↔ n.natAbs < 2 ^ 53 := by
    rw [← natAbs_nearest_lt_iff, h, natAbs_nearest_lt_iff]
  by_contra hsmall
  have hm : m.natAbs < 2 ^ 53 := by omega
  have hn : n.natAbs < 2 ^ 53 := hiff.mp hm
  exact hne (by rwa [nearest_of_lt hm, nearest_of_lt hn] at h)

/-- A half goes to the even significand. -/
example : nearest (2 ^ 53 + 1) = nearest (2 ^ 53) ∧ nearest (2 ^ 53 + 3) = 2 ^ 53 + 4 := by
  decide +kernel

namespace Double

/-- The number that a double stands for. -/
def value (d : Double) : ℚ :=
  (if d.negative then -1 else 1) * (d.significand * 2 ^ d.exponent)

theorem scaledTo_eq_value {d : Double} {e : Int} (h : e ≤ d.exponent) :
    (d.scaledTo e : ℚ) = d.value * 2 ^ (-e) := by
  have hpow : (2 : ℚ) ^ (d.exponent - e).toNat = 2 ^ d.exponent * 2 ^ (-e) := by
    rw [← zpow_natCast, Int.toNat_of_nonneg (by omega), sub_eq_add_neg, zpow_add₀ (by norm_num)]
  unfold scaledTo value
  split_ifs <;> push_cast [Nat.pow_eq, hpow] <;> ring

/-- Doubles are compared by what they stand for. -/
theorem compare_eq_value (a b : Double) : compare a b = Ord.compare a.value b.value := by
  have hmono : StrictMono fun x : ℚ => x * 2 ^ (-min a.exponent b.exponent) :=
    fun x y h => mul_lt_mul_of_pos_right h (zpow_pos (by norm_num) _)
  unfold compare
  rw [← cmp_eq_compare, ← cmp_eq_compare, ← hmono.cmp_map_eq,
    ← (Int.cast_strictMono (R := ℚ)).cmp_map_eq, scaledTo_eq_value (min_le_left _ _),
    scaledTo_eq_value (min_le_right _ _)]

theorem floorLog2_one {n : Nat} (h : n ≠ 0) : floorLog2 n 1 = n.log2 := by
  have hle : 2 ^ n.log2 ≤ n := Nat.log2_self_le h
  have hone : Nat.log2 1 = 0 := by decide
  unfold floorLog2
  simp [hone, hle]

/-- The significand of an integer, before it is brought into its normal form. -/
theorem roundQuotient_eq_nearestNat {n : Nat} {e : Int} (h : e = (n.log2 : Int) - 52) :
    (roundQuotient (n * Nat.pow 2 (-e).toNat) (1 * Nat.pow 2 e.toNat) * 2 ^ e : ℚ) =
      nearestNat n := by
  rcases Nat.le_total n.log2 52 with hlog | hlog
  · have hup : (-e).toNat = 52 - n.log2 := by omega
    have hdown : e.toNat = 0 := by omega
    have hexp : e = -((52 - n.log2 : Nat) : Int) := by omega
    rw [nearestNat_of_log2_le hlog, hup, hdown, Nat.pow_eq, Nat.pow_eq, pow_zero, mul_one,
      roundQuotient_one, hexp, zpow_neg, zpow_natCast]
    push_cast
    field_simp
  · have hup : (-e).toNat = 0 := by omega
    have hdown : e.toNat = n.log2 - 52 := by omega
    have hexp : e = ((n.log2 - 52 : Nat) : Int) := by omega
    rw [hup, hdown, hexp, zpow_natCast, Nat.pow_eq, Nat.pow_eq, pow_zero, mul_one, one_mul,
      nearestNat, spacing]
    push_cast
    rfl

theorem value_ofRatio_one (negative : Bool) (n : Nat) :
    (ofRatio negative n 1).value = (if negative then -1 else 1) * (nearestNat n : ℚ) := by
  rcases eq_or_ne n 0 with rfl | hn
  · have hzero : nearestNat 0 = 0 := nearestNat_of_log2_le (by decide)
    simp [ofRatio, zero, value, hzero]
  have hexp : max ((n.log2 : Int) - 52) minExponent = (n.log2 : Int) - 52 := by
    rw [minExponent]
    omega
  unfold ofRatio
  rw [if_neg hn, floorLog2_one hn, hexp]
  dsimp only
  rw [← roundQuotient_eq_nearestNat rfl]
  split
  · -- The quotient has been rounded up to the next power of two.
    rename_i hm
    rw [hm, value, zpow_add_one₀ (by norm_num)]
    push_cast
    ring
  · rw [value]

/-- The double of an integer stands for the nearest value. -/
theorem value_ofInt (n : Int) : (ofInt n).value = nearest n := by
  rw [ofInt, value_ofRatio_one, nearest]
  split_ifs <;> simp_all

end Double

namespace Number

/-- Integers are compared by the values of their doubles. -/
theorem compare_integer (m n : Int) :
    compare (.integer m) (.integer n) = Ord.compare (nearest m) (nearest n) := by
  rw [compare, toDouble, toDouble, Double.compare_eq_value, Double.value_ofInt,
    Double.value_ofInt, ← cmp_eq_compare, ← cmp_eq_compare, Int.cast_strictMono.cmp_map_eq]

end Number
end Conform
