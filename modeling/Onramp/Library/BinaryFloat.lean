import Mathlib.Algebra.Order.Field.Power
import Mathlib.Data.Int.Log
import Mathlib.Data.Rat.Floor
import Mathlib.Tactic.FieldSimp
import Mathlib.Tactic.Linarith
import Mathlib.Tactic.Positivity
import Mathlib.Tactic.Ring

/-!
Rounding to a binary format of `bits` places and a least exponent, to the nearest and a half
to the even one: what the format holds is kept, and nothing is rounded across a power of two.
-/
namespace Onramp.Library.BinaryFloat

/-- The nearest whole number, of two the even one. -/
def nearestEven (x : ℚ) : ℤ :=
  let rest := x - ⌊x⌋
  if rest < 1 / 2 then ⌊x⌋
  else if 1 / 2 < rest then ⌊x⌋ + 1
  else if ⌊x⌋ % 2 = 0 then ⌊x⌋ else ⌊x⌋ + 1

theorem nearestEven_intCast (k : ℤ) : nearestEven k = k := by
  simp [nearestEven]

theorem floor_le_nearestEven (x : ℚ) : ⌊x⌋ ≤ nearestEven x := by
  unfold nearestEven
  simp only
  split
  · exact le_rfl
  · split
    · omega
    · split <;> omega

theorem le_nearestEven {k : ℤ} {x : ℚ} (above : (k : ℚ) ≤ x) : k ≤ nearestEven x :=
  (Int.le_floor.mpr above).trans (floor_le_nearestEven x)

theorem nearestEven_neg (x : ℚ) : nearestEven (-x) = -nearestEven x := by
  have low : (⌊x⌋ : ℚ) ≤ x := Int.floor_le x
  have high : x < ⌊x⌋ + 1 := Int.lt_floor_add_one x
  by_cases whole : x = ⌊x⌋
  · rw [whole, ← Int.cast_neg, nearestEven_intCast, nearestEven_intCast]
  · have inside : (⌊x⌋ : ℚ) < x := lt_of_le_of_ne low (Ne.symm whole)
    have floor : ⌊-x⌋ = -⌊x⌋ - 1 := by
      rw [Int.floor_eq_iff]
      push_cast
      constructor <;> linarith
    unfold nearestEven
    simp only [floor]
    push_cast
    split_ifs <;> first | omega | (exfalso; linarith)

variable (bits : ℕ) (least : ℤ)

/-- The exponent of the last place of a number. -/
def lastPlace (x : ℚ) : ℤ := max (Int.log 2 |x| + 1 - bits) least

/-- The number in the format, whose exponents have no upper bound. -/
def round (x : ℚ) : ℚ := nearestEven (x / 2 ^ lastPlace bits least x) * 2 ^ lastPlace bits least x

variable {bits least}

theorem round_neg (x : ℚ) : round bits least (-x) = -round bits least x := by
  rw [round, round, lastPlace, lastPlace, abs_neg, neg_div, nearestEven_neg]
  push_cast
  ring

/-- A number of at most `bits` places is kept. -/
theorem round_exact {k : ℤ} {e : ℤ} (within : least ≤ e) (short : |(k : ℚ)| < 2 ^ bits) :
    round bits least (k * 2 ^ e) = k * 2 ^ e := by
  rcases eq_or_ne k 0 with rfl | nonzero
  · simp [round, nearestEven]
  · have positive : 0 < |(k : ℚ) * 2 ^ e| := abs_pos.mpr (mul_ne_zero (by exact_mod_cast nonzero) (by positivity))
    have place : lastPlace bits least (k * 2 ^ e) ≤ e := by
      have below : |(k : ℚ) * 2 ^ e| < (2 : ℕ) ^ (bits + e : ℤ) := by
        rw [abs_mul, abs_of_pos (by positivity : (0 : ℚ) < 2 ^ e), Nat.cast_ofNat, zpow_add₀ (by norm_num), zpow_natCast]
        exact mul_lt_mul_of_pos_right short (by positivity)
      have log := (Int.lt_zpow_iff_log_lt (by norm_num) positive).mp below
      unfold lastPlace
      omega
    obtain ⟨n, gap⟩ := Int.eq_ofNat_of_zero_le (sub_nonneg.mpr place)
    have whole : (k : ℚ) * 2 ^ e / 2 ^ lastPlace bits least (k * 2 ^ e) = ((k * 2 ^ n : ℤ) : ℚ) := by
      rw [mul_div_assoc, ← zpow_sub₀ (by norm_num), gap]
      push_cast
      simp
    rw [round, whole, nearestEven_intCast, ← whole]
    field_simp

/-- Nothing is rounded below a power of two that it reaches. -/
theorem le_round {n : ℤ} {x : ℚ} (within : least + bits ≤ n + 1) (some : 0 < bits) (above : 2 ^ n ≤ x) :
    2 ^ n ≤ round bits least x := by
  have positive : 0 < x := lt_of_lt_of_le (by positivity) above
  have log : n ≤ Int.log 2 |x| := by
    rw [abs_of_pos positive]
    exact (Int.zpow_le_iff_le_log (by norm_num) positive).mp (by exact_mod_cast above)
  have place : lastPlace bits least x = Int.log 2 |x| + 1 - bits := by
    unfold lastPlace
    omega
  have size : (2 : ℚ) ^ Int.log 2 |x| ≤ x := by
    have reached := Int.zpow_log_le_self (b := 2) (by norm_num) (abs_pos.mpr positive.ne')
    rw [abs_of_pos positive] at reached ⊢
    exact_mod_cast reached
  have many : ((2 ^ (bits - 1) : ℤ) : ℚ) ≤ x / 2 ^ lastPlace bits least x := by
    rw [le_div_iff₀ (by positivity), place]
    refine le_trans (le_of_eq ?_) size
    push_cast
    rw [← zpow_natCast, ← zpow_add₀ (by norm_num)]
    congr 1
    omega
  have rounded := le_nearestEven many
  calc (2 : ℚ) ^ n ≤ 2 ^ Int.log 2 |x| := zpow_le_zpow_right₀ (by norm_num) log
    _ = ((2 ^ (bits - 1) : ℤ) : ℚ) * 2 ^ lastPlace bits least x := by
      rw [place]
      push_cast
      rw [← zpow_natCast, ← zpow_add₀ (by norm_num)]
      congr 1
      omega
    _ ≤ round bits least x := mul_le_mul_of_nonneg_right (by exact_mod_cast rounded) (by positivity)

theorem le_abs_round {n : ℤ} {x : ℚ} (within : least + bits ≤ n + 1) (some : 0 < bits) (above : 2 ^ n ≤ |x|) :
    2 ^ n ≤ |round bits least x| := by
  rcases abs_choice x with same | opposite
  · rw [same] at above
    exact (le_round within some above).trans (le_abs_self _)
  · rw [opposite] at above
    have rounded := le_round within some above
    rw [round_neg] at rounded
    exact rounded.trans (neg_le_abs _)

end Onramp.Library.BinaryFloat
