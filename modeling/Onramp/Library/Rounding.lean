import Mathlib.Algebra.Order.Floor.Semiring
import Mathlib.Algebra.Order.Field.Basic
import Mathlib.Algebra.Order.BigOperators.Group.List
import Mathlib.Tactic.Linarith

/-!
Sums of numbers in a rounded arithmetic, and when such a sum is rounded half up to the same
whole number as the exact one.
-/
namespace Onramp.Library.Rounding

variable {K : Type} [Field K] [LinearOrder K] [IsStrictOrderedRing K]

/-- Rounded half up, of a number that is not negative. -/
def halfUp [FloorSemiring K] (x : K) : ℕ := ⌊x + 1 / 2⌋₊

/-- A number near another is rounded alike, where the other is no nearer to a half. -/
theorem halfUp_eq_of_near [FloorSemiring K] {x y δ : K} {k : ℕ} (near : |x - y| ≤ δ) (low : k + δ ≤ y + 1 / 2)
    (high : y + 1 / 2 + δ < k + 1) : halfUp x = k := by
  obtain ⟨below, above⟩ := abs_le.mp near
  have zero : (0 : K) ≤ k := Nat.cast_nonneg k
  unfold halfUp
  rw [Nat.floor_eq_iff (by linarith)]
  constructor <;> linarith

/-- Each rounded addition adds its own error to those of its terms. -/
theorem foldl_near {α : Type} {op : K → K → K} {δ bound : K} {term exact : α → K} (positive : 0 ≤ δ)
    (rounds : ∀ x y, 0 ≤ x → 0 ≤ y → x + y ≤ bound → 0 ≤ op x y ∧ |op x y - (x + y)| ≤ δ) (items : List α)
    (near : ∀ item ∈ items, 0 ≤ term item ∧ 0 ≤ exact item ∧ |term item - exact item| ≤ δ) :
    ∀ acc sum error : K, 0 ≤ acc → |acc - sum| ≤ error →
      sum + (items.map exact).sum + error + 2 * items.length * δ ≤ bound →
      0 ≤ (items.map term).foldl op acc ∧
        |(items.map term).foldl op acc - (sum + (items.map exact).sum)| ≤ error + 2 * items.length * δ := by
  induction items with
  | nil =>
    intro acc sum error low close _
    simpa using ⟨low, close⟩
  | cons item items ih =>
    intro acc sum error low close fits
    obtain ⟨termLow, exactLow, termClose⟩ := near item List.mem_cons_self
    have rest := fun other inside => near other (List.mem_cons_of_mem item inside)
    simp only [List.map_cons, List.sum_cons, List.length_cons, Nat.cast_add, Nat.cast_one] at fits ⊢
    have later : 0 ≤ (items.map exact).sum := by
      refine List.sum_nonneg ?_
      intro e inside
      obtain ⟨other, among, rfl⟩ := List.mem_map.mp inside
      exact (rest other among).2.1
    have products : (0 : K) ≤ items.length * δ := mul_nonneg (Nat.cast_nonneg _) positive
    obtain ⟨accBelow, accAbove⟩ := abs_le.mp close
    obtain ⟨termBelow, termAbove⟩ := abs_le.mp termClose
    obtain ⟨nextLow, nextClose⟩ := rounds acc (term item) low termLow (by linarith)
    obtain ⟨nextBelow, nextAbove⟩ := abs_le.mp nextClose
    have closer : |op acc (term item) - (sum + exact item)| ≤ error + 2 * δ := abs_le.mpr ⟨by linarith, by linarith⟩
    obtain ⟨endLow, endClose⟩ := ih rest _ _ _ nextLow closer (by linarith)
    obtain ⟨endBelow, endAbove⟩ := abs_le.mp endClose
    rw [List.foldl_cons]
    exact ⟨endLow, abs_le.mpr ⟨by linarith, by linarith⟩⟩

end Onramp.Library.Rounding
