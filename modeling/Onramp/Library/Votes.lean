import Mathlib.Data.List.Basic
import Mathlib.Order.Bounds.Basic

/-!
Votes on values: how many votes there are for a value, what the greatest number is, and what
a strict majority is. The votes are a list, but nothing here depends on its order.
-/
namespace Onramp.Library.Votes

variable {α κ μ : Type} [DecidableEq κ] [DecidableEq μ]

/-- The number of votes for a value. -/
def support (value : α → κ) (votes : List α) (k : κ) : Nat := votes.countP (fun vote => value vote = k)

/-- More than half of the votes are for the value. -/
def Majority (value : α → κ) (votes : List α) (k : κ) : Prop := votes.length < 2 * support value votes k

/-- The greatest number of votes for one value. -/
def IsTop (value : α → κ) (votes : List α) (n : Nat) : Prop := IsGreatest (Set.range (support value votes)) n

variable {value : α → κ} {fine : α → μ} {votes others : List α} {k l : κ} {n m : Nat}

/-- Only the values count, in whatever order they come. -/
theorem support_perm (perm : (votes.map value).Perm (others.map value)) (k : κ) :
    support value votes k = support value others k := by
  have counted := perm.countP_eq (fun l => decide (l = k))
  rw [List.countP_map, List.countP_map] at counted
  exact counted

theorem support_append (k : κ) : support value (votes ++ others) k = support value votes k + support value others k :=
  List.countP_append

theorem support_pos : 0 < support value votes k ↔ ∃ vote ∈ votes, value vote = k := by
  simp [support, List.countP_pos_iff]

/-- All votes are for the value. -/
theorem support_eq_length : support value votes k = votes.length ↔ ∀ vote ∈ votes, value vote = k := by
  simp [support, List.countP_eq_length]

theorem IsTop.perm (perm : (votes.map value).Perm (others.map value)) (top : IsTop value votes n) : IsTop value others n := by
  have same : support value votes = support value others := funext (support_perm perm)
  unfold IsTop at *
  rwa [← same]

theorem Majority.perm (perm : (votes.map value).Perm (others.map value)) (many : Majority value votes k) :
    Majority value others k := by
  have length := perm.length_eq
  simp only [List.length_map] at length
  unfold Majority at *
  rwa [← length, ← support_perm perm]

theorem Majority.voted (many : Majority value votes k) : ∃ vote ∈ votes, value vote = k := by
  unfold Majority at many
  exact support_pos.mp (by omega)

theorem countP_add_le (p q : α → Bool) (votes : List α) :
    votes.countP p + votes.countP q ≤ votes.length + votes.countP (fun vote => p vote && q vote) := by
  induction votes with
  | nil => simp
  | cons vote rest ih =>
    simp only [List.countP_cons, List.length_cons]
    cases p vote <;> cases q vote <;> simp <;> omega

/-- Majorities for two values meet, also where the values are of two kinds. -/
theorem Majority.meet {j : μ} (first : Majority value votes k) (second : Majority fine votes j) :
    ∃ vote ∈ votes, value vote = k ∧ fine vote = j := by
  unfold Majority support at *
  have both := countP_add_le (fun vote => decide (value vote = k)) (fun vote => decide (fine vote = j)) votes
  obtain ⟨vote, inside, holds⟩ := List.countP_pos_iff.mp
    (show 0 < votes.countP (fun vote => decide (value vote = k) && decide (fine vote = j)) by omega)
  exact ⟨vote, inside, by simpa using holds⟩

theorem Majority.unique (first : Majority value votes k) (second : Majority value votes l) : k = l := by
  obtain ⟨vote, -, rfl, rfl⟩ := first.meet second
  rfl

/-- There is a majority exactly when the greatest number of votes is one. -/
theorem IsTop.majority_iff (top : IsTop value votes n) : (∃ k, Majority value votes k) ↔ votes.length < 2 * n := by
  obtain ⟨⟨k, reached⟩, most⟩ := top
  constructor
  · rintro ⟨l, many⟩
    have bounded := most ⟨l, rfl⟩
    unfold Majority at many
    omega
  · intro many
    exact ⟨k, show votes.length < 2 * support value votes k by omega⟩

theorem IsTop.held (top : IsTop value votes n) (voted : votes ≠ []) :
    ∃ vote ∈ votes, support value votes (value vote) = n := by
  obtain ⟨⟨k, reached⟩, most⟩ := top
  obtain ⟨some, inside⟩ := List.exists_mem_of_ne_nil votes voted
  have positive : 0 < support value votes (value some) := support_pos.mpr ⟨some, inside, rfl⟩
  have bounded := most ⟨value some, rfl⟩
  obtain ⟨vote, found, rfl⟩ := support_pos.mp (show 0 < support value votes k by omega)
  exact ⟨vote, found, reached⟩

/-- Of two classes of votes of the same size, one inside the other, both are the same. -/
theorem of_countP_eq {p q : α → Bool} (implied : ∀ vote ∈ votes, p vote = true → q vote = true)
    (same : votes.countP p = votes.countP q) : ∀ vote ∈ votes, q vote = true → p vote = true := by
  induction votes with
  | nil => simp
  | cons first rest ih =>
    have later : ∀ vote ∈ rest, p vote = true → q vote = true := fun vote inside => implied vote (List.mem_cons_of_mem _ inside)
    have fewer : rest.countP p ≤ rest.countP q := List.countP_mono_left later
    have here := implied first List.mem_cons_self
    simp only [List.countP_cons] at same
    intro vote inside holds
    rcases List.mem_cons.mp inside with rfl | behind
    · by_contra fails
      simp only [holds, fails, if_true] at same
      simp at same
      omega
    · refine ih later ?_ vote behind holds
      by_cases first : p first = true
      · simp only [first, here first, if_true] at same
        omega
      · simp only [first] at same
        simp at same
        split_ifs at same <;> omega

/-- Where votes for one fine value are for one value, the greatest numbers agree exactly when
    a value with the greatest number has one fine value only. -/
theorem IsTop.eq_iff_of_finer (top : IsTop value votes n) (fineTop : IsTop fine votes m) (voted : votes ≠ [])
    (finer : ∀ vote ∈ votes, ∀ other ∈ votes, fine vote = fine other → value vote = value other) :
    m = n ↔ ∃ vote ∈ votes, support value votes (value vote) = n ∧
      ∀ other ∈ votes, value other = value vote → fine other = fine vote := by
  have below : ∀ vote ∈ votes, support fine votes (fine vote) ≤ support value votes (value vote) := by
    intro vote inside
    refine List.countP_mono_left ?_
    intro other among same
    simp only [decide_eq_true_eq] at same ⊢
    exact finer other among vote inside same
  constructor
  · rintro rfl
    obtain ⟨vote, inside, reached⟩ := fineTop.held voted
    have bounded : support value votes (value vote) ≤ m := top.2 ⟨_, rfl⟩
    have lower := below vote inside
    refine ⟨vote, inside, by omega, ?_⟩
    -- The votes for the value are as many as those for the fine value, which are among them.
    intro other among same
    have implied : ∀ item ∈ votes, decide (fine item = fine vote) = true → decide (value item = value vote) = true := by
      intro item held
      simp only [decide_eq_true_eq]
      exact finer item held vote inside
    have equal : votes.countP (fun item => decide (fine item = fine vote)) =
        votes.countP (fun item => decide (value item = value vote)) := by
      unfold support at *
      omega
    have back := of_countP_eq implied equal other among (by simpa using same)
    simpa using back
  · rintro ⟨vote, inside, reached, one⟩
    have same : support fine votes (fine vote) = support value votes (value vote) := by
      refine List.countP_congr ?_
      intro other among
      simp only [decide_eq_true_eq]
      exact ⟨fun fineSame => finer other among vote inside fineSame, one other among⟩
    have bounded : support fine votes (fine vote) ≤ m := fineTop.2 ⟨_, rfl⟩
    obtain ⟨other, among, held⟩ := fineTop.held voted
    have lower := below other among
    have most : support value votes (value other) ≤ n := top.2 ⟨_, rfl⟩
    omega

end Onramp.Library.Votes
