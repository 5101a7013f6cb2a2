import Mathlib.Data.List.Induction
import Mathlib.Data.List.Infix

/-!
Paths in a tree of directories, as steps to an entry or up to the parent. A place is the list of the
names that lead to it from the root, whose parent is the root itself. Steps that go up cancel
against the steps before them, which reduces a path to the number of its climbs and the names below.
-/
namespace Onramp.Library.Paths

variable {α : Type}

/-- One step of a path. -/
inductive Step (α : Type)
  | up
  | down (name : α)
  deriving DecidableEq

/-- The place one step away. -/
def Step.apply (here : List α) : Step α → List α
  | .up => here.dropLast
  | .down name => here ++ [name]

/-- The place that the steps lead to. -/
def follow (here : List α) (steps : List (Step α)) : List α := steps.foldl Step.apply here

/-- One more step: it goes up by cancelling the last name, or as a climb above the start. -/
def cancel (reduced : Nat × List α) : Step α → Nat × List α
  | .up => if reduced.2.isEmpty then (reduced.1 + 1, []) else (reduced.1, reduced.2.dropLast)
  | .down name => (reduced.1, reduced.2 ++ [name])

/-- The climbs above the start that are left, and the names below them. -/
def reduce (steps : List (Step α)) : Nat × List α := steps.foldl cancel (0, [])

@[simp] theorem follow_nil (here : List α) : follow here [] = here := rfl

@[simp] theorem follow_cons (here : List α) (step : Step α) (rest : List (Step α)) :
    follow here (step :: rest) = follow (step.apply here) rest := rfl

theorem follow_append (here : List α) (front back : List (Step α)) :
    follow here (front ++ back) = follow (follow here front) back := List.foldl_append

theorem follow_names (here names : List α) : follow here (names.map .down) = here ++ names := by
  induction names generalizing here with
  | nil => simp
  | cons name rest ih => simp [ih, Step.apply]

theorem dropLast_take (n : Nat) (places : List α) (short : n ≤ places.length) :
    (places.take n).dropLast = places.take (n - 1) := by
  rw [List.dropLast_eq_take, List.take_take, List.length_take]
  congr 1
  omega

/-- The steps lead up by the climbs that are left, and down along the names. -/
theorem follow_eq_reduce (here : List α) (steps : List (Step α)) :
    follow here steps = here.take (here.length - (reduce steps).1) ++ (reduce steps).2 := by
  induction steps using List.reverseRecOn with
  | nil => simp [reduce]
  | append_singleton front step ih =>
    rw [follow_append, ih]
    have reduced : reduce (front ++ [step]) = cancel (reduce front) step := List.foldl_append
    rw [reduced]
    cases step with
    | down name => simp [Step.apply, cancel]
    | up =>
      by_cases nothing : (reduce front).2 = []
      · have climbed := dropLast_take (here.length - (reduce front).1) here (Nat.sub_le _ _)
        simp [Step.apply, cancel, nothing, climbed, Nat.sub_sub]
      · simp [Step.apply, cancel, nothing, List.dropLast_append_of_ne_nil]

/-- The places that the steps, all but the last, lead down to. -/
def passed (here : List α) : List (Step α) → List (List α)
  | [] => []
  | [_] => []
  | .up :: next :: rest => passed here.dropLast (next :: rest)
  | .down name :: next :: rest => (here ++ [name]) :: passed (here ++ [name]) (next :: rest)

theorem mem_passed_cons {here : List α} {step : Step α} {rest : List (Step α)} (more : rest ≠ []) (place : List α) :
    place ∈ passed here (step :: rest) ↔
      (step ≠ .up ∧ place = step.apply here) ∨ place ∈ passed (step.apply here) rest := by
  obtain ⟨next, later, rfl⟩ := List.exists_cons_of_ne_nil more
  cases step with
  | up => simp [passed, Step.apply]
  | down name => simp [passed, Step.apply]

/-- Steps that begin with names pass the places on the way down, and then those of the other steps. -/
theorem mem_passed_names {here names : List α} {steps : List (Step α)} (more : steps ≠ []) (place : List α) :
    place ∈ passed here (names.map .down ++ steps) ↔
      (∃ front, front ≠ [] ∧ front <+: names ∧ place = here ++ front) ∨ place ∈ passed (here ++ names) steps := by
  induction names generalizing here with
  | nil => simp
  | cons name rest ih =>
    have later : rest.map Step.down ++ steps ≠ [] := by simp [more]
    rw [List.map_cons, List.cons_append, mem_passed_cons later]
    simp only [Step.apply, ih, List.append_assoc, List.singleton_append]
    constructor
    · rintro (⟨-, rfl⟩ | ⟨front, -, below, rfl⟩ | beyond)
      · exact Or.inl ⟨[name], by simp, by simp, rfl⟩
      · exact Or.inl ⟨name :: front, by simp, by simpa using below, rfl⟩
      · exact Or.inr beyond
    · rintro (⟨front, some, below, rfl⟩ | beyond)
      · obtain ⟨head, tail, rfl⟩ := List.exists_cons_of_ne_nil some
        obtain ⟨rfl, shorter⟩ := List.cons_prefix_cons.mp below
        by_cases nothing : tail = []
        · subst nothing
          exact Or.inl ⟨by simp, rfl⟩
        · exact Or.inr (Or.inl ⟨tail, nothing, shorter, rfl⟩)
      · exact Or.inr (Or.inr beyond)

/-- A place on the way to another that turns off at the first `n` names of it. -/
theorem prefix_take_append {places names : List α} {n : Nat} :
    places <+: places.take n ++ names ↔ places.drop n <+: names := by
  calc places <+: places.take n ++ names
      ↔ places.take n ++ places.drop n <+: places.take n ++ names := by rw [List.take_append_drop]
    _ ↔ places.drop n <+: names := List.prefix_append_right_inj _

theorem isPrefix_of_take_append {places names : List α} {n : Nat} :
    places.take n ++ names <+: places ↔ names <+: places.drop n := by
  calc places.take n ++ names <+: places
      ↔ places.take n ++ names <+: places.take n ++ places.drop n := by rw [List.take_append_drop]
    _ ↔ names <+: places.drop n := List.prefix_append_right_inj _

end Onramp.Library.Paths
