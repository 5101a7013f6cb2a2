import Mathlib.Data.List.Basic
import Mathlib.Data.List.TakeWhile

/-!
The groups of a list that marked elements head: a group is a head with what follows it, up to the
next head or up to a stop.
-/
namespace Onramp.Library.Headed

variable {α : Type} (head stop : α → Bool)

/-- Neither a head nor a stop. -/
def plain (a : α) : Bool := !head a && !stop a

/-- The groups, in order. What no head comes before is in none. -/
def groups : List α → List (List α)
  | [] => []
  | a :: rest => if head a then (a :: rest.takeWhile (plain head stop)) :: groups rest else groups rest

/-- The list does not go on with an element that belongs to the group before. -/
def Ends (items : List α) : Prop := ∀ a ∈ items.head?, plain head stop a = false

variable {head stop} {front back items group : List α}

theorem groups_eq_nil_iff : groups head stop items = [] ↔ ∀ a ∈ items, head a = false := by
  induction items with
  | nil => simp [groups]
  | cons a rest ih => cases marked : head a <;> simp [groups, marked, ih]

/-- Each head heads one group, in order. -/
theorem groups_heads : (groups head stop items).map List.head? = (items.filter head).map some := by
  induction items with
  | nil => rfl
  | cons a rest ih => cases marked : head a <;> simp [groups, marked, ih]

theorem takeWhile_append_ends {p : α → Bool} (ends : ∀ a ∈ back.head?, p a = false) :
    (front ++ back).takeWhile p = front.takeWhile p := by
  induction front with
  | nil =>
    cases back with
    | nil => rfl
    | cons a rest => simp [ends a rfl]
  | cons a rest ih => simp [List.takeWhile_cons, ih]

/-- The groups of a list are those of its parts, where no group goes on behind the first part. -/
theorem groups_append (ends : Ends head stop back) :
    groups head stop (front ++ back) = groups head stop front ++ groups head stop back := by
  induction front with
  | nil => rfl
  | cons a rest ih =>
    rw [List.cons_append, groups, groups, ih, takeWhile_append_ends ends]
    split <;> rfl

theorem plain_of_head {a : α} (marked : head a = true) : plain head stop a = false := by simp [plain, marked]

theorem groups_of_plain (body : ∀ a ∈ items, plain head stop a = true) : groups head stop items = [] := by
  refine groups_eq_nil_iff.mpr (fun a inside => ?_)
  have := body a inside
  simp only [plain, Bool.and_eq_true, Bool.not_eq_true'] at this
  exact this.1

/-- The groups, one after the other, leave out what stands before the first. -/
theorem groups_sublist_dropWhile (items : List α) :
    (groups head stop items).flatten.Sublist (items.dropWhile (plain head stop)) := by
  induction items with
  | nil => exact .slnil
  | cons a rest ih =>
    rw [groups, List.dropWhile_cons]
    cases marked : head a with
    | true =>
      have parts : rest.takeWhile (plain head stop) ++ rest.dropWhile (plain head stop) = rest :=
        List.takeWhile_append_dropWhile
      have body : (rest.takeWhile (plain head stop) ++ (groups head stop rest).flatten).Sublist rest := by
        conv_rhs => rw [← parts]
        exact ih.append_left _
      simpa [plain_of_head marked] using body.cons_cons a
    | false =>
      have later := ih.trans (List.dropWhile_sublist _)
      simp only [Bool.false_eq_true, if_false]
      split
      · exact ih
      · exact later.cons a

/-- No element is in two groups. -/
theorem groups_sublist (items : List α) : (groups head stop items).flatten.Sublist items :=
  (groups_sublist_dropWhile items).trans (List.dropWhile_sublist _)

/-- A head with what belongs to it. -/
def Group (head stop : α → Bool) (group : List α) : Prop :=
  ∃ a body, group = a :: body ∧ head a = true ∧ ∀ b ∈ body, plain head stop b = true

theorem groups_of_group (one : Group head stop group) : groups head stop group = [group] := by
  obtain ⟨a, body, rfl, marked, within⟩ := one
  have whole : body.takeWhile (plain head stop) = body := List.takeWhile_eq_self_iff.mpr within
  rw [groups, if_pos marked, whole, groups_of_plain within]

theorem Group.ends (one : Group head stop group) (back : List α) : Ends head stop (group ++ back) := by
  obtain ⟨a, body, rfl, marked, -⟩ := one
  rintro b ⟨⟩
  exact plain_of_head marked

/-- A group between two parts of the list is one of its groups, after those of the front. -/
theorem groups_split (one : Group head stop group) (ends : Ends head stop back) :
    groups head stop (front ++ (group ++ back)) =
      groups head stop front ++ group :: groups head stop back := by
  rw [groups_append (one.ends back), groups_append ends, groups_of_group one]
  rfl

/-- Each group stands between two such parts. -/
theorem split_of_mem {before after : List (List α)} (split : groups head stop items = before ++ group :: after) :
    ∃ front back, items = front ++ (group ++ back) ∧ Group head stop group ∧ Ends head stop back ∧
      groups head stop front = before := by
  induction items generalizing before with
  | nil => cases before <;> cases split
  | cons a rest ih =>
    rw [groups] at split
    cases marked : head a with
    | false =>
      simp only [marked, Bool.false_eq_true, if_false] at split
      obtain ⟨front, back, rfl, one, ends, earlier⟩ := ih split
      exact ⟨a :: front, back, rfl, one, ends, by rw [groups, marked]; exact earlier⟩
    | true =>
      simp only [marked, if_true] at split
      cases before with
      | nil =>
        cases split
        have parts : rest.takeWhile (plain head stop) ++ rest.dropWhile (plain head stop) = rest :=
          List.takeWhile_append_dropWhile
        refine ⟨[], rest.dropWhile (plain head stop), by simp [parts], ⟨a, _, rfl, marked, ?_⟩, ?_, rfl⟩
        · exact fun b inside => List.mem_takeWhile_imp inside
        · intro b first
          have := List.head?_dropWhile_not (plain head stop) rest
          rw [Option.mem_def.mp first] at this
          exact this
      | cons first others =>
        obtain ⟨here, later⟩ := List.cons.inj split
        obtain ⟨front, back, rfl, one, ends, earlier⟩ := ih later
        refine ⟨a :: front, back, rfl, one, ends, ?_⟩
        rw [groups, if_pos marked, earlier, ← here, takeWhile_append_ends (one.ends back)]

end Onramp.Library.Headed
