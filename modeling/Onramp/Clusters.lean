import Onramp.Library.Headed
import Onramp.Edifact

/-!
The clusters of an interchange. The loop gives each LIN its cluster up to the first UNT and leaves
there, so it finds every LIN of the interchange when none comes after the first message.
-/
namespace Onramp.Clusters
open Onramp.Edifact
open Onramp.Library.Headed

def isLin (segment : Segment) : Bool := segment.tag = "LIN"

def isUnt (segment : Segment) : Bool := segment.tag = "UNT"

/-- Each LIN heads one cluster, in order, with the segments up to the next LIN or to the end of its
    message, and no segment is in two clusters. -/
structure EveryLinHeads (segments : List Segment) (clusters : List (List Segment)) : Prop where
  heads : clusters.map List.head? = (segments.filter isLin).map some
  extent : clusters = groups isLin isUnt segments
  apart : clusters.flatten.Sublist segments

/-- No LIN comes after the first UNT. -/
def OneMessage (segments : List Segment) : Prop :=
  ∀ segment ∈ segments.dropWhile (fun segment => !isUnt segment), isLin segment = false

instance : DecidablePred OneMessage := fun _ => inferInstanceAs (Decidable (∀ _ ∈ _, _))

theorem not_unt_of_lin {segment : Segment} (lin : segment.tag = "LIN") : isUnt segment = false := by
  simp [isUnt, lin]

/-- With a cluster open, the loop goes on with it up to the next LIN or the first UNT. -/
theorem clustersFrom_open {current : List Segment} (opened : current ≠ []) (segments : List Segment) :
    clustersFrom current segments =
      (current ++ (segments.takeWhile (fun segment => !isUnt segment)).takeWhile (plain isLin isUnt)) ::
        groups isLin isUnt (segments.takeWhile (fun segment => !isUnt segment)) := by
  induction segments generalizing current with
  | nil => simp [clustersFrom, opened, groups]
  | cons segment rest ih =>
    rw [clustersFrom]
    by_cases lin : segment.tag = "LIN"
    · have unt := not_unt_of_lin lin
      rw [if_pos lin, if_neg opened, ih (List.cons_ne_nil _ _)]
      simp [unt, groups, isLin, plain, lin]
    · rw [if_neg lin]
      by_cases unt : segment.tag = "UNT"
      · rw [if_pos unt, if_neg opened]
        simp [isUnt, unt, groups]
      · rw [if_neg unt, if_neg opened, ih (by simp)]
        simp [isUnt, unt, groups, isLin, lin, plain]

/-- The clusters are those of the part before the first UNT. -/
theorem clustersFrom_eq (segments : List Segment) :
    clustersFrom [] segments = groups isLin isUnt (segments.takeWhile (fun segment => !isUnt segment)) := by
  induction segments with
  | nil => simp [clustersFrom, groups]
  | cons segment rest ih =>
    rw [clustersFrom]
    by_cases lin : segment.tag = "LIN"
    · have unt := not_unt_of_lin lin
      rw [if_pos lin, if_pos rfl, clustersFrom_open (List.cons_ne_nil _ _)]
      simp [unt, groups, isLin, lin]
    · rw [if_neg lin]
      by_cases unt : segment.tag = "UNT"
      · simp [isUnt, unt, groups]
      · rw [if_neg unt, if_pos rfl, ih]
        simp [isUnt, unt, groups, isLin, lin]

/-- No cluster goes on at the first UNT. -/
theorem trailer_ends (segments : List Segment) : Ends isLin isUnt (segments.dropWhile (fun segment => !isUnt segment)) := by
  intro segment first
  have closes := List.head?_dropWhile_not (fun segment => !isUnt segment) segments
  rw [Option.mem_def.mp first] at closes
  simp only [Bool.not_eq_false'] at closes
  simp [plain, closes]

/-- The clusters of the whole interchange are those before the first UNT and those after it. -/
theorem groups_messages (segments : List Segment) :
    groups isLin isUnt segments =
      clustersFrom [] segments ++ groups isLin isUnt (segments.dropWhile (fun segment => !isUnt segment)) := by
  have parts : segments.takeWhile (fun segment => !isUnt segment) ++ segments.dropWhile (fun segment => !isUnt segment) =
      segments := List.takeWhile_append_dropWhile
  rw [clustersFrom_eq]
  conv_lhs => rw [← parts]
  exact groups_append (trailer_ends segments)

/-- Every LIN heads its cluster if and only if no LIN comes after the first UNT. -/
theorem every_lin_heads_iff (segments : List Segment) :
    EveryLinHeads segments (clustersFrom [] segments) ↔ OneMessage segments := by
  have later : groups isLin isUnt (segments.dropWhile (fun segment => !isUnt segment)) = [] ↔ OneMessage segments :=
    groups_eq_nil_iff
  rw [← later]
  constructor
  · intro every
    have extent := every.extent
    rw [groups_messages] at extent
    exact List.self_eq_append_right.mp extent
  · intro none
    have whole : clustersFrom [] segments = groups isLin isUnt segments := by
      rw [groups_messages, none, List.append_nil]
    rw [whole]
    exact ⟨groups_heads, rfl, groups_sublist segments⟩

/-- An interchange of two messages with one LIN each. -/
def twoMessages : List Segment :=
  [⟨"UNH", [.text "1"]⟩, ⟨"LIN", [.text "NLRTM"]⟩, ⟨"UNT", [.text "3"]⟩,
    ⟨"UNH", [.text "2"]⟩, ⟨"LIN", [.text "DEHAM"]⟩, ⟨"UNT", [.text "3"]⟩]

/-- The LIN of the second message has no cluster. -/
theorem second_message_dropped :
    clustersFrom [] twoMessages = [[⟨"LIN", [.text "NLRTM"]⟩]] ∧
      ¬ EveryLinHeads twoMessages (clustersFrom [] twoMessages) := by
  have dropped : clustersFrom [] twoMessages = [[⟨"LIN", [.text "NLRTM"]⟩]] := by decide
  refine ⟨dropped, fun every => ?_⟩
  have heads := every.heads
  rw [dropped] at heads
  revert heads
  decide

end Onramp.Clusters
