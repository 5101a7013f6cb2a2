import Onramp.LaneAccounting
import Onramp.Verdict

/-!
What the escalation of a lane to five votes can change: a field on which the three votes
agreed keeps its value, and every field of the lane is held by three of the five.
-/
namespace Onramp.Escalation
open Onramp.Library.Votes
open Onramp.Python
open Onramp.Models
open Onramp.Vertex
open Onramp.Consensus
open Onramp.Canonical
open Onramp.Verdict
open Onramp.Correction
open Onramp.LaneAccounting (sampleServices sampleLane sampleVote sampleConsensus)

/-- The two calls about the prior consensus of the flag at this position return these votes. -/
structure Answers (services : Services) (position : Nat) (prior : ConsensusResult) (low high : EnsembleVote) : Prop where
  client : services.client [position] = .ok ()
  inTime : services.expires [position] = false
  low : ∀ first ∈ prior.votes.head?, oneCorrectionCall services position first.lane 3 0 = .ok low
  high : ∀ first ∈ prior.votes.head?, oneCorrectionCall services position first.lane 4 10 = .ok high

variable {services : Services} {position : Nat} {prior : ConsensusResult} {low high : EnsembleVote}

theorem oneCorrectionCall_valid {lane : LaneRecord} {sampleIndex temperatureTenths : Nat} {vote : EnsembleVote}
    (returned : oneCorrectionCall services position lane sampleIndex temperatureTenths = .ok vote) : vote.Valid := by
  unfold oneCorrectionCall at returned
  obtain ⟨attempt, answered⟩ := withRetry_ok returned
  obtain ⟨response, -, voted⟩ := bind_eq_ok.mp answered
  exact voteOf_valid voted

/-- The prior consensus and the new votes make five valid votes. -/
theorem Answers.five (answers : Answers services position prior low high) (three : prior.votes.length = 3)
    (valid : prior.Valid) : (prior.votes ++ [low, high]).length = 5 ∧ ∀ vote ∈ prior.votes ++ [low, high], vote.Valid := by
  constructor
  · simp [three]
  · intro vote inside
    obtain ⟨first, head⟩ : ∃ first, prior.votes.head? = some first := by
      cases votes : prior.votes with
      | nil => simp [votes] at three
      | cons first rest => exact ⟨first, rfl⟩
    simp only [List.mem_append, List.mem_cons, List.not_mem_nil, or_false] at inside
    rcases inside with old | rfl | rfl
    · exact valid.2.1 vote old
    · exact oneCorrectionCall_valid (answers.low first head)
    · exact oneCorrectionCall_valid (answers.high first head)

/-- With the two votes, the correction is the vote on all five. -/
theorem conditionalCorrection_eq (answers : Answers services position prior low high) (three : prior.votes.length = 3)
    (review : prior.requiresReview = true) :
    conditionalCorrection services position prior = majorityConsensus prior.laneId (prior.votes ++ [low, high]) := by
  unfold conditionalCorrection
  rw [if_neg (by simp [review])]
  have lowAnswer := answers.low
  have highAnswer := answers.high
  cases votes : prior.votes with
  | nil => simp [votes] at three
  | cons first rest =>
    rw [votes] at lowAnswer highAnswer three
    simp only [answers.client, answers.inTime, lowAnswer first rfl, highAnswer first rfl, gathered, bind, Except.bind]
    rw [if_neg (by simp), if_neg (by simpa using three)]

/-- What the correction of a consensus of three votes respects. -/
structure Respects (prior : ConsensusResult) (low high : EnsembleVote) (outcome : Raises ConsensusResult) : Prop where
  /-- every value of the lane is held by three of the five votes, and by the three prior votes where they agreed -/
  lane : ∀ result lane, outcome = .ok result → result.consensusLane = some lane →
    lane.laneId = prior.laneId ∧ ∀ field,
      3 ≤ (prior.votes ++ [low, high]).countP (fun vote => SameField field vote.lane lane) ∧
      ((∀ vote ∈ prior.votes, ∀ other ∈ prior.votes, SameField field vote.lane other.lane) →
        ∀ vote ∈ prior.votes, SameField field vote.lane lane)
  /-- without three votes for one value of some field there is no lane -/
  split : (∃ field, ∀ vote ∈ prior.votes ++ [low, high],
      (prior.votes ++ [low, high]).countP (fun other => SameField field other.lane vote.lane) < 3) →
    ∃ result, outcome = .ok result ∧ result.consensusLane = none
  /-- with three votes for one value of every field there is one, if its id is in bounds -/
  joined : (∀ field, ∃ vote ∈ prior.votes ++ [low, high],
      3 ≤ (prior.votes ++ [low, high]).countP (fun other => SameField field other.lane vote.lane)) →
    lengthWithin 1 64 prior.laneId → ∃ result lane, outcome = .ok result ∧ result.consensusLane = some lane

theorem correction_respects (answers : Answers services position prior low high) (three : prior.votes.length = 3)
    (valid : prior.Valid) (review : prior.requiresReview = true) :
    Respects prior low high (conditionalCorrection services position prior) := by
  obtain ⟨five, allValid⟩ := answers.five three valid
  rw [conditionalCorrection_eq answers three review]
  have decides : Decides prior.laneId (prior.votes ++ [low, high]) _ := majorityConsensus_decides _ (by omega) (by omega) allValid
  constructor
  · intro result lane returned chosen
    obtain ⟨named, majorities, -⟩ := decides.clean result lane returned chosen
    refine ⟨named, fun field => ⟨?_, fun agreed vote inside => ?_⟩⟩
    · have many := majorities field
      unfold Majority at many
      rw [support_lane, five] at many
      omega
    · -- The three votes are a majority of the five, and so is the value of the lane.
      have all : support (valueIn field) prior.votes (canonical (getField vote.lane field)) = prior.votes.length := by
        refine support_eq_length.mpr ?_
        intro other among
        exact (canonical_eq_iff field other.lane vote.lane).mpr (agreed other among vote inside)
      have held : Majority (valueIn field) (prior.votes ++ [low, high]) (canonical (getField vote.lane field)) := by
        unfold Majority
        rw [support_append, all, five, three]
        omega
      exact (canonical_eq_iff field vote.lane lane).mp (held.unique (majorities field))
  · rintro ⟨field, few⟩
    have split : ¬ HasMajority field (prior.votes ++ [low, high]) := by
      rintro ⟨key, many⟩
      obtain ⟨vote, inside, rfl⟩ := many.voted
      have fewer := few vote inside
      unfold Majority at many
      rw [five, show valueIn field vote = canonical (getField vote.lane field) from rfl, support_lane] at many
      omega
    cases outcome : majorityConsensus prior.laneId (prior.votes ++ [low, high]) with
    | error exc =>
      have all := (decides.raises.mp ⟨exc, outcome⟩).1
      exact absurd (all field) split
    | ok result =>
      refine ⟨result, rfl, ?_⟩
      by_contra lane
      obtain ⟨lane, chosen⟩ := Option.ne_none_iff_exists'.mp lane
      exact split ((decides.lane result outcome).mp ⟨lane, chosen⟩ field)
  · intro many named
    have majorities : ∀ field, HasMajority field (prior.votes ++ [low, high]) := by
      intro field
      obtain ⟨vote, -, three⟩ := many field
      refine ⟨canonical (getField vote.lane field), ?_⟩
      unfold Majority
      rw [five, show canonical (getField vote.lane field) = valueIn field vote from rfl]
      have same := support_lane field (prior.votes ++ [low, high]) vote.lane
      simp only [valueIn] at same ⊢
      omega
    cases outcome : majorityConsensus prior.laneId (prior.votes ++ [low, high]) with
    | error exc => exact absurd named (decides.raises.mp ⟨exc, outcome⟩).2
    | ok result =>
      obtain ⟨lane, chosen⟩ := (decides.lane result outcome).mpr majorities
      exact ⟨result, lane, rfl, chosen⟩

/-- Two corrections that get the lanes of their votes the other way round come to the same. -/
theorem correction_swap {services' : Services} {position' : Nat} {low' high' : EnsembleVote}
    (answers : Answers services position prior low high) (answers' : Answers services' position' prior low' high')
    (three : prior.votes.length = 3) (valid : prior.Valid) (review : prior.requiresReview = true)
    (first : low'.lane = high.lane) (second : high'.lane = low.lane) :
    SameOutcome (conditionalCorrection services position prior) (conditionalCorrection services' position' prior) := by
  obtain ⟨five, allValid⟩ := answers.five three valid
  obtain ⟨five', allValid'⟩ := answers'.five three valid
  rw [conditionalCorrection_eq answers three review, conditionalCorrection_eq answers' three review]
  refine majorityConsensus_perm (by omega) (by omega) allValid allValid' ?_
  unfold SameLanes
  simp only [List.map_append, List.map_cons, List.map_nil, first, second]
  exact List.Perm.append_left _ (List.Perm.swap _ _ _)

/-- The correction of a consensus of three votes: it is the prior consensus where no review is required, else it
    respects what the three votes agreed on and needs three of five, whichever vote comes first. -/
theorem correction_respects_votes (services : Services) (position : Nat) (prior : ConsensusResult)
    (three : prior.votes.length = 3) (valid : prior.Valid) :
    (prior.requiresReview = false → conditionalCorrection services position prior = .ok prior) ∧
      ∀ low high, prior.requiresReview = true → Answers services position prior low high →
        Respects prior low high (conditionalCorrection services position prior) ∧
        ∀ services' position' low' high', Answers services' position' prior low' high' →
          low'.lane = high.lane → high'.lane = low.lane →
          SameOutcome (conditionalCorrection services position prior) (conditionalCorrection services' position' prior) := by
  refine ⟨fun clean => if_pos clean, fun low high review answers => ⟨correction_respects answers three valid review, ?_⟩⟩
  intro services' position' low' high' answers' first second
  exact correction_swap answers answers' three valid review first second

/-- Three samples that differ in the rate. -/
def splitConsensus : ConsensusResult := sampleConsensus (sampleLane 100 none) (sampleLane 200 none) (sampleLane 300 none)

/-- Both calls answer with the rate of the first sample. -/
theorem splitConsensus_answers : Answers sampleServices 0 splitConsensus (sampleVote 3 0 (sampleLane 100 none))
    (sampleVote 4 10 (sampleLane 100 none)) := by
  refine ⟨rfl, rfl, ?_, ?_⟩
  · rintro first ⟨⟩
    decide +kernel
  · rintro first ⟨⟩
    decide +kernel

theorem correction_respects_votes_split :
    (splitConsensus.votes.length = 3 ∧ splitConsensus.Valid ∧ splitConsensus.requiresReview = true) ∧
      Respects splitConsensus (sampleVote 3 0 (sampleLane 100 none)) (sampleVote 4 10 (sampleLane 100 none))
        (conditionalCorrection sampleServices 0 splitConsensus) :=
  ⟨⟨rfl, by decide, rfl⟩, ((correction_respects_votes sampleServices 0 splitConsensus rfl (by decide)).2 _ _ rfl
    splitConsensus_answers).1⟩

end Onramp.Escalation
