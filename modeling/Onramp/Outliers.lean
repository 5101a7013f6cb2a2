import Onramp.Agreement
import Onramp.Money

/-!
What the other samples of a lane can do. A lane that more than half of the votes are for is the
consensus, at first or after the correction, whatever the other votes say. They only cost the
lane its acceptance, and no rounding decides that: the best counts of the ten fields have to be
at least 85 of 100 of all votes.
-/
namespace Onramp.Outliers
open Onramp.Library.Votes
open Onramp.Library.Rounding
open Onramp.Python
open Onramp.Models
open Onramp.Vertex
open Onramp.Consensus
open Onramp.Canonical
open Onramp.Verdict
open Onramp.Conformal
open Onramp.Agreement
open Onramp.Normalizer
open Onramp.Ports (Reference)
open Onramp.Correction (conditionalCorrection)
open Onramp.Money (responses_of_ensemble repricedSheet repricedSheet_returns sampleReference)
open Onramp.LaneAccounting (accepts_iff sampleServices sampleNow)

/-- The vote is for the lane, whatever the ids. -/
def VotesFor (lane : LaneRecord) (vote : EnsembleVote) : Prop := ∀ field ∈ votedFields, SameField field vote.lane lane

instance (lane : LaneRecord) : DecidablePred (VotesFor lane) :=
  fun vote => inferInstanceAs (Decidable (∀ field ∈ votedFields, SameField field vote.lane lane))

/-- More than half of the votes are for the lane. -/
def Carried (votes : List EnsembleVote) (lane : LaneRecord) : Prop := votes.length < 2 * votes.countP (VotesFor lane ·)

/-- The consensus is the lane, and there is nothing to review. -/
structure Elects (consensus : ConsensusResult) (lane : LaneRecord) : Prop where
  clean : consensus.requiresReview = false
  elected : ∃ chosen, consensus.consensusLane = some chosen ∧ chosen.laneId = consensus.laneId ∧
    ∀ field, SameField field chosen lane

/-- The lanes have one value of the field, the surcharges in one order too. -/
def SameValue (field : VotedField) (a b : LaneRecord) : Prop :=
  SameField field a b ∧ (field = .surcharges → a.surcharges = b.surcharges)

instance (field : VotedField) (a b : LaneRecord) : Decidable (SameValue field a b) := inferInstanceAs (Decidable (_ ∧ _))

/-- Two of three votes have the values of the lane, and the third has others in so many fields. -/
def OneDiffers (votes : List EnsembleVote) (lane : LaneRecord) (fields : Nat) : Prop :=
  ∃ first second third, votes.Perm [first, second, third] ∧ (∀ field, SameValue field first.lane lane) ∧
    (∀ field, SameValue field second.lane lane) ∧ votedFields.countP (fun field => ¬ SameValue field third.lane lane) = fields

/-- The most common values of the fields, as the confidence counts them. -/
def bestCounts (votes : List EnsembleVote) : Nat := (votedFields.map (topCount votes)).sum

/-- What the samples of Stage 3 decide, and what one of them does. -/
structure Robust (extraction updated : NormalizedRatesheet) (results : List ConsensusResult) : Prop where
  elected : ∀ consensus ∈ results, ∀ lane, Carried consensus.votes lane → Elects consensus lane
  corrected : ∀ prior ∈ results, ∀ services position corrected,
    conditionalCorrection services position prior = .ok corrected → ∀ lane, Carried corrected.votes lane → Elects corrected lane
  flagged : ∃ added, updated.flaggedForReview = extraction.flaggedForReview ++ added ∧
    ∀ flag ∈ added, flag.reason = .noMajority →
      ∃ consensus ∈ results, consensus.laneId = flag.lane.laneId ∧ ∀ lane, ¬ Carried consensus.votes lane
  accepted : ∀ consensus ∈ results, ∀ calibration score,
    computeConformalScore consensus.laneId consensus.votes calibration = .ok score →
      (accepts score = true ↔ 85 * (10 * consensus.votes.length) ≤ 100 * bestCounts consensus.votes) ∧
        ∀ lane fields, OneDiffers consensus.votes lane fields → (accepts score = true ↔ fields ≤ 4)

section
variable {votes : List EnsembleVote} {lane : LaneRecord} {laneId : String} {result : ConsensusResult}

theorem Carried.majority (carried : Carried votes lane) (field : VotedField) :
    Majority (valueIn field) votes (canonical (getField lane field)) := by
  have fewer : votes.countP (VotesFor lane ·) ≤ support (valueIn field) votes (canonical (getField lane field)) := by
    rw [support_lane]
    refine List.countP_mono_left ?_
    intro vote _ voted
    rw [decide_eq_true_eq] at voted ⊢
    exact voted field (mem_votedFields field)
  unfold Carried at carried
  unfold Majority
  omega

theorem elects_of_carried (returned : majorityConsensus laneId votes = .ok result) (carried : Carried result.votes lane) :
    Elects result lane := by
  obtain ⟨-, named, votesSame, review, chosen⟩ := majorityConsensus_spec returned
  rw [votesSame] at carried
  cases votes with
  | nil => cases returned
  | cons first rest =>
    have elected : result.consensusLane = some (selectedLane laneId first (first :: rest)) := by
      refine (consensusLane_iff returned _).mpr ⟨fun field _ => ?_, rfl⟩
      rw [lastInMajority_isSome, ← hasMajority_iff]
      exact ⟨_, carried.majority field⟩
    refine ⟨?_, _, elected, ?_, fun field => ?_⟩
    · rw [← Bool.not_eq_true, ← review, elected]
      exact Option.some_ne_none _
    · rw [named]
      exact (chosen _ elected).2.1
    · exact (canonical_eq_iff field _ _).mp ((consensus_majority returned elected field).unique (carried.majority field))

/-- The correction keeps a consensus or votes again. -/
theorem corrected_elects {services : Services} {position : Nat} {corrected : ConsensusResult}
    (made : majorityConsensus laneId votes = .ok result)
    (returned : conditionalCorrection services position result = .ok corrected) (carried : Carried corrected.votes lane) :
    Elects corrected lane := by
  unfold conditionalCorrection at returned
  split at returned
  · cases returned
    exact elects_of_carried made carried
  · split at returned
    · cases returned
    · simp only [bind_eq_ok] at returned
      obtain ⟨_, -, returned⟩ := returned
      split at returned
      · cases returned
      · simp only [bind_eq_ok] at returned
        obtain ⟨low, -, high, -, returned⟩ := returned
        split at returned
        · cases returned
        · exact elects_of_carried returned carried

/-- Every consensus of Stage 3 comes from three votes, and a flag without a majority from a consensus without a lane. -/
theorem normalizeEach_made {services : Services} {reference : Reference} {position : Nat} {lanes : List LaneRecord}
    {settled : List (ConsensusResult × LaneOutcome)}
    (returned : normalizeEach services reference position lanes = .ok settled) :
    ∀ entry ∈ settled, (∃ laneId votes, majorityConsensus laneId votes = .ok entry.1 ∧ entry.1.votes.length = 3) ∧
      ∀ flag ∈ entry.2.flag, flag.reason = .noMajority → entry.1.consensusLane = none ∧ entry.1.laneId = flag.lane.laneId := by
  induction lanes generalizing position settled with
  | nil =>
    cases returned
    simp
  | cons lane rest ih =>
    obtain ⟨consensus, outcome, others, voted, moved, later, rfl⟩ := normalizeEach_cons returned
    obtain ⟨votes, ⟨low, middle, high, -, -, -, rfl⟩, made⟩ := responses_of_ensemble voted
    obtain ⟨-, named, votesSame, -⟩ := majorityConsensus_spec made
    refine List.forall_mem_cons.mpr ⟨⟨⟨_, _, made, by simp [votesSame]⟩, ?_⟩, ih later⟩
    cases settleLane_settles moved with
    | noMajority none =>
      rintro _ ⟨⟩ _
      exact ⟨none, named⟩
    | obfuscated => rintro _ ⟨⟩ ⟨⟩
    | _ => rintro _ ⟨⟩

end

section
variable {votes : List EnsembleVote} {lane : LaneRecord}

theorem topCount_le (field : VotedField) : topCount votes field ≤ votes.length := by
  obtain ⟨⟨key, reached⟩, -⟩ := topCount_isTop votes field
  rw [← reached]
  exact List.countP_le_length

theorem bestCounts_le : bestCounts votes ≤ 10 * votes.length := by
  have bounded : ∀ count ∈ votedFields.map (topCount votes), count ≤ votes.length := by
    intro count inside
    obtain ⟨field, -, rfl⟩ := List.mem_map.mp inside
    exact topCount_le field
  simpa [bestCounts, votedFields] using List.sum_le_card_nsmul _ _ bounded

theorem meanCounts_le (some : 0 < votes.length) : (bestCounts votes : ℚ) / votes.length ≤ 10 := by
  rw [div_le_iff₀ (Nat.cast_pos.mpr some)]
  exact_mod_cast bestCounts_le

/-- The rounded sum of the rounded shares, whatever is counted. -/
theorem sharesSum_near (some : 0 < votes.length) :
    0 ≤ (votedFields.map (fun field => divide (topCount votes field) votes.length)).foldl add 0 ∧
      |(votedFields.map (fun field => divide (topCount votes field) votes.length)).foldl add 0 -
        bestCounts votes / votes.length| ≤ 20 * contextError := by
  have tiny := contextError_le
  have most := meanCounts_le some
  have total : (votedFields.map (fun field => (topCount votes field : ℚ) / votes.length)).sum =
      bestCounts votes / votes.length := by
    simp only [bestCounts, votedFields, List.map_cons, List.map_nil, List.sum_cons, List.sum_nil]
    push_cast
    ring
  have share : ∀ field ∈ votedFields, 0 ≤ divide (topCount votes field) votes.length ∧
      0 ≤ (topCount votes field : ℚ) / votes.length ∧
        |divide (topCount votes field) votes.length - (topCount votes field : ℚ) / votes.length| ≤ contextError := by
    intro field _
    have below : topCount votes field ≤ votes.length := topCount_le field
    obtain ⟨low, close⟩ := contextRound_near some (show topCount votes field < 100 * votes.length by omega)
    exact ⟨low, by positivity, close⟩
  have tens : (votedFields.length : ℚ) = 10 := by norm_num [votedFields]
  obtain ⟨low, close⟩ := foldl_near contextError_nonneg (fun _ _ => add_near) votedFields share 0 0 0 le_rfl (by simp)
    (by rw [total, tens]; linarith)
  rw [total, tens, zero_add, zero_add] at close
  refine ⟨low, close.trans ?_⟩
  linarith

/-- The rounded arithmetic gives the exact mean of the counts, rounded half up. -/
theorem perFieldAgreement_exact (few : 3 ≤ votes.length) (many : votes.length ≤ 5) :
    perFieldAgreement votes = (200 * bestCounts votes + votes.length) / (2 * votes.length) := by
  have some : 0 < votes.length := by omega
  have tiny := contextError_le
  have most := meanCounts_le some
  have tens : (votedFields.length : ℚ) = 10 := by norm_num [votedFields]
  obtain ⟨low, close⟩ := sharesSum_near some
  unfold perFieldAgreement
  rw [if_neg (by omega)]
  simp only
  generalize (votedFields.map (fun field => divide (topCount votes field) votes.length)).foldl add 0 = sum at low close ⊢
  obtain ⟨below, above⟩ := abs_le.mp close
  have high : sum < 100 := by linarith
  obtain ⟨meanLow, meanClose⟩ := contextRound_rat low high (show 0 < votedFields.length by decide)
  rw [meanThousandths_eq meanLow]
  rw [tens] at meanClose
  obtain ⟨meanBelow, meanAbove⟩ := abs_le.mp meanClose
  refine halfUp_mean few many (abs_le.mpr ⟨?_, ?_⟩)
  · rw [mul_div_assoc]
    linarith
  · rw [mul_div_assoc]
    linarith

/-- No rounding decides whether a lane is accepted. -/
theorem accepts_exact (few : 3 ≤ votes.length) (many : votes.length ≤ 5) {laneId : String}
    {calibration : ConformalCalibration} {score : ConformalScore}
    (scored : computeConformalScore laneId votes calibration = .ok score) :
    accepts score = true ↔ 85 * (10 * votes.length) ≤ 100 * bestCounts votes := by
  rw [accepts_iff scored, perFieldAgreement_exact few many, Nat.le_div_iff_mul_le (by omega)]
  omega

theorem agreementKey_iff (field : VotedField) (a b : LaneRecord) :
    agreementKey (getField a field) = agreementKey (getField b field) ↔ SameValue field a b := by
  by_cases surcharges : field = .surcharges
  · subst surcharges
    rw [agreementKey_surcharges]
    exact ⟨fun same => ⟨List.Perm.of_eq same, fun _ => same⟩, fun same => same.2 rfl⟩
  · rw [agreementKey_eq_iff surcharges]
    exact ⟨fun same => ⟨same, fun is => absurd is surcharges⟩, And.left⟩

theorem isTop_pair {first second third : EnsembleVote} {field : VotedField} {n : Nat}
    (same : keyIn field second = keyIn field first) (top : IsTop (keyIn field) [first, second, third] n) :
    n = if keyIn field third = keyIn field first then 3 else 2 := by
  refine IsGreatest.unique top ⟨⟨keyIn field first, ?_⟩, ?_⟩
  · by_cases third' : keyIn field third = keyIn field first <;> simp [support, same, third']
  · rintro _ ⟨key, rfl⟩
    by_cases first' : keyIn field first = key <;> by_cases third' : keyIn field third = key <;>
      simp [support, same, first', third']
    split_ifs <;> omega

theorem topCount_pair {first second third : EnsembleVote} (perm : votes.Perm [first, second, third]) {field : VotedField}
    (one : SameValue field first.lane lane) (other : SameValue field second.lane lane) :
    topCount votes field + (if SameValue field third.lane lane then 0 else 1) = 3 := by
  have front : keyIn field first = agreementKey (getField lane field) := (agreementKey_iff field _ _).mpr one
  have back : keyIn field second = agreementKey (getField lane field) := (agreementKey_iff field _ _).mpr other
  have last : keyIn field third = agreementKey (getField lane field) ↔ SameValue field third.lane lane :=
    agreementKey_iff field _ _
  have top := (topCount_isTop votes field).perm (perm.map (keyIn field))
  rw [isTop_pair (back.trans front.symm) top, front]
  simp only [last]
  split_ifs <;> rfl

theorem OneDiffers.bestCounts_add {fields : Nat} (differs : OneDiffers votes lane fields) :
    votes.length = 3 ∧ bestCounts votes + fields = 30 := by
  obtain ⟨first, second, third, perm, one, other, rfl⟩ := differs
  refine ⟨perm.length_eq, ?_⟩
  have each : ∀ items : List VotedField, (items.map (topCount votes)).sum +
      items.countP (fun field => ¬ SameValue field third.lane lane) = 3 * items.length := by
    intro items
    induction items with
    | nil => rfl
    | cons field rest ih =>
      have here := topCount_pair perm (one field) (other field)
      by_cases same : SameValue field third.lane lane
      · simp only [List.map_cons, List.sum_cons, List.countP_cons, List.length_cons, same, if_true, not_true_eq_false,
          decide_false] at here ih ⊢
        simp at here ih ⊢
        omega
      · simp [same] at here ih ⊢
        omega
  exact each votedFields

end

/-- However the samples of Stage 3 and of the corrections come out: a lane that more than half of the votes are for is the
    consensus, no lane is flagged for the lack of a majority that has one, and a lane is accepted exactly when the best
    counts of its fields are at least 85 of 100, which one sample of three spoils by differing in five fields or more. -/
theorem minority_outvoted (services : Services) (reference : Reference) (now : DateTime)
    (extraction updated : NormalizedRatesheet) (results : List ConsensusResult)
    (returned : normalizeLanes services reference now extraction = .ok (updated, results)) :
    Robust extraction updated results := by
  obtain ⟨settled, each, -, flags, rfl⟩ := normalizeLanes_eq_ok returned
  have made := normalizeEach_made each
  refine ⟨?_, ?_, ⟨_, flags, ?_⟩, ?_⟩
  · intro consensus inside lane carried
    obtain ⟨entry, among, rfl⟩ := List.mem_map.mp inside
    obtain ⟨⟨_, _, voted, -⟩, -⟩ := made entry among
    exact elects_of_carried voted carried
  · intro prior inside services position corrected corrects lane carried
    obtain ⟨entry, among, rfl⟩ := List.mem_map.mp inside
    obtain ⟨⟨_, _, voted, -⟩, -⟩ := made entry among
    exact corrected_elects voted corrects carried
  · intro flag listed reason
    obtain ⟨entry, among, flagged⟩ := List.mem_filterMap.mp listed
    obtain ⟨⟨_, _, voted, -⟩, flagOf⟩ := made entry among
    obtain ⟨none, named⟩ := flagOf flag flagged reason
    refine ⟨entry.1, List.mem_map_of_mem among, named, fun lane carried => ?_⟩
    obtain ⟨chosen, elected, -⟩ := (elects_of_carried voted carried).elected
    rw [none] at elected
    cases elected
  · intro consensus inside calibration score scored
    obtain ⟨entry, among, rfl⟩ := List.mem_map.mp inside
    obtain ⟨⟨_, _, -, three⟩, -⟩ := made entry among
    have exact := accepts_exact (by omega) (by omega) scored
    refine ⟨exact, fun lane fields differs => ?_⟩
    obtain ⟨-, total⟩ := differs.bestCounts_add
    rw [exact, three]
    omega

theorem minority_outvoted_repriced : ∃ updated results,
    normalizeLanes sampleServices sampleReference sampleNow repricedSheet = .ok (updated, results) ∧
      Robust repricedSheet updated results := by
  obtain ⟨updated, results, returned, -⟩ := repricedSheet_returns
  exact ⟨updated, results, returned, minority_outvoted _ _ _ _ _ _ returned⟩

end Onramp.Outliers
