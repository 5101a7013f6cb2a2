import Onramp.Canonical
import Onramp.Library.Votes

/-!
The field-wise vote as a verdict on the votes, whatever their order: which values have a
majority, how many votes the best value of each field has, and what the lane of a clean
consensus holds.
-/
namespace Onramp.Verdict
open Onramp.Library.Votes
open Onramp.Python
open Onramp.Models
open Onramp.Consensus
open Onramp.Canonical

/-- The canonical value of the field in the vote. -/
def valueIn (field : VotedField) (vote : EnsembleVote) : String := canonical (getField vote.lane field)

/-- Some value of the field is held by more than half of the votes. -/
def HasMajority (field : VotedField) (votes : List EnsembleVote) : Prop := ∃ key, Majority (valueIn field) votes key

theorem support_eq_count (field : VotedField) (votes : List EnsembleVote) (key : String) :
    support (valueIn field) votes key = (fieldKeys field votes).count key := by
  have listed : fieldKeys field votes = votes.map (valueIn field) := rfl
  rw [support, listed, List.count, List.countP_map]
  refine List.countP_congr ?_
  intro vote _
  simp only [Function.comp_apply, decide_eq_true_eq, beq_iff_eq]

/-- The number of votes with the value that a lane has in the field. -/
theorem support_lane (field : VotedField) (votes : List EnsembleVote) (lane : LaneRecord) :
    support (valueIn field) votes (canonical (getField lane field)) =
      votes.countP (fun vote => SameField field vote.lane lane) := by
  refine List.countP_congr ?_
  intro vote _
  simp only [decide_eq_true_eq]
  exact canonical_eq_iff field vote.lane lane

/-- The top entry is a value with the greatest number of votes. -/
theorem topEntry_isTop (field : VotedField) (votes : List EnsembleVote) :
    IsTop (valueIn field) votes (topEntry field votes).2 := by
  obtain ⟨reached, most⟩ := topEntry_spec field votes
  constructor
  · exact ⟨(topEntry field votes).1, by rw [support_eq_count, reached]⟩
  · rintro _ ⟨key, rfl⟩
    rw [support_eq_count]
    exact most key

theorem hasMajority_iff (field : VotedField) (votes : List EnsembleVote) :
    HasMajority field votes ↔ votes.length / 2 + 1 ≤ (topEntry field votes).2 := by
  unfold HasMajority
  rw [(topEntry_isTop field votes).majority_iff]
  omega

theorem mem_votedFields (field : VotedField) : field ∈ votedFields := by cases field <;> decide

theorem countFields_majority (votes : List EnsembleVote) :
    (countFields (votes.length / 2 + 1) votes votedFields).2 = true ↔ ∀ field, HasMajority field votes := by
  rw [countFields_clean]
  constructor
  · intro reached field
    exact (hasMajority_iff field votes).mpr (reached field (mem_votedFields field))
  · intro majorities field _
    exact (hasMajority_iff field votes).mp (majorities field)

/-- With a majority in every field, the loop counts every field. -/
theorem countFields_all {threshold : Nat} {votes : List EnsembleVote} (fields : List VotedField)
    (reached : ∀ field ∈ fields, threshold ≤ (topEntry field votes).2) :
    (countFields threshold votes fields).1 = fields.map (fun field => (field.name, (topEntry field votes).2)) := by
  induction fields with
  | nil => rfl
  | cons field rest ih =>
    have here := reached field List.mem_cons_self
    simp [countFields, here, ih (fun later inside => reached later (List.mem_cons_of_mem _ inside))]

/-- The selected vote of a field with a majority holds the value of the majority. -/
theorem selectedVote_majority (first : EnsembleVote) {votes : List EnsembleVote} {field : VotedField}
    (many : HasMajority field votes) :
    Majority (valueIn field) votes (canonical (getField (selectedVote first votes field).lane field)) := by
  have reached := (hasMajority_iff field votes).mp many
  have last := lastInMajority_eq_some first reached
  have inside := (List.mem_filter.mp (List.mem_of_getLast? last)).2
  have held : votes.length / 2 + 1 ≤ _ := of_decide_eq_true inside
  unfold Majority
  rw [support_eq_count]
  omega

theorem getField_selectedLane (laneId : String) (first : EnsembleVote) (votes : List EnsembleVote) (field : VotedField) :
    getField (selectedLane laneId first votes) field = getField (selectedVote first votes field).lane field := by
  cases field <;> rfl

/-- The lanes have the same id and the same value in every voted field. -/
def SameLane (a b : LaneRecord) : Prop := a.laneId = b.laneId ∧ ∀ field, SameField field a b

theorem SameLane.trans {a b c : LaneRecord} (first : SameLane a b) (second : SameLane b c) : SameLane a c := by
  refine ⟨first.1.trans second.1, fun field => ?_⟩
  have front := (canonical_eq_iff field a b).mpr (first.2 field)
  have back := (canonical_eq_iff field b c).mpr (second.2 field)
  exact (canonical_eq_iff field a c).mp (front.trans back)

/-- Of valid votes, the selected lane is valid when the lane id is one. -/
theorem selectedLane_valid_iff (laneId : String) {first : EnsembleVote} {rest : List EnsembleVote}
    (valid : ∀ vote ∈ first :: rest, vote.Valid) :
    (selectedLane laneId first (first :: rest)).Valid ↔ lengthWithin 1 64 laneId := by
  have voted : ∀ field, (selectedVote first (first :: rest) field).lane.Valid := fun field =>
    (valid _ (selectedVote_mem first rest field)).2.2.1
  constructor
  · intro fits
    exact fits.laneId
  · intro named
    unfold selectedLane
    generalize selectedVote first (first :: rest) = chosen at voted ⊢
    exact ⟨named, (voted .originPort).originPort, (voted .destinationPort).destinationPort, (voted .equipmentType).equipmentType,
      (voted .commodityCode).commodityCode, (voted .surcharges).surcharges, (voted .transitTimeDays).transitTimeDays,
      (voted .sourceRowReference).sourceRowReference⟩

/-- What the vote does on valid votes. -/
theorem majorityConsensus_eq (laneId : String) {first : EnsembleVote} {rest : List EnsembleVote}
    (few : 3 ≤ (first :: rest).length) (many : (first :: rest).length ≤ 5) (valid : ∀ vote ∈ first :: rest, vote.Valid) :
    ((∀ field, HasMajority field (first :: rest)) → lengthWithin 1 64 laneId →
      majorityConsensus laneId (first :: rest) = .ok
        { laneId, consensusLane := some (selectedLane laneId first (first :: rest)), votes := first :: rest,
          agreementPerField := votedFields.map (fun field => (field.name, (topEntry field (first :: rest)).2)),
          requiresReview := false, reviewReason := .agreementClean }) ∧
    ((∀ field, HasMajority field (first :: rest)) → ¬ lengthWithin 1 64 laneId →
      majorityConsensus laneId (first :: rest) = .error (validationError "LaneRecord")) ∧
    ((¬ ∀ field, HasMajority field (first :: rest)) →
      majorityConsensus laneId (first :: rest) = .ok
        { laneId, consensusLane := none, votes := first :: rest,
          agreementPerField := (countFields ((first :: rest).length / 2 + 1) (first :: rest) votedFields).1,
          requiresReview := true, reviewReason := .noMajority }) := by
  have fits := selectedLane_valid_iff laneId valid
  have counted := countFields_majority (first :: rest)
  have all : (∀ field, HasMajority field (first :: rest)) → _ := fun majorities =>
    countFields_all votedFields (fun field _ => (hasMajority_iff field _).mp (majorities field))
  unfold majorityConsensus
  simp only
  generalize selectedLane laneId first (first :: rest) = lane at *
  generalize countFields ((first :: rest).length / 2 + 1) (first :: rest) votedFields = loop at *
  refine ⟨fun majorities named => ?_, fun majorities unnamed => ?_, fun split => ?_⟩
  · rw [if_pos (counted.mpr majorities), checked_of_valid (fits.mpr named), all majorities]
    refine checked_of_valid ⟨⟨few, many⟩, valid, ?_⟩
    rintro _ ⟨⟩
    exact fits.mpr named
  · rw [if_pos (counted.mpr majorities), checked, if_neg (fun holds => unnamed (fits.mp holds))]
    rfl
  · rw [if_neg (fun clean => split (counted.mp clean))]
    exact checked_of_valid ⟨⟨few, many⟩, valid, by rintro _ ⟨⟩⟩

/-- The outcomes are the same: the same error, or the same verdict, agreement and lane, up to the order of surcharges. -/
def SameOutcome : Raises ConsensusResult → Raises ConsensusResult → Prop
  | .ok a, .ok b => a.laneId = b.laneId ∧ a.requiresReview = b.requiresReview ∧ a.reviewReason = b.reviewReason ∧
      a.agreementPerField = b.agreementPerField ∧ Option.Rel SameLane a.consensusLane b.consensusLane
  | .error e, .error f => e = f
  | _, _ => False

/-- The votes are for the same lanes, in some order. -/
def SameLanes (votes others : List EnsembleVote) : Prop :=
  (votes.map (fun vote => vote.lane)).Perm (others.map (fun vote => vote.lane))

variable {votes others : List EnsembleVote}

theorem SameLanes.of_perm (perm : votes.Perm others) : SameLanes votes others := perm.map _

theorem SameLanes.length_eq (perm : SameLanes votes others) : votes.length = others.length := by
  have length := List.Perm.length_eq perm
  simpa using length

theorem SameLanes.values (perm : SameLanes votes others) (field : VotedField) :
    (votes.map (valueIn field)).Perm (others.map (valueIn field)) := by
  have values := List.Perm.map (fun lane => canonical (getField lane field)) perm
  rw [List.map_map, List.map_map] at values
  exact values

theorem topEntry_perm (perm : SameLanes votes others) (field : VotedField) :
    (topEntry field votes).2 = (topEntry field others).2 :=
  ((topEntry_isTop field votes).perm (perm.values field)).unique (topEntry_isTop field others)

theorem hasMajority_perm (perm : SameLanes votes others) (field : VotedField) :
    HasMajority field votes ↔ HasMajority field others := by
  rw [hasMajority_iff, hasMajority_iff, perm.length_eq, topEntry_perm perm]

theorem countFields_perm (perm : SameLanes votes others) (threshold : Nat)
    (fields : List VotedField) : countFields threshold votes fields = countFields threshold others fields := by
  induction fields with
  | nil => rfl
  | cons field rest ih => simp only [countFields, topEntry_perm perm field, ih]

theorem selectedLane_perm {laneId : String} {first other : EnsembleVote} (perm : SameLanes votes others)
    (majorities : ∀ field, HasMajority field votes) :
    SameLane (selectedLane laneId first votes) (selectedLane laneId other others) := by
  refine ⟨rfl, fun field => ?_⟩
  have here := (selectedVote_majority first (majorities field)).perm (perm.values field)
  have there := selectedVote_majority other ((hasMajority_perm perm field).mp (majorities field))
  have same := here.unique there
  rw [← getField_selectedLane laneId, ← getField_selectedLane laneId] at same
  exact (canonical_eq_iff field _ _).mp same

/-- The vote depends on the lanes of the votes only, and not on their order. -/
theorem majorityConsensus_perm {laneId : String} (few : 3 ≤ votes.length) (many : votes.length ≤ 5)
    (valid : ∀ vote ∈ votes, vote.Valid) (validOthers : ∀ vote ∈ others, vote.Valid) (perm : SameLanes votes others) :
    SameOutcome (majorityConsensus laneId votes) (majorityConsensus laneId others) := by
  cases votes with
  | nil => simp at few
  | cons first rest =>
    cases others with
    | nil =>
      have length := perm.length_eq
      cases length
    | cons other more =>
      obtain ⟨clean, raises, split⟩ := majorityConsensus_eq laneId few many valid
      have length := perm.length_eq
      obtain ⟨clean', raises', split'⟩ := majorityConsensus_eq laneId (length ▸ few) (length ▸ many)
        validOthers
      by_cases majorities : ∀ field, HasMajority field (first :: rest)
      · have majorities' : ∀ field, HasMajority field (other :: more) := fun field =>
          (hasMajority_perm perm field).mp (majorities field)
        by_cases named : lengthWithin 1 64 laneId
        · rw [clean majorities named, clean' majorities' named]
          refine ⟨rfl, rfl, rfl, ?_, .some (selectedLane_perm perm majorities)⟩
          simp only [topEntry_perm perm]
        · rw [raises majorities named, raises' majorities' named]
          rfl
      · have split'' : ¬ ∀ field, HasMajority field (other :: more) := fun all => majorities (fun field =>
          (hasMajority_perm perm field).mpr (all field))
        rw [split majorities, split' split'']
        refine ⟨rfl, rfl, rfl, ?_, .none⟩
        rw [length]
        exact congrArg Prod.fst (countFields_perm perm _ _)

/-- What the outcome says of the votes. -/
structure Decides (laneId : String) (votes : List EnsembleVote) (outcome : Raises ConsensusResult) : Prop where
  raises : (∃ error, outcome = .error error) ↔ (∀ field, HasMajority field votes) ∧ ¬ lengthWithin 1 64 laneId
  lane : ∀ result, outcome = .ok result →
    ((∃ lane, result.consensusLane = some lane) ↔ ∀ field, HasMajority field votes)
  /-- With a lane: its values are those of the majorities, and the agreement is the greatest number of votes. -/
  clean : ∀ result lane, outcome = .ok result → result.consensusLane = some lane →
    lane.laneId = laneId ∧ (∀ field, Majority (valueIn field) votes (canonical (getField lane field))) ∧
      (∃ top : VotedField → Nat, (∀ field, IsTop (valueIn field) votes (top field)) ∧
        result.agreementPerField = votedFields.map (fun field => (field.name, top field))) ∧
      result.requiresReview = false ∧ result.reviewReason = .agreementClean
  flagged : ∀ result, outcome = .ok result → result.consensusLane = none →
    result.requiresReview = true ∧ result.reviewReason = .noMajority

theorem majorityConsensus_decides (laneId : String) {votes : List EnsembleVote} (few : 3 ≤ votes.length)
    (many : votes.length ≤ 5) (valid : ∀ vote ∈ votes, vote.Valid) :
    Decides laneId votes (majorityConsensus laneId votes) := by
  cases votes with
  | nil => simp at few
  | cons first rest =>
    obtain ⟨clean, raises, split⟩ := majorityConsensus_eq laneId few many valid
    by_cases majorities : ∀ field, HasMajority field (first :: rest)
    · by_cases named : lengthWithin 1 64 laneId
      · rw [clean majorities named]
        refine ⟨?_, ?_, ?_, ?_⟩
        · simp [named]
        · rintro _ ⟨⟩
          exact ⟨fun _ => majorities, fun _ => ⟨_, rfl⟩⟩
        · rintro _ _ ⟨⟩ ⟨⟩
          refine ⟨rfl, fun field => ?_, ⟨fun field => (topEntry field (first :: rest)).2, ?_, rfl⟩, rfl, rfl⟩
          · rw [getField_selectedLane]
            exact selectedVote_majority first (majorities field)
          · exact fun field => topEntry_isTop field (first :: rest)
        · rintro _ ⟨⟩ none
          simp at none
      · rw [raises majorities named]
        exact ⟨by simp [majorities, named], by rintro _ ⟨⟩, by rintro _ _ ⟨⟩, by rintro _ ⟨⟩⟩
    · rw [split majorities]
      refine ⟨by simp [majorities], ?_, ?_, ?_⟩
      · rintro _ ⟨⟩
        simp [majorities]
      · rintro _ _ ⟨⟩ ⟨⟩
      · rintro _ ⟨⟩ _
        exact ⟨rfl, rfl⟩

/-- The vote raises only where every field has a majority and the lane id fits no lane; else it decides
    by strict majority, in whatever order the votes come. -/
theorem majority_decides (laneId : String) (votes : List EnsembleVote) (few : 3 ≤ votes.length)
    (many : votes.length ≤ 5) (valid : ∀ vote ∈ votes, vote.Valid) :
    Decides laneId votes (majorityConsensus laneId votes) ∧
      ∀ others : List EnsembleVote, votes.Perm others →
        SameOutcome (majorityConsensus laneId votes) (majorityConsensus laneId others) :=
  ⟨majorityConsensus_decides laneId few many valid, fun _ perm => majorityConsensus_perm few many valid
    (fun vote inside => valid vote (perm.mem_iff.mpr inside)) (.of_perm perm)⟩

/-- A vote for the lane. -/
def ballot (sampleIndex : Nat) (lane : LaneRecord) : EnsembleVote := ⟨sampleIndex, 5, lane, "a1b2c3d4e5f60718"⟩

/-- Three votes for one lane. -/
def unanimous : List EnsembleVote :=
  [ballot 0 (pricedLane ⟨false, 2100, 0⟩ []), ballot 1 (pricedLane ⟨false, 2100, 0⟩ []),
    ballot 2 (pricedLane ⟨false, 2100, 0⟩ [])]

theorem unanimous_valid : ∀ vote ∈ unanimous, vote.Valid := by decide

theorem unanimous_majorities : ∀ field, HasMajority field unanimous := by
  intro field
  refine ⟨canonical (getField (pricedLane ⟨false, 2100, 0⟩ []) field), ?_⟩
  have all : support (valueIn field) unanimous (canonical (getField (pricedLane ⟨false, 2100, 0⟩ []) field)) =
      unanimous.length := support_eq_length.mpr (by simp [unanimous, ballot, valueIn])
  unfold Majority
  rw [all]
  decide

theorem majority_decides_unanimous :
    (3 ≤ unanimous.length ∧ unanimous.length ≤ 5 ∧ ∀ vote ∈ unanimous, vote.Valid) ∧
      Decides "L1" unanimous (majorityConsensus "L1" unanimous) ∧
      ∀ others : List EnsembleVote, unanimous.Perm others →
        SameOutcome (majorityConsensus "L1" unanimous) (majorityConsensus "L1" others) :=
  ⟨⟨by decide, by decide, unanimous_valid⟩, majority_decides "L1" unanimous (by decide) (by decide) unanimous_valid⟩

/-- A lane id without a character fits no lane. -/
theorem unanimous_vote_raises : ¬ ∀ (laneId : String) (votes : List EnsembleVote), 3 ≤ votes.length → votes.length ≤ 5 →
    (∀ vote ∈ votes, vote.Valid) → ∃ result, majorityConsensus laneId votes = .ok result := by
  intro all
  obtain ⟨result, returned⟩ := all "" unanimous (by decide) (by decide) unanimous_valid
  have decides := majorityConsensus_decides "" (by decide) (by decide) unanimous_valid
  obtain ⟨error, raised⟩ := decides.raises.mpr ⟨unanimous_majorities, by decide⟩
  rw [returned] at raised
  cases raised

/-- The values of a consensus lane are those of the majorities. -/
theorem consensus_majority {laneId : String} {votes : List EnsembleVote} {result : ConsensusResult} {lane : LaneRecord}
    (returned : majorityConsensus laneId votes = .ok result) (chosen : result.consensusLane = some lane)
    (field : VotedField) : Majority (valueIn field) votes (canonical (getField lane field)) := by
  cases votes with
  | nil => cases returned
  | cons first rest =>
    obtain ⟨majorities, rfl⟩ := (consensusLane_iff returned lane).mp chosen
    have reached := (lastInMajority_isSome field _).mp (majorities field (mem_votedFields field))
    rw [getField_selectedLane]
    exact selectedVote_majority _ ((hasMajority_iff field _).mpr reached)

/-- The relation between two values does not look at the order of surcharges. -/
def OrderFree (R : FieldValue → FieldValue → Prop) : Prop :=
  ∀ items others : List SurchargeRecord, items.Perm others → ∀ value,
    (R (.surcharges items) value → R (.surcharges others) value) ∧ (R value (.surcharges items) → R value (.surcharges others))

theorem OrderFree.same {R : FieldValue → FieldValue → Prop} (free : OrderFree R) {field : VotedField} {a b : LaneRecord}
    (same : SameField field a b) (value : FieldValue) :
    (R (getField a field) value → R (getField b field) value) ∧ (R value (getField a field) → R value (getField b field)) := by
  cases field with
  | surcharges => exact free _ _ same value
  | originPort => simp only [getField, show a.originPort = b.originPort from same, imp_self, and_self]
  | destinationPort => simp only [getField, show a.destinationPort = b.destinationPort from same, imp_self, and_self]
  | equipmentType => simp only [getField, show a.equipmentType = b.equipmentType from same, imp_self, and_self]
  | commodityCode => simp only [getField, show a.commodityCode = b.commodityCode from same, imp_self, and_self]
  | baseRateUsd => simp only [getField, show a.baseRateUsd = b.baseRateUsd from same, imp_self, and_self]
  | transitTimeDays => simp only [getField, show a.transitTimeDays = b.transitTimeDays from same, imp_self, and_self]
  | validityStart => simp only [getField, show a.validityStart = b.validityStart from same, imp_self, and_self]
  | validityEnd => simp only [getField, show a.validityEnd = b.validityEnd from same, imp_self, and_self]
  | sourceRowReference =>
    simp only [getField, show a.sourceRowReference = b.sourceRowReference from same, imp_self, and_self]

/-- Some vote has the values of the consensus lane in any two fields, so what all votes have in common
    of two fields, the order of surcharges apart, holds of the lane. -/
theorem consensus_pairwise_coherent (laneId : String) (votes : List EnsembleVote) (result : ConsensusResult)
    (lane : LaneRecord) (returned : majorityConsensus laneId votes = .ok result)
    (chosen : result.consensusLane = some lane) (f g : VotedField) :
    (∃ vote ∈ votes, canonical (getField vote.lane f) = canonical (getField lane f) ∧
      canonical (getField vote.lane g) = canonical (getField lane g)) ∧
    ∀ R : FieldValue → FieldValue → Prop, OrderFree R →
      (∀ vote ∈ votes, R (getField vote.lane f) (getField vote.lane g)) → R (getField lane f) (getField lane g) := by
  have shared := (consensus_majority returned chosen f).meet (consensus_majority returned chosen g)
  refine ⟨shared, fun R free holds => ?_⟩
  obtain ⟨vote, inside, first, second⟩ := shared
  have related := holds vote inside
  have replaced := (free.same ((canonical_eq_iff f _ _).mp first) _).1 related
  exact (free.same ((canonical_eq_iff g _ _).mp second) _).2 replaced

/-- A vote is in the majority of the field, by the values of the votes. -/
theorem lastInMajority_eq (field : VotedField) (votes : List EnsembleVote) : lastInMajority field votes =
    (votes.filter (fun vote => decide (votes.length / 2 + 1 ≤
      votes.countP (fun other => SameField field other.lane vote.lane)))).getLast? := by
  unfold lastInMajority
  congr 1
  refine List.filter_congr ?_
  intro vote _
  refine decide_eq_decide.mpr ?_
  rw [← support_lane field votes vote.lane, support_eq_count]
  rfl

def bunkerCharge : SurchargeRecord := ⟨"BAF", ⟨false, 100, 0⟩, .container⟩

def peakCharge : SurchargeRecord := ⟨"PSS", ⟨false, 50, 0⟩, .container⟩

def bunkerFirst : EnsembleVote := ballot 0 (pricedLane ⟨false, 2100, 0⟩ [bunkerCharge, peakCharge])

def peakFirst : EnsembleVote := ballot 2 (pricedLane ⟨false, 2200, 0⟩ [peakCharge, bunkerCharge])

/-- Two votes for one rate and one for another, which lists the surcharges the other way round. -/
def reordered : List EnsembleVote := [bunkerFirst, bunkerFirst, peakFirst]

theorem reordered_valid : ∀ vote ∈ reordered, vote.Valid := by decide

theorem reordered_majorities : ∀ field, HasMajority field reordered := by
  intro field
  refine ⟨canonical (getField bunkerFirst.lane field), ?_⟩
  unfold Majority
  rw [support_lane]
  cases field <;> decide

/-- The vote takes the rate of the two and the surcharges as the last one lists them. -/
theorem reordered_consensus : ∃ result lane, majorityConsensus "L1" reordered = .ok result ∧
    result.consensusLane = some lane ∧ lane.baseRateUsd = ⟨false, 2100, 0⟩ ∧ lane.surcharges = [peakCharge, bunkerCharge] := by
  have returned := (majorityConsensus_eq "L1" (by decide) (by decide) reordered_valid).1 reordered_majorities (by decide)
  have lastRate : lastInMajority .baseRateUsd reordered = some bunkerFirst := by
    rw [lastInMajority_eq]
    decide
  have lastSurcharges : lastInMajority .surcharges reordered = some peakFirst := by
    rw [lastInMajority_eq]
    decide
  have rate : selectedVote bunkerFirst reordered .baseRateUsd = bunkerFirst := by
    have last := lastInMajority_eq_some bunkerFirst ((hasMajority_iff .baseRateUsd _).mp (reordered_majorities _))
    exact Option.some.inj (last.symm.trans lastRate)
  have surcharges : selectedVote bunkerFirst reordered .surcharges = peakFirst := by
    have last := lastInMajority_eq_some bunkerFirst ((hasMajority_iff .surcharges _).mp (reordered_majorities _))
    exact Option.some.inj (last.symm.trans lastSurcharges)
  refine ⟨_, selectedLane "L1" bunkerFirst reordered, returned, rfl, ?_, ?_⟩
  · rw [selectedLane_baseRateUsd, rate]
    rfl
  · rw [selectedLane_surcharges, surcharges]
    rfl

theorem consensus_pairwise_coherent_reordered : ∃ result lane, majorityConsensus "L1" reordered = .ok result ∧
    result.consensusLane = some lane ∧
    ∃ vote ∈ reordered, canonical (getField vote.lane .baseRateUsd) = canonical (getField lane .baseRateUsd) ∧
      canonical (getField vote.lane .surcharges) = canonical (getField lane .surcharges) := by
  obtain ⟨result, lane, returned, chosen, -⟩ := reordered_consensus
  exact ⟨result, lane, returned, chosen,
    (consensus_pairwise_coherent "L1" reordered result lane returned chosen .baseRateUsd .surcharges).1⟩

/-- In each of these votes a rate of 2100 goes with bunker charges in front, in the consensus it does not. -/
theorem order_of_surcharges_mixed : ¬ ∀ (laneId : String) (votes : List EnsembleVote) (result : ConsensusResult)
    (lane : LaneRecord), 3 ≤ votes.length → votes.length ≤ 5 → (∀ vote ∈ votes, vote.Valid) →
    majorityConsensus laneId votes = .ok result → result.consensusLane = some lane → ∀ f g : VotedField,
    ∀ R : FieldValue → FieldValue → Prop, (∀ vote ∈ votes, R (getField vote.lane f) (getField vote.lane g)) →
      R (getField lane f) (getField lane g) := by
  intro all
  obtain ⟨result, lane, returned, chosen, rate, surcharges⟩ := reordered_consensus
  have mixed := all "L1" reordered result lane (by decide) (by decide) reordered_valid returned chosen .baseRateUsd .surcharges
    (fun x y => x = .decimal ⟨false, 2100, 0⟩ → ∃ rest, y = .surcharges (bunkerCharge :: rest))
  have votes : ∀ vote ∈ reordered, getField vote.lane .baseRateUsd = .decimal ⟨false, 2100, 0⟩ →
      ∃ rest, getField vote.lane .surcharges = .surcharges (bunkerCharge :: rest) := by
    intro vote inside
    simp only [reordered, List.mem_cons, List.not_mem_nil, or_false] at inside
    rcases inside with rfl | rfl | rfl
    · exact fun _ => ⟨_, rfl⟩
    · exact fun _ => ⟨_, rfl⟩
    · intro other
      exact absurd (FieldValue.decimal.inj other) (by decide)
  obtain ⟨rest, first⟩ := mixed votes (congrArg FieldValue.decimal rate)
  have listed : lane.surcharges = bunkerCharge :: rest := FieldValue.surcharges.inj first
  rw [surcharges] at listed
  exact absurd (List.cons.inj listed).1 (by decide)

end Onramp.Verdict
