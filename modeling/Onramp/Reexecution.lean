import Onramp.Carriers
import Onramp.StoredOutput
import Onramp.Terminal

/-!
A second execution of `validate` on what the first one committed, with the same clock and the
same answers of the model. It finds the lanes that already passed the rules, score rows without
votes, and the flags that already survived, so it computes the same lanes and flags. It also finds
the shape violators again, and appends the rejections of their carriers a second time.
-/
namespace Onramp.Reexecution
open Onramp.Library.Keyed (Table find keys upsertAll lastOf find_nil find_upsertAll mem_upsertAll mem_keys_iff_find
  lastOf_isSome mem_of_lastOf)
open Onramp.Library.Atomic
open Onramp.Python
open Onramp.Values
open Onramp.Models
open Onramp.Rules
open Onramp.Conformal
open Onramp.Consensus
open Onramp.Correction
open Onramp.Vertex
open Onramp.Stage4
open Onramp.Database
open Onramp.Tasks
open Onramp.Blocks
open Onramp.TaskSpecs
open Onramp.StoredOutput (validateSheet_valid getOutput_valid getOutput_eq)
open Onramp.Terminal (validate_quiet)
open Onramp.LaneAccounting (validate_trace survivingFlags_all lowConfidence_reason sampleEnv sampleSheet sampleDb
  sampleConsensus sampleLane dissentingWorld dissentingWorld_runs)
open Onramp.Carriers (Lifted namedViolator)

/-- The services answer at the place `now` what they answered at `before`. -/
structure Replays (services again : Services) (before now : Nat) : Prop where
  platform : again.platform = services.platform
  client : again.client [now] = services.client [before]
  expires : again.expires [now] = services.expires [before]
  generate : ∀ request place, again.generate request (now :: place) = services.generate request (before :: place)

/-- The positions that the flags had which the correction loop keeps. -/
def keptPositions (outcomes : List (FlaggedLane × FlagOutcome)) : List Nat :=
  (outcomes.zipIdx.filter (fun entry => entry.1.2 ≠ .correctedAway)).map Prod.snd

/-- The second execution reads the clock of the first. Its calls about a flag are answered as in
    the first execution, where the flag had another position when flags before it were corrected
    away. Whatever else it meets is its own. -/
structure SameRun (env again : Env) (positions : List Nat) : Prop where
  rulesNow : again.rulesNow = env.rulesNow
  carriersNow : again.carriersNow = env.carriersNow
  today : again.today = env.today
  finishedAt : again.finishedAt = env.finishedAt
  corrections : ∀ i position, positions[i]? = some position →
    Replays (env.services.stage 4) (again.services.stage 4) position i
  clarifications : again.services.stage 5 = env.services.stage 5

/-- Every execution of `validate` again leaves the stored payload and its counts as they are. -/
def Harmless (env : Env) (jobId : String) (positions : List Nat) (t : Trace Db) : Prop :=
  ∀ again faults, SameRun env again positions →
    find jobId (validate again jobId ⟨t, faults⟩).2.trace.committed.outputs = find jobId t.committed.outputs

/-- The raw codes of every shape violator have the shape, and tomorrow is not in the past. -/
def CarriersPass (env : Env) (rs : NormalizedRatesheet) : Prop :=
  ∀ violator ∈ rs.shapeViolatingLanes,
    unlocodeMatch violator.rawOriginCode = true ∧ unlocodeMatch violator.rawDestinationCode = true ∧
      env.today.tomorrow.before env.carriersNow.date = false

theorem tomorrow_not_before (d : Date) : d.tomorrow.before d = false := by
  unfold Date.tomorrow
  split
  · simp [Date.before]
  · split
    · simp [Date.before]
    · simp [Date.before]

theorem passes_iff {today : Date} {lane : LaneRecord} : passes today lane = true ↔ evaluateLane lane today = .ok none := by
  constructor
  · intro fine
    unfold passes at fine
    split at fine
    · assumption
    · cases fine
  · exact passes_of_evaluateLane

/-- A carrier has nothing but its codes and its last day to break a rule with. -/
theorem passes_carrier_iff {today carriersDate : Date} {violator : ShapeViolatingLane} :
    passes carriersDate (carrier today violator) = true ↔
      unlocodeMatch violator.rawOriginCode = true ∧ unlocodeMatch violator.rawDestinationCode = true ∧
        today.tomorrow.before carriersDate = false := by
  have positive : ¬ ((Decimal.ofNat 1).negative = true ∨ (Decimal.ofNat 1).coefficient = 0) := by decide
  rw [passes_iff]
  cases origin : unlocodeMatch violator.rawOriginCode with
  | false => simp [evaluateLane, carrier, origin]
  | true =>
    cases destination : unlocodeMatch violator.rawDestinationCode with
    | false => simp [evaluateLane, carrier, origin, destination]
    | true =>
      cases past : today.tomorrow.before carriersDate with
      | true => simp [evaluateLane, carrier, origin, destination, positive, past]
      | false =>
        simp [evaluateLane, carrier, origin, destination, positive, past, tomorrow_not_before, EquipmentType.args,
          unknownBasis]

section
variable {inputs again : Inputs} {rs : NormalizedRatesheet}

theorem screen_of_passes {today : Date} {lanes : List LaneRecord} (fine : ∀ lane ∈ lanes, passes today lane = true) :
    screen today lanes = .ok (lanes, [], []) := by
  induction lanes with
  | nil => rfl
  | cons lane rest ih =>
    obtain ⟨here, later⟩ := List.forall_mem_cons.mp fine
    exact screen_cons.mpr (.inl ⟨rest, passes_iff.mp here, ih later, rfl⟩)

/-- Lanes that already passed the rules pass them again, and none is rejected. -/
theorem applyHardRules_again {today : Date} (fine : ∀ lane ∈ rs.lanes, passes today lane = true) :
    applyHardRules rs today = .ok (rs, []) := by
  simp [applyHardRules, screen_of_passes fine, bind, Except.bind, pure, Except.pure]

/-- The carriers are screened whatever else there is in the ratesheet. -/
theorem reinjectCarriers_again {shapeViolators : List ShapeViolatingLane} {validated out : NormalizedRatesheet}
    {violations added : List RuleViolation} (sameToday : again.today = inputs.today)
    (sameDate : again.carriersDate = inputs.carriersDate)
    (returned : reinjectCarriers inputs shapeViolators validated violations = .ok (out, added))
    (validated' : NormalizedRatesheet) (violations' : List RuleViolation) :
    ∃ parts, reinjectCarriers again shapeViolators validated' violations' = .ok parts := by
  unfold reinjectCarriers at returned ⊢
  by_cases nothing : shapeViolators = []
  · simp [nothing]
  · rw [if_neg nothing, bind_eq_ok] at returned
    obtain ⟨parts, ruled, -⟩ := returned
    unfold applyHardRules at ruled
    rw [bind_eq_ok] at ruled
    obtain ⟨screened, outcome, -⟩ := ruled
    have outcome' : screen again.carriersDate (syntheticSheet again.today validated' shapeViolators).lanes = .ok screened := by
      rw [sameToday, sameDate]
      exact outcome
    rw [if_neg nothing, applyHardRules, outcome']
    exact ⟨_, rfl⟩

/-- Lanes without votes are not scored. -/
theorem scoreLanes_silent {votesByLane : Table String (List EnsembleVote)} {lanes : List LaneRecord}
    (silent : ∀ lane ∈ lanes, votesOf votesByLane lane = []) (calibration : ConformalCalibration) :
    scoreLanes votesByLane calibration lanes = .ok [] := by
  induction lanes with
  | nil => rfl
  | cons lane rest ih =>
    obtain ⟨here, later⟩ := List.forall_mem_cons.mp silent
    unfold scoreLanes
    rw [here]
    exact ih later

theorem correctFlags_runs {position : Nat} {flags : List FlaggedLane}
    (each : ∀ i flagged, flags[i]? = some flagged → ∃ outcome, correctFlag inputs (position + i) flagged = .ok outcome) :
    ∃ outcomes, correctFlags inputs position flags = .ok outcomes := by
  induction flags generalizing position with
  | nil => exact ⟨[], rfl⟩
  | cons flagged rest ih =>
    obtain ⟨outcome, tried⟩ := each 0 flagged rfl
    have tried : correctFlag inputs position flagged = .ok outcome := tried
    have shifted : ∀ i flagged', rest[i]? = some flagged' →
        ∃ outcome, correctFlag inputs (position + 1 + i) flagged' = .ok outcome := by
      intro i flagged' here
      have there := each (i + 1) flagged' (by simpa using here)
      rwa [show position + (i + 1) = position + 1 + i by omega] at there
    obtain ⟨others, later⟩ := ih shifted
    exact ⟨(flagged, outcome) :: others, by simp [correctFlags, tried, later, bind, Except.bind, pure, Except.pure]⟩

/-- A correction asks for the same votes again, and is given them. -/
theorem conditionalCorrection_again {services replayed : Services} {before now : Nat}
    (replays : Replays services replayed before now) (prior : ConsensusResult) :
    conditionalCorrection replayed now prior = conditionalCorrection services before prior := by
  have call : ∀ lane sampleIndex temperatureTenths,
      oneCorrectionCall replayed now lane sampleIndex temperatureTenths =
        oneCorrectionCall services before lane sampleIndex temperatureTenths := by
    intro lane sampleIndex temperatureTenths
    simp only [oneCorrectionCall, replays.platform, replays.generate]
  unfold conditionalCorrection
  simp only [call, replays.client, replays.expires]

/-- A flag that survived survives again. -/
theorem correctFlag_again {before now : Nat} {flagged : FlaggedLane} {outcome : FlagOutcome}
    (replays : Replays (inputs.services.stage 4) (again.services.stage 4) before now)
    (persisted : again.consensusOf flagged.lane.laneId = none ∨
      again.consensusOf flagged.lane.laneId = inputs.consensusOf flagged.lane.laneId)
    (survived : correctFlag inputs before flagged = .ok outcome) (stays : outcome ≠ .correctedAway) :
    ∃ outcome', correctFlag again now flagged = .ok outcome' ∧ outcome' ≠ .correctedAway := by
  rcases persisted with forgotten | kept
  · refine ⟨.survives, ?_, by decide⟩
    simp [correctFlag, forgotten]
  · refine ⟨outcome, ?_, stays⟩
    rw [← survived]
    simp only [correctFlag, kept, conditionalCorrection_again replays]

/-- A flag for another reason than a missing majority is not corrected. -/
theorem correctFlag_other {position : Nat} {flagged : FlaggedLane} (other : flagged.reason ≠ .noMajority) :
    correctFlag inputs position flagged = .ok .survives := by
  simp [correctFlag, other]

/-- What the second execution reads beside the ratesheet, compared with what the first one read. -/
structure Feedback (inputs again : Inputs) (result : Validated) (positions : List Nat) : Prop where
  rulesDate : again.rulesDate = inputs.rulesDate
  carriersDate : again.carriersDate = inputs.carriersDate
  today : again.today = inputs.today
  silent : ∀ lane ∈ result.sheet.lanes, votesOf again.votesByLane lane = []
  persisted : ∀ laneId, again.consensusOf laneId = none ∨ again.consensusOf laneId = inputs.consensusOf laneId
  corrections : ∀ i position, positions[i]? = some position →
    Replays (inputs.services.stage 4) (again.services.stage 4) position i

/-- A flag that the loop keeps stood at its kept position. -/
theorem survivingFlags_getElem {outcomes : List (FlaggedLane × FlagOutcome)} {i : Nat} {flagged : FlaggedLane}
    (here : (survivingFlags outcomes)[i]? = some flagged) :
    ∃ position outcome, (keptPositions outcomes)[i]? = some position ∧ outcomes[position]? = some (flagged, outcome) ∧
      outcome ≠ .correctedAway := by
  have indexed : survivingFlags outcomes =
      (outcomes.zipIdx.filter (fun entry => entry.1.2 ≠ .correctedAway)).map (fun entry => entry.1.1) := by
    have unzipped : outcomes = outcomes.zipIdx.map Prod.fst := by simp
    unfold survivingFlags
    conv_lhs => rw [unzipped, List.filter_map, List.map_map]
    rfl
  rw [indexed, List.getElem?_map] at here
  obtain ⟨entry, stands, rfl⟩ := Option.map_eq_some_iff.mp here
  obtain ⟨inside, kept⟩ := List.mem_filter.mp (List.mem_of_getElem? stands)
  refine ⟨entry.2, entry.1.2, ?_, List.mem_zipIdx_iff_getElem?.mp inside, by simpa using kept⟩
  rw [keptPositions, List.getElem?_map, stands]
  rfl

/-- Every flag of the committed payload survives the second loop. -/
theorem flags_again {flags : List FlaggedLane} {outcomes : List (FlaggedLane × FlagOutcome)}
    {scored : List (LaneRecord × ConformalScore)} {result : Validated} (corrected : correctFlags inputs 0 flags = .ok outcomes)
    (feedback : Feedback inputs again result (keptPositions outcomes)) {i : Nat} {flagged : FlaggedLane}
    (here : (survivingFlags outcomes ++ lowConfidenceFlags scored)[i]? = some flagged) :
    ∃ outcome, correctFlag again i flagged = .ok outcome ∧ outcome ≠ .correctedAway := by
  by_cases early : i < (survivingFlags outcomes).length
  · rw [List.getElem?_append_left early] at here
    obtain ⟨position, outcome, stood, tried, stays⟩ := survivingFlags_getElem here
    have survived := (correctFlags_spec corrected).2 position (flagged, outcome) tried
    rw [Nat.zero_add] at survived
    exact correctFlag_again (feedback.corrections i position stood) (feedback.persisted _) survived stays
  · rw [List.getElem?_append_right (Nat.le_of_not_lt early)] at here
    have low := lowConfidence_reason flagged (List.mem_of_getElem? here)
    exact ⟨.survives, correctFlag_other (by rw [low]; decide), by decide⟩

theorem survivingFlags_again {flags : List FlaggedLane} {outcomes outcomes₂ : List (FlaggedLane × FlagOutcome)}
    {scored : List (LaneRecord × ConformalScore)} {result : Validated} (corrected : correctFlags inputs 0 flags = .ok outcomes)
    (feedback : Feedback inputs again result (keptPositions outcomes))
    (corrected₂ : correctFlags again 0 (survivingFlags outcomes ++ lowConfidenceFlags scored) = .ok outcomes₂) :
    survivingFlags outcomes₂ = survivingFlags outcomes ++ lowConfidenceFlags scored := by
  obtain ⟨flagsSame, each⟩ := correctFlags_spec corrected₂
  rw [← flagsSame]
  refine survivingFlags_all ?_
  intro entry inside
  obtain ⟨i, here⟩ := List.getElem?_of_mem inside
  have stands : (survivingFlags outcomes ++ lowConfidenceFlags scored)[i]? = some entry.1 := by
    rw [← flagsSame, List.getElem?_map, here]
    rfl
  obtain ⟨outcome, tried, stays⟩ := flags_again corrected feedback stands
  have tried' := each i entry here
  rw [Nat.zero_add, tried] at tried'
  exact Except.ok.inj tried' ▸ stays

/-- The payload that is computed again is the committed one, with the rejections of the carriers that break a rule
    appended once more. -/
theorem sheet_again {outcomes : List (FlaggedLane × FlagOutcome)} {result repeated : Validated}
    (computed : validateSheet inputs rs = .ok result) (corrected : correctFlags inputs 0 rs.flaggedForReview = .ok outcomes)
    (feedback : Feedback inputs again result (keptPositions outcomes))
    (recomputed : validateSheet again result.sheet = .ok repeated) :
    ∃ carriersRejected,
      repeated.sheet = { result.sheet with
        deterministicallyRejected := result.sheet.deterministicallyRejected ++ carriersRejected } ∧
      carriersRejected.map recordIdentity = ((rs.shapeViolatingLanes.map (carrier inputs.today)).filter
        (fun lane => !passes inputs.carriersDate lane)).map laneIdentity := by
  obtain ⟨rejected, carriersRejected, calibration, scored, outcomes', sheet, -, -, -, -, -, corrected'⟩ :=
    validateSheet_spec computed
  obtain rfl : outcomes' = outcomes := Except.ok.inj (corrected'.symm.trans corrected)
  obtain ⟨rejected₂, carriersRejected₂, calibration₂, scored₂, outcomes₂, sheet₂, identities₂, carrierIdentities₂, -, -,
    scores₂, corrected₂⟩ := validateSheet_spec recomputed
  have fine : ∀ lane ∈ result.sheet.lanes, passes again.rulesDate lane = true := by
    intro lane inside
    rw [sheet] at inside
    rw [feedback.rulesDate]
    exact (List.mem_filter.mp inside).2
  have allPass : result.sheet.lanes.filter (passes again.rulesDate) = result.sheet.lanes := List.filter_eq_self.mpr fine
  have noneRejected : rejected₂ = [] := by
    rw [List.filter_eq_nil_iff.mpr (by simpa using fine)] at identities₂
    simpa using identities₂
  have noneScored : scored₂ = [] := by
    rw [allPass, scoreLanes_silent feedback.silent] at scores₂
    exact (Except.ok.inj scores₂).symm
  have flags : result.sheet.flaggedForReview = survivingFlags outcomes' ++ lowConfidenceFlags scored := by rw [sheet]
  have allSurvive : survivingFlags outcomes₂ = result.sheet.flaggedForReview := by
    rw [flags] at corrected₂ ⊢
    exact survivingFlags_again corrected feedback corrected₂
  have violators : result.sheet.shapeViolatingLanes = rs.shapeViolatingLanes := by rw [sheet]
  refine ⟨carriersRejected₂, ?_, ?_⟩
  · rw [sheet₂, allPass, allSurvive, noneRejected, noneScored]
    simp [lowConfidenceFlags]
  · rw [carrierIdentities₂, violators, feedback.today, feedback.carriersDate]

/-- The second computation returns, with the same calibration and the same answers about the clarifications. -/
theorem validateSheet_again {outcomes : List (FlaggedLane × FlagOutcome)} {result : Validated}
    (computed : validateSheet inputs rs = .ok result) (corrected : correctFlags inputs 0 rs.flaggedForReview = .ok outcomes)
    (feedback : Feedback inputs again result (keptPositions outcomes)) (calibration : again.calibration = inputs.calibration)
    (votes : validateVotes again.votesByLane = .ok again.votesByLane)
    (clarifications : again.services.stage 5 = inputs.services.stage 5) :
    ∃ repeated, validateSheet again result.sheet = .ok repeated := by
  obtain ⟨⟨validated, violations⟩, ruled, ⟨validated', violations'⟩, reinjected, calibration', calibrated, votesByLane, -,
    scored, -, outcomes', corrected', clarified, drafted, rfl⟩ := validateSheet_eq_ok.mp computed
  obtain ⟨rejected, rfl, -, -, -⟩ := applyHardRules_spec ruled
  obtain ⟨carriersRejected, rfl, -, -⟩ := reinjectCarriers_spec reinjected
  obtain rfl : outcomes' = outcomes := Except.ok.inj (corrected'.symm.trans corrected)
  have fine : ∀ lane ∈ rs.lanes.filter (passes inputs.rulesDate), passes again.rulesDate lane = true := by
    intro lane inside
    rw [feedback.rulesDate]
    exact (List.mem_filter.mp inside).2
  obtain ⟨parts, reinjected₂⟩ := reinjectCarriers_again feedback.today feedback.carriersDate reinjected
    { rs with
      lanes := rs.lanes.filter (passes inputs.rulesDate)
      flaggedForReview := survivingFlags outcomes' ++ lowConfidenceFlags scored
      deterministicallyRejected := rs.deterministicallyRejected ++ rejected ++ carriersRejected } []
  obtain ⟨carriersRejected₂, sheet₂, -, -⟩ := reinjectCarriers_spec reinjected₂
  obtain ⟨outcomes₂, corrected₂⟩ : ∃ outcomes₂,
      correctFlags again 0 (survivingFlags outcomes' ++ lowConfidenceFlags scored) = .ok outcomes₂ := by
    refine correctFlags_runs ?_
    intro i flagged here
    obtain ⟨outcome, tried, -⟩ := flags_again corrected feedback here
    rw [Nat.zero_add]
    exact ⟨outcome, tried⟩
  refine ⟨_, validateSheet_eq_ok.mpr ⟨_, applyHardRules_again fine, parts, reinjected₂, calibration', ?_, _, votes, [],
    scoreLanes_silent ?_ calibration', outcomes₂, ?_, clarified, ?_, rfl⟩⟩
  · rw [calibration, calibrated]
  · rw [sheet₂]
    exact feedback.silent
  · rw [sheet₂]
    exact corrected₂
  · rw [clarifications, survivingFlags_again corrected feedback corrected₂]
    simpa [lowConfidenceFlags] using drafted

end

/-! ### What the first execution leaves -/

section
variable {env again : Env} {jobId : String} {db : Db} {result : Validated} {slack : Payload}

/-- A score row holds a calibration now, or it is the old one. -/
theorem find_score (laneId : String) :
    find (jobId, laneId) (validatedDb env jobId result slack db).scores =
      (lastOf laneId (calibrated result)).or (find (jobId, laneId) db.scores) := by
  have scores : (validatedDb env jobId result slack db).scores =
      (scoredDb jobId (calibrated result) (putOutput jobId result.sheet db)).scores := rfl
  rw [scores, scoredDb_find]
  rfl

theorem calibrated_votes {laneId : String} {row : OnrampConformalScore} (listed : (laneId, row) ∈ calibrated result) :
    row.ensembleVotes.votes = [] ∧ row.ensembleVotes.consensus = none := by
  obtain ⟨entry, -, same⟩ := List.mem_map.mp listed
  cases same
  exact ⟨rfl, rfl⟩

theorem loadConsensus_again (laneId : String) :
    (validatedDb env jobId result slack db).loadConsensus jobId laneId = none ∨
      (validatedDb env jobId result slack db).loadConsensus jobId laneId = db.loadConsensus jobId laneId := by
  unfold Db.loadConsensus
  rw [find_score]
  cases last : lastOf laneId (calibrated result) with
  | none => exact .inr rfl
  | some row =>
    left
    simp [(calibrated_votes (mem_of_lastOf last)).2]

theorem calibrated_of_scored {scored : List (LaneRecord × ConformalScore)}
    (rows : result.conformalByLane = upsertAll (scored.map (fun entry => (entry.1.laneId, entry.2))) [])
    {entry : LaneRecord × ConformalScore} (listed : entry ∈ scored) :
    (lastOf entry.1.laneId (calibrated result)).isSome := by
  have same : keys (calibrated result) = keys result.conformalByLane := by simp [calibrated, keys, Function.comp_def]
  rw [lastOf_isSome, same, rows, mem_keys_iff_find, find_upsertAll, find_nil, Option.or_none, lastOf_isSome, keys,
    List.map_map]
  exact List.mem_map_of_mem (f := fun entry : LaneRecord × ConformalScore => entry.1.laneId) listed

/-- Every lane with votes was scored, and its votes were overwritten. -/
theorem votesOf_again {rs : NormalizedRatesheet} (computed : validateSheet (stage4Inputs env jobId db) rs = .ok result)
    {lane : LaneRecord} (inside : lane ∈ result.sheet.lanes) :
    votesOf ((validatedDb env jobId result slack db).loadVotesByLane jobId) lane = [] := by
  unfold votesOf
  rw [find_loadVotesByLane, find_score]
  cases last : lastOf lane.laneId (calibrated result) with
  | some row => simp [(calibrated_votes (mem_of_lastOf last)).1]
  | none =>
    rw [Option.none_or, ← find_loadVotesByLane]
    by_contra voted
    obtain ⟨ruled, -, reinjected, -, calibration, -, votesByLane, checkedVotes, scored, scores, outcomes, -, clarifications,
      -, built⟩ := validateSheet_eq_ok.mp computed
    obtain ⟨-, rfl⟩ := checked_eq_ok.mp checkedVotes
    have rows : result.conformalByLane = upsertAll (scored.map (fun entry => (entry.1.laneId, entry.2))) [] := by rw [built]
    rw [built] at inside
    obtain ⟨score, listed, -⟩ := LaneAccounting.mem_scored scores inside voted
    have overwritten := calibrated_of_scored rows listed
    rw [last] at overwritten
    cases overwritten

theorem validateVotes_again (votes : validateVotes (db.loadVotesByLane jobId) = .ok (db.loadVotesByLane jobId)) :
    validateVotes ((validatedDb env jobId result slack db).loadVotesByLane jobId) =
      .ok ((validatedDb env jobId result slack db).loadVotesByLane jobId) := by
  have valid := (checked_eq_ok.mp votes).1
  refine checked_of_valid ?_
  intro entry inside vote cast
  obtain ⟨row, stored, rfl⟩ := List.mem_map.mp inside
  obtain ⟨stored, own⟩ := List.mem_filter.mp stored
  have scores : (validatedDb env jobId result slack db).scores =
      upsertAll ((calibrated result).map (fun entry => ((jobId, entry.1), entry.2))) db.scores :=
    scoredDb_scores jobId (calibrated result) (putOutput jobId result.sheet db)
  rw [scores] at stored
  rcases mem_upsertAll stored with new | old
  · obtain ⟨entry, listed, rfl⟩ := List.mem_map.mp new
    rw [(calibrated_votes listed).1] at cast
    cases cast
  · exact valid _ (List.mem_map.mpr ⟨row, List.mem_filter.mpr ⟨old, own⟩, rfl⟩) vote cast

/-- The channel of the ingress is recovered among more rows. -/
theorem recover_again (again : Env) {rows : List OnrampOutbox} {channel : String}
    (recovered : recoverRequestedSlackChannel jobId (env.rowOrder rows) = some channel) (more : List OnrampOutbox) :
    ∃ channel', recoverRequestedSlackChannel jobId (again.rowOrder (rows ++ more)) = some channel' := by
  unfold recoverRequestedSlackChannel at recovered ⊢
  obtain ⟨row, inside, named⟩ := List.exists_of_findSome?_eq_some recovered
  obtain ⟨listed, own⟩ := List.mem_filter.mp inside
  have stored : row ∈ again.rowOrder (rows ++ more) :=
    (again.rowOrder_perm _).mem_iff.mpr (List.mem_append_left _ ((env.rowOrder_perm rows).mem_iff.mp listed))
  rw [← Option.isSome_iff_exists, List.findSome?_isSome_iff]
  exact ⟨row, List.mem_filter.mpr ⟨stored, own⟩, by rw [named]; rfl⟩

end

section
variable {env : Env} {jobId : String}

/-- Whatever strikes, the output row stays or it is the one of the payload that is computed. -/
theorem validate_outputs (again : Env) {t : Trace Db} (present : t.committed.hasJob jobId = true)
    (faults : List (Option PyExc)) :
    find jobId (validate again jobId ⟨t, faults⟩).2.trace.committed.outputs = find jobId t.committed.outputs ∨
      ∃ result slack, validateOutcome again jobId t.committed = .ok (result, slack) ∧
        find jobId (validate again jobId ⟨t, faults⟩).2.trace.committed.outputs = some (outputRow result.sheet) := by
  have spec : Triple (fun _ => True) (fun t' => t' = t) (validate again jobId) _ _ := validate_spec again jobId present
  obtain ⟨-, reached⟩ := spec ⟨t, faults⟩ (fun _ _ => trivial) rfl
  split at reached
  · obtain ⟨result, slack, computed, committed⟩ := reached
    refine .inr ⟨result, slack, computed, ?_⟩
    rw [committed]
    simp [validatedDb]
  · left
    rcases reached with ⟨same, -⟩ | ⟨recorded, -⟩
    · rw [same]
    · rw [recorded]
      simp [failureDb]

/-- When nothing strikes, it is the one of the payload that is computed. -/
theorem validate_outputs_quiet (again : Env) {t : Trace Db} (present : t.committed.hasJob jobId = true) {result : Validated}
    {slack : Payload} (computed : validateOutcome again jobId t.committed = .ok (result, slack)) :
    find jobId (validate again jobId ⟨t, []⟩).2.trace.committed.outputs = some (outputRow result.sheet) := by
  rw [(validate_quiet present).1 result slack computed]
  simp [Journey.Block.apply, validatedDb]

/-- The places of the second execution, as those of the first. -/
def replayed (positions : List Nat) : List Nat → List Nat
  | 4 :: i :: place => 4 :: positions.getD i i :: place
  | place => place

/-- The environment of a second execution in which nothing has changed. -/
def sameEnv (env : Env) (positions : List Nat) : Env :=
  { env with
    services :=
      { platform := env.services.platform
        client := fun place => env.services.client (replayed positions place)
        generate := fun request place => env.services.generate request (replayed positions place)
        expires := fun place => env.services.expires (replayed positions place) } }

theorem sameEnv_same (env : Env) (positions : List Nat) : SameRun env (sameEnv env positions) positions where
  rulesNow := rfl
  carriersNow := rfl
  today := rfl
  finishedAt := rfl
  corrections := by
    intro i position stood
    have place : ∀ rest, replayed positions (4 :: i :: rest) = 4 :: position :: rest := by
      intro rest
      simp [replayed, stood]
    constructor
    · rfl
    · simp [sameEnv, Services.stage, place]
    · simp [sameEnv, Services.stage, place]
    · intro request rest
      simp [sameEnv, Services.stage, place]
  clarifications := rfl

/-- What the second execution reads after the first one committed. -/
theorem feedback_of_sameRun {again : Env} {db : Db} {rs : NormalizedRatesheet} {result : Validated} {slack : Payload}
    {positions : List Nat} (computed : validateSheet (stage4Inputs env jobId db) rs = .ok result)
    (same : SameRun env again positions) :
    Feedback (stage4Inputs env jobId db) (stage4Inputs again jobId (validatedDb env jobId result slack db)) result
      positions where
  rulesDate := congrArg DateTime.date same.rulesNow
  carriersDate := congrArg DateTime.date same.carriersNow
  today := same.today
  silent _ inside := votesOf_again computed inside
  persisted laneId := loadConsensus_again laneId
  corrections := same.corrections

theorem carriersPass_iff {rs : NormalizedRatesheet} :
    CarriersPass env rs ↔
      (rs.shapeViolatingLanes.map (carrier env.today)).filter (fun lane => !passes env.carriersNow.date lane) = [] := by
  simp [CarriersPass, List.filter_eq_nil_iff, passes_carrier_iff]

section
variable {t : Trace Db} {rs : NormalizedRatesheet} {result : Validated} {slack : Payload}
  {outcomes : List (FlaggedLane × FlagOutcome)}

theorem validated_stored :
    find jobId (validatedDb env jobId result slack t.committed).outputs = some (outputRow result.sheet) := by
  simp [validatedDb]

/-- The committed payload is loaded again. -/
theorem validated_loads (stored : t.committed.getOutput jobId = .ok (some rs))
    (computed : validateSheet (stage4Inputs env jobId t.committed) rs = .ok result) :
    (validatedDb env jobId result slack t.committed).getOutput jobId = .ok (some result.sheet) :=
  getOutput_eq validated_stored (validateSheet_valid (getOutput_valid stored) computed)

theorem validated_hasJob (present : t.committed.hasJob jobId = true) :
    (validatedDb env jobId result slack t.committed).hasJob jobId = true := by
  simpa [validatedDb] using present

theorem harmless_of_carriersPass (stored : t.committed.getOutput jobId = .ok (some rs))
    (present : t.committed.hasJob jobId = true) (computed : validateSheet (stage4Inputs env jobId t.committed) rs = .ok result)
    (corrected : correctFlags (stage4Inputs env jobId t.committed) 0 rs.flaggedForReview = .ok outcomes)
    (pass : CarriersPass env rs) :
    Harmless env jobId (keptPositions outcomes) (t.commit (validatedDb env jobId result slack t.committed)) := by
  intro again faults same
  have present' : (t.commit (validatedDb env jobId result slack t.committed)).committed.hasJob jobId = true :=
    validated_hasJob present
  rcases validate_outputs again present' faults with unchanged | ⟨repeated, slack', outcome, committed⟩
  · exact unchanged
  · obtain ⟨normalized, loaded, recomputed⟩ := validateOutcome_spec again jobId outcome
    obtain rfl : result.sheet = normalized := by
      have both := (validated_loads stored computed).symm.trans loaded
      simpa using both
    obtain ⟨carriersRejected, sheet, identities⟩ :=
      sheet_again computed corrected (feedback_of_sameRun computed same) recomputed
    have nothing : carriersRejected.map recordIdentity = [] := by
      rw [identities]
      exact List.map_eq_nil_iff.mpr (carriersPass_iff.mp pass)
    rw [committed, sheet, List.map_eq_nil_iff.mp nothing, List.append_nil]
    exact validated_stored.symm

/-- The second execution returns where nothing has changed. -/
theorem validateOutcome_again (first : validateOutcome env jobId t.committed = .ok (result, slack))
    (stored : t.committed.getOutput jobId = .ok (some rs))
    (corrected : correctFlags (stage4Inputs env jobId t.committed) 0 rs.flaggedForReview = .ok outcomes) :
    ∃ repeated slack', validateOutcome (sameEnv env (keptPositions outcomes)) jobId
      (validatedDb env jobId result slack t.committed) = .ok (repeated, slack') := by
  obtain ⟨rs', job, channel, signed, stored', found, recovered, computed, issued, -⟩ :=
    (validateOutcome_eq_ok env jobId).mp first
  obtain rfl : rs' = rs := by simpa using stored'.symm.trans stored
  obtain ⟨-, -, -, -, -, -, votesByLane, checkedVotes, -⟩ := validateSheet_eq_ok.mp computed
  obtain ⟨-, rfl⟩ := checked_eq_ok.mp checkedVotes
  have feedback : Feedback (stage4Inputs env jobId t.committed)
      (stage4Inputs (sameEnv env (keptPositions outcomes)) jobId (validatedDb env jobId result slack t.committed)) result
      (keptPositions outcomes) := feedback_of_sameRun computed (sameEnv_same env _)
  obtain ⟨repeated, recomputed⟩ := validateSheet_again computed corrected feedback rfl (validateVotes_again checkedVotes) rfl
  have present : (validatedDb env jobId result slack t.committed).hasJob jobId = true :=
    validated_hasJob (hasJob_of_getJob found)
  obtain ⟨job', found'⟩ := Option.isSome_iff_exists.mp present
  have outbox : ∃ more, (validatedDb env jobId result slack t.committed).outbox = t.committed.outbox ++ more := by
    simp [validatedDb, pushOutbox]
  obtain ⟨more, outbox⟩ := outbox
  obtain ⟨channel', recovered'⟩ := recover_again (sameEnv env (keptPositions outcomes)) recovered more
  rw [← outbox] at recovered'
  exact ⟨repeated, _, (validateOutcome_eq_ok _ jobId).mpr
    ⟨result.sheet, job', channel', signed, validated_loads stored computed, found', recovered', recomputed, issued, rfl⟩⟩

/-- What an execution again appends is counted among the rejections. -/
theorem carriersPass_of_harmless (first : validateOutcome env jobId t.committed = .ok (result, slack))
    (stored : t.committed.getOutput jobId = .ok (some rs)) (present : t.committed.hasJob jobId = true)
    (computed : validateSheet (stage4Inputs env jobId t.committed) rs = .ok result)
    (corrected : correctFlags (stage4Inputs env jobId t.committed) 0 rs.flaggedForReview = .ok outcomes)
    (harmless : Harmless env jobId (keptPositions outcomes) (t.commit (validatedDb env jobId result slack t.committed))) :
    CarriersPass env rs := by
  obtain ⟨repeated, slack', second⟩ := validateOutcome_again first stored corrected
  obtain ⟨normalized, loaded, recomputed⟩ := validateOutcome_spec _ jobId second
  obtain rfl : result.sheet = normalized := by
    have both := (validated_loads stored computed).symm.trans loaded
    simpa using both
  have same := sameEnv_same env (keptPositions outcomes)
  obtain ⟨carriersRejected, sheet, identities⟩ := sheet_again computed corrected (feedback_of_sameRun computed same) recomputed
  have present' : (t.commit (validatedDb env jobId result slack t.committed)).committed.hasJob jobId = true :=
    validated_hasJob present
  have unchanged := harmless _ [] same
  rw [validate_outputs_quiet _ present' second, Trace.commit_committed, validated_stored] at unchanged
  have counted := congrArg OnrampOutput.rejectedCount (Option.some.inj unchanged)
  rw [sheet] at counted
  have none : carriersRejected = [] := by simpa [outputRow] using counted
  rw [none, List.map_nil] at identities
  exact carriersPass_iff.mpr (List.map_eq_nil_iff.mp identities.symm)

end

/-- When `validate` returns, executing it again with the same clock and the same answers of the model leaves the payload
    and the counts if and only if no carrier of a shape violator breaks a rule. -/
theorem validate_again_harmless_iff (env : Env) (jobId : String) (w : World Db PyExc)
    (returned : (validate env jobId w).1 = .ok ()) :
    ∃ rs outcomes, w.trace.committed.getOutput jobId = .ok (some rs) ∧
      correctFlags (stage4Inputs env jobId w.trace.committed) 0 rs.flaggedForReview = .ok outcomes ∧
      (Harmless env jobId (keptPositions outcomes) (validate env jobId w).2.trace ↔ CarriersPass env rs) := by
  obtain ⟨result, slack, first, trace⟩ := validate_trace returned
  obtain ⟨rs, job, channel, signed, stored, found, recovered, computed, issued, -⟩ :=
    (validateOutcome_eq_ok env jobId).mp first
  obtain ⟨-, -, -, -, outcomes, -, -, -, -, -, -, corrected⟩ := validateSheet_spec computed
  refine ⟨rs, outcomes, stored, corrected, ?_⟩
  rw [trace]
  have present := hasJob_of_getJob found
  exact ⟨carriersPass_of_harmless first stored present computed corrected,
    harmless_of_carriersPass stored present computed corrected⟩

end

/-- The stored ratesheet has a lane whose samples dissent, and an entry with two codes of the UN/LOCODE shape. -/
def shapedWorld : World Db PyExc :=
  ⟨⟨sampleDb { sampleSheet [sampleLane 100 none] [] with
      shapeViolatingLanes := [⟨"shape_violator_Rates_3", "USNYC", "CNSHA", ⟨"Rates", 3, "A3"⟩⟩] }
    (sampleConsensus (sampleLane 100 (some 1)) (sampleLane 200 (some 2)) (sampleLane 300 (some 3))), []⟩, []⟩

theorem shapedWorld_runs : (validate sampleEnv "j1" shapedWorld).1 = .ok () ∧
    shapedWorld.trace.committed.getOutput "j1" = .ok (some { sampleSheet [sampleLane 100 none] [] with
      shapeViolatingLanes := [⟨"shape_violator_Rates_3", "USNYC", "CNSHA", ⟨"Rates", 3, "A3"⟩⟩] }) := by
  decide +kernel

theorem validate_again_harmless_iff_shaped :
    ∃ rs outcomes, rs.shapeViolatingLanes ≠ [] ∧ CarriersPass sampleEnv rs ∧
      shapedWorld.trace.committed.getOutput "j1" = .ok (some rs) ∧
      correctFlags (stage4Inputs sampleEnv "j1" shapedWorld.trace.committed) 0 rs.flaggedForReview = .ok outcomes ∧
      (Harmless sampleEnv "j1" (keptPositions outcomes) (validate sampleEnv "j1" shapedWorld).2.trace ↔
        CarriersPass sampleEnv rs) := by
  obtain ⟨returned, loaded⟩ := shapedWorld_runs
  obtain ⟨rs, outcomes, stored, rest⟩ := validate_again_harmless_iff sampleEnv "j1" shapedWorld returned
  obtain rfl : _ = rs := Option.some.inj (Except.ok.inj (loaded.symm.trans stored))
  refine ⟨_, outcomes, by simp, ?_, stored, rest⟩
  intro violator inside
  rw [List.mem_singleton.mp inside]
  exact ⟨by decide, by decide, by decide⟩

/-- Of violators that Stage 2 lifted none has a carrier that passes. -/
theorem carriersPass_iff_nil {env : Env} {rs : NormalizedRatesheet}
    (lifted : ∀ violator ∈ rs.shapeViolatingLanes, Lifted violator) :
    CarriersPass env rs ↔ rs.shapeViolatingLanes = [] := by
  constructor
  · intro pass
    by_contra some
    obtain ⟨violator, inside⟩ := List.exists_mem_of_ne_nil _ some
    obtain ⟨origin, destination, -⟩ := pass violator inside
    rcases (lifted violator inside).outside with bad | bad
    · rw [origin] at bad
      cases bad
    · rw [destination] at bad
      cases bad
  · intro none violator inside
    rw [none] at inside
    cases inside

/-- The stored ratesheet has no lane, and a violator that Stage 2 lifted from the cell `Shanghai`. -/
def violatingWorld : World Db PyExc :=
  ⟨⟨sampleDb { sampleSheet [] [] with shapeViolatingLanes := [namedViolator] }
    (sampleConsensus (sampleLane 100 none) (sampleLane 200 none) (sampleLane 300 none)), []⟩, []⟩

/-- The rejections of the violator after the first execution and after the second one. -/
theorem violatingWorld_rejections :
    (validate sampleEnv "j1" violatingWorld).1 = .ok () ∧
      (find "j1" (validate sampleEnv "j1" violatingWorld).2.trace.committed.outputs).map OnrampOutput.rejectedCount =
        some 1 ∧
      (find "j1" (validate sampleEnv "j1" ⟨(validate sampleEnv "j1" violatingWorld).2.trace, []⟩).2.trace.committed.outputs).map
        OnrampOutput.rejectedCount = some 2 := by
  decide +kernel

/-- The rejection of a shape violator is duplicated when `validate` is executed again. -/
theorem validate_again_duplicates_rejection :
    ¬ ∀ (env : Env) (jobId : String) (w : World Db PyExc), (validate env jobId w).1 = .ok () →
      ∀ rs outcomes, w.trace.committed.getOutput jobId = .ok (some rs) →
        correctFlags (stage4Inputs env jobId w.trace.committed) 0 rs.flaggedForReview = .ok outcomes →
        Harmless env jobId (keptPositions outcomes) (validate env jobId w).2.trace := by
  intro always
  obtain ⟨returned, once, twice⟩ := violatingWorld_rejections
  have same : SameRun sampleEnv sampleEnv [] := ⟨rfl, rfl, rfl, rfl, by simp, rfl⟩
  have unchanged := always sampleEnv "j1" violatingWorld returned _ [] rfl rfl sampleEnv [] same
  rw [unchanged, once] at twice
  cases twice

end Onramp.Reexecution
