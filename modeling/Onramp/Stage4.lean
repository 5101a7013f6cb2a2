import Onramp.Rules
import Onramp.Conformal
import Onramp.Correction

/-!
The computation of Stage 4 between its queries and its terminal transaction: hard
rules, carriers of the shape violators, conformal scores, correction of the flags
without a majority, clarifications, and the summary for Slack.
-/
namespace Onramp.Stage4
open Onramp.Python
open Onramp.Values
open Onramp.Models
open Onramp.Rules
open Onramp.Conformal
open Onramp.Correction
open Onramp.Vertex
open Onramp.Library.Keyed (Table find upsertAll)

/-- What Stage 4 finds outside the ratesheet: the services, the votes and the consensus
    persisted for each lane, the calibration, and the readings of the clock. -/
structure Inputs where
  services : Services
  votesByLane : Table String (List EnsembleVote)
  consensusOf : String → Option ConsensusResult
  calibration : Raises ConformalCalibration
  rulesDate : Date
  carriersDate : Date
  today : Date

/-- What Stage 4 computes. -/
structure Validated where
  sheet : NormalizedRatesheet
  violations : List RuleViolation
  conformalByLane : Table String ConformalScore
  lowConfidence : List FlaggedLane
  correctionTriggers : Nat
  clarifications : Table String String

/-- The synthetic lane that carries a shape violator into the rules engine. -/
def carrier (today : Date) (violator : ShapeViolatingLane) : LaneRecord where
  laneId := violator.laneId
  originPort := ⟨violator.rawOriginCode⟩
  destinationPort := ⟨violator.rawDestinationCode⟩
  equipmentType := .hc40
  commodityCode := none
  baseRateUsd := Decimal.ofNat 1
  surcharges := []
  transitTimeDays := none
  validityStart := today
  validityEnd := today.tomorrow
  sourceRowReference := violator.sourceRowReference

/-- The ratesheet of the carriers. -/
def syntheticSheet (today : Date) (validated : NormalizedRatesheet) (shapeViolators : List ShapeViolatingLane) :
    NormalizedRatesheet :=
  { validated with
    lanes := shapeViolators.map (carrier today)
    conformalScores := []
    flaggedForReview := []
    deterministicallyRejected := []
    shapeViolatingLanes := []
    schemaVersion := "onramp.v1" }

/-- The re-injection of the shape violators after the hard rules. -/
def reinjectCarriers (inputs : Inputs) (shapeViolators : List ShapeViolatingLane) (validated : NormalizedRatesheet)
    (violations : List RuleViolation) : Raises (NormalizedRatesheet × List RuleViolation) :=
  if shapeViolators = [] then .ok (validated, violations)
  else do
    let (syntheticValidated, syntheticViolations) ←
      applyHardRules (syntheticSheet inputs.today validated shapeViolators) inputs.carriersDate
    return ({ validated with
      deterministicallyRejected :=
        validated.deterministicallyRejected ++ syntheticValidated.deterministicallyRejected },
      violations ++ syntheticViolations)

/-- `EnsembleVote.model_validate` on every vote of every lane. -/
def validateVotes (votesByLane : Table String (List EnsembleVote)) : Raises (Table String (List EnsembleVote)) :=
  checked "EnsembleVote" (fun table => ∀ entry ∈ table, ∀ vote ∈ entry.2, vote.Valid) votesByLane

/-- `votes_by_lane.get(lane.lane_id, [])`. -/
def votesOf (votesByLane : Table String (List EnsembleVote)) (lane : LaneRecord) : List EnsembleVote :=
  (find lane.laneId votesByLane).getD []

/-- The loop over the validated lanes: the score of every lane with votes. -/
def scoreLanes (votesByLane : Table String (List EnsembleVote)) (calibration : ConformalCalibration) :
    List LaneRecord → Raises (List (LaneRecord × ConformalScore))
  | [] => .ok []
  | lane :: rest =>
    if (votesOf votesByLane lane).isEmpty then scoreLanes votesByLane calibration rest
    else do
      let score ← computeConformalScore lane.laneId (votesOf votesByLane lane) calibration
      let others ← scoreLanes votesByLane calibration rest
      return (lane, score) :: others

/-- The flags of the scored lanes below the threshold. -/
def lowConfidenceFlags (scored : List (LaneRecord × ConformalScore)) : List FlaggedLane :=
  (scored.filter (fun entry => !accepts entry.2)).map (fun entry =>
    { lane := entry.1, reason := .lowConfidence, confidence := some entry.2.confidence })

/-- What becomes of a flag. -/
inductive FlagOutcome
  | survives
  | correctedAway
  | triedAndSurvives
  deriving DecidableEq

/-- The body of the loop over the flags, for the flag at this position. -/
def correctFlag (inputs : Inputs) (position : Nat) (flagged : FlaggedLane) : Raises FlagOutcome :=
  if flagged.reason ≠ .noMajority then .ok .survives
  else
    match inputs.consensusOf flagged.lane.laneId with
    | none => .ok .survives
    | some prior =>
      if prior.Valid then do
        let corrected ← conditionalCorrection (inputs.services.stage 4) position prior
        return if corrected.consensusLane = none then .triedAndSurvives else .correctedAway
      else .ok .survives

/-- The loop over the flags: each flag with its outcome. -/
def correctFlags (inputs : Inputs) : Nat → List FlaggedLane → Raises (List (FlaggedLane × FlagOutcome))
  | _, [] => .ok []
  | position, flagged :: rest => do
    let outcome ← correctFlag inputs position flagged
    let others ← correctFlags inputs (position + 1) rest
    return (flagged, outcome) :: others

/-- The flags that stay. -/
def survivingFlags (outcomes : List (FlaggedLane × FlagOutcome)) : List FlaggedLane :=
  (outcomes.filter (fun entry => entry.2 ≠ .correctedAway)).map Prod.fst

/-- The clarifications of the flags, from the one at `position` on. -/
def clarify (services : Services) : Nat → List FlaggedLane → Raises (List (String × String))
  | _, [] => .ok []
  | position, flagged :: rest => do
    let text ← draftClarification services position flagged
    let others ← clarify services (position + 1) rest
    return (flagged.lane.laneId, text) :: others

/-- The body of `_validate` on the stored ratesheet, up to the signed URL. -/
def validateSheet (inputs : Inputs) (normalized : NormalizedRatesheet) : Raises Validated := do
  let ruled ← applyHardRules normalized inputs.rulesDate
  let (validated, violations) ← reinjectCarriers inputs normalized.shapeViolatingLanes ruled.1 ruled.2
  let calibration ← inputs.calibration
  let votesByLane ← validateVotes inputs.votesByLane
  let scored ← scoreLanes votesByLane calibration validated.lanes
  let outcomes ← correctFlags inputs 0 validated.flaggedForReview
  let lowConfidence := lowConfidenceFlags scored
  let flags := survivingFlags outcomes ++ lowConfidence
  let clarifications ← clarify (inputs.services.stage 5) 0 flags
  return {
    sheet := { validated with flaggedForReview := flags }
    violations
    conformalByLane := upsertAll (scored.map (fun entry => (entry.1.laneId, entry.2))) []
    lowConfidence
    correctionTriggers := (outcomes.filter (fun entry => entry.2 ≠ .survives)).length
    clarifications := upsertAll clarifications [] }

/-- The first three distinct reasons. -/
def flaggedReasons (flags : List FlaggedLane) : List String :=
  ((flags.map (fun flagged => flagged.reason.literal)).reverse.dedup.reverse).take 3

private def markdown (text : String) : Json := .obj [("type", .str "mrkdwn"), ("text", .str text)]

def buildSummaryBlocks (rs : NormalizedRatesheet) (signedUrl expiresAtIso : String) : List Json :=
  let reasons := flaggedReasons rs.flaggedForReview
  let summary := if reasons = [] then "no flags" else ", ".intercalate reasons
  [.obj [("type", .str "header"),
      ("text", .obj [("type", .str "plain_text"), ("text", .str s!"Onramp result — {rs.prospectId}")])],
    .obj [("type", .str "section"),
      ("fields", .arr [markdown s!"*Validated lanes*\n{rs.lanes.length}",
        markdown s!"*Flagged*\n{rs.flaggedForReview.length}",
        markdown s!"*Rejected*\n{rs.deterministicallyRejected.length}",
        markdown ("*Job*\n" ++ String.ofList [Char.ofNat 96] ++ rs.jobId ++ String.ofList [Char.ofNat 96])])],
    .obj [("type", .str "context"), ("elements", .arr [markdown s!"Flagged reasons: {summary}"])],
    .obj [("type", .str "section"),
      ("text", markdown s!"<{signedUrl}|Download normalized JSON> — expires {expiresAtIso}")]]

/-- The re-injection only appends the rejections of the carriers. -/
theorem reinjectCarriers_spec {inputs : Inputs} {shapeViolators : List ShapeViolatingLane}
    {validated out : NormalizedRatesheet} {violations allViolations : List RuleViolation}
    (returned : reinjectCarriers inputs shapeViolators validated violations = .ok (out, allViolations)) :
    ∃ rejected,
      out = { validated with deterministicallyRejected := validated.deterministicallyRejected ++ rejected } ∧
      rejected.map recordIdentity =
        ((shapeViolators.map (carrier inputs.today)).filter (fun lane => !passes inputs.carriersDate lane)).map
          laneIdentity ∧
      ∀ record ∈ rejected, record.Fits := by
  unfold reinjectCarriers at returned
  split at returned
  · next none =>
    simp only [Except.ok.injEq, Prod.mk.injEq] at returned
    obtain ⟨rfl, -⟩ := returned
    exact ⟨[], by simp, by simp [none], by simp⟩
  · simp only [bind_eq_ok, pure_eq_ok, Prod.mk.injEq] at returned
    obtain ⟨⟨synthetic, syntheticViolations⟩, ruled, rfl, -⟩ := returned
    obtain ⟨rejected, rfl, identities, -, valid⟩ := applyHardRules_spec ruled
    exact ⟨rejected, by simp [syntheticSheet], identities, valid⟩

/-- A lane with votes is scored on them, and no other lane is. -/
theorem scoreLanes_spec {votesByLane : Table String (List EnsembleVote)} {calibration : ConformalCalibration}
    {lanes : List LaneRecord} {scored : List (LaneRecord × ConformalScore)}
    (returned : scoreLanes votesByLane calibration lanes = .ok scored) :
    scored.map Prod.fst = lanes.filter (fun lane => !(votesOf votesByLane lane).isEmpty) ∧
      ∀ entry ∈ scored,
        computeConformalScore entry.1.laneId (votesOf votesByLane entry.1) calibration = .ok entry.2 := by
  induction lanes generalizing scored with
  | nil =>
    cases returned
    simp
  | cons lane rest ih =>
    unfold scoreLanes at returned
    cases silent : (votesOf votesByLane lane).isEmpty with
    | true =>
      rw [if_pos silent] at returned
      simpa [silent] using ih returned
    | false =>
      rw [if_neg (by simp [silent])] at returned
      simp only [bind_eq_ok, pure_eq_ok] at returned
      obtain ⟨score, computed, scored', others, rfl⟩ := returned
      obtain ⟨lanes', scores⟩ := ih others
      refine ⟨by simp [silent, lanes'], ?_⟩
      intro entry inside
      rcases List.mem_cons.mp inside with rfl | later
      · exact computed
      · exact scores entry later

/-- The loop over the flags gives each flag, at its position, its outcome. -/
theorem correctFlags_spec {inputs : Inputs} {position : Nat} {flags : List FlaggedLane}
    {outcomes : List (FlaggedLane × FlagOutcome)} (returned : correctFlags inputs position flags = .ok outcomes) :
    outcomes.map Prod.fst = flags ∧
      ∀ i entry, outcomes[i]? = some entry → correctFlag inputs (position + i) entry.1 = .ok entry.2 := by
  induction flags generalizing position outcomes with
  | nil =>
    cases returned
    simp
  | cons flagged rest ih =>
    unfold correctFlags at returned
    simp only [bind_eq_ok, pure_eq_ok] at returned
    obtain ⟨outcome, tried, outcomes', others, rfl⟩ := returned
    obtain ⟨same, each⟩ := ih others
    refine ⟨by simp [same], ?_⟩
    intro i entry here
    cases i with
    | zero =>
      obtain rfl := Option.some.inj here
      exact tried
    | succ i =>
      have later := each i entry (by simpa using here)
      rwa [show position + 1 + i = position + (i + 1) by omega] at later

/-- The body returns when each of its steps does. -/
theorem validateSheet_eq_ok {inputs : Inputs} {normalized : NormalizedRatesheet} {result : Validated} :
    validateSheet inputs normalized = .ok result ↔
      ∃ ruled, applyHardRules normalized inputs.rulesDate = .ok ruled ∧
      ∃ reinjected, reinjectCarriers inputs normalized.shapeViolatingLanes ruled.1 ruled.2 = .ok reinjected ∧
      ∃ calibration, inputs.calibration = .ok calibration ∧
      ∃ votesByLane, validateVotes inputs.votesByLane = .ok votesByLane ∧
      ∃ scored, scoreLanes votesByLane calibration reinjected.1.lanes = .ok scored ∧
      ∃ outcomes, correctFlags inputs 0 reinjected.1.flaggedForReview = .ok outcomes ∧
      ∃ clarifications, clarify (inputs.services.stage 5) 0 (survivingFlags outcomes ++ lowConfidenceFlags scored) =
          .ok clarifications ∧
        result =
          { sheet := { reinjected.1 with flaggedForReview := survivingFlags outcomes ++ lowConfidenceFlags scored }
            violations := reinjected.2
            conformalByLane := upsertAll (scored.map (fun entry => (entry.1.laneId, entry.2))) []
            lowConfidence := lowConfidenceFlags scored
            correctionTriggers := (outcomes.filter (fun entry => entry.2 ≠ .survives)).length
            clarifications := upsertAll clarifications [] } := by
  simp only [validateSheet, bind_eq_ok, pure_eq_ok, eq_comm (b := result)]

theorem validateSheet_spec {inputs : Inputs} {normalized : NormalizedRatesheet} {result : Validated}
    (returned : validateSheet inputs normalized = .ok result) :
    ∃ rejected carriersRejected calibration scored outcomes,
      result.sheet = { normalized with
        lanes := normalized.lanes.filter (passes inputs.rulesDate)
        flaggedForReview := survivingFlags outcomes ++ lowConfidenceFlags scored
        deterministicallyRejected := normalized.deterministicallyRejected ++ rejected ++ carriersRejected } ∧
      rejected.map recordIdentity =
        (normalized.lanes.filter (fun lane => !passes inputs.rulesDate lane)).map laneIdentity ∧
      carriersRejected.map recordIdentity =
        ((normalized.shapeViolatingLanes.map (carrier inputs.today)).filter
          (fun lane => !passes inputs.carriersDate lane)).map laneIdentity ∧
      (∀ record ∈ rejected ++ carriersRejected, record.Fits) ∧
      inputs.calibration = .ok calibration ∧
      scoreLanes inputs.votesByLane calibration (normalized.lanes.filter (passes inputs.rulesDate)) = .ok scored ∧
      correctFlags inputs 0 normalized.flaggedForReview = .ok outcomes := by
  obtain ⟨⟨validated, violations⟩, ruled, ⟨validated', violations'⟩, reinjected, calibration, calibrated, votesByLane,
    checkedVotes, scored, scores, outcomes, corrected, clarifications, -, rfl⟩ := validateSheet_eq_ok.mp returned
  obtain ⟨rejected, rfl, identities, -, valid⟩ := applyHardRules_spec ruled
  obtain ⟨carriersRejected, rfl, carrierIdentities, carriersValid⟩ := reinjectCarriers_spec reinjected
  obtain ⟨-, rfl⟩ := checked_eq_ok.mp checkedVotes
  refine ⟨rejected, carriersRejected, calibration, scored, outcomes, rfl, identities, carrierIdentities, ?_, calibrated,
    scores, corrected⟩
  intro record inside
  rcases List.mem_append.mp inside with real | synthetic
  · exact valid record real
  · exact carriersValid record synthetic

end Onramp.Stage4
