import Mathlib.Data.List.Perm.Subperm
import Mathlib.Tactic.Linarith
import Onramp.TaskSpecs

/-!
The accounting of lanes in Stage 4. Every lane, flag and shape violator of the
stored ratesheet should be found in the payload that `validate` commits, and a lane
below the acceptance threshold should leave `lanes` when it becomes a flag. Both are
settled by comparing the committed payload with the stored one as multisets.
-/
namespace Onramp.LaneAccounting
open Onramp.Python
open Onramp.Values
open Onramp.Models
open Onramp.Rules
open Onramp.Conformal
open Onramp.Correction
open Onramp.Vertex (Services)
open Onramp.Database
open Onramp.Stage4
open Onramp.Tasks
open Onramp.Blocks
open Onramp.TaskSpecs
open Onramp.Library.Keyed (Table find)
open Onramp.Library.Atomic

section
variable {α : Type} [DecidableEq α]

theorem append_diff_self (front back : List α) : (front ++ back).diff front = back := by
  induction front with
  | nil => simp
  | cons item rest ih => simpa [List.diff_cons] using ih

theorem diff_eq_nil {small large : List α} (inside : small.Subperm large) : small.diff large = [] := by
  have bound : (small.diff large).Subperm (large.diff large) := inside.diff_right large
  have nothing : large.diff large = [] := by simpa using append_diff_self large []
  rwa [nothing, List.subperm_nil] at bound

end

/-- The flags that the payload has beyond those of the stored ratesheet. -/
def newFlags (rs out : NormalizedRatesheet) : List FlaggedLane := out.flaggedForReview.diff rs.flaggedForReview

/-- The rejections that the payload has beyond those of the stored ratesheet. -/
def newRejections (rs out : NormalizedRatesheet) : List RejectionRecord :=
  out.deterministicallyRejected.diff rs.deterministicallyRejected

/-- Every lane, flag and shape violator of `rs` has its own place in `out`. A lane stays
    in `lanes` or under a new flag, or it is rejected; a flag is kept, or it surfaces as
    a lane with its id that `lanes` has beyond the lanes of `rs`; a shape violator is
    rejected. A rejection stands for the lane with its id and source row. -/
def NoLaneLost (rs out : NormalizedRatesheet) : Prop :=
  ∃ stayed rejected kept surfaced corrected,
    rs.lanes.Perm (stayed ++ rejected) ∧
    rs.flaggedForReview.Perm (kept ++ surfaced) ∧
    stayed.Subperm (out.lanes ++ (newFlags rs out).map FlaggedLane.lane) ∧
    kept.Subperm out.flaggedForReview ∧
    List.Forall₂ (fun flagged lane => lane.laneId = flagged.lane.laneId) surfaced corrected ∧
    corrected.Subperm (out.lanes.diff rs.lanes) ∧
    (rejected.map laneIdentity ++ rs.shapeViolatingLanes.map violatorIdentity).Subperm
      ((newRejections rs out).map recordIdentity)

/-- The correction of a flag returns a lane: the flag has no majority, a valid consensus
    is persisted under its lane id, and `conditional_correction` of that consensus has a
    consensus lane. -/
def CorrectionSucceeds (inputs : Inputs) (position : Nat) (flagged : FlaggedLane) : Prop :=
  flagged.reason = .noMajority ∧ ∃ prior corrected, inputs.consensusOf flagged.lane.laneId = some prior ∧ prior.Valid ∧
    conditionalCorrection (inputs.services.stage 4) position prior = .ok corrected ∧ corrected.consensusLane ≠ none

/-- No correction of a flag returns a lane, and every carrier of a shape violator breaks
    a rule. -/
def NothingDropped (inputs : Inputs) (rs : NormalizedRatesheet) : Prop :=
  (∀ position flagged, rs.flaggedForReview[position]? = some flagged → ¬ CorrectionSucceeds inputs position flagged) ∧
    ∀ violator ∈ rs.shapeViolatingLanes, passes inputs.carriersDate (carrier inputs.today violator) = false

theorem correctedAway_iff {inputs : Inputs} {position : Nat} {flagged : FlaggedLane} :
    correctFlag inputs position flagged = .ok .correctedAway ↔ CorrectionSucceeds inputs position flagged := by
  unfold correctFlag CorrectionSucceeds
  by_cases noMajority : flagged.reason = .noMajority
  · rw [if_neg (not_not.mpr noMajority)]
    cases persisted : inputs.consensusOf flagged.lane.laneId with
    | none => simp
    | some prior =>
      by_cases valid : prior.Valid
      · cases tried : conditionalCorrection (inputs.services.stage 4) position prior with
        | error exc => simp [valid, tried, bind, Except.bind]
        | ok corrected =>
          by_cases nothing : corrected.consensusLane = none
          · simp [valid, tried, nothing, bind, Except.bind, pure, Except.pure]
          · simp [valid, tried, nothing, noMajority, bind, Except.bind, pure, Except.pure]
      · simp [valid]
  · simp [noMajority]

theorem correctedAway_reason {inputs : Inputs} {position : Nat} {flagged : FlaggedLane}
    (away : correctFlag inputs position flagged = .ok .correctedAway) : flagged.reason = .noMajority :=
  (correctedAway_iff.mp away).1

theorem survivingFlags_sublist (outcomes : List (FlaggedLane × FlagOutcome)) :
    (survivingFlags outcomes).Sublist (outcomes.map Prod.fst) :=
  List.filter_sublist.map Prod.fst

theorem survivingFlags_all {outcomes : List (FlaggedLane × FlagOutcome)}
    (none : ∀ entry ∈ outcomes, entry.2 ≠ .correctedAway) : survivingFlags outcomes = outcomes.map Prod.fst := by
  unfold survivingFlags
  rw [List.filter_eq_self.mpr (by simpa using none)]

/-- When the flags without a majority are as many after the loop as before, none of them
    was corrected away. -/
theorem none_correctedAway {outcomes : List (FlaggedLane × FlagOutcome)}
    (reasons : ∀ entry ∈ outcomes, entry.2 = .correctedAway → entry.1.reason = .noMajority)
    (many : (outcomes.map Prod.fst).countP (fun flagged => flagged.reason = .noMajority) ≤
      (survivingFlags outcomes).countP (fun flagged => flagged.reason = .noMajority)) :
    ∀ entry ∈ outcomes, entry.2 ≠ .correctedAway := by
  intro entry inside away
  have before : (outcomes.map Prod.fst).countP (fun flagged => flagged.reason = .noMajority) =
      (outcomes.filter (fun entry => entry.1.reason = .noMajority)).length := by
    rw [List.countP_map, List.countP_eq_length_filter]
    rfl
  have after : (survivingFlags outcomes).countP (fun flagged => flagged.reason = .noMajority) =
      ((outcomes.filter (fun entry => entry.1.reason = .noMajority)).filter
        (fun entry => entry.2 ≠ .correctedAway)).length := by
    rw [survivingFlags, List.countP_map, List.countP_eq_length_filter, List.filter_filter, List.filter_filter]
    simp only [Function.comp_def, Bool.and_comm]
  have lost : entry ∈ outcomes.filter (fun entry => entry.1.reason = .noMajority) :=
    List.mem_filter.mpr ⟨inside, by simpa using reasons entry inside away⟩
  have fewer := List.length_filter_lt_length_iff_exists (p := fun entry : FlaggedLane × FlagOutcome =>
    decide (entry.2 ≠ .correctedAway)) |>.mpr ⟨entry, lost, by simp [away]⟩
  omega

theorem lowConfidence_reason {scored : List (LaneRecord × ConformalScore)} :
    ∀ flagged ∈ lowConfidenceFlags scored, flagged.reason = .lowConfidence := by
  intro flagged inside
  obtain ⟨entry, -, rfl⟩ := List.mem_map.mp inside
  rfl

section
variable {inputs : Inputs} {rs : NormalizedRatesheet} {result : Validated}
  {rejected carriersRejected : List RejectionRecord} {scored : List (LaneRecord × ConformalScore)}
  {outcomes : List (FlaggedLane × FlagOutcome)}

/-- The flags of the payload, as `validateSheet_spec` has them, beyond the stored ones. -/
theorem newFlags_of_kept {out : NormalizedRatesheet}
    (flags : out.flaggedForReview = survivingFlags outcomes ++ lowConfidenceFlags scored)
    (all : survivingFlags outcomes = rs.flaggedForReview) : newFlags rs out = lowConfidenceFlags scored := by
  rw [newFlags, flags, all, append_diff_self]

/-- Of the stored lanes of which `stayed` pass the rules, at least the others are
    rejected. -/
theorem failing_length_le {today : Date} {stayed others : List LaneRecord}
    (split : rs.lanes.Perm (stayed ++ others)) (fine : ∀ lane ∈ stayed, passes today lane = true) :
    (rs.lanes.filter (fun lane => !passes today lane)).length ≤ others.length := by
  have same := (split.filter (fun lane => !passes today lane)).length_eq
  have none : stayed.filter (fun lane => !passes today lane) = [] := by
    rw [List.filter_eq_nil_iff]
    intro lane inside
    simp [fine lane inside]
  rw [same, List.filter_append, none, List.nil_append]
  exact List.length_filter_le _ _

theorem all_of_length_filter {α : Type} {p : α → Bool} {items : List α} (full : items.length ≤ (items.filter p).length) :
    ∀ item ∈ items, p item = true := by
  intro item inside
  by_contra fails
  have fewer := List.length_filter_lt_length_iff_exists.mpr ⟨item, inside, fails⟩
  omega

/-- No flag is corrected away exactly when no correction of one returns a lane. -/
theorem none_correctedAway_iff (corrected : correctFlags inputs 0 rs.flaggedForReview = .ok outcomes) :
    (∀ entry ∈ outcomes, entry.2 ≠ .correctedAway) ↔ ∀ position flagged,
      rs.flaggedForReview[position]? = some flagged → ¬ CorrectionSucceeds inputs position flagged := by
  obtain ⟨flagsSame, each⟩ := correctFlags_spec corrected
  constructor
  · intro none position flagged stored succeeds
    rw [← flagsSame, List.getElem?_map] at stored
    obtain ⟨entry, here, rfl⟩ := Option.map_eq_some_iff.mp stored
    have tried := each position entry here
    rw [Nat.zero_add, correctedAway_iff.mpr succeeds] at tried
    exact none entry (List.mem_of_getElem? here) (Except.ok.inj tried).symm
  · intro fails entry inside away
    obtain ⟨i, here⟩ := List.getElem?_of_mem inside
    have tried := each i entry here
    rw [away, Nat.zero_add] at tried
    have stored : rs.flaggedForReview[i]? = some entry.1 := by
      rw [← flagsSame, List.getElem?_map, here]
      rfl
    exact fails i entry.1 stored (correctedAway_iff.mp tried)

/-- The new flags have another reason, so a payload that keeps every stored flag has
    corrected none of them away. -/
theorem none_correctedAway_of_kept (corrected : correctFlags inputs 0 rs.flaggedForReview = .ok outcomes)
    (kept : rs.flaggedForReview.Subperm (survivingFlags outcomes ++ lowConfidenceFlags scored)) :
    ∀ entry ∈ outcomes, entry.2 ≠ .correctedAway := by
  obtain ⟨flagsSame, each⟩ := correctFlags_spec corrected
  have noneLow : (lowConfidenceFlags scored).countP (fun flagged => flagged.reason = .noMajority) = 0 := by
    rw [List.countP_eq_zero]
    intro flagged inside
    simp [lowConfidence_reason flagged inside]
  refine none_correctedAway ?_ ?_
  · intro entry inside away
    obtain ⟨i, here⟩ := List.getElem?_of_mem inside
    have tried := each i entry here
    rw [away] at tried
    exact correctedAway_reason tried
  · have counts := kept.countP_le (fun flagged => decide (flagged.reason = .noMajority))
    rw [List.countP_append, noneLow, Nat.add_zero] at counts
    rwa [flagsSame]

/-- The lanes that stay and the lanes of the new flags satisfy the rules. -/
theorem passes_of_stayed {calibration : ConformalCalibration}
    (scores : scoreLanes inputs.votesByLane calibration (rs.lanes.filter (passes inputs.rulesDate)) = .ok scored)
    {lane : LaneRecord}
    (stays : lane ∈ rs.lanes.filter (passes inputs.rulesDate) ++ (lowConfidenceFlags scored).map FlaggedLane.lane) :
    passes inputs.rulesDate lane = true := by
  rcases List.mem_append.mp stays with among | flagged
  · exact (List.mem_filter.mp among).2
  · obtain ⟨flag, low, rfl⟩ := List.mem_map.mp flagged
    obtain ⟨entry, scoredLow, rfl⟩ := List.mem_map.mp low
    have scoredLane : entry.1 ∈ scored.map Prod.fst := List.mem_map_of_mem (List.mem_filter.mp scoredLow).1
    rw [(scoreLanes_spec scores).1] at scoredLane
    exact (List.mem_filter.mp (List.mem_filter.mp scoredLane).1).2

theorem noLaneLost_of_nothingDropped
    (sheet : result.sheet = { rs with
      lanes := rs.lanes.filter (passes inputs.rulesDate)
      flaggedForReview := survivingFlags outcomes ++ lowConfidenceFlags scored
      deterministicallyRejected := rs.deterministicallyRejected ++ rejected ++ carriersRejected })
    (identities : rejected.map recordIdentity =
      (rs.lanes.filter (fun lane => !passes inputs.rulesDate lane)).map laneIdentity)
    (carrierIdentities : carriersRejected.map recordIdentity =
      ((rs.shapeViolatingLanes.map (carrier inputs.today)).filter
        (fun lane => !passes inputs.carriersDate lane)).map laneIdentity)
    (corrected : correctFlags inputs 0 rs.flaggedForReview = .ok outcomes) (kept : NothingDropped inputs rs) :
    NoLaneLost rs result.sheet := by
  have none := (none_correctedAway_iff corrected).mpr kept.1
  have all : survivingFlags outcomes = rs.flaggedForReview :=
    (survivingFlags_all none).trans (correctFlags_spec corrected).1
  have carriers : ((rs.shapeViolatingLanes.map (carrier inputs.today)).filter
      (fun lane => !passes inputs.carriersDate lane)).map laneIdentity =
      rs.shapeViolatingLanes.map violatorIdentity := by
    rw [List.filter_eq_self.mpr, List.map_map]
    · rfl
    · intro lane inside
      obtain ⟨violator, member, rfl⟩ := List.mem_map.mp inside
      simp [kept.2 violator member]
  refine ⟨rs.lanes.filter (passes inputs.rulesDate), rs.lanes.filter (fun lane => !passes inputs.rulesDate lane),
    rs.flaggedForReview, [], [], (List.filter_append_perm _ _).symm, by simp, ?_, ?_, .nil, List.nil_subperm, ?_⟩
  · rw [sheet]
    exact (List.sublist_append_left _ _).subperm
  · rw [sheet]
    simp only [all]
    exact (List.sublist_append_left _ _).subperm
  · rw [sheet]
    simp only [newRejections, List.append_assoc, append_diff_self, List.map_append, identities, carrierIdentities,
      carriers]
    exact List.Subperm.refl _

theorem nothingDropped_of_noLaneLost {calibration : ConformalCalibration}
    (sheet : result.sheet = { rs with
      lanes := rs.lanes.filter (passes inputs.rulesDate)
      flaggedForReview := survivingFlags outcomes ++ lowConfidenceFlags scored
      deterministicallyRejected := rs.deterministicallyRejected ++ rejected ++ carriersRejected })
    (identities : rejected.map recordIdentity =
      (rs.lanes.filter (fun lane => !passes inputs.rulesDate lane)).map laneIdentity)
    (carrierIdentities : carriersRejected.map recordIdentity =
      ((rs.shapeViolatingLanes.map (carrier inputs.today)).filter
        (fun lane => !passes inputs.carriersDate lane)).map laneIdentity)
    (scores : scoreLanes inputs.votesByLane calibration (rs.lanes.filter (passes inputs.rulesDate)) = .ok scored)
    (corrected : correctFlags inputs 0 rs.flaggedForReview = .ok outcomes) (account : NoLaneLost rs result.sheet) :
    NothingDropped inputs rs := by
  obtain ⟨stayed, others, kept, surfaced, lanes, splitLanes, splitFlags, staying, keeping, surfacing, beyond,
    rejecting⟩ := account
  have onlyStored : result.sheet.lanes.Subperm rs.lanes := by
    rw [sheet]
    exact List.filter_sublist.subperm
  have noLane : lanes = [] := by
    rw [diff_eq_nil onlyStored] at beyond
    exact List.subperm_nil.mp beyond
  have noneSurfaced : surfaced = [] := by
    rw [noLane] at surfacing
    exact List.forall₂_nil_right_iff.mp surfacing
  have keptAll : rs.flaggedForReview.Subperm (survivingFlags outcomes ++ lowConfidenceFlags scored) := by
    have every : rs.flaggedForReview.Perm kept := by simpa [noneSurfaced] using splitFlags
    rw [sheet] at keeping
    exact every.subperm.trans keeping
  have none := none_correctedAway_of_kept corrected keptAll
  have all : survivingFlags outcomes = rs.flaggedForReview :=
    (survivingFlags_all none).trans (correctFlags_spec corrected).1
  have fine : ∀ lane ∈ stayed, passes inputs.rulesDate lane = true := by
    intro lane inside
    have stays := staying.subset inside
    rw [newFlags_of_kept (by rw [sheet]) all, sheet] at stays
    exact passes_of_stayed scores stays
  have manyRejected : rs.shapeViolatingLanes.length ≤
      ((rs.shapeViolatingLanes.map (carrier inputs.today)).filter
        (fun lane => !passes inputs.carriersDate lane)).length := by
    have total := rejecting.length_le
    rw [sheet] at total
    simp only [newRejections, List.append_assoc, append_diff_self, List.map_append, identities, carrierIdentities,
      List.length_append, List.length_map] at total
    have failing := failing_length_le splitLanes fine
    omega
  refine ⟨(none_correctedAway_iff corrected).mp none, ?_⟩
  intro violator inside
  have every := all_of_length_filter (by rwa [List.length_map]) (carrier inputs.today violator)
    (List.mem_map_of_mem inside)
  simpa using every
end

/-- The account of a computed payload: no lane is lost exactly when nothing is dropped. -/
theorem noLaneLost_iff {inputs : Inputs} {rs : NormalizedRatesheet} {result : Validated}
    (computed : validateSheet inputs rs = .ok result) : NoLaneLost rs result.sheet ↔ NothingDropped inputs rs := by
  obtain ⟨rejected, carriersRejected, calibration, scored, outcomes, sheet, identities, carrierIdentities, -, -, scores,
    corrected⟩ := validateSheet_spec computed
  exact ⟨nothingDropped_of_noLaneLost sheet identities carrierIdentities scores corrected,
    noLaneLost_of_nothingDropped sheet identities carrierIdentities corrected⟩

/-! ### The threshold -/

/-- The lanes left in `lanes` whose score is computed are accepted, and no new flag is about
    one of them. -/
def AcceptedApart (inputs : Inputs) (rs out : NormalizedRatesheet) : Prop :=
  (∀ lane ∈ out.lanes, ∀ calibration score, inputs.calibration = .ok calibration →
    votesOf inputs.votesByLane lane ≠ [] →
    computeConformalScore lane.laneId (votesOf inputs.votesByLane lane) calibration = .ok score →
    accepts score = true) ∧
  ∀ flagged ∈ newFlags rs out, flagged.lane ∉ out.lanes

/-- Every lane that satisfies the rules and has votes has a mean agreement of at least
    0.850 in them. -/
def AllAgree (inputs : Inputs) (rs : NormalizedRatesheet) : Prop :=
  ∀ lane ∈ rs.lanes, passes inputs.rulesDate lane = true → votesOf inputs.votesByLane lane ≠ [] →
    850 ≤ perFieldAgreement (votesOf inputs.votesByLane lane)

/-- A computed score is accepted exactly when the mean agreement is at least 0.850. -/
theorem accepts_iff {laneId : String} {votes : List EnsembleVote} {calibration : ConformalCalibration}
    {score : ConformalScore} (computed : computeConformalScore laneId votes calibration = .ok score) :
    accepts score = true ↔ 850 ≤ perFieldAgreement votes := by
  obtain ⟨-, rfl⟩ := checked_eq_ok.mp computed
  have threshold : acceptanceThreshold.toRat = 85 / 100 := by decide +kernel
  have thousandths : ∀ n : Nat, (Decimal.thousandths n).toRat = (n : ℚ) / 1000 := by
    intro n
    simp [Decimal.thousandths, Decimal.toRat, Rat.mkRat_eq_div]
  have bounded : max 0 (min 1000 (perFieldAgreement votes)) = min 1000 (perFieldAgreement votes) := by omega
  rw [accepts, decide_eq_true_eq, threshold, thousandths, bounded]
  constructor
  · intro reached
    have scaled : (850 : ℚ) ≤ (min 1000 (perFieldAgreement votes) : Nat) := by linarith
    have natural : 850 ≤ min 1000 (perFieldAgreement votes) := by exact_mod_cast scaled
    omega
  · intro reached
    have natural : 850 ≤ min 1000 (perFieldAgreement votes) := by omega
    have scaled : (850 : ℚ) ≤ (min 1000 (perFieldAgreement votes) : Nat) := by exact_mod_cast natural
    linarith

theorem mem_scored {votesByLane : Table String (List EnsembleVote)} {calibration : ConformalCalibration}
    {lanes : List LaneRecord} {scored : List (LaneRecord × ConformalScore)}
    (scores : scoreLanes votesByLane calibration lanes = .ok scored) {lane : LaneRecord} (inside : lane ∈ lanes)
    (voted : votesOf votesByLane lane ≠ []) :
    ∃ score, (lane, score) ∈ scored ∧ computeConformalScore lane.laneId (votesOf votesByLane lane) calibration = .ok score := by
  obtain ⟨lanesSame, each⟩ := scoreLanes_spec scores
  have listed : lane ∈ scored.map Prod.fst := by
    rw [lanesSame]
    exact List.mem_filter.mpr ⟨inside, by simpa using voted⟩
  obtain ⟨entry, member, rfl⟩ := List.mem_map.mp listed
  exact ⟨entry.2, member, each entry member⟩

/-- The accepted lanes and the flags are apart exactly when all votes agree enough. -/
theorem acceptedApart_iff {inputs : Inputs} {rs : NormalizedRatesheet} {result : Validated}
    (computed : validateSheet inputs rs = .ok result) : AcceptedApart inputs rs result.sheet ↔ AllAgree inputs rs := by
  obtain ⟨rejected, carriersRejected, calibration, scored, outcomes, sheet, -, -, -, loaded, scores, corrected⟩ :=
    validateSheet_spec computed
  constructor
  · rintro ⟨accepted, -⟩ lane inside fine voted
    have stays : lane ∈ result.sheet.lanes := by
      rw [sheet]
      exact List.mem_filter.mpr ⟨inside, fine⟩
    obtain ⟨score, -, scoreOf⟩ := mem_scored scores (List.mem_filter.mpr ⟨inside, fine⟩) voted
    exact (accepts_iff scoreOf).mp (accepted lane stays calibration score loaded voted scoreOf)
  · intro agree
    have accepted : ∀ entry ∈ scored, accepts entry.2 = true := by
      intro entry member
      have listed : entry.1 ∈ scored.map Prod.fst := List.mem_map_of_mem member
      rw [(scoreLanes_spec scores).1] at listed
      obtain ⟨survives, voted⟩ := List.mem_filter.mp listed
      obtain ⟨inside, fine⟩ := List.mem_filter.mp survives
      exact (accepts_iff ((scoreLanes_spec scores).2 entry member)).mpr (agree entry.1 inside fine (by simpa using voted))
    have noneLow : lowConfidenceFlags scored = [] := by
      rw [lowConfidenceFlags, List.map_eq_nil_iff, List.filter_eq_nil_iff]
      intro entry member
      simp [accepted entry member]
    refine ⟨?_, ?_⟩
    · intro lane stays calibration' score loaded' voted scoreOf
      rw [sheet] at stays
      obtain ⟨inside, fine⟩ := List.mem_filter.mp stays
      exact (accepts_iff scoreOf).mpr (agree lane inside fine voted)
    · intro flagged new
      have nothing : newFlags rs result.sheet = [] := by
        rw [newFlags, sheet]
        simp only [noneLow, List.append_nil]
        refine diff_eq_nil ?_
        rw [← (correctFlags_spec corrected).1]
        exact (survivingFlags_sublist outcomes).subperm
      rw [nothing] at new
      cases new

/-- When `validate` returns, its terminal block is its last commit. -/
theorem validate_trace {env : Env} {jobId : String} {w : World Db PyExc} (returned : (validate env jobId w).1 = .ok ()) :
    ∃ result slack, validateOutcome env jobId w.trace.committed = .ok (result, slack) ∧
      (validate env jobId w).2.trace = w.trace.commit (validatedDb env jobId result slack w.trace.committed) := by
  have spec : Triple (fun _ => True) (fun t => t = w.trace) (validate env jobId) _ _ := validate_returns env jobId
  have reached := spec w (fun _ _ => trivial) rfl
  rw [returned] at reached
  exact reached.2

theorem validate_committed {env : Env} {jobId : String} {w : World Db PyExc}
    (returned : (validate env jobId w).1 = .ok ()) :
    ∃ rs result, w.trace.committed.getOutput jobId = .ok (some rs) ∧
      validateSheet (stage4Inputs env jobId w.trace.committed) rs = .ok result ∧
      find jobId (validate env jobId w).2.trace.committed.outputs = some (outputRow result.sheet) := by
  obtain ⟨result, slack, computed, committed⟩ := validate_trace returned
  obtain ⟨rs, stored, validated⟩ := validateOutcome_spec env jobId computed
  refine ⟨rs, result, stored, validated, ?_⟩
  rw [committed]
  simp [validatedDb]

/-- A reply about a lane. -/
def sampleReply : Json :=
  .obj [("lane_id", .str "L1"), ("origin_port", .obj [("code", .str "USNYC")]),
    ("destination_port", .obj [("code", .str "CNSHA")]), ("equipment_type", .str "40HC"), ("base_rate_usd", .int 100),
    ("validity_start", .str "2027-01-01"), ("validity_end", .str "2027-12-31")]

def sampleCalibration : Json :=
  .obj [("calibration_id", .str "conformal_v1_2026_05_21"), ("sample_count", .int 64),
    ("acceptance_threshold", .str "0.85"), ("generated_at", .str "2026-05-21T09:00:00Z")]

def samplePlatform : Platform :=
  asciiPlatform [(sampleReply.render "", sampleReply), (sampleCalibration.render " ", sampleCalibration)]
    sampleDigest sampleDigest_length

/-- Services that give the reply to every call. -/
def sampleServices : Services where
  platform := samplePlatform
  client _ := .ok ()
  generate _ _ := .ok { text := some (sampleReply.render ""), candidates := [] }
  expires _ := false

def sampleNow : DateTime := ⟨⟨2026, 6, 1⟩, 0⟩

def sampleEnv : Env where
  services := sampleServices
  stagingPath := "/tmp/onramp/j1/rates.xlsx"
  readBytes := .ok []
  csv := ⟨fun _ => none, fun _ _ => .ok 0⟩
  workbook := .ok []
  readText := .ok ""
  tokenize _ := .ok []
  calibrationText := .ok (sampleCalibration.render " ")
  signedUrl := .ok ("https://storage.googleapis.com/outputs/jobs/j1/normalized_ratesheet.json", sampleNow)
  gcsBucketOutputs := "outputs"
  extractedAt := sampleNow
  normalizedAt := sampleNow
  rulesNow := sampleNow
  carriersNow := sampleNow
  today := sampleNow.date
  finishedAt := sampleNow
  rowOrder rows := rows
  rowOrder_perm _ := List.Perm.refl _

/-- A lane with this rate; the variant sets its transit time and its commodity code. -/
def sampleLane (rate : Nat) (variant : Option Nat) : LaneRecord where
  laneId := "L1"
  originPort := ⟨"USNYC"⟩
  destinationPort := ⟨"CNSHA"⟩
  equipmentType := .hc40
  commodityCode := variant.map Nat.repr
  baseRateUsd := Decimal.ofNat rate
  surcharges := []
  transitTimeDays := variant.map Int.ofNat
  validityStart := ⟨2027, 1, 1⟩
  validityEnd := ⟨2027, 12, 31⟩
  sourceRowReference := ⟨"Rates", 2, "A2"⟩

def sampleVote (sampleIndex temperatureTenths : Nat) (lane : LaneRecord) : EnsembleVote :=
  ⟨sampleIndex, temperatureTenths, lane, "edd67da588ba5a76"⟩

/-- A consensus without a majority on these lanes. -/
def sampleConsensus (first second third : LaneRecord) : ConsensusResult where
  laneId := "L1"
  consensusLane := none
  votes := [sampleVote 0 1 first, sampleVote 1 5 second, sampleVote 2 9 third]
  agreementPerField := []
  requiresReview := true
  reviewReason := .noMajority

def sampleSheet (lanes : List LaneRecord) (flags : List FlaggedLane) : NormalizedRatesheet where
  jobId := "j1"
  prospectId := "acme"
  extractionMetadata := ⟨"gemini-3.1-flash-lite", sampleNow, "stage2.excel.v2", 7⟩
  lanes := lanes
  conformalScores := []
  flaggedForReview := flags
  deterministicallyRejected := []
  shapeViolatingLanes := []
  schemaVersion := "onramp.v1"

def sampleJob (status : JobStatusLiteral) : OnrampJob where
  jobId := "j1"
  prospectId := "acme"
  prospectName := "Acme Lines"
  status := status
  inputHash := "edd67da588ba5a76420ad4828fea3de7100a969d9f1a4b8089d9ddeae33e74cf"
  sourceFormat := "auto"
  createdAt := sampleNow
  completedAt := none

/-- The job before Stage 4, with a stored ratesheet and a persisted consensus. -/
def sampleDb (rs : NormalizedRatesheet) (consensus : ConsensusResult) : Db where
  jobs := [("j1", sampleJob .validating)]
  outputs := [("j1", outputRow rs)]
  outbox := [outboxRow 1 "j1" .auditLog (.ingressReceived "ops@acme.test" "normal" "C042")]
  nextOutboxId := 2
  scores := [(("j1", "L1"), ⟨Decimal.thousandths 0, .snapshot consensus consensus.votes⟩)]
  auditLog := []
  reference := ⟨["USNYC", "CNSHA"], []⟩

/-- The three samples differ in the rate alone, and their lane is flagged. -/
def flaggedWorld : World Db PyExc :=
  ⟨⟨sampleDb (sampleSheet [] [⟨sampleLane 100 none, .noMajority, none⟩])
    (sampleConsensus (sampleLane 100 none) (sampleLane 200 none) (sampleLane 300 none)), []⟩, []⟩

/-- The three samples of a lane differ in the rate, the transit time and the commodity
    code. -/
def dissentingWorld : World Db PyExc :=
  ⟨⟨sampleDb (sampleSheet [sampleLane 100 none] [])
    (sampleConsensus (sampleLane 100 (some 1)) (sampleLane 200 (some 2)) (sampleLane 300 (some 3))), []⟩, []⟩

/-- The correction of the flagged lane returns a lane. -/
theorem flaggedWorld_runs :
    (validate sampleEnv "j1" flaggedWorld).1 = .ok () ∧
      flaggedWorld.trace.committed.getOutput "j1" =
        .ok (some (sampleSheet [] [⟨sampleLane 100 none, .noMajority, none⟩])) ∧
      (stage4Inputs sampleEnv "j1" flaggedWorld.trace.committed).consensusOf "L1" =
        some (sampleConsensus (sampleLane 100 none) (sampleLane 200 none) (sampleLane 300 none)) ∧
      (sampleConsensus (sampleLane 100 none) (sampleLane 200 none) (sampleLane 300 none)).Valid ∧
      (conditionalCorrection (sampleServices.stage 4) 0
        (sampleConsensus (sampleLane 100 none) (sampleLane 200 none) (sampleLane 300 none))).toOption.map
          (fun corrected => corrected.consensusLane.isSome) = some true := by decide +kernel

/-- The lane satisfies the rules, and its votes do not agree enough. -/
theorem dissentingWorld_runs :
    (validate sampleEnv "j1" dissentingWorld).1 = .ok () ∧
      dissentingWorld.trace.committed.getOutput "j1" = .ok (some (sampleSheet [sampleLane 100 none] [])) ∧
      passes (stage4Inputs sampleEnv "j1" dissentingWorld.trace.committed).rulesDate (sampleLane 100 none) = true ∧
      votesOf (stage4Inputs sampleEnv "j1" dissentingWorld.trace.committed).votesByLane (sampleLane 100 none) ≠ [] ∧
      ¬ 850 ≤ perFieldAgreement
        (votesOf (stage4Inputs sampleEnv "j1" dissentingWorld.trace.committed).votesByLane (sampleLane 100 none)) := by
  decide +kernel

/-- When `validate` returns, no lane of the stored ratesheet is lost in the committed
    payload if and only if no correction of a flag returned a lane and every carrier of a
    shape violator broke a rule. -/
theorem validate_loses_no_lane_iff (env : Env) (jobId : String) (w : World Db PyExc)
    (returned : (validate env jobId w).1 = .ok ()) :
    ∃ rs row, w.trace.committed.getOutput jobId = .ok (some rs) ∧
      find jobId (validate env jobId w).2.trace.committed.outputs = some row ∧
      (NoLaneLost rs row.normalizedPayload ↔ NothingDropped (stage4Inputs env jobId w.trace.committed) rs) := by
  obtain ⟨rs, result, stored, computed, committed⟩ := validate_committed returned
  exact ⟨rs, outputRow result.sheet, stored, committed, noLaneLost_iff computed⟩

theorem validate_loses_no_lane_iff_flagged :
    ∃ rs row, flaggedWorld.trace.committed.getOutput "j1" = .ok (some rs) ∧
      find "j1" (validate sampleEnv "j1" flaggedWorld).2.trace.committed.outputs = some row ∧
      (NoLaneLost rs row.normalizedPayload ↔ NothingDropped (stage4Inputs sampleEnv "j1" flaggedWorld.trace.committed) rs) :=
  validate_loses_no_lane_iff sampleEnv "j1" flaggedWorld flaggedWorld_runs.1

/-- A lane whose correction succeeds is in none of the lists of the committed payload. -/
theorem validate_loses_corrected_lane :
    ¬ ∀ (env : Env) (jobId : String) (w : World Db PyExc), (validate env jobId w).1 = .ok () →
      ∀ rs row, w.trace.committed.getOutput jobId = .ok (some rs) →
        find jobId (validate env jobId w).2.trace.committed.outputs = some row →
        NoLaneLost rs row.normalizedPayload := by
  intro always
  obtain ⟨returned, evaluated, persisted, valid, succeeds⟩ := flaggedWorld_runs
  obtain ⟨rs, result, stored, computed, committed⟩ := validate_committed returned
  have kept := (noLaneLost_iff computed).mp
    (always sampleEnv "j1" flaggedWorld returned rs _ stored committed)
  have same : rs = sampleSheet [] [⟨sampleLane 100 none, .noMajority, none⟩] := by
    rw [evaluated] at stored
    exact (Option.some.inj (Except.ok.inj stored)).symm
  subst same
  refine kept.1 0 ⟨sampleLane 100 none, .noMajority, none⟩ rfl ⟨rfl, ?_⟩
  obtain ⟨corrected, tried, some⟩ := eq_ok_of_toOption_map succeeds
  refine ⟨_, corrected, persisted, valid, tried, fun nothing => ?_⟩
  rw [nothing] at some
  cases some

end Onramp.LaneAccounting
