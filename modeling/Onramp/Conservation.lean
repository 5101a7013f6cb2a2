import Mathlib.Algebra.Order.Group.Multiset
import Mathlib.Data.List.Infix
import Mathlib.Tactic.Abel
import Onramp.Carriers
import Onramp.Placement
import Onramp.StoredOutput

/-!
The lanes of a job from the extraction to its end. When the chain leaves a job completed, each
lane and each shape violator that Stage 2 found is once in the stored ratesheet: as a lane, as
the lane of a flag, or as a rejection. The one way out is a correction of Stage 4 that returns
a lane, and the one entry twice is a lane under a flag for its low confidence.
-/
namespace Onramp.Conservation
open Onramp.Python
open Onramp.Values
open Onramp.Models
open Onramp.Vertex
open Onramp.Excel
open Onramp.Normalizer
open Onramp.Rules
open Onramp.Stage4
open Onramp.Database
open Onramp.Tasks
open Onramp.TaskSpecs
open Onramp.Journey
open Onramp.Carriers (Shown Outside scan_outside preScan_outside)
open Onramp.Classifier (xlsxHeader xlsxOpcMarker)
open Onramp.LaneAccounting (CorrectionSucceeds correctedAway_iff lowConfidence_reason sampleEnv sampleServices sampleJob
  sampleCalibration)
open Onramp.Placement (normalizeLanes_untouched)
open Onramp.Settlement (pendingDb pendingDb_fresh stagedTrace)
open Onramp.StoredOutput (normalizeLanes_valid)
open Onramp.Library.Keyed (find mem_of_find firstPerKey firstPerKey_sublist)
open Onramp.Library.Partition

/-- What `json.loads` returns has its floats by their `repr`. -/
def LoadsShown (platform : Platform) : Prop := ∀ text value, platform.jsonLoads text = .ok value → Shown value

/-- What Stage 2 returns: nothing is flagged or rejected yet, and a violator is outside the shape. -/
structure Unsorted (extraction : NormalizedRatesheet) : Prop where
  flags : extraction.flaggedForReview = []
  rejections : extraction.deterministicallyRejected = []
  violators : ∀ violator ∈ extraction.shapeViolatingLanes, Outside violator

theorem payloadOf_unsorted {platform : Platform} {jobId prospectId : String} {metadata : ExtractionMetadata}
    {violators : List ShapeViolatingLane} {reply : Json} {payload : NormalizedRatesheet}
    (scanned : ∀ violator ∈ violators, Outside violator) (shown : Shown reply)
    (built : payloadOf platform jobId prospectId metadata violators reply = .ok payload) : Unsorted payload := by
  obtain ⟨body, surviving, lifted, lanes, assigned, prescanned, -, -, rfl⟩ := payloadOf_eq_ok built
  have replied : reply = .obj body := by
    cases reply with
    | obj members =>
      cases assigned
      rfl
    | _ => cases assigned
  refine ⟨rfl, rfl, ?_⟩
  intro violator inside
  rcases List.mem_append.mp ((firstPerKey_sublist rowKey [] _).mem inside) with early | late
  · exact scanned violator early
  · exact preScan_outside (replied ▸ shown) prescanned violator late

theorem extractExcelPayload_unsorted {services : Services} {workbook : Raises (List (Raises RawCell))}
    {jobId prospectId : String} {now : DateTime} {payload : NormalizedRatesheet} {metadata : ExtractionMetadata}
    (loads : LoadsShown services.platform)
    (returned : extractExcelPayload services workbook jobId prospectId now = .ok (payload, metadata)) : Unsorted payload := by
  unfold extractExcelPayload at returned
  obtain ⟨cells, -, extracted⟩ := bind_eq_ok.mp returned
  obtain ⟨shown, violators, response, reply, scanned, -, parsed, built⟩ := extractFromCells_eq_ok extracted
  refine payloadOf_unsorted ?_ ?_ built
  · unfold preLlmScan at scanned
    split at scanned
    · exact scan_outside scanned
    · cases scanned
      simp
  · unfold parseResponseText at parsed
    split at parsed
    · cases parsed
    · exact loads _ _ parsed

theorem extractPayload_unsorted {env : Env} {jobId prospectId : String} {fmt : DetectedFormat}
    {payload : NormalizedRatesheet} (loads : LoadsShown env.services.platform)
    (returned : extractPayload env jobId fmt prospectId = .ok payload) : Unsorted payload := by
  unfold extractPayload at returned
  split at returned
  · split at returned
    · next read =>
      cases returned
      obtain ⟨_, _, lanes, -, -, -, -, sheet⟩ := Edifact.extractEdifactPayload_eq_ok read
      rw [sheet]
      exact ⟨rfl, rfl, by simp⟩
    · cases returned
  · split at returned
    · next read =>
      cases returned
      have staged : LoadsShown (env.services.stage 2).platform := loads
      exact extractExcelPayload_unsorted staged read
    · cases returned

/-- The ids of the lanes of these flags. -/
def flagIds (flags : List FlaggedLane) : List String := flags.map fun flagged => flagged.lane.laneId

theorem normalizeEach_reasons {services : Services} {reference : Ports.Reference} {position : Nat}
    {lanes : List LaneRecord} {settled : List (ConsensusResult × LaneOutcome)}
    (returned : normalizeEach services reference position lanes = .ok settled) :
    ∀ entry ∈ settled, ∀ flagged ∈ entry.2.flag, flagged.reason ≠ .lowConfidence := by
  induction lanes generalizing position settled with
  | nil =>
    cases returned
    simp
  | cons lane rest ih =>
    obtain ⟨consensus, outcome, others, -, moved, later, rfl⟩ := normalizeEach_cons returned
    refine List.forall_mem_cons.mpr ⟨?_, ih later⟩
    cases settleLane_settles moved with
    | noMajority => rintro _ ⟨⟩ ⟨⟩
    | obfuscated => rintro _ ⟨⟩ ⟨⟩
    | _ => rintro _ ⟨⟩

/-- Stage 3 keeps each lane or flags it, under its id, for another reason than a low confidence. -/
theorem normalizeLanes_sorts {services : Services} {reference : Ports.Reference} {now : DateTime}
    {extraction updated : NormalizedRatesheet} {results : List ConsensusResult} (unsorted : Unsorted extraction)
    (returned : normalizeLanes services reference now extraction = .ok (updated, results)) :
    (extraction.lanes.map LaneRecord.laneId).Perm
        (updated.lanes.map LaneRecord.laneId ++ flagIds updated.flaggedForReview) ∧
      ∀ flagged ∈ updated.flaggedForReview, flagged.reason ≠ .lowConfidence := by
  obtain ⟨settled, each, lanes, flags, -⟩ := normalizeLanes_eq_ok returned
  rw [unsorted.flags, List.nil_append] at flags
  have dealt : Dealt (fun (lane kept : LaneRecord) => kept.laneId = lane.laneId)
      (fun (lane : LaneRecord) (flag : FlaggedLane) => flag.lane.laneId = lane.laneId) extraction.lanes updated.lanes
      updated.flaggedForReview := by
    rw [lanes, flags]
    refine dealt_of_forall₂ (normalizeEach_spec each) ?_
    rintro lane ⟨consensus, outcome⟩ ⟨-, -, named⟩
    cases outcome with
    | kept kept => exact .inl ⟨kept, rfl, rfl, named⟩
    | flagged flag => exact .inr ⟨flag, rfl, rfl, named⟩
  refine ⟨dealt.perm (fun _ _ same => same) (fun _ _ same => same), ?_⟩
  rw [flags]
  intro flagged inside
  obtain ⟨entry, among, flags⟩ := List.mem_filterMap.mp inside
  exact normalizeEach_reasons each entry among flagged flags

/-- The flags that a correction takes away. -/
def correctedFlags (outcomes : List (FlaggedLane × FlagOutcome)) : List FlaggedLane :=
  (outcomes.filter (fun entry => entry.2 = .correctedAway)).map Prod.fst

theorem flags_perm {inputs : Inputs} {flags : List FlaggedLane} {outcomes : List (FlaggedLane × FlagOutcome)}
    (returned : correctFlags inputs 0 flags = .ok outcomes) :
    flags.Perm (survivingFlags outcomes ++ correctedFlags outcomes) ∧
      ∀ flagged ∈ correctedFlags outcomes, ∃ position, CorrectionSucceeds inputs position flagged := by
  obtain ⟨same, each⟩ := correctFlags_spec returned
  constructor
  · have apart := (List.filter_append_perm (fun entry : FlaggedLane × FlagOutcome => entry.2 ≠ .correctedAway) outcomes).symm
    have named := apart.map Prod.fst
    rw [same, List.map_append] at named
    simpa [survivingFlags, correctedFlags] using named
  · intro flagged inside
    obtain ⟨entry, among, rfl⟩ := List.mem_map.mp inside
    obtain ⟨listed, away⟩ := List.mem_filter.mp among
    obtain ⟨position, here⟩ := List.getElem?_of_mem listed
    have tried := each position entry here
    rw [of_decide_eq_true away] at tried
    exact ⟨_, correctedAway_iff.mp tried⟩

/-- What became of the lanes of the extraction in the stored ratesheet, with the flags that were
    kept, those that a correction took away, and those for a low confidence. -/
structure Sorted (extraction stored : NormalizedRatesheet) (kept corrected low : List FlaggedLane) : Prop where
  flags : stored.flaggedForReview = kept ++ low
  ids : (extraction.lanes.map LaneRecord.laneId ++ extraction.shapeViolatingLanes.map ShapeViolatingLane.laneId).Perm
    (stored.lanes.map LaneRecord.laneId ++ flagIds kept ++
      stored.deterministicallyRejected.map RejectionRecord.laneId ++ flagIds corrected)
  low : ∀ flagged ∈ low, flagged.reason = .lowConfidence ∧ flagged.lane ∈ stored.lanes
  others : ∀ flagged ∈ kept ++ corrected, flagged.reason ≠ .lowConfidence

/-- The counts of the lists, as the output row has them. -/
theorem Sorted.counts {extraction stored : NormalizedRatesheet} {kept corrected low : List FlaggedLane}
    (sorted : Sorted extraction stored kept corrected low) :
    stored.lanes.length + stored.flaggedForReview.length + stored.deterministicallyRejected.length + corrected.length =
      extraction.lanes.length + extraction.shapeViolatingLanes.length + low.length := by
  have many := sorted.ids.length_eq
  simp only [List.length_append, List.length_map, flagIds] at many
  rw [sorted.flags, List.length_append]
  omega

theorem carrier_fails {violator : ShapeViolatingLane} (outside : Outside violator) (today date : Date) :
    passes date (carrier today violator) = false := by
  have bad : unlocodeMatch (carrier today violator).originPort.code = false ∨
      unlocodeMatch (carrier today violator).destinationPort.code = false := outside
  unfold passes
  split
  · next fine =>
    obtain ⟨_, impossible, -⟩ := evaluateLane_bad_shape bad fine
    cases impossible
  · rfl

/-- Every carrier of a violator that is outside the shape is rejected. -/
theorem carriers_rejected {inputs : Inputs} {violators : List ShapeViolatingLane} {rejected : List RejectionRecord}
    (outside : ∀ violator ∈ violators, Outside violator)
    (identities : rejected.map recordIdentity = ((violators.map (carrier inputs.today)).filter
      (fun lane => !passes inputs.carriersDate lane)).map laneIdentity) :
    rejected.map RejectionRecord.laneId = violators.map ShapeViolatingLane.laneId := by
  have all : (violators.map (carrier inputs.today)).filter (fun lane => !passes inputs.carriersDate lane) =
      violators.map (carrier inputs.today) := by
    refine List.filter_eq_self.mpr ?_
    intro lane inside
    obtain ⟨violator, member, rfl⟩ := List.mem_map.mp inside
    simp [carrier_fails (outside violator member)]
  rw [all] at identities
  have names := congrArg (List.map Prod.fst) identities
  simpa [Function.comp_def, recordIdentity, laneIdentity, carrier] using names

/-- Stages 3 and 4 sort the lanes and the violators of an extraction. -/
theorem stages_sort {services : Services} {reference : Ports.Reference} {now : DateTime} {inputs : Inputs}
    {extraction updated : NormalizedRatesheet} {results : List ConsensusResult} {result : Validated}
    (unsorted : Unsorted extraction)
    (normalized : normalizeLanes services reference now extraction = .ok (updated, results))
    (validated : validateSheet inputs updated = .ok result) :
    ∃ kept corrected low, Sorted extraction result.sheet kept corrected low ∧
      ∀ flagged ∈ corrected, ∃ position, CorrectionSucceeds inputs position flagged := by
  obtain ⟨placed, reasons⟩ := normalizeLanes_sorts unsorted normalized
  have untouched := normalizeLanes_untouched normalized
  obtain ⟨rejected, carriersRejected, calibration, scored, outcomes, sheet, identities, carrierIdentities, -, -, scores,
    corrected⟩ := validateSheet_spec validated
  obtain ⟨apart, succeed⟩ := flags_perm corrected
  rw [untouched.shapeViolatingLanes] at carrierIdentities
  have lifted := carriers_rejected unsorted.violators carrierIdentities
  have ruled : (updated.lanes.map LaneRecord.laneId).Perm
      (result.sheet.lanes.map LaneRecord.laneId ++ rejected.map RejectionRecord.laneId) := by
    have names := congrArg (List.map Prod.fst) identities
    simp only [List.map_map, Function.comp_def, recordIdentity, laneIdentity] at names
    have parts := ((List.filter_append_perm (passes inputs.rulesDate) updated.lanes).symm).map LaneRecord.laneId
    rw [List.map_append, ← names] at parts
    rw [sheet]
    exact parts
  refine ⟨survivingFlags outcomes, correctedFlags outcomes, lowConfidenceFlags scored, ⟨by rw [sheet], ?_, ?_, ?_⟩, succeed⟩
  · have rejections : result.sheet.deterministicallyRejected = rejected ++ carriersRejected := by
      rw [sheet]
      simp [untouched.deterministicallyRejected, unsorted.rejections]
    rw [rejections, List.map_append, lifted]
    have flagged : (flagIds updated.flaggedForReview).Perm
        (flagIds (survivingFlags outcomes) ++ flagIds (correctedFlags outcomes)) := by
      have named := apart.map (fun flagged => flagged.lane.laneId)
      rwa [List.map_append] at named
    have all := (placed.trans (ruled.append flagged)).append_right
      (extraction.shapeViolatingLanes.map ShapeViolatingLane.laneId)
    refine all.trans ?_
    rw [← Multiset.coe_eq_coe]
    simp only [← Multiset.coe_add]
    abel
  · intro flagged inside
    refine ⟨lowConfidence_reason flagged inside, ?_⟩
    obtain ⟨entry, among, rfl⟩ := List.mem_map.mp inside
    have listed : entry.1 ∈ scored.map Prod.fst := List.mem_map_of_mem (List.mem_of_mem_filter among)
    rw [(scoreLanes_spec scores).1] at listed
    rw [sheet]
    exact List.mem_of_mem_filter listed
  · intro flagged inside
    exact reasons flagged (apart.mem_iff.mpr inside)

variable {env : Env} {jobId : String} {db : Db} {job : OnrampJob} {allowed : PyExc → Prop}

/-- A run that leaves the job completed has passed all stages. -/
theorem completed_passed (fresh : Fresh jobId db) {done : List Block} (ending : Ending env jobId db allowed job done)
    (completed : (replay env jobId done db).status jobId = some .completed) :
    ∃ result slack rest, done = .validated result slack :: rest ∧ Passed env jobId db job done := by
  obtain ⟨status, order⟩ := ending.order
  have reached := replay_status env fresh order
  rw [completed] at reached
  cases ending with
  | completed passed => exact ⟨_, _, _, rfl, passed⟩
  | pending _ =>
    cases order
    cases reached
  | _ =>
    obtain rfl := order.tail.1
    cases reached

/-- What the stages of a completed job computed, each on what the one before stored. -/
theorem passed_stages (fresh : Fresh jobId db) {result : Validated} {slack : Payload} {rest : List Block}
    (passed : Passed env jobId db job (.validated result slack :: rest)) :
    ∃ format extraction reference updated results, classifyOutcome env = .ok format ∧
      extractPayload env jobId format.detectedFormat job.prospectId = .ok extraction ∧
      normalizeLanes (env.services.stage 3) reference env.normalizedAt extraction = .ok (updated, results) ∧
      validateSheet (stage4Inputs env jobId (replay env jobId rest db)) updated = .ok result := by
  cases passed with
  | validated before validated =>
    cases before with
    | normalized before normalized =>
      cases before with
      | extracted before extracted =>
        cases before with
        | classified classified supported =>
          have valid := normalizeLanes_valid (extractPayload_valid env extracted).1 normalized
          obtain ⟨sheet, stored, computed⟩ := validateOutcome_spec env jobId validated
          have loaded := stored.symm.trans (getOutput_replay env fresh _ rfl valid)
          cases loaded
          exact ⟨_, _, _, _, _, classified, extracted, normalized, computed⟩

/-- Whatever strikes the chain of a fresh job, when it leaves the job completed, every lane and
    every shape violator of the extraction is once in the stored ratesheet, under its id, or is the
    lane of a flag that a correction of Stage 4 took away; the counts of the output row add up to this. -/
theorem completed_job_accounts (env : Env) (jobId : String) (db : Db) (job : OnrampJob) (faults : List (Option PyExc))
    (loads : LoadsShown env.services.platform) (fresh : Fresh jobId db) (found : db.getJob jobId = some job)
    (completed : (chain env jobId ⟨⟨db, []⟩, faults⟩).2.trace.committed.status jobId = some .completed) :
    ∃ format extraction row kept corrected low, classifyOutcome env = .ok format ∧
      extractPayload env jobId format.detectedFormat job.prospectId = .ok extraction ∧
      find jobId (chain env jobId ⟨⟨db, []⟩, faults⟩).2.trace.committed.outputs = some row ∧
      Sorted extraction row.normalizedPayload kept corrected low ∧
      (∀ flagged ∈ corrected, ∃ before ∈ (chain env jobId ⟨⟨db, []⟩, faults⟩).2.trace.states, ∃ position,
        CorrectionSucceeds (stage4Inputs env jobId before) position flagged) ∧
      row.laneCount + row.flaggedCount + row.rejectedCount + corrected.length =
        extraction.lanes.length + extraction.shapeViolatingLanes.length + low.length := by
  have ends : Ends env jobId db (fun exc => some exc ∈ faults) job (chain env jobId ⟨⟨db, []⟩, faults⟩).2.trace :=
    chain_trace_ends env fresh found (fun exc struck => struck)
  obtain ⟨done, ending, trace⟩ := ends
  rw [trace, traceOf_committed] at completed ⊢
  obtain ⟨result, slack, rest, rfl, passed⟩ := completed_passed fresh ending completed
  obtain ⟨format, extraction, reference, updated, results, classified, extracted, normalized, validated⟩ :=
    passed_stages fresh passed
  obtain ⟨kept, corrected, low, sorted, succeed⟩ :=
    stages_sort (extractPayload_unsorted loads extracted) normalized validated
  have written := (replay_written env fresh (.validated result slack :: rest)).output
  refine ⟨format, extraction, outputRow result.sheet, kept, corrected, low, classified, extracted, written, sorted, ?_,
    sorted.counts⟩
  intro flagged inside
  obtain ⟨position, succeeds⟩ := succeed flagged inside
  refine ⟨replay env jobId rest db, ?_, position, succeeds⟩
  rw [traceOf_states]
  exact List.mem_map_of_mem ((List.mem_tails _ _).mpr (List.suffix_cons _ _))

/-- The members of a lane from this port, its ports first. -/
def laneFrom (origin : String) : List (String × Json) :=
  [("origin_port", .obj [("code", .str origin)]), ("destination_port", .obj [("code", .str "CNSHA")]),
    ("equipment_type", .str "40HC"), ("base_rate_usd", .int 1), ("validity_start", .str "2027-01-01"),
    ("validity_end", .str "2027-12-31")]

/-- A lane of the reply of Stage 2. -/
def extractedLane (laneId origin : String) (row : Nat) : Json :=
  .obj (("lane_id", .str laneId) :: laneFrom origin ++
    [("source_row_reference", .obj [("sheet_name", .str "Rates"), ("row_number", .int row), ("cell_reference", .str "A1")])])

/-- Two lanes, and one with a port name for a code. -/
def workbookReply : Json :=
  .obj [("lanes", .arr [extractedLane "L1" "USNYC" 2, extractedLane "L2" "USNYC" 3, extractedLane "L3" "Hamburg" 4])]

def sampledOrigins : List String := ["USNYC", "USLAX", "CNSHA", "SGSIN", "NLRTM"]

/-- About the second lane no two samples agree on its origin, neither those of Stage 3 nor those of its correction. -/
def workbookAnswer : List Nat → Json
  | 2 :: _ => workbookReply
  | 3 :: 1 :: sample :: _ => .obj (laneFrom (sampledOrigins.getD sample ""))
  | 4 :: _ :: sample :: _ => .obj (laneFrom (sampledOrigins.getD sample ""))
  | _ => .obj (laneFrom "USNYC")

def workbookTexts : List (String × Json) :=
  (sampleCalibration.render " ", sampleCalibration) ::
    (workbookReply :: sampledOrigins.map fun origin => .obj (laneFrom origin)).map fun reply => (reply.render "", reply)

/-- A workbook is staged from which Stage 2 takes two lanes and a violator. -/
def workbookEnv : Env :=
  { sampleEnv with
    services :=
      { sampleServices with
        platform := asciiPlatform workbookTexts sampleDigest sampleDigest_length
        generate := fun _ place => .ok { text := some ((workbookAnswer place).render ""), candidates := [] } }
    readBytes := .ok (xlsxHeader ++ xlsxOpcMarker) }

theorem workbookEnv_loadsShown : LoadsShown workbookEnv.services.platform := by
  intro text value loaded
  have listed : ∀ entry ∈ workbookTexts, Shown entry.2 := by
    simp [workbookTexts, workbookReply, extractedLane, sampledOrigins, laneFrom, sampleCalibration, Shown,
      Carriers.ShownItems, Carriers.ShownMembers]
  simp only [workbookEnv, Values.asciiPlatform] at loaded
  split at loaded
  · next stored =>
    cases loaded
    exact listed _ (mem_of_find stored)
  · cases loaded

/-- One lane stays, one is flagged, and the violator is rejected. -/
theorem workbook_completed : ∃ env, LoadsShown env.services.platform ∧
    (stagedTrace env).committed.status "j1" = some .completed ∧
    (find "j1" (stagedTrace env).committed.outputs).map (fun row => (row.laneCount, row.flaggedCount, row.rejectedCount)) =
      some (1, 1, 1) :=
  ⟨workbookEnv, workbookEnv_loadsShown, by decide +kernel⟩

theorem completed_job_accounts_workbook : ∃ env, (stagedTrace env).committed.status "j1" = some .completed ∧
    (find "j1" (stagedTrace env).committed.outputs).map (fun row => (row.laneCount, row.flaggedCount, row.rejectedCount)) =
      some (1, 1, 1) ∧
    ∃ format extraction row kept corrected low, classifyOutcome env = .ok format ∧
      extractPayload env "j1" format.detectedFormat (sampleJob .pending).prospectId = .ok extraction ∧
      find "j1" (stagedTrace env).committed.outputs = some row ∧ Sorted extraction row.normalizedPayload kept corrected low ∧
      (∀ flagged ∈ corrected, ∃ before ∈ (stagedTrace env).states, ∃ position,
        CorrectionSucceeds (stage4Inputs env "j1" before) position flagged) ∧
      row.laneCount + row.flaggedCount + row.rejectedCount + corrected.length =
        extraction.lanes.length + extraction.shapeViolatingLanes.length + low.length := by
  obtain ⟨env, shown, completed, counts⟩ := workbook_completed
  exact ⟨env, completed, counts, completed_job_accounts env "j1" pendingDb (sampleJob .pending) [] shown pendingDb_fresh rfl
    completed⟩

end Onramp.Conservation
