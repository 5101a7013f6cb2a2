import Onramp.Conservation
import Onramp.Isolation

/-!
What a job reports when it is completed. The message, the audit record and the upload are put
into the outbox in the transaction that stores the result, so that they agree with the stored
row as long as the job is completed. Of the result itself the message tells the digest only.
-/
namespace Onramp.Reports
open Onramp.Library.Keyed (find lastOf lastOf_append lastOf_cons find_adjust length_upsertAll_le)
open Onramp.Library.Atomic
open Onramp.Python
open Onramp.Values
open Onramp.Models
open Onramp.Rules
open Onramp.Stage4
open Onramp.Database
open Onramp.Tasks
open Onramp.TaskSpecs
open Onramp.Journey
open Onramp.AuditTrail
open Onramp.Blocks
open Onramp.Isolation (JobRows rowsOf unnumbered rowsOf_apply_other)
open Onramp.Settlement (pendingDb)
open Onramp.LaneAccounting (sampleJob)
open Onramp.Settlement (pricatEnv)

/-- What may be told of a result: names, counts and reasons, and nothing of its lanes. -/
structure Digest where
  prospectId : String
  jobId : String
  validated : Nat
  flagged : Nat
  rejected : Nat
  reasons : List String

def digest (row : OnrampOutput) : Digest where
  prospectId := row.normalizedPayload.prospectId
  jobId := row.normalizedPayload.jobId
  validated := row.laneCount
  flagged := row.flaggedCount
  rejected := row.rejectedCount
  reasons := flaggedReasons row.normalizedPayload.flaggedForReview

/-- Results of one digest have one summary. -/
theorem buildSummaryBlocks_digest {rs other : NormalizedRatesheet} (same : digest (outputRow rs) = digest (outputRow other))
    (signedUrl expiresAtIso : String) :
    buildSummaryBlocks rs signedUrl expiresAtIso = buildSummaryBlocks other signedUrl expiresAtIso := by
  obtain ⟨prospectId, jobId, validated, flagged, rejected, reasons⟩ := Digest.mk.inj same
  simp only [outputRow] at prospectId jobId validated flagged rejected reasons
  simp only [buildSummaryBlocks, prospectId, jobId, validated, flagged, rejected, reasons]

/-- The message of the row, with a link to the artifact. -/
def Message (job : OnrampJob) (row : OnrampOutput) (message : Payload) : Prop :=
  ∃ channel signedUrl expiresAt,
    message = .slackPost channel (buildSummaryBlocks row.normalizedPayload signedUrl expiresAt)
      s!"Solvo Onramp result for {job.prospectName}" ∧
    ∀ other, digest (outputRow other) = digest row →
      buildSummaryBlocks row.normalizedPayload signedUrl expiresAt = buildSummaryBlocks other signedUrl expiresAt

/-- The record of the row: its counts, the rules of its last rejections, and what Stage 4 did to its lanes and flags. -/
def Record (row : OnrampOutput) (record : Payload) : Prop :=
  ∃ (violations : List RuleId) (scored lowConfidence correctionTriggered clarifications : Nat),
    record = .validated violations row.laneCount row.rejectedCount scored lowConfidence correctionTriggered clarifications ∧
    violations.map RuleId.literal <:+ row.normalizedPayload.deterministicallyRejected.map RejectionRecord.ruleId ∧
    scored ≤ row.laneCount ∧ lowConfidence ≤ row.flaggedCount ∧ clarifications ≤ row.flaggedCount

/-- The last events of the job and its last audit row are those of the row. -/
structure Reported (jobId : String) (job : OnrampJob) (row : OnrampOutput) (db : Db) : Prop where
  counts : row = outputRow row.normalizedPayload
  message : ∃ message, lastOf .slackPost (eventsOf jobId db) = some message ∧ Message job row message
  record : ∃ record, lastOf .auditLog (eventsOf jobId db) = some record ∧
    (auditOf jobId db).getLast? = some (.validated, record) ∧ Record row record
  upload : ∃ bucket, lastOf .uploadResult (eventsOf jobId db) =
    some (.uploadResult jobId bucket s!"jobs/{jobId}/normalized_ratesheet.json")

/-- Every completed job has reported what is stored for it. -/
def Agree (db : Db) : Prop :=
  ∀ jobId job, find jobId db.jobs = some job → job.status = .completed →
    ∃ row, find jobId db.outputs = some row ∧ Reported jobId job row db

theorem ruleIds_reinjected {inputs : Inputs} {shapeViolators : List ShapeViolatingLane} {validated out : NormalizedRatesheet}
    {violations allViolations : List RuleViolation}
    (returned : reinjectCarriers inputs shapeViolators validated violations = .ok (out, allViolations)) :
    ∃ rejected, out = { validated with deterministicallyRejected := validated.deterministicallyRejected ++ rejected } ∧
      allViolations.map (fun v => v.ruleId.literal) =
        violations.map (fun v => v.ruleId.literal) ++ rejected.map RejectionRecord.ruleId := by
  unfold reinjectCarriers at returned
  split at returned
  · obtain ⟨rfl, rfl⟩ := Prod.mk.inj (Except.ok.inj returned)
    exact ⟨[], by simp, by simp⟩
  · simp only [bind_eq_ok, pure_eq_ok, Prod.mk.injEq] at returned
    obtain ⟨⟨synthetic, syntheticViolations⟩, ruled, rfl, rfl⟩ := returned
    obtain ⟨rejected, rfl, -, rules, -⟩ := applyHardRules_spec ruled
    exact ⟨rejected, by simp [syntheticSheet], by rw [List.map_append, rules]⟩

theorem clarify_length {services : Vertex.Services} {position : Nat} {flags : List FlaggedLane} {texts : List (String × String)}
    (returned : clarify services position flags = .ok texts) : texts.length = flags.length := by
  induction flags generalizing position texts with
  | nil =>
    cases returned
    rfl
  | cons flagged rest ih =>
    simp only [clarify, bind_eq_ok, pure_eq_ok] at returned
    obtain ⟨text, -, others, later, rfl⟩ := returned
    simp [ih later]

/-- The audit payload of a validation is a record of the sheet that it stores. -/
theorem record_of_validated {inputs : Inputs} {normalized : NormalizedRatesheet} {result : Validated}
    (returned : validateSheet inputs normalized = .ok result) : Record (outputRow result.sheet) (validatedPayload result) := by
  obtain ⟨⟨validated, violations⟩, ruled, ⟨validated', violations'⟩, reinjected, calibration, -, votesByLane, -, scored,
    scores, outcomes, -, clarifications, clarified, rfl⟩ := validateSheet_eq_ok.mp returned
  obtain ⟨rejected, rfl, -, rules, -⟩ := applyHardRules_spec ruled
  obtain ⟨carriersRejected, rfl, carrierRules⟩ := ruleIds_reinjected reinjected
  obtain ⟨scoredLanes, -⟩ := scoreLanes_spec scores
  refine ⟨_, _, _, _, _, rfl, ?_, ?_, ?_, ?_⟩
  · refine ⟨normalized.deterministicallyRejected.map RejectionRecord.ruleId, ?_⟩
    rw [List.map_map]
    change _ ++ violations'.map (fun v => v.ruleId.literal) = _
    rw [carrierRules, ← rules]
    simp [outputRow]
  · have upserted := length_upsertAll_le (scored.map (fun entry => (entry.1.laneId, entry.2))) []
    have chosen := congrArg List.length scoredLanes
    have few := List.length_filter_le (fun lane => !(votesOf votesByLane lane).isEmpty) (normalized.lanes.filter (passes inputs.rulesDate))
    simp only [List.length_map, List.length_nil, Nat.zero_add] at upserted chosen
    rw [← chosen] at few
    exact upserted.trans few
  · simp [outputRow]
  · have upserted := length_upsertAll_le clarifications []
    rw [List.length_nil, Nat.zero_add, clarify_length clarified] at upserted
    exact upserted

section
variable {env : Env} {jobId other : String} {db : Db} {block : Block}

theorem eventsOf_rowsOf : eventsOf jobId db = (rowsOf jobId db).outbox.map (fun row => (row.eventType, row.payload)) := by
  simp [eventsOf, rowsOf, unnumbered, Function.comp_def]

theorem auditOf_rowsOf : auditOf jobId db = (rowsOf jobId db).auditLog.map (fun row => (row.action, row.payload)) := rfl

/-- The reports of a job are about its rows only. -/
theorem Reported.of_rows {db' : Db} {job : OnrampJob} {row : OnrampOutput} (same : rowsOf jobId db' = rowsOf jobId db)
    (reported : Reported jobId job row db) : Reported jobId job row db' := by
  have events : eventsOf jobId db' = eventsOf jobId db := by rw [eventsOf_rowsOf, same, ← eventsOf_rowsOf]
  have audit : auditOf jobId db' = auditOf jobId db := by rw [auditOf_rowsOf, same, ← auditOf_rowsOf]
  obtain ⟨counts, message, record, upload⟩ := reported
  rw [← events] at message record upload
  rw [← audit] at record
  exact ⟨counts, message, record, upload⟩

/-- The block that completes a job reports what it stores. -/
theorem reported_validated {result : Validated} {slack : Payload} {job : OnrampJob}
    (outcome : validateOutcome env jobId db = .ok (result, slack))
    (found : find jobId ((Block.validated result slack).apply env jobId db).jobs = some job) :
    Reported jobId job (outputRow result.sheet) ((Block.validated result slack).apply env jobId db) := by
  obtain ⟨normalized, before, channel, signed, -, known, -, returned, -, rfl⟩ := (validateOutcome_eq_ok env jobId).mp outcome
  have named : job.prospectName = before.prospectName := by
    have listed : find jobId db.jobs = some before := known
    simp only [Block.apply, validatedDb, pushAudit_jobs, pushOutbox_jobs, setStatus, find_adjust, scoredDb_jobs] at found
    simp [putOutput, listed] at found
    rw [← found]
  let block : Block := .validated result (slackPayload channel before.prospectName result signed)
  have events : eventsOf jobId (block.apply env jobId db) = eventsOf jobId db ++ block.events env jobId := Block.apply_events env block
  have audit : auditOf jobId (block.apply env jobId db) = auditOf jobId db ++ block.audit := Block.apply_audit env block
  constructor
  · rfl
  · refine ⟨_, ?_, channel, signed.1, signed.2.isoformat, rfl, ?_⟩
    · rw [events, lastOf_append, named]
      rfl
    · exact fun other same => buildSummaryBlocks_digest same.symm _ _
  · refine ⟨validatedPayload result, ?_, ?_, record_of_validated returned⟩
    · rw [events, lastOf_append]
      rfl
    · rw [audit]
      exact List.getLast?_concat
  · refine ⟨env.gcsBucketOutputs, ?_⟩
    rw [events, lastOf_append]
    rfl

/-- The step: a block of one job keeps the reports of all jobs in agreement. -/
theorem Agree.apply {allowed : PyExc → Prop} {body : Body} (agree : Agree db)
    (offered : Offers env jobId allowed db body block) : Agree (block.apply env jobId db) := by
  intro other job found completed
  by_cases same : other = jobId
  · subst same
    have present : db.hasJob other = true := by
      have after : (block.apply env other db).hasJob other = true := by simp [Db.hasJob, found]
      rwa [Block.apply_hasJob] at after
    have status := Block.apply_status env block present
    have reached : block.target = .completed := by
      rw [Db.status, found] at status
      exact (Option.some.inj status).symm.trans completed
    -- No other block completes a job.
    cases offered with
    | validated outcome =>
      refine ⟨_, ?_, reported_validated outcome found⟩
      rw [Block.apply_output]
      rfl
    | _ => cases reached
  · have rows : rowsOf other (block.apply env jobId db) = rowsOf other db := rowsOf_apply_other db same env block
    have jobs : find other (block.apply env jobId db).jobs = find other db.jobs := congrArg JobRows.job rows
    have outputs : find other (block.apply env jobId db).outputs = find other db.outputs := congrArg JobRows.output rows
    obtain ⟨row, stored, reported⟩ := agree other job (jobs ▸ found) completed
    exact ⟨row, outputs.trans stored, reported.of_rows rows⟩

end

/-- In every state of every run of the tasks from a database without completed jobs, whatever strikes them, the last message,
    the last audit record and the last upload of a completed job are those of its stored row, and of two results with
    one digest the message would be the same. -/
theorem reports_agree (db : Db) (invocations : List Invocation) (start : ∀ jobId, db.status jobId ≠ some .completed) :
    ∀ reached ∈ (performAll db invocations).states, Agree reached := by
  refine performAll_invariant invocations ?_ fun invocation _ before block agree offered => agree.apply offered
  intro jobId job found completed
  exact absurd (by simp [Db.status, found, completed]) (start jobId)

/-- The four tasks for a message with one lane. -/
def pricatRun : List Invocation :=
  [⟨pricatEnv, "j1", .classify, []⟩, ⟨pricatEnv, "j1", .extract .edifact, []⟩, ⟨pricatEnv, "j1", .normalize, []⟩,
    ⟨pricatEnv, "j1", .validate, []⟩]

theorem reports_agree_pricat : ∃ job row, find "j1" (performAll pendingDb pricatRun).committed.jobs = some job ∧
    job.status = .completed ∧ Reported "j1" job row (performAll pendingDb pricatRun).committed := by
  have completed : (performAll pendingDb pricatRun).committed.status "j1" = some .completed := by decide +kernel
  have start : ∀ jobId, pendingDb.status jobId ≠ some .completed := by
    intro jobId
    by_cases here : "j1" = jobId <;> simp [pendingDb, Db.status, find, here, sampleJob]
  cases found : find "j1" (performAll pendingDb pricatRun).committed.jobs with
  | none => simp [Db.status, found] at completed
  | some job =>
    have status : job.status = .completed := by simpa [Db.status, found] using completed
    obtain ⟨row, -, reported⟩ := reports_agree pendingDb pricatRun start _ List.mem_cons_self "j1" job found status
    exact ⟨job, row, rfl, status, reported⟩

end Onramp.Reports
