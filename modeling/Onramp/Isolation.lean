import Onramp.Library.Isolation
import Onramp.AuditTrail
import Onramp.Intake

/-!
The isolation of the jobs. Workers execute the bodies of the four tasks for any jobs in any order,
on one database. A body reads the rows of its own job and the reference tables, and writes rows of
its own job, so that a job goes the way that it would go alone. The one query that the order of
foreign rows could reach is the search for the Slack channel, when the ingress records of the job
name several.
-/
namespace Onramp.Isolation
open Onramp.Python
open Onramp.Models
open Onramp.Database
open Onramp.Tasks
open Onramp.Blocks
open Onramp.Journey
open Onramp.AuditTrail
open Onramp.Intake (ingressChannels recover_eq_head head_of_every_order)
open Onramp.Library.Keyed
open Onramp.Library.Atomic
open Onramp.Library.Isolation
open Onramp.Settlement (pendingDb)
open Onramp.LaneAccounting (sampleEnv sampleJob)

/-- The rows of a job in all tables. -/
structure JobRows where
  job : Option OnrampJob
  output : Option OnrampOutput
  scores : Table (String × String) OnrampConformalScore
  outbox : List OnrampOutbox
  auditLog : List OnrampAuditLog

/-- The row without its id, which comes from one sequence for all jobs. -/
def unnumbered (row : OnrampOutbox) : OnrampOutbox := { row with outboxId := 0 }

def rowsOf (jobId : String) (db : Db) : JobRows where
  job := find jobId db.jobs
  output := find jobId db.outputs
  scores := db.scores.filter (fun entry => entry.1.1 = jobId)
  outbox := (db.outbox.filter (fun row => row.jobId = jobId)).map unnumbered
  auditLog := db.auditLog.filter (fun row => row.jobId = jobId)

section
variable (jobId other laneId : String) (db : Db) (status : JobStatusLiteral) (completedAt : Option DateTime)
  (payload : NormalizedRatesheet) (eventType : OutboxEventType) (event : Payload) (action : Stage)
  (row : OnrampConformalScore)

theorem rowsOf_setStatus : rowsOf jobId (setStatus jobId status completedAt db) =
    { rowsOf jobId db with job := (rowsOf jobId db).job.map (fun job =>
        { job with status, completedAt := completedAt.or job.completedAt }) } := by
  simp [rowsOf, setStatus, find_adjust]

theorem rowsOf_putOutput : rowsOf jobId (putOutput jobId payload db) =
    { rowsOf jobId db with output := some (outputRow payload) } := by
  simp [rowsOf, putOutput]

theorem rowsOf_pushOutbox : rowsOf jobId (pushOutbox jobId eventType event db) =
    { rowsOf jobId db with outbox := (rowsOf jobId db).outbox ++ [outboxRow 0 jobId eventType event] } := by
  simp [rowsOf, pushOutbox, outboxRow, unnumbered]

theorem rowsOf_pushAudit : rowsOf jobId (pushAudit jobId action event db) =
    { rowsOf jobId db with auditLog := (rowsOf jobId db).auditLog ++ [auditRow jobId action event] } := by
  simp [rowsOf, pushAudit, auditRow]

theorem rowsOf_putScore : rowsOf jobId (putScore jobId laneId row db) =
    { rowsOf jobId db with scores := upsert (jobId, laneId) row (rowsOf jobId db).scores } := by
  have chosen := filter_upsert (fun key : String × String => key.1 = jobId) (jobId, laneId) row db.scores
  simpa [rowsOf, putScore] using chosen

variable {jobId other}

theorem rowsOf_setStatus_other (differs : jobId ≠ other) :
    rowsOf jobId (setStatus other status completedAt db) = rowsOf jobId db := by
  simp [rowsOf, setStatus, find_adjust, differs]

theorem rowsOf_putOutput_other (differs : jobId ≠ other) : rowsOf jobId (putOutput other payload db) = rowsOf jobId db := by
  simp [rowsOf, putOutput, find_upsert_other differs]

theorem rowsOf_pushOutbox_other (differs : jobId ≠ other) :
    rowsOf jobId (pushOutbox other eventType event db) = rowsOf jobId db := by
  simp [rowsOf, pushOutbox, outboxRow, differs.symm]

theorem rowsOf_pushAudit_other (differs : jobId ≠ other) :
    rowsOf jobId (pushAudit other action event db) = rowsOf jobId db := by
  simp [rowsOf, pushAudit, auditRow, differs.symm]

theorem rowsOf_putScore_other (differs : jobId ≠ other) : rowsOf jobId (putScore other laneId row db) = rowsOf jobId db := by
  have chosen := filter_upsert (fun key : String × String => key.1 = jobId) (other, laneId) row db.scores
  simpa [rowsOf, putScore, differs.symm] using chosen

theorem rowsOf_scoredDb_other (differs : jobId ≠ other) (entries : List (String × OnrampConformalScore)) :
    rowsOf jobId (scoredDb other entries db) = rowsOf jobId db := by
  induction entries generalizing db with
  | nil => rfl
  | cons entry rest ih => exact (ih _).trans (rowsOf_putScore_other entry.1 db entry.2 differs)

/-- A block leaves the rows of the other jobs alone. -/
theorem rowsOf_apply_other (differs : jobId ≠ other) (env : Env) (block : Block) :
    rowsOf jobId (block.apply env other db) = rowsOf jobId db := by
  cases block <;>
    simp [Block.apply, classifiedDb, extractedDb, normalizedDb, validatedDb, failureDb, rowsOf_setStatus_other,
      rowsOf_putOutput_other, rowsOf_pushOutbox_other, rowsOf_pushAudit_other, rowsOf_scoredDb_other, differs]

end

@[simp] theorem scoredDb_reference (jobId : String) (entries : List (String × OnrampConformalScore)) (db : Db) :
    (scoredDb jobId entries db).reference = db.reference := by
  induction entries generalizing db with
  | nil => rfl
  | cons entry rest ih => exact (ih _).trans rfl

theorem apply_reference (env : Env) (jobId : String) (block : Block) (db : Db) :
    (block.apply env jobId db).reference = db.reference := by
  cases block <;>
    simp [Block.apply, classifiedDb, extractedDb, normalizedDb, validatedDb, failureDb, setStatus, putOutput, pushOutbox,
      pushAudit]

/-- The ingress records of the job name one channel at most. -/
def OneChannel (jobId : String) (db : Db) : Prop :=
  ∀ channel ∈ ingressChannels jobId db.outbox, ∀ another ∈ ingressChannels jobId db.outbox, another = channel

/-- The databases have the same rows of the job and the same reference tables. -/
structure Alike (jobId : String) (db db' : Db) : Prop where
  rows : rowsOf jobId db = rowsOf jobId db'
  reference : db.reference = db'.reference
  channel : OneChannel jobId db

theorem ingressChannels_rows (jobId : String) (db : Db) :
    ingressChannels jobId db.outbox =
      ((rowsOf jobId db).outbox.filter (fun row => row.eventType = .auditLog)).filterMap ingressChannel := by
  simp only [ingressChannels, rowsOf, List.filter_map, List.filterMap_map, List.filter_filter]
  congr 1
  refine List.filter_congr fun row _ => ?_
  simp only [unnumbered, Function.comp_apply, Bool.decide_and]
  exact Bool.and_comm _ _

theorem ingressChannels_perm (jobId : String) {rows order : List OnrampOutbox} (sorted : order.Perm rows) :
    (ingressChannels jobId order).Perm (ingressChannels jobId rows) :=
  (sorted.filter _).filterMap _

section
variable {jobId other : String} {db db' : Db}

theorem Alike.job (alike : Alike jobId db db') : db.getJob jobId = db'.getJob jobId := congrArg JobRows.job alike.rows

theorem Alike.hasJob (alike : Alike jobId db db') : db.hasJob jobId = db'.hasJob jobId := congrArg Option.isSome alike.job

theorem Alike.output (alike : Alike jobId db db') : find jobId db.outputs = find jobId db'.outputs :=
  congrArg JobRows.output alike.rows

theorem Alike.getOutput (alike : Alike jobId db db') : db.getOutput jobId = db'.getOutput jobId := by
  simp only [Db.getOutput, alike.output]

theorem Alike.votes (alike : Alike jobId db db') : db.loadVotesByLane jobId = db'.loadVotesByLane jobId :=
  congrArg (List.map _) (congrArg JobRows.scores alike.rows)

theorem Alike.consensus (alike : Alike jobId db db') : db.loadConsensus jobId = db'.loadConsensus jobId := by
  funext laneId
  have found := find_section (fun row : OnrampConformalScore => row) jobId laneId
  have left := found db.scores
  have right := found db'.scores
  have scores : db.scores.filter (fun entry => entry.1.1 = jobId) = db'.scores.filter (fun entry => entry.1.1 = jobId) :=
    congrArg JobRows.scores alike.rows
  rw [scores, right] at left
  have row : find (jobId, laneId) db'.scores = find (jobId, laneId) db.scores := by simpa using left
  rw [Db.loadConsensus, Db.loadConsensus, row]

theorem Alike.stage4Inputs (alike : Alike jobId db db') (env : Env) :
    Tasks.stage4Inputs env jobId db = Tasks.stage4Inputs env jobId db' := by
  simp only [Tasks.stage4Inputs, alike.votes, alike.consensus]

theorem Alike.channels (alike : Alike jobId db db') :
    ingressChannels jobId db.outbox = ingressChannels jobId db'.outbox := by
  rw [ingressChannels_rows, ingressChannels_rows, alike.rows]

/-- One channel is found whatever the order of the rows, so the foreign rows do not matter. -/
theorem Alike.recovered (alike : Alike jobId db db') (env : Env) :
    recoverRequestedSlackChannel jobId (env.rowOrder db.outbox) =
      recoverRequestedSlackChannel jobId (env.rowOrder db'.outbox) := by
  rw [recover_eq_head, recover_eq_head]
  have same := alike.channels
  cases named : ingressChannels jobId db.outbox with
  | nil =>
    have left := ingressChannels_perm jobId (env.rowOrder_perm db.outbox)
    have right := ingressChannels_perm jobId (env.rowOrder_perm db'.outbox)
    rw [named, List.perm_nil] at left
    rw [← same, named, List.perm_nil] at right
    rw [left, right]
  | cons channel rest =>
    have one : ∀ another ∈ ingressChannels jobId db.outbox, another = channel :=
      alike.channel channel (by rw [named]; exact List.mem_cons_self)
    have some : ingressChannels jobId db.outbox ≠ [] := by simp [named]
    rw [(head_of_every_order jobId db.outbox channel).mpr ⟨some, one⟩ _ (env.rowOrder_perm _)]
    rw [same] at some one
    rw [(head_of_every_order jobId db'.outbox channel).mpr ⟨some, one⟩ _ (env.rowOrder_perm _)]

/-- A block of another job. -/
theorem Alike.apply_other (alike : Alike jobId db db') (differs : jobId ≠ other) (env : Env) (block : Block) :
    Alike jobId (block.apply env other db) db' := by
  have rows := rowsOf_apply_other db differs env block
  refine ⟨rows.trans alike.rows, (apply_reference env other block db).trans alike.reference, ?_⟩
  intro channel named another named'
  rw [ingressChannels_rows, rows, ← ingressChannels_rows] at named named'
  exact alike.channel channel named another named'

theorem Alike.setStatus (alike : Alike jobId db db') (status : JobStatusLiteral) (completedAt : Option DateTime) :
    Alike jobId (setStatus jobId status completedAt db) (Database.setStatus jobId status completedAt db') :=
  ⟨by rw [rowsOf_setStatus, rowsOf_setStatus, alike.rows], alike.reference, alike.channel⟩

theorem Alike.putOutput (alike : Alike jobId db db') (payload : NormalizedRatesheet) :
    Alike jobId (putOutput jobId payload db) (Database.putOutput jobId payload db') :=
  ⟨by rw [rowsOf_putOutput, rowsOf_putOutput, alike.rows], alike.reference, alike.channel⟩

theorem Alike.pushAudit (alike : Alike jobId db db') (action : Stage) (event : Payload) :
    Alike jobId (pushAudit jobId action event db) (Database.pushAudit jobId action event db') :=
  ⟨by rw [rowsOf_pushAudit, rowsOf_pushAudit, alike.rows], alike.reference, alike.channel⟩

theorem Alike.putScore (alike : Alike jobId db db') (laneId : String) (row : OnrampConformalScore) :
    Alike jobId (putScore jobId laneId row db) (Database.putScore jobId laneId row db') :=
  ⟨by rw [rowsOf_putScore, rowsOf_putScore, alike.rows], alike.reference, alike.channel⟩

/-- An event that is no ingress record. -/
theorem Alike.pushOutbox (alike : Alike jobId db db') (eventType : OutboxEventType) {event : Payload}
    (silent : event.stage ≠ some .ingressReceived) :
    Alike jobId (pushOutbox jobId eventType event db) (Database.pushOutbox jobId eventType event db') := by
  refine ⟨by rw [rowsOf_pushOutbox, rowsOf_pushOutbox, alike.rows], alike.reference, ?_⟩
  have added : ingressChannels jobId [outboxRow db.nextOutboxId jobId eventType event] = [] := by
    refine Intake.ingressChannels_silent jobId fun row inside _ => ?_
    obtain rfl := List.mem_singleton.mp inside
    cases event with
    | ingressReceived email priority channel => exact absurd rfl silent
    | _ => rfl
  have same : ingressChannels jobId (Database.pushOutbox jobId eventType event db).outbox = ingressChannels jobId db.outbox := by
    rw [Database.pushOutbox, Intake.ingressChannels_append, added, List.append_nil]
  intro channel named another named'
  rw [same] at named named'
  exact alike.channel channel named another named'

theorem Alike.referring (alike : Alike jobId db db') {change : Db → Db} (changed : Alike jobId (change db) (change db')) :
    RelatedResults (Alike jobId) (referring jobId change db) (Database.referring jobId change db') := by
  cases present : db.hasJob jobId with
  | true => simpa [Database.referring, present, ← alike.hasJob, RelatedResults] using changed
  | false => simp [Database.referring, present, ← alike.hasJob, RelatedResults]

theorem Alike.upsertOutput (alike : Alike jobId db db') (payload : NormalizedRatesheet) :
    RelatedResults (Alike jobId) (upsertOutput jobId payload db) (Database.upsertOutput jobId payload db') :=
  alike.referring (alike.putOutput payload)

theorem Alike.insertOutput (alike : Alike jobId db db') (payload : NormalizedRatesheet) :
    RelatedResults (Alike jobId) (insertOutput jobId payload db) (Database.insertOutput jobId payload db') := by
  unfold Database.insertOutput
  rw [← alike.output]
  split
  · rfl
  · exact alike.upsertOutput payload

theorem failure_silent (stage : Recorder) (exc : PyExc) : (failurePayload stage.stage exc).stage ≠ some .ingressReceived := by
  cases stage <;> simp [failurePayload, Payload.stage, Recorder.stage]

section
variable (env : Env) (jobId)

theorem alike_updateJobStatus (status : JobStatusLiteral) (completedAt : Option DateTime) {db db' : Db}
    (alike : Alike jobId db db') :
    RelatedResults (Alike jobId) (updateJobStatus jobId status completedAt db) (updateJobStatus jobId status completedAt db') :=
  alike.setStatus status completedAt

theorem alike_recorded (stage : Recorder) (exc : PyExc) :
    AlikeStatements (Alike jobId)
      [updateJobStatus jobId .failed (some env.finishedAt), enqueueOutboxEvent jobId .auditLog (failurePayload stage.stage exc),
        addAudit jobId stage.stage (failurePayload stage.stage exc)] := by
  simp only [AlikeStatements, List.forall_mem_cons, List.not_mem_nil, false_imp_iff, implies_true, and_true]
  refine ⟨fun _ _ alike => alike_updateJobStatus jobId _ _ alike, fun _ _ alike => ?_, fun _ _ alike => ?_⟩
  · exact alike.referring (alike.pushOutbox _ (failure_silent stage exc))
  · exact alike.referring (alike.pushAudit _ _)

theorem alike_classifiedBlock (format : ClassifiedFormat) : AlikeStatements (Alike jobId) (classifiedBlock jobId format) := by
  simp only [AlikeStatements, classifiedBlock, List.forall_mem_cons, List.not_mem_nil, false_imp_iff, implies_true, and_true]
  exact ⟨fun _ _ alike => alike_updateJobStatus jobId _ _ alike, fun _ _ alike => alike.referring (alike.pushAudit _ _)⟩

theorem alike_unsupportedBlock : AlikeStatements (Alike jobId) (unsupportedBlock env jobId) := by
  simp only [AlikeStatements, unsupportedBlock, List.forall_mem_cons, List.not_mem_nil, false_imp_iff, implies_true, and_true]
  exact fun _ _ alike => alike_updateJobStatus jobId _ _ alike

theorem alike_extractedBlock (payload : NormalizedRatesheet) :
    AlikeStatements (Alike jobId) (extractedBlock jobId payload) := by
  simp only [AlikeStatements, extractedBlock, List.forall_mem_cons, List.not_mem_nil, false_imp_iff, implies_true, and_true]
  refine ⟨fun _ _ alike => alike.insertOutput payload, fun _ _ alike => alike_updateJobStatus jobId _ _ alike,
    fun _ _ alike => ?_, fun _ _ alike => alike.referring (alike.pushAudit _ _)⟩
  exact alike.referring (alike.pushOutbox _ (by simp [Payload.stage]))

/-- The upserts of some score rows. -/
theorem alike_scores (entries : List (String × OnrampConformalScore)) :
    AlikeStatements (Alike jobId) (entries.map (fun entry => upsertScore jobId entry.1 entry.2)) := by
  intro statement inside db db' alike
  obtain ⟨entry, -, rfl⟩ := List.mem_map.mp inside
  exact alike.referring (alike.putScore _ _)

theorem alike_normalizedBlock (updated : NormalizedRatesheet) (results : List ConsensusResult) :
    AlikeStatements (Alike jobId) (normalizedBlock jobId updated results) := by
  have scores : AlikeStatements (Alike jobId) (persistConsensusVotes jobId results) := by
    have same : persistConsensusVotes jobId results =
        (snapshots results).map (fun entry => upsertScore jobId entry.1 entry.2) := by
      simp [persistConsensusVotes, snapshots, Function.comp_def]
    rw [same]
    exact alike_scores jobId _
  simp only [AlikeStatements, normalizedBlock, List.cons_append, List.forall_mem_cons, List.forall_mem_append,
    List.not_mem_nil, false_imp_iff, implies_true, and_true]
  refine ⟨fun _ _ alike => alike.upsertOutput updated, scores, fun _ _ alike => alike_updateJobStatus jobId _ _ alike,
    fun _ _ alike => ?_, fun _ _ alike => alike.referring (alike.pushAudit _ _)⟩
  exact alike.referring (alike.pushOutbox _ (by simp [Payload.stage]))

theorem alike_validatedBlock (result : Stage4.Validated) (channel prospectName : String) (signed : String × DateTime) :
    AlikeStatements (Alike jobId) (validatedBlock env jobId result (slackPayload channel prospectName result signed)) := by
  have scores : AlikeStatements (Alike jobId)
      (result.conformalByLane.map (fun entry => upsertScore jobId entry.1
        { confidence := entry.2.confidence, ensembleVotes := .calibration entry.2.calibrationId })) := by
    have upserts := alike_scores jobId (calibrated result)
    simpa [calibrated, Function.comp_def] using upserts
  simp only [AlikeStatements, validatedBlock, List.cons_append, List.forall_mem_cons, List.forall_mem_append,
    List.not_mem_nil, false_imp_iff, implies_true, and_true]
  refine ⟨fun _ _ alike => alike.upsertOutput _, scores, fun _ _ alike => alike_updateJobStatus jobId _ _ alike,
    fun _ _ alike => ?_, fun _ _ alike => alike.referring (alike.pushAudit _ _), fun _ _ alike => ?_, fun _ _ alike => ?_⟩
  · exact alike.referring (alike.pushOutbox _ (by simp [Payload.stage, validatedPayload]))
  · exact alike.referring (alike.pushOutbox _ (by simp [Payload.stage, slackPayload]))
  · exact alike.referring (alike.pushOutbox _ (by simp [Payload.stage]))

theorem failWith_congruent {α : Type} (task : Recorder) (exc : PyExc) :
    Congruent (Alike jobId) (failWith env jobId task.stage exc : TaskBody α) :=
  (Congruent.atomic (alike_recorded jobId env task exc)).bind fun _ => Congruent.raise exc

theorem classify_congruent : Congruent (Alike jobId) (Tasks.classify env jobId) := by
  unfold Tasks.classify
  refine Congruent.point.bind fun _ => (Congruent.lift _).bind fun payload => (Congruent.lift _).bind fun classified => ?_
  split
  · exact (Congruent.atomic (alike_unsupportedBlock jobId env)).bind fun _ => Congruent.raise _
  · exact (Congruent.atomic (alike_classifiedBlock jobId classified)).bind fun _ => Congruent.pure _

theorem extract_congruent (fmt : DetectedFormat) : Congruent (Alike jobId) (Tasks.extract env jobId fmt) := by
  unfold Tasks.extract
  split
  · exact Congruent.raise _
  refine Congruent.point.bind fun _ => (Congruent.query fun _ _ alike => by rw [alike.job]).bind fun job => ?_
  cases job with
  | none => exact Congruent.raise _
  | some job =>
    refine Congruent.bind (Congruent.catching ?_ (failWith_congruent jobId env .extract)) fun payload => ?_
    · exact Congruent.point.bind fun _ => Congruent.lift _
    · exact Congruent.point.bind fun _ => Congruent.atomic (alike_extractedBlock jobId payload)

theorem normalize_congruent : Congruent (Alike jobId) (Tasks.normalize env jobId) := by
  unfold Tasks.normalize
  refine Congruent.point.bind fun _ => (Congruent.query fun _ _ alike => alike.getOutput).bind fun output => ?_
  cases output with
  | none => exact failWith_congruent jobId env .normalize _
  | some extraction =>
    refine Congruent.bind (Congruent.catching ?_ (failWith_congruent jobId env .normalize)) fun parts => ?_
    · refine Congruent.point.bind fun _ => (Congruent.query fun _ _ alike => ?_).bind fun reference => Congruent.lift _
      rw [alike.reference]
    · exact Congruent.point.bind fun _ => Congruent.atomic (alike_normalizedBlock jobId parts.1 parts.2)

theorem validateBody_congruent : Congruent (Alike jobId) (validateBody env jobId) := by
  unfold validateBody
  refine Congruent.point.bind fun _ => (Congruent.query fun _ _ alike => alike.getOutput).bind fun output => ?_
  cases output with
  | none => exact Congruent.raise _
  | some normalized =>
    refine Congruent.point.bind fun _ => (Congruent.query fun _ _ alike => by rw [alike.job]).bind fun job => ?_
    cases job with
    | none => exact Congruent.raise _
    | some job =>
      refine Congruent.point.bind fun _ => (Congruent.query fun _ _ alike => by rw [alike.recovered]).bind fun channel => ?_
      cases channel with
      | none => exact Congruent.raise _
      | some channel =>
        refine Congruent.point.bind fun _ => (Congruent.query fun _ _ alike => by rw [alike.stage4Inputs]).bind fun inputs => ?_
        refine (Congruent.lift _).bind fun result => (Congruent.lift _).bind fun signed => ?_
        exact Congruent.point.bind fun _ => Congruent.atomic (alike_validatedBlock jobId env result _ _ signed)

theorem prog_congruent (body : Body) : Congruent (Alike jobId) (body.prog env jobId) := by
  cases body with
  | classify => exact (classify_congruent jobId env).bind fun _ => Congruent.pure _
  | extract fmt => exact extract_congruent jobId env fmt
  | normalize => exact normalize_congruent jobId env
  | validate => exact (validateBody_congruent jobId env).catching (failWith_congruent jobId env .validate)

end

end

/-- What an execution returns or raises, with the trace that it leaves. -/
def executed (t : Trace Db) (invocation : Invocation) : Raises Unit × Trace Db :=
  let ran := invocation.body.prog invocation.env invocation.jobId ⟨t, invocation.faults⟩
  (ran.1, ran.2.trace)

/-- The executions of a job in a schedule. -/
def executionsOf (jobId : String) (invocations : List Invocation) : List Invocation :=
  ownActions Invocation.jobId jobId invocations

/-- What the executions of a job return or raise along a schedule. -/
def outcomesOf (jobId : String) (db : Db) (invocations : List Invocation) : List (Raises Unit) :=
  answersTo Invocation.jobId executed jobId ⟨db, []⟩ invocations

/-- An execution for another job is not noticed. -/
theorem executed_other {jobId : String} {t t' : Trace Db} {invocation : Invocation} (differs : invocation.jobId ≠ jobId)
    (alike : Alike jobId t.committed t'.committed) : Alike jobId (executed t invocation).2.committed t'.committed := by
  have grows := perform_grows t invocation
  change Alike jobId (invocation.perform t).committed t'.committed
  generalize invocation.perform t = grown at grows ⊢
  cases grows with
  | stays => exact alike
  | commits offered => exact alike.apply_other differs.symm invocation.env _

/-- An execution for the job answers alike databases alike. -/
theorem executed_own {jobId : String} {t t' : Trace Db} {invocation : Invocation} (same : invocation.jobId = jobId)
    (alike : Alike jobId t.committed t'.committed) :
    (executed t invocation).1 = (executed t' invocation).1 ∧
      Alike jobId (executed t invocation).2.committed (executed t' invocation).2.committed := by
  subst same
  obtain ⟨results, ends, -⟩ := prog_congruent invocation.jobId invocation.env invocation.body ⟨t, invocation.faults⟩
    ⟨t', invocation.faults⟩ alike rfl
  refine ⟨?_, ends⟩
  simp only [executed]
  generalize (invocation.body.prog invocation.env invocation.jobId ⟨t, invocation.faults⟩).1 = result at results
  generalize (invocation.body.prog invocation.env invocation.jobId ⟨t', invocation.faults⟩).1 = result' at results
  cases result with
  | error exc =>
    cases result' with
    | error exc' => exact congrArg Except.error results
    | ok value => exact results.elim
  | ok value =>
    cases result' with
    | error exc' => exact results.elim
    | ok value' => rfl

theorem isolated_alone {jobId : String} {db : Db} (one : OneChannel jobId db) (invocations : List Invocation) :
    outcomesOf jobId db invocations = outcomesOf jobId db (executionsOf jobId invocations) ∧
      Alike jobId (performAll db invocations).committed (performAll db (executionsOf jobId invocations)).committed := by
  have start : Alike jobId (⟨db, []⟩ : Trace Db).committed (⟨db, []⟩ : Trace Db).committed := ⟨rfl, rfl, one⟩
  exact @alone_of_alike _ _ _ _ _ Invocation.jobId executed jobId (fun t t' => Alike jobId t.committed t'.committed)
    (fun _ _ _ => executed_other) (fun _ _ _ => executed_own) invocations _ _ start

/-- Two jobs that wait. -/
def twoJobs : Db := { pendingDb with jobs := [("j1", sampleJob .pending), ("j2", sampleJob .pending)] }

end Onramp.Isolation
