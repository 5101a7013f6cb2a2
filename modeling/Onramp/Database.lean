import Onramp.Conformal
import Onramp.Ports

/-!
The tables and the statements that the pipeline runs on them. A column of JSON holds
the record whose dump it is. A statement changes the database or raises, as the
constraints of the tables have it; transactions are put together from statements.
-/
namespace Onramp.Database
open Onramp.Python
open Onramp.Values
open Onramp.Models
open Onramp.Ports
open Onramp.Library.Keyed (Table find upsert adjust find_adjust find_upsert_self find_section)

/-- A point in time, in microseconds. -/
abbrev Instant : Type := Nat

structure OnrampJob where
  jobId : String
  prospectId : String
  prospectName : String
  status : JobStatusLiteral
  inputHash : String
  sourceFormat : String
  createdAt : DateTime
  completedAt : Option DateTime

structure OnrampOutput where
  normalizedPayload : NormalizedRatesheet
  laneCount : Nat
  flaggedCount : Nat
  rejectedCount : Nat

/-- The stage that a payload names, which is also the action of an audit row. -/
inductive Stage
  | ingressReceived | classified | extracted | normalized | validated | extractFailed | normalizeFailed | validateFailed
  | resultDelivered | reviewAcknowledged
  deriving DecidableEq

/-- The payloads of outbox and audit rows. -/
inductive Payload
  | ingressReceived (operatorEmail priority requestedSlackChannel : String)
  | classified (detectedFormat : DetectedFormat) (confidenceHundredths : Nat)
  | extracted (laneCount : Nat)
  | normalized (consensusClean flagged : Nat)
  | validated (violations : List RuleId)
      (laneCount rejectedCount scored lowConfidence correctionTriggered clarifications : Nat)
  | failure (stage : Stage) (errorType errorMessage : String)
  | slackPost (channel : String) (blocks : List Json) (text : String)
  | uploadResult (jobId bucket blobName : String)
  | resultDelivered (blobName : String)
  | reviewAcknowledged (laneId decision operatorEmail : String)
  | accessLog (route : String) (responseStatus : Nat) (principal : String)

/-- `payload.get("stage")`. -/
def Payload.stage : Payload → Option Stage
  | .ingressReceived .. => some .ingressReceived
  | .classified .. => some .classified
  | .extracted .. => some .extracted
  | .normalized .. => some .normalized
  | .validated .. => some .validated
  | .failure stage .. => some stage
  | .slackPost .. => none
  | .uploadResult .. => none
  | .resultDelivered .. => some .resultDelivered
  | .reviewAcknowledged .. => some .reviewAcknowledged
  | .accessLog .. => none

inductive OutboxEventType
  | slackPost | webhookCallback | auditLog | signedUrlCreate | accessLog | uploadResult
  deriving DecidableEq

structure OnrampOutbox where
  outboxId : Nat
  jobId : String
  eventType : OutboxEventType
  payload : Payload
  deliveredAt : Option Instant
  attempts : Nat
  nextRetryAt : Option Instant

/-- The `ensemble_votes` of a lane: the snapshot that Stage 3 leaves, or what Stage 4
    replaces it with. -/
inductive ScoreVotes
  | snapshot (consensus : ConsensusResult) (votes : List EnsembleVote)
  | calibration (calibrationId : String)
  deriving DecidableEq

structure OnrampConformalScore where
  confidence : Decimal
  ensembleVotes : ScoreVotes
  deriving DecidableEq

structure OnrampAuditLog where
  jobId : String
  actor : String
  actorPrincipal : String
  action : Stage
  payload : Payload

structure Db where
  jobs : Table String OnrampJob
  outputs : Table String OnrampOutput
  outbox : List OnrampOutbox
  nextOutboxId : Nat
  scores : Table (String × String) OnrampConformalScore
  auditLog : List OnrampAuditLog
  reference : Reference

/-- A statement of a transaction. -/
abbrev Statement : Type := Db → Raises Db

/-- The job exists. -/
def Db.hasJob (db : Db) (jobId : String) : Bool := (find jobId db.jobs).isSome

/-- A change of rows that refer to the job. -/
def referring (jobId : String) (change : Db → Db) : Statement := fun db =>
  if db.hasJob jobId then .ok (change db)
  else .error (PyExc.mk' .integrityError "violates foreign key constraint")

/-- The row of a payload with its counts. -/
def outputRow (payload : NormalizedRatesheet) : OnrampOutput where
  normalizedPayload := payload
  laneCount := payload.lanes.length
  flaggedCount := payload.flaggedForReview.length
  rejectedCount := payload.deterministicallyRejected.length

/-- `update_job_status`; `completedAt` is written when it is given. -/
def setStatus (jobId : String) (newStatus : JobStatusLiteral) (completedAt : Option DateTime) (db : Db) : Db :=
  { db with jobs := adjust jobId (fun job =>
      { job with status := newStatus, completedAt := completedAt.or job.completedAt }) db.jobs }

def updateJobStatus (jobId : String) (newStatus : JobStatusLiteral) (completedAt : Option DateTime) : Statement :=
  fun db => .ok (setStatus jobId newStatus completedAt db)

/-- The upsert of the output of a job. -/
def putOutput (jobId : String) (payload : NormalizedRatesheet) (db : Db) : Db :=
  { db with outputs := upsert jobId (outputRow payload) db.outputs }

def upsertOutput (jobId : String) (payload : NormalizedRatesheet) : Statement := referring jobId (putOutput jobId payload)

def insertOutput (jobId : String) (payload : NormalizedRatesheet) : Statement := fun db =>
  if (find jobId db.outputs).isSome then .error (PyExc.mk' .integrityError "duplicate key value")
  else upsertOutput jobId payload db

/-- The row that an enqueued event becomes. -/
def outboxRow (outboxId : Nat) (jobId : String) (eventType : OutboxEventType) (payload : Payload) : OnrampOutbox where
  outboxId := outboxId
  jobId := jobId
  eventType := eventType
  payload := payload
  deliveredAt := none
  attempts := 0
  nextRetryAt := none

/-- The insert of an outbox row. -/
def pushOutbox (jobId : String) (eventType : OutboxEventType) (payload : Payload) (db : Db) : Db :=
  { db with
    outbox := db.outbox ++ [outboxRow db.nextOutboxId jobId eventType payload]
    nextOutboxId := db.nextOutboxId + 1 }

def enqueueOutboxEvent (jobId : String) (eventType : OutboxEventType) (payload : Payload) : Statement :=
  referring jobId (pushOutbox jobId eventType payload)

def auditRow (jobId : String) (action : Stage) (payload : Payload) : OnrampAuditLog :=
  { jobId, actor := "worker", actorPrincipal := "pipeline-task", action, payload }

/-- The insert of an audit row. -/
def pushAudit (jobId : String) (action : Stage) (payload : Payload) (db : Db) : Db :=
  { db with auditLog := db.auditLog ++ [auditRow jobId action payload] }

def addAudit (jobId : String) (action : Stage) (payload : Payload) : Statement :=
  referring jobId (pushAudit jobId action payload)

/-- The upsert of the score row of a lane. -/
def putScore (jobId laneId : String) (row : OnrampConformalScore) (db : Db) : Db :=
  { db with scores := upsert (jobId, laneId) row db.scores }

def upsertScore (jobId laneId : String) (row : OnrampConformalScore) : Statement :=
  referring jobId (putScore jobId laneId row)

def Db.getJob (db : Db) (jobId : String) : Option OnrampJob := find jobId db.jobs

/-- `get_output`: the payload is validated again. -/
def Db.getOutput (db : Db) (jobId : String) : Raises (Option NormalizedRatesheet) :=
  match find jobId db.outputs with
  | none => .ok none
  | some row => do
    let payload ← checked "NormalizedRatesheet" NormalizedRatesheet.Valid row.normalizedPayload
    return some payload

/-- `payload.get("votes", [])`. -/
def ScoreVotes.votes : ScoreVotes → List EnsembleVote
  | .snapshot _ votes => votes
  | .calibration _ => []

/-- `payload.get("consensus")`. -/
def ScoreVotes.consensus : ScoreVotes → Option ConsensusResult
  | .snapshot consensus _ => some consensus
  | .calibration _ => none

def Db.loadVotesByLane (db : Db) (jobId : String) : Table String (List EnsembleVote) :=
  (db.scores.filter (fun entry => entry.1.1 = jobId)).map (fun entry => (entry.1.2, entry.2.ensembleVotes.votes))

def Db.loadConsensus (db : Db) (jobId laneId : String) : Option ConsensusResult :=
  (find (jobId, laneId) db.scores).bind (fun row => row.ensembleVotes.consensus)

theorem find_loadVotesByLane (db : Db) (jobId laneId : String) :
    find laneId (db.loadVotesByLane jobId) =
      (find (jobId, laneId) db.scores).map (fun row => row.ensembleVotes.votes) :=
  find_section (fun row : OnrampConformalScore => row.ensembleVotes.votes) jobId laneId db.scores

section
variable (jobId laneId : String) (newStatus : JobStatusLiteral) (completedAt : Option DateTime) (db : Db)
  (payload : NormalizedRatesheet) (eventType : OutboxEventType) (event : Payload) (action : Stage)
  (row : OnrampConformalScore)

@[simp] theorem setStatus_outputs : (setStatus jobId newStatus completedAt db).outputs = db.outputs := rfl
@[simp] theorem setStatus_outbox : (setStatus jobId newStatus completedAt db).outbox = db.outbox := rfl
@[simp] theorem setStatus_scores : (setStatus jobId newStatus completedAt db).scores = db.scores := rfl
@[simp] theorem setStatus_auditLog : (setStatus jobId newStatus completedAt db).auditLog = db.auditLog := rfl
@[simp] theorem putOutput_jobs : (putOutput jobId payload db).jobs = db.jobs := rfl
@[simp] theorem putOutput_outbox : (putOutput jobId payload db).outbox = db.outbox := rfl
@[simp] theorem putOutput_scores : (putOutput jobId payload db).scores = db.scores := rfl
@[simp] theorem putOutput_auditLog : (putOutput jobId payload db).auditLog = db.auditLog := rfl
@[simp] theorem pushOutbox_jobs : (pushOutbox jobId eventType event db).jobs = db.jobs := rfl
@[simp] theorem pushOutbox_outputs : (pushOutbox jobId eventType event db).outputs = db.outputs := rfl
@[simp] theorem pushOutbox_scores : (pushOutbox jobId eventType event db).scores = db.scores := rfl
@[simp] theorem pushOutbox_auditLog : (pushOutbox jobId eventType event db).auditLog = db.auditLog := rfl
@[simp] theorem pushAudit_jobs : (pushAudit jobId action event db).jobs = db.jobs := rfl
@[simp] theorem pushAudit_outputs : (pushAudit jobId action event db).outputs = db.outputs := rfl
@[simp] theorem pushAudit_outbox : (pushAudit jobId action event db).outbox = db.outbox := rfl
@[simp] theorem pushAudit_scores : (pushAudit jobId action event db).scores = db.scores := rfl
@[simp] theorem putScore_jobs : (putScore jobId laneId row db).jobs = db.jobs := rfl
@[simp] theorem putScore_outputs : (putScore jobId laneId row db).outputs = db.outputs := rfl
@[simp] theorem putScore_outbox : (putScore jobId laneId row db).outbox = db.outbox := rfl
@[simp] theorem putScore_auditLog : (putScore jobId laneId row db).auditLog = db.auditLog := rfl

@[simp] theorem putOutput_find : find jobId (putOutput jobId payload db).outputs = some (outputRow payload) :=
  find_upsert_self jobId _ _

@[simp] theorem setStatus_hasJob (other : String) :
    (setStatus jobId newStatus completedAt db).hasJob other = db.hasJob other := by
  unfold Db.hasJob setStatus
  rw [find_adjust]
  by_cases same : other = jobId <;> simp [same]

@[simp] theorem putOutput_hasJob (other : String) : (putOutput jobId payload db).hasJob other = db.hasJob other := rfl
@[simp] theorem pushOutbox_hasJob (other : String) :
    (pushOutbox jobId eventType event db).hasJob other = db.hasJob other := rfl
@[simp] theorem pushAudit_hasJob (other : String) :
    (pushAudit jobId action event db).hasJob other = db.hasJob other := rfl
@[simp] theorem putScore_hasJob (other : String) : (putScore jobId laneId row db).hasJob other = db.hasJob other := rfl

/-- The status of a job. -/
def Db.status (db : Db) (jobId : String) : Option JobStatusLiteral := (find jobId db.jobs).map OnrampJob.status

theorem setStatus_status (present : db.hasJob jobId = true) :
    (setStatus jobId newStatus completedAt db).status jobId = some newStatus := by
  obtain ⟨job, found⟩ := Option.isSome_iff_exists.mp present
  simp [Db.status, setStatus, find_adjust, found]

end

end Onramp.Database
