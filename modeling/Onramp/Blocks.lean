import Onramp.Tasks

/-!
What the transactions of the tasks leave in the database, and what each task does to
the committed states: it commits its block, or it commits a failure record, or it
leaves the database alone.
-/
namespace Onramp.Blocks
open Onramp.Python
open Onramp.Models
open Onramp.Database
open Onramp.Stage4
open Onramp.Tasks
open Onramp.Library.Keyed (find upsertAll find_upsertAll lastOf lastOf_rename)
open Onramp.Library.Atomic

variable (env : Env) (jobId : String)

/-- After a failure record. -/
def failureDb (stage : Stage) (exc : PyExc) (db : Db) : Db :=
  pushAudit jobId stage (failurePayload stage exc)
    (pushOutbox jobId .auditLog (failurePayload stage exc) (setStatus jobId .failed (some env.finishedAt) db))

/-- After the success block of `classify`. -/
def classifiedDb (classified : ClassifiedFormat) (db : Db) : Db :=
  pushAudit jobId .classified (.classified classified.detectedFormat classified.confidenceHundredths)
    (setStatus jobId .extracting none db)

/-- After the success block of `extract`. -/
def extractedDb (payload : NormalizedRatesheet) (db : Db) : Db :=
  pushAudit jobId .extracted (.extracted payload.lanes.length)
    (pushOutbox jobId .auditLog (.extracted payload.lanes.length)
      (setStatus jobId .normalizing none (putOutput jobId payload db)))

/-- After the score rows of some lanes. -/
def scoredDb (entries : List (String × OnrampConformalScore)) (db : Db) : Db :=
  entries.foldl (fun db entry => putScore jobId entry.1 entry.2 db) db

/-- The score rows that Stage 3 persists. -/
def snapshots (results : List ConsensusResult) : List (String × OnrampConformalScore) :=
  results.map (fun consensus =>
    (consensus.laneId, { confidence := Decimal.thousandths 0, ensembleVotes := .snapshot consensus consensus.votes }))

/-- The audit payload of Stage 3. -/
def normalizedPayload (updated : NormalizedRatesheet) (results : List ConsensusResult) : Payload :=
  .normalized (results.filter (fun consensus => !consensus.requiresReview)).length updated.flaggedForReview.length

/-- After the success block of `normalize`. -/
def normalizedDb (updated : NormalizedRatesheet) (results : List ConsensusResult) (db : Db) : Db :=
  pushAudit jobId .normalized (normalizedPayload updated results)
    (pushOutbox jobId .auditLog (normalizedPayload updated results)
      (setStatus jobId .validating none (scoredDb jobId (snapshots results) (putOutput jobId updated db))))

/-- The score rows that Stage 4 leaves. -/
def calibrated (result : Validated) : List (String × OnrampConformalScore) :=
  result.conformalByLane.map (fun entry =>
    (entry.1, { confidence := entry.2.confidence, ensembleVotes := .calibration entry.2.calibrationId }))

/-- The `upload_result` payload. -/
def uploadPayload : Payload := .uploadResult jobId env.gcsBucketOutputs s!"jobs/{jobId}/normalized_ratesheet.json"

/-- After the terminal block of `validate`. -/
def validatedDb (result : Validated) (slack : Payload) (db : Db) : Db :=
  pushOutbox jobId .uploadResult (uploadPayload env jobId)
    (pushOutbox jobId .slackPost slack
      (pushAudit jobId .validated (validatedPayload result)
        (pushOutbox jobId .auditLog (validatedPayload result)
          (setStatus jobId .completed (some env.finishedAt)
            (scoredDb jobId (calibrated result) (putOutput jobId result.sheet db))))))

@[simp] theorem scoredDb_jobs (entries : List (String × OnrampConformalScore)) (db : Db) :
    (scoredDb jobId entries db).jobs = db.jobs := by
  induction entries generalizing db with
  | nil => rfl
  | cons entry rest ih => exact (ih _).trans rfl

@[simp] theorem scoredDb_outputs (entries : List (String × OnrampConformalScore)) (db : Db) :
    (scoredDb jobId entries db).outputs = db.outputs := by
  induction entries generalizing db with
  | nil => rfl
  | cons entry rest ih => exact (ih _).trans rfl

@[simp] theorem scoredDb_outbox (entries : List (String × OnrampConformalScore)) (db : Db) :
    (scoredDb jobId entries db).outbox = db.outbox := by
  induction entries generalizing db with
  | nil => rfl
  | cons entry rest ih => exact (ih _).trans rfl

@[simp] theorem scoredDb_nextOutboxId (entries : List (String × OnrampConformalScore)) (db : Db) :
    (scoredDb jobId entries db).nextOutboxId = db.nextOutboxId := by
  induction entries generalizing db with
  | nil => rfl
  | cons entry rest ih => exact (ih _).trans rfl

@[simp] theorem scoredDb_auditLog (entries : List (String × OnrampConformalScore)) (db : Db) :
    (scoredDb jobId entries db).auditLog = db.auditLog := by
  induction entries generalizing db with
  | nil => rfl
  | cons entry rest ih => exact (ih _).trans rfl

@[simp] theorem scoredDb_hasJob (entries : List (String × OnrampConformalScore)) (db : Db) (other : String) :
    (scoredDb jobId entries db).hasJob other = db.hasJob other := by
  simp [Db.hasJob]

/-- The scores after some lanes are upserted: the last entry of a lane wins. -/
theorem scoredDb_scores (entries : List (String × OnrampConformalScore)) (db : Db) :
    (scoredDb jobId entries db).scores =
      upsertAll (entries.map (fun entry => ((jobId, entry.1), entry.2))) db.scores := by
  induction entries generalizing db with
  | nil => rfl
  | cons entry rest ih => exact (ih _).trans rfl

theorem scoredDb_find (entries : List (String × OnrampConformalScore)) (db : Db) (laneId : String) :
    find (jobId, laneId) (scoredDb jobId entries db).scores =
      (lastOf laneId entries).or (find (jobId, laneId) db.scores) := by
  rw [scoredDb_scores, find_upsertAll, lastOf_rename (Prod.mk jobId) (Prod.mk_right_injective jobId)]

theorem applyAll_referring (change : Db → Db) (rest : List Statement) {db : Db} (present : db.hasJob jobId = true) :
    applyAll (referring jobId change :: rest) db = applyAll rest (change db) := by
  exact applyAll_cons rest (by simp [referring, present])

theorem applyAll_updateJobStatus (newStatus : JobStatusLiteral) (completedAt : Option DateTime)
    (rest : List Statement) (db : Db) :
    applyAll (updateJobStatus jobId newStatus completedAt :: rest) db =
      applyAll rest (setStatus jobId newStatus completedAt db) := rfl

theorem applyAll_scores (entries : List (String × OnrampConformalScore)) (rest : List Statement) {db : Db}
    (present : db.hasJob jobId = true) :
    applyAll (entries.map (fun entry => upsertScore jobId entry.1 entry.2) ++ rest) db =
      applyAll rest (scoredDb jobId entries db) := by
  induction entries generalizing db with
  | nil => rfl
  | cons entry others ih =>
    rw [List.map_cons, List.cons_append, upsertScore, applyAll_referring jobId _ _ present]
    exact ih (by simpa using present)

variable {db : Db}

theorem applyAll_failure (stage : Stage) (exc : PyExc) (present : db.hasJob jobId = true) :
    applyAll
      [updateJobStatus jobId .failed (some env.finishedAt),
        enqueueOutboxEvent jobId .auditLog (failurePayload stage exc), addAudit jobId stage (failurePayload stage exc)]
      db = .ok (failureDb env jobId stage exc db) := by
  rw [applyAll_updateJobStatus, enqueueOutboxEvent, applyAll_referring jobId _ _ (by simpa using present), addAudit,
    applyAll_referring jobId _ _ (by simpa using present)]
  rfl

theorem applyAll_classified (classified : ClassifiedFormat) (present : db.hasJob jobId = true) :
    applyAll (classifiedBlock jobId classified) db = .ok (classifiedDb jobId classified db) := by
  rw [classifiedBlock, applyAll_updateJobStatus, addAudit, applyAll_referring jobId _ _ (by simpa using present)]
  rfl

theorem applyAll_extracted (payload : NormalizedRatesheet) (present : db.hasJob jobId = true)
    (absent : find jobId db.outputs = none) :
    applyAll (extractedBlock jobId payload) db = .ok (extractedDb jobId payload db) := by
  have inserted : insertOutput jobId payload db = .ok (putOutput jobId payload db) := by
    simp [insertOutput, absent, upsertOutput, referring, present]
  unfold extractedBlock
  rw [applyAll_cons _ inserted, applyAll_updateJobStatus, enqueueOutboxEvent, applyAll_referring jobId _ _ (by simpa using present),
    addAudit, applyAll_referring jobId _ _ (by simpa using present)]
  rfl

theorem applyAll_normalized (updated : NormalizedRatesheet) (results : List ConsensusResult)
    (present : db.hasJob jobId = true) :
    applyAll (normalizedBlock jobId updated results) db = .ok (normalizedDb jobId updated results db) := by
  have entries : persistConsensusVotes jobId results =
      (snapshots results).map (fun entry => upsertScore jobId entry.1 entry.2) := by
    simp [persistConsensusVotes, snapshots]
  unfold normalizedBlock
  simp only [entries, List.cons_append]
  rw [upsertOutput, applyAll_referring jobId _ _ present, applyAll_scores jobId _ _ (by simpa using present),
    applyAll_updateJobStatus, enqueueOutboxEvent, applyAll_referring jobId _ _ (by simpa using present), addAudit,
    applyAll_referring jobId _ _ (by simpa using present)]
  rfl

theorem applyAll_validated (result : Validated) (slack : Payload) (present : db.hasJob jobId = true) :
    applyAll (validatedBlock env jobId result slack) db = .ok (validatedDb env jobId result slack db) := by
  have entries : result.conformalByLane.map (fun entry => upsertScore jobId entry.1
      { confidence := entry.2.confidence, ensembleVotes := .calibration entry.2.calibrationId }) =
      (calibrated result).map (fun entry => upsertScore jobId entry.1 entry.2) := by
    simp [calibrated]
  unfold validatedBlock
  simp only [entries, List.cons_append]
  rw [upsertOutput, applyAll_referring jobId _ _ present, applyAll_scores jobId _ _ (by simpa using present),
    applyAll_updateJobStatus]
  simp only [enqueueOutboxEvent, addAudit]
  rw [applyAll_referring jobId _ _ (by simpa using present), applyAll_referring jobId _ _ (by simpa using present),
    applyAll_referring jobId _ _ (by simpa using present), applyAll_referring jobId _ _ (by simpa using present)]
  rfl

end Onramp.Blocks
