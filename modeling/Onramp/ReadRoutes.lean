import Onramp.Intake
import Onramp.Library.Transactions

/-!
The routes that read a job, on a session that begins its transactions by itself. The two routes
of `jobs.py` begin the transaction of their `access_log` row inside the one that their reads
opened, so that none of them answers for a job that exists. `get_result_url` commits in between.
-/
namespace Onramp.ReadRoutes
open Onramp.Python
open Onramp.Values
open Onramp.Models
open Onramp.Database
open Onramp.Tasks (Env)
open Onramp.Classifier (Bytes)
open Onramp.Library.Keyed (find)
open Onramp.Library.Transactions
open Onramp.LaneAccounting (sampleJob sampleSheet)
open Onramp.Settlement (pendingDb)

/-- The text of the literal. -/
def statusLiteral : JobStatusLiteral → String
  | .pending => "pending"
  | .extracting => "extracting"
  | .normalizing => "normalizing"
  | .validating => "validating"
  | .completed => "completed"
  | .failed => "failed"

structure JobStatus where
  jobId : String
  status : JobStatusLiteral
  createdAt : DateTime
  completedAt : Option DateTime
  laneCount : Option Nat

structure SignedUrlResponse where
  jobId : String
  url : String
  expiresAt : DateTime

/-- What leaves a route: an `HTTPException`, or an exception that becomes a response with status 500. -/
inductive RouteError
  | httpException (statusCode : Nat) (detail : Json)
  | raised (exc : PyExc)

/-- A route, or a part of it, on its session. -/
abbrev RouteBody (α : Type) : Type := Prog Db RouteError α

/-- A call that raises exceptions of its own. -/
def raising {α : Type} (result : Raises α) : Except RouteError α := result.mapError RouteError.raised

def invalidRequestError : RouteError :=
  .raised (PyExc.mk' (.other "InvalidRequestError") "A transaction is already begun on this Session.")

def getJobStatus (jobId : String) : RouteBody (Option JobStatus) := do
  match ← query (fun db => .ok (db.getJob jobId)) with
  | none => return none
  | some job => do
    let laneCount ← query (fun db => .ok ((find jobId db.outputs).map OnrampOutput.laneCount))
    return some
      { jobId := job.jobId, status := job.status, createdAt := job.createdAt, completedAt := job.completedAt, laneCount }

def getOutput (jobId : String) : RouteBody (Option NormalizedRatesheet) := query (fun db => raising (db.getOutput jobId))

/-- One event, in a transaction of its own. -/
def enqueueInBlock (jobId : String) (eventType : OutboxEventType) (payload : Payload) : RouteBody Unit :=
  beginning invalidRequestError (execute (fun db => raising (enqueueOutboxEvent jobId eventType payload db)))

/-- `_record_access`. -/
def recordAccess (jobId route : String) (responseStatus : Nat) : RouteBody Unit :=
  enqueueInBlock jobId .accessLog (.accessLog route responseStatus "anonymous")

def jobNotFound : RouteError := .httpException 404 (.str "job_not_found")

def jobStatus (jobId : String) : RouteBody JobStatus := do
  match ← getJobStatus jobId with
  | none => raise jobNotFound
  | some result => do
    recordAccess jobId "/v1/jobs/{id}/status" 200
    return result

def jobResult (jobId : String) : RouteBody NormalizedRatesheet := do
  match ← getJobStatus jobId with
  | none => raise jobNotFound
  | some statusRow =>
    if statusRow.status ≠ .completed then
      raise (.httpException 409
        (.obj [("error", .str "job_not_completed"), ("current_status", .str (statusLiteral statusRow.status))]))
    else do
      match ← getOutput jobId with
      | none => raise (.httpException 409 (.str "completed_job_missing_output"))
      | some payload => do
        recordAccess jobId "/v1/jobs/{id}/result" 200
        return payload

/-- The route of the intake that hands out the result. -/
def getResultUrl (env : Env) (jobId : String) : RouteBody SignedUrlResponse := do
  match ← getJobStatus jobId with
  | none => raise jobNotFound
  | some statusObj =>
    if statusObj.status ≠ .completed then
      raise (.httpException 409 (.str s!"job_not_completed (status={statusLiteral statusObj.status})"))
    else do
      commit
      let blobName := s!"jobs/{jobId}/normalized_ratesheet.json"
      let (url, expiresAt) ← lift (raising env.signedUrl)
      enqueueInBlock jobId .auditLog (.resultDelivered blobName)
      return { jobId, url, expiresAt }

theorem getJobStatus_reads (jobId : String) : Reads (getJobStatus jobId) := by
  refine (Reads.query _).bind fun job => ?_
  cases job with
  | none => exact Quiet.pure _
  | some job => exact ((Reads.query _).bind fun laneCount => Quiet.pure _).quiet

theorem getOutput_reads (jobId : String) : Reads (getOutput jobId) := Reads.query _

/-- The status that is answered for a job. -/
def statusOf (db : Db) (jobId : String) (job : OnrampJob) : JobStatus where
  jobId := job.jobId
  status := job.status
  createdAt := job.createdAt
  completedAt := job.completedAt
  laneCount := (find jobId db.outputs).map OnrampOutput.laneCount

theorem getJobStatus_returns {db : Db} {jobId : String} {job : OnrampJob} (found : db.getJob jobId = some job) :
    getJobStatus jobId ⟨db, none⟩ = (.ok (some (statusOf db jobId job)), Session.opened ⟨db, none⟩) := by
  refine (getJobStatus_reads jobId).returns ?_
  simp [getJobStatus, query, bind, pure, Session.view, Session.opened, found, statusOf]

/-- A block is refused in the transaction that the reads opened. -/
theorem enqueueInBlock_refused (jobId : String) (eventType : OutboxEventType) (payload : Payload) (s : Session Db) :
    enqueueInBlock jobId eventType payload s.opened = (.error invalidRequestError, s.opened) := beginning_busy rfl

/-- In an idle session the block commits its event. -/
theorem enqueueInBlock_commits {jobId : String} {db : Db} (present : db.hasJob jobId = true) (eventType : OutboxEventType)
    (payload : Payload) :
    enqueueInBlock jobId eventType payload ⟨db, none⟩ = (.ok (), ⟨pushOutbox jobId eventType payload db, none⟩) := by
  refine beginning_execute ?_
  simp [enqueueOutboxEvent, referring, present, raising, Except.mapError]

theorem jobStatus_raises {db : Db} {jobId : String} {job : OnrampJob} (found : db.getJob jobId = some job) :
    run (jobStatus jobId) db = (.error invalidRequestError, db) := by
  refine run_of_opened ?_
  unfold jobStatus
  rw [bind_ok (getJobStatus_returns found)]
  exact bind_error (enqueueInBlock_refused _ _ _ _)

/-- The result of a completed job: its output does not load, or the block is refused. -/
theorem jobResult_raises {db : Db} {jobId : String} {job : OnrampJob} (found : db.getJob jobId = some job)
    (completed : job.status = .completed) :
    ∃ error, run (jobResult jobId) db = (.error error, db) ∧
      ∀ payload, db.getOutput jobId = .ok (some payload) → error = invalidRequestError := by
  have status : (statusOf db jobId job).status = .completed := completed
  have loads : getOutput jobId (Session.opened ⟨db, none⟩) = (raising (db.getOutput jobId), Session.opened ⟨db, none⟩) :=
    (getOutput_reads jobId).returns rfl
  have ran : ∃ error, jobResult jobId ⟨db, none⟩ = (.error error, Session.opened ⟨db, none⟩) ∧
      ∀ payload, db.getOutput jobId = .ok (some payload) → error = invalidRequestError := by
    unfold jobResult
    rw [bind_ok (getJobStatus_returns found)]
    simp only [status, ne_eq, not_true_eq_false, if_false]
    cases output : db.getOutput jobId with
    | error exc =>
      rw [output] at loads
      exact ⟨.raised exc, bind_error loads, by rintro _ ⟨⟩⟩
    | ok payload =>
      rw [output] at loads
      rw [bind_ok loads]
      cases payload with
      | none => exact ⟨_, rfl, by rintro _ ⟨⟩⟩
      | some payload => exact ⟨_, bind_error (enqueueInBlock_refused _ _ _ _), fun _ _ => rfl⟩
  obtain ⟨error, refused, loaded⟩ := ran
  exact ⟨error, run_of_opened refused, loaded⟩

/-- The commit in between lets the block of `get_result_url` through. -/
theorem getResultUrl_commits {env : Env} {db : Db} {jobId : String} {job : OnrampJob} {signed : String × DateTime}
    (found : db.getJob jobId = some job) (completed : job.status = .completed) (issued : env.signedUrl = .ok signed) :
    run (getResultUrl env jobId) db = (.ok ⟨jobId, signed.1, signed.2⟩,
      pushOutbox jobId .auditLog (.resultDelivered s!"jobs/{jobId}/normalized_ratesheet.json") db) := by
  have present : db.hasJob jobId = true := TaskSpecs.hasJob_of_getJob found
  have status : (statusOf db jobId job).status = .completed := completed
  have returned : getResultUrl env jobId ⟨db, none⟩ = (.ok ⟨jobId, signed.1, signed.2⟩,
      ⟨pushOutbox jobId .auditLog (.resultDelivered s!"jobs/{jobId}/normalized_ratesheet.json") db, none⟩) := by
    refine (bind_ok (getJobStatus_returns found)).trans ?_
    simp only [status, ne_eq, not_true_eq_false, if_false]
    have url : (lift (raising env.signedUrl) : RouteBody (String × DateTime)) ⟨db, none⟩ = (.ok signed, ⟨db, none⟩) := by
      rw [issued]
      rfl
    refine (bind_ok commit_opened).trans ((bind_ok url).trans ?_)
    exact bind_ok (enqueueInBlock_commits present _ _)
  unfold run
  rw [returned]

/-- The event of the intake that stands for the route is what the route commits. -/
theorem getResultUrl_step {env : Env} {db : Db} {jobId : String} {signed : String × DateTime} (digest : Bytes → String)
    (answers : List Intake.Answer) (issued : env.signedUrl = .ok signed) :
    Intake.step env digest ⟨db, answers⟩ (.getResultUrl jobId) = some ⟨(run (getResultUrl env jobId) db).2, answers⟩ := by
  cases found : db.getJob jobId with
  | none =>
    have absent : db.status jobId ≠ some .completed := by
      have missing : find jobId db.jobs = none := found
      simp [Db.status, missing]
    have refused : run (getResultUrl env jobId) db = (.error jobNotFound, db) := by
      simp [run, getResultUrl, getJobStatus, query, bind, pure, Session.view, Session.opened, found, raise]
    rw [refused]
    exact if_neg absent
  | some job =>
    have status : db.status jobId = some job.status := congrArg (Option.map OnrampJob.status) found
    by_cases completed : job.status = .completed
    · rw [getResultUrl_commits found completed issued]
      exact if_pos (by rw [status, completed])
    · have refused : (run (getResultUrl env jobId) db).2 = db := by
        unfold run getResultUrl
        rw [bind_ok (getJobStatus_returns found)]
        have differs : (statusOf db jobId job).status ≠ .completed := completed
        simp only [if_pos differs]
        rfl
      rw [refused]
      exact if_neg (by rw [status]; simpa using completed)

/-- The call returned what is wanted, and committed one `access_log` row for the job and no other
    event. -/
def Served {α : Type} (jobId : String) (db : Db) (wanted : α → Prop) (call : Except RouteError α × Db) : Prop :=
  (∃ value, call.1 = .ok value ∧ wanted value) ∧
    ∃ row, row.jobId = jobId ∧ row.eventType = .accessLog ∧ call.2.outbox = db.outbox ++ [row]

/-- `GET /v1/jobs/{id}/status` answers with the status of the job. -/
def StatusServed (db : Db) (jobId : String) : Prop :=
  Served jobId db (fun response : JobStatus => db.status jobId = some response.status) (run (jobStatus jobId) db)

/-- `GET /v1/jobs/{id}/result` answers with this payload. -/
def ResultServed (db : Db) (jobId : String) (payload : NormalizedRatesheet) : Prop :=
  Served jobId db (fun response => response = payload) (run (jobResult jobId) db)

/-- No read of a job that exists is ever served: both routes raise. -/
theorem reads_never_served (db : Db) (jobId : String) (present : db.hasJob jobId = true) :
    ¬ StatusServed db jobId ∧
      ∀ row, db.status jobId = some .completed → find jobId db.outputs = some row →
        ¬ ResultServed db jobId row.normalizedPayload := by
  obtain ⟨job, found⟩ := Option.isSome_iff_exists.mp present
  refine ⟨?_, ?_⟩
  · rintro ⟨⟨response, returned, -⟩, -⟩
    rw [jobStatus_raises found] at returned
    cases returned
  · rintro row completed stored ⟨⟨response, returned, -⟩, -⟩
    have status : job.status = .completed := by
      have held : db.status jobId = some job.status := congrArg (Option.map OnrampJob.status) found
      exact Option.some.inj (held.symm.trans completed)
    obtain ⟨error, ran, -⟩ := jobResult_raises found status
    rw [ran] at returned
    cases returned

/-- A completed job with its output. -/
def completedDb : Db :=
  { pendingDb with jobs := [("j1", sampleJob .completed)], outputs := [("j1", outputRow (sampleSheet [] []))] }

theorem reads_never_served_completed :
    ¬ StatusServed completedDb "j1" ∧ ¬ ResultServed completedDb "j1" (sampleSheet [] []) :=
  have raises := reads_never_served completedDb "j1" rfl
  ⟨raises.1, raises.2 (outputRow (sampleSheet [] [])) rfl rfl⟩

/-- The status of a completed job is not served. -/
theorem completed_job_not_served :
    ¬ ∀ (db : Db) (jobId : String), db.hasJob jobId = true →
      StatusServed db jobId ∧
        ∀ row, db.status jobId = some .completed → find jobId db.outputs = some row →
          ResultServed db jobId row.normalizedPayload := by
  intro always
  have raises : run (jobStatus "j1") completedDb = (.error invalidRequestError, completedDb) := jobStatus_raises rfl
  obtain ⟨⟨response, returned, -⟩, -⟩ := (always completedDb "j1" rfl).1
  rw [raises] at returned
  cases returned

end Onramp.ReadRoutes
