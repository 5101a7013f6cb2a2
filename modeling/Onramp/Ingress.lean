import Onramp.Intake
import Onramp.Staging

/-!
The two ingress routes statement by statement, for any number of submissions at a time. A
submission inserts its job or finds the one with the same bytes, commits, and stages and
sends its upload when the job is its own. The unique hashes of the table settle which
submission that is; nothing takes the job back when a later statement raises.
-/
namespace Onramp.Ingress
open Onramp.Python
open Onramp.Models
open Onramp.Database
open Onramp.Tasks
open Onramp.Journey (Block)
open Onramp.Classifier (Bytes)
open Onramp.Intake (RatesheetIngressRequest IntakeJobRequest newJob maxUploadBytes insertJobIfNew)
open Onramp.Staging
open Onramp.Library.Keyed (find_of_mem mem_keys_iff_find)

/-- A parsed request of one of the routes. -/
inductive Request
  | ratesheet (request : RatesheetIngressRequest)
  | intake (request : IntakeJobRequest)

/-- A submission, with the id that is drawn for a new job. -/
structure Submission where
  request : Request
  payload : Bytes
  filename : Option String
  jobId : String
  now : DateTime

def Request.Valid : Request → Prop
  | .ratesheet request => request.Valid
  | .intake request => request.Valid

instance : DecidablePred Request.Valid
  | .ratesheet request => inferInstanceAs (Decidable request.Valid)
  | .intake request => inferInstanceAs (Decidable request.Valid)

/-- The row that the submission inserts. -/
def Submission.job (digest : Bytes → String) (submission : Submission) : OnrampJob :=
  match submission.request with
  | .ratesheet request =>
    newJob digest submission.jobId request.prospectId request.prospectName request.sourceFormatHint.literal
      submission.payload submission.now
  | .intake request =>
    newJob digest submission.jobId request.prospectId request.prospectName "auto" submission.payload submission.now

/-- `INSERT ... ON CONFLICT (input_hash) DO NOTHING RETURNING job_id`. -/
def insertJob (job : OnrampJob) (db : Db) : Raises (Db × Option String) :=
  if db.jobs.any (fun entry => entry.2.inputHash = job.inputHash) then .ok (db, none)
  else if db.hasJob job.jobId then .error (PyExc.mk' .integrityError "duplicate key value")
  else .ok ({ db with jobs := db.jobs ++ [(job.jobId, job)] }, some job.jobId)

/-- `SELECT job_id ... WHERE input_hash = ...`, of which `scalar_one` takes the only row. -/
def selectJobId (inputHash : String) (db : Db) : Raises String :=
  match db.jobs.filter (fun entry => entry.2.inputHash = inputHash) with
  | [] => .error (PyExc.mk' (.other "NoResultFound") "No row was found when one was required")
  | [entry] => .ok entry.1
  | _ => .error (PyExc.mk' (.other "MultipleResultsFound") "Multiple rows were found when exactly one was required")

/-- What a submission is answered with: 202 for a job of its own, 409 for another's. -/
inductive Response
  | accepted (jobId : String)
  | conflict (jobId : String)
  deriving DecidableEq

/-- How far a submission has come: its statement that was the last. -/
inductive Phase
  | received
  | conflicted
  | resolved (jobId : String) (created : Bool)
  | recorded (jobId : String) (created : Bool)
  | committed (jobId : String) (created : Bool)
  | rooted (jobId : String)
  | housed (jobId : String)
  | staged (jobId : String)
  | enqueued (jobId : String)
  | answered (created : Bool) (response : Response)
  | failed (resolution : Option (String × Bool)) (exc : PyExc)

/-- The job that a response names. -/
def Response.jobId : Response → String
  | .accepted jobId => jobId
  | .conflict jobId => jobId

/-- What `insert_job_if_new` has returned to the submission. -/
def Phase.resolution : Phase → Option (String × Bool)
  | .received => none
  | .conflicted => none
  | .resolved jobId created => some (jobId, created)
  | .recorded jobId created => some (jobId, created)
  | .committed jobId created => some (jobId, created)
  | .rooted jobId => some (jobId, true)
  | .housed jobId => some (jobId, true)
  | .staged jobId => some (jobId, true)
  | .enqueued jobId => some (jobId, true)
  | .answered created response => some (response.jobId, created)
  | .failed resolution _ => resolution

structure State where
  db : Db
  fs : FileSystem
  sent : List (String × String)
  submissions : List (Submission × Phase)

/-- What becomes of a chain that is sent to the broker. -/
inductive Delivery
  | accepted
  | refused (exc : PyExc)
  | acceptedThenRaised (exc : PyExc)

/-- A submission arrives, runs its next statement, sends its chain, or is struck by an
    exception. The workers run blocks of the chains, and others use the file system. -/
inductive Event
  | submit (submission : Submission)
  | proceed (i : Nat)
  | send (i : Nat) (delivery : Delivery)
  | raise (i : Nat) (exc : PyExc)
  | worker (jobId : String) (block : Block)
  | files (fs : FileSystem)

/-- The `job_id` in the body of `get_job_status`, which is that of the row where there is one. -/
def namedJob (db : Db) (jobId : String) : String := ((db.getJob jobId).map OnrampJob.jobId).getD jobId

/-- The staging calls leave the file system changed when they raise, too. -/
def afterCall (db : Db) (jobId : String) (call : FileSystem × Raises Unit) (next : Phase) : Db × FileSystem × Phase :=
  match call.2 with
  | .ok () => (db, call.1, next)
  | .error exc => (db, call.1, .failed (some (jobId, true)) exc)

/-- The next statement of `submit_ratesheet` or `submit_intake_job`. -/
def nextStatement (digest : Bytes → String) (submission : Submission) (db : Db) (fs : FileSystem) :
    Phase → Option (Db × FileSystem × Phase)
  | .received =>
    match insertJob (submission.job digest) db with
    | .ok (db', some jobId) => some (db', fs, .resolved jobId true)
    | .ok (_, none) => some (db, fs, .conflicted)
    | .error exc => some (db, fs, .failed none exc)
  | .conflicted =>
    match selectJobId (digest submission.payload) db with
    | .ok jobId => some (db, fs, .resolved jobId false)
    | .error exc => some (db, fs, .failed none exc)
  | .resolved jobId created =>
    match submission.request with
    | .ratesheet _ => some (db, fs, .committed jobId created)
    | .intake request =>
      match enqueueOutboxEvent jobId .auditLog
          (.ingressReceived request.operatorEmail request.priority.literal request.requestedSlackChannel) db with
      | .ok db' => some (db', fs, .recorded jobId created)
      | .error exc => some (db, fs, .failed (some (jobId, created)) exc)
  | .recorded jobId created => some (db, fs, .committed jobId created)
  | .committed jobId true => some (afterCall db jobId (makeDirs fs [] stagingRoot.parts) (.rooted jobId))
  | .committed jobId false => some (db, fs, .answered false (.conflict (namedJob db jobId)))
  | .rooted jobId => some (afterCall db jobId (makeDirs fs [] (jobDir jobId).parts) (.housed jobId))
  | .housed jobId =>
    some (afterCall db jobId (writeBytes (stagingPath jobId submission.filename) submission.payload fs) (.staged jobId))
  | .enqueued jobId =>
    match submission.request with
    | .ratesheet _ => some (db, fs, .answered true (.accepted (namedJob db jobId)))
    | .intake _ => some (db, fs, .answered true (.accepted jobId))
  | .staged _ => none
  | .answered .. => none
  | .failed .. => none

/-- An exception can strike here: not after the end, and not between the insert of a job and
    its commit, since no row is taken back. -/
def Phase.strikable : Phase → Bool
  | .answered .. => false
  | .failed .. => false
  | .resolved _ created => !created
  | .recorded _ created => !created
  | _ => true

/-- One event. Only requests that are valid reach the statements. -/
def step (env : Env) (digest : Bytes → String) (s : State) : Event → Option State
  | .submit submission =>
    if submission.request.Valid ∧ submission.payload.length ≤ maxUploadBytes then
      some { s with submissions := s.submissions ++ [(submission, .received)] }
    else none
  | .proceed i =>
    match s.submissions[i]? with
    | none => none
    | some (submission, phase) =>
      (nextStatement digest submission s.db s.fs phase).map (fun (db, fs, next) =>
        { s with db, fs, submissions := s.submissions.set i (submission, next) })
  | .send i delivery =>
    match s.submissions[i]? with
    | some (submission, .staged jobId) =>
      let chain := (jobId, (stagingPath jobId submission.filename).str)
      match delivery with
      | .accepted =>
        some { s with sent := s.sent ++ [chain], submissions := s.submissions.set i (submission, .enqueued jobId) }
      | .refused exc =>
        some { s with submissions := s.submissions.set i (submission, .failed (some (jobId, true)) exc) }
      | .acceptedThenRaised exc =>
        some { s with
          sent := s.sent ++ [chain]
          submissions := s.submissions.set i (submission, .failed (some (jobId, true)) exc) }
    | _ => none
  | .raise i exc =>
    match s.submissions[i]? with
    | none => none
    | some (submission, phase) =>
      if phase.strikable then
        some { s with submissions := s.submissions.set i (submission, .failed phase.resolution exc) }
      else none
  | .worker jobId block => if s.db.hasJob jobId then some { s with db := block.apply env jobId s.db } else none
  | .files fs => some { s with fs }

/-- Of every job its key, the id in its row and its hash. Nothing but an insert changes
    them. -/
def jobKeys (db : Db) : List (String × String × String) :=
  db.jobs.map (fun entry => (entry.1, entry.2.jobId, entry.2.inputHash))

/-- The job with this id is the one of these bytes. -/
def Has (db : Db) (jobId inputHash : String) : Prop := (jobId, jobId, inputHash) ∈ jobKeys db

/-- The constraints of the table of jobs. -/
structure Keys (db : Db) : Prop where
  ids : ((jobKeys db).map (fun row => row.1)).Nodup
  hashes : ((jobKeys db).map (fun row => row.2.2)).Nodup
  named : ∀ row ∈ jobKeys db, row.2.1 = row.1

@[simp] theorem jobKeys_setStatus (jobId : String) (status : JobStatusLiteral) (completedAt : Option DateTime) (db : Db) :
    jobKeys (setStatus jobId status completedAt db) = jobKeys db := by
  simp only [jobKeys, setStatus, Library.Keyed.adjust, List.map_map]
  refine List.map_congr_left ?_
  intro entry _
  by_cases same : entry.1 = jobId <;> simp [same]

@[simp] theorem jobKeys_putOutput (jobId : String) (payload : NormalizedRatesheet) (db : Db) :
    jobKeys (putOutput jobId payload db) = jobKeys db := rfl

@[simp] theorem jobKeys_pushOutbox (jobId : String) (eventType : OutboxEventType) (payload : Payload) (db : Db) :
    jobKeys (pushOutbox jobId eventType payload db) = jobKeys db := rfl

@[simp] theorem jobKeys_pushAudit (jobId : String) (action : Stage) (payload : Payload) (db : Db) :
    jobKeys (pushAudit jobId action payload db) = jobKeys db := rfl

@[simp] theorem jobKeys_scoredDb (jobId : String) (entries : List (String × OnrampConformalScore)) (db : Db) :
    jobKeys (Blocks.scoredDb jobId entries db) = jobKeys db := by
  simp [jobKeys]

theorem jobKeys_apply (env : Env) (jobId : String) (block : Block) (db : Db) :
    jobKeys (block.apply env jobId db) = jobKeys db := by
  cases block <;>
    simp [Block.apply, Blocks.classifiedDb, Blocks.extractedDb, Blocks.normalizedDb, Blocks.validatedDb, Blocks.failureDb]

theorem hash_unique {db : Db} (keys : Keys db) {jobId other inputHash : String} (one : Has db jobId inputHash)
    (two : Has db other inputHash) : jobId = other := by
  have same := List.inj_on_of_nodup_map keys.hashes one two rfl
  exact congrArg (fun row => row.1) same

theorem id_unique {db : Db} (keys : Keys db) {jobId inputHash other : String} (one : Has db jobId inputHash)
    (two : Has db jobId other) : inputHash = other := by
  have same := List.inj_on_of_nodup_map keys.ids one two rfl
  exact congrArg (fun row => row.2.2) same

theorem keys_eq_ids (db : Db) : Library.Keyed.keys db.jobs = (jobKeys db).map (fun row => row.1) := by
  simp [Library.Keyed.keys, jobKeys]

theorem getJob_of_has {db : Db} (keys : Keys db) {jobId inputHash : String} (has : Has db jobId inputHash) :
    ∃ job, db.getJob jobId = some job ∧ job.jobId = jobId ∧ job.inputHash = inputHash := by
  obtain ⟨⟨key, job⟩, inside, same⟩ := List.mem_map.mp has
  simp only [Prod.mk.injEq] at same
  obtain ⟨rfl, named, hashed⟩ := same
  exact ⟨job, find_of_mem (keys_eq_ids db ▸ keys.ids) inside, named, hashed⟩

theorem hasJob_iff (db : Db) (jobId : String) : db.hasJob jobId = true ↔ jobId ∈ (jobKeys db).map (fun row => row.1) := by
  rw [Db.hasJob, ← mem_keys_iff_find, keys_eq_ids]

theorem namedJob_of_has {db : Db} (keys : Keys db) {jobId inputHash : String} (has : Has db jobId inputHash) :
    namedJob db jobId = jobId := by
  obtain ⟨job, found, named, -⟩ := getJob_of_has keys has
  simp [namedJob, found, named]

/-- The hash is that of a job. -/
def Known (db : Db) (inputHash : String) : Prop := ∃ jobId, Has db jobId inputHash

theorem known_iff {db : Db} (keys : Keys db) (inputHash : String) :
    Known db inputHash ↔ ∃ entry ∈ db.jobs, entry.2.inputHash = inputHash := by
  constructor
  · rintro ⟨jobId, has⟩
    obtain ⟨entry, inside, same⟩ := List.mem_map.mp has
    exact ⟨entry, inside, congrArg (fun row => row.2.2) same⟩
  · rintro ⟨entry, inside, rfl⟩
    have row : (entry.1, entry.2.jobId, entry.2.inputHash) ∈ jobKeys db := List.mem_map_of_mem inside
    have named : entry.2.jobId = entry.1 := keys.named _ row
    rw [named] at row
    exact ⟨entry.1, row⟩

/-- The insert finds its bytes, fails on a foreign id, or adds the row. -/
theorem insertJob_cases {db : Db} (keys : Keys db) (job : OnrampJob) :
    (Known db job.inputHash ∧ insertJob job db = .ok (db, none)) ∨
      (¬ Known db job.inputHash ∧ ∃ exc, insertJob job db = .error exc) ∨
      (¬ Known db job.inputHash ∧ db.hasJob job.jobId = false ∧ ∃ db', insertJob job db = .ok (db', some job.jobId) ∧
        jobKeys db' = jobKeys db ++ [(job.jobId, job.jobId, job.inputHash)]) := by
  unfold insertJob
  by_cases known : Known db job.inputHash
  · have found : db.jobs.any (fun entry => entry.2.inputHash = job.inputHash) = true := by
      obtain ⟨entry, inside, same⟩ := (known_iff keys _).mp known
      exact List.any_eq_true.mpr ⟨entry, inside, by simpa using same⟩
    exact Or.inl ⟨known, by rw [if_pos found]⟩
  · have missing : ¬ db.jobs.any (fun entry => entry.2.inputHash = job.inputHash) = true := by
      intro found
      obtain ⟨entry, inside, same⟩ := List.any_eq_true.mp found
      exact known ((known_iff keys _).mpr ⟨entry, inside, by simpa using same⟩)
    rw [if_neg missing]
    cases present : db.hasJob job.jobId with
    | true => exact Or.inr (Or.inl ⟨known, _, rfl⟩)
    | false => exact Or.inr (Or.inr ⟨known, rfl, _, rfl, by simp [jobKeys]⟩)

theorem selectJobId_of_has {db : Db} (keys : Keys db) {jobId inputHash : String} (has : Has db jobId inputHash) :
    selectJobId inputHash db = .ok jobId := by
  obtain ⟨entry, inside, same⟩ := List.mem_map.mp has
  simp only [Prod.mk.injEq] at same
  obtain ⟨rfl, -, hashed⟩ := same
  have distinct : ((db.jobs.filter (fun entry => entry.2.inputHash = inputHash)).map
      (fun entry => entry.2.inputHash)).Nodup := by
    have all : (db.jobs.map (fun entry => entry.2.inputHash)).Nodup := by
      have hashes := keys.hashes
      rw [jobKeys, List.map_map] at hashes
      exact hashes
    exact all.sublist (List.filter_sublist.map _)
  have chosen : entry ∈ db.jobs.filter (fun entry => entry.2.inputHash = inputHash) :=
    List.mem_filter.mpr ⟨inside, by simpa using hashed⟩
  unfold selectJobId
  cases found : db.jobs.filter (fun entry => entry.2.inputHash = inputHash) with
  | nil =>
    rw [found] at chosen
    cases chosen
  | cons first rest =>
    have hashOf : ∀ other ∈ first :: rest, other.2.inputHash = inputHash := by
      intro other among
      rw [← found] at among
      simpa using (List.mem_filter.mp among).2
    cases rest with
    | nil =>
      rw [found] at chosen
      rw [List.mem_singleton.mp chosen]
    | cons second others =>
      rw [found] at distinct
      have twice : first.2.inputHash = second.2.inputHash := by
        rw [hashOf first (by simp), hashOf second (by simp)]
      simp [twice] at distinct

/-- Run in one go, the two statements are `insert_job_if_new`. -/
theorem insertJobIfNew_statements {db : Db} (keys : Keys db) (job : OnrampJob) :
    insertJobIfNew job db = (do
      let (db', returned) ← insertJob job db
      match returned with
      | some jobId => return (db', jobId, true)
      | none =>
        let found ← selectJobId job.inputHash db'
        return (db', found, false)) := by
  unfold insertJobIfNew
  cases found : db.jobs.find? (fun entry => entry.2.inputHash = job.inputHash) with
  | none =>
    have missing : db.jobs.any (fun entry => entry.2.inputHash = job.inputHash) = false := by
      rw [List.any_eq_false]
      exact fun entry inside => List.find?_eq_none.mp found entry inside
    cases present : db.hasJob job.jobId <;>
      simp [insertJob, missing, present, bind, Except.bind, pure, Except.pure]
  | some existing =>
    have inside := List.mem_of_find?_eq_some found
    have hashed : existing.2.inputHash = job.inputHash := by simpa using List.find?_some found
    have there : db.jobs.any (fun entry => entry.2.inputHash = job.inputHash) = true :=
      List.any_eq_true.mpr ⟨existing, inside, by simpa using hashed⟩
    have row : (existing.1, existing.2.jobId, existing.2.inputHash) ∈ jobKeys db := List.mem_map_of_mem inside
    have named : existing.2.jobId = existing.1 := keys.named _ row
    rw [named, hashed] at row
    simp [insertJob, there, selectJobId_of_has keys row, bind, Except.bind, pure, Except.pure]

end Onramp.Ingress
