import Onramp.Library.Runs
import Onramp.Settlement

/-!
The two routes that take submissions, next to everything else that writes to the outbox:
a job is created by the first submission of some bytes, the intake route records the
channel of every submission in the outbox, and Stage 4 reads the channel of a job back
from these records.
-/
namespace Onramp.Intake
open Onramp.Python
open Onramp.Models
open Onramp.Database
open Onramp.Tasks
open Onramp.Journey
open Onramp.Classifier (Bytes)
open Onramp.LaneAccounting (sampleEnv sampleNow)
open Onramp.Library.Runs

inductive SourceFormatHint
  | excel | csv | edifact | email | auto
  deriving DecidableEq

/-- The text of the literal. -/
def SourceFormatHint.literal : SourceFormatHint → String
  | .excel => "excel"
  | .csv => "csv"
  | .edifact => "edifact"
  | .email => "email"
  | .auto => "auto"

structure RatesheetIngressRequest where
  prospectId : String
  prospectName : String
  sourceFormatHint : SourceFormatHint
  requestingUserSlackId : String
  callbackChannel : String

/-- `IntakeJobRequest.priority`. -/
inductive Priority
  | normal | rush
  deriving DecidableEq

/-- The text of the literal. -/
def Priority.literal : Priority → String
  | .normal => "normal"
  | .rush => "rush"

structure IntakeJobRequest where
  prospectId : String
  prospectName : String
  operatorEmail : String
  requestedSlackChannel : String
  priority : Priority

def RatesheetIngressRequest.Valid (request : RatesheetIngressRequest) : Prop :=
  lengthWithin 3 64 request.prospectId ∧ lengthWithin 2 128 request.prospectName ∧
    lengthWithin 2 64 request.requestingUserSlackId ∧ lengthWithin 2 128 request.callbackChannel

def IntakeJobRequest.Valid (request : IntakeJobRequest) : Prop :=
  lengthWithin 3 64 request.prospectId ∧ lengthWithin 2 128 request.prospectName ∧
    lengthWithin 5 128 request.operatorEmail ∧ lengthWithin 2 128 request.requestedSlackChannel

instance : DecidablePred RatesheetIngressRequest.Valid := fun _ => inferInstanceAs (Decidable (_ ∧ _))
instance : DecidablePred IntakeJobRequest.Valid := fun _ => inferInstanceAs (Decidable (_ ∧ _))

def maxUploadBytes : Nat := 25 * 1024 * 1024

/-- `insert_job_if_new`: the id of the job with this hash, and whether it is new. -/
def insertJobIfNew (job : OnrampJob) (db : Db) : Raises (Db × String × Bool) :=
  match db.jobs.find? (fun entry => entry.2.inputHash = job.inputHash) with
  | some existing => .ok (db, existing.1, false)
  | none =>
    if db.hasJob job.jobId then .error (PyExc.mk' .integrityError "duplicate key value")
    else .ok ({ db with jobs := db.jobs ++ [(job.jobId, job)] }, job.jobId, true)

/-- The row of a new job. -/
def newJob (digest : Bytes → String) (jobId prospectId prospectName sourceFormat : String) (payload : Bytes)
    (now : DateTime) : OnrampJob where
  jobId := jobId
  prospectId := prospectId
  prospectName := prospectName
  status := .pending
  inputHash := digest payload
  sourceFormat := sourceFormat
  createdAt := now
  completedAt := none

/-- The routes that take submissions. -/
inductive Route
  | ratesheet | intake
  deriving DecidableEq

/-- A submission that was answered with 202, when it created its job, or with 409. -/
structure Answer where
  route : Route
  channel : String
  jobId : String
  created : Bool
  deriving DecidableEq

/-- The database and the submissions answered so far. -/
structure State where
  db : Db
  answers : List Answer

/-- What can happen to the database: submissions, with the id that is drawn for a new job,
    and the other writers of the outbox. -/
inductive Event
  | submitRatesheet (request : RatesheetIngressRequest) (payload : Bytes) (jobId : String) (now : DateTime)
  | submitIntakeJob (request : IntakeJobRequest) (payload : Bytes) (jobId : String) (now : DateTime)
  | getResultUrl (jobId : String)
  | postReview (jobId laneId decision operatorEmail : String)
  | worker (jobId : String) (block : Block)

/-- `submit_ratesheet`, after its request is parsed. -/
def submitRatesheet (digest : Bytes → String) (request : RatesheetIngressRequest) (payload : Bytes) (jobId : String)
    (now : DateTime) (s : State) : Raises State := do
  let (db, resolvedJobId, created) ← insertJobIfNew
    (newJob digest jobId request.prospectId request.prospectName request.sourceFormatHint.literal payload now) s.db
  return { db, answers := s.answers ++ [⟨.ratesheet, request.callbackChannel, resolvedJobId, created⟩] }

/-- `submit_intake_job`, after its request is parsed. -/
def submitIntakeJob (digest : Bytes → String) (request : IntakeJobRequest) (payload : Bytes) (jobId : String)
    (now : DateTime) (s : State) : Raises State := do
  let (db, resolvedJobId, created) ← insertJobIfNew
    (newJob digest jobId request.prospectId request.prospectName "auto" payload now) s.db
  let db ← enqueueOutboxEvent resolvedJobId .auditLog
    (.ingressReceived request.operatorEmail request.priority.literal request.requestedSlackChannel) db
  return { db, answers := s.answers ++ [⟨.intake, request.requestedSlackChannel, resolvedJobId, created⟩] }

/-- One event. A request that is not valid is answered with 422, and one whose transaction
    fails with 500; neither changes the state. -/
def step (env : Env) (digest : Bytes → String) (s : State) : Event → Option State
  | .submitRatesheet request payload jobId now =>
    if request.Valid ∧ payload.length ≤ maxUploadBytes then
      some ((submitRatesheet digest request payload jobId now s).toOption.getD s)
    else some s
  | .submitIntakeJob request payload jobId now =>
    if request.Valid ∧ payload.length ≤ maxUploadBytes then
      some ((submitIntakeJob digest request payload jobId now s).toOption.getD s)
    else some s
  | .getResultUrl jobId =>
    if s.db.status jobId = some .completed then
      let blobName := s!"jobs/{jobId}/normalized_ratesheet.json"
      some { s with db := pushOutbox jobId .auditLog (.resultDelivered blobName) s.db }
    else some s
  | .postReview jobId laneId decision operatorEmail =>
    if s.db.hasJob jobId then
      some { s with db := pushOutbox jobId .auditLog (.reviewAcknowledged laneId decision operatorEmail) s.db }
    else some s
  | .worker jobId block =>
    if s.db.hasJob jobId then some { s with db := block.apply env jobId s.db } else none

/-- The state before the first submission. -/
def initial (reference : Ports.Reference) : State where
  db := { jobs := [], outputs := [], outbox := [], nextOutboxId := 1, scores := [], auditLog := [], reference }
  answers := []

/-- The channels of the ingress records of a job, in the order of the rows. -/
def ingressChannels (jobId : String) (rows : List OnrampOutbox) : List String :=
  (rows.filter (fun row => row.jobId = jobId ∧ row.eventType = .auditLog)).filterMap ingressChannel

/-- The channels given in the intake submissions that were answered for a job. -/
def intakeChannels (jobId : String) (answers : List Answer) : List String :=
  (answers.filter (fun answer => answer.jobId = jobId ∧ answer.route = .intake)).map Answer.channel

theorem recover_eq_head (jobId : String) (rows : List OnrampOutbox) :
    recoverRequestedSlackChannel jobId rows = (ingressChannels jobId rows).head? := by
  rw [recoverRequestedSlackChannel, ingressChannels, List.head?_filterMap]

/-- The records of every job are those of its intake submissions. -/
def OnRecord (s : State) : Prop := ∀ jobId, ingressChannels jobId s.db.outbox = intakeChannels jobId s.answers

theorem ingressChannels_append (jobId : String) (front back : List OnrampOutbox) :
    ingressChannels jobId (front ++ back) = ingressChannels jobId front ++ ingressChannels jobId back := by
  simp [ingressChannels]

theorem ingressChannels_silent (jobId : String) {rows : List OnrampOutbox}
    (silent : ∀ row ∈ rows, row.eventType = .auditLog → ingressChannel row = none) : ingressChannels jobId rows = [] := by
  rw [ingressChannels, List.filterMap_eq_nil_iff]
  intro row inside
  obtain ⟨member, chosen⟩ := List.mem_filter.mp inside
  exact silent row member (of_decide_eq_true chosen).2

/-- `after` has the outbox of `before` and further rows, none of them an ingress record. -/
def AppendsSilently (before after : Db) : Prop :=
  ∃ rows, after.outbox = before.outbox ++ rows ∧ ∀ row ∈ rows, row.eventType = .auditLog → ingressChannel row = none

theorem AppendsSilently.refl {before after : Db} (same : after.outbox = before.outbox) : AppendsSilently before after :=
  ⟨[], by simp [same], by simp⟩

theorem AppendsSilently.push {before after : Db} (so : AppendsSilently before after) {jobId : String}
    {eventType : OutboxEventType} {payload : Payload}
    (other : eventType = .auditLog → payload.stage ≠ some .ingressReceived) :
    AppendsSilently before (pushOutbox jobId eventType payload after) := by
  obtain ⟨rows, appended, silent⟩ := so
  refine ⟨rows ++ [outboxRow after.nextOutboxId jobId eventType payload], by simp [pushOutbox, appended], ?_⟩
  intro row inside audit
  rcases List.mem_append.mp inside with old | new
  · exact silent row old audit
  · obtain rfl := List.mem_singleton.mp new
    have stage := other audit
    cases payload with
    | ingressReceived email priority channel => exact absurd rfl stage
    | _ => rfl

/-- The rows that a block of the chain appends are not ingress records. -/
theorem Block.apply_outbox (env : Env) (jobId : String) (block : Block) (db : Db) :
    AppendsSilently db (block.apply env jobId db) := by
  cases block with
  | unsupported => exact .refl rfl
  | classified format => exact .refl rfl
  | extracted payload => exact (AppendsSilently.refl rfl).push (by simp [Payload.stage])
  | normalized updated results =>
    have same : (Blocks.scoredDb jobId (Blocks.snapshots results) (putOutput jobId updated db)).outbox = db.outbox := by
      simp
    exact (AppendsSilently.refl same).push (by simp [Payload.stage, Blocks.normalizedPayload])
  | validated result slack =>
    have same : (Blocks.scoredDb jobId (Blocks.calibrated result) (putOutput jobId result.sheet db)).outbox =
        db.outbox := by simp
    have audited : AppendsSilently db (pushOutbox jobId .auditLog (validatedPayload result) _) :=
      (AppendsSilently.refl same).push (by simp [Payload.stage, validatedPayload])
    exact (audited.push (by simp)).push (by simp)
  | failed task exc =>
    refine (AppendsSilently.refl rfl).push ?_
    cases task <;> simp [Payload.stage, failurePayload, Recorder.stage]

theorem insertJobIfNew_outbox {job : OnrampJob} {db db' : Db} {resolvedJobId : String} {created : Bool}
    (inserted : insertJobIfNew job db = .ok (db', resolvedJobId, created)) : db'.outbox = db.outbox := by
  unfold insertJobIfNew at inserted
  split at inserted
  · cases inserted
    rfl
  · split at inserted
    · cases inserted
    · cases inserted
      rfl

theorem submitRatesheet_onRecord {digest : Bytes → String} {request : RatesheetIngressRequest} {payload : Bytes}
    {jobId : String} {now : DateTime} {s next : State} (before : OnRecord s)
    (submitted : submitRatesheet digest request payload jobId now s = .ok next) : OnRecord next := by
  unfold submitRatesheet at submitted
  simp only [bind_eq_ok, pure_eq_ok] at submitted
  obtain ⟨⟨db, resolvedJobId, created⟩, inserted, rfl⟩ := submitted
  intro other
  rw [insertJobIfNew_outbox inserted, before other]
  simp [intakeChannels]

theorem submitIntakeJob_onRecord {digest : Bytes → String} {request : IntakeJobRequest} {payload : Bytes}
    {jobId : String} {now : DateTime} {s next : State} (before : OnRecord s) (valid : request.Valid)
    (submitted : submitIntakeJob digest request payload jobId now s = .ok next) : OnRecord next := by
  have named : request.requestedSlackChannel ≠ "" := by
    intro empty
    have bounds := valid.2.2.2
    rw [empty] at bounds
    simp [lengthWithin] at bounds
  unfold submitIntakeJob at submitted
  simp only [bind_eq_ok, pure_eq_ok] at submitted
  obtain ⟨⟨db, resolvedJobId, created⟩, inserted, db', enqueued, rfl⟩ := submitted
  have appended : db'.outbox = s.db.outbox ++ [outboxRow db.nextOutboxId resolvedJobId .auditLog
      (.ingressReceived request.operatorEmail request.priority.literal request.requestedSlackChannel)] := by
    unfold enqueueOutboxEvent referring at enqueued
    split at enqueued
    · cases enqueued
      rw [← insertJobIfNew_outbox inserted]
      rfl
    · cases enqueued
  intro other
  rw [appended, ingressChannels_append, before other]
  by_cases same : resolvedJobId = other <;>
    simp [intakeChannels, ingressChannels, outboxRow, ingressChannel, same, named]

theorem step_onRecord {env : Env} {digest : Bytes → String} {s next : State} {event : Event} (before : OnRecord s)
    (stepped : step env digest s event = some next) : OnRecord next := by
  have silently : ∀ {db : Db}, AppendsSilently s.db db → OnRecord { s with db } := by
    rintro db ⟨rows, appended, silent⟩ jobId
    rw [appended, ingressChannels_append, ingressChannels_silent jobId silent, List.append_nil]
    exact before jobId
  cases event with
  | submitRatesheet request payload jobId now =>
    simp only [step] at stepped
    split at stepped
    · cases submitted : submitRatesheet digest request payload jobId now s with
      | error exc =>
        rw [submitted] at stepped
        cases stepped
        exact before
      | ok after =>
        rw [submitted] at stepped
        cases stepped
        exact submitRatesheet_onRecord before submitted
    · cases stepped
      exact before
  | submitIntakeJob request payload jobId now =>
    simp only [step] at stepped
    split at stepped
    · next accepted =>
      cases submitted : submitIntakeJob digest request payload jobId now s with
      | error exc =>
        rw [submitted] at stepped
        cases stepped
        exact before
      | ok after =>
        rw [submitted] at stepped
        cases stepped
        exact submitIntakeJob_onRecord before accepted.1 submitted
    · cases stepped
      exact before
  | getResultUrl jobId =>
    simp only [step] at stepped
    split at stepped
    · cases stepped
      exact silently ((AppendsSilently.refl rfl).push (by simp [Payload.stage]))
    · cases stepped
      exact before
  | postReview jobId laneId decision operatorEmail =>
    simp only [step] at stepped
    split at stepped
    · cases stepped
      exact silently ((AppendsSilently.refl rfl).push (by simp [Payload.stage]))
    · cases stepped
      exact before
  | worker jobId block =>
    simp only [step] at stepped
    split at stepped
    · cases stepped
      exact silently (Block.apply_outbox env jobId block s.db)
    · cases stepped

/-- The first of a list is the same in every order if and only if there is one and all of
    the list are the same. -/
theorem head_of_every_order (jobId : String) (rows : List OnrampOutbox) (channel : String) :
    (∀ order, order.Perm rows → (ingressChannels jobId order).head? = some channel) ↔
      ingressChannels jobId rows ≠ [] ∧ ∀ other ∈ ingressChannels jobId rows, other = channel := by
  constructor
  · intro every
    refine ⟨?_, ?_⟩
    · intro none
      have first := every rows (.refl rows)
      simp [none] at first
    · intro other inside
      obtain ⟨row, chosen, read⟩ := List.mem_filterMap.mp inside
      obtain ⟨member, picked⟩ := List.mem_filter.mp chosen
      obtain ⟨front, back, rfl⟩ := List.append_of_mem member
      have first := every (row :: (front ++ back)) List.perm_middle.symm
      have leads : (ingressChannels jobId (row :: (front ++ back))).head? = some other := by
        simp [ingressChannels, of_decide_eq_true picked, read]
      exact Option.some.inj (leads.symm.trans first)
  · rintro ⟨some, same⟩ order sorted
    have permuted : (ingressChannels jobId order).Perm (ingressChannels jobId rows) :=
      (sorted.filter _).filterMap _
    cases found : ingressChannels jobId order with
    | nil => exact absurd (found ▸ permuted).nil_eq.symm some
    | cons first rest =>
      rw [List.head?_cons, same first (permuted.subset (found ▸ List.mem_cons_self))]

/-- For every history of submissions and every job that one of them created, Stage 4 reads
    the channel of the creating submission back, in whatever order the rows come, if and only
    if some intake submission was answered for the job and all of them gave that channel. -/
theorem recovers_creators_channel_iff (env : Env) (digest : Bytes → String) (reference : Ports.Reference)
    (events : List Event) (last : State) (reached : run (step env digest) (initial reference) events = some last) :
    ∀ creator ∈ last.answers, creator.created = true →
      ((∀ rows, rows.Perm last.db.outbox → recoverRequestedSlackChannel creator.jobId rows = some creator.channel) ↔
        (∃ answer ∈ last.answers, answer.jobId = creator.jobId ∧ answer.route = .intake) ∧
          ∀ answer ∈ last.answers, answer.jobId = creator.jobId → answer.route = .intake →
            answer.channel = creator.channel) := by
  intro creator _ _
  have record : OnRecord last := by
    refine (invariant_of_run OnRecord (fun _ _ => True) ?_ events (initial reference) ?_ ?_).1 last reached
    · exact fun s event next before _ stepped => step_onRecord before stepped
    · exact fun jobId => rfl
    · exact fun _ _ _ _ => trivial
  simp only [recover_eq_head, head_of_every_order, record creator.jobId]
  refine and_congr ?_ ?_
  · simp [intakeChannels, List.filter_eq_nil_iff]
  · simp only [intakeChannels, List.mem_map, List.mem_filter, decide_eq_true_eq]
    constructor
    · intro all answer inside same intake
      exact all answer.channel ⟨answer, ⟨inside, same, intake⟩, rfl⟩
    · rintro all other ⟨answer, ⟨inside, same, intake⟩, rfl⟩
      exact all answer inside same intake

/-- One submission over the ratesheet route. -/
def ratesheetSubmission : Event :=
  .submitRatesheet ⟨"acme", "Acme Lines", .auto, "U042", "C042"⟩ [80, 75, 3, 4] "j1" sampleNow

/-- The state after it. -/
def ratesheetState : State where
  db := { (initial ⟨[], []⟩).db with jobs := [("j1", newJob (fun _ => "5a4c") "j1" "acme" "Acme Lines" "auto" [80, 75, 3, 4]
    sampleNow)] }
  answers := [⟨.ratesheet, "C042", "j1", true⟩]

theorem ratesheetState_reached :
    run (step sampleEnv (fun _ => "5a4c")) (initial ⟨[], []⟩) [ratesheetSubmission] = some ratesheetState := by
  rfl

theorem recovers_creators_channel_iff_ratesheet :
    (∀ rows, rows.Perm ratesheetState.db.outbox → recoverRequestedSlackChannel "j1" rows = some "C042") ↔
      (∃ answer ∈ ratesheetState.answers, answer.jobId = "j1" ∧ answer.route = .intake) ∧
        ∀ answer ∈ ratesheetState.answers, answer.jobId = "j1" → answer.route = .intake → answer.channel = "C042" :=
  recovers_creators_channel_iff sampleEnv (fun _ => "5a4c") ⟨[], []⟩ [ratesheetSubmission] ratesheetState
    ratesheetState_reached ⟨.ratesheet, "C042", "j1", true⟩ List.mem_cons_self rfl

/-- For a job from the ratesheet route no channel is on record. -/
theorem ratesheet_channel_not_recovered :
    ¬ ∀ (env : Env) (digest : Bytes → String) (reference : Ports.Reference) (events : List Event) (last : State),
      run (step env digest) (initial reference) events = some last →
        ∀ creator ∈ last.answers, creator.created = true → ∀ rows, rows.Perm last.db.outbox →
          recoverRequestedSlackChannel creator.jobId rows = some creator.channel := by
  intro always
  have recovered := always sampleEnv (fun _ => "5a4c") ⟨[], []⟩ [ratesheetSubmission] ratesheetState
    ratesheetState_reached ⟨.ratesheet, "C042", "j1", true⟩ List.mem_cons_self rfl [] (.refl [])
  cases recovered

end Onramp.Intake
