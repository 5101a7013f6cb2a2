import Onramp.TaskSpecs

/-!
The runs of the chain for one job. A block is a transaction that the chain can commit,
with the rows of the job that it writes, and the blocks follow each other in the order
of the status machine. Whatever strikes, a run ends after whole blocks in that order.
-/
namespace Onramp.Journey
open Onramp.Python
open Onramp.Models
open Onramp.Database
open Onramp.Stage4
open Onramp.Tasks
open Onramp.Blocks
open Onramp.TaskSpecs
open Onramp.Library.Keyed (find find_adjust lastOf)
open Onramp.Library.Atomic

/-- The tasks that record their failures. -/
inductive Recorder
  | extract | normalize | validate
  deriving DecidableEq

/-- The stage that a failure record names. -/
def Recorder.stage : Recorder → Stage
  | .extract => .extractFailed
  | .normalize => .normalizeFailed
  | .validate => .validateFailed

/-- The status of a job while the task works on it. -/
def Recorder.status : Recorder → JobStatusLiteral
  | .extract => .extracting
  | .normalize => .normalizing
  | .validate => .validating

/-- A transaction that the chain can commit. -/
inductive Block
  | unsupported
  | classified (format : ClassifiedFormat)
  | extracted (payload : NormalizedRatesheet)
  | normalized (updated : NormalizedRatesheet) (results : List ConsensusResult)
  | validated (result : Validated) (slack : Payload)
  | failed (task : Recorder) (exc : PyExc)

/-- The status of the job before the block. -/
def Block.source : Block → JobStatusLiteral
  | .unsupported => .pending
  | .classified _ => .pending
  | .extracted _ => .extracting
  | .normalized _ _ => .normalizing
  | .validated _ _ => .validating
  | .failed task _ => task.status

/-- The status that the block moves the job to. -/
def Block.target : Block → JobStatusLiteral
  | .unsupported => .failed
  | .classified _ => .extracting
  | .extracted _ => .normalizing
  | .normalized _ _ => .validating
  | .validated _ _ => .completed
  | .failed _ _ => .failed

/-- The payload that the block stores as the output of the job. -/
def Block.output : Block → Option NormalizedRatesheet
  | .extracted payload => some payload
  | .normalized updated _ => some updated
  | .validated result _ => some result.sheet
  | _ => none

/-- The score rows that the block upserts, under their lane ids. -/
def Block.scores : Block → List (String × OnrampConformalScore)
  | .normalized _ results => snapshots results
  | .validated result _ => calibrated result
  | _ => []

/-- The audit row that the block adds. -/
def Block.audit : Block → List (Stage × Payload)
  | .unsupported => []
  | .classified format => [(.classified, .classified format.detectedFormat format.confidenceHundredths)]
  | .extracted payload => [(.extracted, .extracted payload.lanes.length)]
  | .normalized updated results => [(.normalized, normalizedPayload updated results)]
  | .validated result _ => [(.validated, validatedPayload result)]
  | .failed task exc => [(task.stage, failurePayload task.stage exc)]

variable (env : Env) (jobId : String)

/-- The outbox rows that the block enqueues. -/
def Block.events : Block → List (OutboxEventType × Payload)
  | .unsupported => []
  | .classified _ => []
  | .extracted payload => [(.auditLog, .extracted payload.lanes.length)]
  | .normalized updated results => [(.auditLog, normalizedPayload updated results)]
  | .validated result slack =>
    [(.auditLog, validatedPayload result), (.slackPost, slack), (.uploadResult, uploadPayload env jobId)]
  | .failed task exc => [(.auditLog, failurePayload task.stage exc)]

/-- The database after the block. -/
def Block.apply : Block → Db → Db
  | .unsupported, db => setStatus jobId .failed (some env.finishedAt) db
  | .classified format, db => classifiedDb jobId format db
  | .extracted payload, db => extractedDb jobId payload db
  | .normalized updated results, db => normalizedDb jobId updated results db
  | .validated result slack, db => validatedDb env jobId result slack db
  | .failed task exc, db => failureDb env jobId task.stage exc db

/-- The events of the job in the outbox. -/
def eventsOf (db : Db) : List (OutboxEventType × Payload) :=
  (db.outbox.filter (fun row => row.jobId = jobId)).map (fun row => (row.eventType, row.payload))

/-- The audit rows of the job. -/
def auditOf (db : Db) : List (Stage × Payload) :=
  (db.auditLog.filter (fun row => row.jobId = jobId)).map (fun row => (row.action, row.payload))

variable (db : Db)

@[simp] theorem eventsOf_setStatus (status : JobStatusLiteral) (completedAt : Option DateTime) :
    eventsOf jobId (setStatus jobId status completedAt db) = eventsOf jobId db := rfl

@[simp] theorem eventsOf_putOutput (payload : NormalizedRatesheet) :
    eventsOf jobId (putOutput jobId payload db) = eventsOf jobId db := rfl

@[simp] theorem eventsOf_pushAudit (action : Stage) (event : Payload) :
    eventsOf jobId (pushAudit jobId action event db) = eventsOf jobId db := rfl

@[simp] theorem eventsOf_scoredDb (entries : List (String × OnrampConformalScore)) :
    eventsOf jobId (scoredDb jobId entries db) = eventsOf jobId db := by
  simp [eventsOf]

@[simp] theorem eventsOf_pushOutbox (eventType : OutboxEventType) (event : Payload) :
    eventsOf jobId (pushOutbox jobId eventType event db) = eventsOf jobId db ++ [(eventType, event)] := by
  simp [eventsOf, pushOutbox, outboxRow]

@[simp] theorem auditOf_setStatus (status : JobStatusLiteral) (completedAt : Option DateTime) :
    auditOf jobId (setStatus jobId status completedAt db) = auditOf jobId db := rfl

@[simp] theorem auditOf_putOutput (payload : NormalizedRatesheet) :
    auditOf jobId (putOutput jobId payload db) = auditOf jobId db := rfl

@[simp] theorem auditOf_pushOutbox (eventType : OutboxEventType) (event : Payload) :
    auditOf jobId (pushOutbox jobId eventType event db) = auditOf jobId db := rfl

@[simp] theorem auditOf_scoredDb (entries : List (String × OnrampConformalScore)) :
    auditOf jobId (scoredDb jobId entries db) = auditOf jobId db := by
  simp [auditOf]

@[simp] theorem auditOf_pushAudit (action : Stage) (event : Payload) :
    auditOf jobId (pushAudit jobId action event db) = auditOf jobId db ++ [(action, event)] := by
  simp [auditOf, pushAudit, auditRow]

variable {jobId db}

@[simp] theorem Block.apply_hasJob (block : Block) (other : String) :
    (block.apply env jobId db).hasJob other = db.hasJob other := by
  cases block <;> simp [Block.apply, classifiedDb, extractedDb, normalizedDb, validatedDb, failureDb]

@[simp] theorem status_pushOutbox (eventType : OutboxEventType) (event : Payload) :
    (pushOutbox jobId eventType event db).status jobId = db.status jobId := rfl

@[simp] theorem status_pushAudit (action : Stage) (event : Payload) :
    (pushAudit jobId action event db).status jobId = db.status jobId := rfl

theorem Block.apply_status (block : Block) (present : db.hasJob jobId = true) :
    (block.apply env jobId db).status jobId = some block.target := by
  cases block <;>
    simp [Block.apply, Block.target, classifiedDb, extractedDb, normalizedDb, validatedDb, failureDb, setStatus_status,
      present]

theorem Block.apply_events (block : Block) :
    eventsOf jobId (block.apply env jobId db) = eventsOf jobId db ++ block.events env jobId := by
  cases block <;>
    simp [Block.apply, Block.events, classifiedDb, extractedDb, normalizedDb, validatedDb, failureDb]

theorem Block.apply_audit (block : Block) :
    auditOf jobId (block.apply env jobId db) = auditOf jobId db ++ block.audit := by
  cases block <;>
    simp [Block.apply, Block.audit, classifiedDb, extractedDb, normalizedDb, validatedDb, failureDb]

theorem Block.apply_output (block : Block) :
    find jobId (block.apply env jobId db).outputs = (block.output.map outputRow).or (find jobId db.outputs) := by
  cases block <;>
    simp [Block.apply, Block.output, classifiedDb, extractedDb, normalizedDb, validatedDb, failureDb]

theorem Block.apply_score (block : Block) (laneId : String) :
    find (jobId, laneId) (block.apply env jobId db).scores =
      (lastOf laneId block.scores).or (find (jobId, laneId) db.scores) := by
  cases block with
  | normalized updated results =>
    simp only [Block.apply, Block.scores, normalizedDb, pushAudit_scores, pushOutbox_scores, setStatus_scores]
    exact scoredDb_find jobId _ _ laneId
  | validated result slack =>
    simp only [Block.apply, Block.scores, validatedDb, pushAudit_scores, pushOutbox_scores, setStatus_scores]
    exact scoredDb_find jobId _ _ laneId
  | _ => rfl

/-- The database after the blocks, of which the newest comes first. -/
def replay (env : Env) (jobId : String) (done : List Block) (db : Db) : Db := done.foldr (fun block db => block.apply env jobId db) db

/-- The blocks follow each other in the order of the status machine, and lead to the
    status. -/
inductive Order : List Block → JobStatusLiteral → Prop
  | start : Order [] .pending
  | next {done : List Block} {status : JobStatusLiteral} {block : Block} (before : Order done status)
      (source : block.source = status) : Order (block :: done) block.target

theorem Order.tail {block : Block} {rest : List Block} {status : JobStatusLiteral}
    (order : Order (block :: rest) status) : status = block.target ∧ Order rest block.source := by
  cases order with
  | next before source => exact ⟨rfl, source ▸ before⟩

theorem Order.suffix {done front : List Block} {status : JobStatusLiteral} (order : Order done status)
    (before : front <:+ done) : ∃ earlier, Order front earlier := by
  induction order with
  | start =>
    rw [List.suffix_nil.mp before]
    exact ⟨_, .start⟩
  | next earlier source ih =>
    rcases List.suffix_cons_iff.mp before with rfl | later
    · exact ⟨_, .next earlier source⟩
    · exact ih later

/-- Nothing follows a failure. -/
theorem Order.failed_last {done : List Block} {status : JobStatusLiteral} (order : Order done status) {block : Block}
    (inside : block ∈ done) (failed : block.target = .failed) : ∃ rest, done = block :: rest := by
  induction order with
  | start => cases inside
  | @next done status' block' earlier source ih =>
    rcases List.mem_cons.mp inside with rfl | later
    · exact ⟨done, rfl⟩
    · obtain ⟨rest, rfl⟩ := ih later
      have stopped : block'.source = .failed := source.trans (earlier.tail.1.trans failed)
      cases block' with
      | failed task exc => cases task <;> cases stopped
      | _ => cases stopped

/-- A job as the intake leaves it. -/
structure Fresh (jobId : String) (db : Db) : Prop where
  pending : db.status jobId = some .pending
  output : find jobId db.outputs = none
  score : ∀ laneId, find (jobId, laneId) db.scores = none
  events : ∀ event ∈ eventsOf jobId db, event.1 = .auditLog ∧ event.2.stage = some .ingressReceived
  audit : auditOf jobId db = []

/-- The rows of the job are those at the start with everything that the blocks write. -/
structure Written (jobId : String) (start : Db) (done : List Block) (db : Db) : Prop where
  output : find jobId db.outputs = (done.findSome? Block.output).map outputRow
  score : ∀ laneId, find (jobId, laneId) db.scores = done.findSome? (fun block => lastOf laneId block.scores)
  events : eventsOf jobId db = eventsOf jobId start ++ done.reverse.flatMap (Block.events env jobId)
  audit : auditOf jobId db = done.reverse.flatMap Block.audit

theorem Fresh.hasJob (fresh : Fresh jobId db) : db.hasJob jobId = true := by
  have pending := fresh.pending
  unfold Db.status at pending
  unfold Db.hasJob
  cases found : find jobId db.jobs with
  | none => simp [found] at pending
  | some job => rfl

theorem replay_hasJob (done : List Block) (other : String) :
    (replay env jobId done db).hasJob other = db.hasJob other := by
  induction done with
  | nil => rfl
  | cons block rest ih => exact (Block.apply_hasJob env block other).trans ih

theorem replay_status (fresh : Fresh jobId db) {done : List Block} {status : JobStatusLiteral}
    (order : Order done status) : (replay env jobId done db).status jobId = some status := by
  cases order with
  | start => exact fresh.pending
  | next before source => exact Block.apply_status env _ ((replay_hasJob env _ jobId).trans fresh.hasJob)

theorem replay_written (fresh : Fresh jobId db) (done : List Block) :
    Written env jobId db done (replay env jobId done db) := by
  induction done with
  | nil => exact ⟨fresh.output, fresh.score, by simp [replay], fresh.audit⟩
  | cons block rest ih =>
    have step : replay env jobId (block :: rest) db = block.apply env jobId (replay env jobId rest db) := rfl
    refine ⟨?_, fun laneId => ?_, ?_, ?_⟩
    · rw [step, Block.apply_output, ih.output, List.findSome?_cons]
      cases block.output <;> rfl
    · rw [step, Block.apply_score, ih.score, List.findSome?_cons]
      cases lastOf laneId block.scores <;> rfl
    · rw [step, Block.apply_events, ih.events]
      simp
    · rw [step, Block.apply_audit, ih.audit]
      simp

/-! ### How a run ends -/

section
variable (allowed : PyExc → Prop)

/-- A task stops without a record: a fault strikes, or it raises what it does not handle. -/
def Escapes {α : Type} (handles : PyExc → Bool) (outcome : Raises α) : Prop :=
  ∃ exc, allowed exc ∨ (outcome = .error exc ∧ handles exc = false)

/-- A task records the exception: a fault or one that it raises, and it handles it. -/
def Fails {α : Type} (handles : PyExc → Bool) (outcome : Raises α) (exc : PyExc) : Prop :=
  (allowed exc ∨ outcome = .error exc) ∧ handles exc = true

variable (jobId db) (job : OnrampJob)

/-- The blocks of the tasks that returned, with what each of them computed. -/
inductive Passed : List Block → Prop
  | classified {format : ClassifiedFormat} (outcome : classifyOutcome env = .ok format)
      (supported : Supported format.detectedFormat) : Passed [.classified format]
  | extracted {format : ClassifiedFormat} {payload : NormalizedRatesheet} (before : Passed [.classified format])
      (outcome : extractPayload env jobId format.detectedFormat job.prospectId = .ok payload) :
      Passed [.extracted payload, .classified format]
  | normalized {payload updated : NormalizedRatesheet} {results : List ConsensusResult} {rest : List Block}
      (before : Passed (.extracted payload :: rest))
      (outcome : normalizeOutcome env (replay env jobId (.extracted payload :: rest) db) payload = .ok (updated, results)) :
      Passed (.normalized updated results :: .extracted payload :: rest)
  | validated {updated : NormalizedRatesheet} {results : List ConsensusResult} {result : Validated} {slack : Payload}
      {rest : List Block} (before : Passed (.normalized updated results :: rest))
      (outcome : validateOutcome env jobId (replay env jobId (.normalized updated results :: rest) db) =
        .ok (result, slack)) : Passed (.validated result slack :: .normalized updated results :: rest)

/-- The blocks of a run that has ended, with why it ended there. -/
inductive Ending : List Block → Prop
  | pending (stopped : Escapes allowed (fun _ => false) (classifyOutcome env)) : Ending []
  | unsupported {format : ClassifiedFormat} (outcome : classifyOutcome env = .ok format)
      (unsupported : ¬ Supported format.detectedFormat) : Ending [.unsupported]
  | extracting {format : ClassifiedFormat} (passed : Passed env jobId db job [.classified format])
      (stopped : Escapes allowed extractHandles (extractPayload env jobId format.detectedFormat job.prospectId)) :
      Ending [.classified format]
  | extractFailed {format : ClassifiedFormat} {exc : PyExc} (passed : Passed env jobId db job [.classified format])
      (failed : Fails allowed extractHandles (extractPayload env jobId format.detectedFormat job.prospectId) exc) :
      Ending [.failed .extract exc, .classified format]
  | normalizing {payload : NormalizedRatesheet} {rest : List Block}
      (passed : Passed env jobId db job (.extracted payload :: rest))
      (stopped : Escapes allowed normalizeHandles
        (normalizeOutcome env (replay env jobId (.extracted payload :: rest) db) payload)) :
      Ending (.extracted payload :: rest)
  | normalizeFailed {payload : NormalizedRatesheet} {rest : List Block} {exc : PyExc}
      (passed : Passed env jobId db job (.extracted payload :: rest))
      (failed : Fails allowed normalizeHandles
        (normalizeOutcome env (replay env jobId (.extracted payload :: rest) db) payload) exc) :
      Ending (.failed .normalize exc :: .extracted payload :: rest)
  | validating {updated : NormalizedRatesheet} {results : List ConsensusResult} {rest : List Block}
      (passed : Passed env jobId db job (.normalized updated results :: rest))
      (stopped : Escapes allowed PyExc.isException
        (validateOutcome env jobId (replay env jobId (.normalized updated results :: rest) db))) :
      Ending (.normalized updated results :: rest)
  | validateFailed {updated : NormalizedRatesheet} {results : List ConsensusResult} {rest : List Block} {exc : PyExc}
      (passed : Passed env jobId db job (.normalized updated results :: rest))
      (failed : Fails allowed PyExc.isException
        (validateOutcome env jobId (replay env jobId (.normalized updated results :: rest) db)) exc) :
      Ending (.failed .validate exc :: .normalized updated results :: rest)
  | completed {result : Validated} {slack : Payload} {rest : List Block}
      (passed : Passed env jobId db job (.validated result slack :: rest)) : Ending (.validated result slack :: rest)

/-- The trace of a run that has committed the blocks. -/
def traceOf : List Block → Trace Db
  | [] => ⟨db, []⟩
  | block :: rest => (traceOf rest).commit (block.apply env jobId (traceOf rest).committed)

/-- The run has ended with this trace. -/
def Ends (t : Trace Db) : Prop := ∃ done, Ending env jobId db allowed job done ∧ t = traceOf env jobId db done

end

variable {allowed : PyExc → Prop} {job : OnrampJob}

theorem Passed.order {done : List Block} (passed : Passed env jobId db job done) :
    ∃ status, Order done status := by
  induction passed with
  | classified outcome supported => exact ⟨_, .next .start rfl⟩
  | extracted before outcome ih =>
    obtain ⟨status, order⟩ := ih
    exact ⟨_, .next order order.tail.1.symm⟩
  | normalized before outcome ih =>
    obtain ⟨status, order⟩ := ih
    exact ⟨_, .next order order.tail.1.symm⟩
  | validated before outcome ih =>
    obtain ⟨status, order⟩ := ih
    exact ⟨_, .next order order.tail.1.symm⟩

theorem Ending.order {done : List Block} (ending : Ending env jobId db allowed job done) : ∃ status, Order done status := by
  have follows : ∀ {block first : Block} {rest : List Block}, Passed env jobId db job (first :: rest) →
      block.source = first.target → ∃ status, Order (block :: first :: rest) status := by
    intro block first rest passed source
    obtain ⟨status, order⟩ := passed.order
    exact ⟨_, .next order (source.trans order.tail.1.symm)⟩
  cases ending with
  | pending stopped => exact ⟨_, .start⟩
  | unsupported outcome unsupported => exact ⟨_, .next .start rfl⟩
  | extracting passed stopped => exact passed.order
  | extractFailed passed failed => exact follows passed rfl
  | normalizing passed stopped => exact passed.order
  | normalizeFailed passed failed => exact follows passed rfl
  | validating passed stopped => exact passed.order
  | validateFailed passed failed => exact follows passed rfl
  | completed passed => exact passed.order

@[simp] theorem traceOf_committed (done : List Block) :
    (traceOf env jobId db done).committed = replay env jobId done db := by
  induction done with
  | nil => rfl
  | cons block rest ih => simp [traceOf, replay, ih]

theorem traceOf_states (done : List Block) :
    (traceOf env jobId db done).states = done.tails.map (fun blocks => replay env jobId blocks db) := by
  induction done with
  | nil => rfl
  | cons block rest ih => simp [traceOf, ih, replay]

/-- The payload that Stage 2 returns meets its schema and has no flags yet. -/
theorem extractPayload_valid {fmt : DetectedFormat} {prospectId : String} {payload : NormalizedRatesheet}
    (returned : extractPayload env jobId fmt prospectId = .ok payload) :
    payload.Valid ∧ payload.flaggedForReview = [] := by
  unfold extractPayload at returned
  split at returned
  · split at returned
    · next read =>
      cases returned
      exact Edifact.extractEdifactPayload_valid read
    · cases returned
  · split at returned
    · next read =>
      cases returned
      exact Excel.extractExcelPayload_valid read
    · cases returned

variable (fresh : Fresh jobId db)
include fresh

theorem getOutput_replay {block : Block} {payload : NormalizedRatesheet} (rest : List Block)
    (stores : block.output = some payload) (valid : payload.Valid) :
    (replay env jobId (block :: rest) db).getOutput jobId = .ok (some payload) := by
  have stored := (replay_written env fresh (block :: rest)).output
  rw [List.findSome?_cons, stores] at stored
  unfold Db.getOutput
  rw [stored]
  simp [outputRow, checked_of_valid valid, bind, Except.bind, pure, Except.pure]

theorem classify_ends :
    Triple allowed (fun t => t = traceOf env jobId db []) (classify env jobId)
      (fun fmt t => ∃ format, t = traceOf env jobId db [.classified format] ∧
        (Passed env jobId db job [.classified format] ∧ format.detectedFormat = fmt))
      (fun _ t => Ends env jobId db allowed job t) := by
  refine Triple.weaken (classify_spec env jobId fresh.hasJob) (fun t start => start) ?_ ?_
  · rintro fmt t ⟨format, outcome, rfl, supported, rfl⟩
    exact ⟨format, rfl, .classified outcome supported, rfl⟩
  · rintro exc t (⟨rfl, why⟩ | ⟨format, outcome, unsupported, rfl⟩)
    · exact ⟨[], .pending ⟨exc, why.imp_right (fun raised => ⟨raised, rfl⟩)⟩, rfl⟩
    · exact ⟨[.unsupported], .unsupported outcome unsupported, rfl⟩

theorem extract_ends (found : db.getJob jobId = some job) {format : ClassifiedFormat}
    (passed : Passed env jobId db job [.classified format]) :
    Triple allowed (fun t => t = traceOf env jobId db [.classified format]) (extract env jobId format.detectedFormat)
      (fun _ t => ∃ payload, t = traceOf env jobId db [.extracted payload, .classified format] ∧
        Passed env jobId db job [.extracted payload, .classified format])
      (fun _ t => Ends env jobId db allowed job t) := by
  have supported : Supported format.detectedFormat := by
    cases passed with
    | classified _ supported => exact supported
  have written := replay_written env fresh [.classified format]
  have classified : (traceOf env jobId db [.classified format]).committed.getJob jobId =
      some { job with status := .extracting, completedAt := job.completedAt } := by
    unfold Db.getJob at found ⊢
    simp [replay, Block.apply, classifiedDb, setStatus, find_adjust, found]
  have absent : find jobId (traceOf env jobId db [.classified format]).committed.outputs = none := by
    simpa [Block.output] using written.output
  refine Triple.weaken (extract_spec env jobId supported classified absent) (fun t start => start) ?_ ?_
  · rintro _ t ⟨payload, outcome, rfl⟩
    exact ⟨payload, rfl, .extracted passed outcome⟩
  · rintro exc t (⟨rfl, why⟩ | ⟨recorded, why, handled⟩)
    · exact ⟨_, .extracting passed ⟨exc, why⟩, rfl⟩
    · exact ⟨_, .extractFailed passed ⟨why, handled⟩, recorded⟩

theorem normalize_ends {payload : NormalizedRatesheet} {rest : List Block}
    (passed : Passed env jobId db job (.extracted payload :: rest)) :
    Triple allowed (fun t => t = traceOf env jobId db (.extracted payload :: rest)) (Tasks.normalize env jobId)
      (fun _ t => ∃ updated results,
        t = traceOf env jobId db (.normalized updated results :: .extracted payload :: rest) ∧
          Passed env jobId db job (.normalized updated results :: .extracted payload :: rest))
      (fun _ t => Ends env jobId db allowed job t) := by
  have valid : payload.Valid := by
    cases passed with
    | extracted _ outcome => exact (extractPayload_valid env outcome).1
  have present : (traceOf env jobId db (.extracted payload :: rest)).committed.hasJob jobId = true := by
    rw [traceOf_committed, replay_hasJob, fresh.hasJob]
  have stored : (traceOf env jobId db (.extracted payload :: rest)).committed.getOutput jobId = .ok (some payload) := by
    rw [traceOf_committed]
    exact getOutput_replay env fresh rest rfl valid
  refine Triple.weaken (normalize_spec env jobId present stored) (fun t start => start) ?_ ?_
  · rintro _ t ⟨updated, results, outcome, rfl⟩
    rw [traceOf_committed] at outcome
    exact ⟨updated, results, rfl, .normalized passed outcome⟩
  · rintro exc t (⟨rfl, why⟩ | ⟨recorded, why, handled⟩)
    · rw [traceOf_committed] at why
      exact ⟨_, .normalizing passed ⟨exc, why⟩, rfl⟩
    · rw [traceOf_committed] at why
      exact ⟨_, .normalizeFailed passed ⟨why, handled⟩, recorded⟩

theorem validate_ends {updated : NormalizedRatesheet} {results : List ConsensusResult} {rest : List Block}
    (passed : Passed env jobId db job (.normalized updated results :: rest)) :
    Triple allowed (fun t => t = traceOf env jobId db (.normalized updated results :: rest)) (validate env jobId)
      (fun _ t => Ends env jobId db allowed job t) (fun _ t => Ends env jobId db allowed job t) := by
  have present : (traceOf env jobId db (.normalized updated results :: rest)).committed.hasJob jobId = true := by
    rw [traceOf_committed, replay_hasJob, fresh.hasJob]
  refine Triple.weaken (validate_spec env jobId present) (fun t start => start) ?_ ?_
  · rintro _ t ⟨result, slack, outcome, rfl⟩
    rw [traceOf_committed] at outcome
    exact ⟨_, .completed (.validated passed outcome), rfl⟩
  · rintro exc t (⟨rfl, why⟩ | ⟨recorded, why, handled⟩)
    · rw [traceOf_committed] at why
      exact ⟨_, .validating passed ⟨exc, why⟩, rfl⟩
    · rw [traceOf_committed] at why
      exact ⟨_, .validateFailed passed ⟨why, handled⟩, recorded⟩

/-- Whatever allowed faults strike, a run of the chain of a fresh job ends in one of the
    endings. -/
theorem chain_ends (found : db.getJob jobId = some job) :
    Triple allowed (fun t => t = ⟨db, []⟩) (chain env jobId) (fun _ t => Ends env jobId db allowed job t)
      (fun _ t => Ends env jobId db allowed job t) := by
  unfold chain
  refine Triple.bind _ (classify_ends env fresh) (fun fmt => Triple.exists (fun format => Triple.given ?_))
  rintro ⟨classified, rfl⟩
  refine Triple.point_then (fun e fault => ⟨_, .extracting classified ⟨e, .inl fault⟩, rfl⟩) ?_
  refine Triple.bind _ (extract_ends env fresh found classified) (fun _ =>
    Triple.exists (fun payload => Triple.given ?_))
  intro extracted
  refine Triple.point_then (fun e fault => ⟨_, .normalizing extracted ⟨e, .inl fault⟩, rfl⟩) ?_
  refine Triple.bind _ (normalize_ends env fresh extracted) (fun _ =>
    Triple.exists (fun updated => Triple.exists (fun results => Triple.given ?_)))
  intro normalized
  exact Triple.point_then (fun e fault => ⟨_, .validating normalized ⟨e, .inl fault⟩, rfl⟩) (validate_ends env fresh normalized)

/-- The states that a run of the chain commits, whether it returns or raises. -/
theorem chain_trace_ends (found : db.getJob jobId = some job) {faults : List (Option PyExc)}
    (among : ∀ exc, some exc ∈ faults → allowed exc) :
    Ends env jobId db allowed job (chain env jobId ⟨⟨db, []⟩, faults⟩).2.trace := by
  obtain ⟨-, reached⟩ := chain_ends env fresh found ⟨⟨db, []⟩, faults⟩ among rfl
  split at reached
  · exact reached
  · exact reached

end Onramp.Journey
