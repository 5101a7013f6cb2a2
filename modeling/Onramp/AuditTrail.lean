import Onramp.Settlement

/-!
The audit trail of the four tasks. Whatever database a task finds and whatever strikes it, it
commits one block at most, and a block that moves the status of a job adds the audit row of
its action. The rejection of a format in Stage 1 is the one block that adds none.
-/
namespace Onramp.AuditTrail
open Onramp.Python
open Onramp.Models
open Onramp.Database
open Onramp.Tasks
open Onramp.Blocks
open Onramp.TaskSpecs
open Onramp.Stage4 (Validated)
open Onramp.Normalizer (ensembleError)
open Onramp.Journey
open Onramp.Library.Keyed (find find_adjust)
open Onramp.Library.Atomic
open Onramp.LaneAccounting (sampleEnv)
open Onramp.Settlement (pendingDb)

/-- The bodies of the four Celery tasks. -/
inductive Body
  | classify
  | extract (fmt : DetectedFormat)
  | normalize
  | validate

def Body.prog (env : Env) (jobId : String) : Body → TaskBody Unit
  | .classify => do
    let _ ← Tasks.classify env jobId
    return ()
  | .extract fmt => Tasks.extract env jobId fmt
  | .normalize => Tasks.normalize env jobId
  | .validate => Tasks.validate env jobId

/-- A worker runs a body for a job, and these exceptions strike. -/
structure Invocation where
  env : Env
  jobId : String
  body : Body
  faults : List (Option PyExc)

def Invocation.perform (t : Trace Db) (invocation : Invocation) : Trace Db :=
  (invocation.body.prog invocation.env invocation.jobId ⟨t, invocation.faults⟩).2.trace

/-- The committed states of the invocations, one after the other, on a database. -/
def performAll (db : Db) (invocations : List Invocation) : Trace Db := invocations.foldl Invocation.perform ⟨db, []⟩

/-- The actions that document a change to the status. -/
def matching : JobStatusLiteral → List Stage
  | .pending => []
  | .extracting => [.classified]
  | .normalizing => [.extracted]
  | .validating => [.normalized]
  | .completed => [.validated]
  | .failed => [.extractFailed, .normalizeFailed, .validateFailed]

/-- Every job whose status `after` has and `before` has not got its audit row in between. -/
def Audited (after before : Db) : Prop :=
  ∀ jobId status, after.status jobId = some status → before.status jobId ≠ some status →
    ∃ rows, after.auditLog = before.auditLog ++ rows ∧ ∃ row ∈ rows, row.jobId = jobId ∧ row.action ∈ matching status

/-- Every failed job was failed at the start, or has a failure on record. -/
def FailuresOnRecord (start db : Db) : Prop :=
  ∀ jobId, db.status jobId = some .failed → start.status jobId = some .failed ∨
    ∃ row ∈ db.auditLog, row.jobId = jobId ∧ row.action ∈ matching .failed

/-- Every committed change of a status is audited by its transaction, and every committed state
    has the failures on record. -/
structure AuditComplete (start : Db) (t : Trace Db) : Prop where
  audited : List.IsChain Audited t.states
  on_record : ∀ db ∈ t.states, FailuresOnRecord start db

/-- Stage 1 rejects no upload of the class for its format. -/
def NoneRejected (uploads : Env → Prop) : Prop :=
  ∀ env, uploads env → ∀ format, classifyOutcome env = .ok format → Supported format.detectedFormat

section
variable (env : Env) (jobId : String)

/-- A rejection comes from a classification. -/
def Offered : Block → Prop
  | .unsupported => ∃ format, classifyOutcome env = .ok format ∧ ¬ Supported format.detectedFormat
  | _ => True

/-- The trace as it was, or with one more block. -/
inductive Grows (t : Trace Db) : Trace Db → Prop
  | stays : Grows t t
  | commits {block : Block} (offered : Offered env block) : Grows t (t.commit (block.apply env jobId t.committed))

/-- A block that a body can commit on a database: what it computes there, or the failure of what it
    raised there. An allowed exception may strike in it. -/
inductive Offers (allowed : PyExc → Prop) (db : Db) : Body → Block → Prop
  | classified {format : ClassifiedFormat} (outcome : classifyOutcome env = .ok format)
      (supported : Supported format.detectedFormat) : Offers allowed db .classify (.classified format)
  | unsupported {format : ClassifiedFormat} (outcome : classifyOutcome env = .ok format)
      (unsupported : ¬ Supported format.detectedFormat) : Offers allowed db .classify .unsupported
  | extracted {fmt : DetectedFormat} {job : OnrampJob} {payload : NormalizedRatesheet} (supported : Supported fmt)
      (found : db.getJob jobId = some job) (outcome : extractPayload env jobId fmt job.prospectId = .ok payload)
      (absent : find jobId db.outputs = none) : Offers allowed db (.extract fmt) (.extracted payload)
  | extractFailed {fmt : DetectedFormat} {job : OnrampJob} {exc : PyExc} (supported : Supported fmt)
      (found : db.getJob jobId = some job)
      (raised : allowed exc ∨ extractPayload env jobId fmt job.prospectId = .error exc)
      (handled : extractHandles exc = true) : Offers allowed db (.extract fmt) (.failed .extract exc)
  | normalized {extraction updated : NormalizedRatesheet} {results : List ConsensusResult}
      (stored : db.getOutput jobId = .ok (some extraction))
      (outcome : normalizeOutcome env db extraction = .ok (updated, results)) :
      Offers allowed db .normalize (.normalized updated results)
  | nothingStored (stored : db.getOutput jobId = .ok none) :
      Offers allowed db .normalize
        (.failed .normalize (ensembleError s!"job {strRepr jobId} has no extraction output to normalize"))
  | normalizeFailed {extraction : NormalizedRatesheet} {exc : PyExc} (stored : db.getOutput jobId = .ok (some extraction))
      (raised : allowed exc ∨ normalizeOutcome env db extraction = .error exc) (handled : normalizeHandles exc = true) :
      Offers allowed db .normalize (.failed .normalize exc)
  | validated {result : Validated} {slack : Payload} (outcome : validateOutcome env jobId db = .ok (result, slack)) :
      Offers allowed db .validate (.validated result slack)
  | validateFailed {exc : PyExc} (raised : allowed exc ∨ validateOutcome env jobId db = .error exc)
      (handled : exc.isException = true) : Offers allowed db .validate (.failed .validate exc)

/-- The trace as it was, or with one block that the body offers. -/
inductive Extends (allowed : PyExc → Prop) (body : Body) (t : Trace Db) : Trace Db → Prop
  | stays : Extends allowed body t t
  | commits {block : Block} (offered : Offers env jobId allowed t.committed body block) :
      Extends allowed body t (t.commit (block.apply env jobId t.committed))

variable {env jobId} {allowed : PyExc → Prop} {t0 : Trace Db} {body : Body}

/-- A transaction that computes an offered block or fails. -/
theorem atomic_extends {statements : List Statement} (block : Block)
    (computes : ∀ after, applyAll statements t0.committed = .ok after →
      Offers env jobId allowed t0.committed body block ∧ after = block.apply env jobId t0.committed) :
    Triple allowed (fun t => t = t0) (atomic statements) (fun _ t => Extends env jobId allowed body t0 t)
      (fun _ t => Extends env jobId allowed body t0 t) := by
  refine Triple.atomic ?_ ?_
  · rintro t rfl after applied
    obtain ⟨offered, rfl⟩ := computes after applied
    exact .commits offered
  · rintro t rfl exc _
    exact .stays

theorem raise_extends {α : Type} {post : α → Trace Db → Prop} (exc : PyExc) :
    Triple allowed (fun t => t = t0) (raise exc : TaskBody α) post (fun _ t => Extends env jobId allowed body t0 t) := by
  refine Triple.raise exc ?_
  rintro t rfl
  exact .stays

theorem failure_computes (task : Recorder) (exc : PyExc) (db after : Db)
    (applied : applyAll
      [updateJobStatus jobId .failed (some env.finishedAt),
        enqueueOutboxEvent jobId .auditLog (failurePayload task.stage exc),
        addAudit jobId task.stage (failurePayload task.stage exc)] db = .ok after) :
    after = (Block.failed task exc).apply env jobId db := by
  cases present : db.hasJob jobId with
  | true =>
    rw [applyAll_failure env jobId task.stage exc present] at applied
    exact (Except.ok.inj applied).symm
  | false => simp [applyAll, updateJobStatus, enqueueOutboxEvent, referring, present] at applied

theorem failWith_extends {α : Type} {post : α → Trace Db → Prop} (task : Recorder) (exc : PyExc)
    (offered : Offers env jobId allowed t0.committed body (.failed task exc)) :
    Triple allowed (fun t => t = t0) (failWith env jobId task.stage exc : TaskBody α) post
      (fun _ t => Extends env jobId allowed body t0 t) := by
  unfold failWith commitFailure
  refine Triple.bind (fun _ t => Extends env jobId allowed body t0 t)
    (atomic_extends (.failed task exc) (fun after applied => ⟨offered, failure_computes task exc _ after applied⟩))
    (fun _ => Triple.raise exc ?_)
  exact fun t extended => extended

/-- `try` around a program that leaves the trace alone when it raises. -/
theorem catching_extends {α : Type} {handles : PyExc → Bool} {p : TaskBody α} {post : α → Trace Db → Prop} (task : Recorder)
    (why : PyExc → Prop) (inner : Triple allowed (fun t => t = t0) p post (fun exc t => t = t0 ∧ why exc))
    (offered : ∀ exc, why exc → handles exc = true → Offers env jobId allowed t0.committed body (.failed task exc)) :
    Triple allowed (fun t => t = t0) (catching handles p (failWith env jobId task.stage)) post
      (fun _ t => Extends env jobId allowed body t0 t) := by
  refine Triple.catching (fun exc t => t = t0 ∧ why exc) inner ?_ ?_
  · intro exc handled
    exact Triple.given (fun reason => failWith_extends task exc (offered exc reason handled))
  · rintro exc _ t ⟨rfl, _⟩
    exact .stays

theorem classify_extends :
    Triple allowed (fun t => t = t0) (Tasks.classify env jobId) (fun _ t => Extends env jobId allowed .classify t0 t)
      (fun _ t => Extends env jobId allowed .classify t0 t) := by
  unfold Tasks.classify
  refine Triple.point_then (fun _ _ => .stays) (Triple.lift_then (fun _ _ => .stays) (fun payload read =>
    Triple.lift_then (fun _ _ => .stays) (fun classified outcome => ?_)))
  have computed : classifyOutcome env = .ok classified := bind_eq_ok.mpr ⟨payload, read, outcome⟩
  by_cases listed : classified.detectedFormat ∈ [DetectedFormat.excel, .edifact]
  · have supported : Supported classified.detectedFormat := by simpa [Supported] using listed
    rw [if_neg (not_not.mpr listed)]
    refine Triple.bind (fun _ t => Extends env jobId allowed .classify t0 t)
      (atomic_extends (.classified classified) ?_) (fun _ => Triple.pure _ (fun t extended => extended))
    intro after applied
    refine ⟨.classified computed supported, ?_⟩
    cases present : t0.committed.hasJob jobId with
    | true =>
      rw [applyAll_classified jobId classified present] at applied
      exact (Except.ok.inj applied).symm
    | false => simp [classifiedBlock, applyAll, updateJobStatus, addAudit, referring, present] at applied
  · rw [if_pos listed]
    have unsupported : ¬ Supported classified.detectedFormat := by simpa [Supported] using listed
    refine Triple.bind (fun _ t => Extends env jobId allowed .classify t0 t)
      (atomic_extends .unsupported ?_) (fun _ => Triple.raise _ (fun t extended => extended))
    exact fun after applied => ⟨.unsupported computed unsupported, (Except.ok.inj applied).symm⟩

theorem extract_extends (fmt : DetectedFormat) :
    Triple allowed (fun t => t = t0) (Tasks.extract env jobId fmt)
      (fun _ t => Extends env jobId allowed (.extract fmt) t0 t) (fun _ t => Extends env jobId allowed (.extract fmt) t0 t) := by
  unfold Tasks.extract
  split
  · exact raise_extends _
  next listed =>
  have supported : Supported fmt := by simpa [Supported] using not_not.mp listed
  refine Triple.point_then (fun _ _ => .stays) (Triple.query_then (fun _ _ => .stays) (fun job read => ?_))
  cases job with
  | none => exact raise_extends _
  | some job =>
    have found : t0.committed.getJob jobId = some job := Except.ok.inj read
    refine Triple.bind (fun payload t => t = t0 ∧ extractPayload env jobId fmt job.prospectId = .ok payload)
      (catching_extends .extract (fun exc => allowed exc ∨ extractPayload env jobId fmt job.prospectId = .error exc)
        ?_ (fun exc raised handled => .extractFailed supported found raised handled)) (fun payload => ?_)
    · refine Triple.point_then (fun exc struck => ⟨rfl, .inl struck⟩) ?_
      exact Triple.lift (fun payload outcome t start => ⟨start, outcome⟩) (fun exc raised t start => ⟨start, .inr raised⟩)
    · refine Triple.given (fun outcome => Triple.point_then (fun _ _ => .stays) (atomic_extends (.extracted payload) ?_))
      intro after applied
      cases stored : find jobId t0.committed.outputs with
      | some row => simp [extractedBlock, applyAll, insertOutput, stored] at applied
      | none =>
        rw [applyAll_extracted jobId payload (hasJob_of_getJob found) stored] at applied
        exact ⟨.extracted supported found outcome stored, (Except.ok.inj applied).symm⟩

theorem normalize_extends :
    Triple allowed (fun t => t = t0) (Tasks.normalize env jobId) (fun _ t => Extends env jobId allowed .normalize t0 t)
      (fun _ t => Extends env jobId allowed .normalize t0 t) := by
  unfold Tasks.normalize
  refine Triple.point_then (fun _ _ => .stays) (Triple.query_then (fun _ _ => .stays) (fun output stored => ?_))
  cases output with
  | none => exact failWith_extends .normalize _ (.nothingStored stored)
  | some extraction =>
    refine Triple.bind (fun parts t => t = t0 ∧ normalizeOutcome env t0.committed extraction = .ok parts)
      (catching_extends .normalize (fun exc => allowed exc ∨ normalizeOutcome env t0.committed extraction = .error exc)
        ?_ (fun exc raised handled => .normalizeFailed stored raised handled)) (fun parts => ?_)
    · refine Triple.point_then (fun exc struck => ⟨rfl, .inl struck⟩)
        (Triple.query_then (fun exc failed => by cases failed) (fun reference read => ?_))
      obtain rfl : reference = t0.committed.reference := (Except.ok.inj read).symm
      exact Triple.lift (fun parts outcome t start => ⟨start, outcome⟩) (fun exc raised t start => ⟨start, .inr raised⟩)
    · obtain ⟨updated, results⟩ := parts
      refine Triple.given (fun outcome => Triple.point_then (fun _ _ => .stays) (atomic_extends (.normalized updated results) ?_))
      intro after applied
      refine ⟨.normalized stored outcome, ?_⟩
      cases present : t0.committed.hasJob jobId with
      | true =>
        rw [applyAll_normalized jobId updated results present] at applied
        exact (Except.ok.inj applied).symm
      | false => simp [normalizedBlock, applyAll, upsertOutput, referring, present] at applied

theorem validate_extends :
    Triple allowed (fun t => t = t0) (Tasks.validate env jobId) (fun _ t => Extends env jobId allowed .validate t0 t)
      (fun _ t => Extends env jobId allowed .validate t0 t) := by
  refine catching_extends .validate _ (Triple.weaken (validateBody_spec env jobId) (fun _ start => start) ?_
    (fun _ _ failed => failed)) (fun exc raised handled => .validateFailed raised handled)
  rintro _ t ⟨result, slack, outcome, rfl⟩
  have offered : Offers env jobId allowed t0.committed .validate (.validated result slack) := .validated outcome
  exact .commits offered

theorem Body.prog_extends (body : Body) (allowed : PyExc → Prop) :
    Triple allowed (fun t => t = t0) (body.prog env jobId) (fun _ t => Extends env jobId allowed body t0 t)
      (fun _ t => Extends env jobId allowed body t0 t) := by
  cases body with
  | classify => exact Triple.bind _ classify_extends (fun _ => Triple.pure _ (fun _ extended => extended))
  | extract fmt => exact extract_extends fmt
  | normalize => exact normalize_extends
  | validate => exact validate_extends

end

/-- The exceptions that strike in the invocation. -/
def Invocation.strikes (invocation : Invocation) (exc : PyExc) : Prop := some exc ∈ invocation.faults

/-- An invocation leaves the trace as it is, or commits one block that its body offers. -/
theorem perform_extends (t : Trace Db) (invocation : Invocation) :
    Extends invocation.env invocation.jobId invocation.strikes invocation.body t (invocation.perform t) := by
  obtain ⟨-, reached⟩ := invocation.body.prog_extends invocation.strikes ⟨t, invocation.faults⟩
    (fun _ struck => struck) rfl
  split at reached
  · exact reached
  · exact reached

theorem perform_grows (t : Trace Db) (invocation : Invocation) :
    Grows invocation.env invocation.jobId t (invocation.perform t) := by
  have extended := perform_extends t invocation
  generalize invocation.perform t = after at extended ⊢
  obtain ⟨env, jobId, body, faults⟩ := invocation
  cases extended with
  | stays => exact .stays
  | commits offered =>
    refine .commits ?_
    cases offered with
    | unsupported outcome unsupported => exact ⟨_, outcome, unsupported⟩
    | _ => trivial

/-- What a committed block keeps holds in every state of a run. -/
theorem performAll_invariant {holds : Db → Prop} {db : Db} (invocations : List Invocation) (start : holds db)
    (step : ∀ invocation ∈ invocations, ∀ before block, holds before →
      Offers invocation.env invocation.jobId invocation.strikes before invocation.body block →
        holds (block.apply invocation.env invocation.jobId before)) :
    ∀ reached ∈ (performAll db invocations).states, holds reached := by
  have run : ∀ (rest : List Invocation) (t : Trace Db), (∀ invocation ∈ rest, invocation ∈ invocations) →
      (∀ reached ∈ t.states, holds reached) → ∀ reached ∈ (rest.foldl Invocation.perform t).states, holds reached := by
    intro rest
    induction rest with
    | nil => exact fun t _ kept => kept
    | cons invocation rest ih =>
      intro t listed kept
      obtain ⟨here, later⟩ := List.forall_mem_cons.mp listed
      refine ih _ later ?_
      have extended := perform_extends t invocation
      generalize invocation.perform t = after at extended ⊢
      cases extended with
      | stays => exact kept
      | commits offered =>
        rw [Trace.commit_states]
        exact List.forall_mem_cons.mpr ⟨step invocation here _ _ (kept _ List.mem_cons_self) offered, kept⟩
  refine run invocations ⟨db, []⟩ (fun _ inside => inside) ?_
  intro reached inside
  rw [List.mem_singleton.mp inside]
  exact start

/-! ### What a block changes -/

section
variable {env : Env} {jobId other : String} {db : Db} {block : Block}

theorem apply_status_other (differs : other ≠ jobId) : (block.apply env jobId db).status other = db.status other := by
  cases block <;>
    simp [Block.apply, Db.status, classifiedDb, extractedDb, normalizedDb, validatedDb, failureDb, setStatus, find_adjust,
      differs]

theorem apply_auditLog :
    (block.apply env jobId db).auditLog = db.auditLog ++ block.audit.map (fun entry => auditRow jobId entry.1 entry.2) := by
  cases block <;>
    simp [Block.apply, Block.audit, classifiedDb, extractedDb, normalizedDb, validatedDb, failureDb, pushAudit]

theorem status_of_absent (absent : db.hasJob jobId = false) : db.status jobId = none := by
  simpa [Db.hasJob, Db.status] using absent

/-- A block changes the status of its own job only, and to its target. -/
theorem changed_by_block {status : JobStatusLiteral} (now : (block.apply env jobId db).status other = some status)
    (before : db.status other ≠ some status) : other = jobId ∧ db.hasJob jobId = true ∧ status = block.target := by
  by_cases same : other = jobId
  · subst same
    cases present : db.hasJob other with
    | true =>
      rw [Block.apply_status env block present] at now
      exact ⟨rfl, rfl, (Option.some.inj now).symm⟩
    | false =>
      rw [status_of_absent ((Block.apply_hasJob env block other).trans present)] at now
      cases now
  · rw [apply_status_other same] at now
    exact absurd now before

/-- The actions of all blocks but the rejection match their targets. -/
theorem audit_matches (accepted : block ≠ .unsupported) : ∃ entry ∈ block.audit, entry.1 ∈ matching block.target := by
  cases block with
  | unsupported => exact absurd rfl accepted
  | failed task exc =>
    refine ⟨_, List.mem_singleton.mpr rfl, ?_⟩
    cases task <;> simp [matching, Block.target, Recorder.stage]
  | _ => exact ⟨_, List.mem_singleton.mpr rfl, List.mem_singleton.mpr rfl⟩

/-- In any database a block other than the rejection audits what it changes. -/
theorem block_audited (accepted : block ≠ .unsupported) : Audited (block.apply env jobId db) db := by
  intro other status now before
  obtain ⟨rfl, -, rfl⟩ := changed_by_block now before
  obtain ⟨entry, inside, fits⟩ := audit_matches accepted
  exact ⟨_, apply_auditLog, auditRow other entry.1 entry.2, List.mem_map.mpr ⟨entry, inside, rfl⟩, rfl, fits⟩

theorem block_on_record {start : Db} (accepted : block ≠ .unsupported) (before : FailuresOnRecord start db) :
    FailuresOnRecord start (block.apply env jobId db) := by
  intro other failed
  by_cases already : db.status other = some .failed
  · rcases before other already with first | ⟨row, inside, named⟩
    · exact .inl first
    · right
      rw [apply_auditLog]
      exact ⟨row, List.mem_append_left _ inside, named⟩
  · obtain ⟨rows, grown, row, inside, named⟩ := block_audited accepted other .failed failed already
    right
    rw [grown]
    exact ⟨row, List.mem_append_right _ inside, named⟩

theorem AuditComplete.commit {start : Db} {t : Trace Db} (complete : AuditComplete start t) (accepted : block ≠ .unsupported) :
    AuditComplete start (t.commit (block.apply env jobId t.committed)) := by
  refine ⟨?_, ?_⟩
  · rw [Trace.commit_states]
    exact List.IsChain.cons_cons (block_audited accepted) complete.audited
  · intro db inside
    rcases List.mem_cons.mp inside with rfl | old
    · exact block_on_record accepted (complete.on_record t.committed List.mem_cons_self)
    · exact complete.on_record db old

end

theorem perform_complete {uploads : Env → Prop} (none_rejected : NoneRejected uploads) {start : Db} {t : Trace Db}
    (complete : AuditComplete start t) {invocation : Invocation} (listed : uploads invocation.env) :
    AuditComplete start (invocation.perform t) := by
  have grows := perform_grows t invocation
  generalize invocation.perform t = grown at grows ⊢
  cases grows with
  | stays => exact complete
  | @commits block offered =>
    refine complete.commit ?_
    rintro rfl
    obtain ⟨format, outcome, unsupported⟩ := offered
    exact unsupported (none_rejected invocation.env listed format outcome)

/-- Nothing strikes, and Stage 1 rejects the format of a pending job. -/
theorem rejection_commits {env : Env} {format : ClassifiedFormat} (outcome : classifyOutcome env = .ok format)
    (unsupported : ¬ Supported format.detectedFormat) :
    (performAll pendingDb [⟨env, "j1", .classify, []⟩]).committed = setStatus "j1" .failed (some env.finishedAt) pendingDb := by
  have present : (⟨pendingDb, []⟩ : Trace Db).committed.hasJob "j1" = true := rfl
  have rejected : Triple (fun _ => False) (fun t => t = ⟨pendingDb, []⟩) (Body.classify.prog env "j1") (fun _ _ => False)
      (fun _ t => t.committed = setStatus "j1" .failed (some env.finishedAt) pendingDb) := by
    refine Triple.bind (fun _ _ => False) (Triple.weaken (classify_spec env "j1" present) (fun _ start => start) ?_ ?_)
      (fun _ => Triple.pure _ (fun _ never => never))
    · rintro fmt t ⟨other, computed, rfl, supported, _⟩
      rw [outcome] at computed
      cases computed
      exact unsupported supported
    · rintro exc t (⟨_, fault | raised⟩ | ⟨other, _, _, rfl⟩)
      · exact fault.elim
      · rw [outcome] at raised
        cases raised
      · rfl
  obtain ⟨-, reached⟩ := rejected ⟨⟨pendingDb, []⟩, []⟩ (fun _ inside => by cases inside) rfl
  split at reached
  · exact reached.elim
  · exact reached

theorem rejection_unaudited {env : Env} {format : ClassifiedFormat} (outcome : classifyOutcome env = .ok format)
    (unsupported : ¬ Supported format.detectedFormat) :
    ¬ AuditComplete pendingDb (performAll pendingDb [⟨env, "j1", .classify, []⟩]) := by
  intro complete
  have recorded := complete.on_record _ List.mem_cons_self "j1"
  rw [rejection_commits outcome unsupported] at recorded
  rcases recorded rfl with first | ⟨row, inside, _⟩
  · cases first
  · cases inside

/-- All runs of the task bodies on uploads of a class, whatever strikes them, audit every change
    of a status if and only if Stage 1 rejects none of the uploads for its format. -/
theorem audit_complete_iff (uploads : Env → Prop) :
    (∀ (db : Db) (invocations : List Invocation), (∀ invocation ∈ invocations, uploads invocation.env) →
      AuditComplete db (performAll db invocations)) ↔ NoneRejected uploads := by
  constructor
  · intro every env listed format outcome
    by_contra unsupported
    refine rejection_unaudited outcome unsupported (every pendingDb [⟨env, "j1", .classify, []⟩] ?_)
    intro invocation inside
    rw [List.mem_singleton.mp inside]
    exact listed
  · intro none_rejected db invocations listed
    have start : AuditComplete db ⟨db, []⟩ := by
      refine ⟨List.IsChain.singleton db, ?_⟩
      intro db' inside jobId failed
      rw [List.mem_singleton.mp inside] at failed
      exact .inl failed
    unfold performAll
    generalize (⟨db, []⟩ : Trace Db) = t at start ⊢
    induction invocations generalizing t with
    | nil => exact start
    | cons invocation rest ih =>
      refine ih (fun other inside => listed other (List.mem_cons_of_mem _ inside)) _ ?_
      exact perform_complete none_rejected start (listed invocation List.mem_cons_self)

/-- An empty `rates.xlsx` is in no supported format. -/
theorem sampleEnv_rejected : ∃ format, classifyOutcome sampleEnv = .ok format ∧ ¬ Supported format.detectedFormat := by
  have uncertain : (classifyOutcome sampleEnv).toOption.map ClassifiedFormat.detectedFormat = some .uncertain := by decide
  cases outcome : classifyOutcome sampleEnv with
  | error exc => simp [outcome, Except.toOption] at uncertain
  | ok format =>
    have detected : format.detectedFormat = .uncertain := by simpa [outcome, Except.toOption] using uncertain
    exact ⟨format, rfl, by simp [Supported, detected]⟩

/-- Stage 1 fails the job of an empty `rates.xlsx` and leaves no audit row. -/
theorem rejection_leaves_no_audit_row :
    ¬ ∀ (db : Db) (invocations : List Invocation), AuditComplete db (performAll db invocations) := by
  intro always
  obtain ⟨format, outcome, unsupported⟩ := sampleEnv_rejected
  exact rejection_unaudited outcome unsupported (always pendingDb [⟨sampleEnv, "j1", .classify, []⟩])

end Onramp.AuditTrail
