import Onramp.AuditTrail

/-!
`update_job_status` writes the new status whatever the old one is. A job that is completed or
failed keeps its status in a run exactly as long as no task that is executed for it gets to a
write of another one.
-/
namespace Onramp.Terminal
open Onramp.Python
open Onramp.Models
open Onramp.Database
open Onramp.Tasks
open Onramp.TaskSpecs
open Onramp.Journey
open Onramp.AuditTrail
open Onramp.Library.Keyed (find)
open Onramp.Library.Atomic
open Onramp.Classifier (classifyFormat xlsxHeader xlsxOpcMarker)
open Onramp.Normalizer (ensembleError)
open Onramp.LaneAccounting (sampleEnv sampleServices)
open Onramp.Settlement (pendingDb)

section
variable {env : Env} {jobId : String} {t : Trace Db}

theorem classifyOutcome_eq_ok {format : ClassifiedFormat} (outcome : classifyOutcome env = .ok format) :
    ∃ payload, env.readBytes = .ok payload ∧
      classifyFormat env.services.platform.lower env.csv payload (pathName env.stagingPath) = .ok format := by
  unfold classifyOutcome at outcome
  exact bind_eq_ok.mp outcome

theorem failWith_quiet {α : Type} (task : Recorder) (exc : PyExc) (present : t.committed.hasJob jobId = true) :
    (failWith env jobId task.stage exc : TaskBody α) ⟨t, []⟩ =
      (.error exc, ⟨t.commit ((Block.failed task exc).apply env jobId t.committed), []⟩) := by
  have committed : commitFailure env jobId task.stage exc ⟨t, []⟩ =
      (.ok (), ⟨t.commit ((Block.failed task exc).apply env jobId t.committed), []⟩) :=
    atomic_quiet (Blocks.applyAll_failure env jobId task.stage exc present)
  unfold failWith
  rw [Prog.bind_ok committed]
  rfl

/-- Stage 4 commits its block, or the record of what it raised. -/
theorem validate_quiet (present : t.committed.hasJob jobId = true) :
    (∀ result slack, validateOutcome env jobId t.committed = .ok (result, slack) →
      (validate env jobId ⟨t, []⟩).2.trace = t.commit ((Block.validated result slack).apply env jobId t.committed)) ∧
    ∀ exc, validateOutcome env jobId t.committed = .error exc → exc.isException = true →
      (validate env jobId ⟨t, []⟩).2.trace = t.commit ((Block.failed .validate exc).apply env jobId t.committed) := by
  have spec : Triple (fun _ => False) (fun t' => t' = t) (validate env jobId) _ _ := validate_spec env jobId present
  obtain ⟨-, reached⟩ := spec ⟨t, []⟩ (fun _ inside => by cases inside) rfl
  refine ⟨fun result slack outcome => ?_, fun exc outcome handled => ?_⟩
  · split at reached
    · obtain ⟨_, _, computed, committed⟩ := reached
      rw [outcome] at computed
      cases computed
      exact committed
    · simp [outcome] at reached
  · split at reached
    · simp [outcome] at reached
    · rcases reached with ⟨-, struck | ⟨raised, unhandled⟩⟩ | ⟨recorded, struck | raised, -⟩
      · exact struck.elim
      · rw [outcome] at raised
        cases raised
        rw [handled] at unhandled
        cases unhandled
      · exact struck.elim
      · rw [outcome] at raised
        cases raised
        exact recorded

/-- When nothing strikes, a body commits the block that it offers. -/
theorem offers_commits {body : Body} {block : Block} (present : t.committed.hasJob jobId = true)
    (offered : Offers env jobId (fun _ => False) t.committed body block) :
    (body.prog env jobId ⟨t, []⟩).2.trace = t.commit (block.apply env jobId t.committed) := by
  cases offered with
  | @classified format outcome supported =>
    obtain ⟨payload, read, classified⟩ := classifyOutcome_eq_ok outcome
    have listed : format.detectedFormat ∈ [DetectedFormat.excel, .edifact] := by simpa [Supported] using supported
    have committed := atomic_quiet (Blocks.applyAll_classified jobId format present)
    simp [Body.prog, Tasks.classify, bind, pure, point, lift, read, classified, listed, committed]
    rfl
  | @unsupported format outcome unsupported =>
    obtain ⟨payload, read, classified⟩ := classifyOutcome_eq_ok outcome
    have unlisted : format.detectedFormat ∉ [DetectedFormat.excel, .edifact] := by simpa [Supported] using unsupported
    have committed : atomic (unsupportedBlock env jobId) ⟨t, []⟩ =
        (.ok (), ⟨t.commit (Block.unsupported.apply env jobId t.committed), []⟩) := atomic_quiet rfl
    simp [Body.prog, Tasks.classify, bind, point, lift, read, classified, unlisted, committed, raise]
  | @extracted fmt job payload supported found outcome absent =>
    have listed : fmt ∈ [DetectedFormat.excel, .edifact] := by simpa [Supported] using supported
    have committed := atomic_quiet (Blocks.applyAll_extracted jobId payload present absent)
    simp [Body.prog, Tasks.extract, bind, point, lift, query, catching, found, outcome, listed, committed]
    rfl
  | @extractFailed fmt job exc supported found raised handled =>
    have listed : fmt ∈ [DetectedFormat.excel, .edifact] := by simpa [Supported] using supported
    have outcome := raised.resolve_left id
    have failed : (failWith env jobId .extractFailed exc : TaskBody NormalizedRatesheet) ⟨t, []⟩ = _ :=
      failWith_quiet .extract exc present
    simp [Body.prog, Tasks.extract, bind, point, lift, query, catching, found, outcome, listed, handled, failed]
  | @normalized extraction updated results stored outcome =>
    have committed := atomic_quiet (Blocks.applyAll_normalized jobId updated results present)
    unfold normalizeOutcome at outcome
    simp [Body.prog, Tasks.normalize, bind, point, lift, query, catching, stored, outcome, committed]
    rfl
  | nothingStored stored =>
    have failed : (failWith env jobId .normalizeFailed
        (ensembleError s!"job {strRepr jobId} has no extraction output to normalize") : TaskBody Unit) ⟨t, []⟩ = _ :=
      failWith_quiet .normalize _ present
    simp [Body.prog, Tasks.normalize, bind, point, query, stored, failed]
  | @normalizeFailed extraction exc stored raised handled =>
    have outcome := raised.resolve_left id
    have failed : (failWith env jobId .normalizeFailed exc : TaskBody (NormalizedRatesheet × List ConsensusResult)) ⟨t, []⟩ =
        _ := failWith_quiet .normalize exc present
    unfold normalizeOutcome at outcome
    simp [Body.prog, Tasks.normalize, bind, point, lift, query, catching, stored, outcome, handled, failed]
  | validated outcome => exact (validate_quiet present).1 _ _ outcome
  | validateFailed raised handled => exact (validate_quiet present).2 _ (raised.resolve_left id) handled

end

def IsTerminal (status : JobStatusLiteral) : Prop := status = .completed ∨ status = .failed

/-- Every job that is completed or failed in `before` has this status in `after`. -/
def KeepsTerminal (after before : Db) : Prop :=
  ∀ jobId status, IsTerminal status → before.status jobId = some status → after.status jobId = some status

/-- A terminal status in a committed state is the status in every state that is committed later. -/
def Absorbing (t : Trace Db) : Prop := t.states.Pairwise KeepsTerminal

/-- The body writes no status but this one: Stage 1 gets to a rejection at most, Stage 2 finds an
    output in its way, Stage 3 has nothing to store, Stage 4 completes a completed job, and a
    failure is recorded of a failed job. -/
def Spares (env : Env) (jobId : String) (strikes : PyExc → Prop) (db : Db) (status : JobStatusLiteral) : Body → Prop
  | .classify => ∀ format, classifyOutcome env = .ok format → status = .failed ∧ ¬ Supported format.detectedFormat
  | .extract fmt => Supported fmt → ∀ job, db.getJob jobId = some job →
      ((∃ payload, extractPayload env jobId fmt job.prospectId = .ok payload) → find jobId db.outputs ≠ none) ∧
        ∀ exc, Fails strikes extractHandles (extractPayload env jobId fmt job.prospectId) exc → status = .failed
  | .normalize => (db.getOutput jobId = .ok none → status = .failed) ∧
      ∀ extraction, db.getOutput jobId = .ok (some extraction) →
        (¬ ∃ parts, normalizeOutcome env db extraction = .ok parts) ∧
          ∀ exc, Fails strikes normalizeHandles (normalizeOutcome env db extraction) exc → status = .failed
  | .validate => ((∃ parts, validateOutcome env jobId db = .ok parts) → status = .completed) ∧
      ∀ exc, Fails strikes PyExc.isException (validateOutcome env jobId db) exc → status = .failed

/-- The execution spares its job, when the job is completed or failed in this database. -/
def SparesJob (invocation : Invocation) (db : Db) : Prop :=
  ∀ status, IsTerminal status → db.status invocation.jobId = some status →
    Spares invocation.env invocation.jobId invocation.strikes db status invocation.body

/-- Every execution spares its job in the state that it finds. -/
def AllSpare (t : Trace Db) : List Invocation → Prop
  | [] => True
  | invocation :: rest => SparesJob invocation t.committed ∧ AllSpare (invocation.perform t) rest

section
variable {env : Env} {jobId : String} {strikes : PyExc → Prop} {db : Db} {status : JobStatusLiteral} {body : Body}

/-- A body spares a terminal status when every block that it offers has this target. -/
theorem spares_iff (terminal : IsTerminal status) :
    Spares env jobId strikes db status body ↔ ∀ block, Offers env jobId strikes db body block → block.target = status := by
  constructor
  · intro spares block offered
    cases offered with
    | classified outcome supported => exact absurd supported (spares _ outcome).2
    | unsupported outcome _ => exact (spares _ outcome).1.symm
    | extracted supported found outcome absent => exact absurd absent ((spares supported _ found).1 ⟨_, outcome⟩)
    | extractFailed supported found raised handled => exact ((spares supported _ found).2 _ ⟨raised, handled⟩).symm
    | normalized stored outcome => exact absurd ⟨_, outcome⟩ (spares.2 _ stored).1
    | nothingStored stored => exact (spares.1 stored).symm
    | normalizeFailed stored raised handled => exact ((spares.2 _ stored).2 _ ⟨raised, handled⟩).symm
    | validated outcome => exact (spares.1 ⟨_, outcome⟩).symm
    | validateFailed raised handled => exact (spares.2 _ ⟨raised, handled⟩).symm
  · intro targets
    cases body with
    | classify =>
      intro format outcome
      by_cases supported : Supported format.detectedFormat
      · have target : JobStatusLiteral.extracting = status := targets _ (.classified outcome supported)
        rcases terminal with rfl | rfl <;> cases target
      · exact ⟨(targets _ (.unsupported outcome supported)).symm, supported⟩
    | extract fmt =>
      intro supported job found
      refine ⟨?_, fun exc failed => (targets _ (.extractFailed supported found failed.1 failed.2)).symm⟩
      rintro ⟨payload, outcome⟩ absent
      have target : JobStatusLiteral.normalizing = status := targets _ (.extracted supported found outcome absent)
      rcases terminal with rfl | rfl <;> cases target
    | normalize =>
      refine ⟨fun stored => (targets _ (.nothingStored stored)).symm, fun extraction stored => ⟨?_, ?_⟩⟩
      · rintro ⟨⟨updated, results⟩, outcome⟩
        have target : JobStatusLiteral.validating = status := targets _ (.normalized stored outcome)
        rcases terminal with rfl | rfl <;> cases target
      · exact fun exc failed => (targets _ (.normalizeFailed stored failed.1 failed.2)).symm
    | validate =>
      refine ⟨?_, fun exc failed => (targets _ (.validateFailed failed.1 failed.2)).symm⟩
      rintro ⟨⟨result, slack⟩, outcome⟩
      exact (targets _ (.validated outcome)).symm

end

theorem hasJob_of_status {db : Db} {jobId : String} {status : JobStatusLiteral} (stored : db.status jobId = some status) :
    db.hasJob jobId = true := by
  cases present : db.hasJob jobId with
  | true => rfl
  | false =>
    rw [status_of_absent present] at stored
    cases stored

/-- The step: an execution that spares its job keeps all terminal statuses. -/
theorem keeps_of_spares {t : Trace Db} {invocation : Invocation} (spares : SparesJob invocation t.committed) {block : Block}
    (offered : Offers invocation.env invocation.jobId invocation.strikes t.committed invocation.body block) :
    KeepsTerminal (block.apply invocation.env invocation.jobId t.committed) t.committed := by
  intro jobId status terminal before
  by_cases same : jobId = invocation.jobId
  · subst same
    rw [Block.apply_status invocation.env block (hasJob_of_status before)]
    exact congrArg some ((spares_iff terminal).mp (spares status terminal before) block offered)
  · rw [apply_status_other same]
    exact before

theorem Absorbing.commit {t : Trace Db} {after : Db} (absorbing : Absorbing t) (keeps : KeepsTerminal after t.committed) :
    Absorbing (t.commit after) := by
  refine List.Pairwise.cons ?_ absorbing
  intro before inside jobId status terminal stored
  refine keeps jobId status terminal ?_
  rcases List.mem_cons.mp inside with rfl | older
  · exact stored
  · exact (List.pairwise_cons.mp absorbing).1 before older jobId status terminal stored

theorem Absorbing.statuses {t : Trace Db} (absorbing : Absorbing t) (jobId : String) :
    (t.states.map (fun db => db.status jobId)).Pairwise fun after before =>
      ∀ status, IsTerminal status → before = some status → after = some status :=
  absorbing.map _ fun _ _ keeps status => keeps jobId status

theorem Absorbing.perform {t : Trace Db} {invocation : Invocation} (absorbing : Absorbing t)
    (spares : SparesJob invocation t.committed) : Absorbing (invocation.perform t) := by
  have extended := perform_extends t invocation
  generalize invocation.perform t = after at extended ⊢
  cases extended with
  | stays => exact absorbing
  | commits offered => exact absorbing.commit (keeps_of_spares spares offered)

theorem absorbing_of_allSpare {t : Trace Db} {invocations : List Invocation} (absorbing : Absorbing t)
    (spared : AllSpare t invocations) : Absorbing (invocations.foldl Invocation.perform t) := by
  induction invocations generalizing t with
  | nil => exact absorbing
  | cons invocation rest ih => exact ih (absorbing.perform spared.1) spared.2

theorem performed_suffix (invocations : List Invocation) (t : Trace Db) :
    t.states <:+ (invocations.foldl Invocation.perform t).states := by
  induction invocations generalizing t with
  | nil => exact List.suffix_refl _
  | cons invocation rest ih =>
    refine List.IsSuffix.trans ?_ (ih (invocation.perform t))
    have extended := perform_extends t invocation
    generalize invocation.perform t = after at extended ⊢
    cases extended with
    | stays => exact List.suffix_refl _
    | commits _ => exact List.suffix_cons _ _

/-- An execution that nothing strikes, and that keeps the terminal statuses, spares its job. -/
theorem spares_of_absorbing {t : Trace Db} {invocation : Invocation} (quiet : invocation.faults = [])
    (absorbing : Absorbing (invocation.perform t)) : SparesJob invocation t.committed := by
  obtain ⟨env, jobId, body, faults⟩ := invocation
  cases quiet
  intro status terminal stored
  have strikesNone : Invocation.strikes ⟨env, jobId, body, []⟩ = fun _ => False := by
    funext exc
    simp [Invocation.strikes]
  rw [strikesNone]
  refine (spares_iff terminal).mpr fun block offered => ?_
  have present := hasJob_of_status stored
  have committed : Invocation.perform t ⟨env, jobId, body, []⟩ = t.commit (block.apply env jobId t.committed) :=
    offers_commits present offered
  rw [committed] at absorbing
  have kept := (List.pairwise_cons.mp absorbing).1 t.committed List.mem_cons_self jobId status terminal stored
  exact Option.some.inj ((Block.apply_status env block present).symm.trans kept)

theorem allSpare_of_absorbing {t : Trace Db} {invocations : List Invocation}
    (quiet : ∀ invocation ∈ invocations, invocation.faults = [])
    (absorbing : Absorbing (invocations.foldl Invocation.perform t)) : AllSpare t invocations := by
  induction invocations generalizing t with
  | nil => trivial
  | cons invocation rest ih =>
    obtain ⟨here, later⟩ := List.forall_mem_cons.mp quiet
    have first : Absorbing (invocation.perform t) := absorbing.sublist (performed_suffix rest _).sublist
    exact ⟨spares_of_absorbing here first, ih later absorbing⟩

/-- In a run whose executions all spare their jobs the terminal statuses are absorbing, whatever
    strikes. When nothing strikes, they are absorbing in no other run. -/
theorem terminal_absorbing_iff (db : Db) (invocations : List Invocation) :
    (AllSpare ⟨db, []⟩ invocations → Absorbing (performAll db invocations)) ∧
      ((∀ invocation ∈ invocations, invocation.faults = []) →
        (Absorbing (performAll db invocations) ↔ AllSpare ⟨db, []⟩ invocations)) := by
  have start : Absorbing ⟨db, []⟩ := List.pairwise_singleton _ _
  refine ⟨fun spared => absorbing_of_allSpare start spared, fun quiet => ⟨?_, ?_⟩⟩
  · exact fun absorbing => allSpare_of_absorbing quiet absorbing
  · exact fun spared => absorbing_of_allSpare start spared

/-- A workbook is staged, and the model answers Stage 2 with no text. -/
def silentEnv : Env :=
  { sampleEnv with
    services := { sampleServices with generate := fun _ _ => .ok { text := none, candidates := [] } }
    readBytes := .ok (xlsxHeader ++ xlsxOpcMarker)
    workbook := .ok [.ok ⟨"Rates", 1, 1, "A1", .primitive (.text "Origin")⟩] }

/-- Stage 1 and the Stage 2 that it leads to, and the message of Stage 1 once more. -/
def redelivery : List Invocation :=
  [⟨silentEnv, "j1", .classify, []⟩, ⟨silentEnv, "j1", .extract .excel, []⟩, ⟨silentEnv, "j1", .classify, []⟩]

theorem redelivery_statuses : (performAll pendingDb redelivery).states.map (fun db => db.status "j1") =
    [some .extracting, some .failed, some .extracting, some .pending] := by
  decide +kernel

/-- A job whose extraction failed is `extracting` again when the message of Stage 1 is executed again. -/
theorem failed_job_restarts : ¬ ∀ (db : Db) (invocations : List Invocation), Absorbing (performAll db invocations) := by
  intro always
  have kept := (always pendingDb redelivery).statuses "j1"
  rw [redelivery_statuses] at kept
  have restarted := (List.pairwise_cons.mp kept).1 (some .failed) (by simp) .failed (.inr rfl) rfl
  cases restarted

/-- The message of Stage 1 is executed again after it rejected the format of the job. -/
def rejectedAgain : List Invocation := [⟨sampleEnv, "j1", .classify, []⟩, ⟨sampleEnv, "j1", .classify, []⟩]

theorem rejectedAgain_spares : AllSpare ⟨pendingDb, []⟩ rejectedAgain := by
  obtain ⟨format, outcome, unsupported⟩ := sampleEnv_rejected
  have failed : (performAll pendingDb [⟨sampleEnv, "j1", .classify, []⟩]).committed.status "j1" = some .failed := by
    rw [rejection_commits outcome unsupported]
    rfl
  refine ⟨?_, ?_, trivial⟩
  · intro status terminal stored
    have pending : some status = some JobStatusLiteral.pending := stored.symm
    cases pending
    rcases terminal with impossible | impossible <;> cases impossible
  · intro status terminal stored format' again
    rw [outcome] at again
    cases again
    exact ⟨Option.some.inj (stored.symm.trans failed), unsupported⟩

theorem terminal_absorbing_iff_rejected : Absorbing (performAll pendingDb rejectedAgain) :=
  (terminal_absorbing_iff pendingDb rejectedAgain).1 rejectedAgain_spares

end Onramp.Terminal
