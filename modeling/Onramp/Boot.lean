import Onramp.Library.Runs
import Onramp.ReferenceData

/-!
The validators at the start of a process, and the probes of one that serves. The API and the worker
start only where all four checks pass, and a process that serves was verified when it started.
-/
namespace Onramp.Boot
open Onramp.Python
open Onramp.Values
open Onramp.Models
open Onramp.Library.Keyed (find)
open Onramp.Library.Runs
open Onramp.ReferenceData (Tables aliasFixture generated_unLocode)

inductive ValidatorName
  | vertexAiHandshake | postgresAlembicHead | unLocodeTableIntegrity | vertexAiComplianceHandshake
  deriving DecidableEq

structure BootValidatorResult where
  validatorName : ValidatorName
  passed : Bool
  exitCodeOnFailure : Nat
  latencyMs : Nat
  detail : String
  deriving DecidableEq

def BootValidatorResult.Valid (result : BootValidatorResult) : Prop := result.latencyMs ≤ 30000 ∧ result.detail.length ≤ 512

instance : DecidablePred BootValidatorResult.Valid := fun result =>
  inferInstanceAs (Decidable (result.latencyMs ≤ 30000 ∧ result.detail.length ≤ 512))

/-- `_run_one` on a coroutine that ends so within its budget, where a time-out is what it raises. -/
def runOne (name : ValidatorName) (exitCode latencyMs : Nat) (ended : Raises String) : Raises BootValidatorResult :=
  match ended with
  | .ok detail => checked "BootValidatorResult" BootValidatorResult.Valid ⟨name, true, exitCode, latencyMs, detail⟩
  | .error exc =>
    if exc.isException then
      checked "BootValidatorResult" BootValidatorResult.Valid
        ⟨name, false, exitCode, latencyMs, s!"{exc.cls.name}: {sliceTo 400 exc.message}"⟩
    else .error exc

structure RetentionAssertion where
  rawUploadRetentionDays : Nat
  normalizedOutputRetentionDays : Nat
  archivedOutputTtlDays : Nat
  auditLogRetentionDays : Nat
  deriving DecidableEq

/-- The windows that the literals of the model admit. -/
def pinned : RetentionAssertion := ⟨7, 90, 180, 365⟩

/-- The windows by the names of their fields. -/
def RetentionAssertion.fields (floors : RetentionAssertion) : List (String × Json) :=
  [("raw_upload_retention_days", .int floors.rawUploadRetentionDays),
    ("normalized_output_retention_days", .int floors.normalizedOutputRetentionDays),
    ("archived_output_ttl_days", .int floors.archivedOutputTtlDays),
    ("audit_log_retention_days", .int floors.auditLogRetentionDays)]

/-- The member is the literal. -/
def isLiteral (n : Nat) : Option Json → Bool
  | some (.int m) => m = n
  | _ => false

/-- `RetentionAssertion.model_validate`. -/
def RetentionAssertion.modelValidate : Json → Raises RetentionAssertion
  | .obj members =>
    if isLiteral 7 (find "raw_upload_retention_days" members) ∧ isLiteral 90 (find "normalized_output_retention_days" members) ∧
        isLiteral 180 (find "archived_output_ttl_days" members) ∧ isLiteral 365 (find "audit_log_retention_days" members) ∧
        ∀ member ∈ members, member.1 ∈ pinned.fields.map Prod.fst then .ok pinned
    else .error (validationError "RetentionAssertion")
  | _ => .error (validationError "RetentionAssertion")

inductive Environment
  | development | staging | production
  deriving DecidableEq

structure Settings where
  environment : Environment
  vertexLocation : String
  expectedAlembicHead : String
  vertexAiZdrEnrolled : Bool
  retentionConfigPath : String

/-- What the calls of the validators return or raise. -/
structure World where
  /-- the response to the ping has candidates -/
  generateContent : Raises Bool
  /-- the first row of `alembic_version` -/
  alembicVersion : Raises (Option String)
  /-- the reference tables -/
  tables : Raises Tables
  /-- the SDK has `PublisherModel` -/
  publisherModel : Bool
  setLoggingConfig : String → Raises Unit
  /-- the `enabled` of the configuration, if it has one -/
  getLoggingConfig : String → Raises (Option Bool)
  /-- the text of the file -/
  readText : String → Raises String
  jsonLoads : String → Raises Json
  latencyMs : ValidatorName → Nat

def assertionError (message : String) : PyExc := PyExc.mk' .assertionError message

variable (settings : Settings) (world : World)

def validateVertexHandshake : Raises String := do
  let candidates ← world.generateContent
  if candidates then return s!"flash_preview_responsive in {settings.vertexLocation}"
  else .error (assertionError "no candidates returned from gemini-3.1-flash-lite")

def validatePostgresAlembicHead : Raises String := do
  match ← world.alembicVersion with
  | none => .error (assertionError "alembic_version table empty")
  | some head =>
    if head = settings.expectedAlembicHead then return s!"alembic_head={head}"
    else .error (assertionError s!"alembic head mismatch: db={head} expected={settings.expectedAlembicHead}")

def validateUnLocodeTableIntegrity : Raises String := do
  let tables ← world.tables
  let count := tables.unLocodeReference.length
  if count < 100000 then .error (assertionError s!"UN/LOCODE row count {count} < 100000")
  else return s!"un_locode_rows={count}"

def modelsInScope : List String := ["gemini-3.1-flash-lite", "gemini-3.1-pro-preview"]

/-- `disable_request_response_logging`. -/
def disableRequestResponseLogging (modelId : String) : Raises Unit :=
  if world.publisherModel then world.setLoggingConfig modelId else .ok ()

/-- `assert_request_response_logging_disabled`. -/
def assertRequestResponseLoggingDisabled (modelId : String) : Raises Unit :=
  if world.publisherModel then do
    let enabled ← world.getLoggingConfig modelId
    if enabled.getD true then .error (assertionError s!"request/response logging unexpectedly enabled for {modelId}")
    else return ()
  else .ok ()

def disableLogging : List String → Raises Unit
  | [] => .ok ()
  | modelId :: rest => do
    disableRequestResponseLogging world modelId
    assertRequestResponseLoggingDisabled world modelId
    disableLogging rest

/-- `load_retention_assertion`. -/
def loadRetentionAssertion (path : String) : Raises RetentionAssertion := do
  let text ← world.readText path
  let raw ← world.jsonLoads text
  RetentionAssertion.modelValidate raw

/-- `assert_retention_floors`. -/
def assertRetentionFloors (path : String) : Raises RetentionAssertion :=
  match loadRetentionAssertion world path with
  | .ok floors => .ok floors
  | .error exc =>
    if exc.isException then
      .error (PyExc.mk' (.other "RetentionMismatch") s!"retention floors mismatched or missing in {path}: {exc.message}")
    else .error exc

/-- `str` of a flag. -/
def flag (b : Bool) : String := if b then "True" else "False"

def validateVertexCompliance : Raises String := do
  disableLogging world modelsInScope
  if settings.environment = .production ∧ settings.vertexAiZdrEnrolled = false then
    .error (assertionError "ZDR program not enrolled — required for production compliance posture")
  else do
    let retention ← assertRetentionFloors world settings.retentionConfigPath
    return s!"rrl_disabled=True zdr_enrolled={flag settings.vertexAiZdrEnrolled} " ++
      s!"models=3.1-flash-lite,3.1-pro-preview retention=raw{retention.rawUploadRetentionDays}d/" ++
      s!"norm{retention.normalizedOutputRetentionDays}d/arch{retention.archivedOutputTtlDays}d/" ++
      s!"audit{retention.auditLogRetentionDays}d"

def runAllBootValidators : Raises (List BootValidatorResult) := do
  let one ← runOne .vertexAiHandshake 1 (world.latencyMs .vertexAiHandshake) (validateVertexHandshake settings world)
  let two ← runOne .postgresAlembicHead 2 (world.latencyMs .postgresAlembicHead) (validatePostgresAlembicHead settings world)
  let three ← runOne .unLocodeTableIntegrity 3 (world.latencyMs .unLocodeTableIntegrity) (validateUnLocodeTableIntegrity world)
  let four ← runOne .vertexAiComplianceHandshake 4 (world.latencyMs .vertexAiComplianceHandshake)
    (validateVertexCompliance settings world)
  return [one, two, three, four]

/-- How a start ends. -/
inductive Startup
  | serving (results : List BootValidatorResult)
  | systemExit (code : Nat)
  | raised (exc : PyExc)
  deriving DecidableEq

/-- The validators decide, and the first failure gives the exit code. -/
def startup : Startup :=
  match runAllBootValidators settings world with
  | .error exc => .raised exc
  | .ok results =>
    match results.filter (fun r => !r.passed) with
    | [] => .serving results
    | first :: _ => .systemExit first.exitCodeOnFailure

/-- The `lifespan` of the API up to its `yield`. -/
def lifespan : Startup := startup settings world

/-- `_validate_on_worker_init`. -/
def validateOnWorkerInit : Startup := startup settings world

inductive Status
  | healthy | unhealthy
  deriving DecidableEq

structure HealthResponse where
  status : Status
  validators : List BootValidatorResult

/-- `_aggregate`. -/
def aggregate (results : List BootValidatorResult) : HealthResponse where
  status := if results.all BootValidatorResult.passed then .healthy else .unhealthy
  validators := results

/-- `GET /v1/health`. -/
def health (bootResults : List BootValidatorResult) : Nat × HealthResponse := (200, aggregate bootResults)

/-- `GET /v1/health/ready`. -/
def readiness (bootResults : List BootValidatorResult) : Nat × HealthResponse :=
  let body := aggregate bootResults
  (if body.status = .healthy then 200 else 503, body)

/-- A ping of the lighter probe within its budget. -/
def pinged (ping : Raises Bool) : Bool := ping.toOption.getD false

/-- `GET /v1/health/ready/cloudrun`. -/
def cloudrunReadiness (db redis : Raises Bool) (bootResults : List BootValidatorResult) : Nat × HealthResponse :=
  let healthy := pinged db && pinged redis
  (if healthy then 200 else 503, ⟨if healthy then .healthy else .unhealthy, bootResults⟩)

inductive Probe
  | health | readiness | cloudrunReadiness (db redis : Raises Bool)

def Probe.answer (bootResults : List BootValidatorResult) : Probe → Nat × HealthResponse
  | .health => Boot.health bootResults
  | .readiness => Boot.readiness bootResults
  | .cloudrunReadiness db redis => Boot.cloudrunReadiness db redis bootResults

/-! ### The checks -/

/-- What a process is verified for. -/
structure Verified : Prop where
  responsive : world.generateContent = .ok true
  migrated : world.alembicVersion = .ok (some settings.expectedAlembicHead)
  populated : ∃ tables, world.tables = .ok tables ∧ 100000 ≤ tables.unLocodeReference.length
  silent : world.publisherModel = true → ∀ modelId ∈ modelsInScope,
    world.setLoggingConfig modelId = .ok () ∧ world.getLoggingConfig modelId = .ok (some false)
  enrolled : settings.environment = .production → settings.vertexAiZdrEnrolled = true
  retention : ∃ text raw, world.readText settings.retentionConfigPath = .ok text ∧ world.jsonLoads text = .ok raw ∧
    RetentionAssertion.modelValidate raw = .ok pinned

/-- The checks by their exit codes. -/
def checks : List (Nat × Raises String) :=
  [(1, validateVertexHandshake settings world), (2, validatePostgresAlembicHead settings world),
    (3, validateUnLocodeTableIntegrity world), (4, validateVertexCompliance settings world)]

/-- The check returns. -/
def Passes (check : Nat × Raises String) : Prop := ∃ detail, check.2 = .ok detail

/-- The result is that of the check. -/
structure Tells (check : Nat × Raises String) (result : BootValidatorResult) : Prop where
  code : result.exitCodeOnFailure = check.1
  passed : result.passed = true ↔ Passes check

variable {settings world}

theorem validateVertexHandshake_iff : (∃ detail, validateVertexHandshake settings world = .ok detail) ↔
    world.generateContent = .ok true := by
  unfold validateVertexHandshake
  cases world.generateContent with
  | error exc => simp [bind, Except.bind]
  | ok candidates => cases candidates <;> simp [bind, Except.bind, pure, Except.pure]

theorem validatePostgresAlembicHead_iff : (∃ detail, validatePostgresAlembicHead settings world = .ok detail) ↔
    world.alembicVersion = .ok (some settings.expectedAlembicHead) := by
  unfold validatePostgresAlembicHead
  cases world.alembicVersion with
  | error exc => simp [bind, Except.bind]
  | ok row =>
    cases row with
    | none => simp [bind, Except.bind]
    | some head => by_cases same : head = settings.expectedAlembicHead <;> simp [bind, Except.bind, pure, Except.pure, same]

theorem validateUnLocodeTableIntegrity_iff : (∃ detail, validateUnLocodeTableIntegrity world = .ok detail) ↔
    ∃ tables, world.tables = .ok tables ∧ 100000 ≤ tables.unLocodeReference.length := by
  unfold validateUnLocodeTableIntegrity
  cases world.tables with
  | error exc => simp [bind, Except.bind]
  | ok tables =>
    by_cases few : tables.unLocodeReference.length < 100000
    · simp [bind, Except.bind, few]
    · simp [bind, Except.bind, pure, Except.pure, few, not_lt.mp few]

theorem disableLogging_eq_ok {modelIds : List String} : disableLogging world modelIds = .ok () ↔
    (world.publisherModel = true → ∀ modelId ∈ modelIds,
      world.setLoggingConfig modelId = .ok () ∧ world.getLoggingConfig modelId = .ok (some false)) := by
  induction modelIds with
  | nil => simp [disableLogging]
  | cons modelId rest ih =>
    have disabled : assertRequestResponseLoggingDisabled world modelId = .ok () ↔
        (world.publisherModel = true → world.getLoggingConfig modelId = .ok (some false)) := by
      unfold assertRequestResponseLoggingDisabled
      split_ifs with available
      · cases world.getLoggingConfig modelId with
        | error exc => simp [available, bind, Except.bind]
        | ok enabled =>
          cases enabled with
          | none => simp [available, bind, Except.bind]
          | some b => cases b <;> simp [available, bind, Except.bind, pure, Except.pure]
      · simp [available]
    simp only [disableLogging, bind_eq_ok, exists_const, disabled, ih, disableRequestResponseLogging, List.forall_mem_cons]
    by_cases available : world.publisherModel = true
    · simp only [available, if_true, forall_const]
      tauto
    · simp [available]

theorem modelValidate_pinned {raw : Json} {floors : RetentionAssertion}
    (validated : RetentionAssertion.modelValidate raw = .ok floors) : floors = pinned := by
  unfold RetentionAssertion.modelValidate at validated
  split at validated
  · split_ifs at validated
    exact (Except.ok.inj validated).symm
  · cases validated

theorem assertRetentionFloors_iff {path : String} : (∃ floors, assertRetentionFloors world path = .ok floors) ↔
    ∃ text raw, world.readText path = .ok text ∧ world.jsonLoads text = .ok raw ∧
      RetentionAssertion.modelValidate raw = .ok pinned := by
  have loads : ∀ floors, assertRetentionFloors world path = .ok floors ↔ loadRetentionAssertion world path = .ok floors := by
    intro floors
    unfold assertRetentionFloors
    cases loadRetentionAssertion world path with
    | ok value => simp
    | error exc => by_cases caught : exc.isException = true <;> simp [caught]
  simp only [loads, loadRetentionAssertion, bind_eq_ok]
  constructor
  · rintro ⟨floors, text, read, raw, loaded, validated⟩
    exact ⟨text, raw, read, loaded, modelValidate_pinned validated ▸ validated⟩
  · rintro ⟨text, raw, read, loaded, validated⟩
    exact ⟨_, text, read, raw, loaded, validated⟩

theorem validateVertexCompliance_iff : (∃ detail, validateVertexCompliance settings world = .ok detail) ↔
    (world.publisherModel = true → ∀ modelId ∈ modelsInScope,
      world.setLoggingConfig modelId = .ok () ∧ world.getLoggingConfig modelId = .ok (some false)) ∧
    (settings.environment = .production → settings.vertexAiZdrEnrolled = true) ∧
    ∃ text raw, world.readText settings.retentionConfigPath = .ok text ∧ world.jsonLoads text = .ok raw ∧
      RetentionAssertion.modelValidate raw = .ok pinned := by
  rw [← disableLogging_eq_ok, ← assertRetentionFloors_iff]
  simp only [validateVertexCompliance, bind_eq_ok]
  by_cases missing : settings.environment = .production ∧ settings.vertexAiZdrEnrolled = false
  · simp [missing]
  · have enrolled : settings.environment = .production → settings.vertexAiZdrEnrolled = true := by
      simpa using missing
    rw [if_neg missing]
    simp only [bind_eq_ok, pure_eq_ok]
    constructor
    · rintro ⟨_, ⟨⟩, disabled, floors, asserted, -⟩
      exact ⟨disabled, enrolled, floors, asserted⟩
    · rintro ⟨disabled, -, floors, asserted⟩
      exact ⟨_, (), disabled, floors, asserted, rfl⟩

/-- All checks pass exactly where the process is verified. -/
theorem verified_iff : Verified settings world ↔ ∀ check ∈ checks settings world, Passes check := by
  simp only [checks, Passes, List.forall_mem_cons, List.not_mem_nil, false_implies, implies_true, and_true,
    validateVertexHandshake_iff, validatePostgresAlembicHead_iff, validateUnLocodeTableIntegrity_iff,
    validateVertexCompliance_iff]
  constructor
  · rintro ⟨responsive, migrated, populated, silent, enrolled, retention⟩
    exact ⟨responsive, migrated, populated, silent, enrolled, retention⟩
  · rintro ⟨responsive, migrated, populated, silent, enrolled, retention⟩
    exact ⟨responsive, migrated, populated, silent, enrolled, retention⟩

theorem runOne_tells {name : ValidatorName} {exitCode latencyMs : Nat} {ended : Raises String} {result : BootValidatorResult}
    (returned : runOne name exitCode latencyMs ended = .ok result) : Tells (exitCode, ended) result := by
  unfold runOne at returned
  cases ended with
  | ok detail =>
    obtain ⟨-, rfl⟩ := checked_eq_ok.mp returned
    exact ⟨rfl, iff_of_true rfl ⟨detail, rfl⟩⟩
  | error exc =>
    simp only at returned
    split_ifs at returned
    obtain ⟨-, rfl⟩ := checked_eq_ok.mp returned
    exact ⟨rfl, iff_of_false (by simp) (by rintro ⟨_, ⟨⟩⟩)⟩

theorem runAllBootValidators_tells {results : List BootValidatorResult}
    (returned : runAllBootValidators settings world = .ok results) : List.Forall₂ Tells (checks settings world) results := by
  simp only [runAllBootValidators, bind_eq_ok, pure_eq_ok] at returned
  obtain ⟨one, first, two, second, three, third, four, fourth, rfl⟩ := returned
  exact .cons (runOne_tells first) (.cons (runOne_tells second) (.cons (runOne_tells third) (.cons (runOne_tells fourth) .nil)))

/-- The failed results tell the first check that fails, if there is one. -/
theorem failed_tells {all : List (Nat × Raises String)} {results : List BootValidatorResult} (told : List.Forall₂ Tells all results) :
    (results.filter (fun r => !r.passed) = [] → ∀ check ∈ all, Passes check) ∧
      ∀ first rest, results.filter (fun r => !r.passed) = first :: rest →
        ∃ before check after, all = before ++ check :: after ∧ (∀ earlier ∈ before, Passes earlier) ∧ ¬ Passes check ∧
          first.exitCodeOnFailure = check.1 := by
  induction told with
  | nil => exact ⟨by rintro - _ ⟨⟩, by rintro _ _ ⟨⟩⟩
  | @cons check result rest results tells later ih =>
    by_cases passed : result.passed = true
    · have passes := tells.passed.mp passed
      rw [List.filter_cons_of_neg (by simp [passed])]
      refine ⟨fun none => List.forall_mem_cons.mpr ⟨passes, ih.1 none⟩, fun first others failed => ?_⟩
      obtain ⟨before, failing, after, rfl, earlier, fails, code⟩ := ih.2 first others failed
      exact ⟨check :: before, failing, after, rfl, List.forall_mem_cons.mpr ⟨passes, earlier⟩, fails, code⟩
    · rw [List.filter_cons_of_pos (by simp [passed])]
      refine ⟨by rintro ⟨⟩, ?_⟩
      rintro _ _ ⟨⟩
      exact ⟨[], check, rest, rfl, by rintro _ ⟨⟩, fun passes => passed (tells.passed.mpr passes), tells.code⟩

/-- The budgets of the validators are kept, and their texts are short. -/
structure Timely (settings : Settings) (world : World) : Prop where
  latency : ∀ name, world.latencyMs name ≤ 30000
  details : ∀ check ∈ checks settings world, ∀ detail, check.2 = .ok detail → detail.length ≤ 512

theorem startup_serving {results : List BootValidatorResult} (started : startup settings world = .serving results) :
    Verified settings world ∧ ∀ result ∈ results, result.passed = true := by
  unfold startup at started
  split at started
  · cases started
  · next returned =>
    split at started
    · next none =>
      cases started
      refine ⟨verified_iff.mpr ((failed_tells (runAllBootValidators_tells returned)).1 none), fun result inside => ?_⟩
      have kept := List.filter_eq_nil_iff.mp none result inside
      simpa using kept
    · cases started

theorem startup_systemExit {code : Nat} (started : startup settings world = .systemExit code) :
    ∃ before check after, checks settings world = before ++ check :: after ∧ (∀ earlier ∈ before, Passes earlier) ∧
      ¬ Passes check ∧ code = check.1 := by
  unfold startup at started
  split at started
  · cases started
  · next returned =>
    split at started
    · cases started
    · next first rest failed =>
      cases started
      exact (failed_tells (runAllBootValidators_tells returned)).2 first rest failed

theorem runOne_passes {name : ValidatorName} {exitCode latencyMs : Nat} {detail : String} (soon : latencyMs ≤ 30000)
    (short : detail.length ≤ 512) : runOne name exitCode latencyMs (.ok detail) = .ok ⟨name, true, exitCode, latencyMs, detail⟩ :=
  checked_of_valid (And.intro soon short)

theorem startup_of_verified (verified : Verified settings world) (timely : Timely settings world) :
    ∃ results, startup settings world = .serving results := by
  have passes := verified_iff.mp verified
  have details := timely.details
  simp only [checks, List.forall_mem_cons, List.not_mem_nil, false_implies, implies_true, and_true] at passes details
  obtain ⟨⟨one, first⟩, ⟨two, second⟩, ⟨three, third⟩, four, fourth⟩ := passes
  have results : runAllBootValidators settings world = .ok
      [⟨.vertexAiHandshake, true, 1, world.latencyMs .vertexAiHandshake, one⟩,
        ⟨.postgresAlembicHead, true, 2, world.latencyMs .postgresAlembicHead, two⟩,
        ⟨.unLocodeTableIntegrity, true, 3, world.latencyMs .unLocodeTableIntegrity, three⟩,
        ⟨.vertexAiComplianceHandshake, true, 4, world.latencyMs .vertexAiComplianceHandshake, four⟩] := by
    simp only at first second third fourth
    simp only [runAllBootValidators, first, second, third, fourth, runOne_passes (timely.latency _) (details.1 _ first),
      runOne_passes (timely.latency _) (details.2.1 _ second), runOne_passes (timely.latency _) (details.2.2.1 _ third),
      runOne_passes (timely.latency _) (details.2.2.2 _ fourth)]
    rfl
  exact ⟨_, by rw [startup, results]; rfl⟩

/-- The results of the process that serves, if one does, and what was answered to the probes. -/
structure App where
  bootResults : Option (List BootValidatorResult)
  answers : List (Probe × Nat × HealthResponse)

def down : App := ⟨none, []⟩

inductive Event
  | start (settings : Settings) (world : World)
  | probe (probe : Probe)
  | stop

/-- A start that does not lead to serving leaves the API down, and only a process that serves is probed. -/
def step (app : App) : Event → Option App
  | .start settings world =>
    if app.bootResults.isSome then none
    else
      match lifespan settings world with
      | .serving results => some { app with bootResults := some results }
      | _ => some app
  | .probe probe => app.bootResults.map fun results => { app with answers := app.answers ++ [(probe, probe.answer results)] }
  | .stop => some { app with bootResults := none }

/-- The answer of a verified process: 200, or what the pings of the lighter probe make of it. -/
def Sound (entry : Probe × Nat × HealthResponse) : Prop :=
  (∀ result ∈ entry.2.2.validators, result.passed = true) ∧
    match entry.1 with
    | .health | .readiness => entry.2.1 = 200 ∧ entry.2.2.status = .healthy
    | .cloudrunReadiness db redis => (entry.2.1 = 200 ∧ entry.2.2.status = .healthy ∧ db = .ok true ∧ redis = .ok true) ∨
        (entry.2.1 = 503 ∧ entry.2.2.status = .unhealthy ∧ ¬ (db = .ok true ∧ redis = .ok true))

theorem pinged_iff {ping : Raises Bool} : pinged ping = true ↔ ping = .ok true := by
  cases ping with
  | error exc => simp [pinged, Except.toOption]
  | ok b => simp [pinged, Except.toOption]

theorem answer_sound {results : List BootValidatorResult} (passed : ∀ result ∈ results, result.passed = true) (probe : Probe) :
    Sound (probe, probe.answer results) := by
  have healthy : aggregate results = ⟨.healthy, results⟩ := by
    rw [aggregate, if_pos (List.all_eq_true.mpr passed)]
  cases probe with
  | health => exact ⟨by simpa [Probe.answer, health, healthy] using passed, by simp [Probe.answer, health, healthy]⟩
  | readiness => exact ⟨by simpa [Probe.answer, readiness, healthy] using passed, by simp [Probe.answer, readiness, healthy]⟩
  | cloudrunReadiness db redis =>
    refine ⟨passed, ?_⟩
    by_cases both : db = .ok true ∧ redis = .ok true
    · left
      simp [Probe.answer, cloudrunReadiness, both, pinged_iff.mpr]
    · right
      have silent : (pinged db && pinged redis) = false := by
        rw [Bool.and_eq_false_iff, ← Bool.not_eq_true, ← Bool.not_eq_true, pinged_iff, pinged_iff]
        tauto
      simp [Probe.answer, cloudrunReadiness, both, silent]

/-- The process that serves with these results: its start is the last one of the events, and there have been only probes
    since. -/
structure Serving (events : List Event) (results : List BootValidatorResult) (settings : Settings) (world : World) : Prop where
  since : ∃ (before : List Event) (probes : List Probe), events = before ++ .start settings world :: probes.map .probe
  started : lifespan settings world = .serving results
  verified : Verified settings world
  passed : ∀ result ∈ results, result.passed = true

/-- What holds of the API after these events. -/
structure Kept (events : List Event) (app : App) : Prop where
  serving : ∀ results, app.bootResults = some results → ∃ settings world, Serving events results settings world
  answers : ∀ entry ∈ app.answers, Sound entry

theorem Kept.step {events : List Event} {app next : App} {event : Event} (kept : Kept events app)
    (stepped : step app event = some next) : Kept (events ++ [event]) next := by
  cases event with
  | start settings world =>
    simp only [Boot.step] at stepped
    split_ifs at stepped with up
    split at stepped
    · next results started =>
      cases stepped
      obtain ⟨verified, passed⟩ := startup_serving started
      refine ⟨?_, kept.answers⟩
      rintro _ ⟨⟩
      exact ⟨settings, world, ⟨events, [], rfl⟩, started, verified, passed⟩
    · cases stepped
      refine ⟨fun results serving => absurd ?_ up, kept.answers⟩
      rw [serving]
      rfl
  | probe probe =>
    obtain ⟨results, serving, rfl⟩ := Option.map_eq_some_iff.mp stepped
    obtain ⟨settings, world, process⟩ := kept.serving results serving
    obtain ⟨before, probes, rfl⟩ := process.since
    refine ⟨?_, ?_⟩
    · intro same still
      cases serving.symm.trans still
      exact ⟨settings, world, { process with since := ⟨before, probes ++ [probe], by simp⟩ }⟩
    · rw [List.forall_mem_append, List.forall_mem_singleton]
      exact ⟨kept.answers, answer_sound process.passed probe⟩
  | stop =>
    cases stepped
    exact ⟨by rintro _ ⟨⟩, kept.answers⟩

/-- A start that is not verified does not serve. -/
theorem step_of_unverified {app : App} (isDown : app.bootResults = none) (unverified : ¬ Verified settings world) :
    step app (.start settings world) = some app := by
  simp only [step, isDown, Option.isSome_none, Bool.false_eq_true, if_false]
  split
  · next results started => exact absurd (startup_serving started).1 unverified
  · rfl

/-- In every run of starts, probes and stops, a process that serves was verified when it was started itself, so that no probe
    tells of a failed check and the readiness probe never answers 503. A verified start serves, the API and the worker start
    alike, and the exit code of a start is that of the first check that fails. -/
theorem serving_verified (events : List Event) (app : App) (reached : run step down events = some app) :
    Kept events app ∧ ∀ settings world,
      (Verified settings world → Timely settings world → ∃ results, lifespan settings world = .serving results) ∧
      validateOnWorkerInit settings world = lifespan settings world ∧
      ∀ code, lifespan settings world = .systemExit code →
        ∃ before check after, checks settings world = before ++ check :: after ∧ (∀ earlier ∈ before, Passes earlier) ∧
          ¬ Passes check ∧ code = check.1 := by
  have start : Kept [] down := ⟨by rintro _ ⟨⟩, by rintro _ ⟨⟩⟩
  have kept := history_of_run Kept (fun _ _ _ _ kept stepped => kept.step stepped) events [] down app start reached
  exact ⟨kept, fun settings world => ⟨startup_of_verified, rfl, fun code started => startup_systemExit started⟩⟩

def demoSettings : Settings where
  environment := .production
  vertexLocation := "europe-west4"
  expectedAlembicHead := "0004_intake_review"
  vertexAiZdrEnrolled := true
  retentionConfigPath := "fixtures/retention_v1.json"

/-- Everything answers as it should, with these reference tables, and the SDK has `PublisherModel` or not. -/
def demoWorld (tables : Tables) (publisherModel : Bool) : World where
  generateContent := .ok true
  alembicVersion := .ok (some "0004_intake_review")
  tables := .ok tables
  publisherModel := publisherModel
  setLoggingConfig _ := .ok ()
  getLoggingConfig _ := .ok (some false)
  readText _ := .ok ((Json.obj pinned.fields).render " ")
  jsonLoads _ := .ok (.obj pinned.fields)
  latencyMs _ := 20

theorem demoWorld_verified {tables : Tables} (count : tables.unLocodeReference.length = 110000) (publisherModel : Bool) :
    Verified demoSettings (demoWorld tables publisherModel) where
  responsive := rfl
  migrated := rfl
  populated := ⟨tables, rfl, by rw [count]; decide⟩
  silent := fun _ _ _ => ⟨rfl, rfl⟩
  enrolled := fun _ => rfl
  retention := ⟨_, _, rfl, rfl, by decide⟩

theorem demoWorld_timely {tables : Tables} (count : tables.unLocodeReference.length = 110000) (publisherModel : Bool) :
    Timely demoSettings (demoWorld tables publisherModel) := by
  refine ⟨fun _ => (by decide : 20 ≤ 30000), ?_⟩
  have rows : validateUnLocodeTableIntegrity (demoWorld tables publisherModel) = .ok s!"un_locode_rows={110000}" := by
    simp [validateUnLocodeTableIntegrity, demoWorld, bind, Except.bind, pure, Except.pure, count]
  simp only [checks, List.forall_mem_cons, List.not_mem_nil, false_implies, implies_true, and_true, rows]
  refine ⟨?_, ?_, ?_, ?_⟩ <;> cases publisherModel <;> rintro _ ⟨⟩ <;> decide +kernel

/-- A start without the enrolment fails, the next one serves under an SDK without `PublisherModel`, and after a stop
    another one under an SDK with it. -/
def demoEvents (tables : Tables) : List Event :=
  [.start { demoSettings with vertexAiZdrEnrolled := false } (demoWorld tables false), .start demoSettings (demoWorld tables false),
    .probe .readiness, .stop, .start demoSettings (demoWorld tables true), .probe .health]

theorem serving_verified_demo : ∃ tables app results, run step down (demoEvents tables) = some app ∧
    app.bootResults = some results ∧ app.answers.length = 2 ∧ Kept (demoEvents tables) app := by
  obtain ⟨records, count, -⟩ := generated_unLocode (fun _ _ _ => none) "un_locode_2024_2.csv" (by decide : 14 ≤ 110000) (by decide)
  let tables : Tables := ⟨records, aliasFixture, []⟩
  have starts : ∀ publisherModel, ∃ results, lifespan demoSettings (demoWorld tables publisherModel) = .serving results :=
    fun publisherModel => startup_of_verified (demoWorld_verified count publisherModel) (demoWorld_timely count publisherModel)
  obtain ⟨earlier, first⟩ := starts false
  obtain ⟨results, second⟩ := starts true
  have unverified : ¬ Verified { demoSettings with vertexAiZdrEnrolled := false } (demoWorld tables false) := by
    intro verified
    cases verified.enrolled rfl
  have reached : run step down (demoEvents tables) =
      some ⟨some results, [(.readiness, readiness earlier), (.health, health results)]⟩ := by
    rw [demoEvents, run, step_of_unverified rfl unverified]
    simp [run, step, down, first, second, Probe.answer]
  exact ⟨tables, _, results, reached, rfl, rfl, (serving_verified _ _ reached).1⟩

end Onramp.Boot
