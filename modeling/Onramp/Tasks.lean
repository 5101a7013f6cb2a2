import Onramp.Library.Atomic
import Onramp.Classifier
import Onramp.Excel
import Onramp.Edifact
import Onramp.Normalizer
import Onramp.Database
import Onramp.Stage4

/-!
The four tasks of the chain as programs over the database: `classify`, `extract`,
`normalize` and `validate`. Every `session.begin()` block is one atomic transaction,
an exception may strike before, inside and between the blocks, and each task handles
the exceptions that its source handles.
-/
namespace Onramp.Tasks
open Onramp.Python
open Onramp.Values
open Onramp.Models
open Onramp.Vertex
open Onramp.Database
open Onramp.Stage4
open Onramp.Classifier (Bytes CsvLibrary classifyFormat)
open Onramp.Excel (RawCell extractionError extractExcelPayload)
open Onramp.Edifact (Segment extractEdifactPayload)
open Onramp.Normalizer (ensembleError normalizeLanes)
open Onramp.Library.Atomic (Prog point raise lift query catching atomic)

/-- A program of the pipeline. -/
abbrev TaskBody (α : Type) : Type := Prog Db PyExc α

/-- What a run of the chain meets outside the database. -/
structure Env where
  services : Services
  stagingPath : String
  /-- `path.read_bytes()` -/
  readBytes : Raises Bytes
  csv : CsvLibrary
  /-- `load_workbook(...)`, with the cells that it yields -/
  workbook : Raises (List (Raises RawCell))
  /-- `file_path.read_text(encoding="utf-8", errors="strict")` -/
  readText : Raises String
  /-- `Interchange.from_str(raw)`, with its segments -/
  tokenize : String → Raises (List Segment)
  /-- `fixtures/conformal_calibration_v1.json` -/
  calibrationText : Raises String
  /-- `generate_v4_signed_url(...)`: the URL and its expiry -/
  signedUrl : Raises (String × DateTime)
  gcsBucketOutputs : String
  extractedAt : DateTime
  normalizedAt : DateTime
  rulesNow : DateTime
  carriersNow : DateTime
  today : Date
  finishedAt : DateTime
  /-- the order in which a `SELECT` without `ORDER BY` returns its rows -/
  rowOrder : List OnrampOutbox → List OnrampOutbox
  rowOrder_perm : ∀ rows, (rowOrder rows).Perm rows

/-- `_TMP_PATH_RE`: the directory of the staged files. -/
def tmpPath : List Char := "/tmp/onramp/".toList

/-- A character of `[^\s'"]`. -/
def pathChar (c : Char) : Bool := !(isSpace c || c = '\'' || c = '"')

/-- `_TMP_PATH_RE.sub("<staging>", text)`; a match is as long as the fuel is. -/
def redact : Nat → List Char → List Char
  | 0, text => text
  | _, [] => []
  | fuel + 1, c :: rest =>
    if tmpPath.isPrefixOf (c :: rest) && (((c :: rest).drop tmpPath.length).head?.map pathChar).getD false then
      "<staging>".toList ++ redact fuel (((c :: rest).drop tmpPath.length).dropWhile pathChar)
    else c :: redact fuel rest

def failurePayload (stage : Stage) (exc : PyExc) : Payload :=
  let redacted := String.ofList (redact exc.message.length exc.message.toList)
  .failure stage exc.cls.name (sliceTo 500 redacted)

variable (env : Env) (jobId : String)

def commitFailure (stage : Stage) (exc : PyExc) : TaskBody Unit :=
  let payload := failurePayload stage exc
  atomic
    [updateJobStatus jobId .failed (some env.finishedAt), enqueueOutboxEvent jobId .auditLog payload,
      addAudit jobId stage payload]

/-- The failure is recorded and the exception goes on. -/
def failWith {α : Type} (stage : Stage) (exc : PyExc) : TaskBody α := do
  commitFailure env jobId stage exc
  raise exc

/-- The blocks of `_classify`, when the format is not supported and when it is. -/
def unsupportedBlock : List Statement := [updateJobStatus jobId .failed (some env.finishedAt)]

def classifiedBlock (classified : ClassifiedFormat) : List Statement :=
  [updateJobStatus jobId .extracting none,
    addAudit jobId .classified (.classified classified.detectedFormat classified.confidenceHundredths)]

def classify : TaskBody DetectedFormat := do
  point
  let payload ← lift env.readBytes
  let classified ← lift (classifyFormat env.services.platform.lower env.csv payload (pathName env.stagingPath))
  if classified.detectedFormat ∉ [DetectedFormat.excel, .edifact] then do
    atomic (unsupportedBlock env jobId)
    raise (extractionError
      s!"format {strRepr classified.detectedFormat.literal} not supported in Phase 4 ({classified.reason})")
  else do
    atomic (classifiedBlock jobId classified)
    return classified.detectedFormat

/-- The extractor of the format, for a job of this prospect. -/
def extractPayload (fmt : DetectedFormat) (prospectId : String) : Raises NormalizedRatesheet :=
  if fmt = .edifact then
    match extractEdifactPayload (env.services.stage 2) env.stagingPath env.readText env.tokenize jobId prospectId
        env.extractedAt with
    | .ok result => .ok result.1
    | .error exc => .error (if exc.cls = .edifactExtractionError then extractionError exc.message else exc)
  else
    match extractExcelPayload (env.services.stage 2) env.workbook jobId prospectId env.extractedAt with
    | .ok result => .ok result.1
    | .error exc => .error exc

/-- `except (ExcelTooLargeError, ExtractionError)`. -/
def extractHandles (exc : PyExc) : Bool := exc.cls = .excelTooLargeError || exc.cls = .extractionError

/-- The success block of `_extract`. -/
def extractedBlock (payload : NormalizedRatesheet) : List Statement :=
  let auditPayload : Payload := .extracted payload.lanes.length
  [insertOutput jobId payload, updateJobStatus jobId .normalizing none, enqueueOutboxEvent jobId .auditLog auditPayload,
    addAudit jobId .extracted auditPayload]

def extract (fmt : DetectedFormat) : TaskBody Unit := do
  if fmt ∉ [DetectedFormat.excel, .edifact] then
    raise (extractionError s!"Phase 4 extractor handles 'excel' or 'edifact'; got {strRepr fmt.literal}")
  else do
    point
    match ← query (fun db => .ok (db.getJob jobId)) with
    | none => raise (extractionError s!"job {strRepr jobId} vanished before extraction")
    | some job => do
      let payload ← catching extractHandles
        (do
          point
          lift (extractPayload env jobId fmt job.prospectId))
        (failWith env jobId .extractFailed)
      point
      atomic (extractedBlock jobId payload)

def persistConsensusVotes (results : List ConsensusResult) : List Statement :=
  results.map (fun consensus => upsertScore jobId consensus.laneId
    { confidence := Decimal.thousandths 0, ensembleVotes := .snapshot consensus consensus.votes })

/-- `except EnsembleError`. -/
def normalizeHandles (exc : PyExc) : Bool := exc.cls = .ensembleError

/-- The success block of `_normalize`. -/
def normalizedBlock (updated : NormalizedRatesheet) (results : List ConsensusResult) : List Statement :=
  let auditPayload : Payload :=
    .normalized (results.filter (fun consensus => !consensus.requiresReview)).length updated.flaggedForReview.length
  upsertOutput jobId updated :: persistConsensusVotes jobId results ++
    [updateJobStatus jobId .validating none, enqueueOutboxEvent jobId .auditLog auditPayload,
      addAudit jobId .normalized auditPayload]

def normalize : TaskBody Unit := do
  point
  match ← query (fun db => db.getOutput jobId) with
  | none =>
    failWith env jobId .normalizeFailed
      (ensembleError s!"job {strRepr jobId} has no extraction output to normalize")
  | some extraction => do
    let (updated, results) ← catching normalizeHandles
      (do
        point
        let reference ← query (fun db => .ok db.reference)
        lift (normalizeLanes (env.services.stage 3) reference env.normalizedAt extraction))
      (failWith env jobId .normalizeFailed)
    point
    atomic (normalizedBlock jobId updated results)

/-- The channel in a row, when the row is the audit event of an ingress. -/
def ingressChannel (row : OnrampOutbox) : Option String :=
  match row.payload with
  | .ingressReceived _ _ channel => if channel = "" then none else some channel
  | _ => none

/-- `_recover_requested_slack_channel`, on the rows in the order in which they are
    returned. -/
def recoverRequestedSlackChannel (rows : List OnrampOutbox) : Option String :=
  (rows.filter (fun row => row.jobId = jobId ∧ row.eventType = .auditLog)).findSome? ingressChannel

/-- What `_validate` reads of the scores, together with the rest of its inputs. -/
def stage4Inputs (db : Db) : Inputs where
  services := env.services
  votesByLane := db.loadVotesByLane jobId
  consensusOf := db.loadConsensus jobId
  calibration := Conformal.loadCalibration env.services.platform env.calibrationText
  rulesDate := env.rulesNow.date
  carriersDate := env.carriersNow.date
  today := env.today

/-- `validated_audit_payload`. -/
def validatedPayload (result : Validated) : Payload :=
  .validated (result.violations.map RuleViolation.ruleId) result.sheet.lanes.length
    result.sheet.deterministicallyRejected.length result.conformalByLane.length result.lowConfidence.length
    result.correctionTriggers result.clarifications.length

/-- The terminal block of `_validate`. -/
def validatedBlock (result : Validated) (slackPayload : Payload) : List Statement :=
  upsertOutput jobId result.sheet ::
    result.conformalByLane.map (fun entry => upsertScore jobId entry.1
      { confidence := entry.2.confidence, ensembleVotes := .calibration entry.2.calibrationId }) ++
    [updateJobStatus jobId .completed (some env.finishedAt),
      enqueueOutboxEvent jobId .auditLog (validatedPayload result),
      addAudit jobId .validated (validatedPayload result),
      enqueueOutboxEvent jobId .slackPost slackPayload,
      enqueueOutboxEvent jobId .uploadResult
        (.uploadResult jobId env.gcsBucketOutputs s!"jobs/{jobId}/normalized_ratesheet.json")]

/-- The `slack_post` payload. -/
def slackPayload (channel prospectName : String) (result : Validated) (signed : String × DateTime) : Payload :=
  .slackPost channel (buildSummaryBlocks result.sheet signed.1 signed.2.isoformat)
    s!"Solvo Onramp result for {prospectName}"

/-- The body of `_validate` inside its `try`. -/
def validateBody : TaskBody Unit := do
  point
  match ← query (fun db => db.getOutput jobId) with
  | none => raise (extractionError s!"job {strRepr jobId} has no normalized output to validate")
  | some normalized => do
    point
    match ← query (fun db => .ok (db.getJob jobId)) with
    | none => raise (extractionError s!"job {strRepr jobId} vanished before validation")
    | some job => do
      point
      match ← query (fun db => .ok (recoverRequestedSlackChannel jobId (env.rowOrder db.outbox))) with
      | none => raise (extractionError (s!"job {strRepr jobId} has no requested_slack_channel in audit_log; " ++
          "intake route did not enqueue ingress_received payload as expected"))
      | some channel => do
        point
        let inputs ← query (fun db => .ok (stage4Inputs env jobId db))
        let result ← lift (validateSheet inputs normalized)
        let signed ← lift env.signedUrl
        point
        atomic (validatedBlock env jobId result (slackPayload channel job.prospectName result signed))

def validate : TaskBody Unit :=
  catching PyExc.isException (validateBody env jobId) (failWith env jobId .validateFailed)

/-- The chain of the four tasks: each runs when the one before it returned. -/
def chain : TaskBody Unit := do
  let fmt ← classify env jobId
  point
  extract env jobId fmt
  point
  normalize env jobId
  point
  validate env jobId

end Onramp.Tasks
