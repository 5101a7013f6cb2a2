import Onramp.Cells
import Onramp.Vertex

/-!
Stage 2 for workbooks: the cell list, the deterministic scan, the call of the model, the
scan of its reply, and the schema gate.
-/
namespace Onramp.Excel
open Onramp.Python
open Onramp.Values
open Onramp.Models
open Onramp.Schema
open Onramp.Vertex
open Onramp.Cells
open Onramp.Library.Keyed (find firstPerKey)

/-- `ExtractionError(message)`. -/
def extractionError (message : String) : PyExc := PyExc.mk' .extractionError message

def cellLimit : Nat := 5000

def promptVersion : String := "stage2.excel.v2"

/-- A value in a workbook: a JSON primitive, a datetime by its `isoformat`, or another
    value by its `str`. -/
inductive RawValue
  | primitive (value : CellValue)
  | datetime (isoformat : String)
  | other (shown : String)

def serializeCellValue : RawValue → CellValue
  | .primitive value => value
  | .datetime isoformat => .text isoformat
  | .other shown => .text shown

structure RawCell where
  sheet : String
  row : Nat
  col : Nat
  coord : String
  value : RawValue

/-- The walk of `_build_cell_list` over the cells that the reader yields, of which `count`
    are listed already. -/
def walkCells (count : Nat) : List (Raises RawCell) → Raises (List Cell)
  | [] => .ok []
  | next :: rest => do
    let raw ← next
    match serializeCellValue raw.value with
    | .none => walkCells count rest
    | value =>
      if cellLimit < count + 1 then
        .error (PyExc.mk' .excelTooLargeError s!"cell count exceeded {cellLimit} (still counting at {raw.coord})")
      else
        let others ← walkCells (count + 1) rest
        return { sheet := raw.sheet, row := raw.row, col := raw.col, coord := raw.coord, value } :: others

/-- `_build_cell_list`, of the workbook that the reader opens. -/
def buildCellList (workbook : Raises (List (Raises RawCell))) : Raises (List Cell) := do
  let raws ← workbook
  walkCells 0 raws

/-- A cell in the prompt. A read-only workbook has no merged ranges. -/
def Cell.dump (cell : Cell) : Json :=
  let value : Json :=
    match cell.value with
    | .none => .null
    | .text s => .str s
    | .int n => .int n
    | .float shown => .float shown
    | .bool b => .bool b
  .obj [("sheet", .str cell.sheet), ("row", .int cell.row), ("col", .int cell.col), ("coord", .str cell.coord),
    ("value", value), ("is_merged_anchor", .bool false), ("merge_range", .null)]

/-- `orjson` writes integers of 64 bits, with or without a sign. -/
def Cell.Dumpable (cell : Cell) : Prop :=
  match cell.value with
  | .int n => -2 ^ 63 ≤ n ∧ n < 2 ^ 64
  | _ => True

instance : DecidablePred Cell.Dumpable := fun cell =>
  match cell with
  | ⟨_, _, _, _, .int _⟩ => inferInstanceAs (Decidable (_ ∧ _))
  | ⟨_, _, _, _, .none⟩ | ⟨_, _, _, _, .text _⟩ | ⟨_, _, _, _, .float _⟩ | ⟨_, _, _, _, .bool _⟩ =>
    inferInstanceAs (Decidable True)

/-- Whether `orjson.dumps(cells)` returns. Its text is part of the prompt. -/
def dumpCells (cells : List Cell) : Raises Unit :=
  if ∀ cell ∈ cells, Cell.Dumpable cell then .ok ()
  else .error (PyExc.mk' (.other "JSONEncodeError") "Integer exceeds 64-bit range")

def buildPrompt (platform : Platform) (jobId prospectId : String) (cells : List Cell) : String :=
  "Extract lane records from this spreadsheet.\n\n" ++ s!"job_id: {jobId}\nprospect_id: {prospectId}\n" ++
    s!"prompt_version: {promptVersion}\n\nCells:\n" ++ platform.compactJson (.arr (cells.map Cell.dump)) ++ "\n"

def generateWithRetry (services : Services) (contents : String) : Raises Response :=
  withRetry (extractionError "Vertex AI exceeded the 30s budget") (fun attempt =>
    services.generate { model := "gemini-3.1-flash-lite", temperature := "0.1", contents } [attempt])

/-- The text of a response: its own, or the first text among the parts of its
    candidates. -/
def responseText (response : Response) : String :=
  match response.text with
  | some text => text
  | none => (response.candidates.flatten.findSome? (fun part => part.filter (fun text => text ≠ ""))).getD ""

def parseResponseText (platform : Platform) (response : Response) : Raises Json :=
  if responseText response = "" then .error (extractionError "Vertex AI returned no text content")
  else platform.jsonLoads (responseText response)

def coerceSourceRowReference (platform : Platform) (raw : Json) (sheetName : String) (idx : Nat) : Raises SourceRow :=
  match sourceRow platform raw with
  | some row => .ok row
  | none =>
    checked "SourceRow" SourceRow.Valid
      { sheetName := if sheetName = "" then "Rates" else sliceTo 64 sheetName, rowNumber := idx + 2,
        cellReference := s!"A{idx + 2}" }

/-- `(lane.get(name) or {}).get("code", "")`. -/
def portText (lane : Json) (name : String) : Raises Json := do
  let port ← lane.get name
  (if port.truthy then port else .obj []).getOrEmpty "code"

/-- A code that is a string of UN/LOCODE shape. -/
def shapedCode : Json → Bool
  | .str code => unlocodeMatch code
  | _ => false

/-- `str(value or default)`. -/
def strOr (value : Json) (default : String) : String := if value.truthy then value.toStr else default

/-- The scan of one lane of the reply: the violator that it is lifted to, if any. -/
def preScanLane (platform : Platform) (sheetName : String) (idx : Nat) (lane : Json) :
    Raises (Option ShapeViolatingLane) := do
  let originCode ← portText lane "origin_port"
  let destCode ← portText lane "destination_port"
  if shapedCode originCode ∧ shapedCode destCode then return none
  else
    let laneId ← lane.get "lane_id"
    let raw ← lane.get "source_row_reference"
    let sourceRowReference ← coerceSourceRowReference platform raw sheetName idx
    let violator ← checked "ShapeViolatingLane" ShapeViolatingLane.Valid
      { laneId := strOr laneId s!"shape_violator_{idx}", rawOriginCode := strOr originCode "",
        rawDestinationCode := strOr destCode "", sourceRowReference }
    return some violator

/-- The scan from the lane at `idx` on: the surviving lanes and the violators. -/
def preScanFrom (platform : Platform) (sheetName : String) : Nat → List Json →
    Raises (List Json × List ShapeViolatingLane)
  | _, [] => .ok ([], [])
  | idx, lane :: rest => do
    let lifted ← preScanLane platform sheetName idx lane
    let (surviving, violating) ← preScanFrom platform sheetName (idx + 1) rest
    match lifted with
    | none => return (lane :: surviving, violating)
    | some violator => return (surviving, violator :: violating)

/-- `_pre_scan_shape_violators`, of the members of the body. -/
def preScanShapeViolators (platform : Platform) (body : List (String × Json)) (sheetName : String) :
    Raises (List Json × List ShapeViolatingLane) := do
  let lanes ← ((find "lanes" body).getD (.arr [])).iterate
  preScanFrom platform sheetName 0 lanes

/-- `body["job_id"] = job_id`: the members of the body, when it is an object. -/
def assignable : Json → Raises (List (String × Json))
  | .obj members => .ok members
  | .arr _ => .error (PyExc.mk' .typeError "list indices must be integers or slices, not str")
  | other => .error (PyExc.mk' .typeError s!"'{other.typeName}' object does not support item assignment")

/-- The fields of a `NormalizedRatesheet`. -/
def ratesheetFields : List String :=
  ["job_id", "prospect_id", "extraction_metadata", "lanes", "conformal_scores", "flagged_for_review",
    "deterministically_rejected", "shape_violating_lanes", "schema_version"]

/-- `NormalizedRatesheet.model_validate(body)`, where every field but `lanes` was
    overwritten with known values. -/
def validateBody (platform : Platform) (body : List (String × Json)) (surviving : List Json)
    (forced : NormalizedRatesheet) : Raises NormalizedRatesheet :=
  let extra := body.filter (fun member => member.1 ∉ ratesheetFields)
  let read : Option NormalizedRatesheet := do
    let lanes ← allOf (laneRecord platform) surviving
    if extra = [] then guarded NormalizedRatesheet.Valid { forced with lanes } else none
  match read with
  | some payload => .ok payload
  | none =>
    let errors := platform.errorCount (.obj (("lanes", .arr surviving) :: extra))
    .error (extractionError s!"stage2_schema_violation: {errors} pydantic error(s)")

/-- The key under which the two sources of violators are united. -/
def rowKey (violator : ShapeViolatingLane) : String × Nat :=
  (violator.sourceRowReference.sheetName, violator.sourceRowReference.rowNumber)

/-- The deterministic part before the call: the cells of the prompt and the violators. -/
def preLlmScan (platform : Platform) (cells : List Cell) : Raises (List Cell × List ShapeViolatingLane) :=
  match identifyPortColumns platform cells with
  | some columnMap => scanCellsForShapeViolators cells columnMap
  | none => .ok (cells, [])

/-- What is made of the reply. -/
def payloadOf (platform : Platform) (jobId prospectId : String) (metadata : ExtractionMetadata)
    (preLlmViolators : List ShapeViolatingLane) (reply : Json) : Raises NormalizedRatesheet := do
  let body ← assignable reply
  let (surviving, postLlmViolators) ← preScanShapeViolators platform body "Rates"
  validateBody platform body surviving
    { jobId, prospectId, extractionMetadata := metadata, lanes := [], conformalScores := [], flaggedForReview := [],
      deterministicallyRejected := [],
      shapeViolatingLanes := firstPerKey rowKey [] (preLlmViolators ++ postLlmViolators),
      schemaVersion := "onramp.v1" }

/-- `extract_excel_payload`, after the cell list is built. -/
def extractFromCells (services : Services) (cells : List Cell) (jobId prospectId : String) (now : DateTime) :
    Raises (NormalizedRatesheet × ExtractionMetadata) := do
  let (shown, preLlmViolators) ← preLlmScan services.platform cells
  dumpCells shown
  services.client []
  let response ← generateWithRetry services (buildPrompt services.platform jobId prospectId shown)
  let reply ← parseResponseText services.platform response
  let metadata ← checked "ExtractionMetadata" ExtractionMetadata.Valid
    { extractorModel := "gemini-3.1-flash-lite", extractedAt := now, promptVersion, cellCount := cells.length }
  let payload ← payloadOf services.platform jobId prospectId metadata preLlmViolators reply
  return (payload, metadata)

def extractExcelPayload (services : Services) (workbook : Raises (List (Raises RawCell))) (jobId prospectId : String)
    (now : DateTime) : Raises (NormalizedRatesheet × ExtractionMetadata) := do
  let cells ← buildCellList workbook
  extractFromCells services cells jobId prospectId now

/-- A payload that passed the schema gate carries the lanes of the reply and the forced
    values. -/
theorem validateBody_eq_ok {platform : Platform} {body : List (String × Json)} {surviving : List Json}
    {forced payload : NormalizedRatesheet} (gated : validateBody platform body surviving forced = .ok payload) :
    ∃ lanes, allOf (laneRecord platform) surviving = some lanes ∧ payload = { forced with lanes } ∧ payload.Valid := by
  unfold validateBody at gated
  simp only at gated
  split at gated
  · next read =>
    simp only [bind, Option.bind_eq_some_iff] at read
    obtain ⟨lanes, lanesRead, built⟩ := read
    split at built
    · obtain ⟨valid, rfl⟩ := guarded_eq_some.mp built
      cases gated
      exact ⟨lanes, lanesRead, rfl, valid⟩
    · cases built
  · cases gated

/-- The steps of an extraction that returned: the scan before the call, the reply, and what
    is made of it. -/
theorem extractFromCells_eq_ok {services : Services} {cells : List Cell} {jobId prospectId : String} {now : DateTime}
    {payload : NormalizedRatesheet} {metadata : ExtractionMetadata}
    (returned : extractFromCells services cells jobId prospectId now = .ok (payload, metadata)) :
    ∃ shown preLlmViolators response reply, preLlmScan services.platform cells = .ok (shown, preLlmViolators) ∧
      generateWithRetry services (buildPrompt services.platform jobId prospectId shown) = .ok response ∧
      parseResponseText services.platform response = .ok reply ∧
      payloadOf services.platform jobId prospectId metadata preLlmViolators reply = .ok payload := by
  unfold extractFromCells at returned
  simp only [bind_eq_ok, pure_eq_ok, Prod.mk.injEq] at returned
  obtain ⟨⟨shown, preLlmViolators⟩, scanned, _, -, _, -, response, answered, reply, parsed, _, -, _, built, rfl, rfl⟩ :=
    returned
  exact ⟨shown, preLlmViolators, response, reply, scanned, answered, parsed, built⟩

/-- The steps of a payload that was built: the body of the reply, and the two sources of
    violators. -/
theorem payloadOf_eq_ok {platform : Platform} {jobId prospectId : String} {metadata : ExtractionMetadata}
    {preLlmViolators : List ShapeViolatingLane} {reply : Json} {payload : NormalizedRatesheet}
    (built : payloadOf platform jobId prospectId metadata preLlmViolators reply = .ok payload) :
    ∃ body surviving postLlmViolators lanes, assignable reply = .ok body ∧
      preScanShapeViolators platform body "Rates" = .ok (surviving, postLlmViolators) ∧
      allOf (laneRecord platform) surviving = some lanes ∧ payload.Valid ∧
      payload = NormalizedRatesheet.mk jobId prospectId metadata lanes [] [] []
        (firstPerKey rowKey [] (preLlmViolators ++ postLlmViolators)) "onramp.v1" := by
  unfold payloadOf at built
  simp only [bind_eq_ok] at built
  obtain ⟨body, assigned, ⟨surviving, postLlmViolators⟩, scanned, built⟩ := built
  obtain ⟨lanes, lanesRead, rfl, valid⟩ := validateBody_eq_ok built
  exact ⟨body, surviving, postLlmViolators, lanes, assigned, scanned, lanesRead, valid, rfl⟩

theorem extractExcelPayload_valid {services : Services} {workbook : Raises (List (Raises RawCell))}
    {jobId prospectId : String} {now : DateTime} {result : NormalizedRatesheet × ExtractionMetadata}
    (returned : extractExcelPayload services workbook jobId prospectId now = .ok result) :
    result.1.Valid ∧ result.1.flaggedForReview = [] := by
  obtain ⟨payload, metadata⟩ := result
  unfold extractExcelPayload at returned
  obtain ⟨cells, -, extracted⟩ := bind_eq_ok.mp returned
  obtain ⟨_, _, _, _, _, _, _, built⟩ := extractFromCells_eq_ok extracted
  obtain ⟨_, _, _, _, _, _, _, valid, rfl⟩ := payloadOf_eq_ok built
  exact ⟨valid, rfl⟩

/-- The lane of a reply has two codes of UN/LOCODE shape. -/
def ShapedLane (lane : Json) : Prop :=
  ∃ origin destination, portText lane "origin_port" = .ok origin ∧ portText lane "destination_port" = .ok destination ∧
    shapedCode origin = true ∧ shapedCode destination = true

theorem preScanLane_none {platform : Platform} {sheetName : String} {idx : Nat} {lane : Json} :
    preScanLane platform sheetName idx lane = .ok none ↔ ShapedLane lane := by
  unfold preScanLane ShapedLane
  simp only [bind_eq_ok]
  constructor
  · rintro ⟨origin, originRead, destination, destinationRead, returned⟩
    split at returned
    · next shaped => exact ⟨origin, destination, originRead, destinationRead, shaped⟩
    · simp only [bind_eq_ok, pure_eq_ok, reduceCtorEq, and_false, exists_false] at returned
  · rintro ⟨origin, destination, originRead, destinationRead, shaped⟩
    refine ⟨origin, originRead, destination, destinationRead, ?_⟩
    rw [if_pos shaped]
    rfl

/-- A step of the scan: the lane stays, or its violator comes before the others. -/
theorem preScanFrom_cons {platform : Platform} {sheetName : String} {idx : Nat} {lane : Json} {rest surviving : List Json}
    {violating : List ShapeViolatingLane}
    (scanned : preScanFrom platform sheetName idx (lane :: rest) = .ok (surviving, violating)) :
    ∃ lifted surviving' violating', preScanLane platform sheetName idx lane = .ok lifted ∧
      preScanFrom platform sheetName (idx + 1) rest = .ok (surviving', violating') ∧
      surviving = (if lifted = none then lane :: surviving' else surviving') ∧
      violating = lifted.toList ++ violating' := by
  unfold preScanFrom at scanned
  simp only [bind_eq_ok] at scanned
  obtain ⟨lifted, here, ⟨surviving', violating'⟩, later, scanned⟩ := scanned
  refine ⟨lifted, surviving', violating', here, later, ?_⟩
  cases lifted <;> cases scanned <;> exact ⟨rfl, rfl⟩

/-- The lanes of the reply that survive the scan are those with two shaped codes. -/
theorem preScanFrom_surviving {platform : Platform} {sheetName : String} {idx : Nat} {items surviving : List Json}
    {violating : List ShapeViolatingLane}
    (scanned : preScanFrom platform sheetName idx items = .ok (surviving, violating)) :
    ∀ item, item ∈ surviving ↔ item ∈ items ∧ ShapedLane item := by
  induction items generalizing idx surviving violating with
  | nil =>
    cases scanned
    simp
  | cons lane rest ih =>
    obtain ⟨lifted, surviving', violating', here, later, rfl, -⟩ := preScanFrom_cons scanned
    intro item
    cases lifted with
    | none =>
      rw [if_pos rfl, List.mem_cons, ih later item, List.mem_cons]
      constructor
      · rintro (rfl | ⟨inside, shaped⟩)
        · exact ⟨.inl rfl, preScanLane_none.mp here⟩
        · exact ⟨.inr inside, shaped⟩
      · rintro ⟨rfl | inside, shaped⟩
        · exact .inl rfl
        · exact .inr ⟨inside, shaped⟩
    | some violator =>
      rw [if_neg (Option.some_ne_none _), ih later item, List.mem_cons]
      constructor
      · rintro ⟨inside, shaped⟩
        exact ⟨.inr inside, shaped⟩
      · rintro ⟨rfl | inside, shaped⟩
        · rw [preScanLane_none.mpr shaped] at here
          cases here
        · exact ⟨inside, shaped⟩

theorem laneRecord_ports {platform : Platform} {item : Json} {lane : LaneRecord}
    (read : laneRecord platform item = some lane) :
    portText item "origin_port" = .ok (.str lane.originPort.code) ∧
      portText item "destination_port" = .ok (.str lane.destinationPort.code) := by
  obtain ⟨-, members, rfl, origin, destination, -⟩ := laneRecord_spec platform read
  have text : ∀ {name : String} {port : PortCode}, (find name members).bind portCode = some port →
      portText (.obj members) name = .ok (.str port.code) := by
    intro name port found
    obtain ⟨value, named, valueRead⟩ := Option.bind_eq_some_iff.mp found
    obtain ⟨fields, rfl, code, -⟩ := portCode_code valueRead
    have filled : fields ≠ [] := by
      rintro rfl
      cases code
    simp [portText, named, Json.truthy, filled, Json.getOrEmpty, code, bind, Except.bind]
  exact ⟨text origin, text destination⟩

end Onramp.Excel
