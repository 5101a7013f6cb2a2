import Onramp.Vertex

/-!
Stage 2 for EDIFACT: the segments of a PRICAT message are grouped into clusters that
start at a LIN, each cluster is read deterministically, and the model is asked only
about a cluster that cannot be read.
-/
namespace Onramp.Edifact
open Onramp.Python
open Onramp.Values
open Onramp.Models
open Onramp.Schema
open Onramp.Vertex

/-- `EdifactExtractionError(message)`. -/
def edifactExtractionError (message : String) : PyExc := PyExc.mk' .edifactExtractionError message

/-- An element of a segment: a text or a composite. -/
inductive Element
  | text (s : String)
  | composite (parts : List String)
  deriving DecidableEq

/-- `str(element)`. -/
def Element.toStr : Element → String
  | .text s => s
  | .composite parts => listRepr (parts.map strRepr)

structure Segment where
  tag : String
  elements : List Element
  deriving DecidableEq

def segmentToDict (segment : Segment) : Json :=
  let element : Element → Json
    | .text s => .str s
    | .composite parts => .arr (parts.map .str)
  .obj [("tag", .str segment.tag), ("elements", .arr (segment.elements.map element))]

variable (platform : Platform)

/-- `s.split(":")`. -/
def splitColon (s : String) : List String := (s.toList.splitOn ':').map String.ofList

def parseDtmSegment (elements : List Element) : Option String × Option Date :=
  match elements with
  | [] => (none, none)
  | first :: _ =>
    let parts : List String :=
      match first with
      | .composite parts => parts.map strip
      | .text s => (splitColon s).map strip
    match parts with
    | qualifier :: value :: rest =>
      let fmt := rest.head?.getD "102"
      if fmt ≠ "102" ∨ value.length ≠ 8 then (some qualifier, none)
      else (some qualifier, platform.strptimeYmd value)
    | _ => (none, none)

/-- `_extract_interchange_validity`: the start and the end of validity. -/
def extractInterchangeValidity (segments : List Segment) : Option Date × Option Date :=
  segments.foldl (fun found segment =>
    if segment.tag ≠ "DTM" then found
    else
      match parseDtmSegment platform segment.elements with
      | (some qualifier, some parsed) =>
        if qualifier = "36" then (found.1, some parsed)
        else if qualifier = "137" then (some parsed, found.2)
        else found
      | _ => found) (none, none)

/-- The clustering loop, with the cluster that is open. -/
def clustersFrom : List Segment → List Segment → List (List Segment)
  | current, [] => if current = [] then [] else [current]
  | current, segment :: rest =>
    if segment.tag = "LIN" then
      (if current = [] then [] else [current]) ++ clustersFrom [segment] rest
    else if segment.tag = "UNT" then if current = [] then [] else [current]
    else if current = [] then clustersFrom [] rest
    else clustersFrom (current ++ [segment]) rest

/-- `_parse_lid_segment`: a lane, or nothing when the model has to be asked. -/
def parseLidSegment (elements : List Element) (sheetLabel : String) (rowIndex : Nat) : Raises (Option LaneRecord) :=
  match elements with
  | e0 :: e1 :: e2 :: e3 :: e4 :: e5 :: _ =>
    let origin := platform.upper (strip e0.toStr)
    let destination := platform.upper (strip e1.toStr)
    let equipment := platform.upper (strip e2.toStr)
    match EquipmentType.args.find? (fun value => value.literal = equipment) with
    | none => .ok none
    | some equipmentType =>
      if origin.length ≠ 5 ∨ destination.length ≠ 5 then .ok none
      else
        match platform.decimalOfText (strip e3.toStr), platform.dateFromIsoformat (strip e4.toStr),
          platform.dateFromIsoformat (strip e5.toStr) with
        | some baseRate, some validityStart, some validityEnd => do
          let originPort ← checked "PortCode" PortCode.Valid ⟨origin⟩
          let destinationPort ← checked "PortCode" PortCode.Valid ⟨destination⟩
          let sourceRowReference ← checked "SourceRow" SourceRow.Valid
            { sheetName := sheetLabel, rowNumber := rowIndex, cellReference := s!"LIN:{rowIndex}" }
          match baseRate with
          | none => .error (validationError "LaneRecord")
          | some baseRateUsd =>
            let lane ← checked "LaneRecord" LaneRecord.Valid
              { laneId := s!"edi-row-{rowIndex}", originPort, destinationPort, equipmentType, commodityCode := none,
                baseRateUsd, surcharges := [], transitTimeDays := none, validityStart, validityEnd, sourceRowReference }
            return some lane
        | _, _, _ => .ok none
  | _ => .ok none

/-- `_disambiguate_via_flash`, for the cluster at this position. -/
def disambiguateViaFlash (services : Services) (position : Nat) (segments : List Segment) (laneId : String) :
    Raises (Option LaneRecord) :=
  let request : Request :=
    { model := "gemini-3.1-flash-lite", temperature := "0.0",
      contents := s!"Cluster lane_id={laneId}\nSegments:\n" ++
        services.platform.jsonDumps (.arr (segments.map segmentToDict)) ++ "\nReturn one LaneRecord JSON." }
  let asked : Raises (Option LaneRecord) := do
    let response ← services.generate request [position]
    let text := response.text.getD ""
    if text = "" then return none
    else
      let parsed ← services.platform.jsonLoads text
      let lane ← modelValidate "LaneRecord" (laneRecord services.platform) parsed
      return some lane
  match asked with
  | .ok lane => .ok lane
  | .error exc => if exc.isException then .ok none else .error exc

/-- A lane recovered by the model takes the validity dates of the segments, where there
    are some. -/
def overrideValidity (start finish : Option Date) (lane : LaneRecord) : LaneRecord :=
  { lane with validityStart := start.getD lane.validityStart, validityEnd := finish.getD lane.validityEnd }

/-- The loop over the clusters, from the one at `position` on. -/
def laneClusters (services : Services) (sheetLabel : String) (interchange : Option Date × Option Date) :
    Nat → List (List Segment) → Raises (List LaneRecord)
  | _, [] => .ok []
  | position, cluster :: rest => do
    let dates := extractInterchangeValidity services.platform cluster
    let elements := (cluster.head?.map Segment.elements).getD []
    match ← parseLidSegment services.platform elements sheetLabel (position + 1) with
    | some lane =>
      let others ← laneClusters services sheetLabel interchange (position + 1) rest
      return lane :: others
    | none =>
      services.client [position]
      let disambiguated ← disambiguateViaFlash services position cluster s!"edi-row-{position + 1}"
      let others ← laneClusters services sheetLabel interchange (position + 1) rest
      match disambiguated with
      | none => return others
      | some lane =>
        return overrideValidity (dates.1.or interchange.1) (dates.2.or interchange.2) lane :: others

/-- `extract_edifact_payload`, of the text in the file and the segments that the tokenizer
    finds in it. -/
def extractEdifactPayload (services : Services) (filePath : String) (readText : Raises String)
    (tokenize : String → Raises (List Segment)) (jobId prospectId : String) (now : DateTime) :
    Raises (NormalizedRatesheet × ExtractionMetadata) := do
  let raw ← readText
  let segments ← tokenize raw
  let interchange := extractInterchangeValidity services.platform segments
  let lanes ← laneClusters services (pathStem filePath) interchange 0 (clustersFrom [] segments)
  if lanes = [] then .error (edifactExtractionError "no lanes parseable from EDIFACT input")
  else
    let metadata ← checked "ExtractionMetadata" ExtractionMetadata.Valid
      { extractorModel := "gemini-3.1-flash-lite", extractedAt := now, promptVersion := "stage2.edifact.v1",
        cellCount := segments.length }
    let rs ← checked "NormalizedRatesheet" NormalizedRatesheet.Valid
      { jobId, prospectId, extractionMetadata := metadata, lanes, conformalScores := [], flaggedForReview := [],
        deterministicallyRejected := [], shapeViolatingLanes := [], schemaVersion := "onramp.v1" }
    return (rs, metadata)

theorem parseLidSegment_valid {platform : Platform} {elements : List Element} {sheetLabel : String} {rowIndex : Nat}
    {lane : LaneRecord} (returned : parseLidSegment platform elements sheetLabel rowIndex = .ok (some lane)) : lane.Valid := by
  unfold parseLidSegment at returned
  simp only [bind, Except.bind, pure, Except.pure] at returned
  repeat' split at returned
  all_goals cases returned
  next built =>
  obtain ⟨valid, rfl⟩ := checked_eq_ok.mp built
  exact valid

theorem disambiguateViaFlash_valid {services : Services} {position : Nat} {segments : List Segment} {laneId : String}
    {lane : LaneRecord} (returned : disambiguateViaFlash services position segments laneId = .ok (some lane)) :
    lane.Valid := by
  unfold disambiguateViaFlash at returned
  simp only at returned
  split at returned
  · next asked =>
    cases returned
    obtain ⟨response, -, asked⟩ := bind_eq_ok.mp asked
    split at asked
    · cases asked
    simp only [bind_eq_ok, pure_eq_ok, Option.some.injEq] at asked
    obtain ⟨parsed, -, _, read, rfl⟩ := asked
    unfold modelValidate at read
    split at read
    · next record =>
      cases read
      exact (laneRecord_spec services.platform record).1
    · cases read
  · split at returned <;> cases returned

def elementsOf (cluster : List Segment) : List Element := (cluster.head?.map Segment.elements).getD []

/-- What is made of the lane that the model reads in a cluster. -/
def recovered (platform : Platform) (interchange : Option Date × Option Date) (cluster : List Segment)
    (lane : LaneRecord) : LaneRecord :=
  let dates := extractInterchangeValidity platform cluster
  overrideValidity (dates.1.or interchange.1) (dates.2.or interchange.2) lane

/-- The body of the loop over the clusters. -/
def laneOf (services : Services) (sheetLabel : String) (interchange : Option Date × Option Date) (position : Nat)
    (cluster : List Segment) : Raises (Option LaneRecord) := do
  match ← parseLidSegment services.platform (elementsOf cluster) sheetLabel (position + 1) with
  | some lane => return some lane
  | none =>
    services.client [position]
    let disambiguated ← disambiguateViaFlash services position cluster s!"edi-row-{position + 1}"
    return disambiguated.map (recovered services.platform interchange cluster)

/-- The lane of a cluster is read deterministically, or else by the model. -/
theorem laneOf_eq_ok {services : Services} {sheetLabel : String} {interchange : Option Date × Option Date}
    {position : Nat} {cluster : List Segment} {outcome : Option LaneRecord}
    (returned : laneOf services sheetLabel interchange position cluster = .ok outcome) :
    (outcome.isSome ∧ parseLidSegment services.platform (elementsOf cluster) sheetLabel (position + 1) = .ok outcome) ∨
      (parseLidSegment services.platform (elementsOf cluster) sheetLabel (position + 1) = .ok none ∧
        ∃ disambiguated, disambiguateViaFlash services position cluster s!"edi-row-{position + 1}" = .ok disambiguated ∧
          outcome = disambiguated.map (recovered services.platform interchange cluster)) := by
  unfold laneOf at returned
  obtain ⟨parsed, read, returned⟩ := bind_eq_ok.mp returned
  cases parsed with
  | some lane =>
    cases returned
    exact .inl ⟨rfl, read⟩
  | none =>
    simp only [bind_eq_ok, pure_eq_ok] at returned
    obtain ⟨_, -, disambiguated, asked, rfl⟩ := returned
    exact .inr ⟨read, disambiguated, asked, rfl⟩

/-- A step of the loop: the lane of the cluster, if any, comes before the others. -/
theorem laneClusters_cons {services : Services} {sheetLabel : String} {interchange : Option Date × Option Date}
    {position : Nat} {cluster : List Segment} {rest : List (List Segment)} {lanes : List LaneRecord}
    (returned : laneClusters services sheetLabel interchange position (cluster :: rest) = .ok lanes) :
    ∃ outcome others, laneOf services sheetLabel interchange position cluster = .ok outcome ∧
      laneClusters services sheetLabel interchange (position + 1) rest = .ok others ∧ lanes = outcome.toList ++ others := by
  unfold laneClusters at returned
  obtain ⟨parsed, read, returned⟩ := bind_eq_ok.mp returned
  cases parsed with
  | some lane =>
    simp only [bind_eq_ok, pure_eq_ok] at returned
    obtain ⟨others, later, rfl⟩ := returned
    exact ⟨some lane, others, bind_eq_ok.mpr ⟨some lane, read, rfl⟩, later, rfl⟩
  | none =>
    simp only [bind_eq_ok] at returned
    obtain ⟨_, connected, disambiguated, asked, others, later, returned⟩ := returned
    have here : laneOf services sheetLabel interchange position cluster =
        .ok (disambiguated.map (recovered services.platform interchange cluster)) := by
      refine bind_eq_ok.mpr ⟨none, read, ?_⟩
      exact bind_eq_ok.mpr ⟨_, connected, bind_eq_ok.mpr ⟨disambiguated, asked, rfl⟩⟩
    refine ⟨disambiguated.map (recovered services.platform interchange cluster), others, here, later, ?_⟩
    cases disambiguated <;> cases returned <;> rfl

/-- The lanes of the clusters meet the schema, also those whose dates were replaced without validation. -/
theorem laneClusters_valid {services : Services} {sheetLabel : String} {interchange : Option Date × Option Date}
    {position : Nat} {clusters : List (List Segment)} {lanes : List LaneRecord}
    (returned : laneClusters services sheetLabel interchange position clusters = .ok lanes) : ∀ lane ∈ lanes, lane.Valid := by
  induction clusters generalizing position lanes with
  | nil =>
    cases returned
    simp
  | cons cluster rest ih =>
    obtain ⟨outcome, others, here, later, rfl⟩ := laneClusters_cons returned
    intro lane inside
    rcases List.mem_append.mp inside with own | other
    · rcases laneOf_eq_ok here with ⟨-, read⟩ | ⟨-, disambiguated, asked, rfl⟩
      · rw [Option.mem_toList.mp own] at read
        exact parseLidSegment_valid read
      · obtain ⟨answer, rfl, rfl⟩ := Option.map_eq_some_iff.mp (Option.mem_toList.mp own)
        have valid := disambiguateViaFlash_valid asked
        exact { valid with }
    · exact ih later lane other

/-- The steps of an extraction that returned: the segments, the lanes of their clusters, and the
    sheet with these lanes and nothing else. -/
theorem extractEdifactPayload_eq_ok {services : Services} {filePath : String} {readText : Raises String}
    {tokenize : String → Raises (List Segment)} {jobId prospectId : String} {now : DateTime}
    {rs : NormalizedRatesheet} {metadata : ExtractionMetadata}
    (returned : extractEdifactPayload services filePath readText tokenize jobId prospectId now = .ok (rs, metadata)) :
    ∃ raw segments lanes, readText = .ok raw ∧ tokenize raw = .ok segments ∧
      laneClusters services (pathStem filePath) (extractInterchangeValidity services.platform segments) 0
        (clustersFrom [] segments) = .ok lanes ∧
      rs.Valid ∧ rs = ⟨jobId, prospectId, metadata, lanes, [], [], [], [], "onramp.v1"⟩ := by
  unfold extractEdifactPayload at returned
  simp only [bind_eq_ok] at returned
  obtain ⟨raw, read, segments, tokenized, lanes, clustered, returned⟩ := returned
  split at returned
  · cases returned
  simp only [bind_eq_ok, pure_eq_ok, Prod.mk.injEq] at returned
  obtain ⟨_, -, _, built, rfl, rfl⟩ := returned
  obtain ⟨valid, rfl⟩ := checked_eq_ok.mp built
  exact ⟨raw, segments, lanes, read, tokenized, clustered, valid, rfl⟩

theorem extractEdifactPayload_valid {services : Services} {filePath : String} {readText : Raises String}
    {tokenize : String → Raises (List Segment)} {jobId prospectId : String} {now : DateTime}
    {result : NormalizedRatesheet × ExtractionMetadata}
    (returned : extractEdifactPayload services filePath readText tokenize jobId prospectId now = .ok result) :
    result.1.Valid ∧ result.1.flaggedForReview = [] := by
  obtain ⟨rs, metadata⟩ := result
  obtain ⟨_, _, lanes, -, -, clustered, valid, rfl⟩ := extractEdifactPayload_eq_ok returned
  -- The constructor takes the lanes as they are, since they are records already.
  exact ⟨{ valid with lanes := laneClusters_valid clustered }, rfl⟩

end Onramp.Edifact
