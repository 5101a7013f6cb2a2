import Mathlib.Data.List.ReduceOption
import Onramp.ShapeScan

/-!
The lanes that the scan lifts out of a reply, and their entries in the payload. The two sources of
violators are united by the row that their references name, where a row that is guessed for a lane without
a reference counts like one that was named: a lifted lane has an entry of its own unless one of that row
came before.
-/
namespace Onramp.LiftedLanes
open Onramp.Python
open Onramp.Values
open Onramp.Models
open Onramp.Schema (sourceRow)
open Onramp.Vertex
open Onramp.Cells
open Onramp.Excel
open Onramp.ShapeScan (scannedCells)
open Onramp.Library.Keyed

/-- The lane at the position of the reply is lifted to this violator. -/
def LiftedTo (platform : Platform) (lanes : List Json) (position : Nat) (violator : ShapeViolatingLane) : Prop :=
  ∃ lane, lanes[position]? = some lane ∧ preScanLane platform "Rates" position lane = .ok (some violator)

/-- The entries are the violators detected before the call and those lifted out of the reply, first come
    for each row. -/
structure Represents (platform : Platform) (lanes : List Json) (detected entries : List ShapeViolatingLane) : Prop where
  lifted : ∀ position lane, lanes[position]? = some lane → ¬ ShapedLane lane →
    ∃ violator, LiftedTo platform lanes position violator
  represented : ∀ position violator, LiftedTo platform lanes position violator → rowKey violator ∈ entries.map rowKey
  own : ∀ position violator, LiftedTo platform lanes position violator →
    (∀ other ∈ detected, rowKey other ≠ rowKey violator) →
    (∀ earlier other, earlier < position → LiftedTo platform lanes earlier other → rowKey other ≠ rowKey violator) →
    violator ∈ entries
  once : (entries.map rowKey).Nodup
  source : ∀ entry ∈ entries, entry ∈ detected ∨ ∃ position, LiftedTo platform lanes position entry

/-- `lane.get("source_row_reference")`. -/
def reference (lane : Json) : Json := (lane.get "source_row_reference").toOption.getD .null

/-- The row of the lane at this position: that of its reference, or the one that is synthesized. -/
def rowOf (platform : Platform) (position : Nat) (lane : Json) : String × Nat :=
  match sourceRow platform (reference lane) with
  | some row => (row.sheetName, row.rowNumber)
  | none => ("Rates", position + 2)

/-- The lane itself refers to the row of one of these violators. -/
def RefersTo (platform : Platform) (violators : List ShapeViolatingLane) (lane : Json) : Prop :=
  ∃ row, sourceRow platform (reference lane) = some row ∧
    ∃ violator ∈ violators, rowKey violator = (row.sheetName, row.rowNumber)

/-- The lane at this position is lifted, and the row that it refers to, if any, has no entry when the reply is scanned. -/
structure NeedsEntry (platform : Platform) (lanes : List Json) (detected : List ShapeViolatingLane) (position : Nat) (lane : Json) :
    Prop where
  here : lanes[position]? = some lane
  apart : ¬ ShapedLane lane
  undetected : ¬ RefersTo platform detected lane

/-- Behind the entries for the rows that were detected before the call, every lane that is lifted out of the reply has one
    of its own, unless it refers to one of these rows. -/
def OwnEntries (platform : Platform) (lanes : List Json) (detected entries : List ShapeViolatingLane) : Prop :=
  ∃ (front back : List ShapeViolatingLane) (place : Nat → Nat), entries = front ++ back ∧
    (∀ violator ∈ detected, rowKey violator ∈ front.map rowKey) ∧
    (∀ position lane, NeedsEntry platform lanes detected position lane →
      ∃ violator, preScanLane platform "Rates" position lane = .ok (some violator) ∧ back[place position]? = some violator) ∧
    ∀ position lane later other, NeedsEntry platform lanes detected position lane →
      NeedsEntry platform lanes detected later other → place position = place later → position = later

/-- The rows of the lanes that need an entry are apart from those that were detected and from one another. -/
structure RowsApart (platform : Platform) (lanes : List Json) (detected : List ShapeViolatingLane) : Prop where
  fromDetected : ∀ position lane, NeedsEntry platform lanes detected position lane →
    ∀ violator ∈ detected, rowKey violator ≠ rowOf platform position lane
  fromLifted : ∀ position lane later other, NeedsEntry platform lanes detected position lane →
    NeedsEntry platform lanes detected later other → position ≠ later →
    rowOf platform position lane ≠ rowOf platform later other

variable {platform : Platform} {sheetName : String}

/-- The scan walks the lanes in order and collects what they are lifted to. -/
theorem preScanFrom_run {idx : Nat} {lanes surviving : List Json} {violating : List ShapeViolatingLane}
    (scanned : preScanFrom platform sheetName idx lanes = .ok (surviving, violating)) :
    ∃ outcomes, List.Forall₂ (fun entry outcome => preScanLane platform sheetName entry.2 entry.1 = .ok outcome)
      (lanes.zipIdx idx) outcomes ∧ violating = outcomes.reduceOption := by
  induction lanes generalizing idx surviving violating with
  | nil =>
    cases scanned
    exact ⟨[], .nil, rfl⟩
  | cons lane rest ih =>
    obtain ⟨lifted, surviving', violating', here, later, -, rfl⟩ := preScanFrom_cons scanned
    obtain ⟨outcomes, walked, rfl⟩ := ih later
    refine ⟨lifted :: outcomes, .cons here walked, ?_⟩
    cases lifted <;> rfl

/-- The scan walked the lanes with these outcomes. -/
def Walked (platform : Platform) (lanes : List Json) (outcomes : List (Option ShapeViolatingLane)) : Prop :=
  List.Forall₂ (fun entry outcome => preScanLane platform "Rates" entry.2 entry.1 = .ok outcome) lanes.zipIdx outcomes

variable {lanes : List Json} {outcomes : List (Option ShapeViolatingLane)} {position : Nat}

theorem Walked.outcome (walked : Walked platform lanes outcomes) {lane : Json} (inside : lanes[position]? = some lane) :
    ∃ outcome, outcomes[position]? = some outcome ∧ preScanLane platform "Rates" position lane = .ok outcome := by
  obtain ⟨same, each⟩ := List.forall₂_iff_get.mp walked
  obtain ⟨short, here⟩ := List.getElem?_eq_some_iff.mp inside
  have short' : position < outcomes.length := by rw [← same, List.length_zipIdx]; exact short
  refine ⟨outcomes[position], List.getElem?_eq_getElem short', ?_⟩
  have scanned := each position (by rw [List.length_zipIdx]; exact short) short'
  simpa [here] using scanned

theorem Walked.liftedTo_iff (walked : Walked platform lanes outcomes) {violator : ShapeViolatingLane} :
    LiftedTo platform lanes position violator ↔ outcomes[position]? = some (some violator) := by
  constructor
  · rintro ⟨lane, inside, scanned⟩
    obtain ⟨outcome, found, scanned'⟩ := walked.outcome inside
    rw [scanned] at scanned'
    rw [found, ← Except.ok.inj scanned']
  · intro found
    obtain ⟨short, -⟩ := List.getElem?_eq_some_iff.mp found
    have short' : position < lanes.length := by
      have same := List.Forall₂.length_eq walked
      rw [List.length_zipIdx] at same
      omega
    obtain ⟨outcome, found', scanned⟩ := walked.outcome (List.getElem?_eq_getElem short')
    rw [found] at found'
    cases found'
    exact ⟨_, List.getElem?_eq_getElem short', scanned⟩

/-- The union of the two sources, by row. -/
theorem union_represents (walked : Walked platform lanes outcomes) (detected : List ShapeViolatingLane) :
    Represents platform lanes detected (firstPerKey rowKey [] (detected ++ outcomes.reduceOption)) := by
  have member : ∀ {position violator}, LiftedTo platform lanes position violator → violator ∈ outcomes.reduceOption := by
    intro position violator lifted
    exact List.reduceOption_mem_iff.mpr (List.mem_of_getElem? (walked.liftedTo_iff.mp lifted))
  refine ⟨?_, ?_, ?_, firstPerKey_nodup rowKey [] _, ?_⟩
  · intro position lane inside apart
    obtain ⟨outcome, -, scanned⟩ := walked.outcome inside
    cases outcome with
    | none => exact absurd (preScanLane_none.mp scanned) apart
    | some violator => exact ⟨violator, lane, inside, scanned⟩
  · intro position violator lifted
    rcases key_mem_firstPerKey rowKey [] _ (List.mem_append_right detected (member lifted)) with seen | kept
    · cases seen
    · exact kept
  · intro position violator lifted undetected first
    obtain ⟨short, here⟩ := List.getElem?_eq_some_iff.mp (walked.liftedTo_iff.mp lifted)
    have split : outcomes = outcomes.take position ++ some violator :: outcomes.drop (position + 1) := by
      rw [← here, ← List.drop_eq_getElem_cons short, List.take_append_drop]
    rw [split, List.reduceOption_append, List.reduceOption_cons_of_some, ← List.append_assoc]
    refine mem_firstPerKey_of_first rowKey (by simp) (fun other before => ?_)
    rcases List.mem_append.mp before with old | earlier
    · exact undetected other old
    · obtain ⟨index, found⟩ := List.mem_iff_getElem?.mp (List.reduceOption_mem_iff.mp earlier)
      obtain ⟨low, -⟩ := List.getElem?_eq_some_iff.mp found
      rw [List.length_take] at low
      rw [List.getElem?_take_of_lt (by omega)] at found
      exact first index other (by omega) (walked.liftedTo_iff.mpr found)
  · intro entry inside
    rcases List.mem_append.mp ((firstPerKey_sublist rowKey [] _).mem inside) with old | new
    · exact .inl old
    · obtain ⟨position, found⟩ := List.mem_iff_getElem?.mp (List.reduceOption_mem_iff.mp new)
      exact .inr ⟨position, walked.liftedTo_iff.mpr found⟩

/-- An extraction that returned walked the lanes of the reply, and its entries are the union. -/
theorem extraction_walked {services : Services} {cells : List Cell} {jobId prospectId : String} {now : DateTime}
    {payload : NormalizedRatesheet} {metadata : ExtractionMetadata}
    (returned : extractFromCells services cells jobId prospectId now = .ok (payload, metadata)) :
    ∃ shown detected response body lanes outcomes, preLlmScan services.platform cells = .ok (shown, detected) ∧
      generateWithRetry services (buildPrompt services.platform jobId prospectId shown) = .ok response ∧
      parseResponseText services.platform response = .ok (.obj body) ∧
      ((find "lanes" body).getD (.arr [])).iterate = .ok lanes ∧ Walked services.platform lanes outcomes ∧
      payload.shapeViolatingLanes = firstPerKey rowKey [] (detected ++ outcomes.reduceOption) := by
  obtain ⟨shown, detected, response, reply, scanned, answered, parsed, built⟩ := extractFromCells_eq_ok returned
  obtain ⟨body, surviving, lifted, records, assigned, swept, -, -, rfl⟩ := payloadOf_eq_ok built
  cases reply with
  | obj members =>
    cases assigned
    unfold preScanShapeViolators at swept
    obtain ⟨lanes, iterated, swept⟩ := bind_eq_ok.mp swept
    obtain ⟨outcomes, walked, rfl⟩ := preScanFrom_run swept
    exact ⟨shown, detected, response, body, lanes, outcomes, scanned, answered, parsed, iterated, walked, rfl⟩
  | null | bool | int | float | str | arr => cases assigned

/-- When an extraction returns, every lane that is lifted out of the reply has its row in the payload, and an
    entry of its own unless a violator of that row was detected or lifted before it. -/
theorem lifted_lanes_represented (services : Services) (cells : List Cell) (jobId prospectId : String) (now : DateTime)
    (payload : NormalizedRatesheet) (metadata : ExtractionMetadata)
    (returned : extractFromCells services cells jobId prospectId now = .ok (payload, metadata)) :
    ∃ shown detected response body lanes, preLlmScan services.platform cells = .ok (shown, detected) ∧
      generateWithRetry services (buildPrompt services.platform jobId prospectId shown) = .ok response ∧
      parseResponseText services.platform response = .ok (.obj body) ∧
      ((find "lanes" body).getD (.arr [])).iterate = .ok lanes ∧
      Represents services.platform lanes detected payload.shapeViolatingLanes := by
  obtain ⟨shown, detected, response, body, lanes, outcomes, scanned, answered, parsed, iterated, walked, entries⟩ :=
    extraction_walked returned
  refine ⟨shown, detected, response, body, lanes, scanned, answered, parsed, iterated, ?_⟩
  rw [entries]
  exact union_represents walked detected

/-- The key of a violator is the row of its lane. -/
theorem rowKey_eq {lane : Json} {violator : ShapeViolatingLane}
    (lifted : preScanLane platform "Rates" position lane = .ok (some violator)) : rowKey violator = rowOf platform position lane := by
  unfold preScanLane at lifted
  simp only [bind_eq_ok] at lifted
  obtain ⟨origin, -, destination, -, lifted⟩ := lifted
  split at lifted
  · cases lifted
  simp only [bind_eq_ok, pure_eq_ok, Option.some.injEq] at lifted
  obtain ⟨laneId, -, raw, read, row, coerced, _, built, rfl⟩ := lifted
  obtain ⟨-, rfl⟩ := checked_eq_ok.mp built
  have referred : reference lane = raw := by simp [reference, read, Except.toOption]
  unfold coerceSourceRowReference at coerced
  unfold rowOf
  rw [referred]
  cases given : sourceRow platform raw with
  | some named =>
    simp only [given, Except.ok.injEq] at coerced
    subst coerced
    rfl
  | none =>
    simp only [given] at coerced
    obtain ⟨-, rfl⟩ := checked_eq_ok.mp coerced
    rfl

/-- A lane that needs an entry is the first of its row in the union. -/
theorem mem_union (walked : Walked platform lanes outcomes) {detected : List ShapeViolatingLane}
    (apart : RowsApart platform lanes detected) {lane : Json} {violator : ShapeViolatingLane}
    (needs : NeedsEntry platform lanes detected position lane)
    (lifted : preScanLane platform "Rates" position lane = .ok (some violator)) :
    violator ∈ firstPerKey rowKey [] (detected ++ outcomes.reduceOption) := by
  have row := rowKey_eq lifted
  refine (union_represents walked detected).own position violator ⟨lane, needs.here, lifted⟩ ?_ ?_
  · intro other inside
    rw [row]
    exact apart.fromDetected position lane needs other inside
  · intro earlier other before ⟨otherLane, here, otherLifted⟩
    have otherRow := rowKey_eq otherLifted
    have otherApart : ¬ ShapedLane otherLane := by
      intro shaped
      rw [preScanLane_none.mpr shaped] at otherLifted
      cases otherLifted
    rw [row, otherRow]
    by_cases refers : RefersTo platform detected otherLane
    · obtain ⟨given, read, found, inside, same⟩ := refers
      have detectedRow : rowKey found = rowOf platform earlier otherLane := by rw [same, rowOf, read]
      rw [← detectedRow]
      exact apart.fromDetected position lane needs found inside
    · exact apart.fromLifted earlier otherLane position lane ⟨here, otherApart, refers⟩ needs (by omega)

theorem ownEntries_of_rowsApart (walked : Walked platform lanes outcomes) {detected : List ShapeViolatingLane}
    (apart : RowsApart platform lanes detected) :
    OwnEntries platform lanes detected (firstPerKey rowKey [] (detected ++ outcomes.reduceOption)) := by
  obtain ⟨back, split⟩ := firstPerKey_prefix rowKey [] detected outcomes.reduceOption
  have own : ∀ position lane, NeedsEntry platform lanes detected position lane →
      ∃ violator, preScanLane platform "Rates" position lane = .ok (some violator) ∧ violator ∈ back := by
    intro position lane needs
    obtain ⟨violator, other, here, lifted⟩ := (union_represents walked detected).lifted position lane needs.here needs.apart
    cases needs.here.symm.trans here
    refine ⟨violator, lifted, ?_⟩
    have member := mem_union walked apart needs lifted
    rw [← split] at member
    refine (List.mem_append.mp member).resolve_left fun old => ?_
    have source := (firstPerKey_sublist rowKey [] detected).mem old
    exact apart.fromDetected position lane needs violator source (rowKey_eq lifted)
  -- A position is answered by the index of its violator, which tells the row.
  have indexed : ∀ position, ∃ index : Nat, ∀ lane, NeedsEntry platform lanes detected position lane →
      ∃ violator, preScanLane platform "Rates" position lane = .ok (some violator) ∧ back[index]? = some violator := by
    intro position
    by_cases wanted : ∃ lane, NeedsEntry platform lanes detected position lane
    · obtain ⟨lane, needs⟩ := wanted
      obtain ⟨violator, lifted, inside⟩ := own position lane needs
      obtain ⟨index, found⟩ := List.mem_iff_getElem?.mp inside
      refine ⟨index, fun other needs' => ?_⟩
      cases needs.here.symm.trans needs'.here
      exact ⟨violator, lifted, found⟩
    · exact ⟨0, fun lane needs => absurd ⟨lane, needs⟩ wanted⟩
  choose place answered using indexed
  refine ⟨firstPerKey rowKey [] detected, back, place, split.symm, ?_, answered, ?_⟩
  · intro violator inside
    exact (key_mem_firstPerKey rowKey [] detected inside).resolve_left List.not_mem_nil
  · intro position lane later other needs needs' same
    by_contra differ
    obtain ⟨violator, lifted, found⟩ := answered position lane needs
    obtain ⟨violator', lifted', found'⟩ := answered later other needs'
    rw [same, found'] at found
    cases found
    exact apart.fromLifted position lane later other needs needs' differ ((rowKey_eq lifted).symm.trans (rowKey_eq lifted'))

theorem rowsApart_of_ownEntries {detected entries : List ShapeViolatingLane} (once : (entries.map rowKey).Nodup)
    (own : OwnEntries platform lanes detected entries) : RowsApart platform lanes detected := by
  obtain ⟨front, back, place, rfl, covered, answered, injective⟩ := own
  rw [List.map_append, List.nodup_append] at once
  obtain ⟨-, onceBehind, disjoint⟩ := once
  constructor
  · intro position lane needs violator inside same
    obtain ⟨lifted, scanned, found⟩ := answered position lane needs
    rw [← rowKey_eq scanned] at same
    exact disjoint _ (covered violator inside) _ (List.mem_map_of_mem (List.mem_of_getElem? found)) same
  · intro position lane later other needs needs' differ same
    obtain ⟨violator, scanned, found⟩ := answered position lane needs
    obtain ⟨violator', scanned', found'⟩ := answered later other needs'
    rw [← rowKey_eq scanned, ← rowKey_eq scanned'] at same
    have places : place position = place later := by
      refine (List.getElem?_inj ?_ onceBehind).mp ?_
      · rw [List.length_map]
        exact (List.getElem?_eq_some_iff.mp found).1
      · rw [List.getElem?_map, List.getElem?_map, found, found', Option.map_some, Option.map_some, same]
    exact differ (injective position lane later other needs needs' places)

/-- When an extraction returns, every lane that is lifted out of the reply has an entry of its own, unless it refers to a row
    that was detected before the call, if and only if no synthesized row is one that was detected and no two lifted lanes
    have one other row, whether named or synthesized. -/
theorem lifted_lanes_kept_iff (services : Services) (cells : List Cell) (jobId prospectId : String) (now : DateTime)
    (payload : NormalizedRatesheet) (metadata : ExtractionMetadata)
    (returned : extractFromCells services cells jobId prospectId now = .ok (payload, metadata)) :
    ∃ shown detected response body lanes, preLlmScan services.platform cells = .ok (shown, detected) ∧
      generateWithRetry services (buildPrompt services.platform jobId prospectId shown) = .ok response ∧
      parseResponseText services.platform response = .ok (.obj body) ∧
      ((find "lanes" body).getD (.arr [])).iterate = .ok lanes ∧
      (OwnEntries services.platform lanes detected payload.shapeViolatingLanes ↔
        RowsApart services.platform lanes detected) := by
  obtain ⟨shown, detected, response, body, lanes, outcomes, scanned, answered, parsed, iterated, walked, entries⟩ :=
    extraction_walked returned
  refine ⟨shown, detected, response, body, lanes, scanned, answered, parsed, iterated, ?_⟩
  rw [entries]
  exact ⟨rowsApart_of_ownEntries (firstPerKey_nodup rowKey [] _), ownEntries_of_rowsApart walked⟩

/-- A lane of a reply with a port name for a code. -/
def namedLane (laneId origin : String) (reference : Json) : Json :=
  .obj [("lane_id", .str laneId), ("origin_port", .obj [("code", .str origin)]),
    ("destination_port", .obj [("code", .str "USNYC")]), ("source_row_reference", reference)]

def referenceTo (row : Int) : Json :=
  .obj [("sheet_name", .str "Rates"), ("row_number", .int row), ("cell_reference", .str "A1")]

/-- Two lanes of row 3, a lane without a reference, and a lane of the row that is synthesized for it. -/
def mergedLanes : List Json :=
  [namedLane "L1" "Hamburg" (referenceTo 3), namedLane "L2" "Bremen" (referenceTo 3), namedLane "L3" "Genoa" .null,
    namedLane "L4" "Antwerp" (referenceTo 4)]

/-- Services whose model replies with these lanes. -/
def namedServices (lanes : List Json) : Services where
  platform := asciiPlatform [((Json.obj [("lanes", .arr lanes)]).render "", .obj [("lanes", .arr lanes)])] sampleDigest
    sampleDigest_length
  client _ := .ok ()
  generate _ _ := .ok { text := some ((Json.obj [("lanes", .arr lanes)]).render ""), candidates := [] }
  expires _ := false

def namedViolator (laneId origin : String) (row : Nat) (cell : String) : ShapeViolatingLane :=
  ⟨laneId, origin, "USNYC", ⟨"Rates", row, cell⟩⟩

def namedPayload (cellCount : Nat) (violators : List ShapeViolatingLane) : NormalizedRatesheet :=
  { jobId := "j1", prospectId := "acme",
    extractionMetadata := ⟨"gemini-3.1-flash-lite", ⟨⟨2026, 6, 1⟩, 0⟩, promptVersion, cellCount⟩, lanes := [],
    conformalScores := [], flaggedForReview := [], deterministicallyRejected := [], shapeViolatingLanes := violators,
    schemaVersion := "onramp.v1" }

def mergedPayload : NormalizedRatesheet := namedPayload 0 [namedViolator "L1" "Hamburg" 3 "A1", namedViolator "L3" "Genoa" 4 "A4"]

theorem merged_extracted : extractFromCells (namedServices mergedLanes) [] "j1" "acme" ⟨⟨2026, 6, 1⟩, 0⟩ =
    .ok (mergedPayload, mergedPayload.extractionMetadata) := by
  decide +kernel

/-- The lane that refers to row 4 has no entry: its row is taken by the one that is synthesized for the lane before it. -/
theorem synthesized_row_swallows : ¬ OwnEntries (namedServices mergedLanes).platform mergedLanes [] mergedPayload.shapeViolatingLanes := by
  rintro ⟨front, back, place, entries, -, answered, -⟩
  have needs : NeedsEntry (namedServices mergedLanes).platform mergedLanes [] 3 (namedLane "L4" "Antwerp" (referenceTo 4)) := by
    refine ⟨rfl, fun shaped => ?_, ?_⟩
    · obtain ⟨origin, destination, read, -, code, -⟩ := shaped
      cases read
      exact absurd code (by decide)
    · rintro ⟨_, -, _, ⟨⟩, -⟩
  obtain ⟨violator, lifted, found⟩ := answered _ _ needs
  have same : preScanLane (namedServices mergedLanes).platform "Rates" 3 (namedLane "L4" "Antwerp" (referenceTo 4)) =
      .ok (some (namedViolator "L4" "Antwerp" 4 "A1")) := by decide +kernel
  cases lifted.symm.trans same
  have inside : namedViolator "L4" "Antwerp" 4 "A1" ∈ mergedPayload.shapeViolatingLanes := by
    rw [entries]
    exact List.mem_append_right front (List.mem_of_getElem? found)
  exact absurd inside (by decide)

/-- Two of the four lifted lanes have no entry: the second of row 3, and that of row 4, which comes after
    the lane without a reference. -/
theorem lanes_of_one_row_merged :
    extractFromCells (namedServices mergedLanes) [] "j1" "acme" ⟨⟨2026, 6, 1⟩, 0⟩ =
        .ok (mergedPayload, mergedPayload.extractionMetadata) ∧
      preLlmScan (namedServices mergedLanes).platform [] = .ok ([], []) ∧
      ¬ OwnEntries (namedServices mergedLanes).platform mergedLanes [] mergedPayload.shapeViolatingLanes ∧
      LiftedTo (namedServices mergedLanes).platform mergedLanes 1 (namedViolator "L2" "Bremen" 3 "A1") ∧
      namedViolator "L2" "Bremen" 3 "A1" ∉ mergedPayload.shapeViolatingLanes ∧
      LiftedTo (namedServices mergedLanes).platform mergedLanes 3 (namedViolator "L4" "Antwerp" 4 "A1") ∧
      namedViolator "L4" "Antwerp" 4 "A1" ∉ mergedPayload.shapeViolatingLanes :=
  ⟨merged_extracted, by decide +kernel, synthesized_row_swallows, ⟨_, rfl, by decide +kernel⟩, by decide,
    ⟨_, rfl, by decide +kernel⟩, by decide⟩

/-- A lane of row 7, a lane of row 3, which the scan of the cells detects, and a lane without a reference. -/
def apartLanes : List Json :=
  [namedLane "L1" "Hamburg" (referenceTo 7), namedLane "L2" "Shanghai" (referenceTo 3), namedLane "L3" "Genoa" .null]

def apartPayload : NormalizedRatesheet :=
  namedPayload 6 [⟨"shape_violator_Rates_3", "USNYC", "Shanghai", ⟨"Rates", 3, "B3"⟩⟩, namedViolator "L1" "Hamburg" 7 "A1",
    namedViolator "L3" "Genoa" 4 "A4"]

theorem apart_extracted : extractFromCells (namedServices apartLanes) scannedCells "j1" "acme" ⟨⟨2026, 6, 1⟩, 0⟩ =
    .ok (apartPayload, apartPayload.extractionMetadata) := by
  decide +kernel

theorem lifted_lanes_kept_iff_apart :
    (∃ shown detected response body lanes, preLlmScan (namedServices apartLanes).platform scannedCells = .ok (shown, detected) ∧
      generateWithRetry (namedServices apartLanes) (buildPrompt (namedServices apartLanes).platform "j1" "acme" shown) =
        .ok response ∧
      parseResponseText (namedServices apartLanes).platform response = .ok (.obj body) ∧
      ((find "lanes" body).getD (.arr [])).iterate = .ok lanes ∧
      (OwnEntries (namedServices apartLanes).platform lanes detected apartPayload.shapeViolatingLanes ↔
        RowsApart (namedServices apartLanes).platform lanes detected)) ∧
    ∃ shown detected response body lanes, preLlmScan (namedServices mergedLanes).platform [] = .ok (shown, detected) ∧
      generateWithRetry (namedServices mergedLanes) (buildPrompt (namedServices mergedLanes).platform "j1" "acme" shown) =
        .ok response ∧
      parseResponseText (namedServices mergedLanes).platform response = .ok (.obj body) ∧
      ((find "lanes" body).getD (.arr [])).iterate = .ok lanes ∧
      (OwnEntries (namedServices mergedLanes).platform lanes detected mergedPayload.shapeViolatingLanes ↔
        RowsApart (namedServices mergedLanes).platform lanes detected) :=
  ⟨lifted_lanes_kept_iff _ scannedCells "j1" "acme" ⟨⟨2026, 6, 1⟩, 0⟩ _ _ apart_extracted,
    lifted_lanes_kept_iff _ [] "j1" "acme" ⟨⟨2026, 6, 1⟩, 0⟩ _ _ merged_extracted⟩

end Onramp.LiftedLanes
