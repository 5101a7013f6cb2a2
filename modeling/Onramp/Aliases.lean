import Onramp.ShapeScan
import Onramp.Normalizer

/-!
The way of a workbook row with resolvable port strings: the scan of the cells, the scan
of the reply, the schema of the ports, and the resolver of Stage 3. A row reaches the
resolver only when both strings already have the UN/LOCODE shape, so that carrier aliases
of any other shape are rejected before they are looked up.
-/
namespace Onramp.Aliases
open Onramp.Python
open Onramp.Values
open Onramp.Models
open Onramp.Schema
open Onramp.Vertex
open Onramp.Cells
open Onramp.Excel
open Onramp.Ports
open Onramp.Normalizer
open Onramp.ShapeScan
open Onramp.Library.Keyed (find)

/-- The port strings of a row, in the port columns that the header names. -/
structure PortsOf (columnMap : ColumnMap) (cells : List Cell) (place : String × Nat) (origin destination : String) :
    Prop where
  hasOrigin : ∃ cell ∈ cells, cell.place = place ∧ roleOf columnMap cell = some .origin
  hasDestination : ∃ cell ∈ cells, cell.place = place ∧ roleOf columnMap cell = some .destination
  origin : ∀ cell ∈ cells, cell.place = place → roleOf columnMap cell = some .origin → cell.value.scanText = origin
  destination : ∀ cell ∈ cells, cell.place = place → roleOf columnMap cell = some .destination →
    cell.value.scanText = destination

/-- The row is lifted out before the model sees it. -/
def LiftedBefore (platform : Platform) (cells : List Cell) (place : String × Nat) : Prop :=
  ∃ columnMap, identifyPortColumns platform cells = some columnMap ∧ ViolatingRow columnMap cells place

/-- The lanes of the reply. -/
def replyLanes (services : Services) (cells : List Cell) (jobId prospectId : String) : Raises (List Json) := do
  let (shown, _) ← preLlmScan services.platform cells
  let response ← generateWithRetry services (buildPrompt services.platform jobId prospectId shown)
  let reply ← parseResponseText services.platform response
  let body ← assignable reply
  ((find "lanes" body).getD (.arr [])).iterate

/-- A row of a workbook in a run of Stage 2 and Stage 3 that returned, with a model that
    passes the port strings through: when the row is shown to it, its reply has the lane
    `item` with these strings, and the samples about that lane repeat them. -/
structure RowRun where
  services : Services
  reference : Reference
  cells : List Cell
  jobId : String
  prospectId : String
  extractedAt : DateTime
  normalizedAt : DateTime
  payload : NormalizedRatesheet
  metadata : ExtractionMetadata
  updated : NormalizedRatesheet
  results : List ConsensusResult
  items : List Json
  place : String × Nat
  origin : String
  destination : String
  item : Json
  extracted : extractFromCells (services.stage 2) cells jobId prospectId extractedAt = .ok (payload, metadata)
  replied : replyLanes (services.stage 2) cells jobId prospectId = .ok items
  normalized : normalizeLanes (services.stage 3) reference normalizedAt payload = .ok (updated, results)
  labelled : ∀ columnMap, identifyPortColumns services.platform cells = some columnMap →
    PortsOf columnMap cells place origin destination
  carried : ¬ LiftedBefore services.platform cells place → item ∈ items ∧
    portText item "origin_port" = .ok (.str origin) ∧ portText item "destination_port" = .ok (.str destination)
  repeated : ∀ position lane consensus, payload.lanes[position]? = some lane →
    laneRecord services.platform item = some lane →
    ensembleForLane (services.stage 3) position lane = .ok consensus → ∀ vote ∈ consensus.votes,
      vote.lane.originPort = lane.originPort ∧ vote.lane.destinationPort = lane.destinationPort

namespace RowRun
variable (row : RowRun)

/-- The lane at this position of the payload is that of the row. -/
def LaneAt (position : Nat) (lane : LaneRecord) : Prop :=
  row.payload.lanes[position]? = some lane ∧ laneRecord row.services.platform row.item = some lane

/-- The row is no shape violator, and its lane is resolved to these codes. -/
structure Resolved (originCode destinationCode : String) : Prop where
  notLiftedBefore : ¬ LiftedBefore row.services.platform row.cells row.place
  notLiftedAfter : ∀ sheetName idx, preScanLane row.services.platform sheetName idx row.item = .ok none
  extracted : ∃ position lane, row.LaneAt position lane
  resolved : ∀ position lane, row.LaneAt position lane → ∃ consensus kept,
    ensembleForLane (row.services.stage 3) position lane = .ok consensus ∧
      settleLane (row.services.stage 3) row.reference lane consensus = .ok (.kept kept) ∧ kept ∈ row.updated.lanes ∧
      kept.originPort = ⟨originCode⟩ ∧ kept.destinationPort = ⟨destinationCode⟩

/-- The samples about the lane of the row find a majority in every field. -/
def Majority : Prop :=
  ∀ position lane consensus, row.LaneAt position lane →
    ensembleForLane (row.services.stage 3) position lane = .ok consensus → consensus.consensusLane ≠ none

variable {row}

theorem shaped_of_laneAt {position : Nat} {lane : LaneRecord} (at' : row.LaneAt position lane)
    (shown : ¬ LiftedBefore row.services.platform row.cells row.place) :
    lane.originPort.code = row.origin ∧ lane.destinationPort.code = row.destination ∧ lane.Valid := by
  obtain ⟨-, origin, destination⟩ := row.carried shown
  obtain ⟨originRead, destinationRead⟩ := laneRecord_ports at'.2
  rw [origin] at originRead
  rw [destination] at destinationRead
  exact ⟨(Json.str.inj (Except.ok.inj originRead)).symm, (Json.str.inj (Except.ok.inj destinationRead)).symm,
    (laneRecord_spec _ at'.2).1⟩

theorem not_liftedBefore (origin : unlocodeMatch row.origin = true) (destination : unlocodeMatch row.destination = true) :
    ¬ LiftedBefore row.services.platform row.cells row.place := by
  rintro ⟨columnMap, identified, cell, inside, bad, here⟩
  have ports := row.labelled columnMap identified
  cases role : roleOf columnMap cell with
  | none => simp [violates, role] at bad
  | some side =>
    cases side with
    | origin => simp [violates, ports.origin cell inside here role, origin] at bad
    | destination => simp [violates, ports.destination cell inside here role, destination] at bad

/-- The lanes of the payload are read from the lanes of the reply that survive the scan. -/
theorem payload_lanes (row : RowRun) :
    ∃ surviving, (∀ item, item ∈ surviving ↔ item ∈ row.items ∧ ShapedLane item) ∧
      allOf (laneRecord row.services.platform) surviving = some row.payload.lanes := by
  obtain ⟨shown, preLlmViolators, response, reply, scanned, answered, parsed, built⟩ := extractFromCells_eq_ok row.extracted
  obtain ⟨body, surviving, postLlmViolators, lanes, assigned, swept, read, -, payload⟩ := payloadOf_eq_ok built
  have items := row.replied
  unfold replyLanes at items
  simp only [bind_eq_ok, scanned, answered, parsed, assigned, Except.ok.injEq, exists_eq_left'] at items
  unfold preScanShapeViolators at swept
  rw [items] at swept
  refine ⟨surviving, preScanFrom_surviving swept, ?_⟩
  rw [payload]
  exact read

theorem laneAt_of_shaped (origin : unlocodeMatch row.origin = true) (destination : unlocodeMatch row.destination = true) :
    ∃ position lane, row.LaneAt position lane := by
  obtain ⟨inside, originText, destinationText⟩ := row.carried (not_liftedBefore origin destination)
  obtain ⟨surviving, swept, read⟩ := payload_lanes row
  have survives := (swept row.item).mpr ⟨inside, _, _, originText, destinationText, origin, destination⟩
  obtain ⟨lane, member, laneRead⟩ := mem_left_of_forall₂ (allOf_forall.mp read) survives
  obtain ⟨position, here⟩ := List.getElem?_of_mem member
  exact ⟨position, lane, here, laneRead⟩

theorem resolved_at {originCode destinationCode : String}
    (originKnown : canonicalOf row.services.platform row.reference row.origin = some originCode)
    (destinationKnown : canonicalOf row.services.platform row.reference row.destination = some destinationCode)
    (originShaped : PortCode.Valid ⟨originCode⟩) (destinationShaped : PortCode.Valid ⟨destinationCode⟩)
    (shown : ¬ LiftedBefore row.services.platform row.cells row.place) (majority : row.Majority) {position : Nat}
    {lane : LaneRecord} (at' : row.LaneAt position lane) :
    ∃ consensus kept, ensembleForLane (row.services.stage 3) position lane = .ok consensus ∧
      settleLane (row.services.stage 3) row.reference lane consensus = .ok (.kept kept) ∧ kept ∈ row.updated.lanes ∧
      kept.originPort = ⟨originCode⟩ ∧ kept.destinationPort = ⟨destinationCode⟩ := by
  obtain ⟨originText, destinationText, valid⟩ := shaped_of_laneAt at' shown
  obtain ⟨settled, each, lanes, -, -⟩ := normalizeLanes_eq_ok row.normalized
  obtain ⟨consensus, outcome, voted, moved, inside⟩ := normalizeEach_at each at'.1
  rw [Nat.zero_add] at voted
  obtain ⟨consensusLane, chosen⟩ := Option.ne_none_iff_exists'.mp (majority position lane consensus at' voted)
  obtain ⟨-, -, votes⟩ := ensembleForLane_spec voted
  obtain ⟨-, ⟨first, firstInside, originVote⟩, ⟨second, secondInside, destinationVote⟩⟩ := votes consensusLane chosen
  have originSame : consensusLane.originPort.code = row.origin := by
    rw [originVote, (row.repeated position lane consensus at'.1 at'.2 voted first firstInside).1, originText]
  have destinationSame : consensusLane.destinationPort.code = row.destination := by
    rw [destinationVote, (row.repeated position lane consensus at'.1 at'.2 voted second secondInside).2, destinationText]
  have bounded : ∀ text, unlocodeExact text = true → lengthWithin 2 16 text := by
    intro text shaped
    have five := length_of_exact shaped
    exact ⟨by omega, by omega⟩
  obtain ⟨origin, originResolved, originFound⟩ := resolvePortCode_known _ _ originKnown originShaped
    (bounded _ (originText ▸ valid.originPort))
  obtain ⟨destination, destinationResolved, destinationFound⟩ := resolvePortCode_known _ _ destinationKnown
    destinationShaped (bounded _ (destinationText ▸ valid.destinationPort))
  have kept : settleLane (row.services.stage 3) row.reference lane consensus = _ :=
    settleLane_resolved chosen (originSame ▸ originResolved) (destinationSame ▸ destinationResolved) originFound
      destinationFound
  rw [kept] at moved
  cases moved
  refine ⟨consensus, _, voted, kept, ?_, rfl, rfl⟩
  rw [lanes, List.mem_filterMap]
  exact ⟨_, inside, rfl⟩

end RowRun

/-- A row with resolvable port strings is no shape violator and is resolved to its canonical
    codes if and only if both strings already have the UN/LOCODE shape, and the samples
    about its lane find a majority. -/
theorem row_resolved_iff (row : RowRun) (originCode destinationCode : String)
    (originKnown : canonicalOf row.services.platform row.reference row.origin = some originCode)
    (destinationKnown : canonicalOf row.services.platform row.reference row.destination = some destinationCode)
    (originShaped : PortCode.Valid ⟨originCode⟩) (destinationShaped : PortCode.Valid ⟨destinationCode⟩) :
    row.Resolved originCode destinationCode ↔
      unlocodeExact row.origin = true ∧ unlocodeExact row.destination = true ∧ row.Majority := by
  constructor
  · intro resolved
    obtain ⟨position, lane, at'⟩ := resolved.extracted
    obtain ⟨originText, destinationText, valid⟩ := RowRun.shaped_of_laneAt at' resolved.notLiftedBefore
    refine ⟨originText ▸ valid.originPort, destinationText ▸ valid.destinationPort, ?_⟩
    intro position' lane' consensus at'' voted none
    obtain ⟨consensus', kept, voted', moved, -⟩ := resolved.resolved position' lane' at''
    rw [voted] at voted'
    cases voted'
    simp [settleLane, none] at moved
  · rintro ⟨originExact, destinationExact, majority⟩
    have origin := unlocodeMatch_of_exact originExact
    have destination := unlocodeMatch_of_exact destinationExact
    have shown := RowRun.not_liftedBefore origin destination
    obtain ⟨-, originText, destinationText⟩ := row.carried shown
    exact ⟨shown, fun sheetName idx => preScanLane_none.mpr ⟨_, _, originText, destinationText, origin, destination⟩,
      RowRun.laneAt_of_shaped origin destination, fun position lane at' =>
        RowRun.resolved_at originKnown destinationKnown originShaped destinationShaped shown majority at'⟩

/-- The header, and a row from Buenos Aires by its carrier alias. -/
def aliasCells : List Cell :=
  [⟨"Rates", 1, 1, "A1", .text "Origin"⟩, ⟨"Rates", 1, 2, "B1", .text "Destination"⟩,
    ⟨"Rates", 2, 1, "A2", .text "BSAS"⟩, ⟨"Rates", 2, 2, "B2", .text "CNSHA"⟩]

def aliasReference : Reference := ⟨["ARBUE", "CNSHA"], [("BSAS", "ARBUE")]⟩

/-- The payload of Stage 2: the row is a shape violator. -/
def aliasPayload : NormalizedRatesheet where
  jobId := "j1"
  prospectId := "acme"
  extractionMetadata := ⟨"gemini-3.1-flash-lite", ⟨⟨2026, 6, 1⟩, 0⟩, "stage2.excel.v2", 4⟩
  lanes := []
  conformalScores := []
  flaggedForReview := []
  deterministicallyRejected := []
  shapeViolatingLanes := [⟨"shape_violator_Rates_2", "BSAS", "CNSHA", ⟨"Rates", 2, "A2"⟩⟩]
  schemaVersion := "onramp.v1"

theorem aliasCells_identified :
    identifyPortColumns (replying silentReply).platform aliasCells = some [("Rates", ⟨1, 2, 1⟩)] := by decide +kernel

theorem aliasCells_lifted : LiftedBefore (replying silentReply).platform aliasCells ("Rates", 2) :=
  ⟨[("Rates", ⟨1, 2, 1⟩)], aliasCells_identified, ⟨"Rates", 2, 1, "A2", .text "BSAS"⟩, by decide, by decide, rfl⟩

/-- The row in a run whose model has nothing to reply. -/
def aliasRow : RowRun where
  services := replying silentReply
  reference := aliasReference
  cells := aliasCells
  jobId := "j1"
  prospectId := "acme"
  extractedAt := ⟨⟨2026, 6, 1⟩, 0⟩
  normalizedAt := ⟨⟨2026, 6, 1⟩, 0⟩
  payload := aliasPayload
  metadata := aliasPayload.extractionMetadata
  updated := aliasPayload
  results := []
  items := []
  place := ("Rates", 2)
  origin := "BSAS"
  destination := "CNSHA"
  item := .null
  extracted := by decide +kernel
  replied := by rfl
  normalized := by decide +kernel
  labelled := by
    intro columnMap identified
    rw [aliasCells_identified] at identified
    cases identified
    exact ⟨by decide, by decide, by decide, by decide⟩
  carried := fun shown => absurd aliasCells_lifted shown
  repeated := by
    intro position lane consensus here
    cases position <;> cases here

/-- The reference tables know both strings. -/
theorem aliasRow_canonical :
    canonicalOf aliasRow.services.platform aliasRow.reference aliasRow.origin = some "ARBUE" ∧
      canonicalOf aliasRow.services.platform aliasRow.reference aliasRow.destination = some "CNSHA" := by decide +kernel

theorem row_resolved_iff_alias :
    aliasRow.Resolved "ARBUE" "CNSHA" ↔
      unlocodeExact aliasRow.origin = true ∧ unlocodeExact aliasRow.destination = true ∧ aliasRow.Majority :=
  row_resolved_iff aliasRow "ARBUE" "CNSHA" aliasRow_canonical.1 aliasRow_canonical.2 (by decide) (by decide)

/-- The alias BSAS stands for ARBUE in the reference tables, and a row with it is lifted out
    as a shape violator before it can be looked up. -/
theorem alias_row_not_resolved :
    ¬ ∀ (row : RowRun) (originCode destinationCode : String),
      canonicalOf row.services.platform row.reference row.origin = some originCode →
      canonicalOf row.services.platform row.reference row.destination = some destinationCode →
      PortCode.Valid ⟨originCode⟩ → PortCode.Valid ⟨destinationCode⟩ → row.Resolved originCode destinationCode := by
  intro always
  have resolved := always aliasRow "ARBUE" "CNSHA" aliasRow_canonical.1 aliasRow_canonical.2 (by decide) (by decide)
  exact resolved.notLiftedBefore aliasCells_lifted

end Onramp.Aliases
