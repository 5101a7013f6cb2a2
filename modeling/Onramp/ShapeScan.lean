import Onramp.Excel

/-!
The deterministic detection of rows with a port cell outside the UN/LOCODE shape. The
scan of the cells collects exactly these rows, the payload begins with the violators that
they are lifted to, whatever the model replies, and the prompt has no cell of them.
-/
namespace Onramp.ShapeScan
open Onramp.Python
open Onramp.Values
open Onramp.Models
open Onramp.Schema
open Onramp.Vertex
open Onramp.Cells
open Onramp.Excel
open Onramp.Library.Keyed

/-- The row has a port cell outside the UN/LOCODE shape. -/
def ViolatingRow (columnMap : ColumnMap) (cells : List Cell) (place : String × Nat) : Prop :=
  ∃ cell ∈ cells, violates columnMap cell = true ∧ cell.place = place

/-- The cells in a slot are violating cells of its row, and there is one. -/
structure SlotOf (columnMap : ColumnMap) (seen : List Cell) (place : String × Nat) (slot : RoleCells) : Prop where
  anchored : (slot.origin.or slot.destination).isSome
  fromRow : ∀ cell, slot.origin = some cell ∨ slot.destination = some cell →
    cell ∈ seen ∧ violates columnMap cell = true ∧ cell.place = place

/-- What the scan has collected from the cells seen so far. -/
structure Collected (columnMap : ColumnMap) (seen : List Cell) (rows : Table (String × Nat) RoleCells) : Prop where
  distinct : (keys rows).Nodup
  complete : ∀ cell ∈ seen, violates columnMap cell = true → cell.place ∈ keys rows
  sound : ∀ place slot, find place rows = some slot → SlotOf columnMap seen place slot

variable {columnMap : ColumnMap} {cells : List Cell}

theorem SlotOf.mono {seen later : List Cell} {place : String × Nat} {slot : RoleCells}
    (held : SlotOf columnMap seen place slot) (more : seen ⊆ later) : SlotOf columnMap later place slot :=
  ⟨held.anchored, fun cell inSlot =>
    let ⟨inside, rest⟩ := held.fromRow cell inSlot
    ⟨more inside, rest⟩⟩

theorem SlotOf.assign {seen : List Cell} {cell : Cell} {slot : Option RoleCells} (role : Role) (inside : cell ∈ seen)
    (bad : violates columnMap cell = true) (before : ∀ held, slot = some held → SlotOf columnMap seen cell.place held) :
    SlotOf columnMap seen cell.place ((slot.getD ⟨none, none⟩).assign role cell) := by
  have own : ∀ other, (slot.getD ⟨none, none⟩).origin = some other ∨ (slot.getD ⟨none, none⟩).destination = some other →
      other ∈ seen ∧ violates columnMap other = true ∧ other.place = cell.place := by
    cases slot with
    | none => simp
    | some held => exact (before held rfl).fromRow
  cases role with
  | origin =>
    refine ⟨by simp [RoleCells.assign], ?_⟩
    rintro other (here | there)
    · obtain rfl : cell = other := Option.some.inj here
      exact ⟨inside, bad, rfl⟩
    · exact own other (.inr there)
  | destination =>
    refine ⟨by cases (slot.getD ⟨none, none⟩).origin <;> simp [RoleCells.assign], ?_⟩
    rintro other (there | here)
    · exact own other (.inl there)
    · obtain rfl : cell = other := Option.some.inj here
      exact ⟨inside, bad, rfl⟩

theorem collect_step {seen : List Cell} {rows : Table (String × Nat) RoleCells} (cell : Cell)
    (before : Collected columnMap seen rows) : Collected columnMap (seen ++ [cell]) (collect columnMap rows cell) := by
  have more : seen ⊆ seen ++ [cell] := List.subset_append_left _ _
  have quiet : violates columnMap cell = false → Collected columnMap (seen ++ [cell]) rows := by
    intro fine
    refine ⟨before.distinct, ?_, fun place slot found => (before.sound place slot found).mono more⟩
    intro other inside bad
    rcases List.mem_append.mp inside with old | new
    · exact before.complete other old bad
    · rw [List.mem_singleton.mp new, fine] at bad
      cases bad
  unfold collect
  cases role : roleOf columnMap cell with
  | none => exact quiet (by simp [violates, role])
  | some role' =>
    cases shaped : unlocodeMatch cell.value.scanText with
    | true => exact quiet (by simp [violates, shaped])
    | false =>
      have bad : violates columnMap cell = true := by simp [violates, role, shaped]
      have here : cell ∈ seen ++ [cell] := List.mem_append_right _ (List.mem_singleton.mpr rfl)
      simp only [Bool.false_eq_true, if_false]
      refine ⟨nodup_keys_alter _ _ before.distinct, ?_, ?_⟩
      · intro other inside otherBad
        rw [mem_keys_alter]
        rcases List.mem_append.mp inside with old | new
        · exact .inr (before.complete other old otherBad)
        · exact .inl (congrArg Cell.place (List.mem_singleton.mp new))
      · intro place slot found
        rw [find_alter] at found
        split at found
        · next same =>
          subst same
          cases found
          exact SlotOf.assign role' here bad (fun held found => (before.sound cell.place held found).mono more)
        · exact (before.sound place slot found).mono more

theorem violatingRows_collected (columnMap : ColumnMap) (cells : List Cell) :
    Collected columnMap cells (violatingRows columnMap cells) := by
  have run : ∀ (later seen : List Cell) (rows : Table (String × Nat) RoleCells), Collected columnMap seen rows →
      Collected columnMap (seen ++ later) (later.foldl (collect columnMap) rows) := by
    intro later
    induction later with
    | nil => intro seen rows before; simpa using before
    | cons cell rest ih =>
      intro seen rows before
      have next := ih (seen ++ [cell]) (collect columnMap rows cell) (collect_step cell before)
      simpa using next
  have start : Collected columnMap [] [] := ⟨by simp [keys], by simp, by simp⟩
  exact run cells [] [] start

theorem mem_keys_violatingRows {place : String × Nat} :
    place ∈ keys (violatingRows columnMap cells) ↔ ViolatingRow columnMap cells place := by
  have collected := violatingRows_collected columnMap cells
  constructor
  · intro inside
    obtain ⟨slot, found⟩ := Option.isSome_iff_exists.mp ((mem_keys_iff_find _ _).mp inside)
    have held := collected.sound place slot found
    obtain ⟨cell, anchor⟩ := Option.isSome_iff_exists.mp held.anchored
    obtain ⟨inside, bad, same⟩ := held.fromRow cell (by
      cases origin : slot.origin with
      | none => rw [origin, Option.none_or] at anchor; exact .inr anchor
      | some first => rw [origin, Option.some_or] at anchor; exact .inl anchor)
    exact ⟨cell, inside, bad, same⟩
  · rintro ⟨cell, inside, bad, rfl⟩
    exact collected.complete cell inside bad

/-- Sheet titles as a workbook has them, and cells with a coordinate. -/
structure Workbook (cells : List Cell) : Prop where
  title : ∀ cell ∈ cells, 1 ≤ cell.sheet.length ∧ cell.sheet.length ≤ 31
  coordinate : ∀ cell ∈ cells, cell.coord ≠ ""

/-- A lifted violator names the row, and the coordinate of a violating cell of it. -/
theorem liftRow_spec (workbook : Workbook cells) {place : String × Nat} {slot : RoleCells}
    (held : SlotOf columnMap cells place slot) {violator : ShapeViolatingLane}
    (lifted : liftRow columnMap cells (place, slot) = .ok violator) :
    rowKey violator = place ∧ ∃ cell ∈ cells, violates columnMap cell = true ∧ cell.place = place ∧
      cell.coord = violator.sourceRowReference.cellReference := by
  obtain ⟨anchor, anchored⟩ := Option.isSome_iff_exists.mp held.anchored
  have fromSlot : slot.origin = some anchor ∨ slot.destination = some anchor := by
    cases origin : slot.origin with
    | none => rw [origin, Option.none_or] at anchored; exact .inr anchored
    | some first => rw [origin, Option.some_or] at anchored; exact .inl anchored
  obtain ⟨inside, bad, samePlace⟩ := held.fromRow anchor fromSlot
  have sheet : anchor.sheet = place.1 := congrArg Prod.fst samePlace
  have title := workbook.title anchor inside
  have whole : sliceTo 64 place.1 = place.1 := sliceTo_of_length_le (by rw [← sheet]; omega)
  have named : place.1 ≠ "" := by
    intro empty
    rw [sheet, empty] at title
    simp at title
  unfold liftRow at lifted
  simp only [anchored] at lifted
  split at lifted
  · next anchor' slots same found =>
    obtain rfl : anchor = anchor' := Option.some.inj same
    simp only [whole, named, workbook.coordinate anchor inside, if_false, bind_eq_ok, checked_eq_ok] at lifted
    obtain ⟨reference, ⟨-, rfl⟩, -, rfl⟩ := lifted
    exact ⟨rfl, anchor, inside, bad, samePlace, rfl⟩
  · cases lifted

theorem liftRows_forall {entries : List ((String × Nat) × RoleCells)} {violators : List ShapeViolatingLane}
    (lifted : liftRows columnMap cells entries = .ok violators) :
    List.Forall₂ (fun entry violator => liftRow columnMap cells entry = .ok violator) entries violators := by
  induction entries generalizing violators with
  | nil =>
    cases lifted
    exact .nil
  | cons entry rest ih =>
    unfold liftRows at lifted
    simp only [bind_eq_ok, pure_eq_ok] at lifted
    obtain ⟨violator, here, others, later, rfl⟩ := lifted
    exact .cons here (ih later)

/-- The violators are those of the violating rows: each row once, with a coordinate of a
    violating cell. -/
structure Detects (columnMap : ColumnMap) (cells : List Cell) (violators : List ShapeViolatingLane) : Prop where
  rows : ∀ place, place ∈ violators.map rowKey ↔ ViolatingRow columnMap cells place
  once : (violators.map rowKey).Nodup
  coordinate : ∀ violator ∈ violators, ∃ cell ∈ cells, violates columnMap cell = true ∧ cell.place = rowKey violator ∧
    cell.coord = violator.sourceRowReference.cellReference

theorem liftRows_detects (workbook : Workbook cells) {entries : List ((String × Nat) × RoleCells)}
    (sorted : entries.Perm (violatingRows columnMap cells)) {violators : List ShapeViolatingLane}
    (lifted : liftRows columnMap cells entries = .ok violators) : Detects columnMap cells violators := by
  have collected := violatingRows_collected columnMap cells
  have each : ∀ entry ∈ entries, ∀ violator, liftRow columnMap cells entry = .ok violator →
      rowKey violator = entry.1 ∧ ∃ cell ∈ cells, violates columnMap cell = true ∧ cell.place = entry.1 ∧
        cell.coord = violator.sourceRowReference.cellReference := by
    intro entry inside violator lifted'
    have found := find_of_mem collected.distinct (sorted.subset inside)
    exact liftRow_spec workbook (collected.sound entry.1 entry.2 found) lifted'
  have matching := liftRows_forall lifted
  have same : violators.map rowKey = entries.map Prod.fst := by
    clear lifted sorted
    induction matching with
    | nil => rfl
    | cons here _ ih =>
      rw [List.map_cons, List.map_cons, (each _ List.mem_cons_self _ here).1,
        ih (fun entry inside => each entry (List.mem_cons_of_mem _ inside))]
  have keysOf : (violators.map rowKey).Perm (keys (violatingRows columnMap cells)) := same ▸ sorted.map Prod.fst
  refine ⟨fun place => ?_, keysOf.nodup_iff.mpr collected.distinct, ?_⟩
  · rw [keysOf.mem_iff, mem_keys_violatingRows]
  · intro violator inside
    obtain ⟨entry, member, lifted'⟩ := mem_right_of_forall₂ matching inside
    obtain ⟨key, cell, rest⟩ := each entry member violator lifted'
    exact ⟨cell, key ▸ rest⟩

/-- The scan lifts the violating rows in order, also when there is none. -/
theorem scan_eq (columnMap : ColumnMap) (cells : List Cell) : scanCellsForShapeViolators cells columnMap =
    (liftRows columnMap cells ((violatingRows columnMap cells).insertionSort rowOrder)).map (fun violators =>
      (cells.filter (fun cell => cell.place ∉ keys (violatingRows columnMap cells)), violators)) := by
  unfold scanCellsForShapeViolators
  simp only
  split
  · next empty =>
    rw [List.isEmpty_iff.mp empty]
    simp [liftRows, keys, Except.map]
  · rfl

theorem scan_eq_ok {shown : List Cell} {violators : List ShapeViolatingLane}
    (scanned : scanCellsForShapeViolators cells columnMap = .ok (shown, violators)) :
    liftRows columnMap cells ((violatingRows columnMap cells).insertionSort rowOrder) = .ok violators ∧
      shown = cells.filter (fun cell => cell.place ∉ keys (violatingRows columnMap cells)) := by
  rw [scan_eq] at scanned
  cases lifted : liftRows columnMap cells ((violatingRows columnMap cells).insertionSort rowOrder) with
  | error exc =>
    rw [lifted] at scanned
    cases scanned
  | ok violators' =>
    rw [lifted] at scanned
    cases scanned
    exact ⟨rfl, rfl⟩

/-- The scan keeps the cells of the rows without a violation. -/
theorem scan_shown {shown : List Cell} {violators : List ShapeViolatingLane}
    (scanned : scanCellsForShapeViolators cells columnMap = .ok (shown, violators)) (cell : Cell) :
    cell ∈ shown ↔ cell ∈ cells ∧ ¬ ViolatingRow columnMap cells cell.place := by
  obtain ⟨-, rfl⟩ := scan_eq_ok scanned
  rw [List.mem_filter, decide_eq_true_iff, mem_keys_violatingRows]

/-- The scan detects the violating rows and keeps the cells of all others. -/
theorem scan_spec (workbook : Workbook cells) {shown : List Cell} {violators : List ShapeViolatingLane}
    (scanned : scanCellsForShapeViolators cells columnMap = .ok (shown, violators)) :
    Detects columnMap cells violators ∧
      ∀ cell, cell ∈ shown ↔ cell ∈ cells ∧ ¬ ViolatingRow columnMap cells cell.place :=
  ⟨liftRows_detects workbook (List.perm_insertionSort _ _) (scan_eq_ok scanned).1, scan_shown scanned⟩

/-- The extraction asks the model nothing but the prompt of these cells: services that
    answer that prompt alike give the same result. -/
def AsksOnly (services : Services) (raws : Raises (List (Raises RawCell))) (jobId prospectId : String) (now : DateTime)
    (shown : List Cell) : Prop :=
  ∀ other : Services, other.platform = services.platform → other.client = services.client →
    (∀ request place, request.contents = buildPrompt services.platform jobId prospectId shown →
      other.generate request place = services.generate request place) →
    extractExcelPayload other raws jobId prospectId now = extractExcelPayload services raws jobId prospectId now

theorem asksOnly_shown {services : Services} {raws : Raises (List (Raises RawCell))} {jobId prospectId : String}
    {now : DateTime} {shown : List Cell} {violators : List ShapeViolatingLane} (listed : buildCellList raws = .ok cells)
    (scanned : preLlmScan services.platform cells = .ok (shown, violators)) :
    AsksOnly services raws jobId prospectId now shown := by
  intro other platform client answers
  have asked : generateWithRetry other (buildPrompt services.platform jobId prospectId shown) =
      generateWithRetry services (buildPrompt services.platform jobId prospectId shown) := by
    unfold generateWithRetry
    congr 1
    funext attempt
    exact answers _ _ rfl
  unfold extractExcelPayload
  rw [listed]
  simp only [bind, Except.bind]
  unfold extractFromCells
  rw [platform, client, scanned]
  simp only [bind, Except.bind, asked]

/-- What the two sources of violators give: the detected ones come first, and nothing that
    the reply adds has one of their rows. -/
theorem payload_spec (workbook : Workbook cells) {services : Services} {raws : Raises (List (Raises RawCell))}
    {jobId prospectId : String} {now : DateTime} {result : NormalizedRatesheet × ExtractionMetadata}
    {shown : List Cell} {violators : List ShapeViolatingLane} (listed : buildCellList raws = .ok cells)
    (identified : identifyPortColumns services.platform cells = some columnMap)
    (scanned : scanCellsForShapeViolators cells columnMap = .ok (shown, violators))
    (returned : extractExcelPayload services raws jobId prospectId now = .ok result) :
    ∃ others, result.1.shapeViolatingLanes = violators ++ others ∧
      ∀ other ∈ others, rowKey other ∉ violators.map rowKey := by
  obtain ⟨payload, metadata⟩ := result
  unfold extractExcelPayload at returned
  rw [listed] at returned
  obtain ⟨shown', violators', _, reply, scanned', -, -, built⟩ := extractFromCells_eq_ok returned
  have same : scanCellsForShapeViolators cells columnMap = .ok (shown', violators') := by
    simpa [preLlmScan, identified] using scanned'
  rw [scanned] at same
  cases same
  obtain ⟨_, _, postLlmViolators, _, _, _, _, _, rfl⟩ := payloadOf_eq_ok built
  have once := (scan_spec workbook scanned).1.once
  refine ⟨firstPerKey rowKey ((violators.map rowKey).reverse ++ []) postLlmViolators,
    firstPerKey_append rowKey postLlmViolators once (by simp), ?_⟩
  intro other inside known
  exact firstPerKey_unseen rowKey _ postLlmViolators other inside (by simpa using known)

/-- Whatever two replies of the model are, the payloads begin with the same violators:
    exactly the rows with a port cell outside the UN/LOCODE shape, each once, with a
    coordinate of a violating cell. No later entry has such a row, and the model is shown
    no cell of it. -/
theorem shape_detection_ignores_replies (services services' : Services) (raws : Raises (List (Raises RawCell)))
    (cells : List Cell) (columnMap : ColumnMap) (jobId prospectId : String) (now now' : DateTime)
    (result result' : NormalizedRatesheet × ExtractionMetadata) (same : services'.platform = services.platform)
    (listed : buildCellList raws = .ok cells) (workbook : Workbook cells)
    (identified : identifyPortColumns services.platform cells = some columnMap)
    (returned : extractExcelPayload services raws jobId prospectId now = .ok result)
    (returned' : extractExcelPayload services' raws jobId prospectId now' = .ok result') :
    ∃ violators others others' shown,
      result.1.shapeViolatingLanes = violators ++ others ∧ result'.1.shapeViolatingLanes = violators ++ others' ∧
      Detects columnMap cells violators ∧ (∀ other ∈ others ++ others', rowKey other ∉ violators.map rowKey) ∧
      (∀ cell ∈ shown, ¬ ViolatingRow columnMap cells cell.place) ∧ AsksOnly services raws jobId prospectId now shown ∧
      AsksOnly services' raws jobId prospectId now' shown := by
  cases scanned : scanCellsForShapeViolators cells columnMap with
  | error exc =>
    unfold extractExcelPayload at returned
    rw [listed] at returned
    obtain ⟨_, _, _, _, scanned', -⟩ := extractFromCells_eq_ok returned
    simp [preLlmScan, identified, scanned] at scanned'
  | ok parts =>
    obtain ⟨shown, violators⟩ := parts
    obtain ⟨detects, kept⟩ := scan_spec workbook scanned
    obtain ⟨others, first, apart⟩ := payload_spec workbook listed identified scanned returned
    obtain ⟨others', first', apart'⟩ := payload_spec workbook listed (same ▸ identified) scanned returned'
    have before : preLlmScan services.platform cells = .ok (shown, violators) := by simp [preLlmScan, identified, scanned]
    refine ⟨violators, others, others', shown, first, first', detects, ?_, fun cell inside => ((kept cell).mp inside).2,
      asksOnly_shown listed before, asksOnly_shown listed (same ▸ before)⟩
    intro other inside
    rcases List.mem_append.mp inside with left | right
    · exact apart other left
    · exact apart' other right

/-- The header, a row of UN/LOCODEs, and a row with a port name. -/
def scannedCells : List Cell :=
  [⟨"Rates", 1, 1, "A1", .text "Origin"⟩, ⟨"Rates", 1, 2, "B1", .text "Destination"⟩,
    ⟨"Rates", 2, 1, "A2", .text "USNYC"⟩, ⟨"Rates", 2, 2, "B2", .text "CNSHA"⟩,
    ⟨"Rates", 3, 1, "A3", .text "USNYC"⟩, ⟨"Rates", 3, 2, "B3", .text "Shanghai"⟩]

/-- The workbook as the reader yields it. -/
def scannedWorkbook : Raises (List (Raises RawCell)) :=
  .ok (scannedCells.map (fun cell => .ok ⟨cell.sheet, cell.row, cell.col, cell.coord, .primitive cell.value⟩))

theorem scannedCells_workbook : Workbook scannedCells where
  title := by decide
  coordinate := by decide

/-- A reply without lanes, and one that claims the violating row for a lane of its own. -/
def silentReply : Json := .obj [("lanes", .arr [])]

def claimingReply : Json :=
  .obj [("lanes", .arr [.obj [("lane_id", .str "L9"), ("origin_port", .obj [("code", .str "USNYC")]),
    ("destination_port", .obj [("code", .str "Shanghai")]), ("source_row_reference",
      .obj [("sheet_name", .str "Rates"), ("row_number", .int 3), ("cell_reference", .str "Z9")])]])]

/-- Services whose model gives this reply. -/
def replying (reply : Json) : Services where
  platform := asciiPlatform [(silentReply.render "", silentReply), (claimingReply.render "", claimingReply)]
    sampleDigest sampleDigest_length
  client _ := .ok ()
  generate _ _ := .ok { text := some (reply.render ""), candidates := [] }
  expires _ := false

theorem shape_detection_ignores_replies_claiming :
    ∃ result result' violators others others' shown,
      extractExcelPayload (replying silentReply) scannedWorkbook "j1" "acme" ⟨⟨2026, 6, 1⟩, 0⟩ = .ok result ∧
      extractExcelPayload (replying claimingReply) scannedWorkbook "j1" "acme" ⟨⟨2026, 6, 1⟩, 0⟩ = .ok result' ∧
      result.1.shapeViolatingLanes = violators ++ others ∧ result'.1.shapeViolatingLanes = violators ++ others' ∧
      Detects [("Rates", ⟨1, 2, 1⟩)] scannedCells violators ∧
      (∀ other ∈ others ++ others', rowKey other ∉ violators.map rowKey) ∧
      (∀ cell ∈ shown, ¬ ViolatingRow [("Rates", ⟨1, 2, 1⟩)] scannedCells cell.place) ∧
      AsksOnly (replying silentReply) scannedWorkbook "j1" "acme" ⟨⟨2026, 6, 1⟩, 0⟩ shown ∧
      AsksOnly (replying claimingReply) scannedWorkbook "j1" "acme" ⟨⟨2026, 6, 1⟩, 0⟩ shown := by
  have returns : ∀ reply ∈ [silentReply, claimingReply], ∃ result,
      extractExcelPayload (replying reply) scannedWorkbook "j1" "acme" ⟨⟨2026, 6, 1⟩, 0⟩ = .ok result := by
    have each : ∀ reply ∈ [silentReply, claimingReply],
        (extractExcelPayload (replying reply) scannedWorkbook "j1" "acme" ⟨⟨2026, 6, 1⟩, 0⟩).isOk = true := by
      decide +kernel
    intro reply inside
    have returned := each reply inside
    cases outcome : extractExcelPayload (replying reply) scannedWorkbook "j1" "acme" ⟨⟨2026, 6, 1⟩, 0⟩ with
    | ok result => exact ⟨result, rfl⟩
    | error exc => simp [outcome, Except.isOk, Except.toBool] at returned
  obtain ⟨result, returned⟩ := returns silentReply (by simp)
  obtain ⟨result', returned'⟩ := returns claimingReply (by simp)
  obtain ⟨listed, identified⟩ : buildCellList scannedWorkbook = .ok scannedCells ∧
      identifyPortColumns (replying silentReply).platform scannedCells = some [("Rates", ⟨1, 2, 1⟩)] := by decide +kernel
  obtain ⟨violators, others, others', shown, rest⟩ := shape_detection_ignores_replies (replying silentReply)
    (replying claimingReply) scannedWorkbook scannedCells [("Rates", ⟨1, 2, 1⟩)] "j1" "acme" ⟨⟨2026, 6, 1⟩, 0⟩
    ⟨⟨2026, 6, 1⟩, 0⟩ result result' rfl listed scannedCells_workbook identified returned returned'
  exact ⟨result, result', violators, others, others', shown, returned, returned', rest⟩

end Onramp.ShapeScan
