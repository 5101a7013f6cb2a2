import Onramp.CellScan

/-!
What escapes from an extraction. Stage 2 handles the two exceptions of the extractor. A reply is
walked and lifted before the block that turns a `ValidationError` into one of them, and neither the
parse of its text nor the errors of the service are turned into one.
-/
namespace Onramp.ExtractorErrors
open Onramp.Python
open Onramp.Values
open Onramp.Models
open Onramp.Schema
open Onramp.Vertex
open Onramp.Cells
open Onramp.Excel
open Onramp.ShapeScan
open Onramp.CellScan
open Onramp.Library.Keyed (find)

/-- What Stage 2 handles. -/
def Handled (exc : PyExc) : Prop := exc.cls = .excelTooLargeError ∨ exc.cls = .extractionError

instance : DecidablePred Handled := fun _ => inferInstanceAs (Decidable (_ ∨ _))

/-- It returns, or raises what Stage 2 handles. -/
def Contained {α : Type} (outcome : Raises α) : Prop := ∀ exc, outcome = .error exc → Handled exc

section
variable {α β : Type}

def Returns (outcome : Raises α) : Prop := ∃ value, outcome = .ok value

/-- It raises nothing that Stage 2 handles. -/
def Unhandled (outcome : Raises α) : Prop := ∀ exc, outcome = .error exc → ¬ Handled exc

theorem contained_ok (value : α) : Contained (.ok value : Raises α) := by
  intro exc raised
  cases raised

theorem contained_error {exc : PyExc} : Contained (.error exc : Raises α) ↔ Handled exc := by
  constructor
  · exact fun contained => contained exc rfl
  · rintro handled _ ⟨⟩
    exact handled

theorem contained_bind {outcome : Raises α} {next : α → Raises β} : Contained (outcome >>= next) ↔
    Contained outcome ∧ ∀ value, outcome = .ok value → Contained (next value) := by
  cases outcome with
  | error exc => simp [bind, Except.bind, contained_error]
  | ok value => simp [bind, Except.bind, contained_ok]

theorem returns_bind {outcome : Raises α} {next : α → Raises β} :
    Returns (outcome >>= next) ↔ ∃ value, outcome = .ok value ∧ Returns (next value) := by
  cases outcome with
  | error exc => simp [bind, Except.bind, Returns]
  | ok value => simp [bind, Except.bind]

theorem unhandled_ok (value : α) : Unhandled (.ok value : Raises α) := by
  intro exc raised
  cases raised

theorem unhandled_error {exc : PyExc} (other : ¬ Handled exc) : Unhandled (.error exc : Raises α) := by
  rintro _ ⟨⟩
  exact other

theorem unhandled_bind {outcome : Raises α} {next : α → Raises β} (first : Unhandled outcome)
    (then' : ∀ value, Unhandled (next value)) : Unhandled (outcome >>= next) := by
  cases outcome with
  | error exc => exact unhandled_error (first exc rfl)
  | ok value => exact then' value

theorem unhandled_checked {model : String} {valid : α → Prop} [DecidablePred valid] {value : α} :
    Unhandled (checked model valid value) := by
  unfold checked
  split
  · exact unhandled_ok _
  · exact unhandled_error (by simp [Handled, validationError, PyExc.mk'])

/-- What raises nothing that is handled has to return. -/
theorem contained_iff_returns {outcome : Raises α} (unhandled : Unhandled outcome) : Contained outcome ↔ Returns outcome := by
  cases outcome with
  | error exc => exact iff_of_false (fun contained => unhandled exc rfl (contained exc rfl)) (by rintro ⟨_, ⟨⟩⟩)
  | ok value => exact iff_of_true (contained_ok value) ⟨value, rfl⟩

end

/-- The code of a port, where the members of a lane let it be asked for. -/
def codeOf (members : List (String × Json)) (name : String) : Option Json :=
  let port := (find name members).getD .null
  if port.truthy then
    match port with
    | .obj fields => some ((find "code" fields).getD (.str ""))
    | _ => none
  else some (.str "")

/-- The texts of a lane outside the shape have the lengths of a `ShapeViolatingLane`. -/
structure Liftable (platform : Platform) (idx : Nat) (members : List (String × Json)) (origin destination : Json) :
    Prop where
  laneId : lengthWithin 1 64 (strOr ((find "lane_id" members).getD .null) s!"shape_violator_{idx}")
  origin : lengthWithin 1 64 (strOr origin "")
  destination : lengthWithin 1 64 (strOr destination "")
  reference : (sourceRow platform ((find "source_row_reference" members).getD .null)).isSome ∨
    lengthWithin 2 32 s!"A{idx + 2}"

/-- An object with two codes of UN/LOCODE shape, or with texts that fit. -/
def LaneFine (platform : Platform) (idx : Nat) (lane : Json) : Prop :=
  ∃ members origin destination, lane = .obj members ∧ codeOf members "origin_port" = some origin ∧
    codeOf members "destination_port" = some destination ∧
    (shapedCode origin = true ∧ shapedCode destination = true ∨ Liftable platform idx members origin destination)

def LanesFine (platform : Platform) : Json → Prop
  | .arr lanes => ∀ entry ∈ lanes.zipIdx, LaneFine platform entry.2 entry.1
  | .obj members => members = []
  | .str s => s = ""
  | _ => False

/-- The response has no text, or the text of an object whose lanes are fine. -/
def ResponseFine (platform : Platform) (response : Response) : Prop :=
  responseText response = "" ∨
    match platform.jsonLoads (responseText response) with
    | .ok reply => ∃ body, reply = .obj body ∧ LanesFine platform ((find "lanes" body).getD (.arr []))
    | .error exc => Handled exc

/-- One of the attempts gets a fine response, or the second runs into the timeout. -/
def CallsFine (platform : Platform) (attempt : Nat → Raises Response) : Prop :=
  match attempt 0 with
  | .ok response => ResponseFine platform response
  | .error exc =>
    if exc.cls = .timeoutError ∨ (exc.isException = true ∧ exc.transient = true) then
      match attempt 1 with
      | .ok response => ResponseFine platform response
      | .error exc' => exc'.cls = .timeoutError ∨ Handled exc'
    else Handled exc

/-- The row of the cell is not lifted out before the call. -/
def Shown (platform : Platform) (cells : List Cell) (cell : Cell) : Prop :=
  ∀ columnMap, identifyPortColumns platform cells = some columnMap → ¬ ViolatingRow columnMap cells cell.place

/-- The cells that are shown can be written, the client is there, and the calls with the prompt are
    fine. -/
structure Manageable (services : Services) (cells : List Cell) (jobId prospectId : String) : Prop where
  dumps : ∀ cell ∈ cells, Shown services.platform cells cell → Cell.Dumpable cell
  calls : match services.client [] with
    | .ok _ => ∀ shown detected, preLlmScan services.platform cells = .ok (shown, detected) →
        CallsFine services.platform (fun attempt => services.generate
          { model := "gemini-3.1-flash-lite", temperature := "0.1",
            contents := buildPrompt services.platform jobId prospectId shown } [attempt])
    | .error exc => Handled exc

variable {platform : Platform}

theorem getOrEmpty_unhandled (value : Json) (name : String) : Unhandled (value.getOrEmpty name) := by
  cases value with
  | obj members => exact unhandled_ok _
  | null | bool | int | float | str | arr => exact unhandled_error (by simp [Handled, PyExc.mk'])

theorem get_unhandled (value : Json) (name : String) : Unhandled (value.get name) := by
  cases value with
  | obj members => exact unhandled_ok _
  | null | bool | int | float | str | arr => exact unhandled_error (by simp [Handled, PyExc.mk'])

theorem portText_unhandled (lane : Json) (name : String) : Unhandled (portText lane name) :=
  unhandled_bind (get_unhandled lane name) (fun _ => getOrEmpty_unhandled _ "code")

theorem coerce_unhandled (raw : Json) (sheetName : String) (idx : Nat) :
    Unhandled (coerceSourceRowReference platform raw sheetName idx) := by
  unfold coerceSourceRowReference
  split
  · exact unhandled_ok _
  · exact unhandled_checked

theorem preScanLane_unhandled (sheetName : String) (idx : Nat) (lane : Json) :
    Unhandled (preScanLane platform sheetName idx lane) := by
  refine unhandled_bind (portText_unhandled lane _) (fun origin => ?_)
  refine unhandled_bind (portText_unhandled lane _) (fun destination => ?_)
  split
  · exact unhandled_ok _
  · refine unhandled_bind (get_unhandled lane _) (fun laneId => ?_)
    refine unhandled_bind (get_unhandled lane _) (fun raw => ?_)
    refine unhandled_bind (coerce_unhandled raw sheetName idx) (fun row => ?_)
    exact unhandled_bind unhandled_checked (fun violator => unhandled_ok _)

theorem preScanFrom_unhandled (sheetName : String) (idx : Nat) (lanes : List Json) :
    Unhandled (preScanFrom platform sheetName idx lanes) := by
  induction lanes generalizing idx with
  | nil => exact unhandled_ok _
  | cons lane rest ih =>
    refine unhandled_bind (preScanLane_unhandled sheetName idx lane) (fun lifted => ?_)
    refine unhandled_bind (ih (idx + 1)) (fun parts => ?_)
    cases lifted with
    | none => exact unhandled_ok _
    | some violator => exact unhandled_ok _

theorem portText_eq_ok {members : List (String × Json)} {name : String} {code : Json} :
    portText (.obj members) name = .ok code ↔ codeOf members name = some code := by
  unfold codeOf portText
  simp only [Json.get_obj, bind, Except.bind]
  generalize (find name members).getD .null = port
  by_cases filled : port.truthy = true
  · rw [if_pos filled, if_pos filled]
    cases port <;> simp [Json.getOrEmpty]
  · rw [if_neg filled, if_neg filled]
    simp [Json.getOrEmpty, find]

theorem coerce_returns (raw : Json) (idx : Nat) : Returns (coerceSourceRowReference platform raw "Rates" idx) ↔
    (sourceRow platform raw).isSome ∨ lengthWithin 2 32 s!"A{idx + 2}" := by
  unfold coerceSourceRowReference
  cases read : sourceRow platform raw with
  | some row => simp [Returns]
  | none =>
    have sheet : lengthWithin 1 64 (sliceTo 64 "Rates") := by decide
    have named : ("Rates" : String) ≠ "" := by decide
    simp [Returns, checked_eq_ok, SourceRow.Valid, sheet]

theorem coerce_valid {raw : Json} {sheetName : String} {idx : Nat} {row : SourceRow}
    (coerced : coerceSourceRowReference platform raw sheetName idx = .ok row) : row.Valid := by
  unfold coerceSourceRowReference at coerced
  split at coerced
  · next read =>
    cases coerced
    exact sourceRow_valid platform read
  · obtain ⟨valid, rfl⟩ := checked_eq_ok.mp coerced
    exact valid

/-- A lane outside the shape is lifted exactly when its texts fit. -/
theorem lift_returns {members : List (String × Json)} {origin destination : Json} (idx : Nat)
    (originAsked : codeOf members "origin_port" = some origin)
    (destinationAsked : codeOf members "destination_port" = some destination)
    (apart : ¬ (shapedCode origin = true ∧ shapedCode destination = true)) :
    Returns (preScanLane platform "Rates" idx (.obj members)) ↔ Liftable platform idx members origin destination := by
  have steps : preScanLane platform "Rates" idx (.obj members) =
      (coerceSourceRowReference platform ((find "source_row_reference" members).getD .null) "Rates" idx >>= fun row =>
        checked "ShapeViolatingLane" ShapeViolatingLane.Valid
          ⟨strOr ((find "lane_id" members).getD .null) s!"shape_violator_{idx}", strOr origin "", strOr destination "", row⟩
            >>= fun violator => .ok (some violator)) := by
    unfold preScanLane
    rw [portText_eq_ok.mpr originAsked, portText_eq_ok.mpr destinationAsked]
    simp only [bind, Except.bind, if_neg apart]
    rfl
  rw [steps, returns_bind]
  simp only [returns_bind, checked_eq_ok]
  constructor
  · rintro ⟨row, coerced, _, ⟨fits, -⟩, -⟩
    exact ⟨fits.1, fits.2.1, fits.2.2.1, (coerce_returns _ idx).mp ⟨row, coerced⟩⟩
  · intro fits
    obtain ⟨row, coerced⟩ := (coerce_returns _ idx).mpr fits.reference
    exact ⟨row, coerced, _, ⟨⟨fits.laneId, fits.origin, fits.destination, coerce_valid coerced⟩, rfl⟩, _, rfl⟩

/-- The scan of a lane returns exactly when the lane is fine. -/
theorem preScanLane_returns (idx : Nat) (lane : Json) :
    Returns (preScanLane platform "Rates" idx lane) ↔ LaneFine platform idx lane := by
  cases lane with
  | obj members =>
    have asks : Returns (preScanLane platform "Rates" idx (.obj members)) → ∃ origin destination,
        codeOf members "origin_port" = some origin ∧ codeOf members "destination_port" = some destination := by
      intro returned
      obtain ⟨origin, originRead, rest⟩ := returns_bind.mp returned
      obtain ⟨destination, destinationRead, -⟩ := returns_bind.mp rest
      exact ⟨origin, destination, portText_eq_ok.mp originRead, portText_eq_ok.mp destinationRead⟩
    constructor
    · intro returned
      obtain ⟨origin, destination, originAsked, destinationAsked⟩ := asks returned
      refine ⟨members, origin, destination, rfl, originAsked, destinationAsked, ?_⟩
      by_cases shaped : shapedCode origin = true ∧ shapedCode destination = true
      · exact .inl shaped
      · exact .inr ((lift_returns idx originAsked destinationAsked shaped).mp returned)
    · rintro ⟨_, origin, destination, ⟨⟩, originAsked, destinationAsked, fine⟩
      by_cases shaped : shapedCode origin = true ∧ shapedCode destination = true
      · exact ⟨none, preScanLane_none.mpr
          ⟨origin, destination, portText_eq_ok.mpr originAsked, portText_eq_ok.mpr destinationAsked, shaped⟩⟩
      · exact (lift_returns idx originAsked destinationAsked shaped).mpr (fine.resolve_left shaped)
  | null | bool | int | float | str | arr =>
    refine iff_of_false ?_ (by rintro ⟨_, _, _, ⟨⟩, -⟩)
    simp [preScanLane, portText, Json.get, bind, Except.bind, Returns]

theorem preScanFrom_returns (idx : Nat) (lanes : List Json) :
    Returns (preScanFrom platform "Rates" idx lanes) ↔ ∀ entry ∈ lanes.zipIdx idx, LaneFine platform entry.2 entry.1 := by
  induction lanes generalizing idx with
  | nil => exact iff_of_true ⟨_, rfl⟩ (by simp)
  | cons lane rest ih =>
    rw [preScanFrom, List.zipIdx_cons, List.forall_mem_cons, ← preScanLane_returns, ← ih (idx + 1), returns_bind]
    constructor
    · rintro ⟨lifted, here, later⟩
      obtain ⟨parts, rest, -⟩ := returns_bind.mp later
      exact ⟨⟨lifted, here⟩, parts, rest⟩
    · rintro ⟨⟨lifted, here⟩, parts, rest⟩
      refine ⟨lifted, here, returns_bind.mpr ⟨parts, rest, ?_⟩⟩
      cases lifted with
      | none => exact ⟨_, rfl⟩
      | some violator => exact ⟨_, rfl⟩

theorem iterate_unhandled (value : Json) : Unhandled value.iterate := by
  cases value with
  | arr | obj | str => exact unhandled_ok _
  | null | bool | int | float => exact unhandled_error (by simp [Handled, PyExc.mk'])

theorem preScan_unhandled (body : List (String × Json)) (sheetName : String) :
    Unhandled (preScanShapeViolators platform body sheetName) :=
  unhandled_bind (iterate_unhandled _) (fun _ => preScanFrom_unhandled _ _ _)

/-- The names of an object and the characters of a text are no lanes. -/
theorem texts_not_fine (platform : Platform) {items : List Json} (texts : ∀ item ∈ items, ∃ s, item = .str s) :
    (∀ entry ∈ items.zipIdx, LaneFine platform entry.2 entry.1) ↔ items = [] := by
  cases items with
  | nil => simp
  | cons item rest =>
    refine iff_of_false (fun fine => ?_) (by simp)
    obtain ⟨s, rfl⟩ := texts item List.mem_cons_self
    obtain ⟨_, _, _, impossible, -⟩ := fine (.str s, 0) (by simp)
    cases impossible

theorem preScan_returns (body : List (String × Json)) :
    Returns (preScanShapeViolators platform body "Rates") ↔ LanesFine platform ((find "lanes" body).getD (.arr [])) := by
  unfold preScanShapeViolators
  rw [returns_bind]
  cases (find "lanes" body).getD (.arr []) with
  | arr lanes => simp [Json.iterate, preScanFrom_returns, LanesFine]
  | obj members =>
    have texts : ∀ item ∈ members.map (fun member => Json.str member.1), ∃ s, item = .str s := by
      intro item inside
      obtain ⟨member, -, rfl⟩ := List.mem_map.mp inside
      exact ⟨_, rfl⟩
    have names := texts_not_fine platform texts
    simpa [Json.iterate, preScanFrom_returns, LanesFine] using names
  | str s =>
    have texts : ∀ item ∈ s.toList.map (fun c => Json.str (String.ofList [c])), ∃ s, item = .str s := by simp
    have characters := texts_not_fine platform texts
    simpa [Json.iterate, preScanFrom_returns, LanesFine] using characters
  | null | bool | int | float => simp [Json.iterate, LanesFine]

/-! ### The response -/

theorem validateBody_contained (body : List (String × Json)) (surviving : List Json) (forced : NormalizedRatesheet) :
    Contained (validateBody platform body surviving forced) := by
  unfold validateBody
  simp only
  split
  · exact contained_ok _
  · exact contained_error.mpr (.inr rfl)

/-- What is made of a reply is contained exactly when the reply is an object with fine lanes. -/
theorem payloadOf_contained (jobId prospectId : String) (metadata : ExtractionMetadata)
    (detected : List ShapeViolatingLane) (reply : Json) :
    Contained (payloadOf platform jobId prospectId metadata detected reply) ↔
      ∃ body, reply = .obj body ∧ LanesFine platform ((find "lanes" body).getD (.arr [])) := by
  unfold payloadOf
  rw [contained_bind]
  cases reply with
  | obj body =>
    simp only [assignable, contained_ok, Except.ok.injEq, forall_eq', true_and, Json.obj.injEq, exists_eq_left']
    rw [contained_bind, contained_iff_returns (preScan_unhandled body "Rates"), preScan_returns]
    exact and_iff_left (fun parts _ => validateBody_contained body parts.1 _)
  | null | bool | int | float | str | arr => simp [assignable, contained_error, Handled, PyExc.mk']

theorem parse_contained (response : Response) {next : Json → Raises (NormalizedRatesheet × ExtractionMetadata)}
    (made : ∀ reply, Contained (next reply) ↔
      ∃ body, reply = .obj body ∧ LanesFine platform ((find "lanes" body).getD (.arr []))) :
    Contained (parseResponseText platform response >>= next) ↔ ResponseFine platform response := by
  unfold parseResponseText ResponseFine
  by_cases empty : responseText response = ""
  · rw [if_pos empty]
    exact iff_of_true (contained_error.mpr (.inr rfl)) (.inl empty)
  · rw [if_neg empty, contained_bind]
    cases platform.jsonLoads (responseText response) with
    | ok reply => simp [contained_ok, made, empty]
    | error exc => simp [contained_error, empty]

theorem calls_contained (services : Services) (contents : String)
    {next : Response → Raises (NormalizedRatesheet × ExtractionMetadata)}
    (parsed : ∀ response, Contained (next response) ↔ ResponseFine services.platform response) :
    Contained (generateWithRetry services contents >>= next) ↔ CallsFine services.platform (fun attempt =>
      services.generate { model := "gemini-3.1-flash-lite", temperature := "0.1", contents } [attempt]) := by
  unfold generateWithRetry withRetry CallsFine
  generalize (fun attempt => services.generate
    { model := "gemini-3.1-flash-lite", temperature := "0.1", contents } [attempt]) = attempt
  rw [contained_bind]
  cases attempt 0 with
  | ok response => simp [contained_ok, parsed]
  | error exc =>
    by_cases retried : exc.cls = .timeoutError ∨ (exc.isException = true ∧ exc.transient = true)
    · simp only [if_pos retried]
      cases attempt 1 with
      | ok response => simp [contained_ok, parsed]
      | error exc' =>
        by_cases late : exc'.cls = .timeoutError
        · simp [late, contained_error, Handled, extractionError, PyExc.mk']
        · simp [late, contained_error]
    · simp [retried, contained_error]

theorem walkCells_length {count : Nat} {raws : List (Raises RawCell)} {cells : List Cell} (low : count ≤ cellLimit)
    (walked : walkCells count raws = .ok cells) : count + cells.length ≤ cellLimit := by
  induction raws generalizing count cells with
  | nil =>
    cases walked
    exact low
  | cons next rest ih =>
    unfold walkCells at walked
    obtain ⟨raw, -, walked⟩ := bind_eq_ok.mp walked
    split at walked
    · exact ih low walked
    split at walked
    · cases walked
    next short =>
    simp only [bind_eq_ok, pure_eq_ok] at walked
    obtain ⟨others, later, rfl⟩ := walked
    have counted := ih (Nat.le_of_not_lt short) later
    rw [List.length_cons]
    omega

theorem buildCellList_length {raws : Raises (List (Raises RawCell))} {cells : List Cell}
    (listed : buildCellList raws = .ok cells) : cells.length ≤ 5000 := by
  unfold buildCellList at listed
  obtain ⟨raws, -, walked⟩ := bind_eq_ok.mp listed
  have counted := walkCells_length (Nat.zero_le _) walked
  rwa [Nat.zero_add] at counted

theorem preLlmScan_returns {cells : List Cell} (placed : ∀ cell ∈ cells, Placed cell) :
    Returns (preLlmScan platform cells) := by
  unfold preLlmScan
  split
  · next columnMap _ =>
    cases scanned : scanCellsForShapeViolators cells columnMap with
    | ok parts => exact ⟨parts, rfl⟩
    | error exc =>
      obtain ⟨-, cell, inside, -, unplaced⟩ := scan_raises scanned
      exact absurd (placed cell inside) unplaced
  · exact ⟨_, rfl⟩

theorem preLlmScan_shown {cells shown : List Cell} {detected : List ShapeViolatingLane}
    (scanned : preLlmScan platform cells = .ok (shown, detected)) (cell : Cell) :
    cell ∈ shown ↔ cell ∈ cells ∧ Shown platform cells cell := by
  unfold preLlmScan at scanned
  unfold Shown
  cases identified : identifyPortColumns platform cells with
  | some columnMap =>
    rw [identified] at scanned
    simpa using scan_shown scanned cell
  | none =>
    rw [identified] at scanned
    cases scanned
    simp

theorem dumpCells_unhandled (cells : List Cell) : Unhandled (dumpCells cells) := by
  unfold dumpCells
  split
  · exact unhandled_ok _
  · exact unhandled_error (by simp [Handled, PyExc.mk'])

theorem dumpCells_contained {cells shown : List Cell} {detected : List ShapeViolatingLane}
    (scanned : preLlmScan platform cells = .ok (shown, detected)) :
    Contained (dumpCells shown) ↔ ∀ cell ∈ cells, Shown platform cells cell → Cell.Dumpable cell := by
  have each : (∀ cell ∈ shown, Cell.Dumpable cell) ↔ ∀ cell ∈ cells, Shown platform cells cell → Cell.Dumpable cell := by
    simp only [preLlmScan_shown scanned, and_imp]
  rw [← each, contained_iff_returns (dumpCells_unhandled shown)]
  unfold dumpCells Returns
  split <;> simp_all

/-- The record of an extraction of these cells. -/
def recordOf (cells : List Cell) (now : DateTime) : ExtractionMetadata :=
  ⟨"gemini-3.1-flash-lite", now, promptVersion, cells.length⟩

/-- What an extraction goes through once the cells are scanned. -/
theorem extract_steps {services : Services} {raws : Raises (List (Raises RawCell))} {cells shown : List Cell}
    {detected : List ShapeViolatingLane} (jobId prospectId : String) (now : DateTime) (listed : buildCellList raws = .ok cells)
    (scanned : preLlmScan services.platform cells = .ok (shown, detected)) :
    extractExcelPayload services raws jobId prospectId now =
      (dumpCells shown >>= fun _ => services.client [] >>= fun _ =>
        generateWithRetry services (buildPrompt services.platform jobId prospectId shown) >>= fun response =>
        parseResponseText services.platform response >>= fun reply =>
        checked "ExtractionMetadata" ExtractionMetadata.Valid (recordOf cells now) >>= fun metadata =>
        payloadOf services.platform jobId prospectId metadata detected reply >>= fun payload => .ok (payload, metadata)) := by
  unfold extractExcelPayload extractFromCells
  rw [listed]
  show (preLlmScan services.platform cells >>= _) = _
  rw [scanned]
  rfl

/-- The record fits, since the cells are counted. -/
theorem made_contained (jobId prospectId : String) (now : DateTime) (detected : List ShapeViolatingLane) {cells : List Cell}
    (counted : cells.length ≤ 5000) (reply : Json) :
    Contained (checked "ExtractionMetadata" ExtractionMetadata.Valid (recordOf cells now) >>= fun metadata =>
      payloadOf platform jobId prospectId metadata detected reply >>= fun payload => .ok (payload, metadata)) ↔
      ∃ body, reply = .obj body ∧ LanesFine platform ((find "lanes" body).getD (.arr [])) := by
  have version : lengthWithin 1 32 promptVersion := by decide
  have valid : ExtractionMetadata.Valid (recordOf cells now) := ⟨rfl, version, counted⟩
  rw [checked_of_valid valid]
  show Contained (payloadOf platform jobId prospectId _ detected reply >>= _) ↔ _
  rw [contained_bind, payloadOf_contained]
  exact and_iff_left (fun _ _ => contained_ok _)

/-- The extraction of a workbook returns or raises what Stage 2 handles if and only if the service and the
    reply are manageable. -/
theorem extraction_contained_iff (services : Services) (raws : Raises (List (Raises RawCell))) (cells : List Cell)
    (jobId prospectId : String) (now : DateTime) (listed : buildCellList raws = .ok cells)
    (placed : ∀ cell ∈ cells, Placed cell) :
    Contained (extractExcelPayload services raws jobId prospectId now) ↔ Manageable services cells jobId prospectId := by
  obtain ⟨⟨shown, detected⟩, scanned⟩ : Returns (preLlmScan services.platform cells) := preLlmScan_returns placed
  have dumps := dumpCells_contained scanned
  have called := calls_contained services (buildPrompt services.platform jobId prospectId shown) (fun response =>
    parse_contained response (made_contained jobId prospectId now detected (buildCellList_length listed)))
  rw [extract_steps jobId prospectId now listed scanned, contained_bind]
  constructor
  · rintro ⟨written, rest⟩
    obtain ⟨done, returned⟩ := (contained_iff_returns (dumpCells_unhandled shown)).mp written
    refine ⟨dumps.mp written, ?_⟩
    have later := rest done returned
    cases client : services.client [] with
    | ok _ =>
      rw [client] at later
      intro shown' detected' scanned'
      cases scanned.symm.trans scanned'
      exact called.mp later
    | error exc =>
      rw [client] at later
      exact contained_error.mp later
  · rintro ⟨writable, calls⟩
    refine ⟨dumps.mpr writable, fun _ _ => ?_⟩
    cases client : services.client [] with
    | ok _ =>
      rw [client] at calls
      exact called.mpr (calls shown detected scanned)
    | error exc =>
      rw [client] at calls
      exact contained_error.mpr calls

/-- A lane without an origin. -/
def originlessReply : Json :=
  .obj [("lanes", .arr [.obj [("lane_id", .str "L1"), ("destination_port", .obj [("code", .str "CNSHA")])]])]

/-- Services whose model answers with this text. -/
def answering (text : String) : Services where
  platform := asciiPlatform [(originlessReply.render "", originlessReply)] sampleDigest sampleDigest_length
  client _ := .ok ()
  generate _ _ := .ok { text := some text, candidates := [] }
  expires _ := false

/-- The lane without an origin raises a `ValidationError` in the scan, and a text that is no JSON is not
    caught either. -/
theorem originless_reply_escapes :
    extractExcelPayload (answering (originlessReply.render "")) scannedWorkbook "j1" "acme" ⟨⟨2026, 6, 1⟩, 0⟩ =
        .error (validationError "ShapeViolatingLane") ∧
      ¬ Contained (extractExcelPayload (answering (originlessReply.render "")) scannedWorkbook "j1" "acme"
        ⟨⟨2026, 6, 1⟩, 0⟩) ∧
      ¬ Contained (extractExcelPayload (answering "Sorry") scannedWorkbook "j1" "acme" ⟨⟨2026, 6, 1⟩, 0⟩) := by
  have invalid : extractExcelPayload (answering (originlessReply.render "")) scannedWorkbook "j1" "acme"
      ⟨⟨2026, 6, 1⟩, 0⟩ = .error (validationError "ShapeViolatingLane") := by decide +kernel
  have unparsed : extractExcelPayload (answering "Sorry") scannedWorkbook "j1" "acme" ⟨⟨2026, 6, 1⟩, 0⟩ =
      .error (PyExc.mk' .jsonDecodeError "Expecting value: line 1 column 1 (char 0)") := by decide +kernel
  refine ⟨invalid, ?_, ?_⟩
  · rw [invalid, contained_error]
    decide
  · rw [unparsed, contained_error]
    decide

theorem extraction_contained_iff_originless :
    Contained (extractExcelPayload (answering (originlessReply.render "")) scannedWorkbook "j1" "acme"
        ⟨⟨2026, 6, 1⟩, 0⟩) ↔
      Manageable (answering (originlessReply.render "")) scannedCells "j1" "acme" :=
  extraction_contained_iff (answering (originlessReply.render "")) scannedWorkbook scannedCells "j1" "acme"
    ⟨⟨2026, 6, 1⟩, 0⟩ (by decide +kernel) (by decide +kernel)

end Onramp.ExtractorErrors
