import Onramp.ShapeScan
import Onramp.LaneAccounting

/-!
The carriers of the shape violators in Stage 4. Both scans of Stage 2 lift a row because one
of its codes is outside the UN/LOCODE shape, and such a code stays outside it when it is made
a string and cut to 64 characters. So R1 rejects every carrier, and none is dropped with the
synthetic lanes.
-/
namespace Onramp.Carriers
open Onramp.Python
open Onramp.Values
open Onramp.Models
open Onramp.Cells
open Onramp.Excel
open Onramp.Rules
open Onramp.Stage4
open Onramp.ShapeScan
open Onramp.Schema (mem_right_of_forall₂)
open Onramp.LaneAccounting (sampleServices sampleNow sampleSheet)
open Onramp.Library.Keyed (find find_of_mem)

/-- A code of UN/LOCODE shape is short and starts with a capital. -/
theorem shape_of_match {s : String} (shaped : unlocodeMatch s = true) :
    s.toList.length ≤ 6 ∧ ∃ c rest, s.toList = c :: rest ∧ isUpper c = true := by
  unfold unlocodeMatch at shaped
  split at shaped
  · next a b c d e five =>
    simp only [unlocodeChars, Bool.and_eq_true] at shaped
    exact ⟨by simp [five], a, _, five, shaped.1.1.1.1⟩
  · next a b c d e six =>
    simp only [unlocodeChars, Bool.and_eq_true] at shaped
    exact ⟨by simp [six], a, _, six, shaped.1.1.1.1⟩
  · cases shaped

theorem outside_of_head {s : String} {c : Char} {rest : List Char} (starts : s.toList = c :: rest)
    (lower : isUpper c = false) : unlocodeMatch s = false := by
  by_contra shaped
  obtain ⟨-, c', rest', starts', upper⟩ := shape_of_match (Bool.not_eq_false _ ▸ shaped)
  rw [starts] at starts'
  cases starts'
  rw [lower] at upper
  cases upper

/-- Cutting a code to 64 characters does not bring it into the shape. -/
theorem outside_of_slice {s : String} (outside : unlocodeMatch s = false) : unlocodeMatch (sliceTo 64 s) = false := by
  by_cases short : s.length ≤ 64
  · rw [sliceTo_of_length_le short]
    exact outside
  · by_contra shaped
    have bounded := (shape_of_match (Bool.not_eq_false _ ▸ shaped)).1
    rw [sliceTo, String.toList_ofList, List.length_take, String.length_toList] at bounded
    omega

theorem outside_of_bounded {s : String} (outside : unlocodeMatch s = false) : unlocodeMatch (boundedCode s) = false := by
  unfold boundedCode
  split
  · decide
  · exact outside_of_slice outside

/-- The `repr` of a float: its letters are those of an exponent, of `inf` and of `nan`. -/
def FloatRepr (text : String) : Prop := ∀ c ∈ text.toList, isUpper c = false

mutual
/-- The floats of the value carry their `repr`. -/
def Shown : Json → Prop
  | .float text => FloatRepr text
  | .arr items => ShownItems items
  | .obj members => ShownMembers members
  | _ => True

def ShownItems : List Json → Prop
  | [] => True
  | item :: rest => Shown item ∧ ShownItems rest

def ShownMembers : List (String × Json) → Prop
  | [] => True
  | (_, value) :: rest => Shown value ∧ ShownMembers rest
end

theorem shown_of_items {items : List Json} (shown : ShownItems items) : ∀ item ∈ items, Shown item := by
  induction items with
  | nil => simp
  | cons item rest ih =>
    intro other inside
    rcases List.mem_cons.mp inside with rfl | later
    · exact shown.1
    · exact ih shown.2 other later

theorem shown_of_member {members : List (String × Json)} (shown : ShownMembers members) {name : String} {value : Json}
    (found : find name members = some value) : Shown value := by
  induction members with
  | nil => cases found
  | cons member rest ih =>
    obtain ⟨name', value'⟩ := member
    unfold find at found
    split at found
    · cases found
      exact shown.1
    · exact ih shown.2 found

/-- `str` of a value that is not a string is outside the shape. -/
theorem outside_of_toStr {value : Json} (shown : Shown value) (text : ∀ s, value ≠ .str s) :
    unlocodeMatch value.toStr = false := by
  have digits : ∀ n : Nat, unlocodeMatch (Nat.repr n) = false := by
    intro n
    by_contra shaped
    obtain ⟨-, c, rest, starts, upper⟩ := shape_of_match (Bool.not_eq_false _ ▸ shaped)
    have digit : c.isDigit = true := by
      refine Nat.isDigit_of_mem_toDigits (b := 10) (n := n) (by decide) (by decide) ?_
      rw [← Nat.toList_repr, starts]
      exact List.mem_cons_self
    simp only [Char.isDigit, isUpper, Bool.and_eq_true, decide_eq_true_eq] at digit upper
    have small : c.toNat ≤ 57 := UInt32.le_iff_toNat_le.mp digit.2
    omega
  cases value with
  | null => decide
  | bool b => cases b <;> decide
  | int n =>
    show unlocodeMatch (Int.repr n) = false
    rw [Int.repr_eq_if]
    split
    · exact digits _
    · exact outside_of_head (c := '-') (by rw [String.toList_append]; rfl) (by decide)
  | float text' =>
    show unlocodeMatch text' = false
    by_contra shaped
    obtain ⟨-, c, rest, starts, upper⟩ := shape_of_match (Bool.not_eq_false _ ▸ shaped)
    have lower : isUpper c = false := shown c (by rw [starts]; exact List.mem_cons_self)
    rw [lower] at upper
    cases upper
  | str s => exact absurd rfl (text s)
  | arr items => exact outside_of_head (c := '[') (by simp [Json.toStr, Json.repr, listRepr]; rfl) (by decide)
  | obj members => exact outside_of_head (c := '\x7b') (by simp [Json.toStr, Json.repr]; rfl) (by decide)

/-- One of the two raw codes is outside the shape. -/
def Outside (violator : ShapeViolatingLane) : Prop :=
  unlocodeMatch violator.rawOriginCode = false ∨ unlocodeMatch violator.rawDestinationCode = false

/-- A cell outside the shape stays outside it as the raw code of a violator. -/
theorem outside_of_violates {columnMap : ColumnMap} {cell : Cell} (bad : violates columnMap cell = true) :
    unlocodeMatch (boundedCode cell.value.toStr) = false := by
  have outside : unlocodeMatch cell.value.scanText = false := by
    simp only [violates, Bool.and_eq_true, Bool.not_eq_true'] at bad
    exact bad.2
  cases value : cell.value with
  | none => decide
  | _ =>
    rw [value] at outside
    exact outside_of_bounded outside

/-- The recovery fills the missing side only. -/
theorem recover_kept (slots : ColumnSlots) (rowCells : List Cell) (found : RoleCells) {cell : Cell} :
    (found.origin = some cell → (recover slots rowCells found).origin = some cell) ∧
      (found.destination = some cell → (recover slots rowCells found).destination = some cell) := by
  unfold recover
  induction rowCells generalizing found with
  | nil => exact ⟨id, id⟩
  | cons other rest ih =>
    constructor
    · intro held
      refine (ih _).1 ?_
      simp only [held, Option.isNone_some, Bool.false_eq_true, false_and, if_false]
      split
      · rfl
      · exact held
    · intro held
      refine (ih _).2 ?_
      simp only [held, Option.isNone_some, Bool.false_eq_true, false_and, if_false]
      split
      · rfl
      · exact held

theorem liftRow_outside {columnMap : ColumnMap} {cells : List Cell} {place : String × Nat} {slot : RoleCells}
    (held : SlotOf columnMap cells place slot) {violator : ShapeViolatingLane}
    (lifted : liftRow columnMap cells (place, slot) = .ok violator) : Outside violator := by
  unfold liftRow at lifted
  simp only at lifted
  split at lifted
  · next anchor slots anchored found =>
    obtain ⟨reference, -, lifted⟩ := bind_eq_ok.mp lifted
    obtain ⟨-, rfl⟩ := checked_eq_ok.mp lifted
    cases origin : slot.origin with
    | some cell =>
      left
      have kept := (recover_kept slots (cells.filter (fun cell => cell.place = place)) slot).1 origin
      simp only [kept, Option.map_some, Option.getD_some]
      exact outside_of_violates (held.fromRow cell (.inl origin)).2.1
    | none =>
      rw [origin, Option.none_or] at anchored
      right
      have kept := (recover_kept slots (cells.filter (fun cell => cell.place = place)) slot).2 anchored
      simp only [kept, Option.map_some, Option.getD_some]
      exact outside_of_violates (held.fromRow anchor (.inr anchored)).2.1
  · cases lifted

theorem scan_outside {columnMap : ColumnMap} {cells shown : List Cell} {violators : List ShapeViolatingLane}
    (scanned : scanCellsForShapeViolators cells columnMap = .ok (shown, violators)) :
    ∀ violator ∈ violators, Outside violator := by
  intro violator inside
  obtain ⟨entry, member, lifted⟩ := mem_right_of_forall₂ (liftRows_forall (scan_eq_ok scanned).1) inside
  have collected := violatingRows_collected columnMap cells
  have stored := (List.perm_insertionSort rowOrder (violatingRows columnMap cells)).subset member
  exact liftRow_outside (collected.sound entry.1 entry.2 (find_of_mem collected.distinct stored)) lifted

theorem shown_portText {lane : Json} (shown : Shown lane) {name : String} {code : Json}
    (read : portText lane name = .ok code) : Shown code := by
  have member : ∀ {value port : Json} {name : String}, Shown value → value.get name = .ok port → Shown port := by
    intro value port name shown got
    cases value with
    | obj members =>
      rw [Json.get_obj] at got
      cases got
      cases found : find name members with
      | none => trivial
      | some port => exact shown_of_member shown found
    | _ => cases got
  unfold portText at read
  obtain ⟨port, got, read⟩ := bind_eq_ok.mp read
  have shown_port : Shown (if port.truthy then port else .obj []) := by
    split
    · exact member shown got
    · trivial
  generalize (if port.truthy then port else Json.obj []) = holder at read shown_port
  cases holder with
  | obj members =>
    cases read
    cases found : find "code" members with
    | none => trivial
    | some value => exact shown_of_member shown_port found
  | _ => cases read

/-- A code that fails the check of the scan is outside the shape as the raw code of a violator. -/
theorem outside_of_strOr {code : Json} (shown : Shown code) (unshaped : shapedCode code = false) :
    unlocodeMatch (strOr code "") = false := by
  unfold strOr
  split
  · cases code with
    | str text => exact unshaped
    | _ => exact outside_of_toStr shown (by simp)
  · decide

theorem preScanLane_outside {platform : Platform} {sheetName : String} {idx : Nat} {lane : Json} (shown : Shown lane)
    {violator : ShapeViolatingLane} (lifted : preScanLane platform sheetName idx lane = .ok (some violator)) :
    Outside violator := by
  unfold preScanLane at lifted
  simp only [bind_eq_ok] at lifted
  obtain ⟨origin, originRead, destination, destinationRead, lifted⟩ := lifted
  split at lifted
  · cases lifted
  next unshaped =>
  simp only [bind_eq_ok, pure_eq_ok, Option.some.injEq] at lifted
  obtain ⟨_, -, _, -, _, -, _, built, rfl⟩ := lifted
  obtain ⟨-, rfl⟩ := checked_eq_ok.mp built
  by_cases shaped : shapedCode origin = true
  · right
    exact outside_of_strOr (shown_portText shown destinationRead) (Bool.eq_false_iff.mpr (fun both => unshaped ⟨shaped, both⟩))
  · left
    exact outside_of_strOr (shown_portText shown originRead) (Bool.eq_false_iff.mpr shaped)

theorem preScanFrom_outside {platform : Platform} {sheetName : String} {idx : Nat} {items surviving : List Json}
    {violating : List ShapeViolatingLane} (shown : ∀ item ∈ items, Shown item)
    (scanned : preScanFrom platform sheetName idx items = .ok (surviving, violating)) :
    ∀ violator ∈ violating, Outside violator := by
  induction items generalizing idx surviving violating with
  | nil =>
    cases scanned
    simp
  | cons lane rest ih =>
    obtain ⟨lifted, surviving', violating', here, later, -, rfl⟩ := preScanFrom_cons scanned
    have others := ih (fun item inside => shown item (List.mem_cons_of_mem _ inside)) later
    cases lifted with
    | none => exact others
    | some violator =>
      intro other inside
      rcases List.mem_cons.mp inside with rfl | tail
      · exact preScanLane_outside (shown lane List.mem_cons_self) here
      · exact others other tail

theorem preScan_outside {platform : Platform} {body : List (String × Json)} {sheetName : String} {surviving : List Json}
    {violating : List ShapeViolatingLane} (shown : Shown (.obj body))
    (scanned : preScanShapeViolators platform body sheetName = .ok (surviving, violating)) :
    ∀ violator ∈ violating, Outside violator := by
  unfold preScanShapeViolators at scanned
  obtain ⟨lanes, iterated, scanned⟩ := bind_eq_ok.mp scanned
  refine preScanFrom_outside ?_ scanned
  have shown_lanes : Shown ((find "lanes" body).getD (.arr [])) := by
    cases found : find "lanes" body with
    | none => trivial
    | some value => exact shown_of_member shown found
  generalize (find "lanes" body).getD (.arr []) = value at iterated shown_lanes
  cases value with
  | arr items =>
    cases iterated
    exact shown_of_items shown_lanes
  | obj members =>
    cases iterated
    intro item inside
    obtain ⟨member, _, rfl⟩ := List.mem_map.mp inside
    trivial
  | str text =>
    cases iterated
    intro item inside
    obtain ⟨c, _, rfl⟩ := List.mem_map.mp inside
    trivial
  | _ => cases iterated

/-- The violator was lifted by the scan of the cells, or by the scan of a reply that
    `json.loads` returned. -/
inductive Lifted (violator : ShapeViolatingLane) : Prop
  | scanned {columnMap : ColumnMap} {cells shown : List Cell} {violators : List ShapeViolatingLane}
    (scanned : scanCellsForShapeViolators cells columnMap = .ok (shown, violators)) (inside : violator ∈ violators)
  | preScanned {platform : Platform} {body : List (String × Json)} {sheetName : String} {surviving : List Json}
    {violators : List ShapeViolatingLane} (loaded : Shown (.obj body))
    (scanned : preScanShapeViolators platform body sheetName = .ok (surviving, violators)) (inside : violator ∈ violators)

theorem Lifted.outside {violator : ShapeViolatingLane} (lifted : Lifted violator) : Outside violator := by
  cases lifted with
  | scanned scanned inside => exact scan_outside scanned violator inside
  | preScanned loaded scanned inside => exact preScan_outside loaded scanned violator inside

/-- R1 rejects lanes outside the shape one by one, in order. -/
theorem screen_outside {today : Date} {lanes surviving : List LaneRecord} {rejected : List RejectionRecord}
    {violations : List RuleViolation}
    (outside : ∀ lane ∈ lanes, unlocodeMatch lane.originPort.code = false ∨ unlocodeMatch lane.destinationPort.code = false)
    (returned : screen today lanes = .ok (surviving, rejected, violations)) :
    rejected.map (fun record => (record.ruleId, recordIdentity record)) =
      lanes.map (fun lane => ("port_unknown_unlocode", laneIdentity lane)) := by
  induction lanes generalizing surviving rejected violations with
  | nil =>
    cases returned
    rfl
  | cons lane rest ih =>
    have first := outside lane List.mem_cons_self
    rcases screen_cons.mp returned with ⟨_, evaluated, -⟩ | ⟨v, records, _, evaluated, -, later, rfl, -⟩
    · obtain ⟨v, impossible, -⟩ := evaluateLane_bad_shape first evaluated
      cases impossible
    · obtain ⟨_, same, unknown⟩ := evaluateLane_bad_shape first evaluated
      cases same
      rw [List.map_cons, List.map_cons, ih (fun other inside => outside other (List.mem_cons_of_mem _ inside)) later]
      simp [rejection, recordIdentity, laneIdentity, unknown, RuleId.literal]

/-- What the re-injection appends, to the rejections and to the violations. -/
theorem reinjectCarriers_outside {inputs : Inputs} {shapeViolators : List ShapeViolatingLane}
    {validated out : NormalizedRatesheet} {violations allViolations : List RuleViolation}
    (outside : ∀ violator ∈ shapeViolators, Outside violator)
    (returned : reinjectCarriers inputs shapeViolators validated violations = .ok (out, allViolations)) :
    ∃ carriers added,
      out = { validated with deterministicallyRejected := validated.deterministicallyRejected ++ carriers } ∧
      carriers.map (fun record => (record.ruleId, recordIdentity record)) =
        shapeViolators.map (fun violator => ("port_unknown_unlocode", violatorIdentity violator)) ∧
      allViolations = violations ++ added ∧
      carriers.map RejectionRecord.ruleId = added.map (fun v => v.ruleId.literal) := by
  unfold reinjectCarriers at returned
  split at returned
  · next none =>
    cases returned
    exact ⟨[], [], by simp, by simp [none], by simp, rfl⟩
  · unfold applyHardRules at returned
    simp only [bind_eq_ok, pure_eq_ok, Prod.mk.injEq] at returned
    obtain ⟨_, ⟨⟨surviving, carriers, added⟩, screened, rfl⟩, rfl, rfl⟩ := returned
    have codes : ∀ lane ∈ shapeViolators.map (carrier inputs.today),
        unlocodeMatch lane.originPort.code = false ∨ unlocodeMatch lane.destinationPort.code = false := by
      intro lane inside
      obtain ⟨violator, member, rfl⟩ := List.mem_map.mp inside
      exact outside violator member
    refine ⟨carriers, added, by simp [syntheticSheet], ?_, rfl, (screen_spec screened).2.2.1⟩
    rw [screen_outside codes screened, List.map_map]
    rfl

/-- The rejections of the lanes come first and then one rejection for each violator, in order,
    under its own lane id and source row, and the violations name the same rules in the same
    order, whenever the two applications of the rules return. -/
theorem carriers_all_rejected (inputs : Inputs) (normalized validated out : NormalizedRatesheet)
    (violations allViolations : List RuleViolation)
    (lifted : ∀ violator ∈ normalized.shapeViolatingLanes, Lifted violator)
    (ruled : applyHardRules normalized inputs.rulesDate = .ok (validated, violations))
    (returned : reinjectCarriers inputs normalized.shapeViolatingLanes validated violations = .ok (out, allViolations)) :
    ∃ rejected carriers,
      out = { validated with
        deterministicallyRejected := normalized.deterministicallyRejected ++ rejected ++ carriers } ∧
      rejected.map recordIdentity =
        (normalized.lanes.filter (fun lane => !passes inputs.rulesDate lane)).map laneIdentity ∧
      carriers.map (fun record => (record.ruleId, recordIdentity record)) =
        normalized.shapeViolatingLanes.map (fun violator => ("port_unknown_unlocode", violatorIdentity violator)) ∧
      allViolations.map (fun v => v.ruleId.literal) = (rejected ++ carriers).map RejectionRecord.ruleId := by
  obtain ⟨rejected, rfl, identities, rules, -⟩ := applyHardRules_spec ruled
  obtain ⟨carriers, added, rfl, records, rfl, names⟩ :=
    reinjectCarriers_outside (fun violator inside => (lifted violator inside).outside) returned
  refine ⟨rejected, carriers, rfl, identities, records, ?_⟩
  rw [List.map_append, List.map_append, rules, names]

/-- The scan of a row with the name of a port, without its destination. -/
def namedViolator : ShapeViolatingLane := ⟨"shape_violator_Rates_2", "Shanghai", " ", ⟨"Rates", 2, "A2"⟩⟩

theorem namedViolator_scanned :
    scanCellsForShapeViolators [⟨"Rates", 2, 1, "A2", .text "Shanghai"⟩] [("Rates", ⟨1, 2, 1⟩)] =
      .ok ([], [namedViolator]) := by
  rfl

/-- The scan of a reply whose origin code is a number. -/
def numberReply : List (String × Json) :=
  [("lanes", .arr [.obj [("lane_id", .str "L1"), ("origin_port", .obj [("code", .int 7)]),
    ("destination_port", .obj [("code", .str "CNSHA")])]])]

def numberViolator : ShapeViolatingLane := ⟨"L1", "7", "CNSHA", ⟨"Rates", 2, "A2"⟩⟩

theorem numberViolator_scanned :
    preScanShapeViolators sampleServices.platform numberReply "Rates" = .ok ([], [numberViolator]) := by
  rfl

def carrierSheet : NormalizedRatesheet := { sampleSheet [] [] with shapeViolatingLanes := [namedViolator, numberViolator] }

def carrierInputs : Inputs where
  services := sampleServices
  votesByLane := []
  consensusOf _ := none
  calibration := .ok ⟨"cal", 30, "2026-06-01"⟩
  rulesDate := sampleNow.date
  carriersDate := sampleNow.date
  today := sampleNow.date

theorem carriers_all_rejected_sample :
    ∃ validated out violations allViolations, applyHardRules carrierSheet sampleNow.date = .ok (validated, violations) ∧
      reinjectCarriers carrierInputs [namedViolator, numberViolator] validated violations = .ok (out, allViolations) ∧
      ∃ rejected carriers,
        out = { validated with
          deterministicallyRejected := carrierSheet.deterministicallyRejected ++ rejected ++ carriers } ∧
        rejected.map recordIdentity =
          (carrierSheet.lanes.filter (fun lane => !passes sampleNow.date lane)).map laneIdentity ∧
        carriers.map (fun record => (record.ruleId, recordIdentity record)) =
          [namedViolator, numberViolator].map (fun violator => ("port_unknown_unlocode", violatorIdentity violator)) ∧
        allViolations.map (fun v => v.ruleId.literal) = (rejected ++ carriers).map RejectionRecord.ruleId := by
  have loaded : Shown (.obj numberReply) := by simp [Shown, numberReply, ShownMembers, ShownItems]
  have lifted : ∀ violator ∈ carrierSheet.shapeViolatingLanes, Lifted violator := by
    intro violator inside
    rcases List.mem_pair.mp inside with rfl | rfl
    · exact .scanned namedViolator_scanned List.mem_cons_self
    · exact .preScanned loaded numberViolator_scanned List.mem_cons_self
  exact ⟨_, _, _, _, rfl, rfl,
    carriers_all_rejected carrierInputs carrierSheet _ _ _ _ lifted rfl rfl⟩

end Onramp.Carriers
