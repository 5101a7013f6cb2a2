import Onramp.StoredFormat

/-!
`model_dump(mode="json")` of a ratesheet, and `model_validate` of what a store makes of the dump.
Whatever order the members of its objects are in, the dump is read back as the ratesheet that it
was made of when this one meets its schema, and is refused when it does not.
-/
namespace Onramp.Models
open Onramp.Values
open Onramp.StoredFormat (zulu)

theorem LaneRecord.modelDump_eq (lane : LaneRecord) : lane.modelDump =
    .obj [("lane_id", .str lane.laneId), ("origin_port", lane.originPort.modelDump),
      ("destination_port", lane.destinationPort.modelDump), ("equipment_type", .str lane.equipmentType.literal),
      ("commodity_code", (lane.commodityCode.map .str).getD .null), ("base_rate_usd", .str lane.baseRateUsd.str),
      ("surcharges", .arr (lane.surcharges.map SurchargeRecord.modelDump)),
      ("transit_time_days", (lane.transitTimeDays.map .int).getD .null),
      ("validity_start", .str lane.validityStart.isoformat), ("validity_end", .str lane.validityEnd.isoformat),
      ("source_row_reference", lane.sourceRowReference.modelDump)] := rfl

/-- `FlagReason.__args__`. -/
def FlagReason.args : List FlagReason :=
  [.lowConfidence, .noMajority, .ambiguousField, .portObfuscationUnresolved, .hardRuleViolation]

/-- `flagged.model_dump(mode="json")`. -/
def FlaggedLane.modelDump (flagged : FlaggedLane) : Json :=
  .obj [("lane", flagged.lane.modelDump), ("reason", .str flagged.reason.literal),
    ("confidence", (flagged.confidence.map fun d => .str d.str).getD .null)]

/-- `record.model_dump(mode="json")`. -/
def RejectionRecord.modelDump (record : RejectionRecord) : Json :=
  .obj [("source_row_reference", record.sourceRowReference.modelDump), ("lane_id", .str record.laneId),
    ("rule_id", .str record.ruleId), ("rule_description", .str record.ruleDescription)]

/-- `violator.model_dump(mode="json")`. -/
def ShapeViolatingLane.modelDump (violator : ShapeViolatingLane) : Json :=
  .obj [("lane_id", .str violator.laneId), ("raw_origin_code", .str violator.rawOriginCode),
    ("raw_destination_code", .str violator.rawDestinationCode),
    ("source_row_reference", violator.sourceRowReference.modelDump)]

/-- `metadata.model_dump(mode="json")`. -/
def ExtractionMetadata.modelDump (metadata : ExtractionMetadata) : Json :=
  .obj [("extractor_model", .str metadata.extractorModel),
    ("extracted_at", .str (String.ofList (zulu metadata.extractedAt))), ("prompt_version", .str metadata.promptVersion),
    ("cell_count", .int metadata.cellCount)]

/-- `rs.model_dump(mode="json")`. -/
def NormalizedRatesheet.modelDump (rs : NormalizedRatesheet) : Json :=
  .obj [("job_id", .str rs.jobId), ("prospect_id", .str rs.prospectId),
    ("extraction_metadata", rs.extractionMetadata.modelDump), ("lanes", .arr (rs.lanes.map LaneRecord.modelDump)),
    ("conformal_scores", .obj (rs.conformalScores.map fun entry => (entry.1, .float entry.2))),
    ("flagged_for_review", .arr (rs.flaggedForReview.map FlaggedLane.modelDump)),
    ("deterministically_rejected", .arr (rs.deterministicallyRejected.map RejectionRecord.modelDump)),
    ("shape_violating_lanes", .arr (rs.shapeViolatingLanes.map ShapeViolatingLane.modelDump)),
    ("schema_version", .str rs.schemaVersion)]

end Onramp.Models

namespace Onramp.Schema
open Onramp.Python
open Onramp.Values
open Onramp.Models
open Onramp.Library.Keyed (find)

/-- What the schema library makes of the values of two more types of fields. -/
structure Coercions where
  /-- the time a `datetime` field takes a value for -/
  asDateTime : Json → Option DateTime
  /-- the number a `float` field takes a value for, by its `repr` -/
  asFloat : Json → Option String

/-- A field with a default. -/
def defaulted {α : Type} (default : α) (read : Json → Option α) : Option Json → Option α
  | none => some default
  | some value => read value

/-- A `dict[str, X]` field. -/
def dictOf {α : Type} (read : Json → Option α) : Json → Option (List (String × α))
  | .obj members => (allOf read (members.map Prod.snd)).map fun values => (members.map Prod.fst).zip values
  | _ => none

variable (platform : Platform) (coercions : Coercions)

/-- `FlaggedLane.model_validate`. -/
def flaggedLane (value : Json) : Option FlaggedLane := do
  let members ← objectOf ["lane", "reason", "confidence"] value
  let lane ← (find "lane" members).bind (laneRecord platform)
  let reason ← (find "reason" members).bind (literalOf FlagReason.literal FlagReason.args)
  let confidence ← optionalOf platform.asDecimal (find "confidence" members)
  guarded FlaggedLane.Valid { lane, reason, confidence }

/-- `RejectionRecord.model_validate`. -/
def rejectionRecord (value : Json) : Option RejectionRecord := do
  let members ← objectOf ["source_row_reference", "lane_id", "rule_id", "rule_description"] value
  let sourceRowReference ← (find "source_row_reference" members).bind (sourceRow platform)
  let laneId ← (find "lane_id" members).bind textOf
  let ruleId ← (find "rule_id" members).bind textOf
  let ruleDescription ← (find "rule_description" members).bind textOf
  guarded RejectionRecord.Valid { sourceRowReference, laneId, ruleId, ruleDescription }

/-- `ShapeViolatingLane.model_validate`. -/
def shapeViolatingLane (value : Json) : Option ShapeViolatingLane := do
  let members ← objectOf ["lane_id", "raw_origin_code", "raw_destination_code", "source_row_reference"] value
  let laneId ← (find "lane_id" members).bind textOf
  let rawOriginCode ← (find "raw_origin_code" members).bind textOf
  let rawDestinationCode ← (find "raw_destination_code" members).bind textOf
  let sourceRowReference ← (find "source_row_reference" members).bind (sourceRow platform)
  guarded ShapeViolatingLane.Valid { laneId, rawOriginCode, rawDestinationCode, sourceRowReference }

/-- `ExtractionMetadata.model_validate`. -/
def extractionMetadata (value : Json) : Option ExtractionMetadata := do
  let members ← objectOf ["extractor_model", "extracted_at", "prompt_version", "cell_count"] value
  let extractorModel ← (find "extractor_model" members).bind textOf
  let extractedAt ← (find "extracted_at" members).bind coercions.asDateTime
  let promptVersion ← (find "prompt_version" members).bind textOf
  let cellCount ← (find "cell_count" members).bind platform.asInt
  let counted ← guarded (fun count => 0 ≤ count) cellCount
  guarded ExtractionMetadata.Valid { extractorModel, extractedAt, promptVersion, cellCount := counted.toNat }

/-- The fields of a `NormalizedRatesheet`. -/
def ratesheetFields : List String :=
  ["job_id", "prospect_id", "extraction_metadata", "lanes", "conformal_scores", "flagged_for_review",
    "deterministically_rejected", "shape_violating_lanes", "schema_version"]

/-- `NormalizedRatesheet.model_validate`. -/
def normalizedRatesheet (value : Json) : Option NormalizedRatesheet := do
  let members ← objectOf ratesheetFields value
  let jobId ← (find "job_id" members).bind textOf
  let prospectId ← (find "prospect_id" members).bind textOf
  let extractionMetadata ← (find "extraction_metadata" members).bind (extractionMetadata platform coercions)
  let lanes ← (find "lanes" members).bind (listOf (laneRecord platform))
  let conformalScores ← defaulted [] (dictOf coercions.asFloat) (find "conformal_scores" members)
  let flaggedForReview ← defaulted [] (listOf (flaggedLane platform)) (find "flagged_for_review" members)
  let deterministicallyRejected ← defaulted [] (listOf (rejectionRecord platform)) (find "deterministically_rejected" members)
  let shapeViolatingLanes ← defaulted [] (listOf (shapeViolatingLane platform)) (find "shape_violating_lanes" members)
  let schemaVersion ← defaulted "onramp.v1" textOf (find "schema_version" members)
  guarded NormalizedRatesheet.Valid
    { jobId, prospectId, extractionMetadata, lanes, conformalScores, flaggedForReview, deterministicallyRejected,
      shapeViolatingLanes, schemaVersion }

end Onramp.Schema

namespace Onramp.RoundTrip
open Onramp.Python
open Onramp.Values
open Onramp.Models
open Onramp.Schema
open Onramp.StoredFormat
open Onramp.JsonText
open Onramp.Library.Keyed (keys find)

/-- The coercions read what `str`, `isoformat` and the dump of a time write. -/
structure ReadsTexts (platform : Platform) (coercions : Coercions) : Prop where
  decimal : ∀ s d, decimalOf s.toList = some d → platform.asDecimal (.str s) = some d
  date : ∀ s d, isoDate s = some d → platform.asDate (.str s) = some d
  dateTime : ∀ s t, zuluTime s.toList = some t → coercions.asDateTime (.str s) = some t

/-- Exactly a value that meets its schema is read, and it is read as it is. -/
def Restores {α : Type} (read : Json → Option α) (valid : α → Prop) (written : Json) (value : α) : Prop :=
  ∀ result, read written = some result ↔ valid value ∧ value = result

/-- The members of an object in another order are found under the same names. -/
theorem objectOf_reordered {f : Json → Json} (reorders : Reorders f) (fields : List String) (members : List (String × Json))
    (distinct : (keys members).Nodup) (known : ∀ name ∈ keys members, name ∈ fields) :
    ∃ members', objectOf fields (f (.obj members)) = some members' ∧
      ∀ name, find name members' = (find name members).map f := by
  obtain ⟨members', same, names, found⟩ := reorders.find distinct
  refine ⟨members', objectOf_eq_some.mpr ⟨same, fun member inside => ?_⟩, found⟩
  exact known _ (names.mem_iff.mp (List.mem_map_of_mem inside))

/-- Every item of a list is read when each of them is. -/
theorem Restores.list {α : Type} {read : Json → Option α} {valid : α → Prop} {write : α → Json} {f : Json → Json}
    (reorders : Reorders f) {values : List α} (each : ∀ value ∈ values, Restores read valid (f (write value)) value) :
    Restores (listOf read) (fun values => ∀ value ∈ values, valid value) (f (.arr (values.map write))) values := by
  have all : ∀ results, allOf read ((values.map write).map f) = some results ↔ (∀ value ∈ values, valid value) ∧ values = results := by
    induction values with
    | nil => intro results; simp [allOf, eq_comm]
    | cons value rest ih =>
      obtain ⟨here, later⟩ := List.forall_mem_cons.mp each
      intro results
      rw [allOf_forall]
      simp only [List.map_cons, List.forall₂_cons_left_iff, ← allOf_forall, here _, ih later, List.forall_mem_cons]
      constructor
      · rintro ⟨_, _, ⟨valid, rfl⟩, ⟨others, rfl⟩, rfl⟩
        exact ⟨⟨valid, others⟩, rfl⟩
      · rintro ⟨⟨valid, others⟩, rfl⟩
        exact ⟨_, _, ⟨valid, rfl⟩, ⟨others, rfl⟩, rfl⟩
  intro results
  rw [reorders.arr]
  exact all results

/-- A literal is read exactly where it is one of the arguments. -/
theorem literalOf_eq_some {α : Type} {literal : α → String} (injective : Function.Injective literal) {args : List α}
    {value result : α} : literalOf literal args (.str (literal value)) = some result ↔ value ∈ args ∧ value = result := by
  have named : ∀ found, args.find? (fun other => literal other = literal value) = some found → found ∈ args ∧ value = found := by
    intro found first
    have same : literal found = literal value := by simpa using List.find?_some first
    exact ⟨List.mem_of_find?_eq_some first, (injective same).symm⟩
  constructor
  · intro first
    obtain ⟨inside, rfl⟩ := named _ first
    exact ⟨inside, rfl⟩
  · rintro ⟨inside, rfl⟩
    have present : (args.find? (fun other => literal other = literal value)).isSome :=
      List.find?_isSome.mpr ⟨value, inside, by simp⟩
    obtain ⟨found, first⟩ := Option.isSome_iff_exists.mp present
    obtain ⟨-, rfl⟩ := named _ first
    exact first

theorem literalOf_equipment {e result : EquipmentType} :
    literalOf EquipmentType.literal EquipmentType.args (.str e.literal) = some result ↔ e ∈ EquipmentType.args ∧ e = result :=
  literalOf_eq_some fun _ _ same => congrArg EquipmentType.mk same

theorem literalOf_basis {b result : SurchargeBasis} :
    literalOf SurchargeBasis.literal SurchargeBasis.args (.str b.literal) = some result ↔ b ∈ SurchargeBasis.args ∧ b = result :=
  literalOf_eq_some fun _ _ same => congrArg SurchargeBasis.mk same

theorem literalOf_reason (r : FlagReason) : literalOf FlagReason.literal FlagReason.args (.str r.literal) = some r := by
  cases r <;> rfl

variable {platform : Platform} {coercions : Coercions} {f : Json → Json}

theorem portCode_restores (reorders : Reorders f) (port : PortCode) :
    Restores portCode PortCode.Valid (f port.modelDump) port := by
  obtain ⟨members, shape, found⟩ := objectOf_reordered reorders ["code"] [("code", .str port.code)] (by simp [keys])
    (by simp [keys])
  intro result
  simp [portCode, PortCode.modelDump, shape, found, find, reorders.str, textOf, guarded_eq_some]

theorem surchargeRecord_restores (reads : ReadsTexts platform coercions) (reorders : Reorders f) (surcharge : SurchargeRecord) :
    Restores (surchargeRecord platform) SurchargeRecord.Valid (f surcharge.modelDump) surcharge := by
  obtain ⟨members, shape, found⟩ := objectOf_reordered reorders ["code", "amount_usd", "applies_per"]
    [("code", .str surcharge.code), ("amount_usd", .str surcharge.amountUsd.str),
      ("applies_per", .str surcharge.appliesPer.literal)] (by simp [keys]) (by simp [keys])
  have amount := reads.decimal _ _ (decimalOf_str surcharge.amountUsd)
  intro result
  simp [surchargeRecord, SurchargeRecord.modelDump, shape, found, find, reorders.str, textOf, amount,
    Option.bind_eq_some_iff, literalOf_basis, guarded_eq_some]
  exact fun valid _ => valid.2

theorem sourceRow_restores (reorders : Reorders f) (row : SourceRow) :
    Restores (sourceRow platform) SourceRow.Valid (f row.modelDump) row := by
  obtain ⟨members, shape, found⟩ := objectOf_reordered reorders ["sheet_name", "row_number", "cell_reference"]
    [("sheet_name", .str row.sheetName), ("row_number", .int row.rowNumber), ("cell_reference", .str row.cellReference)]
    (by simp [keys]) (by simp [keys])
  intro result
  simp [sourceRow, SourceRow.modelDump, shape, found, find, reorders.str, reorders.int, textOf, platform.asInt_int,
    guarded_eq_some]

/-- The dates of the lane are days of the calendar. -/
def DatedLane (lane : LaneRecord) : Prop := OnCalendar lane.validityStart ∧ OnCalendar lane.validityEnd

theorem laneRecord_restores (reads : ReadsTexts platform coercions) (reorders : Reorders f) {lane : LaneRecord}
    (dated : DatedLane lane) : Restores (laneRecord platform) LaneRecord.Valid (f lane.modelDump) lane := by
  obtain ⟨members, shape, found⟩ := objectOf_reordered reorders laneFields
    [("lane_id", .str lane.laneId), ("origin_port", lane.originPort.modelDump),
      ("destination_port", lane.destinationPort.modelDump), ("equipment_type", .str lane.equipmentType.literal),
      ("commodity_code", (lane.commodityCode.map .str).getD .null), ("base_rate_usd", .str lane.baseRateUsd.str),
      ("surcharges", .arr (lane.surcharges.map SurchargeRecord.modelDump)),
      ("transit_time_days", (lane.transitTimeDays.map .int).getD .null),
      ("validity_start", .str lane.validityStart.isoformat), ("validity_end", .str lane.validityEnd.isoformat),
      ("source_row_reference", lane.sourceRowReference.modelDump)] (by simp [keys]) (by simp [keys, laneFields])
  have rate := reads.decimal _ _ (decimalOf_str lane.baseRateUsd)
  have start := reads.date _ _ (isoDate_isoformat dated.1)
  have finish := reads.date _ _ (isoDate_isoformat dated.2)
  have commodity : optionalOf textOf (some (f ((lane.commodityCode.map .str).getD .null))) = some lane.commodityCode := by
    cases lane.commodityCode with
    | none => simp [reorders.null, optionalOf]
    | some code => simp [reorders.str, optionalOf, textOf]
  have transit : optionalOf platform.asInt (some (f ((lane.transitTimeDays.map .int).getD .null))) =
      some lane.transitTimeDays := by
    cases lane.transitTimeDays with
    | none => simp [reorders.null, optionalOf]
    | some days => simp [reorders.int, optionalOf, platform.asInt_int]
  intro result
  have origin := portCode_restores reorders lane.originPort
  have destination := portCode_restores reorders lane.destinationPort
  have row := @sourceRow_restores platform f reorders lane.sourceRowReference
  have surcharges := Restores.list reorders (fun surcharge (_ : surcharge ∈ lane.surcharges) =>
    surchargeRecord_restores reads reorders surcharge)
  rw [LaneRecord.modelDump_eq]
  simp [laneRecord, shape, found, find, reorders.str, textOf, literalOf_equipment, rate, start, finish, commodity, transit, Option.bind_eq_some_iff,
    origin _, destination _, row _, surcharges _, guarded_eq_some]
  constructor
  · rintro ⟨_, _, _, _, _, valid, rfl⟩
    exact ⟨valid, rfl⟩
  · rintro ⟨valid, rfl⟩
    exact ⟨valid.originPort, valid.destinationPort, valid.equipmentType, valid.surcharges, valid.sourceRowReference, valid,
      rfl⟩

theorem flaggedLane_restores (reads : ReadsTexts platform coercions) (reorders : Reorders f) {flagged : FlaggedLane}
    (dated : DatedLane flagged.lane) :
    Restores (flaggedLane platform) FlaggedLane.Valid (f flagged.modelDump) flagged := by
  obtain ⟨members, shape, found⟩ := objectOf_reordered reorders ["lane", "reason", "confidence"]
    [("lane", flagged.lane.modelDump), ("reason", .str flagged.reason.literal),
      ("confidence", (flagged.confidence.map fun d => .str d.str).getD .null)] (by simp [keys]) (by simp [keys])
  have lane := laneRecord_restores reads reorders dated
  have confidence : optionalOf platform.asDecimal (some (f ((flagged.confidence.map fun d => .str d.str).getD .null))) =
      some flagged.confidence := by
    cases flagged.confidence with
    | none => simp [reorders.null, optionalOf]
    | some d => simp [reorders.str, optionalOf, reads.decimal _ _ (decimalOf_str d)]
  intro result
  simp [flaggedLane, FlaggedLane.modelDump, shape, found, find, reorders.str, literalOf_reason, confidence,
    Option.bind_eq_some_iff, lane _, guarded_eq_some]
  exact fun valid _ => valid

theorem rejectionRecord_restores (reorders : Reorders f) (record : RejectionRecord) :
    Restores (rejectionRecord platform) RejectionRecord.Valid (f record.modelDump) record := by
  obtain ⟨members, shape, found⟩ := objectOf_reordered reorders
    ["source_row_reference", "lane_id", "rule_id", "rule_description"]
    [("source_row_reference", record.sourceRowReference.modelDump), ("lane_id", .str record.laneId),
      ("rule_id", .str record.ruleId), ("rule_description", .str record.ruleDescription)] (by simp [keys]) (by simp [keys])
  have row := @sourceRow_restores platform f reorders record.sourceRowReference
  intro result
  simp [rejectionRecord, RejectionRecord.modelDump, shape, found, find, reorders.str, textOf, Option.bind_eq_some_iff,
    row _, guarded_eq_some]
  exact fun valid _ => valid.1

theorem shapeViolatingLane_restores (reorders : Reorders f) (violator : ShapeViolatingLane) :
    Restores (shapeViolatingLane platform) ShapeViolatingLane.Valid (f violator.modelDump) violator := by
  obtain ⟨members, shape, found⟩ := objectOf_reordered reorders
    ["lane_id", "raw_origin_code", "raw_destination_code", "source_row_reference"]
    [("lane_id", .str violator.laneId), ("raw_origin_code", .str violator.rawOriginCode),
      ("raw_destination_code", .str violator.rawDestinationCode),
      ("source_row_reference", violator.sourceRowReference.modelDump)] (by simp [keys]) (by simp [keys])
  have row := @sourceRow_restores platform f reorders violator.sourceRowReference
  intro result
  simp [shapeViolatingLane, ShapeViolatingLane.modelDump, shape, found, find, reorders.str, textOf,
    Option.bind_eq_some_iff, row _, guarded_eq_some]
  exact fun valid _ => valid.2.2.2

theorem extractionMetadata_restores (reads : ReadsTexts platform coercions) (reorders : Reorders f)
    {metadata : ExtractionMetadata} (timed : OnClock metadata.extractedAt) :
    Restores (extractionMetadata platform coercions) ExtractionMetadata.Valid (f metadata.modelDump) metadata := by
  obtain ⟨members, shape, found⟩ := objectOf_reordered reorders
    ["extractor_model", "extracted_at", "prompt_version", "cell_count"]
    [("extractor_model", .str metadata.extractorModel),
      ("extracted_at", .str (String.ofList (zulu metadata.extractedAt))), ("prompt_version", .str metadata.promptVersion),
      ("cell_count", .int metadata.cellCount)] (by simp [keys]) (by simp [keys])
  have time := reads.dateTime (String.ofList (zulu metadata.extractedAt)) metadata.extractedAt (by
    rw [String.toList_ofList]
    exact zuluTime_zulu timed)
  intro result
  simp [extractionMetadata, ExtractionMetadata.modelDump, shape, found, find, reorders.str, reorders.int, textOf,
    platform.asInt_int, time, guarded_eq_some, Option.bind_eq_some_iff]

/-- The dates and the time of the ratesheet are those of a calendar and of a clock, and it has no
    conformal scores. -/
structure Dated (rs : NormalizedRatesheet) : Prop where
  lanes : ∀ lane ∈ rs.lanes, DatedLane lane
  flaggedForReview : ∀ flagged ∈ rs.flaggedForReview, DatedLane flagged.lane
  extractedAt : OnClock rs.extractionMetadata.extractedAt
  conformalScores : rs.conformalScores = []

/-- `model_validate` of a reordered dump: the ratesheet, exactly when it meets its schema. -/
theorem normalizedRatesheet_restores (reads : ReadsTexts platform coercions) (reorders : Reorders f)
    {rs : NormalizedRatesheet} (dated : Dated rs) :
    Restores (normalizedRatesheet platform coercions) NormalizedRatesheet.Valid (f rs.modelDump) rs := by
  obtain ⟨members, shape, found⟩ := objectOf_reordered reorders ratesheetFields
    [("job_id", .str rs.jobId), ("prospect_id", .str rs.prospectId),
      ("extraction_metadata", rs.extractionMetadata.modelDump), ("lanes", .arr (rs.lanes.map LaneRecord.modelDump)),
      ("conformal_scores", .obj []),
      ("flagged_for_review", .arr (rs.flaggedForReview.map FlaggedLane.modelDump)),
      ("deterministically_rejected", .arr (rs.deterministicallyRejected.map RejectionRecord.modelDump)),
      ("shape_violating_lanes", .arr (rs.shapeViolatingLanes.map ShapeViolatingLane.modelDump)),
      ("schema_version", .str rs.schemaVersion)] (by simp [keys]) (by simp [keys, ratesheetFields])
  have metadata := extractionMetadata_restores reads reorders dated.extractedAt
  have lanes := Restores.list reorders fun lane inside => laneRecord_restores reads reorders (dated.lanes lane inside)
  have flags := Restores.list reorders fun flagged inside =>
    flaggedLane_restores reads reorders (dated.flaggedForReview flagged inside)
  have rejections := Restores.list reorders fun record (_ : record ∈ rs.deterministicallyRejected) =>
    @rejectionRecord_restores platform f reorders record
  have violators := Restores.list reorders fun violator (_ : violator ∈ rs.shapeViolatingLanes) =>
    @shapeViolatingLane_restores platform f reorders violator
  have scores : dictOf coercions.asFloat (f (.obj [])) = some [] := by
    obtain ⟨empty, same, perm⟩ := reorders.obj [] (by simp [keys])
    obtain rfl := List.perm_nil.mp perm
    rw [same]
    rfl
  intro result
  simp [normalizedRatesheet, NormalizedRatesheet.modelDump, dated.conformalScores, shape, found, find, reorders.str, textOf,
    defaulted, scores, Option.bind_eq_some_iff, metadata _, lanes _, flags _, rejections _, violators _, guarded_eq_some]
  have same : { rs with conformalScores := [] } = rs := by rw [← dated.conformalScores]
  rw [same]
  constructor
  · rintro ⟨_, _, _, _, _, valid, rfl⟩
    exact ⟨valid, rfl⟩
  · rintro ⟨valid, rfl⟩
    exact ⟨valid.extractionMetadata, valid.lanes, valid.flaggedForReview, valid.deterministicallyRejected,
      valid.shapeViolatingLanes, valid, rfl⟩

end Onramp.RoundTrip
