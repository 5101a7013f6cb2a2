import Onramp.Values

/-!
The records of the pipeline and the constraints that their schemas put on them.
A record here is raw, as `model_construct` and `model_copy` build it: `Valid`
states its schema, and `checked` is the constructor that validates.
-/
namespace Onramp.Models
open Onramp.Python
open Onramp.Values

/-- `ValidationError`, of the model with this title. -/
def validationError (model : String) : PyExc := PyExc.mk' .validationError s!"validation error for {model}"

/-- The constructor of a model: the value when it meets the schema. -/
def checked {α : Type} (model : String) (valid : α → Prop) [DecidablePred valid] (value : α) : Raises α :=
  if valid value then .ok value else .error (validationError model)

theorem checked_eq_ok {α : Type} {model : String} {valid : α → Prop} [DecidablePred valid] {value result : α} :
    checked model valid value = .ok result ↔ valid value ∧ value = result := by
  unfold checked
  by_cases holds : valid value <;> simp [holds]

theorem checked_of_valid {α : Type} {model : String} {valid : α → Prop} [DecidablePred valid] {value : α}
    (holds : valid value) : checked model valid value = .ok value := by
  simp [checked, holds]

/-- `Field(min_length=low, max_length=high)`. -/
def lengthWithin (low high : Nat) (s : String) : Prop := low ≤ s.length ∧ s.length ≤ high

instance (low high : Nat) : DecidablePred (lengthWithin low high) :=
  fun s => inferInstanceAs (Decidable (low ≤ s.length ∧ s.length ≤ high))

/-- The text of an `equipment_type`: any text in a raw record, one of `args` in a valid one. -/
structure EquipmentType where
  literal : String
  deriving DecidableEq

namespace EquipmentType

def gp20 : EquipmentType := ⟨"20GP"⟩
def gp40 : EquipmentType := ⟨"40GP"⟩
def hc40 : EquipmentType := ⟨"40HC"⟩
def rf20 : EquipmentType := ⟨"20RF"⟩
def rf40 : EquipmentType := ⟨"40RF"⟩
def oog : EquipmentType := ⟨"OOG"⟩
def bulk : EquipmentType := ⟨"BULK"⟩

/-- `EquipmentType.__args__`. -/
def args : List EquipmentType := [gp20, gp40, hc40, rf20, rf40, oog, bulk]

end EquipmentType

/-- The text of an `applies_per`: any text in a raw record, one of `args` in a valid one. -/
structure SurchargeBasis where
  literal : String
  deriving DecidableEq

namespace SurchargeBasis

def container : SurchargeBasis := ⟨"container"⟩
def shipment : SurchargeBasis := ⟨"shipment"⟩
def bl : SurchargeBasis := ⟨"bl"⟩
def teu : SurchargeBasis := ⟨"teu"⟩

/-- `SurchargeBasis.__args__`. -/
def args : List SurchargeBasis := [container, shipment, bl, teu]

end SurchargeBasis

inductive FlagReason
  | lowConfidence | noMajority | ambiguousField | portObfuscationUnresolved | hardRuleViolation
  deriving DecidableEq

/-- The text of the literal. -/
def FlagReason.literal : FlagReason → String
  | .lowConfidence => "low_confidence"
  | .noMajority => "no_majority"
  | .ambiguousField => "ambiguous_field"
  | .portObfuscationUnresolved => "port_obfuscation_unresolved"
  | .hardRuleViolation => "hard_rule_violation"

inductive JobStatusLiteral
  | pending | extracting | normalizing | validating | completed | failed
  deriving DecidableEq

inductive DetectedFormat
  | excel | csv | edifact | email | uncertain
  deriving DecidableEq

/-- The text of the literal. -/
def DetectedFormat.literal : DetectedFormat → String
  | .excel => "excel"
  | .csv => "csv"
  | .edifact => "edifact"
  | .email => "email"
  | .uncertain => "uncertain"

structure PortCode where
  code : String
  deriving DecidableEq

structure SurchargeRecord where
  code : String
  amountUsd : Decimal
  appliesPer : SurchargeBasis
  deriving DecidableEq

/-- Pointer back to the originating spreadsheet location. -/
structure SourceRow where
  sheetName : String
  rowNumber : Nat
  cellReference : String
  deriving DecidableEq

structure ExtractionMetadata where
  extractorModel : String
  extractedAt : DateTime
  promptVersion : String
  cellCount : Nat
  deriving DecidableEq

structure LaneRecord where
  laneId : String
  originPort : PortCode
  destinationPort : PortCode
  equipmentType : EquipmentType
  commodityCode : Option String
  baseRateUsd : Decimal
  surcharges : List SurchargeRecord
  transitTimeDays : Option Int
  validityStart : Date
  validityEnd : Date
  sourceRowReference : SourceRow
  deriving DecidableEq

/-- Lane diverted to human review. -/
structure FlaggedLane where
  lane : LaneRecord
  reason : FlagReason
  confidence : Option Decimal
  deriving DecidableEq

/-- Hard-rejected row with deterministic rule citation. -/
structure RejectionRecord where
  sourceRowReference : SourceRow
  laneId : String
  ruleId : String
  ruleDescription : String
  deriving DecidableEq

/-- Lane lifted from Stage 2 because its port codes failed the UN/LOCODE shape. -/
structure ShapeViolatingLane where
  laneId : String
  rawOriginCode : String
  rawDestinationCode : String
  sourceRowReference : SourceRow
  deriving DecidableEq

/-- The payload of a job. A conformal score is a float, by its `repr`. -/
structure NormalizedRatesheet where
  jobId : String
  prospectId : String
  extractionMetadata : ExtractionMetadata
  lanes : List LaneRecord
  conformalScores : List (String × String)
  flaggedForReview : List FlaggedLane
  deterministicallyRejected : List RejectionRecord
  shapeViolatingLanes : List ShapeViolatingLane
  schemaVersion : String
  deriving DecidableEq

def PortCode.Valid (port : PortCode) : Prop := unlocodeExact port.code = true

def SurchargeRecord.Valid (surcharge : SurchargeRecord) : Prop :=
  lengthWithin 2 16 surcharge.code ∧ surcharge.appliesPer ∈ SurchargeBasis.args

def SourceRow.Valid (row : SourceRow) : Prop :=
  lengthWithin 1 64 row.sheetName ∧ 1 ≤ row.rowNumber ∧ lengthWithin 2 32 row.cellReference

def ExtractionMetadata.Valid (metadata : ExtractionMetadata) : Prop :=
  metadata.extractorModel = "gemini-3.1-flash-lite" ∧ lengthWithin 1 32 metadata.promptVersion ∧
    metadata.cellCount ≤ 5000

instance : DecidablePred PortCode.Valid := fun _ => inferInstanceAs (Decidable (_ = _))
instance : DecidablePred SurchargeRecord.Valid := fun _ => inferInstanceAs (Decidable (_ ∧ _))
instance : DecidablePred SourceRow.Valid := fun _ => inferInstanceAs (Decidable (_ ∧ _))
instance : DecidablePred ExtractionMetadata.Valid := fun _ => inferInstanceAs (Decidable (_ ∧ _))

/-- The schema of a `LaneRecord`. -/
structure LaneRecord.Valid (lane : LaneRecord) : Prop where
  laneId : lengthWithin 1 64 lane.laneId
  originPort : lane.originPort.Valid
  destinationPort : lane.destinationPort.Valid
  equipmentType : lane.equipmentType ∈ EquipmentType.args
  commodityCode : ∀ code ∈ lane.commodityCode, code.length ≤ 16
  surcharges : ∀ surcharge ∈ lane.surcharges, surcharge.Valid
  transitTimeDays : ∀ days ∈ lane.transitTimeDays, 1 ≤ days ∧ days ≤ 120
  sourceRowReference : lane.sourceRowReference.Valid

theorem LaneRecord.valid_iff (lane : LaneRecord) : lane.Valid ↔
    lengthWithin 1 64 lane.laneId ∧ lane.originPort.Valid ∧ lane.destinationPort.Valid ∧
      lane.equipmentType ∈ EquipmentType.args ∧ (∀ code ∈ lane.commodityCode, code.length ≤ 16) ∧
      (∀ surcharge ∈ lane.surcharges, surcharge.Valid) ∧ (∀ days ∈ lane.transitTimeDays, 1 ≤ days ∧ days ≤ 120) ∧
      lane.sourceRowReference.Valid :=
  ⟨fun h => ⟨h.1, h.2, h.3, h.4, h.5, h.6, h.7, h.8⟩, fun ⟨a, b, c, d, e, f, g, h⟩ => ⟨a, b, c, d, e, f, g, h⟩⟩

instance : DecidablePred LaneRecord.Valid := fun lane => decidable_of_iff' _ lane.valid_iff

def FlaggedLane.Valid (flagged : FlaggedLane) : Prop := flagged.lane.Valid

def RejectionRecord.Valid (record : RejectionRecord) : Prop :=
  record.sourceRowReference.Valid ∧ lengthWithin 1 64 record.laneId ∧ lengthWithin 1 64 record.ruleId ∧
    lengthWithin 1 256 record.ruleDescription

/-- What the constructor checks of a record whose source row is an instance, which is not validated again. -/
def RejectionRecord.Fits (record : RejectionRecord) : Prop :=
  lengthWithin 1 64 record.laneId ∧ lengthWithin 1 64 record.ruleId ∧ lengthWithin 1 256 record.ruleDescription

def ShapeViolatingLane.Valid (violator : ShapeViolatingLane) : Prop :=
  lengthWithin 1 64 violator.laneId ∧ lengthWithin 1 64 violator.rawOriginCode ∧
    lengthWithin 1 64 violator.rawDestinationCode ∧ violator.sourceRowReference.Valid

instance : DecidablePred FlaggedLane.Valid := fun flagged => inferInstanceAs (Decidable flagged.lane.Valid)
instance : DecidablePred RejectionRecord.Valid := fun _ => inferInstanceAs (Decidable (_ ∧ _))
instance : DecidablePred RejectionRecord.Fits := fun _ => inferInstanceAs (Decidable (_ ∧ _))
instance : DecidablePred ShapeViolatingLane.Valid := fun _ => inferInstanceAs (Decidable (_ ∧ _))

/-- The schema of a `NormalizedRatesheet`. -/
structure NormalizedRatesheet.Valid (rs : NormalizedRatesheet) : Prop where
  jobId : lengthWithin 1 64 rs.jobId
  prospectId : lengthWithin 3 64 rs.prospectId
  extractionMetadata : rs.extractionMetadata.Valid
  lanes : ∀ lane ∈ rs.lanes, lane.Valid
  flaggedForReview : ∀ flagged ∈ rs.flaggedForReview, flagged.Valid
  deterministicallyRejected : ∀ record ∈ rs.deterministicallyRejected, record.Valid
  shapeViolatingLanes : ∀ violator ∈ rs.shapeViolatingLanes, violator.Valid
  schemaVersion : rs.schemaVersion = "onramp.v1"

theorem NormalizedRatesheet.valid_iff (rs : NormalizedRatesheet) : rs.Valid ↔
    lengthWithin 1 64 rs.jobId ∧ lengthWithin 3 64 rs.prospectId ∧ rs.extractionMetadata.Valid ∧
      (∀ lane ∈ rs.lanes, lane.Valid) ∧ (∀ flagged ∈ rs.flaggedForReview, flagged.Valid) ∧
      (∀ record ∈ rs.deterministicallyRejected, record.Valid) ∧
      (∀ violator ∈ rs.shapeViolatingLanes, violator.Valid) ∧ rs.schemaVersion = "onramp.v1" :=
  ⟨fun h => ⟨h.1, h.2, h.3, h.4, h.5, h.6, h.7, h.8⟩, fun ⟨a, b, c, d, e, f, g, h⟩ => ⟨a, b, c, d, e, f, g, h⟩⟩

instance : DecidablePred NormalizedRatesheet.Valid := fun rs => decidable_of_iff' _ rs.valid_iff

/-- One Pro-call output of a lane. The temperature is in tenths. -/
structure EnsembleVote where
  sampleIndex : Nat
  temperatureTenths : Nat
  lane : LaneRecord
  rawResponseHash : String
  deriving DecidableEq

/-- `ConsensusResult.review_reason`. -/
inductive ReviewReason
  | noMajority | portObfuscationUnresolved | agreementClean
  deriving DecidableEq

structure ConsensusResult where
  laneId : String
  consensusLane : Option LaneRecord
  votes : List EnsembleVote
  agreementPerField : List (String × Nat)
  requiresReview : Bool
  reviewReason : ReviewReason
  deriving DecidableEq

def EnsembleVote.Valid (vote : EnsembleVote) : Prop :=
  vote.sampleIndex ≤ 4 ∧ vote.temperatureTenths ≤ 10 ∧ vote.lane.Valid ∧ lengthWithin 8 64 vote.rawResponseHash

instance : DecidablePred EnsembleVote.Valid := fun _ => inferInstanceAs (Decidable (_ ∧ _))

def ConsensusResult.Valid (result : ConsensusResult) : Prop :=
  (3 ≤ result.votes.length ∧ result.votes.length ≤ 5) ∧ (∀ vote ∈ result.votes, vote.Valid) ∧
    ∀ lane ∈ result.consensusLane, lane.Valid

instance : DecidablePred ConsensusResult.Valid := fun _ => inferInstanceAs (Decidable (_ ∧ _))

inductive RuleId
  | portUnknownUnlocode | negativeBaseRate | validityWindowInThePast | validityWindowInverted
  | transitTimeOutOfRange | equipmentTypeUnknown | surchargeBasisUnknown
  deriving DecidableEq

/-- The text of the literal. -/
def RuleId.literal : RuleId → String
  | .portUnknownUnlocode => "port_unknown_unlocode"
  | .negativeBaseRate => "negative_base_rate"
  | .validityWindowInThePast => "validity_window_in_the_past"
  | .validityWindowInverted => "validity_window_inverted"
  | .transitTimeOutOfRange => "transit_time_out_of_range"
  | .equipmentTypeUnknown => "equipment_type_unknown"
  | .surchargeBasisUnknown => "surcharge_basis_unknown"

structure RuleViolation where
  ruleId : RuleId
  ruleDescription : String
  deriving DecidableEq

def RuleViolation.Valid (violation : RuleViolation) : Prop := lengthWithin 4 256 violation.ruleDescription

instance : DecidablePred RuleViolation.Valid := fun _ => inferInstanceAs (Decidable (lengthWithin ..))

/-- Per-lane conformal confidence. -/
structure ConformalScore where
  laneId : String
  confidence : Decimal
  calibrationId : String
  deriving DecidableEq

/-- Held-out calibration record. -/
structure ConformalCalibration where
  calibrationId : String
  sampleCount : Nat
  generatedAt : String
  deriving DecidableEq

def ConformalScore.Valid (score : ConformalScore) : Prop :=
  lengthWithin 1 64 score.laneId ∧ (0 ≤ score.confidence.toRat ∧ score.confidence.toRat ≤ 1) ∧
    lengthWithin 1 64 score.calibrationId

def ConformalCalibration.Valid (calibration : ConformalCalibration) : Prop :=
  lengthWithin 1 64 calibration.calibrationId ∧ 50 ≤ calibration.sampleCount ∧
    lengthWithin 10 32 calibration.generatedAt

instance : DecidablePred ConformalCalibration.Valid := fun _ => inferInstanceAs (Decidable (_ ∧ _))
instance : DecidablePred ConformalScore.Valid := fun _ => inferInstanceAs (Decidable (_ ∧ _))

/-- Result of the Stage 1 classifier. The confidence is in hundredths. -/
structure ClassifiedFormat where
  detectedFormat : DetectedFormat
  confidenceHundredths : Nat
  reason : String
  deriving DecidableEq

/-- `port.model_dump(mode="json")`. -/
def PortCode.modelDump (port : PortCode) : Json := .obj [("code", .str port.code)]

/-- `surcharge.model_dump(mode="json")`. -/
def SurchargeRecord.modelDump (surcharge : SurchargeRecord) : Json :=
  .obj [("code", .str surcharge.code), ("amount_usd", .str surcharge.amountUsd.str),
    ("applies_per", .str surcharge.appliesPer.literal)]

/-- `repr(surcharge)`. -/
def SurchargeRecord.repr (surcharge : SurchargeRecord) : String :=
  "SurchargeRecord(code=" ++ strRepr surcharge.code ++ ", amount_usd=Decimal(" ++ strRepr surcharge.amountUsd.str ++
    "), applies_per=" ++ strRepr surcharge.appliesPer.literal ++ ")"

/-- `row.model_dump(mode="json")`. -/
def SourceRow.modelDump (row : SourceRow) : Json :=
  .obj [("sheet_name", .str row.sheetName), ("row_number", .int row.rowNumber),
    ("cell_reference", .str row.cellReference)]

private def orNull {α : Type} (dump : α → Json) (value : Option α) : Json := (value.map dump).getD .null

/-- `lane.model_dump(mode="json")`. -/
def LaneRecord.modelDump (lane : LaneRecord) : Json :=
  .obj [("lane_id", .str lane.laneId), ("origin_port", lane.originPort.modelDump),
    ("destination_port", lane.destinationPort.modelDump), ("equipment_type", .str lane.equipmentType.literal),
    ("commodity_code", orNull .str lane.commodityCode), ("base_rate_usd", .str lane.baseRateUsd.str),
    ("surcharges", .arr (lane.surcharges.map SurchargeRecord.modelDump)),
    ("transit_time_days", orNull .int lane.transitTimeDays), ("validity_start", .str lane.validityStart.isoformat),
    ("validity_end", .str lane.validityEnd.isoformat), ("source_row_reference", lane.sourceRowReference.modelDump)]

end Onramp.Models
