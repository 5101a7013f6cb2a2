import Onramp.Edifact

/-!
The deterministic reading of a LIN. Its own checks are weaker than the schemas of the records
that it builds outside its `try` blocks: a code of five characters need not have the UN/LOCODE
shape, a decimal may be no number, and a file stem may be longer than a sheet name.
-/
namespace Onramp.LinParsing
open Onramp.Python
open Onramp.Values
open Onramp.Models
open Onramp.Edifact

variable (platform : Platform)

/-- The elements of a LIN, trimmed, with the codes and the equipment in upper case. -/
structure Fields where
  origin : String
  destination : String
  equipment : String
  baseRate : String
  validityStart : String
  validityEnd : String

/-- The first six elements. -/
def fieldsOf : List Element → Option Fields
  | e0 :: e1 :: e2 :: e3 :: e4 :: e5 :: _ =>
    some ⟨platform.upper (strip e0.toStr), platform.upper (strip e1.toStr), platform.upper (strip e2.toStr),
      strip e3.toStr, strip e4.toStr, strip e5.toStr⟩
  | _ => none

/-- The lane has exactly the fields, and what the row gives it. -/
structure Fields.Exactly (fields : Fields) (sheetLabel : String) (rowIndex : Nat) (lane : LaneRecord) : Prop where
  laneId : lane.laneId = s!"edi-row-{rowIndex}"
  origin : lane.originPort.code = fields.origin
  destination : lane.destinationPort.code = fields.destination
  equipment : lane.equipmentType.literal = fields.equipment
  baseRate : platform.decimalOfText fields.baseRate = some (some lane.baseRateUsd)
  validityStart : platform.dateFromIsoformat fields.validityStart = some lane.validityStart
  validityEnd : platform.dateFromIsoformat fields.validityEnd = some lane.validityEnd
  row : lane.sourceRowReference = ⟨sheetLabel, rowIndex, s!"LIN:{rowIndex}"⟩
  rest : lane.commodityCode = none ∧ lane.surcharges = [] ∧ lane.transitTimeDays = none

/-- The function returns nothing, or a lane with exactly the fields. -/
def Answers (elements : List Element) (sheetLabel : String) (rowIndex : Nat) : Prop :=
  ∃ outcome, parseLidSegment platform elements sheetLabel rowIndex = .ok outcome ∧
    ∀ lane ∈ outcome, ∃ fields, fieldsOf platform elements = some fields ∧
      fields.Exactly platform sheetLabel rowIndex lane

/-- The checks of the function: the equipment is in the set, the codes have five characters, and
    the decimal and the dates can be read. -/
structure Fields.Checked (fields : Fields) : Prop where
  equipment : fields.equipment ∈ EquipmentType.args.map EquipmentType.literal
  codes : fields.origin.length = 5 ∧ fields.destination.length = 5
  baseRate : (platform.decimalOfText fields.baseRate).isSome
  validityStart : (platform.dateFromIsoformat fields.validityStart).isSome
  validityEnd : (platform.dateFromIsoformat fields.validityEnd).isSome

/-- The codes have the UN/LOCODE shape, the rate is a number, and the label and the row number
    are short enough for a source row. -/
structure Fields.Fit (fields : Fields) (sheetLabel : String) (rowIndex : Nat) : Prop where
  codes : unlocodeExact fields.origin = true ∧ unlocodeExact fields.destination = true
  baseRate : platform.decimalOfText fields.baseRate ≠ some none
  label : 1 ≤ sheetLabel.length ∧ sheetLabel.length ≤ 64
  row : rowIndex < 10 ^ 28

/-- Fields that pass the checks fit the schemas. -/
def Constructible (elements : List Element) (sheetLabel : String) (rowIndex : Nat) : Prop :=
  ∀ fields, fieldsOf platform elements = some fields → fields.Checked platform →
    fields.Fit platform sheetLabel rowIndex

/-- Elements that fail a check are left to the model. -/
theorem parse_unchecked {elements : List Element} {sheetLabel : String} {rowIndex : Nat}
    (unread : ∀ fields, fieldsOf platform elements = some fields → ¬ fields.Checked platform) :
    parseLidSegment platform elements sheetLabel rowIndex = .ok none := by
  unfold parseLidSegment
  split
  · next e0 e1 e2 e3 e4 e5 _ =>
    simp only
    split
    · rfl
    next equipmentType known =>
    split
    · rfl
    next codes =>
    split
    · next baseRate validityStart validityEnd rate start finish =>
      refine absurd ⟨?_, ?_, ?_, ?_, ?_⟩ (unread _ rfl)
      · have literal : equipmentType.literal = platform.upper (strip e2.toStr) := by simpa using List.find?_some known
        exact List.mem_map.mpr ⟨equipmentType, List.mem_of_find?_eq_some known, literal⟩
      · exact not_or.mp codes |>.imp not_not.mp not_not.mp
      · exact Option.isSome_iff_exists.mpr ⟨_, rate⟩
      · exact Option.isSome_iff_exists.mpr ⟨_, start⟩
      · exact Option.isSome_iff_exists.mpr ⟨_, finish⟩
    · rfl
  · rfl

/-- The records that are built of fields that pass the checks. -/
def build (fields : Fields) (equipmentType : EquipmentType) (baseRate : Option Decimal) (validityStart validityEnd : Date)
    (sheetLabel : String) (rowIndex : Nat) : Raises (Option LaneRecord) := do
  let originPort ← checked "PortCode" PortCode.Valid ⟨fields.origin⟩
  let destinationPort ← checked "PortCode" PortCode.Valid ⟨fields.destination⟩
  let sourceRowReference ← checked "SourceRow" SourceRow.Valid
    { sheetName := sheetLabel, rowNumber := rowIndex, cellReference := s!"LIN:{rowIndex}" }
  match baseRate with
  | none => .error (validationError "LaneRecord")
  | some baseRateUsd =>
    let lane ← checked "LaneRecord" LaneRecord.Valid
      { laneId := s!"edi-row-{rowIndex}", originPort, destinationPort, equipmentType, commodityCode := none,
        baseRateUsd, surcharges := [], transitTimeDays := none, validityStart, validityEnd, sourceRowReference }
    return some lane

/-- The function goes on to the records with what it has read. -/
theorem parse_checked {elements : List Element} {fields : Fields} (sheetLabel : String) (rowIndex : Nat)
    (read : fieldsOf platform elements = some fields) (passes : fields.Checked platform) :
    ∃ equipmentType baseRate validityStart validityEnd, equipmentType ∈ EquipmentType.args ∧
      equipmentType.literal = fields.equipment ∧
      platform.decimalOfText fields.baseRate = some baseRate ∧
      platform.dateFromIsoformat fields.validityStart = some validityStart ∧
      platform.dateFromIsoformat fields.validityEnd = some validityEnd ∧
      parseLidSegment platform elements sheetLabel rowIndex =
        build fields equipmentType baseRate validityStart validityEnd sheetLabel rowIndex := by
  unfold fieldsOf at read
  split at read
  · next e0 e1 e2 e3 e4 e5 _ =>
    cases read
    obtain ⟨baseRate, rate⟩ := Option.isSome_iff_exists.mp passes.baseRate
    obtain ⟨validityStart, start⟩ := Option.isSome_iff_exists.mp passes.validityStart
    obtain ⟨validityEnd, finish⟩ := Option.isSome_iff_exists.mp passes.validityEnd
    obtain ⟨wanted, inside, same⟩ := List.mem_map.mp passes.equipment
    have known : (EquipmentType.args.find? (fun value => value.literal = platform.upper (strip e2.toStr))).isSome :=
      List.find?_isSome.mpr ⟨wanted, inside, by simpa using same⟩
    obtain ⟨equipmentType, found⟩ := Option.isSome_iff_exists.mp known
    have literal : equipmentType.literal = platform.upper (strip e2.toStr) := by simpa using List.find?_some found
    have codes : ¬ ((platform.upper (strip e0.toStr)).length ≠ 5 ∨ (platform.upper (strip e1.toStr)).length ≠ 5) :=
      not_or.mpr (passes.codes.imp not_not_intro not_not_intro)
    refine ⟨equipmentType, baseRate, validityStart, validityEnd, List.mem_of_find?_eq_some found, literal, rate, start, finish, ?_⟩
    simp only at rate start finish
    simp only [parseLidSegment, found, codes, if_false, rate, start, finish]
    rfl
  · cases read

theorem digits_short {rowIndex : Nat} : (Nat.repr rowIndex).length ≤ 28 ↔ rowIndex < 10 ^ 28 := by
  rw [← String.length_toList, Nat.toList_repr]
  exact Nat.length_toDigits_le_iff (by decide) (by decide)

theorem row_label_fits {rowIndex : Nat} : lengthWithin 2 32 s!"LIN:{rowIndex}" ↔ rowIndex < 10 ^ 28 := by
  have whole : (s!"LIN:{rowIndex}").length = 4 + (Nat.repr rowIndex).length := String.length_append ..
  rw [lengthWithin, whole, ← digits_short]
  omega

theorem lane_id_fits {rowIndex : Nat} (short : rowIndex < 10 ^ 28) : lengthWithin 1 64 s!"edi-row-{rowIndex}" := by
  have whole : (s!"edi-row-{rowIndex}").length = 8 + (Nat.repr rowIndex).length := String.length_append ..
  have digits := digits_short.mpr short
  rw [lengthWithin, whole]
  omega

/-- The lane that fields that fit give. -/
theorem build_of_fit {fields : Fields} {equipmentType : EquipmentType} {baseRateUsd : Decimal}
    {validityStart validityEnd : Date} {sheetLabel : String} {rowIndex : Nat} (first : 1 ≤ rowIndex)
    (known : equipmentType ∈ EquipmentType.args)
    (codes : unlocodeExact fields.origin = true ∧ unlocodeExact fields.destination = true)
    (label : 1 ≤ sheetLabel.length ∧ sheetLabel.length ≤ 64) (row : rowIndex < 10 ^ 28) :
    build fields equipmentType (some baseRateUsd) validityStart validityEnd sheetLabel rowIndex =
      .ok (some ⟨s!"edi-row-{rowIndex}", ⟨fields.origin⟩, ⟨fields.destination⟩, equipmentType, none, baseRateUsd, [],
        none, validityStart, validityEnd, ⟨sheetLabel, rowIndex, s!"LIN:{rowIndex}"⟩⟩) := by
  have origin : PortCode.Valid ⟨fields.origin⟩ := codes.1
  have destination : PortCode.Valid ⟨fields.destination⟩ := codes.2
  have source : SourceRow.Valid ⟨sheetLabel, rowIndex, s!"LIN:{rowIndex}"⟩ := ⟨label, first, row_label_fits.mpr row⟩
  have lane : LaneRecord.Valid ⟨s!"edi-row-{rowIndex}", ⟨fields.origin⟩, ⟨fields.destination⟩, equipmentType, none,
      baseRateUsd, [], none, validityStart, validityEnd, ⟨sheetLabel, rowIndex, s!"LIN:{rowIndex}"⟩⟩ :=
    { laneId := lane_id_fits row, originPort := origin, destinationPort := destination, equipmentType := known,
      commodityCode := by simp, surcharges := by simp, transitTimeDays := by simp, sourceRowReference := source }
  unfold build
  rw [checked_of_valid origin, checked_of_valid destination, checked_of_valid source]
  simp only [bind, Except.bind, pure, Except.pure, checked_of_valid lane]

/-- Each constructor asks for its part. -/
theorem fit_of_build {fields : Fields} {equipmentType : EquipmentType} {baseRate : Option Decimal}
    {validityStart validityEnd : Date} {sheetLabel : String} {rowIndex : Nat} {outcome : Option LaneRecord}
    (built : build fields equipmentType baseRate validityStart validityEnd sheetLabel rowIndex = .ok outcome) :
    (unlocodeExact fields.origin = true ∧ unlocodeExact fields.destination = true) ∧ baseRate.isSome ∧
      (1 ≤ sheetLabel.length ∧ sheetLabel.length ≤ 64) ∧ rowIndex < 10 ^ 28 := by
  unfold build at built
  simp only [bind_eq_ok] at built
  obtain ⟨_, origin, _, destination, _, source, built⟩ := built
  split at built
  · cases built
  have row := (checked_eq_ok.mp source).1
  exact ⟨⟨(checked_eq_ok.mp origin).1, (checked_eq_ok.mp destination).1⟩, rfl, row.1, row_label_fits.mp row.2.2⟩

/-- The function answers, with nothing or with a lane of exactly the elements, if and only if fields
    that pass its checks fit the records. -/
theorem parse_answers_iff (elements : List Element) (sheetLabel : String) (rowIndex : Nat) (first : 1 ≤ rowIndex) :
    Answers platform elements sheetLabel rowIndex ↔ Constructible platform elements sheetLabel rowIndex := by
  constructor
  · rintro ⟨outcome, returned, -⟩ fields read passes
    obtain ⟨_, baseRate, _, _, -, -, rate, -, -, parsed⟩ := parse_checked platform sheetLabel rowIndex read passes
    rw [parsed] at returned
    obtain ⟨codes, number, label, row⟩ := fit_of_build returned
    refine ⟨codes, ?_, label, row⟩
    rw [rate]
    rintro ⟨⟩
    cases number
  · intro constructible
    by_cases passes : ∃ fields, fieldsOf platform elements = some fields ∧ fields.Checked platform
    · obtain ⟨fields, read, passes⟩ := passes
      have fit := constructible fields read passes
      obtain ⟨equipmentType, baseRate, validityStart, validityEnd, known, literal, rate, start, finish, parsed⟩ :=
        parse_checked platform sheetLabel rowIndex read passes
      cases baseRate with
      | none => exact absurd rate fit.baseRate
      | some baseRateUsd =>
        refine ⟨_, parsed.trans (build_of_fit first known fit.codes fit.label fit.row), ?_⟩
        rintro lane ⟨⟩
        exact ⟨fields, read, rfl, rfl, rfl, literal, rate, start, finish, rfl, rfl, rfl, rfl⟩
    · refine ⟨none, parse_unchecked platform (fun fields read checked => passes ⟨fields, read, checked⟩), ?_⟩
      rintro lane ⟨⟩

def sampleElements (origin : String) : List Element :=
  [.text origin, .text "USNYC", .text "40HC", .text "2100", .text "2026-01-01", .text "2026-06-30"]

def edifactPlatform : Platform := asciiPlatform [] sampleDigest sampleDigest_length

/-- The code `NL-RT` passes the check of the length, and `PortCode` raises. -/
theorem hyphenated_code_raises :
    ¬ Answers edifactPlatform (sampleElements "NL-RT") "rates" 1 ∧
      parseLidSegment edifactPlatform (sampleElements "NL-RT") "rates" 1 = .error (validationError "PortCode") := by
  have raised : parseLidSegment edifactPlatform (sampleElements "NL-RT") "rates" 1 = .error (validationError "PortCode") := by
    decide +kernel
  refine ⟨?_, raised⟩
  rintro ⟨outcome, returned, -⟩
  rw [raised] at returned
  cases returned

theorem parse_answers_iff_hyphenated :
    Answers edifactPlatform (sampleElements "NL-RT") "rates" 1 ↔
      Constructible edifactPlatform (sampleElements "NL-RT") "rates" 1 :=
  parse_answers_iff edifactPlatform (sampleElements "NL-RT") "rates" 1 (by decide)

end Onramp.LinParsing
