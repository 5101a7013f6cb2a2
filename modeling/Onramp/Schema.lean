import Onramp.Models

/-!
`model_validate`: from an unvalidated JSON value to a record that meets its schema.
Unknown fields are forbidden, texts have to be strings, and the numbers and dates
go through the coercions of the platform. `none` stands for a `ValidationError`.
-/
namespace Onramp.Schema
open Onramp.Python
open Onramp.Values
open Onramp.Models
open Onramp.Library.Keyed (find)

/-- The members of an object, all of them among the fields (`extra="forbid"`). -/
def objectOf (fields : List String) : Json → Option (List (String × Json))
  | .obj members => if ∀ member ∈ members, member.1 ∈ fields then some members else none
  | _ => none

/-- A `str` field. -/
def textOf : Json → Option String
  | .str s => some s
  | _ => none

/-- A field whose type is `X | None` and whose default is `None`. -/
def optionalOf {α : Type} (read : Json → Option α) : Option Json → Option (Option α)
  | none => some none
  | some .null => some none
  | some value => (read value).map some

/-- A `Literal` field with these values. -/
def literalOf {α : Type} (literal : α → String) (args : List α) : Json → Option α
  | .str s => args.find? (fun value => literal value = s)
  | _ => none

/-- Every item is read. -/
def allOf {α : Type} (read : Json → Option α) : List Json → Option (List α)
  | [] => some []
  | item :: rest =>
    match read item, allOf read rest with
    | some value, some values => some (value :: values)
    | _, _ => none

/-- A `list` field. -/
def listOf {α : Type} (read : Json → Option α) : Json → Option (List α)
  | .arr items => allOf read items
  | _ => none

/-- The value when it meets the schema. -/
def guarded {α : Type} (valid : α → Prop) [DecidablePred valid] (value : α) : Option α :=
  if valid value then some value else none

variable (platform : Platform)

/-- `PortCode.model_validate`. -/
def portCode (value : Json) : Option PortCode := do
  let members ← objectOf ["code"] value
  let code ← (find "code" members).bind textOf
  guarded PortCode.Valid ⟨code⟩

/-- `SurchargeRecord.model_validate`. -/
def surchargeRecord (value : Json) : Option SurchargeRecord := do
  let members ← objectOf ["code", "amount_usd", "applies_per"] value
  let code ← (find "code" members).bind textOf
  let amountUsd ← (find "amount_usd" members).bind platform.asDecimal
  let appliesPer ← (find "applies_per" members).bind (literalOf SurchargeBasis.literal SurchargeBasis.args)
  guarded SurchargeRecord.Valid ⟨code, amountUsd, appliesPer⟩

/-- `SourceRow.model_validate`. -/
def sourceRow (value : Json) : Option SourceRow := do
  let members ← objectOf ["sheet_name", "row_number", "cell_reference"] value
  let sheetName ← (find "sheet_name" members).bind textOf
  let rowNumber ← (find "row_number" members).bind platform.asInt
  let cellReference ← (find "cell_reference" members).bind textOf
  guarded SourceRow.Valid ⟨sheetName, rowNumber.toNat, cellReference⟩

/-- The fields of a `LaneRecord`. -/
def laneFields : List String :=
  ["lane_id", "origin_port", "destination_port", "equipment_type", "commodity_code", "base_rate_usd", "surcharges",
    "transit_time_days", "validity_start", "validity_end", "source_row_reference"]

/-- `LaneRecord.model_validate`. -/
def laneRecord (value : Json) : Option LaneRecord := do
  let members ← objectOf laneFields value
  let laneId ← (find "lane_id" members).bind textOf
  let originPort ← (find "origin_port" members).bind portCode
  let destinationPort ← (find "destination_port" members).bind portCode
  let equipmentType ← (find "equipment_type" members).bind (literalOf EquipmentType.literal EquipmentType.args)
  let commodityCode ← optionalOf textOf (find "commodity_code" members)
  let baseRateUsd ← (find "base_rate_usd" members).bind platform.asDecimal
  let surcharges ← ((find "surcharges" members).elim (some []) (listOf (surchargeRecord platform)))
  let transitTimeDays ← optionalOf platform.asInt (find "transit_time_days" members)
  let validityStart ← (find "validity_start" members).bind platform.asDate
  let validityEnd ← (find "validity_end" members).bind platform.asDate
  let sourceRowReference ← (find "source_row_reference" members).bind (sourceRow platform)
  guarded LaneRecord.Valid
    { laneId, originPort, destinationPort, equipmentType, commodityCode, baseRateUsd, surcharges, transitTimeDays,
      validityStart, validityEnd, sourceRowReference }

/-- `Model.model_validate(value)`, of the model with this title. -/
def modelValidate {α : Type} (model : String) (read : Json → Option α) (value : Json) : Raises α :=
  match read value with
  | some record => .ok record
  | none => .error (validationError model)

theorem guarded_eq_some {α : Type} {valid : α → Prop} [DecidablePred valid] {value result : α} :
    guarded valid value = some result ↔ valid value ∧ value = result := by
  unfold guarded
  by_cases holds : valid value <;> simp [holds]

theorem allOf_forall {α : Type} {read : Json → Option α} {items : List Json} {values : List α} :
    allOf read items = some values ↔ List.Forall₂ (fun item value => read item = some value) items values := by
  induction items generalizing values with
  | nil => cases values <;> simp [allOf]
  | cons item rest ih =>
    cases first : read item with
    | none => cases values <;> simp [allOf, first]
    | some value =>
      cases others : allOf read rest with
      | none =>
        cases values with
        | nil => simp [allOf, first, others]
        | cons head tail =>
          simp only [allOf, first, others, List.forall₂_cons]
          constructor
          · intro impossible
            cases impossible
          · rintro ⟨-, matching⟩
            rw [ih.mpr matching] at others
            cases others
      | some tail' =>
        cases values with
        | nil => simp [allOf, first, others]
        | cons head tail =>
          have tails : tail' = tail ↔ List.Forall₂ (fun item value => read item = some value) rest tail := by
            rw [← ih, others, Option.some.injEq]
          simp [allOf, first, others, tails]

theorem mem_left_of_forall₂ {α β : Type} {related : α → β → Prop} {items : List α} {values : List β}
    (matching : List.Forall₂ related items values) {item : α} (inside : item ∈ items) :
    ∃ value ∈ values, related item value := by
  induction matching with
  | nil => cases inside
  | cons head _ ih =>
    rcases List.mem_cons.mp inside with rfl | later
    · exact ⟨_, List.mem_cons_self, head⟩
    · obtain ⟨value, member, holds⟩ := ih later
      exact ⟨value, List.mem_cons_of_mem _ member, holds⟩

theorem mem_right_of_forall₂ {α β : Type} {related : α → β → Prop} {items : List α} {values : List β}
    (matching : List.Forall₂ related items values) {value : β} (inside : value ∈ values) :
    ∃ item ∈ items, related item value :=
  mem_left_of_forall₂ matching.flip inside

theorem objectOf_eq_some {fields : List String} {value : Json} {members : List (String × Json)} :
    objectOf fields value = some members ↔ value = .obj members ∧ ∀ member ∈ members, member.1 ∈ fields := by
  cases value with
  | obj members' =>
    simp only [objectOf, Json.obj.injEq]
    split
    · next known =>
      constructor
      · rintro ⟨⟩
        exact ⟨rfl, known⟩
      · rintro ⟨rfl, -⟩
        rfl
    · next unknown =>
      constructor
      · rintro ⟨⟩
      · rintro ⟨rfl, known⟩
        exact absurd known unknown
  | _ => simp [objectOf]

theorem textOf_eq_some {value : Json} {s : String} : textOf value = some s ↔ value = .str s := by
  cases value <;> simp [textOf]

theorem portCode_code {value : Json} {port : PortCode} (read : portCode value = some port) :
    ∃ members, value = .obj members ∧ find "code" members = some (.str port.code) ∧ port.Valid := by
  unfold portCode at read
  simp only [bind, Option.bind_eq_some_iff, objectOf_eq_some, textOf_eq_some, guarded_eq_some] at read
  obtain ⟨members, ⟨shape, _⟩, code, ⟨field, found, rfl⟩, valid, rfl⟩ := read
  exact ⟨members, shape, found, valid⟩

theorem sourceRow_valid {raw : Json} {row : SourceRow} (read : sourceRow platform raw = some row) : row.Valid := by
  unfold sourceRow at read
  simp only [bind, Option.bind_eq_some_iff] at read
  obtain ⟨_, -, _, -, _, -, _, -, built⟩ := read
  obtain ⟨valid, rfl⟩ := guarded_eq_some.mp built
  exact valid

/-- A validated lane meets the schema, and its ports and its source row are the
    ones read from the members of the object. -/
theorem laneRecord_spec {value : Json} {lane : LaneRecord} (read : laneRecord platform value = some lane) :
    lane.Valid ∧ ∃ members, value = .obj members ∧
      (find "origin_port" members).bind portCode = some lane.originPort ∧
      (find "destination_port" members).bind portCode = some lane.destinationPort ∧
      (find "source_row_reference" members).bind (sourceRow platform) = some lane.sourceRowReference := by
  unfold laneRecord at read
  simp only [bind, Option.bind_eq_some_iff] at read
  obtain ⟨members, shape, laneId, _, origin, originRead, destination, destinationRead, _, _, _, _, _, _, _, _, _, _, _,
    _, _, _, row, rowRead, built⟩ := read
  obtain ⟨valid, rfl⟩ := guarded_eq_some.mp built
  refine ⟨valid, members, ?_, ?_, ?_, ?_⟩
  · exact (objectOf_eq_some.mp shape).1
  · simpa [Option.bind_eq_some_iff] using originRead
  · simpa [Option.bind_eq_some_iff] using destinationRead
  · simpa [Option.bind_eq_some_iff] using rowRead

end Onramp.Schema
