import Onramp.Models

/-!
The Stage 4 rules engine: R1 to R7 on a lane, where the first violation wins, and
their application to every lane of a ratesheet.
-/
namespace Onramp.Rules
open Onramp.Python
open Onramp.Models

/-- `RuleViolation(...)`. -/
def violation (ruleId : RuleId) (ruleDescription : String) : Raises (Option RuleViolation) := do
  let record ← checked "RuleViolation" RuleViolation.Valid ⟨ruleId, ruleDescription⟩
  return some record

/-- The first surcharge whose basis is not in the locked set. -/
def unknownBasis (surcharges : List SurchargeRecord) : Option SurchargeRecord :=
  surcharges.find? (fun surcharge => surcharge.appliesPer ∉ SurchargeBasis.args)

def evaluateLane (lane : LaneRecord) (today : Date) : Raises (Option RuleViolation) :=
  if unlocodeMatch lane.originPort.code = false then
    violation .portUnknownUnlocode
      s!"origin port code {strRepr lane.originPort.code} does not match the UN/LOCODE shape ^[A-Z]\x7b2\x7d[A-Z0-9]\x7b3\x7d$"
  else if unlocodeMatch lane.destinationPort.code = false then
    violation .portUnknownUnlocode
      s!"destination port code {strRepr lane.destinationPort.code} does not match the UN/LOCODE shape ^[A-Z]\x7b2\x7d[A-Z0-9]\x7b3\x7d$"
  else if lane.baseRateUsd.negative = true ∨ lane.baseRateUsd.coefficient = 0 then
    violation .negativeBaseRate
      s!"base_rate_usd={lane.baseRateUsd.str} is zero or negative; R2 requires a strictly positive USD amount"
  else if lane.validityEnd.before today = true then
    violation .validityWindowInThePast
      s!"validity_end={lane.validityEnd.isoformat} is before today ({today.isoformat} UTC); rate is stale"
  else if lane.validityEnd.before lane.validityStart = true then
    violation .validityWindowInverted
      s!"validity_start={lane.validityStart.isoformat} is after validity_end={lane.validityEnd.isoformat}"
  else
    match lane.transitTimeDays.filter (fun days => ¬ (1 ≤ days ∧ days ≤ 120)) with
    | some days => violation .transitTimeOutOfRange s!"transit_time_days={days} falls outside the [1, 120] envelope"
    | none =>
      if lane.equipmentType ∉ EquipmentType.args then
        violation .equipmentTypeUnknown
          s!"equipment_type={strRepr lane.equipmentType.literal} is not in the locked Literal set {listRepr ((sortStrings (EquipmentType.args.map EquipmentType.literal)).map strRepr)}"
      else
        match unknownBasis lane.surcharges with
        | some surcharge =>
          violation .surchargeBasisUnknown
            s!"surcharge {strRepr surcharge.code}.applies_per={strRepr surcharge.appliesPer.literal} not in locked Literal set {listRepr ((sortStrings (SurchargeBasis.args.map SurchargeBasis.literal)).map strRepr)}"
        | none => .ok none

/-- The rejection of a lane for a violation. -/
def rejection (lane : LaneRecord) (v : RuleViolation) : RejectionRecord :=
  ⟨lane.sourceRowReference, lane.laneId, v.ruleId.literal, v.ruleDescription⟩

/-- The loop of `apply_hard_rules`: the surviving lanes, the rejections and the
    violations, in order. -/
def screen (today : Date) : List LaneRecord → Raises (List LaneRecord × List RejectionRecord × List RuleViolation)
  | [] => .ok ([], [], [])
  | lane :: rest => do
    match ← evaluateLane lane today with
    | none =>
      let (surviving, rejected, violations) ← screen today rest
      return (lane :: surviving, rejected, violations)
    | some v =>
      let record ← checked "RejectionRecord" RejectionRecord.Fits (rejection lane v)
      let (surviving, rejected, violations) ← screen today rest
      return (surviving, record :: rejected, v :: violations)

/-- `apply_hard_rules`, on the UTC date of `now`. -/
def applyHardRules (rs : NormalizedRatesheet) (today : Date) : Raises (NormalizedRatesheet × List RuleViolation) := do
  let (surviving, rejected, violations) ← screen today rs.lanes
  return ({ rs with
    lanes := surviving
    deterministicallyRejected := rs.deterministicallyRejected ++ rejected }, violations)

/-- The lane satisfies all of R1 to R7. -/
def passes (today : Date) (lane : LaneRecord) : Bool :=
  match evaluateLane lane today with
  | .ok none => true
  | _ => false

/-- What identifies a lane in the records of the pipeline: its id and its source row. -/
abbrev Identity : Type := String × SourceRow

def laneIdentity (lane : LaneRecord) : Identity := (lane.laneId, lane.sourceRowReference)

def recordIdentity (record : RejectionRecord) : Identity := (record.laneId, record.sourceRowReference)

def violatorIdentity (violator : ShapeViolatingLane) : Identity := (violator.laneId, violator.sourceRowReference)

@[simp] theorem violation_ok {ruleId : RuleId} {description : String} {outcome : Option RuleViolation} :
    violation ruleId description = .ok outcome ↔
      lengthWithin 4 256 description ∧ outcome = some ⟨ruleId, description⟩ := by
  unfold violation
  simp only [bind_eq_ok, pure_eq_ok, checked_eq_ok]
  constructor
  · rintro ⟨record, ⟨fits, rfl⟩, rfl⟩
    exact ⟨fits, rfl⟩
  · rintro ⟨fits, rfl⟩
    exact ⟨_, ⟨fits, rfl⟩, rfl⟩

/-- A port code outside the shape is a violation of R1, before every other rule. -/
theorem evaluateLane_bad_shape {lane : LaneRecord} {today : Date} {outcome : Option RuleViolation}
    (bad : unlocodeMatch lane.originPort.code = false ∨ unlocodeMatch lane.destinationPort.code = false)
    (returned : evaluateLane lane today = .ok outcome) :
    ∃ v, outcome = some v ∧ v.ruleId = .portUnknownUnlocode := by
  unfold evaluateLane at returned
  by_cases origin : unlocodeMatch lane.originPort.code = false
  · rw [if_pos origin, violation_ok] at returned
    exact ⟨_, returned.2, rfl⟩
  · have destination := bad.resolve_left origin
    rw [if_neg origin, if_pos destination, violation_ok] at returned
    exact ⟨_, returned.2, rfl⟩

theorem passes_of_evaluateLane {today : Date} {lane : LaneRecord} (fine : evaluateLane lane today = .ok none) :
    passes today lane = true := by
  simp [passes, fine]

theorem not_passes_of_violation {today : Date} {lane : LaneRecord} {v : RuleViolation}
    (broken : evaluateLane lane today = .ok (some v)) : passes today lane = false := by
  simp [passes, broken]

/-- A step of the loop: the lane survives, or its rejection and its violation are recorded. -/
theorem screen_cons {today : Date} {lane : LaneRecord} {rest surviving : List LaneRecord}
    {rejected : List RejectionRecord} {violations : List RuleViolation} :
    screen today (lane :: rest) = .ok (surviving, rejected, violations) ↔
      (∃ others, evaluateLane lane today = .ok none ∧ screen today rest = .ok (others, rejected, violations) ∧
        surviving = lane :: others) ∨
      ∃ v records others, evaluateLane lane today = .ok (some v) ∧ (rejection lane v).Fits ∧
        screen today rest = .ok (surviving, records, others) ∧ rejected = rejection lane v :: records ∧
        violations = v :: others := by
  rw [screen]
  simp only [bind_eq_ok]
  constructor
  · rintro ⟨outcome, evaluated, screened⟩
    cases outcome with
    | none =>
      simp only [bind_eq_ok, pure_eq_ok, Prod.mk.injEq] at screened
      obtain ⟨⟨others, _, _⟩, later, rfl, rfl, rfl⟩ := screened
      exact .inl ⟨others, evaluated, later, rfl⟩
    | some v =>
      simp only [bind_eq_ok, pure_eq_ok, Prod.mk.injEq, checked_eq_ok] at screened
      obtain ⟨_, ⟨fits, rfl⟩, ⟨_, records, others⟩, later, rfl, rfl, rfl⟩ := screened
      exact .inr ⟨v, records, others, evaluated, fits, later, rfl, rfl⟩
  · rintro (⟨others, evaluated, later, rfl⟩ | ⟨v, records, others, evaluated, fits, later, rfl, rfl⟩)
    · exact ⟨none, evaluated, bind_eq_ok.mpr ⟨_, later, rfl⟩⟩
    · exact ⟨some v, evaluated, bind_eq_ok.mpr ⟨_, checked_of_valid fits, bind_eq_ok.mpr ⟨_, later, rfl⟩⟩⟩

/-- The surviving lanes are those that satisfy the rules, in order, and every other lane
    has its rejection, in order. -/
theorem screen_spec {today : Date} {lanes surviving : List LaneRecord} {rejected : List RejectionRecord}
    {violations : List RuleViolation} (returned : screen today lanes = .ok (surviving, rejected, violations)) :
    surviving = lanes.filter (passes today) ∧
      rejected.map recordIdentity = (lanes.filter (fun lane => !passes today lane)).map laneIdentity ∧
      rejected.map RejectionRecord.ruleId = violations.map (fun v => v.ruleId.literal) ∧
      (∀ record ∈ rejected, record.Fits) := by
  induction lanes generalizing surviving rejected violations with
  | nil =>
    cases returned
    simp
  | cons lane rest ih =>
    rcases screen_cons.mp returned with ⟨others, evaluated, later, rfl⟩ | ⟨v, records, vs, evaluated, fits, later, rfl, rfl⟩
    · have fine := passes_of_evaluateLane evaluated
      obtain ⟨survive, identities, rules, valid⟩ := ih later
      simp only [List.filter_cons, fine, if_true, Bool.not_true, Bool.false_eq_true, if_false]
      exact ⟨by rw [survive], identities, rules, valid⟩
    · have broken := not_passes_of_violation evaluated
      obtain ⟨survive, identities, rules, valid⟩ := ih later
      simp only [List.filter_cons, broken, List.map_cons, Bool.not_false, if_true]
      refine ⟨by simpa using survive, ?_, ?_, List.forall_mem_cons.mpr ⟨fits, valid⟩⟩
      · rw [identities]
        rfl
      · rw [rules]
        rfl

theorem applyHardRules_spec {rs out : NormalizedRatesheet} {today : Date} {violations : List RuleViolation}
    (returned : applyHardRules rs today = .ok (out, violations)) :
    ∃ rejected,
      out = { rs with
        lanes := rs.lanes.filter (passes today)
        deterministicallyRejected := rs.deterministicallyRejected ++ rejected } ∧
      rejected.map recordIdentity = (rs.lanes.filter (fun lane => !passes today lane)).map laneIdentity ∧
      rejected.map RejectionRecord.ruleId = violations.map (fun v => v.ruleId.literal) ∧
      ∀ record ∈ rejected, record.Fits := by
  unfold applyHardRules at returned
  simp only [bind_eq_ok, pure_eq_ok, Prod.mk.injEq] at returned
  obtain ⟨⟨surviving, rejected, violations'⟩, screened, rfl, rfl⟩ := returned
  obtain ⟨survive, identities, rules, valid⟩ := screen_spec screened
  exact ⟨rejected, by rw [survive], identities, rules, valid⟩

end Onramp.Rules
