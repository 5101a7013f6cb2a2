import Onramp.Screening
import Onramp.Stage4
import Onramp.Reprs

/-!
When the rules engine returns. A violation quotes the lane, and its text must fit the 256
characters of a `RuleViolation`. A port code is quoted by its `repr`, which writes up to ten
characters for one, and a rate is quoted with all its digits.
-/
namespace Onramp.Descriptions
open Onramp.Python
open Onramp.Models
open Onramp.Rules
open Onramp.Stage4
open Onramp.Screening
open Onramp.Reprs (reprQuote toList_strRepr)

/-- A lane as the engine is given it: one that meets its schema, or the carrier of a shape
    violator that does. -/
def Given (lane : LaneRecord) : Prop :=
  lane.Valid ∨ ∃ today violator, violator.Valid ∧ lane = carrier today violator

/-- The year, the month and the day of a `datetime.date`. -/
def Calendar (d : Date) : Prop := d.year ≤ 9999 ∧ d.month ≤ 12 ∧ d.day ≤ 31

instance : DecidablePred Calendar := fun _ => inferInstanceAs (Decidable (_ ∧ _))

/-- The engine returns, with texts that fit. -/
def Returns (rs : NormalizedRatesheet) (today : Date) : Prop :=
  ∃ out violations, applyHardRules rs today = .ok (out, violations) ∧ ∀ v ∈ violations, v.ruleDescription.length ≤ 256

/-- The `repr` of the first port code outside the shape is short enough to be quoted, and so is a
    rate that is not positive, when both codes have the shape. -/
def Quotable (lane : LaneRecord) : Prop :=
  if unlocodeMatch lane.originPort.code = false then (strRepr lane.originPort.code).length ≤ 182
  else if unlocodeMatch lane.destinationPort.code = false then (strRepr lane.destinationPort.code).length ≤ 177
  else 0 < lane.baseRateUsd.toRat ∨ lane.baseRateUsd.str.length ≤ 178

theorem violation_returns {ruleId : RuleId} {text : String} :
    (∃ outcome, violation ruleId text = .ok outcome) ↔ lengthWithin 4 256 text := by
  simp only [violation_ok]
  constructor
  · rintro ⟨_, fits, -⟩
    exact fits
  · exact fun fits => ⟨_, fits, rfl⟩

/-- A text that quotes a part of the lane. -/
theorem quoted_fits {front quoted back : String} (least : 4 ≤ front.length) :
    lengthWithin 4 256 (front ++ quoted ++ back) ↔ quoted.length ≤ 256 - (front.length + back.length) ∧
      front.length + back.length ≤ 256 := by
  simp only [lengthWithin, String.length_append]
  omega

theorem Given.transit {lane : LaneRecord} (given : Given lane) :
    ∀ days ∈ lane.transitTimeDays, 1 ≤ days ∧ days ≤ 120 := by
  rcases given with valid | ⟨_, _, _, rfl⟩
  · exact valid.transitTimeDays
  · intro days none
    cases none

/-- R6 and R7 are met. -/
theorem Given.literals {lane : LaneRecord} (given : Given lane) :
    lane.equipmentType ∈ EquipmentType.args ∧ ∀ surcharge ∈ lane.surcharges, surcharge.appliesPer ∈ SurchargeBasis.args := by
  rcases given with valid | ⟨_, _, _, rfl⟩
  · exact ⟨valid.equipmentType, fun surcharge inside => (valid.surcharges surcharge inside).2⟩
  · have known : EquipmentType.hc40 ∈ EquipmentType.args := by decide
    refine ⟨known, ?_⟩
    rintro _ ⟨⟩

theorem Given.laneId {lane : LaneRecord} (given : Given lane) : lengthWithin 1 64 lane.laneId := by
  rcases given with valid | ⟨_, _, valid, rfl⟩
  · exact valid.laneId
  · exact valid.1

/-- Only R1 and R2 quote something without a bound. -/
theorem evaluateLane_returns_iff {lane : LaneRecord} {today : Date} (given : Given lane) (now : Calendar today)
    (starts : Calendar lane.validityStart) (ends : Calendar lane.validityEnd) :
    (∃ outcome, evaluateLane lane today = .ok outcome) ↔ Quotable lane := by
  have stale := Date.isoformat_length now.1 now.2.1 now.2.2
  have first := Date.isoformat_length starts.1 starts.2.1 starts.2.2
  have last := Date.isoformat_length ends.1 ends.2.1 ends.2.2
  unfold evaluateLane Quotable
  split
  · rw [violation_returns]
    exact (quoted_fits (by decide)).trans ⟨fun fits => fits.1, fun fits => ⟨fits, by decide⟩⟩
  split
  · rw [violation_returns]
    exact (quoted_fits (by decide)).trans ⟨fun fits => fits.1, fun fits => ⟨fits, by decide⟩⟩
  split
  · next rate =>
    have low : ¬ 0 < lane.baseRateUsd.toRat := fun positive => (toRat_pos _).mp positive rate
    rw [violation_returns, or_iff_right low]
    exact (quoted_fits (by decide)).trans ⟨fun fits => fits.1, fun fits => ⟨fits, by decide⟩⟩
  next rate =>
  have positive : 0 < lane.baseRateUsd.toRat := (toRat_pos _).mpr rate
  refine iff_of_true ?_ (.inl positive)
  split
  · rw [violation_returns]
    simp only [lengthWithin, String.length_append, ToString.toString, stale, last]
    decide
  split
  · rw [violation_returns]
    simp only [lengthWithin, String.length_append, ToString.toString, first, last]
    decide
  have inside : lane.transitTimeDays.filter (fun days => ¬ (1 ≤ days ∧ days ≤ 120)) = none := by
    rw [Option.filter_eq_none_iff]
    intro days present
    simpa using given.transit days present
  have basis : unknownBasis lane.surcharges = none := by
    rw [unknownBasis, List.find?_eq_none]
    intro surcharge inside
    simpa using given.literals.2 surcharge inside
  rw [inside, if_neg (not_not_intro given.literals.1), basis]
  exact ⟨none, rfl⟩

/-- The text of a violation fits both records that carry it. -/
theorem evaluateLane_fits {lane : LaneRecord} {today : Date} {v : RuleViolation}
    (returned : evaluateLane lane today = .ok (some v)) : lengthWithin 4 256 v.ruleDescription := by
  obtain ⟨text, verdict⟩ := evaluateLane_eq lane today
  rw [verdict] at returned
  cases first : firstBroken today lane with
  | none =>
    rw [first] at returned
    cases returned
  | some rule =>
    rw [first, Option.elim_some, violation_ok] at returned
    obtain ⟨fits, same⟩ := returned
    cases same
    exact fits

theorem rejection_fits {lane : LaneRecord} {today : Date} {v : RuleViolation} (given : Given lane)
    (returned : evaluateLane lane today = .ok (some v)) : (rejection lane v).Fits := by
  have fits := evaluateLane_fits returned
  have named : lengthWithin 1 64 v.ruleId.literal := by cases v.ruleId <;> decide
  exact ⟨given.laneId, named, le_trans (by decide) fits.1, fits.2⟩

/-- The loop returns when each of its lanes has a verdict. -/
theorem screen_returns_iff {today : Date} {lanes : List LaneRecord} (given : ∀ lane ∈ lanes, Given lane) :
    (∃ parts, screen today lanes = .ok parts) ↔ ∀ lane ∈ lanes, ∃ outcome, evaluateLane lane today = .ok outcome := by
  induction lanes with
  | nil => exact iff_of_true ⟨_, rfl⟩ (by simp)
  | cons lane rest ih =>
    have others := ih (fun other inside => given other (List.mem_cons_of_mem _ inside))
    rw [List.forall_mem_cons, ← others]
    constructor
    · rintro ⟨⟨surviving, rejected, violations⟩, returned⟩
      rcases screen_cons.mp returned with ⟨_, evaluated, later, -⟩ | ⟨v, _, _, evaluated, -, later, -, -⟩
      · exact ⟨⟨none, evaluated⟩, _, later⟩
      · exact ⟨⟨some v, evaluated⟩, _, later⟩
    · rintro ⟨⟨outcome, evaluated⟩, ⟨surviving, rejected, violations⟩, later⟩
      cases outcome with
      | none => exact ⟨_, screen_cons.mpr (.inl ⟨_, evaluated, later, rfl⟩)⟩
      | some v =>
        have valid := rejection_fits (given lane List.mem_cons_self) evaluated
        exact ⟨_, screen_cons.mpr (.inr ⟨v, _, _, evaluated, valid, later, rfl, rfl⟩)⟩

theorem screen_fits {today : Date} {lanes surviving : List LaneRecord} {rejected : List RejectionRecord}
    {violations : List RuleViolation} (returned : screen today lanes = .ok (surviving, rejected, violations)) :
    ∀ v ∈ violations, v.ruleDescription.length ≤ 256 := by
  induction lanes generalizing surviving rejected violations with
  | nil =>
    cases returned
    simp
  | cons lane rest ih =>
    rcases screen_cons.mp returned with ⟨_, _, later, -⟩ | ⟨v, _, _, evaluated, -, later, -, rfl⟩
    · exact ih later
    · exact List.forall_mem_cons.mpr ⟨(evaluateLane_fits evaluated).2, ih later⟩

/-- On schema-valid lanes and on carriers the engine returns if and only if, on every lane, what
    the first broken rule quotes is short enough. -/
theorem hard_rules_return_iff (rs : NormalizedRatesheet) (today : Date) (now : Calendar today)
    (given : ∀ lane ∈ rs.lanes, Given lane)
    (dated : ∀ lane ∈ rs.lanes, Calendar lane.validityStart ∧ Calendar lane.validityEnd) :
    Returns rs today ↔ ∀ lane ∈ rs.lanes, Quotable lane := by
  have lanes : (∀ lane ∈ rs.lanes, ∃ outcome, evaluateLane lane today = .ok outcome) ↔ ∀ lane ∈ rs.lanes, Quotable lane :=
    forall₂_congr fun lane inside =>
      evaluateLane_returns_iff (given lane inside) now (dated lane inside).1 (dated lane inside).2
  rw [← lanes, ← screen_returns_iff given]
  unfold Returns applyHardRules
  constructor
  · rintro ⟨out, violations, returned, -⟩
    cases screened : screen today rs.lanes with
    | error exc =>
      rw [screened] at returned
      cases returned
    | ok parts => exact ⟨parts, rfl⟩
  · rintro ⟨⟨surviving, rejected, violations⟩, screened⟩
    rw [screened]
    exact ⟨_, violations, rfl, screen_fits screened⟩

/-- A cell with 64 times U+0001, each of which the `repr` writes with four characters. -/
def controlViolator : ShapeViolatingLane :=
  ⟨"shape_violator_Rates_2", String.ofList (List.replicate 64 '\x01'), "USNYC", ⟨"Rates", 2, "A2"⟩⟩

def controlSheet : NormalizedRatesheet := ruledSheet [carrier ⟨2026, 6, 1⟩ controlViolator]

theorem controlSheet_given : ∀ lane ∈ controlSheet.lanes, Given lane := by
  intro lane inside
  rw [List.mem_singleton.mp inside]
  exact .inr ⟨_, controlViolator, by decide, rfl⟩

/-- The `repr` has 258 characters, and the engine raises. -/
theorem control_characters_raise :
    (∀ lane ∈ controlSheet.lanes, Given lane) ∧ ¬ Returns controlSheet ⟨2026, 6, 1⟩ := by
  refine ⟨controlSheet_given, ?_⟩
  rintro ⟨out, violations, returned, -⟩
  unfold applyHardRules at returned
  cases screened : screen ⟨2026, 6, 1⟩ controlSheet.lanes with
  | error exc =>
    rw [screened] at returned
    cases returned
  | ok parts =>
    have verdict := (screen_returns_iff controlSheet_given).mp ⟨parts, screened⟩ _ List.mem_cons_self
    have short := (evaluateLane_returns_iff (controlSheet_given _ List.mem_cons_self) (by decide) (by decide) (by decide)).mp
      verdict
    have outside : unlocodeMatch controlViolator.rawOriginCode = false := by decide
    have length : (strRepr controlViolator.rawOriginCode).toList.length = 258 := by
      have quote : reprQuote controlViolator.rawOriginCode = '\'' := by simp [reprQuote, controlViolator]
      have each : (reprChar '\'' '\x01').length = 4 := by decide
      rw [toList_strRepr, quote]
      simp [controlViolator, each]
    simp only [Quotable, carrier, outside, if_true] at short
    rw [String.length_toList] at length
    omega

theorem hard_rules_return_iff_control :
    Returns controlSheet ⟨2026, 6, 1⟩ ↔ ∀ lane ∈ controlSheet.lanes, Quotable lane :=
  hard_rules_return_iff controlSheet ⟨2026, 6, 1⟩ (by decide) controlSheet_given (by decide)

end Onramp.Descriptions
