import Onramp.Rules
import Mathlib.Tactic.Positivity
import Mathlib.Algebra.Order.Field.Basic

/-!
What R1 to R7 ask of a lane, each for itself, and the verdict of the rules engine in these
terms: the first rule that a lane breaks is cited, and a lane that breaks none survives.
-/
namespace Onramp.Screening
open Onramp.Python
open Onramp.Models
open Onramp.Rules

/-- R1 to R7, in order. -/
def rules : List RuleId :=
  [.portUnknownUnlocode, .negativeBaseRate, .validityWindowInThePast, .validityWindowInverted,
    .transitTimeOutOfRange, .equipmentTypeUnknown, .surchargeBasisUnknown]

theorem mem_rules (rule : RuleId) : rule ∈ rules := by cases rule <;> decide

/-- What the rule asks of a lane. -/
def Keeps (today : Date) (lane : LaneRecord) : RuleId → Prop
  | .portUnknownUnlocode => unlocodeMatch lane.originPort.code = true ∧ unlocodeMatch lane.destinationPort.code = true
  | .negativeBaseRate => 0 < lane.baseRateUsd.toRat
  | .validityWindowInThePast => lane.validityEnd.before today = false
  | .validityWindowInverted => lane.validityEnd.before lane.validityStart = false
  | .transitTimeOutOfRange => ∀ days ∈ lane.transitTimeDays, 1 ≤ days ∧ days ≤ 120
  | .equipmentTypeUnknown => lane.equipmentType ∈ EquipmentType.args
  | .surchargeBasisUnknown => ∀ surcharge ∈ lane.surcharges, surcharge.appliesPer ∈ SurchargeBasis.args

instance (today : Date) (lane : LaneRecord) : DecidablePred (Keeps today lane)
  | .portUnknownUnlocode | .negativeBaseRate | .validityWindowInThePast | .validityWindowInverted
  | .transitTimeOutOfRange | .equipmentTypeUnknown | .surchargeBasisUnknown => by unfold Keeps; infer_instance

/-- The lane satisfies all of R1 to R7. -/
def Satisfies (today : Date) (lane : LaneRecord) : Prop := ∀ rule, Keeps today lane rule

instance (today : Date) : DecidablePred (Satisfies today) := fun lane =>
  decidable_of_iff (∀ rule ∈ rules, Keeps today lane rule)
    ⟨fun each rule => each rule (mem_rules rule), fun each rule _ => each rule⟩

/-- The first rule that the lane breaks. -/
def firstBroken (today : Date) (lane : LaneRecord) : Option RuleId :=
  rules.find? (fun rule => ¬ Keeps today lane rule)

theorem firstBroken_eq_none {today : Date} {lane : LaneRecord} : firstBroken today lane = none ↔ Satisfies today lane := by
  simp only [firstBroken, List.find?_eq_none, decide_eq_true_eq, not_not]
  exact ⟨fun each rule => each rule (mem_rules rule), fun each rule _ => each rule⟩

/-- R2 compares the sign and the coefficient. -/
theorem toRat_pos (d : Decimal) : 0 < d.toRat ↔ ¬ (d.negative = true ∨ d.coefficient = 0) := by
  obtain ⟨negative, coefficient, exponent⟩ := d
  have nonneg : ∀ magnitude : ℚ, (0 < magnitude ↔ coefficient ≠ 0) → 0 ≤ magnitude →
      (0 < (if negative then -magnitude else magnitude) ↔ ¬ (negative = true ∨ coefficient = 0)) := by
    intro magnitude positive least
    cases negative with
    | true => simpa using least
    | false => simpa using positive
  unfold Decimal.toRat
  refine nonneg _ ?_ ?_
  · split
    · simp [Nat.pos_iff_ne_zero]
    · rw [Rat.mkRat_eq_div]
      have scale : (0 : ℚ) < ((10 ^ (-exponent).toNat : Nat) : ℚ) := by positivity
      rw [div_pos_iff_of_pos_right scale]
      simp [Nat.pos_iff_ne_zero]
  · split
    · positivity
    · rw [Rat.mkRat_eq_div]
      positivity

/-- A rule broken after none of the earlier ones is the first. -/
theorem verdict_of_first {today : Date} {lane : LaneRecord} {rule : RuleId} {text : String}
    (first : firstBroken today lane = some rule) :
    ∃ text', violation rule text = (firstBroken today lane).elim (.ok none) (fun rule => violation rule text') :=
  ⟨text, by rw [first, Option.elim_some]⟩

/-- The verdict cites the first rule that the lane breaks, under some text. -/
theorem evaluateLane_eq (lane : LaneRecord) (today : Date) :
    ∃ text, evaluateLane lane today = (firstBroken today lane).elim (.ok none) (fun rule => violation rule text) := by
  unfold evaluateLane
  by_cases origin : unlocodeMatch lane.originPort.code = false
  · rw [if_pos origin]
    have broken : ¬ Keeps today lane .portUnknownUnlocode := by simp [Keeps, origin]
    exact verdict_of_first (by simp [firstBroken, rules, broken])
  by_cases destination : unlocodeMatch lane.destinationPort.code = false
  · rw [if_neg origin, if_pos destination]
    have broken : ¬ Keeps today lane .portUnknownUnlocode := by simp [Keeps, destination]
    exact verdict_of_first (by simp [firstBroken, rules, broken])
  have r1 : Keeps today lane .portUnknownUnlocode := ⟨by simpa using origin, by simpa using destination⟩
  rw [if_neg origin, if_neg destination]
  split
  · next rate =>
    have broken : ¬ Keeps today lane .negativeBaseRate := fun kept => (toRat_pos _).mp kept rate
    exact verdict_of_first (by simp [firstBroken, rules, r1, broken])
  next rate =>
  have r2 : Keeps today lane .negativeBaseRate := (toRat_pos _).mpr rate
  split
  · next past =>
    have broken : ¬ Keeps today lane .validityWindowInThePast := by simp [Keeps, past]
    exact verdict_of_first (by simp [firstBroken, rules, r1, r2, broken])
  next past =>
  have r3 : Keeps today lane .validityWindowInThePast := by simpa [Keeps] using past
  split
  · next inverted =>
    have broken : ¬ Keeps today lane .validityWindowInverted := by simp [Keeps, inverted]
    exact verdict_of_first (by simp [firstBroken, rules, r1, r2, r3, broken])
  next inverted =>
  have r4 : Keeps today lane .validityWindowInverted := by simpa [Keeps] using inverted
  split
  · next days outside =>
    obtain ⟨given, bounds⟩ := Option.filter_eq_some_iff.mp outside
    have broken : ¬ Keeps today lane .transitTimeOutOfRange := fun kept => of_decide_eq_true bounds (kept days given)
    exact verdict_of_first (by simp [firstBroken, rules, r1, r2, r3, r4, broken])
  next inside =>
  have r5 : Keeps today lane .transitTimeOutOfRange := by
    intro days given
    by_contra bounds
    rw [given] at inside
    simp [Option.filter, bounds] at inside
  split
  · next unknown =>
    have broken : ¬ Keeps today lane .equipmentTypeUnknown := unknown
    exact verdict_of_first (by simp [firstBroken, rules, r1, r2, r3, r4, r5, broken])
  next known =>
  have r6 : Keeps today lane .equipmentTypeUnknown := not_not.mp known
  unfold unknownBasis
  split
  · next surcharge found =>
    have unknown : surcharge.appliesPer ∉ SurchargeBasis.args := by simpa using List.find?_some found
    have broken : ¬ Keeps today lane .surchargeBasisUnknown := fun kept =>
      unknown (kept surcharge (List.mem_of_find?_eq_some found))
    exact verdict_of_first (by simp [firstBroken, rules, r1, r2, r3, r4, r5, r6, broken])
  · next none =>
    have r7 : Keeps today lane .surchargeBasisUnknown := by
      intro surcharge inside
      simpa using List.find?_eq_none.mp none surcharge inside
    have quiet : firstBroken today lane = Option.none := by simp [firstBroken, rules, r1, r2, r3, r4, r5, r6, r7]
    exact ⟨"", by rw [quiet, Option.elim_none]⟩

/-- A lane without a violation satisfies the rules, and a violation is of the first rule that
    the lane breaks. -/
theorem evaluateLane_spec {lane : LaneRecord} {today : Date} {outcome : Option RuleViolation}
    (returned : evaluateLane lane today = .ok outcome) : outcome.map RuleViolation.ruleId = firstBroken today lane := by
  obtain ⟨text, verdict⟩ := evaluateLane_eq lane today
  rw [verdict] at returned
  cases first : firstBroken today lane with
  | none =>
    rw [first] at returned
    cases returned
    rfl
  | some rule =>
    rw [first, Option.elim_some, violation_ok] at returned
    rw [returned.2, Option.map_some]

theorem evaluateLane_satisfied {lane : LaneRecord} {today : Date} (satisfied : Satisfies today lane) :
    evaluateLane lane today = .ok none := by
  obtain ⟨text, verdict⟩ := evaluateLane_eq lane today
  rw [verdict, firstBroken_eq_none.mpr satisfied, Option.elim_none]

/-- The rejection cites the lane, its source row and the first rule that it breaks. -/
def Cites (today : Date) (lane : LaneRecord) (record : RejectionRecord) : Prop :=
  record.laneId = lane.laneId ∧ record.sourceRowReference = lane.sourceRowReference ∧
    (firstBroken today lane).map RuleId.literal = some record.ruleId

/-- The loop keeps the lanes that satisfy the rules and rejects the others one by one, with
    the violations beside the rejections. -/
theorem screen_partition {today : Date} {lanes surviving : List LaneRecord} {rejected : List RejectionRecord}
    {violations : List RuleViolation} (returned : screen today lanes = .ok (surviving, rejected, violations)) :
    surviving = lanes.filter (fun lane => Satisfies today lane) ∧
      List.Forall₂ (Cites today) (lanes.filter (fun lane => ¬ Satisfies today lane)) rejected ∧
      violations.map (fun v => v.ruleId.literal) = rejected.map RejectionRecord.ruleId := by
  induction lanes generalizing surviving rejected violations with
  | nil =>
    cases returned
    exact ⟨rfl, .nil, rfl⟩
  | cons lane rest ih =>
    rcases screen_cons.mp returned with ⟨others, evaluated, later, rfl⟩ | ⟨v, records, vs, evaluated, -, later, rfl, rfl⟩
    · have satisfied : Satisfies today lane := firstBroken_eq_none.mp (evaluateLane_spec evaluated).symm
      obtain ⟨survive, cited, listed⟩ := ih later
      rw [List.filter_cons_of_pos (by simpa using satisfied), List.filter_cons_of_neg (by simpa using satisfied)]
      exact ⟨by rw [survive], cited, listed⟩
    · have first : firstBroken today lane = some v.ruleId := (evaluateLane_spec evaluated).symm
      have broken : ¬ Satisfies today lane := by
        intro satisfied
        rw [firstBroken_eq_none.mpr satisfied] at first
        cases first
      obtain ⟨survive, cited, listed⟩ := ih later
      rw [List.filter_cons_of_neg (by simpa using broken), List.filter_cons_of_pos (by simpa using broken)]
      refine ⟨survive, .cons ⟨rfl, rfl, by rw [first]; rfl⟩ cited, ?_⟩
      rw [List.map_cons, List.map_cons, listed]
      rfl

theorem screen_satisfied {today : Date} {lanes : List LaneRecord} (satisfied : ∀ lane ∈ lanes, Satisfies today lane) :
    screen today lanes = .ok (lanes, [], []) := by
  induction lanes with
  | nil => rfl
  | cons lane rest ih =>
    refine screen_cons.mpr (.inl ⟨rest, evaluateLane_satisfied (satisfied lane List.mem_cons_self), ?_, rfl⟩)
    exact ih (fun other inside => satisfied other (List.mem_cons_of_mem _ inside))

/-- The lanes that satisfy R1 to R7 stay, in order, the others are rejected one by one under
    the first rule that they break, everything else stays as it was, and a second application
    finds nothing. -/
theorem hard_rules_partition (rs out : NormalizedRatesheet) (today : Date) (violations : List RuleViolation)
    (returned : applyHardRules rs today = .ok (out, violations)) :
    (∃ rejected,
      out = { rs with
        lanes := rs.lanes.filter (fun lane => Satisfies today lane)
        deterministicallyRejected := rs.deterministicallyRejected ++ rejected } ∧
      List.Forall₂ (Cites today) (rs.lanes.filter (fun lane => ¬ Satisfies today lane)) rejected ∧
      violations.map (fun v => v.ruleId.literal) = rejected.map RejectionRecord.ruleId) ∧
      applyHardRules out today = .ok (out, []) := by
  unfold applyHardRules at returned
  cases screened : screen today rs.lanes with
  | error exc =>
    rw [screened] at returned
    cases returned
  | ok parts =>
    obtain ⟨surviving, rejected, violations'⟩ := parts
    rw [screened] at returned
    cases returned
    obtain ⟨rfl, cited, listed⟩ := screen_partition screened
    refine ⟨⟨rejected, rfl, cited, listed⟩, ?_⟩
    have kept : ∀ lane ∈ rs.lanes.filter (fun lane => Satisfies today lane), Satisfies today lane :=
      fun lane inside => of_decide_eq_true (List.mem_filter.mp inside).2
    simp only [applyHardRules, screen_satisfied kept, bind, Except.bind, pure, Except.pure, List.append_nil]

def ruledLane (laneId : String) (rate : Decimal) (validityEnd : Date) : LaneRecord where
  laneId := laneId
  originPort := ⟨"USNYC"⟩
  destinationPort := ⟨"CNSHA"⟩
  equipmentType := .hc40
  commodityCode := none
  baseRateUsd := rate
  surcharges := []
  transitTimeDays := some 30
  validityStart := ⟨2026, 1, 1⟩
  validityEnd := validityEnd
  sourceRowReference := ⟨"Rates", 2, "A2"⟩

def ruledSheet (lanes : List LaneRecord) : NormalizedRatesheet where
  jobId := "j1"
  prospectId := "acme"
  extractionMetadata := ⟨"gemini-3.1-flash-lite", ⟨⟨2026, 6, 1⟩, 0⟩, "stage2.excel.v2", 7⟩
  lanes := lanes
  conformalScores := []
  flaggedForReview := []
  deterministicallyRejected := []
  shapeViolatingLanes := []
  schemaVersion := "onramp.v1"

/-- The second lane is rejected for its rate, not for its date, the third for its equipment, not for the basis of its
    surcharge, and the fourth for the basis of its second surcharge. -/
def mixedSheet : NormalizedRatesheet :=
  ruledSheet [ruledLane "L1" (Decimal.ofNat 2100) ⟨2026, 12, 31⟩, ruledLane "L2" (Decimal.ofNat 0) ⟨2026, 3, 31⟩,
    { ruledLane "L3" (Decimal.ofNat 2100) ⟨2026, 12, 31⟩ with
      equipmentType := ⟨"BOGUS_RIG"⟩, surcharges := [⟨"BAF", Decimal.ofNat 50, ⟨"WEEK"⟩⟩] },
    { ruledLane "L4" (Decimal.ofNat 2100) ⟨2026, 12, 31⟩ with
      surcharges := [⟨"PSS", Decimal.ofNat 25, .teu⟩, ⟨"BAF", Decimal.ofNat 50, ⟨"WEEK"⟩⟩] },
    ruledLane "L5" (Decimal.ofNat 1800) ⟨2026, 6, 30⟩]

theorem hard_rules_partition_mixed :
    ∃ out violations, applyHardRules mixedSheet ⟨2026, 6, 1⟩ = .ok (out, violations) ∧
      violations.map RuleViolation.ruleId = [.negativeBaseRate, .equipmentTypeUnknown, .surchargeBasisUnknown] ∧
      (∃ rejected,
        out = { mixedSheet with
          lanes := mixedSheet.lanes.filter (fun lane => Satisfies ⟨2026, 6, 1⟩ lane)
          deterministicallyRejected := mixedSheet.deterministicallyRejected ++ rejected } ∧
        List.Forall₂ (Cites ⟨2026, 6, 1⟩) (mixedSheet.lanes.filter (fun lane => ¬ Satisfies ⟨2026, 6, 1⟩ lane)) rejected ∧
        violations.map (fun v => v.ruleId.literal) = rejected.map RejectionRecord.ruleId) ∧
        applyHardRules out ⟨2026, 6, 1⟩ = .ok (out, []) := by
  have fired : (applyHardRules mixedSheet ⟨2026, 6, 1⟩).toOption.map (fun parts => parts.2.map RuleViolation.ruleId) =
      some [.negativeBaseRate, .equipmentTypeUnknown, .surchargeBasisUnknown] := by decide +kernel
  obtain ⟨⟨out, violations⟩, ran, ids⟩ := eq_ok_of_toOption_map fired
  exact ⟨out, violations, ran, ids, hard_rules_partition mixedSheet out ⟨2026, 6, 1⟩ violations ran⟩

end Onramp.Screening
