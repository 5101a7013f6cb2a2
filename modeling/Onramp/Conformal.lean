import Onramp.Consensus
import Onramp.Schema

/-!
Section-granular split conformal confidence: the mean agreement of the votes of a
lane over the voted fields, in decimal arithmetic of 28 digits, rounded to three
places and compared with the acceptance threshold.
-/
namespace Onramp.Conformal
open Onramp.Python
open Onramp.Values
open Onramp.Models
open Onramp.Consensus
open Onramp.Schema
open Onramp.Library.Keyed (find)

/-- The number of decimal digits of a positive number; none for zero. -/
def digitCount (n : Nat) : Nat := if n = 0 then 0 else (Nat.toDigits 10 n).length

/-- The places after the point that a result below `10 ^ 28` keeps in a context of 28
    digits. -/
def contextPlaces (num den : Nat) : Nat :=
  if den ≤ num then 28 - digitCount (num / den) else 27 + max 1 (digitCount ((den - 1) / num))

/-- `num / den` rounded half to even. -/
def roundHalfEven (num den : Nat) : Nat :=
  let quotient := num / den
  let twice := 2 * (num % den)
  if den < twice ∨ (twice = den ∧ quotient % 2 = 1) then quotient + 1 else quotient

/-- The result `num / den` of an operation in the default context. -/
def contextRound (num den : Nat) : ℚ :=
  if num = 0 then 0
  else mkRat (roundHalfEven (num * 10 ^ contextPlaces num den) den) (10 ^ contextPlaces num den)

/-- `Decimal(top) / Decimal(n)`. -/
def divide (top n : Nat) : ℚ := contextRound top n

/-- `x + y`, of nonnegative decimals. -/
def add (x y : ℚ) : ℚ := contextRound (x + y).num.natAbs (x + y).den

/-- `(x / Decimal(n)).quantize(Decimal("0.001"), rounding=ROUND_HALF_UP)`, in
    thousandths. -/
def meanThousandths (x : ℚ) (n : Nat) : Nat :=
  let mean := contextRound x.num.natAbs (x.den * n)
  (2 * 1000 * mean.num.natAbs + mean.den) / (2 * mean.den)

/-- `repr(value.model_dump(mode="json") if hasattr(value, "model_dump") else value)`. -/
def agreementKey : FieldValue → String
  | .model dump => dump.repr
  | .text s => (s.map strRepr).getD "None"
  | .integer n => (n.map Int.repr).getD "None"
  | .decimal d => s!"Decimal({strRepr d.str})"
  | .date d => d.repr
  | .surcharges items => listRepr (items.map SurchargeRecord.repr)

/-- `max(seen.values())`, for one field. -/
def topCount (votes : List EnsembleVote) (field : VotedField) : Nat :=
  ((counter (votes.map (fun vote => agreementKey (getField vote.lane field)))).map Prod.snd).foldl max 0

/-- `_per_field_agreement`, in thousandths. -/
def perFieldAgreement (votes : List EnsembleVote) : Nat :=
  if votes.length = 0 then 0
  else
    let totals := votedFields.map (fun field => divide (topCount votes field) votes.length)
    meanThousandths (totals.foldl add 0) votedFields.length

/-- `ConformalCalibration.model_validate`: the threshold is pinned, and may be left out. -/
def conformalCalibration (platform : Platform) (value : Json) : Option ConformalCalibration := do
  let members ← objectOf ["calibration_id", "sample_count", "acceptance_threshold", "generated_at"] value
  let calibrationId ← (find "calibration_id" members).bind textOf
  let sampleCount ← (find "sample_count" members).bind platform.asInt
  let threshold ← (find "acceptance_threshold" members).elim (some "0.85") textOf
  let generatedAt ← (find "generated_at" members).bind textOf
  if threshold = "0.85" then guarded ConformalCalibration.Valid ⟨calibrationId, sampleCount.toNat, generatedAt⟩ else none

/-- `load_calibration`, of the text that the file holds. -/
def loadCalibration (platform : Platform) (readText : Raises String) : Raises ConformalCalibration := do
  let text ← readText
  let raw ← platform.jsonLoads text
  modelValidate "ConformalCalibration" (conformalCalibration platform) raw

def acceptanceThreshold : Decimal := ⟨false, 85, -2⟩

def computeConformalScore (laneId : String) (votes : List EnsembleVote) (calibration : ConformalCalibration) :
    Raises ConformalScore :=
  let bounded := max 0 (min 1000 (perFieldAgreement votes))
  checked "ConformalScore" ConformalScore.Valid
    { laneId, confidence := Decimal.thousandths bounded, calibrationId := calibration.calibrationId }

def accepts (score : ConformalScore) : Bool := acceptanceThreshold.toRat ≤ score.confidence.toRat

end Onramp.Conformal
