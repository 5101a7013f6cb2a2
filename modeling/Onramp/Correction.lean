import Onramp.Vertex
import Onramp.Consensus

/-!
The two model-bearing steps of Stage 4: the conditional correction, which asks for two
more votes on a lane without a majority, and the clarification, a question about a
flagged lane that never carries a digit.
-/
namespace Onramp.Correction
open Onramp.Python
open Onramp.Values
open Onramp.Models
open Onramp.Consensus
open Onramp.Vertex

variable (services : Services)

/-- `CorrectionError(message)`. -/
def correctionError (message : String) : PyExc := PyExc.mk' .correctionError message

/-- `_one_correction_call`, for the sample at this temperature of the flag at this
    position. -/
def oneCorrectionCall (position : Nat) (lane : LaneRecord) (sampleIndex temperatureTenths : Nat) :
    Raises EnsembleVote :=
  let request : Request :=
    { model := "gemini-3.1-pro-preview", temperature := temperatureText temperatureTenths,
      contents := "Disambiguate this lane. The N=3 ensemble produced no majority. " ++
        "Return your best LaneRecord JSON.\n\nLane: " ++ services.platform.compactJson lane.modelDump }
  withRetry (correctionError s!"correction timeout at T={temperatureText temperatureTenths}") (fun attempt => do
    let response ← services.generate request [position, sampleIndex, attempt]
    voteOf services.platform (correctionError "empty correction response") lane sampleIndex temperatureTenths response)

/-- One result of the gathered calls: an exception ends the correction. -/
def gathered (result : Raises EnsembleVote) : Raises EnsembleVote :=
  match result with
  | .ok vote => .ok vote
  | .error exc => .error (correctionError s!"correction call failed: {exc.message}")

/-- `conditional_correction`, for the flag at this position. -/
def conditionalCorrection (position : Nat) (priorConsensus : ConsensusResult) : Raises ConsensusResult :=
  if priorConsensus.requiresReview = false then .ok priorConsensus
  else
    match priorConsensus.votes with
    | [] => .error (PyExc.mk' (.other "IndexError") "list index out of range")
    | first :: _ => do
      services.client [position]
      if services.expires [position] then .error timeoutError
      else
        let low ← gathered (oneCorrectionCall services position first.lane 3 0)
        let high ← gathered (oneCorrectionCall services position first.lane 4 10)
        let combinedVotes := priorConsensus.votes ++ [low, high]
        if combinedVotes.length ≠ 5 then
          .error (correctionError s!"expected 5 votes post-correction, got {combinedVotes.length}")
        else majorityConsensus priorConsensus.laneId combinedVotes

def fallbackPrompt : String := "Ask the prospect to confirm the ambiguous field; do not suggest a value."

def stripNumerics (text : String) : String :=
  if text.toList.any services.platform.isDigit then fallbackPrompt else text

/-- `draft_clarification`, for the flag at this position. -/
def draftClarification (position : Nat) (flagged : FlaggedLane) : Raises String := do
  services.client [position]
  let request : Request :=
    { model := "gemini-3.1-pro-preview", temperature := "0.2",
      contents := s!"Flagged lane reason: {flagged.reason.literal}.\n" ++
        s!"Lane summary: origin={flagged.lane.originPort.code}, " ++
        s!"destination={flagged.lane.destinationPort.code}, " ++
        s!"equipment={flagged.lane.equipmentType.literal}.\n" ++ "Write one short clarification question." }
  match services.generate request [position] with
  | .error exc => if exc.isException then .ok fallbackPrompt else .error exc
  | .ok response =>
    let text := strip (response.text.getD "")
    if text = "" then .ok fallbackPrompt
    else .ok (stripNumerics services (if 240 < text.length then sliceTo 240 text else text))

end Onramp.Correction
