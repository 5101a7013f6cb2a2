import Onramp.Schema

/-!
Calls to the language model, whose outcomes are given: a response, or an exception
such as a timeout or an error with a status. One retry follows a timeout or a
transient status.
-/
namespace Onramp.Vertex
open Onramp.Python
open Onramp.Values
open Onramp.Models
open Onramp.Schema

/-- What the service returns: the text of the response, and the texts of the parts of
    each candidate. -/
structure Response where
  text : Option String
  candidates : List (List (Option String))

/-- What a call sends. -/
structure Request where
  model : String
  temperature : String
  contents : String

/-- The services behind the stages. A call is named by its place: the position of the
    lane or cluster, of the sample and of the attempt. -/
structure Services where
  platform : Platform
  /-- `get_vertex_client(settings)`, at this place -/
  client : List Nat → Raises Unit
  /-- `client.aio.models.generate_content(...)`, inside its own `wait_for` -/
  generate : Request → List Nat → Raises Response
  /-- whether the `wait_for` around the calls of this place runs out -/
  expires : List Nat → Bool

/-- The services as one stage sees them: its places are its own. -/
def Services.stage (services : Services) (tag : Nat) : Services where
  platform := services.platform
  client place := services.client (tag :: place)
  generate request place := services.generate request (tag :: place)
  expires place := services.expires (tag :: place)

/-- `TimeoutError()`. -/
def timeoutError : PyExc := PyExc.mk' .timeoutError ""

/-- Two attempts: the second follows a timeout or a 5xx status of the first, and its
    own timeout is raised as `timeout`. -/
def withRetry {α : Type} (timeout : PyExc) (attempt : Nat → Raises α) : Raises α :=
  match attempt 0 with
  | .ok value => .ok value
  | .error exc =>
    if exc.cls = .timeoutError ∨ (exc.isException = true ∧ exc.transient = true) then
      match attempt 1 with
      | .ok value => .ok value
      | .error exc' => .error (if exc'.cls = .timeoutError then timeout else exc')
    else .error exc

theorem withRetry_ok {α : Type} {timeout : PyExc} {attempt : Nat → Raises α} {value : α}
    (returned : withRetry timeout attempt = .ok value) : ∃ k, attempt k = .ok value := by
  unfold withRetry at returned
  split at returned
  · next first => exact ⟨0, by rw [first, ← returned]⟩
  · split at returned
    · split at returned
      · next second => exact ⟨1, by rw [second, ← returned]⟩
      · cases returned
    · cases returned

def hashResponse (platform : Platform) (text : String) : String := sliceTo 16 (platform.sha256 text)

/-- The vote in a response about a lane: the lane id and the source row default to the
    ones of the lane. -/
def voteOf (platform : Platform) (empty : PyExc) (lane : LaneRecord) (sampleIndex temperatureTenths : Nat)
    (response : Response) : Raises EnsembleVote := do
  let text := response.text.getD ""
  if text = "" then .error empty
  else
    let parsed ← platform.jsonLoads text
    let named ← parsed.setdefault "lane_id" (.str lane.laneId)
    let placed ← named.setdefault "source_row_reference" lane.sourceRowReference.modelDump
    let votedLane ← modelValidate "LaneRecord" (laneRecord platform) placed
    checked "EnsembleVote" EnsembleVote.Valid
      { sampleIndex, temperatureTenths, lane := votedLane, rawResponseHash := hashResponse platform text }

/-- A temperature in tenths, as a float is written. -/
def temperatureText (tenths : Nat) : String := s!"{tenths / 10}.{tenths % 10}"

theorem voteOf_valid {platform : Platform} {empty : PyExc} {lane : LaneRecord} {sampleIndex temperatureTenths : Nat}
    {response : Response} {vote : EnsembleVote}
    (returned : voteOf platform empty lane sampleIndex temperatureTenths response = .ok vote) : vote.Valid := by
  unfold voteOf at returned
  simp only at returned
  split at returned
  · cases returned
  · simp only [bind_eq_ok] at returned
    obtain ⟨_, -, _, -, _, -, _, -, built⟩ := returned
    obtain ⟨valid, rfl⟩ := checked_eq_ok.mp built
    exact valid

end Onramp.Vertex
