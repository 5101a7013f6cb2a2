import Onramp.Vertex
import Onramp.Consensus
import Onramp.Ports

/-!
Stage 3: three samples per lane, their majority consensus, and the resolution of the
ports of the consensus lane.
-/
namespace Onramp.Normalizer
open Onramp.Python
open Onramp.Values
open Onramp.Models
open Onramp.Consensus
open Onramp.Vertex
open Onramp.Ports

variable (services : Services)

/-- `EnsembleError(message)`. -/
def ensembleError (message : String) : PyExc := PyExc.mk' .ensembleError message

def referenceBlockFor (lane : LaneRecord) : String :=
  let hint (width : Nat) (code : String) : Json := if width ≤ code.length then .str (sliceTo width code) else .null
  services.platform.jsonDumps (.obj
    [("country_origin_hint", hint 2 lane.originPort.code),
      ("country_destination_hint", hint 2 lane.destinationPort.code),
      ("hs6_heading_hint", (lane.commodityCode.map (hint 4)).getD .null)])

/-- `_one_pro_call`, for the sample at this temperature of the lane at this position. -/
def oneProCall (position : Nat) (lane : LaneRecord) (sampleIndex temperatureTenths : Nat) : Raises EnsembleVote :=
  let request : Request :=
    { model := "gemini-3.1-pro-preview", temperature := temperatureText temperatureTenths,
      contents := "Lane (post-extraction):\n" ++ services.platform.compactJson lane.modelDump ++
        "\n\nReference candidates:\n" ++ referenceBlockFor services lane }
  withRetry (ensembleError s!"Pro call timeout at T={temperatureText temperatureTenths}") (fun attempt => do
    let response ← services.generate request [position, sampleIndex, attempt]
    voteOf services.platform (ensembleError "empty Pro response") lane sampleIndex temperatureTenths response)

/-- One result of the gathered calls: an exception ends the ensemble. -/
def gathered (result : Raises EnsembleVote) : Raises EnsembleVote :=
  match result with
  | .ok vote => .ok vote
  | .error exc => .error (ensembleError s!"ensemble call failed: {exc.message}")

/-- `_ensemble_for_lane`, for the lane at this position. -/
def ensembleForLane (position : Nat) (lane : LaneRecord) : Raises ConsensusResult :=
  if services.expires [position] then .error timeoutError
  else do
    let low ← gathered (oneProCall services position lane 0 1)
    let middle ← gathered (oneProCall services position lane 1 5)
    let high ← gathered (oneProCall services position lane 2 9)
    majorityConsensus lane.laneId [low, middle, high]

/-- Where a lane goes after the vote. -/
inductive LaneOutcome
  | kept (lane : LaneRecord)
  | flagged (flag : FlaggedLane)

def LaneOutcome.keptLane : LaneOutcome → Option LaneRecord
  | .kept lane => some lane
  | .flagged _ => none

def LaneOutcome.flag : LaneOutcome → Option FlaggedLane
  | .kept _ => none
  | .flagged flag => some flag

/-- The body of the loop of `normalize_lanes` after the vote. -/
def settleLane (reference : Reference) (lane : LaneRecord) (consensus : ConsensusResult) : Raises LaneOutcome :=
  match consensus.consensusLane with
  | none => .ok (.flagged ⟨lane, .noMajority, none⟩)
  | some resolvedLane => do
    let origin ← resolvePortCode services.platform reference resolvedLane.originPort.code
    let destination ← resolvePortCode services.platform reference resolvedLane.destinationPort.code
    match origin.canonical, destination.canonical with
    | some originPort, some destinationPort => return .kept { resolvedLane with originPort, destinationPort }
    | _, _ =>
      if unlocodeMatch resolvedLane.originPort.code = false ∨ unlocodeMatch resolvedLane.destinationPort.code = false then
        return .kept resolvedLane
      else return .flagged ⟨resolvedLane, .portObfuscationUnresolved, none⟩

/-- The loop of `normalize_lanes`, from the lane at `position` on. -/
def normalizeEach (reference : Reference) : Nat → List LaneRecord → Raises (List (ConsensusResult × LaneOutcome))
  | _, [] => .ok []
  | position, lane :: rest => do
    let consensus ← ensembleForLane services position lane
    let outcome ← settleLane services reference lane consensus
    let others ← normalizeEach reference (position + 1) rest
    return (consensus, outcome) :: others

def normalizeLanes (reference : Reference) (now : DateTime) (extraction : NormalizedRatesheet) :
    Raises (NormalizedRatesheet × List ConsensusResult) := do
  services.client []
  let settled ← normalizeEach services reference 0 extraction.lanes
  return ({ extraction with
    lanes := settled.filterMap (fun entry => entry.2.keptLane)
    flaggedForReview := extraction.flaggedForReview ++ settled.filterMap (fun entry => entry.2.flag)
    extractionMetadata := { extraction.extractionMetadata with extractedAt := now } }, settled.map Prod.fst)

/-- The id of the lane that goes on. -/
def LaneOutcome.laneId : LaneOutcome → String
  | .kept lane => lane.laneId
  | .flagged flag => flag.lane.laneId

variable {services}

theorem ensembleForLane_spec {position : Nat} {lane : LaneRecord} {consensus : ConsensusResult}
    (returned : ensembleForLane services position lane = .ok consensus) :
    consensus.Valid ∧ consensus.laneId = lane.laneId ∧
      ∀ consensusLane, consensus.consensusLane = some consensusLane → consensusLane.laneId = lane.laneId ∧
        (∃ vote ∈ consensus.votes, consensusLane.originPort = vote.lane.originPort) ∧
        ∃ vote ∈ consensus.votes, consensusLane.destinationPort = vote.lane.destinationPort := by
  unfold ensembleForLane at returned
  split at returned
  · cases returned
  · simp only [bind_eq_ok] at returned
    obtain ⟨_, -, _, -, _, -, returned⟩ := returned
    obtain ⟨valid, laneId, votes, -, chosen⟩ := majorityConsensus_spec returned
    rw [votes]
    exact ⟨valid, laneId, fun consensusLane selected => (chosen consensusLane selected).2⟩

/-- What becomes of a lane, by its consensus and the resolution of its two ports. -/
inductive Settles (platform : Platform) (reference : Reference) (lane : LaneRecord) (consensus : ConsensusResult) :
    LaneOutcome → Prop
  | noMajority (none : consensus.consensusLane = none) :
    Settles platform reference lane consensus (.flagged ⟨lane, .noMajority, .none⟩)
  | resolved {chosen : LaneRecord} {origin destination : ResolvedPortCode} {originPort destinationPort : PortCode}
    (selected : consensus.consensusLane = some chosen)
    (originRead : resolvePortCode platform reference chosen.originPort.code = .ok origin)
    (destinationRead : resolvePortCode platform reference chosen.destinationPort.code = .ok destination)
    (originFound : origin.canonical = some originPort) (destinationFound : destination.canonical = some destinationPort) :
    Settles platform reference lane consensus (.kept { chosen with originPort, destinationPort })
  | passed {chosen : LaneRecord} (selected : consensus.consensusLane = some chosen)
    (shapeless : unlocodeMatch chosen.originPort.code = false ∨ unlocodeMatch chosen.destinationPort.code = false) :
    Settles platform reference lane consensus (.kept chosen)
  | obfuscated {chosen : LaneRecord} {origin destination : ResolvedPortCode}
    (selected : consensus.consensusLane = some chosen)
    (originRead : resolvePortCode platform reference chosen.originPort.code = .ok origin)
    (destinationRead : resolvePortCode platform reference chosen.destinationPort.code = .ok destination)
    (unresolved : ¬ (origin.canonical.isSome ∧ destination.canonical.isSome))
    (shaped : ¬ (unlocodeMatch chosen.originPort.code = false ∨ unlocodeMatch chosen.destinationPort.code = false)) :
    Settles platform reference lane consensus (.flagged ⟨chosen, .portObfuscationUnresolved, none⟩)

theorem settleLane_settles {reference : Reference} {lane : LaneRecord} {consensus : ConsensusResult}
    {outcome : LaneOutcome} (settled : settleLane services reference lane consensus = .ok outcome) :
    Settles services.platform reference lane consensus outcome := by
  unfold settleLane at settled
  split at settled
  · next none =>
    cases settled
    exact .noMajority none
  · next chosen selected =>
    simp only [bind_eq_ok] at settled
    obtain ⟨origin, originRead, destination, destinationRead, settled⟩ := settled
    split at settled
    · next originPort destinationPort originFound destinationFound =>
      cases settled
      exact .resolved selected originRead destinationRead originFound destinationFound
    · next unresolved =>
      split at settled
      · next shapeless =>
        cases settled
        exact .passed selected shapeless
      · next shaped =>
        cases settled
        refine .obfuscated selected originRead destinationRead ?_ shaped
        rintro ⟨originSome, destinationSome⟩
        obtain ⟨originPort, originFound⟩ := Option.isSome_iff_exists.mp originSome
        obtain ⟨destinationPort, destinationFound⟩ := Option.isSome_iff_exists.mp destinationSome
        exact unresolved originPort destinationPort originFound destinationFound

theorem settleLane_laneId {reference : Reference} {lane : LaneRecord} {consensus : ConsensusResult}
    {outcome : LaneOutcome} (settled : settleLane services reference lane consensus = .ok outcome)
    (named : ∀ consensusLane, consensus.consensusLane = some consensusLane → consensusLane.laneId = lane.laneId) :
    outcome.laneId = lane.laneId := by
  cases settleLane_settles settled with
  | noMajority => rfl
  | resolved selected =>
    have same := named _ selected
    exact same
  | passed selected => exact named _ selected
  | obfuscated selected => exact named _ selected

/-- A consensus lane whose ports both have a canonical code is kept with these codes. -/
theorem settleLane_resolved {reference : Reference} {lane consensusLane : LaneRecord} {consensus : ConsensusResult}
    {origin destination : ResolvedPortCode} {originPort destinationPort : PortCode}
    (chosen : consensus.consensusLane = some consensusLane)
    (originResolved : resolvePortCode services.platform reference consensusLane.originPort.code = .ok origin)
    (destinationResolved :
      resolvePortCode services.platform reference consensusLane.destinationPort.code = .ok destination)
    (originFound : origin.canonical = some originPort) (destinationFound : destination.canonical = some destinationPort) :
    settleLane services reference lane consensus = .ok (.kept { consensusLane with originPort, destinationPort }) := by
  unfold settleLane
  simp [chosen, originResolved, destinationResolved, originFound, destinationFound, bind, Except.bind, pure, Except.pure]

/-- A loop that returns has settled its first lane, and then the others from the next position on. -/
theorem normalizeEach_cons {reference : Reference} {position : Nat} {lane : LaneRecord} {rest : List LaneRecord}
    {settled : List (ConsensusResult × LaneOutcome)}
    (returned : normalizeEach services reference position (lane :: rest) = .ok settled) :
    ∃ consensus outcome others, ensembleForLane services position lane = .ok consensus ∧
      settleLane services reference lane consensus = .ok outcome ∧
      normalizeEach services reference (position + 1) rest = .ok others ∧ settled = (consensus, outcome) :: others := by
  unfold normalizeEach at returned
  simp only [bind_eq_ok, pure_eq_ok] at returned
  obtain ⟨consensus, voted, outcome, moved, others, later, rfl⟩ := returned
  exact ⟨consensus, outcome, others, voted, moved, later, rfl⟩

/-- Every lane is settled by its own ensemble, and keeps its id. -/
theorem normalizeEach_spec {reference : Reference} {position : Nat} {lanes : List LaneRecord}
    {settled : List (ConsensusResult × LaneOutcome)}
    (returned : normalizeEach services reference position lanes = .ok settled) :
    List.Forall₂ (fun lane entry => entry.1.Valid ∧ entry.1.laneId = lane.laneId ∧ entry.2.laneId = lane.laneId)
      lanes settled := by
  induction lanes generalizing position settled with
  | nil =>
    cases returned
    exact .nil
  | cons lane rest ih =>
    obtain ⟨consensus, outcome, others, voted, moved, later, rfl⟩ := normalizeEach_cons returned
    obtain ⟨valid, laneId, chosen⟩ := ensembleForLane_spec voted
    have named := fun consensusLane selected => (chosen consensusLane selected).1
    exact .cons ⟨valid, laneId, settleLane_laneId moved named⟩ (ih later)

theorem normalizeEach_at {reference : Reference} {position place : Nat} {lanes : List LaneRecord} {lane : LaneRecord}
    {settled : List (ConsensusResult × LaneOutcome)}
    (returned : normalizeEach services reference position lanes = .ok settled) (here : lanes[place]? = some lane) :
    ∃ consensus outcome, ensembleForLane services (position + place) lane = .ok consensus ∧
      settleLane services reference lane consensus = .ok outcome ∧ (consensus, outcome) ∈ settled := by
  induction lanes generalizing position place settled with
  | nil => simp at here
  | cons head rest ih =>
    obtain ⟨consensus, outcome, others, voted, moved, later, rfl⟩ := normalizeEach_cons returned
    cases place with
    | zero =>
      obtain rfl := Option.some.inj here
      exact ⟨consensus, outcome, voted, moved, List.mem_cons_self⟩
    | succ place =>
      obtain ⟨consensus', outcome', voted', moved', inside⟩ := ih later (by simpa using here)
      rw [show position + 1 + place = position + (place + 1) by omega] at voted'
      exact ⟨consensus', outcome', voted', moved', List.mem_cons_of_mem _ inside⟩

theorem normalizeLanes_ok {reference : Reference} {now : DateTime} {extraction : NormalizedRatesheet}
    {settled : List (ConsensusResult × LaneOutcome)} (connected : services.client [] = .ok ())
    (each : normalizeEach services reference 0 extraction.lanes = .ok settled) :
    normalizeLanes services reference now extraction = .ok ({ extraction with
      lanes := settled.filterMap (fun entry => entry.2.keptLane)
      flaggedForReview := extraction.flaggedForReview ++ settled.filterMap (fun entry => entry.2.flag)
      extractionMetadata := { extraction.extractionMetadata with extractedAt := now } }, settled.map Prod.fst) := by
  simp only [normalizeLanes, connected, each, bind, Except.bind, pure, Except.pure]

theorem normalizeLanes_eq_ok {reference : Reference} {now : DateTime} {extraction updated : NormalizedRatesheet}
    {results : List ConsensusResult}
    (returned : normalizeLanes services reference now extraction = .ok (updated, results)) :
    ∃ settled, normalizeEach services reference 0 extraction.lanes = .ok settled ∧
      updated.lanes = settled.filterMap (fun entry => entry.2.keptLane) ∧
      updated.flaggedForReview = extraction.flaggedForReview ++ settled.filterMap (fun entry => entry.2.flag) ∧
      results = settled.map Prod.fst := by
  unfold normalizeLanes at returned
  simp only [bind_eq_ok, pure_eq_ok, Prod.mk.injEq] at returned
  obtain ⟨_, -, settled, each, rfl, rfl⟩ := returned
  exact ⟨settled, each, rfl, rfl, rfl⟩

end Onramp.Normalizer
