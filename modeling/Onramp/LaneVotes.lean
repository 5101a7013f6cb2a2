import Onramp.Settlement

/-!
The votes of a lane on their way through the database: Stage 3 persists one snapshot per
lane under its `lane_id`, a later lane with the same `lane_id` overwrites it, and Stage 4
reads the votes and the prior consensus of a lane back under its `lane_id`.
-/
namespace Onramp.LaneVotes
open Onramp.Python
open Onramp.Values
open Onramp.Models
open Onramp.Vertex
open Onramp.Normalizer
open Onramp.Rules (passes)
open Onramp.Database
open Onramp.Stage4
open Onramp.Tasks
open Onramp.Blocks
open Onramp.TaskSpecs
open Onramp.Journey (extractPayload_valid)
open Onramp.Settlement (pendingDb)
open Onramp.LaneAccounting (sampleEnv sampleLane sampleSheet sampleNow)
open Onramp.Schema (mem_right_of_forall₂)
open Onramp.Library.Keyed (find keys lastOf lastOf_map lastOf_isSome mem_of_lastOf)

/-- A lane with the consensus of its ensemble and the way it went. -/
abbrev Entry : Type := ConsensusResult × LaneOutcome

/-- Stage 4 uses for every lane what the ensemble of that very lane gave: its votes, where a
    kept lane satisfies the rules and is scored, and its consensus, where a flag is up for
    correction. -/
def OwnVotes (inputs : Inputs) (settled : List Entry) : Prop :=
  ∀ entry ∈ settled,
    match entry.2 with
    | .kept lane => passes inputs.rulesDate lane = true → votesOf inputs.votesByLane lane = entry.1.votes
    | .flagged flag => flag.reason = .noMajority → inputs.consensusOf flag.lane.laneId = some entry.1

/-- The consensus of the last lane with the id. -/
def lastWith (settled : List Entry) (laneId : String) : Option ConsensusResult :=
  lastOf laneId (settled.map (fun entry => (entry.1.laneId, entry.1)))

/-- The last lane with the same id got the same from its ensemble, as far as it is used. -/
def Agrees (rulesDate : Date) (last : ConsensusResult) (entry : Entry) : Prop :=
  match entry.2 with
  | .kept lane => passes rulesDate lane = true → last.votes = entry.1.votes
  | .flagged flag => flag.reason = .noMajority → last = entry.1

instance (rulesDate : Date) (last : ConsensusResult) : DecidablePred (Agrees rulesDate last)
  | (_, .kept _) => inferInstanceAs (Decidable (_ → _))
  | (_, .flagged _) => inferInstanceAs (Decidable (_ → _))

/-- Lanes that share an id got the same from their ensembles as the last of them. -/
def SharedIdsAgree (rulesDate : Date) (settled : List Entry) : Prop :=
  ∀ entry ∈ settled, ∀ last ∈ lastWith settled entry.1.laneId, Agrees rulesDate last entry

instance (rulesDate : Date) : DecidablePred (SharedIdsAgree rulesDate) := fun settled =>
  inferInstanceAs (Decidable (∀ entry ∈ settled, ∀ last ∈ lastWith settled entry.1.laneId, Agrees rulesDate last entry))

theorem lastWith_isSome {settled : List Entry} {entry : Entry} (inside : entry ∈ settled) :
    ∃ last, lastWith settled entry.1.laneId = some last := by
  rw [← Option.isSome_iff_exists, lastWith, lastOf_isSome, keys, List.map_map]
  exact List.mem_map_of_mem (f := fun entry : Entry => entry.1.laneId) inside

theorem sharedIdsAgree_of_distinct (rulesDate : Date) {settled : List Entry}
    (distinct : (settled.map (fun entry => entry.1.laneId)).Nodup) : SharedIdsAgree rulesDate settled := by
  intro entry inside last found
  obtain ⟨other, member, same⟩ := List.mem_map.mp (mem_of_lastOf found)
  obtain ⟨sameId, rfl⟩ := Prod.mk.inj same
  obtain rfl : other = entry := List.inj_on_of_nodup_map distinct member inside sameId
  unfold Agrees
  split <;> exact fun _ => rfl

variable {env : Env} {jobId : String} {db : Db}

/-- The snapshot under a lane id after Stage 3 is that of the last lane with the id. -/
theorem find_snapshot (unscored : ∀ laneId, find (jobId, laneId) db.scores = none) (updated : NormalizedRatesheet)
    (settled : List Entry) (laneId : String) :
    find (jobId, laneId) (normalizedDb jobId updated (settled.map Prod.fst) db).scores =
      (lastWith settled laneId).map (fun consensus =>
        { confidence := Decimal.thousandths 0, ensembleVotes := .snapshot consensus consensus.votes }) := by
  simp only [normalizedDb, pushAudit_scores, pushOutbox_scores, setStatus_scores]
  rw [scoredDb_find, putOutput_scores, unscored, Option.or_none, lastWith, ← lastOf_map]
  simp [snapshots, Function.comp_def]

/-- What Stage 4 reads back under the id of a lane is what the last lane with the id got. -/
theorem read_back (unscored : ∀ laneId, find (jobId, laneId) db.scores = none) (updated : NormalizedRatesheet)
    {settled : List Entry} {laneId : String} {last : ConsensusResult} (found : lastWith settled laneId = some last) :
    find laneId ((normalizedDb jobId updated (settled.map Prod.fst) db).loadVotesByLane jobId) = some last.votes ∧
      (normalizedDb jobId updated (settled.map Prod.fst) db).loadConsensus jobId laneId = some last := by
  rw [find_loadVotesByLane, Db.loadConsensus, find_snapshot unscored, found]
  exact ⟨rfl, rfl⟩

theorem settled_laneId {services : Services} {reference : Ports.Reference} {position : Nat} {lanes : List LaneRecord}
    {settled : List Entry} (each : normalizeEach services reference position lanes = .ok settled) :
    ∀ entry ∈ settled, entry.2.laneId = entry.1.laneId := by
  intro entry inside
  obtain ⟨lane, -, -, consensusId, outcomeId⟩ := mem_right_of_forall₂ (normalizeEach_spec each) inside
  exact outcomeId.trans consensusId.symm

theorem ownVotes_iff (unscored : ∀ laneId, find (jobId, laneId) db.scores = none) (updated : NormalizedRatesheet)
    {settled : List Entry} (named : ∀ entry ∈ settled, entry.2.laneId = entry.1.laneId) :
    OwnVotes (stage4Inputs env jobId (normalizedDb jobId updated (settled.map Prod.fst) db)) settled ↔
      SharedIdsAgree env.rulesNow.date settled := by
  refine forall₂_congr (fun entry inside => ?_)
  obtain ⟨last, found⟩ := lastWith_isSome inside
  have same := named entry inside
  simp only [found, Option.mem_some_iff, forall_eq']
  rw [← same] at found
  obtain ⟨consensus, outcome⟩ := entry
  cases outcome with
  | kept lane =>
    change lastWith settled lane.laneId = some last at found
    obtain ⟨votes, -⟩ := read_back unscored updated found
    simp [Agrees, stage4Inputs, votesOf, votes]
  | flagged flag =>
    change lastWith settled flag.lane.laneId = some last at found
    obtain ⟨-, prior⟩ := read_back unscored updated found
    simp [Agrees, stage4Inputs, prior]

/-- After Stage 3 has persisted the snapshots of an extracted payload, Stage 4 uses for every
    lane what its own ensemble gave if and only if the lanes that share an id got the same. -/
theorem lanes_use_own_votes_iff (env : Env) (jobId prospectId : String) (fmt : DetectedFormat) (db : Db)
    (payload updated : NormalizedRatesheet) (results : List ConsensusResult)
    (extracted : extractPayload env jobId fmt prospectId = .ok payload)
    (unscored : ∀ laneId, find (jobId, laneId) db.scores = none)
    (normalized : normalizeOutcome env db payload = .ok (updated, results)) :
    ∃ settled, normalizeEach (env.services.stage 3) db.reference 0 payload.lanes = .ok settled ∧
      results = settled.map Prod.fst ∧ updated.lanes = settled.filterMap (fun entry => entry.2.keptLane) ∧
      updated.flaggedForReview = settled.filterMap (fun entry => entry.2.flag) ∧
      (OwnVotes (stage4Inputs env jobId (normalizedDb jobId updated results db)) settled ↔
        SharedIdsAgree env.rulesNow.date settled) := by
  obtain ⟨settled, each, lanes, flags, rfl⟩ := normalizeLanes_eq_ok normalized
  have unflagged := (extractPayload_valid env extracted).2
  rw [unflagged, List.nil_append] at flags
  exact ⟨settled, each, rfl, lanes, flags, ownVotes_iff unscored updated (settled_laneId each)⟩

/-- A lane in a reply, with this rate, from this row. -/
def twinReply (rate row : Nat) : Json :=
  .obj [("lane_id", .str "L1"), ("origin_port", .obj [("code", .str "USNYC")]),
    ("destination_port", .obj [("code", .str "CNSHA")]), ("equipment_type", .str "40HC"), ("base_rate_usd", .int rate),
    ("validity_start", .str "2027-01-01"), ("validity_end", .str "2027-12-31"),
    ("source_row_reference",
      .obj [("sheet_name", .str "Rates"), ("row_number", .int row), ("cell_reference", .str s!"A{row}")])]

/-- The reply of Stage 2. -/
def twinsReply : Json := .obj [("lanes", .arr [twinReply 100 2, twinReply 200 3])]

/-- Stage 2 replies with two lanes that share their id, and Stage 3 confirms both of them. -/
def twinEnv : Env :=
  { sampleEnv with
    services := {
      platform := asciiPlatform
        [(twinsReply.render "", twinsReply), ((twinReply 100 2).render "", twinReply 100 2),
          ((twinReply 200 3).render "", twinReply 200 3)]
        sampleDigest sampleDigest_length
      client := fun _ => .ok ()
      generate := fun _ place =>
        match place with
        | 2 :: _ => .ok { text := some (twinsReply.render ""), candidates := [] }
        | 3 :: 0 :: _ => .ok { text := some ((twinReply 100 2).render ""), candidates := [] }
        | _ => .ok { text := some ((twinReply 200 3).render ""), candidates := [] }
      expires := fun _ => false }
    workbook := .ok [.ok ⟨"Rates", 1, 1, "A1", .primitive (.text "Lane")⟩] }

def twinPayload : NormalizedRatesheet :=
  { sampleSheet [sampleLane 100 none, { sampleLane 200 none with sourceRowReference := ⟨"Rates", 3, "A3"⟩ }] [] with
    extractionMetadata := ⟨"gemini-3.1-flash-lite", sampleNow, "stage2.excel.v2", 1⟩ }

theorem twinPayload_extracted : extractPayload twinEnv "j1" .excel "acme" = .ok twinPayload := by decide +kernel

/-- Both lanes are settled, and the votes of the first are not those of the last under its id. -/
theorem twinLanes_settled :
    ∃ settled, normalizeEach (twinEnv.services.stage 3) pendingDb.reference 0 twinPayload.lanes = .ok settled ∧
      ¬ SharedIdsAgree twinEnv.rulesNow.date settled := by
  have disagree : (normalizeEach (twinEnv.services.stage 3) pendingDb.reference 0 twinPayload.lanes).toOption.map
      (fun settled => decide (SharedIdsAgree twinEnv.rulesNow.date settled)) = some false := by decide +kernel
  obtain ⟨settled, each, apart⟩ := eq_ok_of_toOption_map disagree
  exact ⟨settled, each, of_decide_eq_false apart⟩

theorem twinPayload_normalized :
    ∃ updated results, normalizeOutcome twinEnv pendingDb twinPayload = .ok (updated, results) := by
  obtain ⟨settled, each, -⟩ := twinLanes_settled
  exact ⟨_, settled.map Prod.fst, normalizeLanes_ok rfl each⟩

theorem lanes_use_own_votes_iff_twins :
    ∃ updated results settled,
      normalizeEach (twinEnv.services.stage 3) pendingDb.reference 0 twinPayload.lanes = .ok settled ∧
      results = settled.map Prod.fst ∧ updated.lanes = settled.filterMap (fun entry => entry.2.keptLane) ∧
      updated.flaggedForReview = settled.filterMap (fun entry => entry.2.flag) ∧
      (OwnVotes (stage4Inputs twinEnv "j1" (normalizedDb "j1" updated results pendingDb)) settled ↔
        SharedIdsAgree twinEnv.rulesNow.date settled) := by
  obtain ⟨updated, results, normalized⟩ := twinPayload_normalized
  exact ⟨updated, results, lanes_use_own_votes_iff twinEnv "j1" "acme" .excel pendingDb twinPayload updated results
    twinPayload_extracted (fun _ => rfl) normalized⟩

/-- Of two lanes that share an id, the first is scored on the votes of the second. -/
theorem twin_uses_votes_of_other_lane :
    ¬ ∀ (env : Env) (jobId prospectId : String) (fmt : DetectedFormat) (db : Db) (payload updated : NormalizedRatesheet)
      (settled : List Entry), extractPayload env jobId fmt prospectId = .ok payload →
        (∀ laneId, find (jobId, laneId) db.scores = none) →
        normalizeOutcome env db payload = .ok (updated, settled.map Prod.fst) →
        normalizeEach (env.services.stage 3) db.reference 0 payload.lanes = .ok settled →
        OwnVotes (stage4Inputs env jobId (normalizedDb jobId updated (settled.map Prod.fst) db)) settled := by
  intro always
  obtain ⟨updated, results, normalized⟩ := twinPayload_normalized
  obtain ⟨settled, each, -, -, rfl⟩ := normalizeLanes_eq_ok normalized
  have own := always twinEnv "j1" "acme" .excel pendingDb twinPayload updated settled twinPayload_extracted
    (fun _ => rfl) normalized each
  have named : ∀ entry ∈ settled, entry.2.laneId = entry.1.laneId := settled_laneId each
  have agree := (ownVotes_iff (fun _ => rfl) updated named).mp own
  obtain ⟨settled', each', disagree⟩ := twinLanes_settled
  cases each.symm.trans each'
  exact disagree agree

end Onramp.LaneVotes
