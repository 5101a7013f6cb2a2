import Onramp.AuditTrail

/-!
The stored output of a job. Lanes, ports, dates and flags are replaced without validation on
the way, but every ratesheet that a task writes meets the schema, so that the next one can
load it, and the counts of the row are those of its payload.
-/
namespace Onramp.StoredOutput
open Onramp.Library.Keyed (Table find upsert find_upsert_self find_upsert_other)
open Onramp.Library.Atomic
open Onramp.Python
open Onramp.Models
open Onramp.Vertex
open Onramp.Ports
open Onramp.Normalizer
open Onramp.Stage4
open Onramp.Database
open Onramp.Tasks
open Onramp.TaskSpecs
open Onramp.Journey
open Onramp.AuditTrail
open Onramp.LaneAccounting (survivingFlags_sublist sampleSheet sampleLane)
open Onramp.Settlement (pendingDb pricatEnv)

/-- Whatever a lane becomes in Stage 3 meets the schema of a lane. -/
theorem settleLane_valid {services : Services} {reference : Reference} {lane : LaneRecord} {consensus : ConsensusResult}
    {outcome : LaneOutcome} (laneValid : lane.Valid) (consensusValid : consensus.Valid)
    (settled : settleLane services reference lane consensus = .ok outcome) :
    (∀ kept ∈ outcome.keptLane, kept.Valid) ∧ ∀ flag ∈ outcome.flag, flag.Valid := by
  cases settleLane_settles settled with
  | noMajority => exact ⟨by rintro _ ⟨⟩, by rintro _ ⟨⟩; exact laneValid⟩
  | resolved selected originRead destinationRead originFound destinationFound =>
    have chosenValid := consensusValid.2.2 _ selected
    refine ⟨?_, by rintro _ ⟨⟩⟩
    rintro _ ⟨⟩
    -- The copy takes ports that were validated on their own.
    exact { chosenValid with
      originPort := resolvePortCode_valid _ _ originRead originFound
      destinationPort := resolvePortCode_valid _ _ destinationRead destinationFound }
  | passed selected => exact ⟨by rintro _ ⟨⟩; exact consensusValid.2.2 _ selected, by rintro _ ⟨⟩⟩
  | obfuscated selected => exact ⟨by rintro _ ⟨⟩, by rintro _ ⟨⟩; exact consensusValid.2.2 _ selected⟩

theorem normalizeEach_valid {services : Services} {reference : Reference} {position : Nat} {lanes : List LaneRecord}
    {settled : List (ConsensusResult × LaneOutcome)} (lanesValid : ∀ lane ∈ lanes, lane.Valid)
    (returned : normalizeEach services reference position lanes = .ok settled) :
    ∀ entry ∈ settled, (∀ kept ∈ entry.2.keptLane, kept.Valid) ∧ ∀ flag ∈ entry.2.flag, flag.Valid := by
  induction lanes generalizing position settled with
  | nil =>
    cases returned
    simp
  | cons lane rest ih =>
    obtain ⟨consensus, outcome, others, voted, moved, later, rfl⟩ := normalizeEach_cons returned
    obtain ⟨laneValid, restValid⟩ := List.forall_mem_cons.mp lanesValid
    exact List.forall_mem_cons.mpr
      ⟨settleLane_valid laneValid (ensembleForLane_spec voted).1 moved, ih restValid later⟩

theorem normalizeLanes_valid {services : Services} {reference : Reference} {now : DateTime}
    {extraction updated : NormalizedRatesheet} {results : List ConsensusResult} (valid : extraction.Valid)
    (returned : normalizeLanes services reference now extraction = .ok (updated, results)) : updated.Valid := by
  obtain ⟨settled, each, -, -, -⟩ := normalizeLanes_eq_ok returned
  have entries := normalizeEach_valid valid.lanes each
  unfold normalizeLanes at returned
  simp only [bind_eq_ok, pure_eq_ok, each, Except.ok.injEq, Prod.mk.injEq] at returned
  obtain ⟨_, -, _, rfl, rfl, -⟩ := returned
  exact { valid with
    lanes := by
      intro kept inside
      obtain ⟨entry, among, keeps⟩ := List.mem_filterMap.mp inside
      exact (entries entry among).1 kept keeps
    flaggedForReview := by
      intro flag inside
      rcases List.mem_append.mp inside with old | new
      · exact valid.flaggedForReview flag old
      · obtain ⟨entry, among, flags⟩ := List.mem_filterMap.mp new
        exact (entries entry among).2 flag flags }

/-- The source row of a rejection is that of its lane. -/
theorem rejected_row {lanes : List LaneRecord} {rejected : List RejectionRecord} {record : RejectionRecord}
    (identities : rejected.map Rules.recordIdentity = lanes.map Rules.laneIdentity)
    (rows : ∀ lane ∈ lanes, lane.sourceRowReference.Valid) (inside : record ∈ rejected) : record.sourceRowReference.Valid := by
  have named : Rules.recordIdentity record ∈ rejected.map Rules.recordIdentity := List.mem_map_of_mem inside
  rw [identities] at named
  obtain ⟨lane, among, same⟩ := List.mem_map.mp named
  have row : lane.sourceRowReference = record.sourceRowReference := congrArg Prod.snd same
  exact row ▸ rows lane among

theorem validateSheet_valid {inputs : Inputs} {normalized : NormalizedRatesheet} {result : Validated}
    (valid : normalized.Valid) (returned : validateSheet inputs normalized = .ok result) : result.sheet.Valid := by
  obtain ⟨rejected, carriersRejected, calibration, scored, outcomes, sheet, identities, carrierIdentities, fits, -, scores,
    corrected⟩ := validateSheet_spec returned
  obtain ⟨scoredLanes, -⟩ := scoreLanes_spec scores
  obtain ⟨triedFlags, -⟩ := correctFlags_spec corrected
  have kept : ∀ lane ∈ normalized.lanes.filter (Rules.passes inputs.rulesDate), lane.Valid := fun lane inside =>
    valid.lanes lane (List.mem_of_mem_filter inside)
  rw [sheet]
  exact { valid with
    lanes := kept
    flaggedForReview := by
      intro flag inside
      rcases List.mem_append.mp inside with survives | low
      · have tried : flag ∈ outcomes.map Prod.fst := (survivingFlags_sublist outcomes).subset survives
        rw [triedFlags] at tried
        exact valid.flaggedForReview flag tried
      · obtain ⟨entry, among, rfl⟩ := List.mem_map.mp low
        have listed : entry.1 ∈ scored.map Prod.fst := List.mem_map_of_mem (List.mem_of_mem_filter among)
        rw [scoredLanes] at listed
        exact kept entry.1 (List.mem_of_mem_filter listed)
    deterministicallyRejected := by
      intro record inside
      rw [List.append_assoc] at inside
      rcases List.mem_append.mp inside with old | new
      · exact valid.deterministicallyRejected record old
      · obtain ⟨laneId, ruleId, description⟩ := fits record new
        refine ⟨?_, laneId, ruleId, description⟩
        rcases List.mem_append.mp new with real | synthetic
        · refine rejected_row identities (fun lane inside => ?_) real
          exact (valid.lanes lane (List.mem_of_mem_filter inside)).sourceRowReference
        · refine rejected_row carrierIdentities (fun lane inside => ?_) synthetic
          obtain ⟨violator, among, rfl⟩ := List.mem_map.mp (List.mem_of_mem_filter inside)
          exact (valid.shapeViolatingLanes violator among).2.2.2 }

/-- `get_output` returns what meets the schema only. -/
theorem getOutput_valid {db : Db} {jobId : String} {stored : NormalizedRatesheet}
    (loaded : db.getOutput jobId = .ok (some stored)) : stored.Valid := by
  unfold Db.getOutput at loaded
  split at loaded
  · cases loaded
  · simp only [bind_eq_ok, pure_eq_ok, Option.some.injEq] at loaded
    obtain ⟨payload, checkedPayload, rfl⟩ := loaded
    obtain ⟨valid, rfl⟩ := checked_eq_ok.mp checkedPayload
    exact valid

theorem validateOutcome_valid {env : Env} {jobId : String} {db : Db} {result : Validated} {slack : Payload}
    (outcome : validateOutcome env jobId db = .ok (result, slack)) : result.sheet.Valid := by
  obtain ⟨normalized, stored, validated⟩ := validateOutcome_spec env jobId outcome
  exact validateSheet_valid (getOutput_valid stored) validated

/-- Every ratesheet that a body offers to write meets the schema. -/
theorem offers_valid {env : Env} {jobId : String} {allowed : PyExc → Prop} {db : Db} {body : Body} {block : Block}
    {sheet : NormalizedRatesheet} (offered : Offers env jobId allowed db body block) (writes : block.output = some sheet) :
    sheet.Valid := by
  cases offered with
  | extracted _ _ outcome _ =>
    cases writes
    exact (extractPayload_valid env outcome).1
  | normalized stored outcome =>
    cases writes
    exact normalizeLanes_valid (getOutput_valid stored) outcome
  | validated outcome =>
    cases writes
    exact validateOutcome_valid outcome
  | _ => cases writes

/-- Every output row has the counts of its payload, and `get_output` loads the payload of the row. -/
structure SelfConsistent (db : Db) : Prop where
  counts : ∀ jobId row, find jobId db.outputs = some row →
    row.laneCount = row.normalizedPayload.lanes.length ∧
      row.flaggedCount = row.normalizedPayload.flaggedForReview.length ∧
      row.rejectedCount = row.normalizedPayload.deterministicallyRejected.length
  loads : ∀ jobId row, find jobId db.outputs = some row → db.getOutput jobId = .ok (some row.normalizedPayload)

/-- The execution computes a ratesheet on the database before and stores it: `get_output` returns it after. -/
def Writes (invocation : Invocation) (before after : Db) : Prop :=
  ∃ block sheet, Offers invocation.env invocation.jobId invocation.strikes before invocation.body block ∧
    block.output = some sheet ∧ after.outputs = upsert invocation.jobId (outputRow sheet) before.outputs ∧
    after.getOutput invocation.jobId = .ok (some sheet)

theorem getOutput_eq {db : Db} {jobId : String} {row : OnrampOutput} (stored : find jobId db.outputs = some row)
    (valid : row.normalizedPayload.Valid) : db.getOutput jobId = .ok (some row.normalizedPayload) := by
  unfold Db.getOutput
  rw [stored]
  simp [checked_of_valid valid, bind, Except.bind, pure, Except.pure]

theorem block_outputs (env : Env) (jobId : String) (db : Db) (block : Block) :
    (block.apply env jobId db).outputs =
      (block.output.map (fun sheet => upsert jobId (outputRow sheet) db.outputs)).getD db.outputs := by
  cases block <;>
    simp [Block.apply, Block.output, Blocks.classifiedDb, Blocks.extractedDb, Blocks.normalizedDb, Blocks.validatedDb,
      Blocks.failureDb, putOutput]

/-- A committed block leaves the outputs alone, or stores a ratesheet that the execution computed. -/
theorem committed_writes {invocation : Invocation} {db : Db} {block : Block}
    (offered : Offers invocation.env invocation.jobId invocation.strikes db invocation.body block) :
    (block.apply invocation.env invocation.jobId db).outputs = db.outputs ∨
      Writes invocation db (block.apply invocation.env invocation.jobId db) := by
  have outputs := block_outputs invocation.env invocation.jobId db block
  cases writes : block.output with
  | none =>
    rw [writes] at outputs
    exact .inl outputs
  | some sheet =>
    rw [writes] at outputs
    have stored : find invocation.jobId (block.apply invocation.env invocation.jobId db).outputs = some (outputRow sheet) := by
      rw [outputs]
      exact find_upsert_self _ _ _
    exact .inr ⟨block, sheet, offered, writes, outputs, getOutput_eq stored (offers_valid offered writes)⟩

theorem SelfConsistent.of_outputs {db after : Db} (consistent : SelfConsistent db) (same : after.outputs = db.outputs) :
    SelfConsistent after := by
  have loadsSame : ∀ jobId, after.getOutput jobId = db.getOutput jobId := fun jobId => by simp only [Db.getOutput, same]
  constructor
  · intro jobId row stored
    exact consistent.counts jobId row (same ▸ stored)
  · intro jobId row stored
    rw [loadsSame]
    exact consistent.loads jobId row (same ▸ stored)

/-- The step: one write keeps every row consistent. -/
theorem SelfConsistent.write {invocation : Invocation} {db after : Db} (consistent : SelfConsistent db)
    (writes : Writes invocation db after) : SelfConsistent after := by
  obtain ⟨block, sheet, offered, -, outputs, loaded⟩ := writes
  have own : find invocation.jobId after.outputs = some (outputRow sheet) := by
    rw [outputs]
    exact find_upsert_self _ _ _
  have other : ∀ jobId, jobId ≠ invocation.jobId → find jobId after.outputs = find jobId db.outputs := by
    intro jobId differs
    rw [outputs]
    exact find_upsert_other differs _ _
  constructor
  · intro jobId row stored
    by_cases same : jobId = invocation.jobId
    · subst same
      rw [own] at stored
      cases stored
      exact ⟨rfl, rfl, rfl⟩
    · rw [other jobId same] at stored
      exact consistent.counts jobId row stored
  · intro jobId row stored
    by_cases same : jobId = invocation.jobId
    · subst same
      rw [own] at stored
      cases stored
      exact loaded
    · rw [other jobId same] at stored
      have before := consistent.loads jobId row stored
      unfold Db.getOutput at before ⊢
      rw [other jobId same]
      exact before

/-- What holds of the states of a run. -/
def Kept (invocations : List Invocation) (t : Trace Db) : Prop :=
  (∀ db ∈ t.states, SelfConsistent db) ∧
    t.states.IsChain (fun after before => after.outputs = before.outputs ∨ ∃ invocation ∈ invocations, Writes invocation before after)

theorem perform_kept {invocations : List Invocation} {t : Trace Db} (kept : Kept invocations t) {invocation : Invocation}
    (listed : invocation ∈ invocations) : Kept invocations (invocation.perform t) := by
  have extended := perform_extends t invocation
  generalize invocation.perform t = after at extended ⊢
  cases extended with
  | stays => exact kept
  | @commits block offered =>
    have current := kept.1 t.committed List.mem_cons_self
    have step := committed_writes offered
    unfold Kept
    rw [Trace.commit_states]
    refine ⟨List.forall_mem_cons.mpr ⟨?_, kept.1⟩, List.IsChain.cons_cons ?_ kept.2⟩
    · rcases step with same | writes
      · exact current.of_outputs same
      · exact current.write writes
    · exact step.imp_right fun writes => ⟨invocation, listed, writes⟩

/-- In every run of the tasks, whatever strikes them, every output row in every committed state has the counts of its
    payload and loads as the ratesheet that was written. -/
theorem stored_output_consistent (db : Db) (invocations : List Invocation) (start : SelfConsistent db) :
    Kept invocations (performAll db invocations) := by
  have initial : Kept invocations ⟨db, []⟩ := by
    refine ⟨?_, List.IsChain.singleton db⟩
    intro reached inside
    rw [List.mem_singleton.mp inside]
    exact start
  have run : ∀ (rest : List Invocation) (t : Trace Db), (∀ invocation ∈ rest, invocation ∈ invocations) →
      Kept invocations t → Kept invocations (rest.foldl Invocation.perform t) := by
    intro rest
    induction rest with
    | nil => exact fun t _ kept => kept
    | cons invocation rest ih =>
      intro t listed kept
      obtain ⟨here, later⟩ := List.forall_mem_cons.mp listed
      exact ih _ later (perform_kept kept here)
  exact run invocations _ (fun _ inside => inside) initial

theorem pendingDb_consistent : SelfConsistent pendingDb := ⟨by rintro jobId row ⟨⟩, by rintro jobId row ⟨⟩⟩

/-- The job is pending, and the output of another job is stored. -/
def storedDb : Db := { pendingDb with outputs := [("j0", outputRow (sampleSheet [sampleLane 100 none] []))] }

theorem storedDb_consistent : SelfConsistent storedDb := by
  have only : ∀ jobId row, find jobId storedDb.outputs = some row → row = outputRow (sampleSheet [sampleLane 100 none] []) := by
    intro jobId row stored
    have listed := Library.Keyed.mem_of_find stored
    rw [storedDb, List.mem_singleton, Prod.mk.injEq] at listed
    exact listed.2
  constructor
  · intro jobId row stored
    rw [only jobId row stored]
    exact ⟨rfl, rfl, rfl⟩
  · intro jobId row stored
    refine getOutput_eq stored ?_
    rw [only jobId row stored]
    decide +kernel

/-- The four tasks for a message with one lane. -/
def messageRun : List Invocation :=
  [.classify, .extract .edifact, .normalize, .validate].map fun body => ⟨pricatEnv, "j1", body, []⟩

/-- The run stores its ratesheet beside the other one. -/
theorem stored_output_consistent_message :
    (performAll storedDb messageRun).committed.outputs.map (fun entry =>
        (entry.1, entry.2.laneCount, entry.2.flaggedCount, entry.2.rejectedCount)) = [("j0", 1, 0, 0), ("j1", 1, 0, 0)] ∧
      Kept messageRun (performAll storedDb messageRun) :=
  ⟨by decide +kernel, stored_output_consistent storedDb messageRun storedDb_consistent⟩

end Onramp.StoredOutput
