import Mathlib.Data.List.Infix
import Onramp.Settlement

/-!
The transactional outbox over a whole run of the chain: wherever an exception strikes,
every committed state consists of whole blocks, the events of a result are in the outbox
exactly when the job is completed, and a recorded failure of the validation leaves the
rows of the normalization as they were.
-/
namespace Onramp.TransactionalOutbox
open Onramp.Python
open Onramp.Models
open Onramp.Database
open Onramp.Tasks
open Onramp.Journey
open Onramp.Library.Keyed (find)
open Onramp.Library.Atomic
open Onramp.Settlement (pendingDb pendingDb_fresh pricatEnv uncalibratedEnv stagedTrace)

variable {env : Env} {jobId : String} {db : Db}

/-- The number of events of the job for which `select` holds. -/
def eventCount (jobId : String) (select : OutboxEventType × Payload → Bool) (db : Db) : Nat :=
  (eventsOf jobId db).countP select

/-- The events of a type. -/
def ofType (eventType : OutboxEventType) (event : OutboxEventType × Payload) : Bool := event.1 = eventType

/-- The audit events of a stage. -/
def auditOfStage (stage : Stage) (event : OutboxEventType × Payload) : Bool :=
  event.1 = .auditLog ∧ event.2.stage = some stage

/-- Exactly one event of each kind that a result consists of. -/
def OneOfEach (jobId : String) (db : Db) : Prop :=
  eventCount jobId (ofType .slackPost) db = 1 ∧ eventCount jobId (ofType .uploadResult) db = 1 ∧
    eventCount jobId (auditOfStage .validated) db = 1

/-- The failure of the validation is on record, in the outbox or in the audit log. -/
def ValidateFailed (jobId : String) (db : Db) : Prop :=
  (∃ event ∈ eventsOf jobId db, auditOfStage .validateFailed event = true) ∨
    ∃ row ∈ auditOf jobId db, row.1 = .validateFailed

/-- Events that a block enqueues once when it completes the job, and never otherwise, are
    there once when the job is completed, and not at all before. -/
theorem count_events {select : OutboxEventType × Payload → Bool}
    (perBlock : ∀ block : Block, (block.events env jobId).countP select = if block.target = .completed then 1 else 0)
    {done : List Block} {status : JobStatusLiteral} (order : Order done status) :
    (done.reverse.flatMap (Block.events env jobId)).countP select = if status = .completed then 1 else 0 := by
  induction order with
  | start => rfl
  | @next done status' block before source ih =>
    have unfinished : status' ≠ .completed := by
      rw [← source]
      cases block with
      | failed task exc => cases task <;> simp [Block.source, Recorder.status]
      | _ => simp [Block.source]
    simp [ih, unfinished, perBlock]

theorem eventCount_replay (fresh : Fresh jobId db) {select : OutboxEventType × Payload → Bool}
    (perBlock : ∀ block : Block, (block.events env jobId).countP select = if block.target = .completed then 1 else 0)
    (notIngress : ∀ event : OutboxEventType × Payload, event.1 = .auditLog → event.2.stage = some .ingressReceived →
      select event = false)
    {done : List Block} {status : JobStatusLiteral} (order : Order done status) :
    eventCount jobId select (replay env jobId done db) = if status = .completed then 1 else 0 := by
  have before : (eventsOf jobId db).countP select = 0 := by
    rw [List.countP_eq_zero]
    intro event inside
    obtain ⟨type, stage⟩ := fresh.events event inside
    simp [notIngress event type stage]
  rw [eventCount, (replay_written env fresh done).events, List.countP_append, before, count_events perBlock order]
  simp

theorem slackPost_replay (fresh : Fresh jobId db) {done : List Block} {status : JobStatusLiteral}
    (order : Order done status) :
    eventCount jobId (ofType .slackPost) (replay env jobId done db) = if status = .completed then 1 else 0 := by
  refine eventCount_replay fresh (fun block => ?_) (fun event type _ => by simp [ofType, type]) order
  cases block <;> rfl

theorem uploadResult_replay (fresh : Fresh jobId db) {done : List Block} {status : JobStatusLiteral}
    (order : Order done status) :
    eventCount jobId (ofType .uploadResult) (replay env jobId done db) = if status = .completed then 1 else 0 := by
  refine eventCount_replay fresh (fun block => ?_) (fun event type _ => by simp [ofType, type]) order
  cases block <;> rfl

theorem validated_replay (fresh : Fresh jobId db) {done : List Block} {status : JobStatusLiteral}
    (order : Order done status) :
    eventCount jobId (auditOfStage .validated) (replay env jobId done db) = if status = .completed then 1 else 0 := by
  refine eventCount_replay fresh (fun block => ?_) (fun event _ stage => by simp [auditOfStage, stage]) order
  cases block with
  | failed task exc => cases task <;> rfl
  | _ => rfl

/-- The record of a failed validation is that of the newest block, on top of the
    normalization. -/
theorem validateFailed_replay (fresh : Fresh jobId db) {done : List Block} {status : JobStatusLiteral}
    (order : Order done status) (recorded : ValidateFailed jobId (replay env jobId done db)) :
    ∃ exc rest, done = .failed .validate exc :: rest ∧ Order rest .validating := by
  have written := replay_written env fresh done
  have named : ∃ exc, Block.failed .validate exc ∈ done := by
    rcases recorded with ⟨event, inside, names⟩ | ⟨row, inside, names⟩
    · rw [written.events, List.mem_append] at inside
      rcases inside with before | later
      · obtain ⟨-, ingress⟩ := fresh.events event before
        simp [auditOfStage, ingress] at names
      · obtain ⟨block, member, enqueued⟩ := List.mem_flatMap.mp later
        rw [List.mem_reverse] at member
        cases block with
        | failed task exc =>
          rw [List.mem_singleton.mp enqueued] at names
          cases task with
          | validate => exact ⟨exc, member⟩
          | _ => cases names
        | validated result slack =>
          rcases List.mem_cons.mp enqueued with rfl | enqueued
          · cases names
          · rcases List.mem_pair.mp enqueued with rfl | rfl <;> cases names
        | extracted payload => rw [List.mem_singleton.mp enqueued] at names; cases names
        | normalized updated results => rw [List.mem_singleton.mp enqueued] at names; cases names
        | _ => cases enqueued
    · rw [written.audit] at inside
      obtain ⟨block, member, added⟩ := List.mem_flatMap.mp inside
      rw [List.mem_reverse] at member
      cases block with
      | failed task exc =>
        rw [List.mem_singleton.mp added] at names
        cases task with
        | validate => exact ⟨exc, member⟩
        | _ => cases names
      | unsupported => cases added
      | _ => rw [List.mem_singleton.mp added] at names; cases names
  obtain ⟨exc, member⟩ := named
  obtain ⟨rest, rfl⟩ := order.failed_last member rfl
  exact ⟨exc, rest, rfl, order.tail.2⟩

/-- The rows that the failed validation leaves are those of the normalization, and nothing
    of a result is in the outbox. -/
structure LeftByNormalize (jobId : String) (normalized db : Db) : Prop where
  status : normalized.status jobId = some .validating
  output : find jobId db.outputs = find jobId normalized.outputs
  score : ∀ laneId, find (jobId, laneId) db.scores = find (jobId, laneId) normalized.scores
  slackPost : eventCount jobId (ofType .slackPost) db = 0
  uploadResult : eventCount jobId (ofType .uploadResult) db = 0

/-- Wherever exceptions strike a run of the chain of a fresh job, every committed state has
    the rows of whole blocks in the order of the status machine, all of the rows of each of
    them and no others; the job is completed exactly when there is one event of each kind
    of a result; and when a failure of the validation is on record, the rows are those that
    a committed state of the normalization left. -/
theorem chain_commits_whole_blocks (env : Env) (jobId : String) (db : Db) (faults : List (Option PyExc))
    (fresh : Fresh jobId db) :
    ∀ reached ∈ (chain env jobId ⟨⟨db, []⟩, faults⟩).2.trace.states,
      (∃ done status, Order done status ∧ reached.status jobId = some status ∧ Written env jobId db done reached) ∧
      (reached.status jobId = some .completed ↔ OneOfEach jobId reached) ∧
      (ValidateFailed jobId reached →
        ∃ normalized ∈ (chain env jobId ⟨⟨db, []⟩, faults⟩).2.trace.states, LeftByNormalize jobId normalized reached) := by
  obtain ⟨job, found⟩ := Option.isSome_iff_exists.mp fresh.hasJob
  have ended : Ends env jobId db (fun _ => True) job (chain env jobId ⟨⟨db, []⟩, faults⟩).2.trace :=
    chain_trace_ends env fresh found (fun _ _ => trivial)
  obtain ⟨all, ending, trace⟩ := ended
  obtain ⟨last, whole⟩ := ending.order
  rw [trace, traceOf_states]
  intro reached inside
  obtain ⟨done, before, rfl⟩ := List.mem_map.mp inside
  obtain ⟨status, order⟩ := whole.suffix ((List.mem_tails _ _).mp before)
  have current := replay_status env fresh order
  refine ⟨⟨done, status, order, current, replay_written env fresh done⟩, ?_, ?_⟩
  · rw [OneOfEach, slackPost_replay fresh order, uploadResult_replay fresh order, validated_replay fresh order, current]
    by_cases finished : status = .completed <;> simp [finished]
  · intro recorded
    obtain ⟨exc, rest, rfl, validating⟩ := validateFailed_replay fresh order recorded
    have failed : status ≠ .completed := by
      rw [order.tail.1]
      simp [Block.target]
    refine ⟨replay env jobId rest db, List.mem_map.mpr ⟨rest, ?_, rfl⟩, ?_⟩
    · rw [List.mem_tails] at before ⊢
      exact (List.suffix_cons _ _).trans before
    · have kept := replay_written env fresh (.failed .validate exc :: rest)
      have left := replay_written env fresh rest
      refine ⟨replay_status env fresh validating, ?_, fun laneId => ?_, ?_, ?_⟩
      · rw [kept.output, left.output]
        rfl
      · rw [kept.score, left.score]
        rfl
      · rw [slackPost_replay fresh order, if_neg failed]
      · rw [uploadResult_replay fresh order, if_neg failed]

theorem message_completed : (stagedTrace pricatEnv).committed.status "j1" = some .completed := by decide +kernel

theorem message_recorded : ValidateFailed "j1" (stagedTrace uncalibratedEnv).committed := by
  have recorded : (eventsOf "j1" (stagedTrace uncalibratedEnv).committed).any (auditOfStage .validateFailed) = true := by
    decide +kernel
  exact .inl (List.any_eq_true.mp recorded)

/-- The chain for a message completes, and fails on record where Stage 4 cannot be calibrated. -/
theorem chain_commits_whole_blocks_message :
    (stagedTrace pricatEnv).committed.status "j1" = some .completed ∧
      ValidateFailed "j1" (stagedTrace uncalibratedEnv).committed ∧
      ∀ env ∈ [pricatEnv, uncalibratedEnv],
        (∃ done status, Order done status ∧ (stagedTrace env).committed.status "j1" = some status ∧
          Written env "j1" pendingDb done (stagedTrace env).committed) ∧
        ((stagedTrace env).committed.status "j1" = some .completed ↔ OneOfEach "j1" (stagedTrace env).committed) ∧
        (ValidateFailed "j1" (stagedTrace env).committed →
          ∃ normalized ∈ (stagedTrace env).states, LeftByNormalize "j1" normalized (stagedTrace env).committed) :=
  ⟨message_completed, message_recorded, fun env _ => chain_commits_whole_blocks env "j1" pendingDb [] pendingDb_fresh
    (stagedTrace env).committed List.mem_cons_self⟩

end Onramp.TransactionalOutbox
