import Onramp.AuditTrail
import Onramp.Dispatcher
import Onramp.Intake

/-!
Everything that writes to the tables next to a route: the blocks of the chain, the submissions, the
events of other routes, and the dispatcher. What the outbox tells of a subject is what its rows say
of it in their order, which no writer changes that is silent on the subject.
-/
namespace Onramp.Writers
open Onramp.Python
open Onramp.Models
open Onramp.Database
open Onramp.Tasks (Env)
open Onramp.Journey (Block)

/-- `t <= u`. -/
def notAfter (t u : DateTime) : Bool := !u.before t

/-- `ORDER BY` a column of times. -/
def oldestFirst {α : Type} (time : α → DateTime) (rows : List α) : List α :=
  rows.mergeSort (fun row row' => notAfter (time row) (time row'))

theorem date_before_iff (d d' : Date) : d.before d' = true ↔
    d.year < d'.year ∨ d.year = d'.year ∧ (d.month < d'.month ∨ d.month = d'.month ∧ d.day < d'.day) := by
  simp [Date.before]

theorem before_iff (t u : DateTime) : t.before u = true ↔
    t.date.before u.date = true ∨ (t.date.year = u.date.year ∧ t.date.month = u.date.month ∧ t.date.day = u.date.day) ∧
      t.micros < u.micros := by
  obtain ⟨⟨y, m, d⟩, n⟩ := t
  obtain ⟨⟨y', m', d'⟩, n'⟩ := u
  simp [DateTime.before]

theorem notAfter_trans {t u v : DateTime} (first : notAfter t u = true) (second : notAfter u v = true) :
    notAfter t v = true := by
  simp only [notAfter, Bool.not_eq_true', Bool.eq_false_iff, ne_eq, before_iff, date_before_iff] at first second ⊢
  omega

theorem notAfter_total (t u : DateTime) : notAfter t u = true ∨ notAfter u t = true := by
  simp only [notAfter, Bool.not_eq_true', Bool.eq_false_iff, ne_eq, before_iff, date_before_iff]
  omega

theorem oldestFirst_perm {α : Type} (time : α → DateTime) (rows : List α) : (oldestFirst time rows).Perm rows :=
  List.mergeSort_perm _ _

theorem oldestFirst_sorted {α : Type} (time : α → DateTime) (rows : List α) :
    (oldestFirst time rows).Pairwise (fun row row' => notAfter (time row) (time row') = true) := by
  have trans : ∀ a b c : α, notAfter (time a) (time b) = true → notAfter (time b) (time c) = true →
      notAfter (time a) (time c) = true := fun a b c first second => notAfter_trans first second
  have total : ∀ a b : α, (notAfter (time a) (time b) || notAfter (time b) (time a)) = true := by
    intro a b
    rw [Bool.or_eq_true]
    exact notAfter_total _ _
  exact List.pairwise_mergeSort trans total rows

/-- A block of the chain, a submission, an event of a route, and what the dispatcher notes. -/
inductive Writer
  | chain (env : Env) (jobId : String) (block : Block)
  | submission (job : OnrampJob)
  | event (jobId : String) (eventType : OutboxEventType) (payload : Payload)
  | delivered (outboxId : Nat) (deliveredAt : Instant)
  | failed (outboxId attempts : Nat) (nextRetryAt : Option Instant)

/-- What the writer makes of the database. -/
def Writer.apply : Writer → Db → Db
  | .chain env jobId block, db => if db.hasJob jobId then block.apply env jobId db else db
  | .submission job, db =>
    match Intake.insertJobIfNew job db with
    | .ok (after, _, _) => after
    | .error _ => db
  | .event jobId eventType payload, db => if db.hasJob jobId then pushOutbox jobId eventType payload db else db
  | .delivered outboxId deliveredAt, db => Dispatcher.updateOutbox outboxId (Dispatcher.markDelivered deliveredAt) db
  | .failed outboxId attempts nextRetryAt, db => Dispatcher.updateOutbox outboxId (Dispatcher.markFailed attempts nextRetryAt) db

variable {β : Type} (meaning : String → OutboxEventType → Payload → Option β)

/-- What the rows of the outbox say of a subject. -/
def told (db : Db) : List β := db.outbox.filterMap fun row => meaning row.jobId row.eventType row.payload

@[simp] theorem told_setStatus (jobId : String) (status : JobStatusLiteral) (completedAt : Option DateTime) (db : Db) :
    told meaning (setStatus jobId status completedAt db) = told meaning db := rfl

@[simp] theorem told_putOutput (jobId : String) (payload : NormalizedRatesheet) (db : Db) :
    told meaning (putOutput jobId payload db) = told meaning db := rfl

@[simp] theorem told_pushAudit (jobId : String) (action : Stage) (payload : Payload) (db : Db) :
    told meaning (pushAudit jobId action payload db) = told meaning db := rfl

@[simp] theorem told_scoredDb (jobId : String) (entries : List (String × OnrampConformalScore)) (db : Db) :
    told meaning (Blocks.scoredDb jobId entries db) = told meaning db := by
  simp [told]

@[simp] theorem told_pushOutbox (jobId : String) (eventType : OutboxEventType) (payload : Payload) (db : Db) :
    told meaning (pushOutbox jobId eventType payload db) = told meaning db ++ (meaning jobId eventType payload).toList := by
  simp only [told, pushOutbox, outboxRow, List.filterMap_append, List.filterMap_cons, List.filterMap_nil]
  cases meaning jobId eventType payload <;> rfl

theorem told_updateOutbox (outboxId : Nat) {values : OnrampOutbox → OnrampOutbox}
    (same : ∀ row, (values row).jobId = row.jobId ∧ (values row).eventType = row.eventType ∧ (values row).payload = row.payload)
    (db : Db) : told meaning (Dispatcher.updateOutbox outboxId values db) = told meaning db := by
  simp only [told, Dispatcher.updateOutbox, List.filterMap_map]
  refine List.filterMap_congr fun row _ => ?_
  simp only [Function.comp_apply]
  split_ifs
  · obtain ⟨jobId, eventType, payload⟩ := same row
    rw [jobId, eventType, payload]
  · rfl

/-- A block tells of what its events say. -/
theorem told_block (env : Env) (jobId : String) (block : Block) (db : Db) : told meaning (block.apply env jobId db) =
    told meaning db ++ (block.events env jobId).filterMap fun event => meaning jobId event.1 event.2 := by
  have one : ∀ event : OutboxEventType × Payload, ([event].filterMap fun event => meaning jobId event.1 event.2) =
      (meaning jobId event.1 event.2).toList := by
    intro event
    cases said : meaning jobId event.1 event.2 <;> simp [said]
  cases block with
  | validated result slack =>
    have three : ∀ a b c : OutboxEventType × Payload, ([a, b, c].filterMap fun event => meaning jobId event.1 event.2) =
        (meaning jobId a.1 a.2).toList ++ (meaning jobId b.1 b.2).toList ++ (meaning jobId c.1 c.2).toList := by
      intro a b c
      rw [← one a, ← one b, ← one c, ← List.filterMap_append, ← List.filterMap_append]
      rfl
    simp [Block.apply, Block.events, Blocks.validatedDb, three]
  | _ =>
    simp [Block.apply, Block.events, Blocks.classifiedDb, Blocks.extractedDb, Blocks.normalizedDb, Blocks.failureDb, one]

/-- The writer enqueues nothing that says something of the subject. -/
def Writer.Silent : Writer → Prop
  | .chain env jobId block => ∀ event ∈ block.events env jobId, meaning jobId event.1 event.2 = none
  | .event jobId eventType payload => meaning jobId eventType payload = none
  | _ => True

theorem insertJobIfNew_keeps {job : OnrampJob} {db after : Db} {resolved : String × Bool}
    (inserted : Intake.insertJobIfNew job db = .ok (after, resolved)) :
    after.outbox = db.outbox ∧ ∀ jobId, db.hasJob jobId = true → after.hasJob jobId = true := by
  unfold Intake.insertJobIfNew at inserted
  split at inserted
  · cases inserted
    exact ⟨rfl, fun _ present => present⟩
  · split_ifs at inserted
    cases inserted
    refine ⟨rfl, fun jobId present => ?_⟩
    obtain ⟨row, found⟩ := Option.isSome_iff_exists.mp present
    simp [Db.hasJob, Library.Keyed.find_append, found]

variable {meaning}

/-- What a writer is silent on is told as before. -/
theorem Writer.apply_told {writer : Writer} (silent : writer.Silent meaning) (db : Db) :
    told meaning (writer.apply db) = told meaning db := by
  cases writer with
  | chain env owner block =>
    simp only [Writer.apply]
    split_ifs
    · have nothing : ((block.events env owner).filterMap fun event => meaning owner event.1 event.2) = [] :=
        List.filterMap_eq_nil_iff.mpr silent
      rw [told_block, nothing, List.append_nil]
    · rfl
  | submission job =>
    simp only [Writer.apply]
    split
    · next after _ _ inserted =>
      rw [told, told, (insertJobIfNew_keeps inserted).1]
    · rfl
  | event owner eventType payload =>
    have nothing : meaning owner eventType payload = none := silent
    simp only [Writer.apply]
    split_ifs
    · simp [nothing]
    · rfl
  | delivered outboxId deliveredAt =>
    refine told_updateOutbox meaning outboxId ?_ db
    exact fun row => ⟨rfl, rfl, rfl⟩
  | failed outboxId attempts nextRetryAt =>
    refine told_updateOutbox meaning outboxId ?_ db
    exact fun row => ⟨rfl, rfl, rfl⟩

/-- No writer takes a job away. -/
theorem Writer.apply_hasJob (writer : Writer) (db : Db) (jobId : String) (present : db.hasJob jobId = true) :
    (writer.apply db).hasJob jobId = true := by
  cases writer with
  | chain env owner block =>
    simp only [Writer.apply]
    split_ifs
    · rwa [Block.apply_hasJob]
    · exact present
  | submission job =>
    simp only [Writer.apply]
    split
    · next after _ _ inserted => exact (insertJobIfNew_keeps inserted).2 jobId present
    · exact present
  | event owner eventType payload =>
    simp only [Writer.apply]
    split_ifs
    · simpa using present
    · exact present
  | delivered outboxId deliveredAt => exact present
  | failed outboxId attempts nextRetryAt => exact present

end Onramp.Writers
