import Onramp.ReadRoutes
import Onramp.Writers

/-!
The internal route that reads the audit trail. It asks for the token of the service account, reads
the rows of the job and enqueues an event on the read in one transaction, and validates the rows as
entries after it. The rows come from the blocks of the chain alone, whose actions are in the
vocabulary of the entries, so that no read of a job that exists fails.
-/
namespace Onramp.AuditRoute
open Onramp.Python
open Onramp.Models
open Onramp.Database
open Onramp.Journey (Block)
open Onramp.Library.Runs
open Onramp.Library.Transactions
open Onramp.ReadRoutes (RouteError RouteBody invalidRequestError jobNotFound raising)
open Onramp.Writers
open Onramp.Settlement (pendingDb)
open Onramp.LaneAccounting (sampleEnv sampleNow)

structure Settings where
  internalAdminToken : String
  internalAdminPrincipal : String

def forbidden : RouteError := .httpException 403 (.str "forbidden")

/-- `s.removeprefix(start)`, when it starts so. -/
def removePrefix (start s : String) : Option String :=
  if start.toList.isPrefixOf s.toList then some (String.ofList (s.toList.drop start.length)) else none

def requireInternalServiceAccount (settings : Settings) (authorization : Option String) : Except RouteError String :=
  if settings.internalAdminToken = "" then .error forbidden
  else
    match authorization.bind (removePrefix "Bearer ") with
    | none => .error forbidden
    | some presented =>
      if strip presented ≠ settings.internalAdminToken then .error forbidden else .ok settings.internalAdminPrincipal

/-- `AuditAction.__args__`. -/
def auditActions : List Stage :=
  [.classified, .extracted, .normalized, .validated, .extractFailed, .normalizeFailed, .validateFailed]

structure AuditLogEntry where
  auditId : Nat
  jobId : String
  actor : String
  action : Stage
  payload : Payload
  actorPrincipal : String
  occurredAt : DateTime
  requestId : Option String

structure AuditLogEntry.Valid (entry : AuditLogEntry) : Prop where
  auditId : 1 ≤ entry.auditId
  jobId : lengthWithin 1 64 entry.jobId
  actor : entry.actor = "worker"
  action : entry.action ∈ auditActions
  actorPrincipal : entry.actorPrincipal.length ≤ 128
  requestId : ∀ id ∈ entry.requestId, id.length ≤ 64

theorem AuditLogEntry.Valid.iff (entry : AuditLogEntry) : entry.Valid ↔
    1 ≤ entry.auditId ∧ lengthWithin 1 64 entry.jobId ∧ entry.actor = "worker" ∧ entry.action ∈ auditActions ∧
      entry.actorPrincipal.length ≤ 128 ∧ ∀ id ∈ entry.requestId, id.length ≤ 64 :=
  ⟨fun h => ⟨h.1, h.2, h.3, h.4, h.5, h.6⟩, fun ⟨a, b, c, d, e, f⟩ => ⟨a, b, c, d, e, f⟩⟩

instance : DecidablePred AuditLogEntry.Valid := fun entry => decidable_of_iff' _ (AuditLogEntry.Valid.iff entry)

/-- The columns of an audit row that the server fills. -/
structure Generated where
  auditId : Nat
  occurredAt : DateTime

/-- The rows of the job, each with the columns that its place in the table has. -/
def auditRows (generated : Nat → Generated) (jobId : String) (db : Db) : List (OnrampAuditLog × Generated) :=
  (db.auditLog.zipIdx.map fun entry => (entry.1, generated entry.2)).filter fun row => row.1.jobId = jobId

/-- The entry of a row. Nothing writes a `request_id`. -/
def entryOf (row : OnrampAuditLog × Generated) : AuditLogEntry where
  auditId := row.2.auditId
  jobId := row.1.jobId
  actor := row.1.actor
  action := row.1.action
  payload := row.1.payload
  actorPrincipal := row.1.actorPrincipal
  occurredAt := row.2.occurredAt
  requestId := none

def entriesOf : List (OnrampAuditLog × Generated) → Raises (List AuditLogEntry)
  | [] => .ok []
  | row :: rest => do
    let entry ← checked "AuditLogEntry" AuditLogEntry.Valid (entryOf row)
    let entries ← entriesOf rest
    return entry :: entries

def auditPath : String := "/internal/v1/audit/{id}"

def auditLog (generated : Nat → Generated) (settings : Settings) (authorization : Option String) (jobId : String) :
    RouteBody (List AuditLogEntry) := do
  let principal ← lift (requireInternalServiceAccount settings authorization)
  let rows ← beginning invalidRequestError do
    if ← query (fun db => .ok (db.hasJob jobId)) then do
      let rows ← query (fun db => .ok (oldestFirst (fun row => row.2.occurredAt) (auditRows generated jobId db)))
      execute (fun db => raising (enqueueOutboxEvent jobId .accessLog (.accessLog auditPath 200 principal) db))
      return rows
    else raise jobNotFound
  lift (raising (entriesOf rows))

/-- A read and what it was answered with. -/
structure Read where
  jobId : String
  outcome : Except RouteError (List AuditLogEntry)

structure State where
  db : Db
  reads : List Read

inductive Event
  | read (authorization : Option String) (jobId : String)
  | write (writer : Writer)

/-- What an event says of a read of the audit trail: its job and its principal. -/
def readOf (jobId : String) : OutboxEventType → Payload → Option (String × String)
  | .accessLog, .accessLog route _ principal => if route = auditPath then some (jobId, principal) else none
  | _, _ => none

/-- The writer is not this route, and draws the id of a job as a UUID. -/
def elsewhere : Writer → Bool
  | .event _ _ (.accessLog route _ _) => route ≠ auditPath
  | .submission job => decide (lengthWithin 1 64 job.jobId)
  | _ => true

variable (generated : Nat → Generated) (settings : Settings)

def step (s : State) : Event → Option State
  | .read authorization jobId =>
    let (outcome, db) := Library.Transactions.run (auditLog generated settings authorization jobId) s.db
    some { db, reads := s.reads ++ [⟨jobId, outcome⟩] }
  | .write writer => if elsewhere writer then some { s with db := writer.apply s.db } else none

/-- The header carries the token, which is set. -/
def Authorized (authorization : Option String) : Prop :=
  settings.internalAdminToken ≠ "" ∧
    ∃ presented, authorization = some ("Bearer " ++ presented) ∧ strip presented = settings.internalAdminToken

theorem removePrefix_eq_some {start s rest : String} : removePrefix start s = some rest ↔ s = start ++ rest := by
  unfold removePrefix
  constructor
  · intro removed
    split_ifs at removed with starts
    obtain ⟨behind, same⟩ := List.isPrefixOf_iff_prefix.mp starts
    cases removed
    apply String.toList_inj.mp
    have length : start.toList.length = start.length := String.length_toList
    rw [String.toList_append, String.toList_ofList, ← same, ← length, List.drop_left]
  · rintro rfl
    have starts : start.toList.isPrefixOf (start ++ rest).toList = true := by
      rw [String.toList_append]
      exact List.isPrefixOf_iff_prefix.mpr (List.prefix_append _ _)
    have length : start.toList.length = start.length := String.length_toList
    rw [if_pos starts, String.toList_append, ← length, List.drop_left, String.ofList_toList]

theorem require_authorized {authorization : Option String} (authorized : Authorized settings authorization) :
    requireInternalServiceAccount settings authorization = .ok settings.internalAdminPrincipal := by
  obtain ⟨token, presented, rfl, same⟩ := authorized
  have removed : removePrefix "Bearer " ("Bearer " ++ presented) = some presented := removePrefix_eq_some.mpr rfl
  simp [requireInternalServiceAccount, token, removed, same]

theorem require_forbidden {authorization : Option String} (unauthorized : ¬ Authorized settings authorization) :
    requireInternalServiceAccount settings authorization = .error forbidden := by
  unfold requireInternalServiceAccount
  by_cases token : settings.internalAdminToken = ""
  · rw [if_pos token]
  · rw [if_neg token]
    split
    · rfl
    · next presented removed =>
      obtain ⟨header, given, starts⟩ := Option.bind_eq_some_iff.mp removed
      refine if_pos fun same => unauthorized ⟨token, presented, ?_, same⟩
      rw [given, removePrefix_eq_some.mp starts]

/-- Every row of the log is an entry, and no id of a job is out of bounds. -/
structure Readable (db : Db) : Prop where
  rows : ∀ row ∈ db.auditLog, row.actor = "worker" ∧ row.actorPrincipal = "pipeline-task" ∧ row.action ∈ auditActions ∧
    lengthWithin 1 64 row.jobId
  ids : ∀ jobId, db.hasJob jobId = true → lengthWithin 1 64 jobId

theorem mem_auditRows {jobId : String} {db : Db} {row : OnrampAuditLog × Generated}
    (inside : row ∈ auditRows generated jobId db) : row.1 ∈ db.auditLog ∧ ∃ n, row.2 = generated n := by
  obtain ⟨listed, -⟩ := List.mem_filter.mp inside
  obtain ⟨⟨first, n⟩, among, rfl⟩ := List.mem_map.mp listed
  exact ⟨(List.mem_zipIdx' among).2 ▸ List.getElem_mem _, n, rfl⟩

theorem entriesOf_valid {rows : List (OnrampAuditLog × Generated)} (valid : ∀ row ∈ rows, (entryOf row).Valid) :
    entriesOf rows = .ok (rows.map entryOf) := by
  induction rows with
  | nil => rfl
  | cons row rest ih =>
    obtain ⟨here, later⟩ := List.forall_mem_cons.mp valid
    simp [entriesOf, checked_of_valid here, ih later, bind, Except.bind, pure, Except.pure]

/-- What a read is answered with, and the database that it leaves. -/
inductive Answered (authorization : Option String) (jobId : String) (before : Db) :
    Except RouteError (List AuditLogEntry) → Db → Prop
  | forbidden (unauthorized : ¬ Authorized settings authorization) : Answered authorization jobId before (.error forbidden) before
  | notFound (authorized : Authorized settings authorization) (absent : before.hasJob jobId = false) :
      Answered authorization jobId before (.error jobNotFound) before
  | entries {rows : List (OnrampAuditLog × Generated)} (authorized : Authorized settings authorization)
      (present : before.hasJob jobId = true) (perm : rows.Perm (auditRows generated jobId before))
      (sorted : rows.Pairwise (fun row row' => notAfter row.2.occurredAt row'.2.occurredAt = true)) :
      Answered authorization jobId before (.ok (rows.map entryOf))
        (pushOutbox jobId .accessLog (.accessLog auditPath 200 settings.internalAdminPrincipal) before)

theorem auditLog_answered (positive : ∀ n, 1 ≤ (generated n).auditId) {db : Db} (readable : Readable db)
    (authorization : Option String) (jobId : String) :
    Answered generated settings authorization jobId db
      (Library.Transactions.run (auditLog generated settings authorization jobId) db).1
      (Library.Transactions.run (auditLog generated settings authorization jobId) db).2 := by
  by_cases authorized : Authorized settings authorization
  · have principal := require_authorized settings authorized
    cases present : db.hasJob jobId with
    | false =>
      have refused : Library.Transactions.run (auditLog generated settings authorization jobId) db = (.error jobNotFound, db) := by
        simp [Library.Transactions.run, auditLog, principal, lift, beginning, query, bind, Session.view, present, raise,
          Session.opened]
      rw [refused]
      exact .notFound authorized present
    | true =>
      have perm := oldestFirst_perm (fun row : OnrampAuditLog × Generated => row.2.occurredAt) (auditRows generated jobId db)
      have sorted := oldestFirst_sorted (fun row : OnrampAuditLog × Generated => row.2.occurredAt) (auditRows generated jobId db)
      generalize listed : oldestFirst (fun row : OnrampAuditLog × Generated => row.2.occurredAt)
        (auditRows generated jobId db) = rows at perm sorted
      have valid : entriesOf rows = .ok (rows.map entryOf) := by
        refine entriesOf_valid fun row inside => ?_
        obtain ⟨logged, n, own⟩ := mem_auditRows generated (perm.mem_iff.mp inside)
        obtain ⟨actor, actorPrincipal, action, id⟩ := readable.rows row.1 logged
        refine ⟨?_, id, actor, action, ?_, by simp [entryOf]⟩
        · simpa [entryOf, own] using positive n
        · have short : "pipeline-task".length ≤ 128 := by decide
          simpa [entryOf, actorPrincipal] using short
      have served : Library.Transactions.run (auditLog generated settings authorization jobId) db = (.ok (rows.map entryOf),
          pushOutbox jobId .accessLog (.accessLog auditPath 200 settings.internalAdminPrincipal) db) := by
        simp [Library.Transactions.run, auditLog, principal, lift, beginning, query, execute, bind, pure, Session.view, present,
          Session.opened, listed, enqueueOutboxEvent, referring, raising, Except.mapError, valid]
      rw [served]
      exact .entries authorized present perm sorted
  · have refused : Library.Transactions.run (auditLog generated settings authorization jobId) db = (.error forbidden, db) := by
      simp [Library.Transactions.run, auditLog, require_forbidden settings authorized, lift, bind]
    rw [refused]
    exact .forbidden authorized

theorem Readable.push {db : Db} (readable : Readable db) (jobId : String) (eventType : OutboxEventType) (payload : Payload) :
    Readable (pushOutbox jobId eventType payload db) :=
  ⟨readable.rows, fun other present => readable.ids other (by simpa using present)⟩

theorem Readable.write {db : Db} (readable : Readable db) {writer : Writer} (away : elsewhere writer = true) :
    Readable (writer.apply db) := by
  cases writer with
  | chain env owner block =>
    simp only [Writer.apply]
    split_ifs with present
    · refine ⟨?_, fun other found => readable.ids other (by rwa [Block.apply_hasJob] at found)⟩
      intro row inside
      rw [AuditTrail.apply_auditLog] at inside
      rcases List.mem_append.mp inside with old | new
      · exact readable.rows row old
      · obtain ⟨entry, among, rfl⟩ := List.mem_map.mp new
        refine ⟨rfl, rfl, ?_, readable.ids owner present⟩
        cases block with
        | unsupported => cases among
        | failed task exc =>
          rw [List.mem_singleton.mp among]
          cases task <;> simp [auditRow, auditActions, Journey.Recorder.stage]
        | _ =>
          rw [List.mem_singleton.mp among]
          simp [auditRow, auditActions]
    · exact readable
  | submission job =>
    simp only [Writer.apply]
    split
    · next after _ _ inserted =>
      unfold Intake.insertJobIfNew at inserted
      split at inserted
      · cases inserted
        exact readable
      · split_ifs at inserted
        cases inserted
        refine ⟨readable.rows, fun other found => ?_⟩
        by_cases new : job.jobId = other
        · rw [← new]
          simpa [elsewhere] using away
        · refine readable.ids other ?_
          simpa [Db.hasJob, Library.Keyed.find_append, Library.Keyed.find, new] using found
    · exact readable
  | event owner eventType payload =>
    simp only [Writer.apply]
    split_ifs
    · exact readable.push owner eventType payload
    · exact readable
  | delivered outboxId deliveredAt => exact ⟨readable.rows, readable.ids⟩
  | failed outboxId attempts nextRetryAt => exact ⟨readable.rows, readable.ids⟩

theorem silent_of_elsewhere {writer : Writer} (away : elsewhere writer = true) : writer.Silent readOf := by
  cases writer with
  | chain env jobId block =>
    intro event inside
    cases block <;>
      simp [Block.events, Blocks.normalizedPayload, Tasks.validatedPayload, Tasks.failurePayload] at inside <;>
      rcases inside with rfl | rfl | rfl <;> rfl
  | event jobId eventType payload =>
    cases payload with
    | accessLog route responseStatus principal =>
      have other : route ≠ auditPath := by simpa [elsewhere] using away
      cases eventType with
      | accessLog => exact if_neg other
      | _ => rfl
    | _ => cases eventType <;> rfl
  | _ => trivial

/-- The job of a read that was answered with entries. -/
def served (read : Read) : Option String :=
  match read.outcome with
  | .ok _ => some read.jobId
  | .error _ => none

/-- The rows are readable, and the outbox tells of the reads that were served. -/
structure OnRecord (s : State) : Prop where
  readable : Readable s.db
  told : told readOf s.db = (s.reads.filterMap served).map fun jobId => (jobId, settings.internalAdminPrincipal)

/-- The step: a read is answered and noted, and what else is written says nothing of reads. -/
theorem OnRecord.step (positive : ∀ n, 1 ≤ (generated n).auditId) {s next : State} {event : Event}
    (onRecord : OnRecord settings s) (stepped : AuditRoute.step generated settings s event = some next) :
    OnRecord settings next := by
  cases event with
  | read authorization jobId =>
    have answered := auditLog_answered generated settings positive onRecord.readable authorization jobId
    simp only [AuditRoute.step] at stepped
    cases stepped
    generalize (Library.Transactions.run (auditLog generated settings authorization jobId) s.db).1 = outcome at answered ⊢
    generalize (Library.Transactions.run (auditLog generated settings authorization jobId) s.db).2 = after at answered ⊢
    cases answered with
    | forbidden | notFound => exact ⟨onRecord.readable, by simp [onRecord.told, served]⟩
    | entries => exact ⟨onRecord.readable.push _ _ _, by simp [onRecord.told, served, readOf]⟩
  | write writer =>
    simp only [AuditRoute.step] at stepped
    split_ifs at stepped with away
    cases stepped
    exact ⟨onRecord.readable.write away, (writer.apply_told (silent_of_elsewhere away) s.db).trans onRecord.told⟩

/-- Whatever else writes in between, every read with the token of a job that exists is answered with all rows of the job,
    oldest first, and is noted once; no other read is answered with rows or leaves anything. -/
theorem audit_reads_answered (positive : ∀ n, 1 ≤ (generated n).auditId) (db : Db) (readable : Readable db)
    (silent : told readOf db = []) (events : List Event) :
    (∀ last, run (step generated settings) ⟨db, []⟩ events = some last →
      told readOf last.db = (last.reads.filterMap served).map fun jobId => (jobId, settings.internalAdminPrincipal)) ∧
    ∀ before authorization jobId after, Takes (step generated settings) ⟨db, []⟩ events before (.read authorization jobId) after →
      ∃ outcome, after.reads = before.reads ++ [⟨jobId, outcome⟩] ∧
        Answered generated settings authorization jobId before.db outcome after.db := by
  have start : OnRecord settings ⟨db, []⟩ := ⟨readable, by simp [silent]⟩
  obtain ⟨ends, meets⟩ := invariant_of_run (OnRecord settings) (fun _ _ => True)
    (fun _ _ _ onRecord _ stepped => onRecord.step generated settings positive stepped) events _ start
    (fun _ _ _ _ => trivial)
  refine ⟨fun last reached => (ends last reached).told, ?_⟩
  intro before authorization jobId after taken
  have answered := auditLog_answered generated settings positive (meets _ _ _ taken).readable authorization jobId
  have stepped := stepped_of_takes taken
  simp only [step] at stepped
  cases stepped
  exact ⟨_, rfl, answered⟩

/-- The ids and times of a server that counts. -/
def counting (n : Nat) : Generated := ⟨n + 1, sampleNow⟩

/-- Stage 1 and Stage 2 are on record. -/
def auditedDb : Db :=
  { pendingDb with auditLog :=
      [⟨"j1", "worker", "pipeline-task", .classified, .classified .edifact 100⟩,
        ⟨"j1", "worker", "pipeline-task", .extracted, .extracted 3⟩] }

theorem auditedDb_readable : Readable auditedDb := by
  refine ⟨by unfold auditedDb; decide, fun jobId present => ?_⟩
  have only : jobId = "j1" := by
    by_contra other
    simp [Db.hasJob, auditedDb, pendingDb, Library.Keyed.find, Ne.symm other] at present
  rw [only]
  decide

def auditSettings : Settings := ⟨"secret", "ops@kaide.so"⟩

/-- A read without the token, one with it, one of a job that does not exist, and one after Stage 3 is on record. -/
def auditEvents : List Event :=
  [.read none "j1", .read (some "Bearer secret") "j1", .read (some "Bearer secret") "j9",
    .write (.chain sampleEnv "j1" (.failed .normalize ⟨.timeoutError, "", none⟩)), .read (some "Bearer secret") "j1"]

theorem audit_reads_answered_audited :
    (∃ last, run (step counting auditSettings) ⟨auditedDb, []⟩ auditEvents = some last ∧
      last.db.auditLog.map OnrampAuditLog.action = [.classified, .extracted, .normalizeFailed] ∧
      told readOf last.db = [("j1", "ops@kaide.so"), ("j1", "ops@kaide.so")] ∧
      told readOf last.db = (last.reads.filterMap served).map fun jobId => (jobId, "ops@kaide.so")) ∧
    ∀ before authorization jobId after, Takes (step counting auditSettings) ⟨auditedDb, []⟩ auditEvents before
        (.read authorization jobId) after →
      ∃ outcome, after.reads = before.reads ++ [⟨jobId, outcome⟩] ∧
        Answered counting auditSettings authorization jobId before.db outcome after.db := by
  obtain ⟨ends, answered⟩ := audit_reads_answered counting auditSettings (fun n => Nat.le_add_left 1 n) auditedDb
    auditedDb_readable rfl auditEvents
  have recorded : (run (step counting auditSettings) ⟨auditedDb, []⟩ auditEvents).map
      (fun last => (last.db.auditLog.map OnrampAuditLog.action, told readOf last.db)) =
      some ([.classified, .extracted, .normalizeFailed], [("j1", "ops@kaide.so"), ("j1", "ops@kaide.so")]) := by
    decide +kernel
  obtain ⟨last, reached, both⟩ := Option.map_eq_some_iff.mp recorded
  exact ⟨⟨last, reached, congrArg Prod.fst both, congrArg Prod.snd both, ends last reached⟩, answered⟩

end Onramp.AuditRoute
