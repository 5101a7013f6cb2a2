import Onramp.Database
import Onramp.Library.Leasing

/-!
The dispatcher of the outbox. A tick reads a batch of rows once, at its start, and takes
the rows one after the other, each under a Redis lock that is never given back and runs
out by itself. Ticks overlap: each statement, lock and call of a handler is an event of
its own, and the events of different ticks come in any order.
-/
namespace Onramp.Dispatcher
open Onramp.Database
open Onramp.Library.Leasing (Leases setNx)

def backoffScheduleSeconds : List Nat := [5, 30, 300, 1800, 7200, 86400]

def maxAttempts : Nat := backoffScheduleSeconds.length

def lockTtlSeconds : Nat := 30

def batchSize : Nat := 50

/-- `timedelta(seconds=n)`. -/
def seconds (n : Nat) : Instant := n * 1000000

def backoffFor (attempts : Int) : Option Nat :=
  if attempts < 0 ∨ (maxAttempts : Int) ≤ attempts then none else backoffScheduleSeconds[attempts.toNat]?

/-- The row with the primary key. -/
def outboxOf (outboxId : Nat) (db : Db) : Option OnrampOutbox := db.outbox.find? (fun row => row.outboxId = outboxId)

/-- The `WHERE` of the batch. -/
def eligible (now : Instant) (row : OnrampOutbox) : Bool :=
  row.deliveredAt.isNone && (row.nextRetryAt.isNone || row.nextRetryAt.any (fun due => decide (due ≤ now)))

/-- The batch as the rows of the ids. Nothing orders the rows, so its `LIMIT` leaves any of
    the eligible rows, in any order. -/
def selectBatch (now : Instant) (ids : List Nat) (db : Db) : Option (List OnrampOutbox) :=
  let rows := db.outbox.filter (eligible now)
  if ids.Nodup ∧ ids.length = min batchSize rows.length ∧ ∀ id ∈ ids, id ∈ rows.map OnrampOutbox.outboxId then
    some (ids.filterMap (fun id => rows.find? (fun row => row.outboxId = id)))
  else none

/-- `.values(delivered_at=..., next_retry_at=None)`. -/
def markDelivered (deliveredAt : Instant) (row : OnrampOutbox) : OnrampOutbox :=
  { row with deliveredAt := some deliveredAt, nextRetryAt := none }

/-- `.values(attempts=..., next_retry_at=...)`. -/
def markFailed (attempts : Nat) (nextRetryAt : Option Instant) (row : OnrampOutbox) : OnrampOutbox :=
  { row with attempts := attempts, nextRetryAt := nextRetryAt }

/-- The update of the row with the primary key. -/
def updateOutbox (outboxId : Nat) (values : OnrampOutbox → OnrampOutbox) (db : Db) : Db :=
  { db with outbox := db.outbox.map (fun row => if row.outboxId = outboxId then values row else row) }

/-- How far a tick has come with a row: the lock is granted, the handler is called, and the
    handler returned or raised; then the values of the update are known. -/
inductive Progress
  | locked
  | called
  | returned (deliveredAt : Instant)
  | raised (nextRetryAt : Option Instant)

/-- The row of the batch that a tick is at work on, and when the lock it took runs out. -/
structure Work where
  row : OnrampOutbox
  expiresAt : Instant
  progress : Progress

/-- A tick computes `now` and then sends its SELECT; between two rows it is looping. -/
inductive Phase
  | selecting (now : Instant)
  | looping
  | working (work : Work)
  | dead

/-- A run of `_drain_once` with the rows of its batch that are still to come. -/
structure Tick where
  phase : Phase
  rows : List OnrampOutbox
  delivered : Nat
  failed : Nat
  skipped : Nat

/-- What happened to a row. A row is killed when its tick dies between the call of the
    handler and the commit of its outcome. -/
inductive Mark
  | called | returned | raised | delivered | failed | killed
  deriving DecidableEq

/-- The clock, the tables, the keys in Redis, the ticks so far and what happened. The
    worker of a tick is its place in the list. -/
structure State where
  now : Instant
  db : Db
  locks : Leases Nat Nat
  ticks : List Tick
  log : List (Nat × Mark)

/-- What a tick does next, or what is done to it. -/
inductive Action
  | select (ids : List Nat)
  | acquire
  | call
  | returned
  | raised
  | commit
  | updateRaised
  | die

inductive Event
  | advance (elapsed : Nat)
  | enqueue (jobId : String) (eventType : OutboxEventType) (payload : Payload)
  | start
  | tick (worker : Nat) (action : Action)

/-- The row that a tick is at work on. -/
def Tick.work (tick : Tick) : Option Work :=
  match tick.phase with
  | .working work => some work
  | _ => none

/-- The row that the tick of a worker is at work on. -/
def State.working (s : State) (worker : Nat) : Option Work := s.ticks[worker]?.bind Tick.work

/-- The handler of the row is called and the outcome not committed. -/
def Work.pending (outboxId : Nat) (work : Work) : Bool :=
  match work.progress with
  | .locked => false
  | _ => work.row.outboxId = outboxId

def State.put (s : State) (worker : Nat) (tick : Tick) : State := { s with ticks := s.ticks.set worker tick }

def State.mark (s : State) (outboxId : Nat) (mark : Mark) : State := { s with log := s.log ++ [(outboxId, mark)] }

/-- How often something happened to a row. -/
def State.count (s : State) (outboxId : Nat) (mark : Mark) : Nat := s.log.count (outboxId, mark)

def nextAttempts (row : OnrampOutbox) : Nat := row.attempts + 1

/-- `next_retry_at` of a row whose dispatch raised. -/
def nextRetryAt (now : Instant) (row : OnrampOutbox) : Option Instant :=
  (backoffFor ((nextAttempts row : Int) - 1)).map (fun delay => now + seconds delay)

/-- `_acquire_lock` for the next row of the batch: without the lock the row is skipped. -/
def acquireLock (s : State) (worker : Nat) (tick : Tick) (row : OnrampOutbox) (rest : List OnrampOutbox) : State :=
  match setNx row.outboxId worker s.now (seconds lockTtlSeconds) s.locks with
  | none => s.put worker { tick with rows := rest, skipped := tick.skipped + 1 }
  | some locks =>
    { s.put worker { tick with phase := .working ⟨row, s.now + seconds lockTtlSeconds, .locked⟩, rows := rest } with
      locks := locks }

/-- The tick dies: it is killed, or something outside the `try` raises. -/
def killTick (s : State) (worker : Nat) (tick : Tick) : State :=
  match tick.phase with
  | .working ⟨_, _, .locked⟩ => s.put worker { tick with phase := .dead }
  | .working work => (s.put worker { tick with phase := .dead }).mark work.row.outboxId .killed
  | _ => s.put worker { tick with phase := .dead }

/-- `_drain_once`, one action at a time. -/
def drainOnce (s : State) (worker : Nat) (tick : Tick) : Action → Option State
  | .select ids =>
    match tick.phase with
    | .selecting now => (selectBatch now ids s.db).map (fun rows => s.put worker { tick with phase := .looping, rows })
    | _ => none
  | .acquire =>
    match tick.phase, tick.rows with
    | .looping, row :: rest => some (acquireLock s worker tick row rest)
    | _, _ => none
  | .call =>
    match tick.phase with
    | .working ⟨row, expiresAt, .locked⟩ =>
      some ((s.put worker { tick with phase := .working ⟨row, expiresAt, .called⟩ }).mark row.outboxId .called)
    | _ => none
  | .returned =>
    match tick.phase with
    | .working ⟨row, expiresAt, .called⟩ =>
      some ((s.put worker { tick with phase := .working ⟨row, expiresAt, .returned s.now⟩ }).mark row.outboxId .returned)
    | _ => none
  | .raised =>
    match tick.phase with
    | .working ⟨row, expiresAt, .called⟩ =>
      some ((s.put worker { tick with phase := .working ⟨row, expiresAt, .raised (nextRetryAt s.now row)⟩ }).mark
        row.outboxId .raised)
    | _ => none
  | .updateRaised =>
    -- the update of `delivered_at` stands inside the `try`
    match tick.phase with
    | .working ⟨row, expiresAt, .returned _⟩ =>
      some (s.put worker { tick with phase := .working ⟨row, expiresAt, .raised (nextRetryAt s.now row)⟩ })
    | _ => none
  | .commit =>
    match tick.phase with
    | .working ⟨row, _, .returned deliveredAt⟩ =>
      some ({ s.put worker { tick with phase := .looping, delivered := tick.delivered + 1 } with
        db := updateOutbox row.outboxId (markDelivered deliveredAt) s.db }.mark row.outboxId .delivered)
    | .working ⟨row, _, .raised retryAt⟩ =>
      some ({ s.put worker { tick with phase := .looping, failed := tick.failed + 1 } with
        db := updateOutbox row.outboxId (markFailed (nextAttempts row) retryAt) s.db }.mark row.outboxId .failed)
    | _ => none
  | .die =>
    match tick.phase with
    | .dead => none
    | _ => some (killTick s worker tick)

/-- What one event does, where it can happen. Rows come in through the transactions of the
    pipeline and of the routes; `start` is the beat. -/
def step (s : State) : Event → Option State
  | .advance elapsed => some { s with now := s.now + elapsed }
  | .enqueue jobId eventType payload =>
    if s.db.hasJob jobId then some { s with db := pushOutbox jobId eventType payload s.db } else none
  | .start => some { s with ticks := s.ticks ++ [⟨.selecting s.now, [], 0, 0, 0⟩] }
  | .tick worker action =>
    match s.ticks[worker]? with
    | some tick => drainOnce s worker tick action
    | none => none

/-- The state before the first tick. -/
def initial (now : Instant) (db : Db) : State := { now, db, locks := [], ticks := [], log := [] }

section
variable {s : State} {worker other : Nat} {tick tick' : Tick} {outboxId : Nat} {db : Db}

theorem outboxOf_pushOutbox {jobId : String} {eventType : OutboxEventType} {payload : Payload} {row : OnrampOutbox}
    (found : outboxOf outboxId db = some row) :
    outboxOf outboxId (pushOutbox jobId eventType payload db) = some row := by
  unfold outboxOf at found
  simp [outboxOf, pushOutbox, found]

theorem outboxOf_update_self {values : OnrampOutbox → OnrampOutbox} (keyed : ∀ row, (values row).outboxId = row.outboxId) :
    outboxOf outboxId (updateOutbox outboxId values db) = (outboxOf outboxId db).map values := by
  simp only [outboxOf, updateOutbox]
  induction db.outbox with
  | nil => rfl
  | cons row rest ih =>
    by_cases same : row.outboxId = outboxId
    · simp [same, keyed]
    · simpa [same] using ih

theorem outboxOf_update_other {values : OnrampOutbox → OnrampOutbox} {updated : Nat}
    (keyed : ∀ row, (values row).outboxId = row.outboxId) (differs : outboxId ≠ updated) :
    outboxOf outboxId (updateOutbox updated values db) = outboxOf outboxId db := by
  simp only [outboxOf, updateOutbox]
  induction db.outbox with
  | nil => rfl
  | cons row rest ih =>
    by_cases same : row.outboxId = updated
    · simpa [same, keyed, differs.symm] using ih
    · by_cases sought : row.outboxId = outboxId
      · simp [sought, differs]
      · simpa [same, sought] using ih

@[simp] theorem markDelivered_outboxId (deliveredAt : Instant) (row : OnrampOutbox) :
    (markDelivered deliveredAt row).outboxId = row.outboxId := rfl
@[simp] theorem markFailed_outboxId (attempts : Nat) (retryAt : Option Instant) (row : OnrampOutbox) :
    (markFailed attempts retryAt row).outboxId = row.outboxId := rfl

/-- The rows of a batch are eligible rows of the table, under the ids of the batch. -/
theorem selectBatch_mem {now : Instant} {ids : List Nat} {rows : List OnrampOutbox} {row : OnrampOutbox}
    (selected : selectBatch now ids db = some rows) (inside : row ∈ rows) :
    row ∈ db.outbox ∧ row.outboxId ∈ ids ∧ eligible now row = true := by
  simp only [selectBatch] at selected
  split at selected
  · cases selected
    obtain ⟨id, chosen, found⟩ := List.mem_filterMap.mp inside
    obtain ⟨stored, picked⟩ := List.mem_filter.mp (List.mem_of_find?_eq_some found)
    have same : row.outboxId = id := by simpa using List.find?_some found
    exact ⟨stored, same ▸ chosen, picked⟩
  · cases selected

@[simp] theorem put_db : (s.put worker tick).db = s.db := rfl
@[simp] theorem put_ticks : (s.put worker tick).ticks = s.ticks.set worker tick := rfl
@[simp] theorem mark_db (mark : Mark) : (s.mark outboxId mark).db = s.db := rfl
@[simp] theorem mark_ticks (mark : Mark) : (s.mark outboxId mark).ticks = s.ticks := rfl

theorem working_set {locks : Leases Nat Nat} {now : Instant} {log : List (Nat × Mark)}
    (present : s.ticks[worker]? = some tick) :
    State.working ⟨now, db, locks, s.ticks.set worker tick', log⟩ other =
      if other = worker then tick'.work else s.working other := by
  obtain ⟨inside, _⟩ := List.getElem?_eq_some_iff.mp present
  by_cases same : other = worker
  · subst same
    simp [State.working, inside]
  · simp [State.working, same, Ne.symm same]

end

/-- The actions of a tick with their guards and effects. -/
inductive Drains (s : State) (worker : Nat) : Tick → Action → State → Prop
  | select {now ids rows old delivered failed skipped} (selected : selectBatch now ids s.db = some rows) :
    Drains s worker ⟨.selecting now, old, delivered, failed, skipped⟩ (.select ids)
      (s.put worker ⟨.looping, rows, delivered, failed, skipped⟩)
  | skip {row rest delivered failed skipped} :
    Drains s worker ⟨.looping, row :: rest, delivered, failed, skipped⟩ .acquire
      (s.put worker ⟨.looping, rest, delivered, failed, skipped + 1⟩)
  | grant {row rest locks delivered failed skipped}
    (taken : setNx row.outboxId worker s.now (seconds lockTtlSeconds) s.locks = some locks) :
    Drains s worker ⟨.looping, row :: rest, delivered, failed, skipped⟩ .acquire
      { s.put worker ⟨.working ⟨row, s.now + seconds lockTtlSeconds, .locked⟩, rest, delivered, failed, skipped⟩ with
        locks := locks }
  | call {row expiresAt rest delivered failed skipped} :
    Drains s worker ⟨.working ⟨row, expiresAt, .locked⟩, rest, delivered, failed, skipped⟩ .call
      ((s.put worker ⟨.working ⟨row, expiresAt, .called⟩, rest, delivered, failed, skipped⟩).mark row.outboxId .called)
  | returned {row expiresAt rest delivered failed skipped} :
    Drains s worker ⟨.working ⟨row, expiresAt, .called⟩, rest, delivered, failed, skipped⟩ .returned
      ((s.put worker ⟨.working ⟨row, expiresAt, .returned s.now⟩, rest, delivered, failed, skipped⟩).mark
        row.outboxId .returned)
  | raised {row expiresAt rest delivered failed skipped} :
    Drains s worker ⟨.working ⟨row, expiresAt, .called⟩, rest, delivered, failed, skipped⟩ .raised
      ((s.put worker ⟨.working ⟨row, expiresAt, .raised (nextRetryAt s.now row)⟩, rest, delivered, failed, skipped⟩).mark
        row.outboxId .raised)
  | updateRaised {row expiresAt deliveredAt rest delivered failed skipped} :
    Drains s worker ⟨.working ⟨row, expiresAt, .returned deliveredAt⟩, rest, delivered, failed, skipped⟩ .updateRaised
      (s.put worker ⟨.working ⟨row, expiresAt, .raised (nextRetryAt s.now row)⟩, rest, delivered, failed, skipped⟩)
  | commitDelivered {row expiresAt deliveredAt rest delivered failed skipped} :
    Drains s worker ⟨.working ⟨row, expiresAt, .returned deliveredAt⟩, rest, delivered, failed, skipped⟩ .commit
      ({ s.put worker ⟨.looping, rest, delivered + 1, failed, skipped⟩ with
        db := updateOutbox row.outboxId (markDelivered deliveredAt) s.db }.mark row.outboxId .delivered)
  | commitFailed {row expiresAt retryAt rest delivered failed skipped} :
    Drains s worker ⟨.working ⟨row, expiresAt, .raised retryAt⟩, rest, delivered, failed, skipped⟩ .commit
      ({ s.put worker ⟨.looping, rest, delivered, failed + 1, skipped⟩ with
        db := updateOutbox row.outboxId (markFailed (nextAttempts row) retryAt) s.db }.mark row.outboxId .failed)
  | die {tick} (idle : ∀ work, tick.work = some work → work.progress = .locked) :
    Drains s worker tick .die (s.put worker { tick with phase := .dead })
  | kill {tick work} (busy : tick.work = some work) (begun : work.progress ≠ .locked) :
    Drains s worker tick .die ((s.put worker { tick with phase := .dead }).mark work.row.outboxId .killed)

theorem drains_of_acquire {s : State} {worker : Nat} {row : OnrampOutbox} {rest : List OnrampOutbox}
    {delivered failed skipped : Nat} :
    Drains s worker ⟨.looping, row :: rest, delivered, failed, skipped⟩ .acquire
      (acquireLock s worker ⟨.looping, row :: rest, delivered, failed, skipped⟩ row rest) := by
  unfold acquireLock
  cases taken : setNx row.outboxId worker s.now (seconds lockTtlSeconds) s.locks with
  | none => exact .skip
  | some locks => exact .grant taken

theorem drains_of_die {s : State} {worker : Nat} {tick : Tick} : Drains s worker tick .die (killTick s worker tick) := by
  obtain ⟨phase, rows, delivered, failed, skipped⟩ := tick
  cases phase with
  | working work =>
    obtain ⟨row, expiresAt, progress⟩ := work
    cases progress with
    | locked =>
      refine .die ?_
      intro work busy
      cases busy
      rfl
    | _ => exact .kill rfl (by simp)
  | _ =>
    refine .die ?_
    intro work busy
    cases busy

theorem drains_of_drainOnce {s s' : State} {worker : Nat} {tick : Tick} {action : Action}
    (drained : drainOnce s worker tick action = some s') : Drains s worker tick action s' := by
  obtain ⟨phase, rows, delivered, failed, skipped⟩ := tick
  cases action with
  | select ids =>
    cases phase with
    | selecting now =>
      obtain ⟨chosen, selected, rfl⟩ := Option.map_eq_some_iff.mp drained
      exact .select selected
    | _ => cases drained
  | acquire =>
    cases phase with
    | looping =>
      cases rows with
      | nil => cases drained
      | cons row rest =>
        cases drained
        exact drains_of_acquire
    | _ => cases drained
  | die =>
    cases phase with
    | dead => cases drained
    | _ =>
      cases drained
      exact drains_of_die
  | _ =>
    cases phase with
    | working work =>
      obtain ⟨row, expiresAt, progress⟩ := work
      cases progress <;> cases drained <;> constructor
    | _ => cases drained

theorem drains_of_step {s s' : State} {worker : Nat} {action : Action}
    (stepped : step s (.tick worker action) = some s') :
    ∃ tick, s.ticks[worker]? = some tick ∧ Drains s worker tick action s' := by
  simp only [step] at stepped
  split at stepped
  · next tick present => exact ⟨tick, present, drains_of_drainOnce stepped⟩
  · cases stepped

theorem enqueued_of_step {s s' : State} {jobId : String} {eventType : OutboxEventType} {payload : Payload}
    (stepped : step s (.enqueue jobId eventType payload) = some s') :
    s' = { s with db := pushOutbox jobId eventType payload s.db } := by
  simp only [step] at stepped
  split at stepped
  · cases stepped
    rfl
  · cases stepped

end Onramp.Dispatcher
