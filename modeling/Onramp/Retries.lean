import Onramp.Attempts

/-!
What the two updates of the dispatcher record of a row: its delivery after a handler
returned, its attempts after the handler raised. A delivery is never taken back, and a row
whose handler never returned stays in the reach of the SELECT. The attempts are computed from
the row of the batch, so they count the recorded failures exactly while no other tick records
one between the SELECT and the update.
-/
namespace Onramp.Retries
open Onramp.Database
open Onramp.Dispatcher
open Onramp.Deliveries
open Onramp.Attempts (entries Unchanged unchanged_steady)
open Onramp.Library.Runs (run Takes invariant_of_run along_iff_of_run stepped_of_takes takes_of_run)

/-- The row whose failure the tick of the worker records if it commits now. -/
def recording (s : State) (worker : Nat) : Option OnrampOutbox :=
  match s.working worker with
  | some ⟨row, _, .raised _⟩ => some row
  | _ => none

/-- A step leaves the outbox alone, appends a row, or records the outcome of a dispatch. -/
inductive Writes (s : State) : Event → State → Prop
  | nothing {event s'} (other : ∀ worker, event ≠ .tick worker .commit) (db : s'.db = s.db)
    (log : ∃ marks, s'.log = s.log ++ marks ∧ ∀ entry ∈ marks, entry.2 ≠ .failed) : Writes s event s'
  | pushed {jobId eventType payload} :
    Writes s (.enqueue jobId eventType payload) { s with db := pushOutbox jobId eventType payload s.db }
  | delivered {worker row expiresAt deliveredAt s'} (busy : s.working worker = some ⟨row, expiresAt, .returned deliveredAt⟩)
    (db : s'.db = updateOutbox row.outboxId (markDelivered deliveredAt) s.db)
    (log : s'.log = s.log ++ [(row.outboxId, .delivered)]) : Writes s (.tick worker .commit) s'
  | failed {worker row expiresAt retryAt s'} (busy : s.working worker = some ⟨row, expiresAt, .raised retryAt⟩)
    (db : s'.db = updateOutbox row.outboxId (markFailed (nextAttempts row) retryAt) s.db)
    (log : s'.log = s.log ++ [(row.outboxId, .failed)]) : Writes s (.tick worker .commit) s'

section
variable {s s' : State} {event : Event} {db : Db} {outboxId : Nat}

theorem writes_of_step (stepped : step s event = some s') : Writes s event s' := by
  have silent : ∃ marks, s.log = s.log ++ marks ∧ ∀ entry ∈ marks, entry.2 ≠ Mark.failed := ⟨[], by simp, by simp⟩
  have marked : ∀ (outboxId : Nat) (mark : Mark), mark ≠ .failed →
      ∃ marks, s.log ++ [(outboxId, mark)] = s.log ++ marks ∧ ∀ entry ∈ marks, entry.2 ≠ Mark.failed :=
    fun outboxId mark other => ⟨_, rfl, by simpa using other⟩
  cases event with
  | advance elapsed =>
    cases stepped
    exact .nothing (by simp) rfl silent
  | enqueue jobId eventType payload =>
    obtain rfl := enqueued_of_step stepped
    exact .pushed
  | start =>
    cases stepped
    exact .nothing (by simp) rfl silent
  | tick worker action =>
    obtain ⟨tick, present, drains⟩ := drains_of_step stepped
    cases drains with
    | commitDelivered => exact .delivered (working_of_tick present rfl) rfl rfl
    | commitFailed => exact .failed (working_of_tick present rfl) rfl rfl
    | call => exact .nothing (by simp) rfl (marked _ _ (by simp))
    | returned => exact .nothing (by simp) rfl (marked _ _ (by simp))
    | raised => exact .nothing (by simp) rfl (marked _ _ (by simp))
    | kill busy begun => exact .nothing (by simp) rfl (marked _ _ (by simp))
    | _ => exact .nothing (by simp) rfl silent

/-- Rows are never deleted. -/
theorem stored_of_step (stepped : step s event = some s') (stored : (outboxOf outboxId s.db).isSome) :
    (outboxOf outboxId s'.db).isSome := by
  have updated : ∀ (other : Nat) (values : OnrampOutbox → OnrampOutbox), (∀ row, (values row).outboxId = row.outboxId) →
      (outboxOf outboxId (updateOutbox other values s.db)).isSome := by
    intro other values keyed
    by_cases same : outboxId = other
    · subst same
      rw [outboxOf_update_self keyed, Option.isSome_map]
      exact stored
    · rw [outboxOf_update_other keyed same]
      exact stored
  cases writes_of_step stepped with
  | nothing other db log => rwa [db]
  | pushed =>
    obtain ⟨row, found⟩ := Option.isSome_iff_exists.mp stored
    rw [outboxOf_pushOutbox found]
    rfl
  | delivered busy db log =>
    rw [db]
    exact updated _ _ (markDelivered_outboxId _)
  | failed busy db log =>
    rw [db]
    exact updated _ _ (markFailed_outboxId _ _)

/-- No step takes a delivery back. -/
theorem delivered_of_step (stepped : step s event = some s') (delivered : Delivered s.db outboxId) :
    Delivered s'.db outboxId := by
  cases writes_of_step stepped with
  | nothing other db log => rwa [db]
  | pushed => exact delivered.pushed _ _ _
  | delivered busy db log =>
    rw [db]
    refine delivered.updated (markDelivered_outboxId _) ?_
    intro row done
    simp [markDelivered]
  | failed busy db log =>
    rw [db]
    exact delivered.updated (markFailed_outboxId _ _) (fun row done => done)

theorem outboxOf_pushed_new {jobId : String} {eventType : OutboxEventType} {payload : Payload} {row : OnrampOutbox}
    (absent : outboxOf outboxId db = none) (found : outboxOf outboxId (pushOutbox jobId eventType payload db) = some row) :
    row = outboxRow db.nextOutboxId jobId eventType payload := by
  unfold outboxOf at absent
  rw [outboxOf, pushOutbox, List.find?_append, absent, Option.none_or] at found
  simpa using List.mem_of_find?_eq_some found

end

/-- The row was delivered before the first tick, or a dispatch of the row returned. -/
def Dispatched (db : Db) (s : State) (outboxId : Nat) : Prop := Delivered db outboxId ∨ (outboxId, .returned) ∈ s.log

/-- In the run `delivered_at` is set only after a dispatch of the row returned, is not cleared
    again, and a row that was never dispatched successfully is eligible from its next retry on,
    while it has attempts left. -/
structure AtLeastOnce (now : Instant) (db : Db) (events : List Event) : Prop where
  after_return : ∀ before event after outboxId, Takes step (initial now db) events before event after →
    ¬ Delivered before.db outboxId → Delivered after.db outboxId → (outboxId, .returned) ∈ before.log
  not_cleared : ∀ before event after outboxId, Takes step (initial now db) events before event after →
    Delivered before.db outboxId → Delivered after.db outboxId
  stays_eligible : ∀ last, run step (initial now db) events = some last → ∀ outboxId row,
    outboxOf outboxId last.db = some row → ¬ Dispatched db last outboxId → row.attempts < maxAttempts →
      ∀ time, (∀ due ∈ row.nextRetryAt, due ≤ time) → eligible time row = true

/-- The log has the return of every handler whose delivery is still to be recorded, and of every
    row that was delivered since the start. -/
structure Vouched (start : Db) (s : State) : Prop where
  returned : ∀ worker row expiresAt deliveredAt, s.working worker = some ⟨row, expiresAt, .returned deliveredAt⟩ →
    (row.outboxId, .returned) ∈ s.log
  delivered : ∀ outboxId, Delivered s.db outboxId → Dispatched start s outboxId

section
variable {start : Db} {s s' : State} {event : Event} {worker : Nat} {tick tick' : Tick}

theorem delivered_push {db : Db} {jobId : String} {eventType : OutboxEventType} {payload : Payload} {outboxId : Nat}
    (delivered : Delivered (pushOutbox jobId eventType payload db) outboxId) : Delivered db outboxId := by
  obtain ⟨row, found, done⟩ := delivered
  cases old : outboxOf outboxId db with
  | some row' =>
    cases found.symm.trans (outboxOf_pushOutbox old)
    exact ⟨row, old, done⟩
  | none => exact absurd (congrArg OnrampOutbox.deliveredAt (outboxOf_pushed_new old found)) done

/-- An update delivers its own row at most, and only when it sets `delivered_at`. -/
theorem delivered_update {db : Db} {updated outboxId : Nat} {values : OnrampOutbox → OnrampOutbox}
    (keyed : ∀ row, (values row).outboxId = row.outboxId) (delivered : Delivered (updateOutbox updated values db) outboxId) :
    Delivered db outboxId ∨ (outboxId = updated ∧ ∃ row, row.deliveredAt = none ∧ (values row).deliveredAt ≠ none) := by
  obtain ⟨row, found, done⟩ := delivered
  by_cases same : outboxId = updated
  · subst same
    rw [outboxOf_update_self keyed] at found
    obtain ⟨stored, old, rfl⟩ := Option.map_eq_some_iff.mp found
    by_cases before : stored.deliveredAt = none
    · exact .inr ⟨rfl, stored, before, done⟩
    · exact .inl ⟨stored, old, before⟩
  · rw [outboxOf_update_other keyed same] at found
    exact .inl ⟨row, found, done⟩

/-- A row that a step delivers is at that moment at work in a tick whose handler returned. -/
theorem delivered_by_return (stepped : step s event = some s') {outboxId : Nat} (delivered : Delivered s'.db outboxId) :
    Delivered s.db outboxId ∨ ∃ worker row expiresAt deliveredAt,
      s.working worker = some ⟨row, expiresAt, .returned deliveredAt⟩ ∧ row.outboxId = outboxId := by
  cases writes_of_step stepped with
  | nothing other db log => exact .inl (db ▸ delivered)
  | pushed => exact .inl (delivered_push delivered)
  | @delivered worker row expiresAt deliveredAt _ busy db log =>
    rw [db] at delivered
    rcases delivered_update (markDelivered_outboxId _) delivered with old | ⟨rfl, _⟩
    · exact .inl old
    · exact .inr ⟨worker, row, expiresAt, deliveredAt, busy, rfl⟩
  | failed busy db log =>
    rw [db] at delivered
    rcases delivered_update (markFailed_outboxId _ _) delivered with old | ⟨_, stored, open_row, done⟩
    · exact .inl old
    · exact absurd open_row done

theorem returned_of_delivered (vouched : Vouched start s) (stepped : step s event = some s') {outboxId : Nat}
    (delivered : Delivered s'.db outboxId) : Delivered s.db outboxId ∨ (outboxId, .returned) ∈ s.log := by
  rcases delivered_by_return stepped delivered with old | ⟨worker, row, expiresAt, deliveredAt, busy, rfl⟩
  · exact .inl old
  · exact .inr (vouched.returned worker row expiresAt deliveredAt busy)

/-- The log only grows. -/
theorem log_of_step (stepped : step s event = some s') : ∃ marks, s'.log = s.log ++ marks := by
  cases writes_of_step stepped with
  | nothing other db log => exact ⟨_, log.choose_spec.1⟩
  | pushed => exact ⟨[], by simp⟩
  | delivered busy db log => exact ⟨_, log⟩
  | failed busy db log => exact ⟨_, log⟩

/-- The return of a handler is logged with the step in which it returns. -/
theorem returned_of_step (vouched : Vouched start s) (stepped : step s event = some s') (worker : Nat)
    {row : OnrampOutbox} {expiresAt deliveredAt : Instant}
    (busy : s'.working worker = some ⟨row, expiresAt, .returned deliveredAt⟩) : (row.outboxId, .returned) ∈ s'.log := by
  obtain ⟨marks, grown⟩ := log_of_step stepped
  have kept : s.working worker = some ⟨row, expiresAt, .returned deliveredAt⟩ → (row.outboxId, .returned) ∈ s'.log := by
    intro old
    rw [grown]
    exact List.mem_append_left _ (vouched.returned worker row expiresAt deliveredAt old)
  cases event with
  | advance elapsed =>
    cases stepped
    exact kept busy
  | enqueue jobId eventType payload =>
    obtain rfl := enqueued_of_step stepped
    exact kept busy
  | start =>
    cases stepped
    exact kept (working_of_started busy)
  | tick other action =>
    obtain ⟨tick, present, drains⟩ := drains_of_step stepped
    have others : ∀ {now db locks log tick'}, State.working ⟨now, db, locks, s.ticks.set other tick', log⟩ worker =
        some ⟨row, expiresAt, .returned deliveredAt⟩ → tick'.work ≠ some ⟨row, expiresAt, .returned deliveredAt⟩ →
          (row.outboxId, .returned) ∈ s'.log := by
      intro now db locks log tick' busy' differs
      rw [working_set present] at busy'
      by_cases same : worker = other
      · rw [if_pos same] at busy'
        exact absurd busy' differs
      · rw [if_neg same] at busy'
        exact kept busy'
    cases drains with
    | @returned row' expiresAt' rest delivered failed skipped =>
      rw [State.mark, State.put, working_set present] at busy
      by_cases same : worker = other
      · rw [if_pos same] at busy
        cases busy
        exact List.mem_append_right _ (List.mem_singleton.mpr rfl)
      · rw [if_neg same] at busy
        exact kept busy
    | _ => exact others busy (by simp [Tick.work])

theorem Vouched.step (vouched : Vouched start s) (stepped : Dispatcher.step s event = some s') : Vouched start s' := by
  refine ⟨fun worker row expiresAt deliveredAt busy => returned_of_step vouched stepped worker busy, ?_⟩
  intro outboxId delivered
  obtain ⟨marks, grown⟩ := log_of_step stepped
  have logged : (outboxId, Mark.returned) ∈ s.log → Dispatched start s' outboxId := by
    intro inside
    right
    rw [grown]
    exact List.mem_append_left _ inside
  rcases returned_of_delivered vouched stepped delivered with old | inside
  · rcases vouched.delivered outboxId old with first | inside
    · exact .inl first
    · exact logged inside
  · exact logged inside

end

theorem initial_vouched (now : Instant) (db : Db) : Vouched db (initial now db) where
  returned := by
    intro worker row expiresAt deliveredAt busy
    cases busy
  delivered := fun outboxId delivered => .inl delivered

/-- Whatever ticks overlap, however long handlers take and wherever ticks die, every row is
    dispatched at least once: the run sets `delivered_at` only after a handler of the row
    returned, never clears it, and leaves all other rows with attempts within reach. -/
theorem rows_dispatched_at_least_once (now : Instant) (db : Db) (events : List Event) : AtLeastOnce now db events := by
  obtain ⟨reach, along⟩ := invariant_of_run (Vouched db) (fun _ _ => True)
    (fun s event next vouched _ stepped => vouched.step stepped)
    events (initial now db) (initial_vouched now db) (fun _ _ _ _ => trivial)
  refine ⟨?_, ?_, ?_⟩
  · intro before event after outboxId taken fresh delivered
    have vouched := along before event after taken
    exact (returned_of_delivered vouched (stepped_of_takes taken) delivered).resolve_left fresh
  · intro before event after outboxId taken delivered
    exact delivered_of_step (stepped_of_takes taken) delivered
  · intro last reached outboxId row found undispatched _ time due
    have vouched := reach last reached
    have open_row : row.deliveredAt = none := by
      by_contra done
      exact undispatched (vouched.delivered outboxId ⟨row, found, done⟩)
    cases retry : row.nextRetryAt with
    | none => simp [eligible, open_row, retry]
    | some instant => simp [eligible, open_row, retry, due instant (by simp [retry])]

/-! ### Attempts and recorded failures -/

/-- The attempts of the row in the table. -/
def attemptsOf (outboxId : Nat) (db : Db) : Nat := ((outboxOf outboxId db).map OnrampOutbox.attempts).getD 0

/-- The attempts of every row are those it started with and its recorded failures. -/
def Counted (start : Db) (s : State) : Prop :=
  ∀ outboxId, attemptsOf outboxId s.db = attemptsOf outboxId start + s.count outboxId .failed

/-- In every state of the run the attempts count the recorded failures, and no step lowers them. -/
structure AttemptsAccounted (now : Instant) (db : Db) (events : List Event) : Prop where
  counted : ∀ before event after, Takes step (initial now db) events before event after → Counted db after
  not_lowered : ∀ before event after outboxId, Takes step (initial now db) events before event after →
    attemptsOf outboxId before.db ≤ attemptsOf outboxId after.db

/-- A failure is recorded by a tick whose batch has the attempts that the row has now. -/
def Current (s : State) : Event → Prop
  | .tick worker .commit => ∀ row ∈ recording s worker, attemptsOf row.outboxId s.db = row.attempts
  | _ => True

instance (s : State) (event : Event) : Decidable (Current s event) :=
  match event with
  | .tick worker .commit =>
    inferInstanceAs (Decidable (∀ row ∈ recording s worker, attemptsOf row.outboxId s.db = row.attempts))
  | .tick _ (.select _) | .tick _ .acquire | .tick _ .call | .tick _ .returned | .tick _ .raised
  | .tick _ .updateRaised | .tick _ .die | .advance _ | .enqueue .. | .start => isTrue trivial

/-- The rows of the start, of the batches and of the log are in the table. -/
structure Present (start : Db) (s : State) : Prop where
  kept : ∀ outboxId, (outboxOf outboxId start).isSome → (outboxOf outboxId s.db).isSome
  listed : ∀ tick ∈ s.ticks, ∀ row ∈ entries tick, (outboxOf row.outboxId s.db).isSome
  logged : ∀ outboxId, (outboxId, .failed) ∈ s.log → (outboxOf outboxId s.db).isSome

section
variable {start : Db} {s s' : State} {event : Event} {worker : Nat} {tick tick' : Tick} {outboxId : Nat}

theorem Present.working (present : Present start s) {work : Work} (busy : s.working worker = some work) :
    (outboxOf work.row.outboxId s.db).isSome := by
  obtain ⟨tick, found, busy'⟩ := Option.bind_eq_some_iff.mp busy
  exact present.listed tick (List.mem_of_getElem? found) work.row (by simp [entries, busy'])

/-- The rows of the ticks after a step are rows of the ticks before, or come from the table. -/
theorem listed_of_step (present : Present start s) (stepped : step s event = some s') :
    ∀ tick ∈ s'.ticks, ∀ row ∈ entries tick, (outboxOf row.outboxId s.db).isSome := by
  cases event with
  | advance elapsed =>
    cases stepped
    exact present.listed
  | enqueue jobId eventType payload =>
    obtain rfl := enqueued_of_step stepped
    exact present.listed
  | start =>
    cases stepped
    intro tick inside row entry
    rcases List.mem_append.mp inside with old | new
    · exact present.listed tick old row entry
    · obtain rfl := List.mem_singleton.mp new
      cases entry
  | tick worker action =>
    obtain ⟨tick, found, drains⟩ := drains_of_step stepped
    have own := present.listed tick (List.mem_of_getElem? found)
    have among : ∀ tick', (∀ row ∈ entries tick', (outboxOf row.outboxId s.db).isSome) →
        ∀ other ∈ s.ticks.set worker tick', ∀ row ∈ entries other, (outboxOf row.outboxId s.db).isSome := by
      intro tick' entered other inside row entry
      rcases List.mem_or_eq_of_mem_set inside with old | rfl
      · exact present.listed other old row entry
      · exact entered row entry
    cases drains with
    | select selected =>
      refine among _ ?_
      intro row entry
      have stored := (selectBatch_mem selected entry).1
      rw [outboxOf, List.find?_isSome]
      exact ⟨row, stored, by simp⟩
    | skip => exact among _ (fun row entry => own row (List.mem_cons_of_mem _ entry))
    | die idle => exact among _ (fun row entry => own row (List.mem_append_right _ entry))
    | kill busy begun => exact among _ (fun row entry => own row (List.mem_append_right _ entry))
    | commitDelivered => exact among _ (fun row entry => own row (List.mem_cons_of_mem _ entry))
    | commitFailed => exact among _ (fun row entry => own row (List.mem_cons_of_mem _ entry))
    | _ => exact among _ (fun row entry => own row entry)

theorem Present.step (present : Present start s) (stepped : Dispatcher.step s event = some s') : Present start s' := by
  refine ⟨?_, ?_, ?_⟩
  · intro outboxId first
    exact stored_of_step stepped (present.kept outboxId first)
  · intro tick inside row entry
    exact stored_of_step stepped (listed_of_step present stepped tick inside row entry)
  · intro outboxId inside
    refine stored_of_step stepped ?_
    cases writes_of_step stepped with
    | nothing other db log =>
      obtain ⟨marks, grown, silent⟩ := log
      rw [grown] at inside
      rcases List.mem_append.mp inside with old | new
      · exact present.logged outboxId old
      · exact absurd rfl (silent _ new)
    | pushed => exact present.logged outboxId inside
    | delivered busy db log =>
      rw [log] at inside
      rcases List.mem_append.mp inside with old | new
      · exact present.logged outboxId old
      · cases List.mem_singleton.mp new
    | failed busy db log =>
      rw [log] at inside
      rcases List.mem_append.mp inside with old | new
      · exact present.logged outboxId old
      · cases List.mem_singleton.mp new
        exact present.working busy

theorem attemptsOf_push {db : Db} {jobId : String} {eventType : OutboxEventType} {payload : Payload} :
    attemptsOf outboxId (pushOutbox jobId eventType payload db) = attemptsOf outboxId db := by
  unfold attemptsOf
  cases old : outboxOf outboxId db with
  | some row => rw [outboxOf_pushOutbox old]
  | none =>
    cases new : outboxOf outboxId (pushOutbox jobId eventType payload db) with
    | none => rfl
    | some row =>
      rw [outboxOf_pushed_new old new]
      rfl

theorem attemptsOf_update_other {db : Db} {updated : Nat} {values : OnrampOutbox → OnrampOutbox}
    (keyed : ∀ row, (values row).outboxId = row.outboxId) (differs : outboxId ≠ updated) :
    attemptsOf outboxId (updateOutbox updated values db) = attemptsOf outboxId db := by
  rw [attemptsOf, outboxOf_update_other keyed differs, attemptsOf]

theorem attemptsOf_delivered {db : Db} {updated : Nat} {deliveredAt : Instant} :
    attemptsOf outboxId (updateOutbox updated (markDelivered deliveredAt) db) = attemptsOf outboxId db := by
  by_cases same : outboxId = updated
  · subst same
    rw [attemptsOf, outboxOf_update_self (markDelivered_outboxId _), Option.map_map]
    rfl
  · exact attemptsOf_update_other (markDelivered_outboxId _) same

theorem attemptsOf_failed {db : Db} {attempts : Nat} {retryAt : Option Instant} (stored : (outboxOf outboxId db).isSome) :
    attemptsOf outboxId (updateOutbox outboxId (markFailed attempts retryAt) db) = attempts := by
  obtain ⟨row, found⟩ := Option.isSome_iff_exists.mp stored
  rw [attemptsOf, outboxOf_update_self (markFailed_outboxId _ _), found]
  rfl

theorem count_append_silent {marks : List (Nat × Mark)} (grown : s'.log = s.log ++ marks)
    (silent : ∀ entry ∈ marks, entry.2 ≠ .failed) : s'.count outboxId .failed = s.count outboxId .failed := by
  have none : marks.count (outboxId, Mark.failed) = 0 := List.count_eq_zero.mpr (fun inside => silent _ inside rfl)
  rw [State.count, grown, List.count_append, none]
  rfl

/-- A step keeps the count exactly when the failure that it records, if any, is current. -/
theorem counted_of_step_iff (present : Present start s) (counted : Counted start s) (stepped : step s event = some s') :
    Counted start s' ↔ Current s event := by
  have quiet : (∀ outboxId, attemptsOf outboxId s'.db = attemptsOf outboxId s.db) →
      (∀ outboxId, s'.count outboxId .failed = s.count outboxId .failed) → Counted start s' := by
    intro attempts failures outboxId
    rw [attempts, failures, counted]
  cases writes_of_step stepped with
  | nothing other db log =>
    obtain ⟨marks, grown, silent⟩ := log
    refine iff_of_true (quiet (fun _ => by rw [db]) (fun _ => count_append_silent grown silent)) ?_
    cases event with
    | tick worker action =>
      cases action with
      | commit => exact absurd rfl (other worker)
      | _ => trivial
    | _ => trivial
  | pushed => exact iff_of_true (quiet (fun _ => attemptsOf_push) (fun _ => rfl)) trivial
  | delivered busy db log =>
    refine iff_of_true (quiet (fun _ => by rw [db, attemptsOf_delivered]) ?_) ?_
    · exact fun _ => count_append_silent log (by simp)
    · simp [Current, recording, busy]
  | @failed worker row expiresAt retryAt _ busy db log =>
    have stored : (outboxOf row.outboxId s.db).isSome := present.working busy
    have failures : ∀ outboxId, s'.count outboxId .failed = s.count outboxId .failed + if row.outboxId = outboxId then 1 else 0 := by
      intro outboxId
      simp [State.count, log, List.count_singleton]
    have own : attemptsOf row.outboxId s'.db = row.attempts + 1 := by
      rw [db, attemptsOf_failed stored]
      rfl
    have current : Current s (.tick worker .commit) ↔ attemptsOf row.outboxId s.db = row.attempts := by
      simp [Current, recording, busy]
    rw [current]
    constructor
    · intro all
      have same := all row.outboxId
      rw [own, failures, if_pos rfl] at same
      have before := counted row.outboxId
      omega
    · intro same outboxId
      rw [failures]
      by_cases here : row.outboxId = outboxId
      · subst here
        have before := counted row.outboxId
        rw [own, if_pos rfl]
        omega
      · rw [if_neg here, db, attemptsOf_update_other (markFailed_outboxId _ _) (Ne.symm here), counted]
        rfl

end

theorem initial_present (now : Instant) (db : Db) : Present db (initial now db) where
  kept := fun _ stored => stored
  listed := by
    intro tick inside
    cases inside
  logged := by
    intro outboxId inside
    cases inside

theorem counted_initial (now : Instant) (db : Db) : Counted db (initial now db) := fun _ => rfl

theorem accounted_of_current {now : Instant} {db : Db} {events : List Event}
    (current : ∀ before event after, Takes step (initial now db) events before event after → Current before event) :
    AttemptsAccounted now db events := by
  obtain ⟨_, along⟩ := invariant_of_run (fun s => Present db s ∧ Counted db s) Current
    (fun s event next both meets stepped =>
      ⟨both.1.step stepped, (counted_of_step_iff both.1 both.2 stepped).mpr meets⟩)
    events (initial now db) ⟨initial_present now db, counted_initial now db⟩ current
  have after_counted : ∀ before event after, Takes step (initial now db) events before event after → Counted db after := by
    intro before event after taken
    obtain ⟨present, counted⟩ := along before event after taken
    exact (counted_of_step_iff present counted (stepped_of_takes taken)).mpr (current before event after taken)
  refine ⟨after_counted, ?_⟩
  intro before event after outboxId taken
  obtain ⟨marks, grown⟩ := log_of_step (stepped_of_takes taken)
  rw [(along before event after taken).2 outboxId, after_counted before event after taken outboxId]
  refine Nat.add_le_add_left ?_ _
  rw [State.count, State.count, grown, List.count_append]
  exact Nat.le_add_right _ _

/-- Along a run of overlapping ticks the attempts of all rows count their recorded failures and
    never go down if and only if every failure is recorded by a tick whose batch still has the
    attempts of the row. -/
theorem attempts_accounted_iff (now : Instant) (db : Db) (events : List Event) :
    AttemptsAccounted now db events ↔
      ∀ before event after, Takes step (initial now db) events before event after → Current before event := by
  have along := along_iff_of_run (Present db) (Counted db) Current
    (fun s event next present stepped => present.step stepped)
    (fun s event next present counted stepped => counted_of_step_iff present counted stepped)
    events (initial now db) (initial_present now db) (counted_initial now db)
  exact ⟨fun accounted => along.mp accounted.counted, accounted_of_current⟩

/-- The locks are enough for that where none is granted while another tick is overdue with the
    row, or for a row that changed since the batch was read. -/
theorem accounted_of_orderly (now : Instant) (db : Db) (events : List Event)
    (orderly : ∀ before event after, Takes step (initial now db) events before event after →
      Orderly Unchanged before event) : AttemptsAccounted now db events := by
  obtain ⟨_, along⟩ := invariant_of_run (Exclusive Unchanged) (Orderly Unchanged)
    (fun s event next exclusive orderly stepped => exclusive.step unchanged_steady orderly stepped)
    events (initial now db) (initial_exclusive Unchanged now db) orderly
  refine accounted_of_current ?_
  intro before event after taken
  cases event with
  | tick worker action =>
    cases action with
    | commit =>
      intro row recorded
      have busy : ∃ work, before.working worker = some work ∧ work.row = row := by
        unfold recording at recorded
        split at recorded
        · next found =>
          cases recorded
          exact ⟨_, found, rfl⟩
        · cases recorded
      obtain ⟨work, busy, rfl⟩ := busy
      obtain ⟨stored, found, attempts, _⟩ := ((along before _ after taken).standing worker work busy).stored
      rw [attemptsOf, found]
      exact attempts
    | _ => trivial
  | _ => trivial

/-- Two ticks read the same batch. The handler of the first takes 31 seconds to fail; by then
    the second has the lock of the message too and has recorded a failure. -/
def overlappingFailures : List Event :=
  [.start, .tick 0 (.select [1, 2]), .start, .tick 1 (.select [1, 2]), .tick 0 .acquire, .tick 0 .call, .advance (seconds 31),
    .tick 1 .acquire, .tick 1 .call, .tick 1 .raised, .tick 1 .commit, .tick 0 .raised]

/-- Two failures are on record and the row has one attempt. -/
theorem overlapping_failures_lose_attempt :
    ¬ ∀ (now : Instant) (db : Db) (events : List Event), AttemptsAccounted now db events := by
  intro always
  have counted := (always 0 sampleOutbox (overlappingFailures ++ [.tick 0 .commit])).counted _ _ _ (takes_of_run rfl rfl) 1
  revert counted
  decide

end Onramp.Retries
