import Onramp.Deliveries

/-!
What it takes for the dispatcher to give a row up after MAX_ATTEMPTS. Nothing in the SELECT
counts attempts: a row that failed six times waits for a day and is then eligible again, and
from the seventh failure on its `next_retry_at` is NULL, which the SELECT takes for a row that
was never tried.
-/
namespace Onramp.Attempts
open Onramp.Database
open Onramp.Dispatcher
open Onramp.Deliveries
open Onramp.Library.Keyed (upsert)
open Onramp.Library.Leasing (held setNx held_upsert_expired)
open Onramp.Library.Runs (run run_append Takes invariant_of_run stepped_of_takes takes_of_run checked of_checked)

/-- The row is undelivered after MAX_ATTEMPTS. -/
def Exhausted (row : OnrampOutbox) : Prop := row.deliveredAt = none ∧ maxAttempts ≤ row.attempts

/-- In the run no handler is called for an exhausted row, an exhausted row stays as it is, and
    no row is dispatched more than MAX_ATTEMPTS times, dispatches apart whose tick died. -/
structure GivesUp (s : State) (events : List Event) : Prop where
  not_called : ∀ before worker after work row, Takes step s events before (.tick worker .call) after →
    before.working worker = some work → outboxOf work.row.outboxId before.db = some row → ¬ Exhausted row
  left_alone : ∀ before event after outboxId row, Takes step s events before event after →
    outboxOf outboxId before.db = some row → Exhausted row → outboxOf outboxId after.db = some row
  bounded : ∀ last, run step s events = some last → ∀ outboxId,
    last.count outboxId .called ≤ last.count outboxId .killed + maxAttempts

/-- The row of a batch is in the table as the batch has it. -/
def Unchanged (db : Db) (row : OnrampOutbox) : Prop :=
  (outboxOf row.outboxId db).map (fun stored => (stored.attempts, stored.deliveredAt)) = some (row.attempts, none)

instance (db : Db) (row : OnrampOutbox) : Decidable (Unchanged db row) :=
  inferInstanceAs (Decidable (_ = _))

/-- The time as of which the tick reads its batch, if that is what it does next. -/
def readsAt (s : State) (worker : Nat) : Option Instant :=
  match s.ticks[worker]? with
  | some ⟨.selecting now, _, _, _, _⟩ => some now
  | _ => none

/-- No undelivered row with MAX_ATTEMPTS is due when a batch is read, and a lock is granted only where no tick
    is overdue with the row and the row is unchanged since the batch was read. -/
def Careful (s : State) : Event → Prop
  | .tick worker (.select _) =>
    ∀ now ∈ readsAt s worker, ∀ row ∈ s.db.outbox, eligible now row = true → row.attempts < maxAttempts
  | event => Orderly Unchanged s event

instance (s : State) (event : Event) : Decidable (Careful s event) :=
  match event with
  | .tick worker (.select _) =>
    inferInstanceAs (Decidable
      (∀ now ∈ readsAt s worker, ∀ row ∈ s.db.outbox, eligible now row = true → row.attempts < maxAttempts))
  | .tick worker .acquire => inferInstanceAs (Decidable (Orderly Unchanged s (.tick worker .acquire)))
  | .tick _ .call | .tick _ .returned | .tick _ .raised | .tick _ .commit | .tick _ .updateRaised | .tick _ .die
  | .advance _ | .enqueue .. | .start => isTrue trivial

theorem Careful.orderly {s : State} {event : Event} (careful : Careful s event) : Orderly Unchanged s event := by
  cases event with
  | tick worker action =>
    cases action with
    | select ids => trivial
    | _ => exact careful
  | _ => exact careful

/-- The attempts of the row in the table, its delivery among them. -/
def settled (outboxId : Nat) (db : Db) : Nat :=
  match outboxOf outboxId db with
  | some row => row.attempts + if row.deliveredAt.isSome then 1 else 0
  | none => 0

/-- The tick has called the handler of the row and not committed the outcome. -/
def pends (outboxId : Nat) (tick : Tick) : Bool := tick.work.any (Work.pending outboxId)

/-- How many ticks do. -/
def pending (outboxId : Nat) (s : State) : Nat := s.ticks.countP (pends outboxId)

section
variable {s : State} {worker outboxId : Nat} {tick tick' : Tick} {db : Db} {row : OnrampOutbox}

theorem pends_iff : pends outboxId tick = true ↔
    ∃ work, tick.work = some work ∧ work.progress ≠ .locked ∧ work.row.outboxId = outboxId := by
  cases busy : tick.work with
  | none => simp [pends, busy]
  | some work =>
    obtain ⟨row, expiresAt, progress⟩ := work
    cases progress <;> simp [pends, busy, Work.pending]

theorem count_mark (marked other : Nat) (mark sought : Mark) :
    (s.mark marked mark).count other sought = s.count other sought + if marked = other ∧ mark = sought then 1 else 0 := by
  simp [State.count, State.mark, List.count_append, List.count_singleton]

theorem count_mark_other {marked other : Nat} {mark sought : Mark} (differs : mark ≠ sought) :
    (s.mark marked mark).count other sought = s.count other sought := by
  rw [count_mark, if_neg (fun both => differs both.2), Nat.add_zero]

@[simp] theorem count_put (sought : Mark) : (s.put worker tick).count outboxId sought = s.count outboxId sought := rfl

theorem pending_set (outboxId : Nat) (tick' : Tick) (present : s.ticks[worker]? = some tick) :
    (s.ticks.set worker tick').countP (pends outboxId) + (if pends outboxId tick then 1 else 0) =
      pending outboxId s + if pends outboxId tick' then 1 else 0 := by
  obtain ⟨inside, here⟩ := List.getElem?_eq_some_iff.mp present
  obtain ⟨front, back, split, _, replaced⟩ : ∃ front back, s.ticks = front ++ s.ticks[worker] :: back ∧
      front.length = worker ∧ s.ticks.set worker tick' = front ++ tick' :: back := List.exists_of_set inside
  rw [replaced, pending, split, here]
  simp only [List.countP_append, List.countP_cons]
  omega

theorem Unchanged.stored (stands : Unchanged db row) :
    ∃ stored, outboxOf row.outboxId db = some stored ∧ stored.attempts = row.attempts ∧ stored.deliveredAt = none := by
  obtain ⟨stored, found, same⟩ := Option.map_eq_some_iff.mp stands
  exact ⟨stored, found, Prod.mk.inj same⟩

theorem unchanged_steady : Steady Unchanged where
  pushed := by
    intro db row jobId eventType payload stands
    obtain ⟨stored, found, attempts, undelivered⟩ := stands.stored
    rw [Unchanged, outboxOf_pushOutbox found, Option.map_some, attempts, undelivered]
  updated := by
    intro db row updated values keyed differs stands
    rw [Unchanged, outboxOf_update_other keyed differs]
    exact stands

theorem settled_of_unchanged (stands : Unchanged db row) : settled row.outboxId db = row.attempts := by
  obtain ⟨stored, found, attempts, undelivered⟩ := stands.stored
  simp [settled, found, attempts, undelivered]

@[simp] theorem settled_push (jobId : String) (eventType : OutboxEventType) (payload : Payload) :
    settled outboxId (pushOutbox jobId eventType payload db) = settled outboxId db := by
  cases found : outboxOf outboxId db with
  | some row => simp only [settled, outboxOf_pushOutbox found, found]
  | none =>
    unfold outboxOf at found
    by_cases same : db.nextOutboxId = outboxId <;> simp [settled, outboxOf, pushOutbox, outboxRow, found, same]

theorem settled_update {values : OnrampOutbox → OnrampOutbox} (keyed : ∀ row, (values row).outboxId = row.outboxId)
    (stands : Unchanged db row)
    (counted : ∀ stored, stored.attempts = row.attempts → stored.deliveredAt = none →
      (values stored).attempts + (if (values stored).deliveredAt.isSome then 1 else 0) = row.attempts + 1) :
    settled outboxId (updateOutbox row.outboxId values db) =
      settled outboxId db + if row.outboxId = outboxId then 1 else 0 := by
  by_cases same : row.outboxId = outboxId
  · subst same
    rw [settled_of_unchanged stands, if_pos rfl]
    obtain ⟨stored, found, attempts, undelivered⟩ := stands.stored
    simp only [settled, outboxOf_update_self keyed, found, Option.map_some]
    exact counted stored attempts undelivered
  · rw [if_neg same]
    simp only [settled, outboxOf_update_other keyed (Ne.symm same), Nat.add_zero]

end

/-- The rows that a tick still has of its batch, with the one it is at work on. -/
def entries (tick : Tick) : List OnrampOutbox := (tick.work.map Work.row).toList ++ tick.rows

/-- What holds in every state of a careful run: the calls of a row are its attempts, the calls
    under way and those whose tick died. -/
structure Tallied (s : State) : Prop where
  exclusive : Exclusive Unchanged s
  batches : ∀ tick ∈ s.ticks, ∀ row ∈ entries tick, row.attempts < maxAttempts
  tally : ∀ outboxId, s.count outboxId .called ≤ s.count outboxId .killed + settled outboxId s.db + pending outboxId s
  bounded : ∀ outboxId, s.count outboxId .called ≤ s.count outboxId .killed + maxAttempts

section
variable {s s' : State} {worker : Nat} {tick tick' : Tick}

theorem Tallied.batches_set (before : Tallied s) (entered : ∀ row ∈ entries tick', row.attempts < maxAttempts) :
    ∀ other ∈ s.ticks.set worker tick', ∀ row ∈ entries other, row.attempts < maxAttempts := by
  intro other inside row listed
  rcases List.mem_or_eq_of_mem_set inside with old | rfl
  · exact before.batches other old row listed
  · exact entered row listed

theorem Tallied.working_open (before : Tallied s) (present : s.ticks[worker]? = some tick) {work : Work}
    (busy : tick.work = some work) : work.row.attempts < maxAttempts ∧ Unchanged s.db work.row := by
  refine ⟨?_, before.exclusive.standing worker work (working_of_tick present busy)⟩
  exact before.batches tick (List.mem_of_getElem? present) work.row (by simp [entries, busy])

/-- No tick is at work on an exhausted row. -/
theorem Tallied.not_exhausted (before : Tallied s) (present : s.ticks[worker]? = some tick) {work : Work}
    (busy : tick.work = some work) {row : OnrampOutbox} (found : outboxOf work.row.outboxId s.db = some row) :
    ¬ Exhausted row := by
  rintro ⟨_, enough⟩
  obtain ⟨open_row, stands⟩ := before.working_open present busy
  obtain ⟨stored, same, attempts, _⟩ := stands.stored
  cases found.symm.trans same
  omega

/-- A step that changes none of the counts. -/
theorem Tallied.quiet (before : Tallied s) (exclusive : Exclusive Unchanged s')
    (batches : ∀ tick ∈ s'.ticks, ∀ row ∈ entries tick, row.attempts < maxAttempts)
    (called : ∀ outboxId, s'.count outboxId .called = s.count outboxId .called)
    (killed : ∀ outboxId, s'.count outboxId .killed = s.count outboxId .killed)
    (settles : ∀ outboxId, settled outboxId s'.db = settled outboxId s.db)
    (pends : ∀ outboxId, pending outboxId s' = pending outboxId s) : Tallied s' := by
  refine ⟨exclusive, batches, ?_, ?_⟩
  · intro outboxId
    rw [called, killed, settles, pends]
    exact before.tally outboxId
  · intro outboxId
    rw [called, killed]
    exact before.bounded outboxId

/-- No tick has called the handler of a row that another holds without having called it. -/
theorem Tallied.none_pending (before : Tallied s) (present : s.ticks[worker]? = some tick) {work : Work}
    (busy : tick.work = some work) (locked : work.progress = .locked) : pending work.row.outboxId s = 0 := by
  refine List.countP_eq_zero.mpr ?_
  intro other inside waiting
  obtain ⟨work', busy', begun, same⟩ := pends_iff.mp waiting
  obtain ⟨place, present'⟩ := List.getElem?_of_mem inside
  obtain rfl : place = worker :=
    before.exclusive.alone place worker work' work (working_of_tick present' busy') (working_of_tick present busy) same
  cases present.symm.trans present'
  cases busy.symm.trans busy'
  exact begun locked

theorem Tallied.called (before : Tallied s) (present : s.ticks[worker]? = some tick) {row : OnrampOutbox}
    {expiresAt : Instant} (busy : tick.work = some ⟨row, expiresAt, .locked⟩)
    (busy' : tick'.work = some ⟨row, expiresAt, .called⟩) (rows : tick'.rows = tick.rows)
    (exclusive : Exclusive Unchanged ((s.put worker tick').mark row.outboxId .called)) :
    Tallied ((s.put worker tick').mark row.outboxId .called) := by
  obtain ⟨open_row, stands⟩ : row.attempts < maxAttempts ∧ Unchanged s.db row := before.working_open present busy
  have alone : pending row.outboxId s = 0 := before.none_pending present busy rfl
  have attempts : settled row.outboxId s.db = row.attempts := settled_of_unchanged stands
  have entered : ∀ row ∈ entries tick', row.attempts < maxAttempts := by
    intro row listed
    exact before.batches tick (List.mem_of_getElem? present) row (by simpa [entries, busy, busy', rows] using listed)
  refine ⟨exclusive, before.batches_set entered, ?_, ?_⟩
  · intro outboxId
    have tally := before.tally outboxId
    have moved := pending_set outboxId tick' present
    rw [show pends outboxId tick = false by simp [pends, busy, Work.pending],
      show pends outboxId tick' = decide (row.outboxId = outboxId) by simp [pends, busy', Work.pending]] at moved
    simp only [count_mark, count_put, and_true, reduceCtorEq, and_false, if_false, mark_db, put_db, pending, mark_ticks,
      put_ticks]
    by_cases same : row.outboxId = outboxId <;> simp [same, pending] at moved tally ⊢ <;> omega
  · intro outboxId
    simp only [count_mark, count_put, and_true, reduceCtorEq, and_false, if_false]
    by_cases same : row.outboxId = outboxId
    · subst same
      have tally := before.tally row.outboxId
      simp only [if_true]
      omega
    · simpa [same] using before.bounded outboxId

theorem Tallied.ended (before : Tallied s) (present : s.ticks[worker]? = some tick) {work : Work}
    (busy : tick.work = some work) (begun : work.progress ≠ .locked) (idle : tick'.work = none)
    (rows : tick'.rows = tick.rows) (exclusive : Exclusive Unchanged s') (ticks : s'.ticks = s.ticks.set worker tick')
    (called : ∀ outboxId, s'.count outboxId .called = s.count outboxId .called)
    (counted : ∀ outboxId, s'.count outboxId .killed + settled outboxId s'.db =
      s.count outboxId .killed + settled outboxId s.db + if work.row.outboxId = outboxId then 1 else 0)
    (killed : ∀ outboxId, s.count outboxId .killed ≤ s'.count outboxId .killed) : Tallied s' := by
  refine ⟨exclusive, ?_, ?_, ?_⟩
  · rw [ticks]
    refine before.batches_set ?_
    intro row listed
    simp only [entries, idle, rows, Option.map_none, Option.toList_none, List.nil_append] at listed
    exact before.batches tick (List.mem_of_getElem? present) row (List.mem_append_right _ listed)
  · intro outboxId
    have tally := before.tally outboxId
    have moved := pending_set outboxId tick' present
    have waits : pends outboxId tick = decide (work.row.outboxId = outboxId) := by
      rw [Bool.eq_iff_iff, pends_iff, decide_eq_true_eq]
      simp [busy, begun]
    rw [waits, show pends outboxId tick' = false by simp [pends, idle], ← ticks] at moved
    have attempts := counted outboxId
    rw [called outboxId]
    by_cases same : work.row.outboxId = outboxId <;> simp [same, pending] at moved tally attempts ⊢ <;> omega
  · intro outboxId
    rw [called outboxId]
    exact (before.bounded outboxId).trans (Nat.add_le_add_right (killed outboxId) _)

theorem Tallied.committed (before : Tallied s) (present : s.ticks[worker]? = some tick) {work : Work}
    (busy : tick.work = some work) {values : OnrampOutbox → OnrampOutbox} {mark : Mark}
    (exclusive : Exclusive Unchanged
      ({ s.put worker tick' with db := updateOutbox work.row.outboxId values s.db }.mark work.row.outboxId mark))
    (begun : work.progress ≠ .locked) (idle : tick'.work = none) (rows : tick'.rows = tick.rows)
    (keyed : ∀ row, (values row).outboxId = row.outboxId) (other : mark ≠ .called) (another : mark ≠ .killed)
    (counted : ∀ stored, stored.attempts = work.row.attempts → stored.deliveredAt = none →
      (values stored).attempts + (if (values stored).deliveredAt.isSome then 1 else 0) = work.row.attempts + 1) :
    Tallied ({ s.put worker tick' with db := updateOutbox work.row.outboxId values s.db }.mark work.row.outboxId mark) := by
  have stands : Unchanged s.db work.row := (before.working_open present busy).2
  refine before.ended present busy begun idle rows exclusive rfl ?_ ?_ ?_
  · exact fun outboxId => count_mark_other other
  · intro outboxId
    rw [count_mark_other another, mark_db, settled_update keyed stands counted]
    exact (Nat.add_assoc _ _ _).symm
  · exact fun outboxId => (count_mark_other another).ge

/-- A tick takes up or drops rows, or learns the outcome of its call. -/
theorem Tallied.moved (before : Tallied s) (present : s.ticks[worker]? = some tick) (exclusive : Exclusive Unchanged s')
    (ticks : s'.ticks = s.ticks.set worker tick') (db : s'.db = s.db)
    (batches : ∀ row ∈ entries tick', row.attempts < maxAttempts)
    (same : ∀ outboxId, pends outboxId tick' = pends outboxId tick)
    (called : ∀ outboxId, s'.count outboxId .called = s.count outboxId .called)
    (killed : ∀ outboxId, s'.count outboxId .killed = s.count outboxId .killed) : Tallied s' := by
  refine before.quiet exclusive ?_ called killed (fun outboxId => by rw [db]) ?_
  · rw [ticks]
    exact before.batches_set batches
  · intro outboxId
    have moved := pending_set outboxId tick' present
    rw [same outboxId, ← ticks] at moved
    exact Nat.add_right_cancel moved

theorem Tallied.step {event : Event} (before : Tallied s) (careful : Careful s event) (stepped : step s event = some s') :
    Tallied s' := by
  have exclusive : Exclusive Unchanged s' := before.exclusive.step unchanged_steady careful.orderly stepped
  cases event with
  | advance elapsed =>
    cases stepped
    exact before.quiet exclusive before.batches (fun _ => rfl) (fun _ => rfl) (fun _ => rfl) (fun _ => rfl)
  | enqueue jobId eventType payload =>
    obtain rfl := enqueued_of_step stepped
    exact before.quiet exclusive before.batches (fun _ => rfl) (fun _ => rfl) (fun _ => settled_push _ _ _) (fun _ => rfl)
  | start =>
    cases stepped
    refine before.quiet exclusive ?_ (fun _ => rfl) (fun _ => rfl) (fun _ => rfl) ?_
    · intro tick inside row listed
      rcases List.mem_append.mp inside with old | new
      · exact before.batches tick old row listed
      · obtain rfl := List.mem_singleton.mp new
        cases listed
    · intro outboxId
      simp [pending, pends, Tick.work]
  | tick worker action =>
    obtain ⟨tick, present, drains⟩ := drains_of_step stepped
    have batch : ∀ row ∈ entries tick, row.attempts < maxAttempts :=
      before.batches tick (List.mem_of_getElem? present)
    cases drains with
    | select selected =>
      refine before.moved present exclusive rfl rfl ?_ (fun _ => rfl) (fun _ => rfl) (fun _ => rfl)
      intro row listed
      obtain ⟨stored, _, due⟩ := selectBatch_mem selected listed
      exact careful _ (by rw [readsAt, present]; rfl) row stored due
    | skip =>
      refine before.moved present exclusive rfl rfl ?_ (fun _ => rfl) (fun _ => rfl) (fun _ => rfl)
      intro row listed
      exact batch row (List.mem_cons_of_mem _ listed)
    | grant taken =>
      refine before.moved present exclusive rfl rfl ?_ (fun _ => rfl) (fun _ => rfl) (fun _ => rfl)
      intro row listed
      exact batch row listed
    | call => exact before.called present rfl rfl rfl exclusive
    | returned =>
      refine before.moved present exclusive rfl rfl (fun row listed => batch row listed) (fun _ => rfl) ?_ ?_
      · exact fun outboxId => count_mark_other (by simp)
      · exact fun outboxId => count_mark_other (by simp)
    | raised =>
      refine before.moved present exclusive rfl rfl (fun row listed => batch row listed) (fun _ => rfl) ?_ ?_
      · exact fun outboxId => count_mark_other (by simp)
      · exact fun outboxId => count_mark_other (by simp)
    | updateRaised =>
      exact before.moved present exclusive rfl rfl (fun row listed => batch row listed) (fun _ => rfl) (fun _ => rfl)
        (fun _ => rfl)
    | commitDelivered =>
      refine before.committed present rfl exclusive (by simp) rfl rfl (markDelivered_outboxId _) (by simp) (by simp) ?_
      intro stored attempts _
      simp [markDelivered, attempts]
    | commitFailed =>
      refine before.committed present rfl exclusive (by simp) rfl rfl (markFailed_outboxId _ _) (by simp) (by simp) ?_
      intro stored _ undelivered
      simp [markFailed, undelivered, nextAttempts]
    | die idle =>
      refine before.moved present exclusive rfl rfl ?_ ?_ (fun _ => rfl) (fun _ => rfl)
      · intro row listed
        exact batch row (List.mem_append_right _ listed)
      · intro outboxId
        rw [Bool.eq_iff_iff, pends_iff, pends_iff]
        constructor
        · rintro ⟨work, busy, _⟩
          cases busy
        · rintro ⟨work, busy, begun, _⟩
          exact absurd (idle work busy) begun
    | kill busy begun =>
      refine before.ended present busy begun ?_ ?_ exclusive rfl ?_ ?_ ?_
      · rfl
      · rfl
      · exact fun outboxId => count_mark_other (by simp)
      · intro outboxId
        simp only [count_mark, and_true, mark_db, put_db]
        exact Nat.add_right_comm _ _ _
      · intro outboxId
        rw [count_mark]
        exact Nat.le_add_right _ _

theorem Tallied.update_left_alone (before : Tallied s) (present : s.ticks[worker]? = some tick) {work : Work}
    (busy : tick.work = some work) {values : OnrampOutbox → OnrampOutbox}
    (keyed : ∀ row, (values row).outboxId = row.outboxId) {outboxId : Nat} {row : OnrampOutbox}
    (found : outboxOf outboxId s.db = some row) (exhausted : Exhausted row) :
    outboxOf outboxId (updateOutbox work.row.outboxId values s.db) = some row := by
  rw [outboxOf_update_other keyed, found]
  rintro rfl
  exact before.not_exhausted present busy found exhausted

theorem Tallied.left_alone {event : Event} (before : Tallied s) (stepped : Dispatcher.step s event = some s') {outboxId : Nat}
    {row : OnrampOutbox} (found : outboxOf outboxId s.db = some row) (exhausted : Exhausted row) :
    outboxOf outboxId s'.db = some row := by
  cases event with
  | advance elapsed =>
    cases stepped
    exact found
  | enqueue jobId eventType payload =>
    obtain rfl := enqueued_of_step stepped
    exact outboxOf_pushOutbox found
  | start =>
    cases stepped
    exact found
  | tick worker action =>
    obtain ⟨tick, present, drains⟩ := drains_of_step stepped
    cases drains with
    | commitDelivered => exact before.update_left_alone present rfl (markDelivered_outboxId _) found exhausted
    | commitFailed => exact before.update_left_alone present rfl (markFailed_outboxId _ _) found exhausted
    | _ => exact found

end

theorem initial_tallied (now : Instant) (db : Db) : Tallied (initial now db) := by
  refine ⟨initial_exclusive Unchanged now db, ?_, ?_, ?_⟩
  · intro tick inside
    cases inside
  · intro outboxId
    exact Nat.zero_le _
  · intro outboxId
    exact Nat.zero_le _

/-! ### Main results -/

/-- Where no exhausted row is due when a batch is read, and a lock is granted only while no tick is
    overdue with the row and the row is as the batch has it, the dispatcher gives up: whatever
    the handlers raise, an exhausted row is left as it is and none is dispatched for ever. -/
theorem gives_up_at_max_attempts (now : Instant) (db : Db) (events : List Event)
    (careful : ∀ before event after, Takes step (initial now db) events before event after → Careful before event) :
    GivesUp (initial now db) events := by
  obtain ⟨reach, along⟩ := invariant_of_run Tallied Careful
    (fun s event next before careful stepped => before.step careful stepped)
    events (initial now db) (initial_tallied now db) careful
  refine ⟨?_, ?_, ?_⟩
  · intro before worker after work row taken busy found
    obtain ⟨tick, present, busy'⟩ := Option.bind_eq_some_iff.mp busy
    exact (along before _ after taken).not_exhausted present busy' found
  · intro before event after outboxId row taken found exhausted
    exact (along before event after taken).left_alone (stepped_of_takes taken) found exhausted
  · intro last reached outboxId
    exact (reach last reached).bounded outboxId

/-- A tick that calls the handler of the message in vain. -/
def failingTick (worker : Nat) : List Event :=
  [.start, .tick worker (.select [1, 2]), .tick worker .acquire, .tick worker .call, .tick worker .raised,
    .tick worker .commit]

/-- Six such ticks, each after the delay of the one before. -/
def sixTicks : List Event :=
  failingTick 0 ++ .advance (seconds 30) :: failingTick 1 ++ .advance (seconds 30) ::
    failingTick 2 ++ .advance (seconds 300) :: failingTick 3 ++ .advance (seconds 1800) ::
    failingTick 4 ++ .advance (seconds 7200) :: failingTick 5

/-- An hour after the six ticks, another one reads the other row alone and delivers it. -/
def restingTicks : List Event :=
  sixTicks ++ [.advance (seconds 3600), .start, .tick 6 (.select [2]), .tick 6 .acquire, .tick 6 .call, .tick 6 .returned,
    .tick 6 .commit]

/-- The message is dispatched six times and then rests. -/
theorem gives_up_at_max_attempts_six_ticks :
    ∃ last, run step (initial 0 sampleOutbox) restingTicks = some last ∧ last.count 1 .called = maxAttempts ∧
      last.count 2 .delivered = 1 ∧ GivesUp (initial 0 sampleOutbox) restingTicks := by
  generalize given : restingTicks = events
  have all_careful : checked step (fun s event => decide (Careful s event)) (initial 0 sampleOutbox) events = true := by
    rw [← given]
    decide +kernel
  have counts : (run step (initial 0 sampleOutbox) events).map (fun last => (last.count 1 .called, last.count 2 .delivered)) =
      some (maxAttempts, 1) := by
    rw [← given]
    decide +kernel
  obtain ⟨last, reached, counted⟩ := Option.map_eq_some_iff.mp counts
  refine ⟨last, reached, congrArg Prod.fst counted, congrArg Prod.snd counted, gives_up_at_max_attempts 0 sampleOutbox events ?_⟩
  intro before event after taken
  have passed := of_checked all_careful taken
  exact of_decide_eq_true passed

/-- A day after the six ticks, the seventh as far as its lock. -/
def sevenTicks : List Event :=
  sixTicks ++ .advance (seconds 86400) :: [.start, .tick 6 (.select [1, 2]), .tick 6 .acquire]

/-- After six failures and a day the message is dispatched a seventh time. -/
theorem exhausted_row_called_again :
    ¬ ∀ (now : Instant) (db : Db) (events : List Event), GivesUp (initial now db) events := by
  intro always
  have never := (always 0 sampleOutbox (sevenTicks ++ [.tick 6 .call])).not_called
  refine never _ 6 _ _ _ (takes_of_run rfl rfl) rfl rfl ⟨rfl, ?_⟩
  decide

/-- The message after more than six failures, beside another row. -/
structure Insistent (s : State) (row other : OnrampOutbox) : Prop where
  outbox : s.db.outbox = [row, other]
  first : row.outboxId = 1
  second : other.outboxId = 2
  exhausted : Exhausted row
  untried : row.nextRetryAt = none
  other_untried : other.deliveredAt = none ∧ other.nextRetryAt = none
  free : held 1 (s.now + seconds 30) s.locks = false

theorem nextRetryAt_none {now : Instant} {row : OnrampOutbox} (attempts : maxAttempts ≤ row.attempts) :
    nextRetryAt now row = none := by
  have beyond : backoffFor ((nextAttempts row : Int) - 1) = none := by
    unfold backoffFor nextAttempts
    rw [if_pos]
    right
    omega
  rw [nextRetryAt, beyond]
  rfl

/-- A further tick calls the handler of the message once more, and the message insists. -/
theorem Insistent.again {s : State} {row other : OnrampOutbox} (insistent : Insistent s row other) :
    ∃ next row, run step s (.advance (seconds 30) :: failingTick s.ticks.length) = some next ∧ Insistent next row other ∧
      next.count 1 .called = s.count 1 .called + 1 ∧ next.count 1 .killed = s.count 1 .killed := by
  obtain ⟨outbox, first, second, ⟨open_row, attempts⟩, untried, ⟨open_other, other_untried⟩, free⟩ := insistent
  obtain ⟨now, db, locks, ticks, log⟩ := s
  simp only at outbox free
  have batch : selectBatch (now + seconds 30) [1, 2] db = some [row, other] := by
    simp [selectBatch, eligible, outbox, open_row, untried, open_other, other_untried, first, second, batchSize]
  have ran : run step ⟨now, db, locks, ticks, log⟩ (.advance (seconds 30) :: failingTick ticks.length) = some
      { now := now + seconds 30
        db := updateOutbox 1 (markFailed (nextAttempts row) none) db
        locks := upsert 1 ⟨ticks.length, now + seconds 30 + seconds lockTtlSeconds⟩ locks
        ticks := ticks ++ [⟨.looping, [other], 0, 1, 0⟩]
        log := log ++ [(1, .called), (1, .raised), (1, .failed)] } := by
    simp [run, step, failingTick, drainOnce, batch, State.put, State.mark, acquireLock, setNx, first, free,
      nextRetryAt_none attempts]
  refine ⟨_, markFailed (nextAttempts row) none row, ran, ⟨?_, first, second, ⟨open_row, ?_⟩, rfl, ?_, ?_⟩, ?_, ?_⟩
  · simp [updateOutbox, outbox, first, second]
  · exact le_trans attempts (Nat.le_succ _)
  · exact ⟨open_other, other_untried⟩
  · exact held_upsert_expired (Nat.add_le_add_left (le_refl (seconds 30)) _)
  · simp [State.count]
  · simp [State.count]

/-- While its handler raises, a message is dispatched any number of times: no tick dies and
    no two ticks overlap. -/
theorem dispatched_without_end (n : Nat) : ∃ events last,
    run step (initial 0 sampleOutbox) events = some last ∧ n ≤ last.count 1 .called ∧ last.count 1 .killed = 0 := by
  have insists : ∃ events last row other, run step (initial 0 sampleOutbox) events = some last ∧ Insistent last row other ∧
      n ≤ last.count 1 .called ∧ last.count 1 .killed = 0 := by
    induction n with
    | zero =>
      refine ⟨sevenTicks ++ [.tick 6 .call, .tick 6 .raised, .tick 6 .commit], _, _, _, rfl,
        ⟨rfl, rfl, rfl, ⟨rfl, ?_⟩, rfl, ⟨rfl, rfl⟩, ?_⟩, Nat.zero_le _, rfl⟩
      · decide
      · decide
    | succ n ih =>
      obtain ⟨events, last, row, other, reached, insistent, calls, alive⟩ := ih
      obtain ⟨next, row', ran, insistent', called, killed⟩ := insistent.again
      refine ⟨events ++ .advance (seconds 30) :: failingTick last.ticks.length, next, row', other, ?_, insistent', ?_, ?_⟩
      · rw [run_append, reached]
        exact ran
      · rw [called]
        exact Nat.succ_le_succ calls
      · rw [killed, alive]
  obtain ⟨events, last, _, _, reached, _, calls, alive⟩ := insists
  exact ⟨events, last, reached, calls, alive⟩

end Onramp.Attempts
