import Mathlib.Algebra.GroupWithZero.Nat
import Onramp.Attempts

/-!
The dispatcher keeps to its schedule, even where it does not give up. Ticks overlap, die with
a row in hand and commit what an old batch told them, so a count of failures can fall back;
but each count that a row was ever stored with stands for the delays before it, and no tick
reads the row before they are over.
-/
namespace Onramp.Backoff
open Onramp.Database
open Onramp.Dispatcher
open Onramp.Attempts (entries sevenTicks)
open Onramp.Deliveries (sampleOutbox)
open Onramp.Library.Runs (run Takes invariant_of_run)

/-- The delays after so many failures, together. -/
def waited (failures : Nat) : Nat := (backoffScheduleSeconds.take failures).sum

/-- In the run from a state, no handler is called for a row that was read with some failures
    before their delays are over, and none is counted before the delays of those before it. -/
structure Paced (s : State) (events : List Event) (outboxId : Nat) : Prop where
  called : ∀ before worker after work, Takes step s events before (.tick worker .call) after →
    before.working worker = some work → work.row.outboxId = outboxId →
      s.now + seconds (waited work.row.attempts) ≤ before.now
  counted : ∀ last, run step s events = some last → ∀ row ∈ last.db.outbox, row.outboxId = outboxId →
    s.now + seconds (waited (row.attempts - 1)) ≤ last.now

/-- The row is as it was written and no tick has read it. -/
def Untried (s : State) (row : OnrampOutbox) : Prop :=
  row.attempts = 0 ∧ row.nextRetryAt = none ∧ ∀ tick ∈ s.ticks, ∀ entry ∈ entries tick, entry.outboxId ≠ row.outboxId

theorem backoffFor_failures (failures : Nat) : backoffFor failures = backoffScheduleSeconds[failures]? := by
  unfold backoffFor
  by_cases beyond : maxAttempts ≤ failures
  · rw [if_pos (.inr (Int.ofNat_le.mpr beyond)), List.getElem?_eq_none beyond]
  · rw [if_neg]
    · rfl
    · omega

theorem waited_succ (failures : Nat) :
    waited (failures + 1) = waited failures + (backoffScheduleSeconds[failures]?).getD 0 := by
  unfold waited
  rw [List.take_add_one, List.sum_append]
  cases backoffScheduleSeconds[failures]? with
  | none => rfl
  | some delay => rfl

theorem seconds_add (n m : Nat) : seconds (n + m) = seconds n + seconds m := Nat.add_mul n m 1000000

/-- No delay comes before the first call. -/
theorem since_untried (since : Instant) : since + seconds (waited 0) = since := by
  rw [waited, List.take_zero, List.sum_nil, seconds, Nat.zero_mul, Nat.add_zero]

/-- The delay that a failure brings comes on top of those before it. -/
theorem nextRetryAt_waits {since now : Instant} {row : OnrampOutbox}
    (rested : since + seconds (waited row.attempts) ≤ now) :
    since + seconds (waited (nextAttempts row)) ≤ (nextRetryAt now row).getD now := by
  have last : (nextAttempts row : Int) - 1 = row.attempts := by simp [nextAttempts]
  have due : nextRetryAt now row = backoffScheduleSeconds[row.attempts]?.map (fun delay => now + seconds delay) := by
    rw [nextRetryAt, last, backoffFor_failures]
  have total : seconds (waited (nextAttempts row)) =
      seconds (waited row.attempts) + seconds (backoffScheduleSeconds[row.attempts]?.getD 0) := by
    rw [nextAttempts, waited_succ, seconds_add]
  rw [due, total]
  cases backoffScheduleSeconds[row.attempts]? with
  | none =>
    have none_left : seconds 0 = 0 := Nat.zero_mul _
    rw [Option.getD_none, Option.map_none, Option.getD_none, none_left, Nat.add_zero]
    exact rested
  | some delay =>
    rw [Option.getD_some, Option.map_some, Option.getD_some, ← Nat.add_assoc]
    exact Nat.add_le_add_right rested (seconds delay)

/-- The row is not eligible before the delays of its failures are over, and has no failure too
    many by now. -/
structure Rested (since now : Instant) (row : OnrampOutbox) : Prop where
  due : row.deliveredAt = none → since + seconds (waited row.attempts) ≤ row.nextRetryAt.getD now
  counted : since + seconds (waited (row.attempts - 1)) ≤ now

/-- The rows that a tick has under an id were due when it read them. -/
structure OnTime (since : Instant) (outboxId : Nat) (now : Instant) (tick : Tick) : Prop where
  reading : ∀ asked, tick.phase = .selecting asked → asked ≤ now
  batch : ∀ row ∈ entries tick, row.outboxId = outboxId → since + seconds (waited row.attempts) ≤ now
  failing : ∀ row expiresAt retryAt, tick.phase = .working ⟨row, expiresAt, .raised retryAt⟩ → row.outboxId = outboxId →
    since + seconds (waited (nextAttempts row)) ≤ retryAt.getD now

section
variable {since now now' : Instant} {outboxId : Nat} {row : OnrampOutbox} {tick : Tick}

theorem getD_later {due : Option Instant} (passes : now ≤ now') {earliest : Instant} (waits : earliest ≤ due.getD now) :
    earliest ≤ due.getD now' := by
  cases due with
  | none => exact le_trans waits passes
  | some due => exact waits

theorem Rested.later (rested : Rested since now row) (passes : now ≤ now') : Rested since now' row where
  due := fun undelivered => getD_later passes (rested.due undelivered)
  counted := le_trans rested.counted passes

/-- A row that the SELECT finds has rested. -/
theorem Rested.eligible {asked : Instant} (rested : Rested since now row) (found : Dispatcher.eligible asked row = true)
    (past : asked ≤ now) : since + seconds (waited row.attempts) ≤ now := by
  simp only [Dispatcher.eligible, Bool.and_eq_true, Bool.or_eq_true, Option.isNone_iff_eq_none] at found
  obtain ⟨undelivered, untried | due⟩ := found
  · have waits := rested.due undelivered
    rwa [untried] at waits
  · obtain ⟨due, same, arrived⟩ := (Option.any_eq_true _ _).mp due
    have waits := rested.due undelivered
    rw [same] at waits
    exact le_trans waits (le_trans (of_decide_eq_true arrived) past)

theorem OnTime.later (onTime : OnTime since outboxId now tick) (passes : now ≤ now') : OnTime since outboxId now' tick where
  reading := fun asked phase => le_trans (onTime.reading asked phase) passes
  batch := fun row listed same => le_trans (onTime.batch row listed same) passes
  failing := fun row expiresAt retryAt phase same => getD_later passes (onTime.failing row expiresAt retryAt phase same)

/-- A tick that is not working on a row. -/
theorem OnTime.idle {rows : List OnrampOutbox} {delivered failed skipped : Nat}
    (batch : ∀ row ∈ rows, row.outboxId = outboxId → since + seconds (waited row.attempts) ≤ now) :
    OnTime since outboxId now ⟨.looping, rows, delivered, failed, skipped⟩ := by
  refine ⟨?_, batch, ?_⟩
  · intro asked phase
    cases phase
  · intro row expiresAt retryAt phase
    cases phase

/-- A tick that is working on a row without having failed. -/
theorem OnTime.busy {expiresAt : Instant} {progress : Progress} {rows : List OnrampOutbox} {delivered failed skipped : Nat}
    (batch : ∀ entry ∈ row :: rows, entry.outboxId = outboxId → since + seconds (waited entry.attempts) ≤ now)
    (well : ∀ retryAt, progress ≠ .raised retryAt) :
    OnTime since outboxId now ⟨.working ⟨row, expiresAt, progress⟩, rows, delivered, failed, skipped⟩ := by
  refine ⟨?_, batch, ?_⟩
  · intro asked phase
    cases phase
  · intro row' expiresAt' retryAt phase
    cases phase
    exact absurd rfl (well retryAt)

/-- The handler of the row raises, or the update of its delivery. -/
theorem OnTime.raises {expiresAt : Instant} {progress : Progress} {rows : List OnrampOutbox} {delivered failed skipped : Nat}
    (onTime : OnTime since outboxId now ⟨.working ⟨row, expiresAt, progress⟩, rows, delivered, failed, skipped⟩) :
    OnTime since outboxId now
      ⟨.working ⟨row, expiresAt, .raised (nextRetryAt now row)⟩, rows, delivered, failed, skipped⟩ := by
  refine ⟨?_, onTime.batch, ?_⟩
  · intro asked phase
    cases phase
  · intro row' expiresAt' retryAt phase same
    cases phase
    exact nextRetryAt_waits (onTime.batch row List.mem_cons_self same)

/-- A tick that starts. -/
theorem OnTime.started (delivered failed skipped : Nat) :
    OnTime since outboxId now ⟨.selecting now, [], delivered, failed, skipped⟩ := by
  refine ⟨?_, ?_, ?_⟩
  · intro asked phase
    cases phase
    exact le_refl now
  · intro row listed
    cases listed
  · intro row expiresAt retryAt phase
    cases phase

theorem OnTime.dead (onTime : OnTime since outboxId now tick) : OnTime since outboxId now { tick with phase := .dead } := by
  refine ⟨?_, fun row listed => onTime.batch row (List.mem_append_right _ listed), ?_⟩
  · intro asked phase
    cases phase
  · intro row expiresAt retryAt phase
    cases phase

end

/-- What holds of a row in every state behind one in which it was untried. -/
structure Spaced (since : Instant) (outboxId : Nat) (s : State) : Prop where
  clock : since ≤ s.now
  stored : ∀ row ∈ s.db.outbox, row.outboxId = outboxId → Rested since s.now row
  ticks : ∀ tick ∈ s.ticks, OnTime since outboxId s.now tick

section
variable {since : Instant} {outboxId worker : Nat} {s s' : State} {tick tick' : Tick}

theorem rested_new (clock : since ≤ s.now) (jobId : String) (eventType : OutboxEventType) (payload : Payload) :
    Rested since s.now (outboxRow outboxId jobId eventType payload) := by
  have attempts : (outboxRow outboxId jobId eventType payload).attempts = 0 := rfl
  have due : (outboxRow outboxId jobId eventType payload).nextRetryAt.getD s.now = s.now := rfl
  refine ⟨fun _ => ?_, ?_⟩
  · rw [attempts, since_untried, due]
    exact clock
  · rw [attempts, Nat.zero_sub, since_untried]
    exact clock

/-- The values of a failure come from the batch, however the row is stored. -/
theorem rested_failed {row stored : OnrampOutbox} {retryAt : Option Instant} {now : Instant}
    (counted : since + seconds (waited row.attempts) ≤ now)
    (due : since + seconds (waited (nextAttempts row)) ≤ retryAt.getD now) :
    Rested since now (markFailed (nextAttempts row) retryAt stored) := by
  have attempts : (markFailed (nextAttempts row) retryAt stored).attempts = row.attempts + 1 := rfl
  refine ⟨fun _ => due, ?_⟩
  rw [attempts, Nat.add_sub_cancel]
  exact counted

theorem Spaced.put (before : Spaced since outboxId s) (entered : OnTime since outboxId s.now tick') :
    Spaced since outboxId (s.put worker tick') := by
  refine ⟨before.clock, before.stored, ?_⟩
  intro other inside
  rcases List.mem_or_eq_of_mem_set inside with old | rfl
  · exact before.ticks other old
  · exact entered

theorem Spaced.mark (before : Spaced since outboxId s) (marked : Nat) (mark : Mark) :
    Spaced since outboxId (s.mark marked mark) :=
  ⟨before.clock, before.stored, before.ticks⟩

theorem Spaced.locks (before : Spaced since outboxId s) (locks : Library.Leasing.Leases Nat Nat) :
    Spaced since outboxId { s with locks := locks } :=
  ⟨before.clock, before.stored, before.ticks⟩

/-- An update that leaves the rows under its id rested. -/
theorem Spaced.updated (before : Spaced since outboxId s) (updated : Nat) {values : OnrampOutbox → OnrampOutbox}
    (keyed : ∀ row, (values row).outboxId = row.outboxId)
    (rests : updated = outboxId → ∀ row, Rested since s.now row → Rested since s.now (values row)) :
    Spaced since outboxId { s with db := updateOutbox updated values s.db } := by
  refine ⟨before.clock, ?_, before.ticks⟩
  intro row inside same
  obtain ⟨old, stored, rfl⟩ := List.mem_map.mp inside
  by_cases chosen : old.outboxId = updated
  · rw [if_pos chosen] at same ⊢
    rw [keyed] at same
    exact rests (chosen.symm.trans same) old (before.stored old stored same)
  · rw [if_neg chosen] at same ⊢
    exact before.stored old stored same

/-- The tick commits the outcome of a row and goes on to the next. -/
theorem Spaced.committed (before : Spaced since outboxId s) {updated : Nat} {values : OnrampOutbox → OnrampOutbox}
    (keyed : ∀ row, (values row).outboxId = row.outboxId)
    (rests : updated = outboxId → ∀ row, Rested since s.now row → Rested since s.now (values row))
    {rows : List OnrampOutbox} {delivered failed skipped : Nat} {mark : Mark}
    (batch : ∀ row ∈ rows, row.outboxId = outboxId → since + seconds (waited row.attempts) ≤ s.now) :
    Spaced since outboxId ({ s.put worker ⟨.looping, rows, delivered, failed, skipped⟩ with
      db := updateOutbox updated values s.db }.mark updated mark) :=
  ((before.put (.idle batch)).updated updated keyed rests).mark updated mark

theorem Spaced.step {event : Event} (before : Spaced since outboxId s) (stepped : step s event = some s') :
    Spaced since outboxId s' := by
  cases event with
  | advance elapsed =>
    cases stepped
    have passes : s.now ≤ s.now + elapsed := Nat.le_add_right _ _
    exact ⟨le_trans before.clock passes, fun row inside same => (before.stored row inside same).later passes,
      fun tick inside => (before.ticks tick inside).later passes⟩
  | enqueue jobId eventType payload =>
    obtain rfl := enqueued_of_step stepped
    refine ⟨before.clock, ?_, before.ticks⟩
    intro row inside same
    rcases List.mem_append.mp inside with old | new
    · exact before.stored row old same
    · obtain rfl := List.mem_singleton.mp new
      exact rested_new before.clock jobId eventType payload
  | start =>
    cases stepped
    refine ⟨before.clock, before.stored, ?_⟩
    intro tick inside
    rcases List.mem_append.mp inside with old | new
    · exact before.ticks tick old
    · obtain rfl := List.mem_singleton.mp new
      exact .started 0 0 0
  | tick worker action =>
    obtain ⟨tick, present, drains⟩ := drains_of_step stepped
    have onTime : OnTime since outboxId s.now tick := before.ticks tick (List.mem_of_getElem? present)
    cases drains with
    | select selected =>
      refine before.put (.idle ?_)
      intro row listed same
      obtain ⟨stored, _, eligible⟩ := selectBatch_mem selected listed
      exact (before.stored row stored same).eligible eligible (onTime.reading _ rfl)
    | skip => exact before.put (.idle fun row listed => onTime.batch row (List.mem_cons_of_mem _ listed))
    | grant taken => exact (before.put (.busy onTime.batch (by simp))).locks _
    | call => exact (before.put (.busy onTime.batch (by simp))).mark _ _
    | returned => exact (before.put (.busy onTime.batch (by simp))).mark _ _
    | raised => exact (before.put onTime.raises).mark _ _
    | updateRaised => exact before.put onTime.raises
    | commitDelivered =>
      refine before.committed (markDelivered_outboxId _) ?_ (fun row listed => onTime.batch row (List.mem_cons_of_mem _ listed))
      intro _ row rested
      -- a delivered row is never read again
      exact ⟨fun undelivered => absurd undelivered (by simp [markDelivered]), rested.counted⟩
    | commitFailed =>
      refine before.committed (markFailed_outboxId _ _) ?_ (fun row listed => onTime.batch row (List.mem_cons_of_mem _ listed))
      intro same row _
      exact rested_failed (onTime.batch _ List.mem_cons_self same) (onTime.failing _ _ _ rfl same)
    | die idle => exact before.put onTime.dead
    | kill busy begun => exact (before.put onTime.dead).mark _ _

end

/-- What holds in every state of a run: the ticks have read rows of the table, at a time that
    is past. -/
structure Known (s : State) : Prop where
  reading : ∀ tick ∈ s.ticks, ∀ asked, tick.phase = .selecting asked → asked ≤ s.now
  batch : ∀ tick ∈ s.ticks, ∀ entry ∈ entries tick, entry.outboxId ∈ s.db.outbox.map OnrampOutbox.outboxId

section
variable {s s' : State} {worker : Nat} {tick tick' : Tick}

theorem ids_update {updated : Nat} {values : OnrampOutbox → OnrampOutbox} {db : Db}
    (keyed : ∀ row, (values row).outboxId = row.outboxId) :
    (updateOutbox updated values db).outbox.map OnrampOutbox.outboxId = db.outbox.map OnrampOutbox.outboxId := by
  simp only [updateOutbox, List.map_map]
  refine List.map_congr_left ?_
  intro row _
  simp only [Function.comp_apply]
  split
  · exact keyed row
  · rfl

/-- A tick goes on with rows that are in the table. -/
theorem Known.moved (before : Known s) (ticks : s'.ticks = s.ticks.set worker tick') (now : s'.now = s.now)
    (ids : s'.db.outbox.map OnrampOutbox.outboxId = s.db.outbox.map OnrampOutbox.outboxId)
    (read : ∀ asked, tick'.phase ≠ .selecting asked)
    (stored : ∀ entry ∈ entries tick', entry.outboxId ∈ s.db.outbox.map OnrampOutbox.outboxId) : Known s' := by
  refine ⟨?_, ?_⟩
  · rw [ticks, now]
    intro other inside asked phase
    rcases List.mem_or_eq_of_mem_set inside with old | rfl
    · exact before.reading other old asked phase
    · exact absurd phase (read asked)
  · rw [ticks, ids]
    intro other inside entry listed
    rcases List.mem_or_eq_of_mem_set inside with old | rfl
    · exact before.batch other old entry listed
    · exact stored entry listed

theorem Known.step {event : Event} (before : Known s) (stepped : step s event = some s') : Known s' := by
  cases event with
  | advance elapsed =>
    cases stepped
    exact ⟨fun tick inside asked phase => le_trans (before.reading tick inside asked phase) (Nat.le_add_right _ _),
      before.batch⟩
  | enqueue jobId eventType payload =>
    obtain rfl := enqueued_of_step stepped
    refine ⟨before.reading, ?_⟩
    intro tick inside entry listed
    simp only [pushOutbox, List.map_append]
    exact List.mem_append_left _ (before.batch tick inside entry listed)
  | start =>
    cases stepped
    refine ⟨?_, ?_⟩
    · intro tick inside asked phase
      rcases List.mem_append.mp inside with old | new
      · exact before.reading tick old asked phase
      · obtain rfl := List.mem_singleton.mp new
        cases phase
        exact le_refl _
    · intro tick inside entry listed
      rcases List.mem_append.mp inside with old | new
      · exact before.batch tick old entry listed
      · obtain rfl := List.mem_singleton.mp new
        cases listed
  | tick worker action =>
    obtain ⟨tick, present, drains⟩ := drains_of_step stepped
    have batch : ∀ entry ∈ entries tick, entry.outboxId ∈ s.db.outbox.map OnrampOutbox.outboxId :=
      before.batch tick (List.mem_of_getElem? present)
    cases drains with
    | select selected =>
      refine before.moved rfl rfl rfl (by simp) ?_
      intro entry listed
      exact List.mem_map_of_mem (selectBatch_mem selected listed).1
    | skip => exact before.moved rfl rfl rfl (by simp) (fun entry listed => batch entry (List.mem_cons_of_mem _ listed))
    | commitDelivered =>
      refine before.moved rfl rfl (ids_update (markDelivered_outboxId _)) (by simp) ?_
      exact fun entry listed => batch entry (List.mem_cons_of_mem _ listed)
    | commitFailed =>
      refine before.moved rfl rfl (ids_update (markFailed_outboxId _ _)) (by simp) ?_
      exact fun entry listed => batch entry (List.mem_cons_of_mem _ listed)
    | die idle => exact before.moved rfl rfl rfl (by simp) (fun entry listed => batch entry (List.mem_append_right _ listed))
    | kill busy begun =>
      exact before.moved rfl rfl rfl (by simp) (fun entry listed => batch entry (List.mem_append_right _ listed))
    | _ => exact before.moved rfl rfl rfl (by simp) batch

/-- A state in which the rows under an id are untried, if there are any yet. -/
theorem Known.spaced (known : Known s) {outboxId : Nat}
    (untried : ∀ row ∈ s.db.outbox, row.outboxId = outboxId → Untried s row) : Spaced s.now outboxId s := by
  have unread : ∀ tick ∈ s.ticks, ∀ entry ∈ entries tick, entry.outboxId ≠ outboxId := by
    intro tick inside entry listed same
    obtain ⟨row, stored, keyed⟩ := List.mem_map.mp (known.batch tick inside entry listed)
    exact (untried row stored (keyed.trans same)).2.2 tick inside entry listed keyed.symm
  refine ⟨le_refl _, ?_, ?_⟩
  · intro row stored same
    obtain ⟨attempts, due, _⟩ := untried row stored same
    refine ⟨fun _ => ?_, ?_⟩
    · rw [attempts, due, since_untried]
      exact le_refl _
    · rw [attempts, Nat.zero_sub, since_untried]
  · intro tick inside
    refine ⟨known.reading tick inside, ?_, ?_⟩
    · intro row listed same
      exact absurd same (unread tick inside row listed)
    · intro row expiresAt retryAt phase same
      exact absurd same (unread tick inside row (by simp [entries, Tick.work, phase]))

end

/-- From any state of a run in which a row is not yet written or has not been tried, whatever the
    ticks, their batches, handlers and deaths: a handler is called for the row as read with so many
    failures only when all of their delays are over. -/
theorem backoff_respected (now : Instant) (db : Db) (front back : List Event) (middle : State) (outboxId : Nat)
    (reached : run step (initial now db) front = some middle)
    (untried : ∀ row ∈ middle.db.outbox, row.outboxId = outboxId → Untried middle row) : Paced middle back outboxId := by
  have idle : Known (initial now db) := ⟨fun _ inside => (nomatch inside), fun _ inside => (nomatch inside)⟩
  have known : Known middle := (invariant_of_run Known (fun _ _ => True) (fun s event next before _ stepped => before.step stepped)
    front (initial now db) idle (fun _ _ _ _ => trivial)).1 middle reached
  obtain ⟨reach, along⟩ := invariant_of_run (Spaced middle.now outboxId) (fun _ _ => True)
    (fun s event next before _ stepped => before.step stepped) back middle (known.spaced untried) (fun _ _ _ _ => trivial)
  refine ⟨?_, ?_⟩
  · intro before worker after work taken busy same
    obtain ⟨tick, present, working⟩ := Option.bind_eq_some_iff.mp busy
    have onTime := (along before _ after taken).ticks tick (List.mem_of_getElem? present)
    exact onTime.batch work.row (by simp [entries, working]) same
  · intro last ended row stored same
    exact ((reach last ended).stored row stored same).counted

/-- The seven dispatches of a message whose handler always raises. -/
theorem backoff_respected_seven_ticks : Paced (initial 0 sampleOutbox) (sevenTicks ++ [.tick 6 .call]) 1 := by
  refine backoff_respected 0 sampleOutbox [] _ _ 1 rfl ?_
  intro row stored _
  have written : ∀ row ∈ sampleOutbox.outbox, row.attempts = 0 ∧ row.nextRetryAt = none := by decide
  exact ⟨(written row stored).1, (written row stored).2, fun _ inside => (nomatch inside)⟩

end Onramp.Backoff
