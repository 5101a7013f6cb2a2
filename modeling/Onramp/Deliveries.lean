import Onramp.Dispatcher
import Onramp.Library.Runs

/-!
No row is dispatched once it is delivered, as long as a tick gets the lock of a row only
when no other tick is overdue with it and the row of its batch is not delivered since. The
lock of a tick keeps the others away until it runs out, and no longer: its batch is as old
as the tick, and nothing reads the row again.
-/
namespace Onramp.Deliveries
open Onramp.Database
open Onramp.Dispatcher
open Onramp.Library.Keyed (find)
open Onramp.Library.Leasing (Leases held setNx free_of_setNx find_setNx_self find_setNx_other expired_of_setNx)
open Onramp.Library.Runs (run Takes invariant_of_run checked of_checked)

/-- What is known of the row of a batch in the table, as long as nobody else updates the row. -/
structure Steady (Standing : Db → OnrampOutbox → Prop) : Prop where
  pushed : ∀ {db row} (jobId eventType payload), Standing db row → Standing (pushOutbox jobId eventType payload db) row
  updated : ∀ {db row} (outboxId values), (∀ row, (values row).outboxId = row.outboxId) → row.outboxId ≠ outboxId →
    Standing db row → Standing (updateOutbox outboxId values db) row

/-- Every tick at work on a row has the lock of the row until it runs out, no two ticks are at
    work on one row, and what is known of the row stays so while a tick is at work on it. -/
structure Exclusive (Standing : Db → OnrampOutbox → Prop) (s : State) : Prop where
  locked : ∀ worker work, s.working worker = some work → s.now < work.expiresAt →
    find work.row.outboxId s.locks = some ⟨worker, work.expiresAt⟩
  alone : ∀ worker other work work', s.working worker = some work → s.working other = some work' →
    work.row.outboxId = work'.row.outboxId → worker = other
  standing : ∀ worker work, s.working worker = some work → Standing s.db work.row

/-- The row whose lock the tick of the worker gets if it asks now. -/
def grantedRow (s : State) (worker : Nat) : Option OnrampOutbox :=
  match s.ticks[worker]? with
  | some ⟨.looping, row :: _, _, _, _⟩ => if held row.outboxId s.now s.locks then none else some row
  | _ => none

/-- No tick is at work on the row longer than its lock lasts. -/
def NoneOverdue (s : State) (outboxId : Nat) : Prop :=
  ∀ tick ∈ s.ticks, ∀ work ∈ tick.work, work.row.outboxId = outboxId → s.now < work.expiresAt

/-- A lock is granted only where no tick is overdue with the row, and only for a row with
    the standing. -/
def Orderly (Standing : Db → OnrampOutbox → Prop) (s : State) : Event → Prop
  | .tick worker .acquire => ∀ row ∈ grantedRow s worker, NoneOverdue s row.outboxId ∧ Standing s.db row
  | _ => True

instance (s : State) (outboxId : Nat) : Decidable (NoneOverdue s outboxId) :=
  inferInstanceAs (Decidable (∀ tick ∈ s.ticks, ∀ work ∈ tick.work, work.row.outboxId = outboxId → s.now < work.expiresAt))

instance (Standing : Db → OnrampOutbox → Prop) [∀ db row, Decidable (Standing db row)] (s : State) (event : Event) :
    Decidable (Orderly Standing s event) :=
  match event with
  | .tick worker .acquire =>
    inferInstanceAs (Decidable (∀ row ∈ grantedRow s worker, NoneOverdue s row.outboxId ∧ Standing s.db row))
  | .tick _ (.select _) | .tick _ .call | .tick _ .returned | .tick _ .raised | .tick _ .commit
  | .tick _ .updateRaised | .tick _ .die | .advance _ | .enqueue .. | .start => isTrue trivial

section
variable {Standing : Db → OnrampOutbox → Prop} {s s' : State} {worker : Nat} {tick tick' : Tick} {work : Work}

theorem working_of_tick (present : s.ticks[worker]? = some tick) (busy : tick.work = some work) :
    s.working worker = some work := by
  rw [State.working, present]
  exact busy

theorem working_of_started {rows : List OnrampOutbox} {now : Instant}
    (busy : State.working { s with ticks := s.ticks ++ [⟨.selecting now, rows, 0, 0, 0⟩] } worker = some work) :
    s.working worker = some work := by
  obtain ⟨tick, present, busy'⟩ := Option.bind_eq_some_iff.mp busy
  rw [List.getElem?_append] at present
  split at present
  · exact working_of_tick present busy'
  · obtain rfl := List.mem_singleton.mp (List.mem_of_getElem? present)
    cases busy'

/-- The work on a row goes on, or ends. -/
def Continues (old new : Option Work) : Prop :=
  ∀ work', new = some work' → ∃ work, old = some work ∧ work.row = work'.row ∧ work.expiresAt = work'.expiresAt

theorem Continues.refl (work : Option Work) : Continues work work :=
  fun work' busy => ⟨work', busy, rfl, rfl⟩

theorem Continues.on (row : OnrampOutbox) (expiresAt : Instant) (progress progress' : Progress) :
    Continues (some ⟨row, expiresAt, progress⟩) (some ⟨row, expiresAt, progress'⟩) := by
  intro work' busy
  cases busy
  exact ⟨_, rfl, rfl, rfl⟩

theorem Continues.none (old : Option Work) : Continues old none := by
  intro work' busy
  cases busy

theorem Exclusive.quiet (before : Exclusive Standing s) (clock : s.now ≤ s'.now) (locks : s'.locks = s.locks)
    (continues : ∀ worker, Continues (s.working worker) (s'.working worker))
    (standing : ∀ row, Standing s.db row → Standing s'.db row) : Exclusive Standing s' := by
  refine ⟨?_, ?_, ?_⟩
  · intro worker work' busy early
    obtain ⟨work, busy', row, expires⟩ := continues worker work' busy
    rw [locks, ← row, ← expires]
    exact before.locked worker work busy' (expires ▸ lt_of_le_of_lt clock early)
  · intro worker other work₁ work₂ busy₁ busy₂ same
    obtain ⟨work₁', busy₁', row₁, _⟩ := continues worker work₁ busy₁
    obtain ⟨work₂', busy₂', row₂, _⟩ := continues other work₂ busy₂
    exact before.alone worker other work₁' work₂' busy₁' busy₂' (by rw [row₁, row₂, same])
  · intro worker work' busy
    obtain ⟨work, busy', row, _⟩ := continues worker work' busy
    rw [← row]
    exact standing work.row (before.standing worker work busy')

theorem Exclusive.mark (before : Exclusive Standing s) (outboxId : Nat) (mark : Mark) :
    Exclusive Standing (s.mark outboxId mark) :=
  ⟨before.locked, before.alone, before.standing⟩

theorem Exclusive.put (before : Exclusive Standing s) (present : s.ticks[worker]? = some tick)
    (continues : Continues tick.work tick'.work) : Exclusive Standing (s.put worker tick') := by
  refine before.quiet (le_refl s.now) rfl ?_ (fun row stands => stands)
  intro other work' busy
  rw [State.put, working_set present] at busy
  by_cases same : other = worker
  · rw [if_pos same] at busy
    obtain ⟨work, busy', parts⟩ := continues work' busy
    exact ⟨work, same ▸ working_of_tick present busy', parts⟩
  · rw [if_neg same] at busy
    exact ⟨work', busy, rfl, rfl⟩

theorem Exclusive.granted (before : Exclusive Standing s) (present : s.ticks[worker]? = some tick) {row : OnrampOutbox}
    {rest : List OnrampOutbox} {locks : Leases Nat Nat} {ttl : Nat}
    (taken : setNx row.outboxId worker s.now ttl s.locks = some locks) (timely : NoneOverdue s row.outboxId)
    (stands : Standing s.db row) :
    Exclusive Standing
      { s.put worker { tick with phase := .working ⟨row, s.now + ttl, .locked⟩, rows := rest } with locks := locks } := by
  have free : ∀ other work, s.working other = some work → work.row.outboxId ≠ row.outboxId := by
    intro other work busy same
    obtain ⟨tick', present', busy'⟩ := Option.bind_eq_some_iff.mp busy
    have early := timely tick' (List.mem_of_getElem? present') work busy' same
    have found := before.locked other work busy early
    rw [same] at found
    exact absurd early (Nat.not_lt.mpr (expired_of_setNx taken found))
  have workers : ∀ other, State.working
      { s.put worker { tick with phase := .working ⟨row, s.now + ttl, .locked⟩, rows := rest } with locks := locks } other =
        if other = worker then some ⟨row, s.now + ttl, .locked⟩ else s.working other :=
    fun other => working_set present
  refine ⟨?_, ?_, ?_⟩
  · intro other work busy early
    rw [workers] at busy
    by_cases same : other = worker
    · rw [if_pos same] at busy
      cases busy
      rw [same]
      exact find_setNx_self taken
    · rw [if_neg same] at busy
      rw [show find work.row.outboxId locks = _ from find_setNx_other taken (free other work busy)]
      exact before.locked other work busy early
  · intro one other work₁ work₂ busy₁ busy₂ shared
    rw [workers] at busy₁ busy₂
    by_cases first : one = worker <;> by_cases second : other = worker
    · rw [first, second]
    · rw [if_pos first] at busy₁
      rw [if_neg second] at busy₂
      cases busy₁
      exact absurd shared.symm (free other work₂ busy₂)
    · rw [if_neg first] at busy₁
      rw [if_pos second] at busy₂
      cases busy₂
      exact absurd shared (free one work₁ busy₁)
    · rw [if_neg first] at busy₁
      rw [if_neg second] at busy₂
      exact before.alone one other work₁ work₂ busy₁ busy₂ shared
  · intro other work busy
    rw [workers] at busy
    by_cases same : other = worker
    · rw [if_pos same] at busy
      cases busy
      exact stands
    · rw [if_neg same] at busy
      exact before.standing other work busy

theorem Exclusive.committed (before : Exclusive Standing s) (steady : Steady Standing)
    (present : s.ticks[worker]? = some tick) (busy : tick.work = some work) (idle : tick'.work = none)
    {values : OnrampOutbox → OnrampOutbox} (keyed : ∀ row, (values row).outboxId = row.outboxId) :
    Exclusive Standing { s.put worker tick' with db := updateOutbox work.row.outboxId values s.db } := by
  have others : ∀ other work', State.working
      { s.put worker tick' with db := updateOutbox work.row.outboxId values s.db } other = some work' →
        other ≠ worker ∧ s.working other = some work' := by
    intro other work' busy'
    rw [State.put, working_set present] at busy'
    by_cases same : other = worker
    · rw [if_pos same, idle] at busy'
      cases busy'
    · rw [if_neg same] at busy'
      exact ⟨same, busy'⟩
  refine ⟨?_, ?_, ?_⟩
  · intro other work' busy' early
    exact before.locked other work' (others other work' busy').2 early
  · intro one other work₁ work₂ busy₁ busy₂ shared
    exact before.alone one other work₁ work₂ (others one work₁ busy₁).2 (others other work₂ busy₂).2 shared
  · intro other work' busy'
    obtain ⟨differs, busy''⟩ := others other work' busy'
    refine steady.updated _ _ keyed ?_ (before.standing other work' busy'')
    intro shared
    exact differs (before.alone other worker work' work busy'' (working_of_tick present busy) shared)

/-- Every step that grants a lock only in order keeps one tick for each row. -/
theorem Exclusive.step (steady : Steady Standing) (before : Exclusive Standing s) {event : Event}
    (orderly : Orderly Standing s event) (stepped : step s event = some s') : Exclusive Standing s' := by
  cases event with
  | advance elapsed =>
    cases stepped
    exact before.quiet (Nat.le_add_right _ _) rfl (fun _ => .refl _) (fun _ stands => stands)
  | enqueue jobId eventType payload =>
    obtain rfl := enqueued_of_step stepped
    exact before.quiet (le_refl _) rfl (fun _ => .refl _) (fun _ stands => steady.pushed jobId eventType payload stands)
  | start =>
    cases stepped
    refine before.quiet (le_refl _) rfl ?_ (fun _ stands => stands)
    intro worker work' busy
    exact ⟨work', working_of_started busy, rfl, rfl⟩
  | tick worker action =>
    obtain ⟨tick, present, drains⟩ := drains_of_step stepped
    cases drains with
    | select selected => exact before.put present (.none _)
    | skip => exact before.put present (.none _)
    | @grant row rest locks _ _ _ taken =>
      obtain ⟨timely, stands⟩ := orderly row (by simp [grantedRow, present, free_of_setNx taken])
      exact before.granted present taken timely stands
    | call =>
      refine .mark (before.put present ?_) _ _
      exact .on _ _ _ _
    | returned =>
      refine .mark (before.put present ?_) _ _
      exact .on _ _ _ _
    | raised =>
      refine .mark (before.put present ?_) _ _
      exact .on _ _ _ _
    | updateRaised => exact before.put present (.on _ _ _ _)
    | commitDelivered => exact .mark (before.committed steady present rfl rfl (markDelivered_outboxId _)) _ _
    | commitFailed => exact .mark (before.committed steady present rfl rfl (markFailed_outboxId _ _)) _ _
    | die idle => exact before.put present (.none _)
    | kill busy begun => exact .mark (before.put present (.none _)) _ _

end

theorem initial_exclusive (Standing : Db → OnrampOutbox → Prop) (now : Instant) (db : Db) :
    Exclusive Standing (initial now db) := by
  have idle : ∀ worker work, (initial now db).working worker ≠ some work := by
    intro worker work busy
    cases busy
  refine ⟨?_, ?_, ?_⟩
  · intro worker work busy
    exact absurd busy (idle worker work)
  · intro worker other work work' busy
    exact absurd busy (idle worker work)
  · intro worker work busy
    exact absurd busy (idle worker work)

/-- The row is in the table and delivered. -/
def Delivered (db : Db) (outboxId : Nat) : Prop := ∃ row, outboxOf outboxId db = some row ∧ row.deliveredAt ≠ none

/-- The row of a batch is in the table and not delivered. -/
def Undelivered (db : Db) (row : OnrampOutbox) : Prop :=
  (outboxOf row.outboxId db).map OnrampOutbox.deliveredAt = some none

instance (db : Db) (row : OnrampOutbox) : Decidable (Undelivered db row) :=
  inferInstanceAs (Decidable (_ = _))

/-- The handler of a row is not called any more once a tick has committed its delivery. -/
def NeverAgain (log : List (Nat × Mark)) : Prop :=
  log.Pairwise (fun earlier later => earlier.2 = .delivered → later.1 = earlier.1 → later.2 ≠ .called)

section
variable {db : Db} {outboxId other : Nat} {values : OnrampOutbox → OnrampOutbox}

theorem undelivered_steady : Steady Undelivered where
  pushed := by
    intro db row jobId eventType payload stands
    obtain ⟨stored, found, open_row⟩ := Option.map_eq_some_iff.mp stands
    rw [Undelivered, outboxOf_pushOutbox found, Option.map_some, open_row]
  updated := by
    intro db row updated values keyed differs stands
    rw [Undelivered, outboxOf_update_other keyed differs]
    exact stands

theorem Delivered.pushed (delivered : Delivered db outboxId) (jobId : String) (eventType : OutboxEventType)
    (payload : Payload) : Delivered (pushOutbox jobId eventType payload db) outboxId := by
  obtain ⟨row, found, done⟩ := delivered
  exact ⟨row, outboxOf_pushOutbox found, done⟩

/-- No update takes a delivery back. -/
theorem Delivered.updated (delivered : Delivered db outboxId) (keyed : ∀ row, (values row).outboxId = row.outboxId)
    (keeps : ∀ row, row.deliveredAt ≠ none → (values row).deliveredAt ≠ none) :
    Delivered (updateOutbox other values db) outboxId := by
  obtain ⟨row, found, done⟩ := delivered
  by_cases same : outboxId = other
  · subst same
    exact ⟨values row, by rw [outboxOf_update_self keyed, found]; rfl, keeps row done⟩
  · exact ⟨row, by rw [outboxOf_update_other keyed same, found], done⟩

end

/-- What holds in every state of a run whose locks are granted in order. -/
structure Sound (s : State) : Prop where
  exclusive : Exclusive Undelivered s
  recorded : ∀ entry ∈ s.log, entry.2 = .delivered → Delivered s.db entry.1
  never_again : NeverAgain s.log

theorem NeverAgain.append {log : List (Nat × Mark)} (before : NeverAgain log) {entry : Nat × Mark}
    (fresh : entry.2 = .called → ∀ earlier ∈ log, earlier.2 = .delivered → entry.1 ≠ earlier.1) :
    NeverAgain (log ++ [entry]) := by
  refine List.pairwise_append.mpr ⟨before, List.pairwise_singleton _ _, ?_⟩
  intro earlier inside later last delivered same called
  obtain rfl := List.mem_singleton.mp last
  exact fresh called earlier inside delivered same

/-- A step that leaves the table alone and logs neither a call nor a delivery. -/
theorem Sound.silent {s s' : State} (before : Sound s) (exclusive : Exclusive Undelivered s') (db : s'.db = s.db)
    (log : s'.log = s.log ∨ ∃ outboxId mark, s'.log = s.log ++ [(outboxId, mark)] ∧ mark ≠ .called ∧ mark ≠ .delivered) :
    Sound s' := by
  rcases log with same | ⟨outboxId, mark, appended, other, another⟩
  · exact ⟨exclusive, by rw [same, db]; exact before.recorded, by rw [same]; exact before.never_again⟩
  · refine ⟨exclusive, ?_, ?_⟩
    · rw [appended, db]
      intro entry inside delivered
      rcases List.mem_append.mp inside with old | new
      · exact before.recorded entry old delivered
      · obtain rfl := List.mem_singleton.mp new
        exact absurd delivered another
    · rw [appended]
      exact before.never_again.append (fun called => absurd called other)

theorem Sound.committed {s s' : State} (before : Sound s) (exclusive : Exclusive Undelivered s') {updated : Nat}
    {mark : Mark} {values : OnrampOutbox → OnrampOutbox} (db : s'.db = updateOutbox updated values s.db)
    (log : s'.log = s.log ++ [(updated, mark)]) (other : mark ≠ .called)
    (keyed : ∀ row, (values row).outboxId = row.outboxId)
    (keeps : ∀ row, row.deliveredAt ≠ none → (values row).deliveredAt ≠ none)
    (delivers : mark = .delivered → Delivered s'.db updated) : Sound s' := by
  refine ⟨exclusive, ?_, ?_⟩
  · rw [log]
    intro entry inside delivered
    rcases List.mem_append.mp inside with old | new
    · rw [db]
      exact (before.recorded entry old delivered).updated keyed keeps
    · obtain rfl := List.mem_singleton.mp new
      exact delivers delivered
  · rw [log]
    exact before.never_again.append (fun called => absurd called other)

theorem Sound.step {s s' : State} {event : Event} (before : Sound s) (orderly : Orderly Undelivered s event)
    (stepped : step s event = some s') : Sound s' := by
  have exclusive : Exclusive Undelivered s' := before.exclusive.step undelivered_steady orderly stepped
  cases event with
  | advance elapsed =>
    cases stepped
    exact before.silent exclusive rfl (.inl rfl)
  | enqueue jobId eventType payload =>
    obtain rfl := enqueued_of_step stepped
    exact ⟨exclusive, fun entry inside delivered => (before.recorded entry inside delivered).pushed _ _ _,
      before.never_again⟩
  | start =>
    cases stepped
    exact before.silent exclusive rfl (.inl rfl)
  | tick worker action =>
    obtain ⟨tick, present, drains⟩ := drains_of_step stepped
    cases drains with
    | select selected => exact before.silent exclusive rfl (.inl rfl)
    | skip => exact before.silent exclusive rfl (.inl rfl)
    | grant taken => exact before.silent exclusive rfl (.inl rfl)
    | @call row expiresAt rest delivered failed skipped =>
      refine ⟨exclusive, ?_, ?_⟩
      · intro entry inside delivered
        rcases List.mem_append.mp inside with old | new
        · exact before.recorded entry old delivered
        · obtain rfl := List.mem_singleton.mp new
          cases delivered
      · refine before.never_again.append ?_
        intro _ earlier inside delivered same
        -- the row is delivered by the log and undelivered by its standing
        obtain ⟨stored, found, done⟩ := before.recorded earlier inside delivered
        have stands : Undelivered s.db row := before.exclusive.standing worker _ (working_of_tick present rfl)
        simp only at same
        rw [Undelivered, same, found] at stands
        exact done (Option.some.inj stands)
    | returned => exact before.silent exclusive rfl (.inr ⟨_, _, rfl, by simp, by simp⟩)
    | raised => exact before.silent exclusive rfl (.inr ⟨_, _, rfl, by simp, by simp⟩)
    | updateRaised => exact before.silent exclusive rfl (.inl rfl)
    | @commitDelivered row expiresAt deliveredAt rest delivered failed skipped =>
      refine before.committed exclusive rfl rfl (by simp) (markDelivered_outboxId deliveredAt) ?_ ?_
      · intro row done
        simp [markDelivered]
      · intro _
        have stands : Undelivered s.db row := before.exclusive.standing worker _ (working_of_tick present rfl)
        obtain ⟨stored, found, _⟩ := Option.map_eq_some_iff.mp stands
        refine ⟨markDelivered deliveredAt stored, ?_, by simp [markDelivered]⟩
        rw [mark_db, outboxOf_update_self (markDelivered_outboxId deliveredAt), found]
        rfl
    | commitFailed =>
      refine before.committed exclusive rfl rfl (by simp) (markFailed_outboxId _ _) ?_ ?_
      · intro row done
        exact done
      · intro delivered
        cases delivered
    | die idle => exact before.silent exclusive rfl (.inl rfl)
    | kill busy begun => exact before.silent exclusive rfl (.inr ⟨_, _, rfl, by simp, by simp⟩)

theorem initial_sound (now : Instant) (db : Db) : Sound (initial now db) where
  exclusive := initial_exclusive Undelivered now db
  recorded := by
    intro entry inside
    cases inside
  never_again := List.Pairwise.nil

/-- In every run of overlapping ticks in which a tick gets the lock of a row only while no other
    tick is overdue with the row and the row is not delivered since the batch was read, no
    handler is called for a row after its delivery is committed. -/
theorem delivered_row_not_dispatched (now : Instant) (db : Db) (events : List Event)
    (orderly : ∀ before event after, Takes step (initial now db) events before event after →
      Orderly Undelivered before event)
    (last : State) (reached : run step (initial now db) events = some last) : NeverAgain last.log := by
  have sound := invariant_of_run Sound (Orderly Undelivered)
    (fun s event next before orderly stepped => before.step orderly stepped)
    events (initial now db) (initial_sound now db) orderly
  exact (sound.1 last reached).never_again

/-- The outbox of a job that is completed: its message and the upload of its result. -/
def sampleOutbox : Db :=
  pushOutbox "j1" .uploadResult (.uploadResult "j1" "outputs" "jobs/j1/normalized_ratesheet.json")
    (pushOutbox "j1" .slackPost (.slackPost "C042" [] "Solvo Onramp result")
      { jobs := [("j1", ⟨"j1", "acme", "Acme Lines", .completed, "5a4c", "xlsx", ⟨⟨2026, 6, 1⟩, 0⟩, none⟩)], outputs := [],
        outbox := [], nextOutboxId := 1, scores := [], auditLog := [], reference := ⟨[], []⟩ })

/-- Two ticks read the same batch: while one delivers the message the other passes it by and delivers the upload, which the
    first then passes by. -/
def overlappingTicks : List Event :=
  [.start, .start, .tick 0 (.select [1, 2]), .tick 1 (.select [1, 2]), .tick 0 .acquire, .tick 1 .acquire, .tick 1 .acquire,
    .tick 0 .call, .tick 1 .call, .advance (seconds 5), .tick 0 .returned, .tick 0 .commit, .tick 1 .returned, .tick 1 .commit,
    .tick 0 .acquire]

theorem delivered_row_not_dispatched_overlapping :
    ∃ last, run step (initial 0 sampleOutbox) overlappingTicks = some last ∧
      last.log = [(1, .called), (2, .called), (1, .returned), (1, .delivered), (2, .returned), (2, .delivered)] ∧
      NeverAgain last.log := by
  have orderly : checked step (fun s event => decide (Orderly Undelivered s event)) (initial 0 sampleOutbox) overlappingTicks := by
    decide
  refine ⟨_, rfl, rfl, delivered_row_not_dispatched 0 sampleOutbox overlappingTicks ?_ _ rfl⟩
  intro before event after taken
  have passed := of_checked orderly taken
  exact of_decide_eq_true passed

/-- Two ticks read the same batch. The first delivers the message while the second is at
    work on the upload for 31 seconds; then the second comes to the message. -/
def twoTicks : List Event :=
  [.start, .start, .tick 0 (.select [1, 2]), .tick 1 (.select [2, 1]), .tick 1 .acquire, .tick 1 .call, .tick 0 .acquire,
    .tick 0 .call, .tick 0 .returned, .tick 0 .commit, .tick 0 .acquire, .advance (seconds 31), .tick 1 .returned,
    .tick 1 .commit, .tick 1 .acquire, .tick 1 .call]

/-- The message is posted twice. -/
theorem stale_batch_posts_again :
    ¬ ∀ (now : Instant) (db : Db) (events : List Event) (last : State),
      run step (initial now db) events = some last → NeverAgain last.log := by
  intro always
  have again : NeverAgain [(2, .called), (1, .called), (1, .returned), (1, .delivered), (2, .returned), (2, .delivered),
      (1, .called)] := always 0 sampleOutbox twoTicks _ rfl
  revert again
  unfold NeverAgain
  decide

end Onramp.Deliveries
