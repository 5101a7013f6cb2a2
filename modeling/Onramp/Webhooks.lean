import Onramp.Links

/-!
The handler of webhook callbacks under the dispatcher. The receiver answers every attempt
with a status or not at all; the handler returns for every status, and what returns counts
as delivered.
-/
namespace Onramp.Webhooks
open Onramp.Python
open Onramp.Models
open Onramp.Database
open Onramp.Dispatcher (outboxOf nextRetryAt drains_of_step enqueued_of_step working_set)
open Onramp.Deliveries (Delivered)
open Onramp.Links (held SameEvent held_of_working held_of_step works_of_step)
open Onramp.Library.Runs

/-- What `deliver_webhook_callback` returns. -/
inductive Callback
  | skipped
  | posted (statusCode : Nat)

/-- `deliver_webhook_callback`, where `post` is the status of the receiver's response or what
    the post raises. -/
def deliverWebhookCallback (enableWebhookCallbacks : Bool) (post : Raises Nat) : Raises Callback :=
  if !enableWebhookCallbacks then .ok .skipped
  else do
    let statusCode ← post
    return .posted statusCode

/-- How the call ends for `_drain_once`; a cancellation is not caught. -/
def ending {α : Type} : Raises α → Dispatcher.Action
  | .ok _ => .returned
  | .error exc => if exc.isException then .raised else .die

/-- The dispatcher, and the answers to the attempts of each row in order. -/
structure State where
  dispatcher : Dispatcher.State
  answers : List (Nat × Raises Nat)

/-- The handler of a webhook callback ends with the answer of the receiver, or something else
    happens to the dispatcher. -/
inductive Event
  | answer (worker : Nat) (post : Raises Nat)
  | dispatch (event : Dispatcher.Event)

/-- The webhook callback whose handler the tick of the worker waits for. -/
def awaited (s : State) (worker : Nat) : Option OnrampOutbox :=
  match s.dispatcher.working worker with
  | some ⟨row, _, .called⟩ => if row.eventType = .webhookCallback then some row else none
  | _ => none

/-- A handler of a webhook callback ends with an answer only. -/
def endsUnanswered (s : State) : Dispatcher.Event → Bool
  | .tick worker .returned | .tick worker .raised => (awaited s worker).isSome
  | _ => false

/-- One step, with the callbacks enabled. -/
def step (s : State) : Event → Option State
  | .answer worker post => do
    let row ← awaited s worker
    let action := ending (deliverWebhookCallback true post)
    let dispatcher ← Dispatcher.step s.dispatcher (.tick worker action)
    return ⟨dispatcher, s.answers ++ [(row.outboxId, post)]⟩
  | .dispatch event =>
    if endsUnanswered s event then none
    else (Dispatcher.step s.dispatcher event).map (fun dispatcher => { s with dispatcher })

/-- The state before the first tick. -/
def initial (now : Instant) (db : Db) : State := ⟨Dispatcher.initial now db, []⟩

/-- A 2xx status. -/
def Accepts (status : Nat) : Prop := 200 ≤ status ∧ status < 300

instance : DecidablePred Accepts := fun _ => inferInstanceAs (Decidable (_ ∧ _))

/-- An attempt of the row was answered with a 2xx status. -/
def Accepted (s : State) (outboxId : Nat) : Prop := ∃ status, (outboxId, .ok status) ∈ s.answers ∧ Accepts status

/-- The ids of the outbox are a primary key, and the sequence is ahead of them. -/
structure Keyed (db : Db) : Prop where
  unique : (db.outbox.map OnrampOutbox.outboxId).Nodup
  fresh : ∀ row ∈ db.outbox, row.outboxId < db.nextOutboxId

/-- In the run `delivered_at` of a webhook callback is set only after an attempt that was
    answered with a 2xx status, and any other status is a failed attempt with a next retry. -/
structure AcceptedOnly (now : Instant) (db : Db) (events : List Event) : Prop where
  after_acceptance : ∀ before event after outboxId row, Takes step (initial now db) events before event after →
    ¬ Delivered before.dispatcher.db outboxId → outboxOf outboxId after.dispatcher.db = some row →
      row.eventType = .webhookCallback → row.deliveredAt ≠ none → Accepted before outboxId
  refused_retried : ∀ before worker status after,
    Takes step (initial now db) events before (.answer worker (.ok status)) after → ¬ Accepts status →
      ∃ row expiresAt, before.dispatcher.working worker = some ⟨row, expiresAt, .called⟩ ∧
        after.dispatcher.working worker =
          some ⟨row, expiresAt, .raised (nextRetryAt before.dispatcher.now row)⟩

/-- The receiver answers with 2xx statuses or not at all. -/
def Accepting : Event → Prop
  | .answer _ (.ok status) => Accepts status
  | _ => True

instance : DecidablePred Accepting := fun event =>
  match event with
  | .answer _ (.ok status) => inferInstanceAs (Decidable (Accepts status))
  | .answer _ (.error _) | .dispatch _ => isTrue trivial

section
variable {s s' : State} {worker : Nat} {row : OnrampOutbox}

theorem awaited_eq_some : awaited s worker = some row ↔
    (∃ expiresAt, s.dispatcher.working worker = some ⟨row, expiresAt, .called⟩) ∧ row.eventType = .webhookCallback := by
  unfold awaited
  split
  · next row' expiresAt busy =>
    rw [busy]
    constructor
    · intro same
      split at same
      · next webhook =>
        cases same
        exact ⟨⟨expiresAt, rfl⟩, webhook⟩
      · cases same
    · rintro ⟨⟨expiresAt', same⟩, webhook⟩
      cases same
      rw [if_pos webhook]
  · next other =>
    refine iff_of_false (by simp) ?_
    rintro ⟨⟨expiresAt, busy⟩, _⟩
    exact other _ _ busy

/-- Every step is one of the dispatcher, and answers are only added. -/
theorem dispatched_of_step {event : Event} (stepped : step s event = some s') :
    (∃ event, Dispatcher.step s.dispatcher event = some s'.dispatcher) ∧ ∃ more, s'.answers = s.answers ++ more := by
  cases event with
  | answer worker post =>
    obtain ⟨row, _, stepped⟩ := Option.bind_eq_some_iff.mp stepped
    obtain ⟨dispatcher, moved, same⟩ := Option.bind_eq_some_iff.mp stepped
    cases same
    exact ⟨⟨_, moved⟩, ⟨_, rfl⟩⟩
  | dispatch event =>
    simp only [step] at stepped
    split at stepped
    · cases stepped
    · obtain ⟨dispatcher, moved, rfl⟩ := Option.map_eq_some_iff.mp stepped
      exact ⟨⟨event, moved⟩, [], by simp⟩

/-- With callbacks enabled the handler returns exactly when there is a response, whatever its
    status. -/
theorem ending_returned_iff {post : Raises Nat} :
    ending (deliverWebhookCallback true post) = .returned ↔ ∃ status, post = .ok status := by
  cases post with
  | ok status => exact iff_of_true rfl ⟨status, rfl⟩
  | error exc =>
    refine iff_of_false ?_ (by simp)
    simp only [deliverWebhookCallback, bind, Except.bind, ending, Bool.not_true, Bool.false_eq_true, if_false]
    split <;> simp

end

/-- A row has one id and one event type, in the table and in the batches. -/
structure Identified (s : Dispatcher.State) : Prop where
  fresh : ∀ row ∈ held s, row.outboxId < s.db.nextOutboxId
  kinds : ∀ row ∈ held s, ∀ other ∈ held s, row.outboxId = other.outboxId → row.eventType = other.eventType

section
variable {s s' : Dispatcher.State} {event : Dispatcher.Event}

/-- A step that enqueues nothing brings in no row. -/
theorem held_of_other (moved : Dispatcher.step s event = some s')
    (other : ∀ jobId eventType payload, event ≠ .enqueue jobId eventType payload) :
    ∀ row ∈ held s', ∃ old ∈ held s, SameEvent row old := by
  have same : s'.db.nextOutboxId = s.db.nextOutboxId := by
    cases event with
    | enqueue jobId eventType payload => exact absurd rfl (other jobId eventType payload)
    | advance elapsed =>
      cases moved
      rfl
    | start =>
      cases moved
      rfl
    | tick worker action =>
      obtain ⟨tick, _, drains⟩ := drains_of_step moved
      cases drains <;> rfl
  intro row inside
  rcases (held_of_step moved).2 row inside with old | ⟨_, grown⟩
  · exact old
  · rw [same] at grown
    exact absurd grown (Nat.lt_irrefl _)

theorem held_of_enqueue {jobId : String} {eventType : OutboxEventType} {payload : Payload} {row : OnrampOutbox}
    (inside : row ∈ held { s with db := pushOutbox jobId eventType payload s.db }) :
    row ∈ held s ∨ row = outboxRow s.db.nextOutboxId jobId eventType payload := by
  rcases List.mem_append.mp inside with stored | batched
  · rcases List.mem_append.mp stored with old | new
    · exact .inl (List.mem_append_left _ old)
    · exact .inr (List.mem_singleton.mp new)
  · exact .inl (List.mem_append_right _ batched)

theorem Identified.step (identified : Identified s) (moved : Dispatcher.step s event = some s') : Identified s' := by
  obtain ⟨later, rows⟩ := held_of_step moved
  refine ⟨?_, ?_⟩
  · intro row inside
    rcases rows row inside with ⟨old, there, same, _⟩ | ⟨new, grown⟩
    · rw [same]
      exact lt_of_lt_of_le (identified.fresh old there) later
    · rw [new]
      exact grown
  · cases event with
    | enqueue jobId eventType payload =>
      obtain rfl := enqueued_of_step moved
      intro row inside other inside' same
      rcases held_of_enqueue inside with old | rfl
      · rcases held_of_enqueue inside' with old' | rfl
        · exact identified.kinds row old other old' same
        · exact absurd same (identified.fresh row old).ne
      · rcases held_of_enqueue inside' with old' | rfl
        · exact absurd same.symm (identified.fresh other old').ne
        · rfl
    | _ =>
      have known := held_of_other moved (by simp)
      intro row inside other inside' same
      obtain ⟨old, there, id, kind, _⟩ := known row inside
      obtain ⟨old', there', id', kind', _⟩ := known other inside'
      rw [kind, kind']
      exact identified.kinds old there old' there' (by rw [← id, ← id', same])

end

theorem initial_identified {now : Instant} {db : Db} (keyed : Keyed db) : Identified (Dispatcher.initial now db) := by
  have stored : ∀ row ∈ held (Dispatcher.initial now db), row ∈ db.outbox := by
    intro row inside
    simpa [held, Dispatcher.initial] using inside
  refine ⟨fun row inside => keyed.fresh row (stored row inside), ?_⟩
  intro row inside other inside' same
  rw [List.inj_on_of_nodup_map keyed.unique (stored row inside) (stored other inside') same]

/-- What holds along a run whose receivers accept: a webhook callback whose handler returned
    has been accepted. -/
structure Vouched (s : State) : Prop where
  identified : Identified s.dispatcher
  returned : ∀ worker row expiresAt deliveredAt,
    s.dispatcher.working worker = some ⟨row, expiresAt, .returned deliveredAt⟩ → row.eventType = .webhookCallback →
      Accepted s row.outboxId

section
variable {s s' : State} {event : Event}

theorem Accepted.grows {outboxId : Nat} (accepted : Accepted s outboxId) {more : List (Nat × Raises Nat)}
    (grown : s'.answers = s.answers ++ more) : Accepted s' outboxId := by
  obtain ⟨status, inside, accepts⟩ := accepted
  exact ⟨status, grown ▸ List.mem_append_left _ inside, accepts⟩

/-- The handler of a webhook callback returns in the step in which the receiver answers. -/
theorem answered_of_returned (stepped : step s event = some s') {worker : Nat} {row : OnrampOutbox}
    {expiresAt deliveredAt : Instant} (webhook : row.eventType = .webhookCallback)
    (busy : s'.dispatcher.working worker = some ⟨row, expiresAt, .returned deliveredAt⟩) :
    s.dispatcher.working worker = some ⟨row, expiresAt, .returned deliveredAt⟩ ∨
      ∃ post, event = .answer worker post ∧ ending (deliverWebhookCallback true post) = .returned ∧
        s'.answers = s.answers ++ [(row.outboxId, post)] := by
  cases event with
  | answer other post =>
    obtain ⟨row', waits, stepped⟩ := Option.bind_eq_some_iff.mp stepped
    obtain ⟨dispatcher, moved, same⟩ := Option.bind_eq_some_iff.mp stepped
    cases same
    rcases works_of_step moved busy with before | locked | ⟨called, _⟩ | ⟨_, _, returns, before⟩ | ⟨_, raised⟩
    · exact .inl before
    · cases locked
    · cases called
    · injection returns with worker_eq action_eq
      subst worker_eq
      obtain ⟨⟨expiresAt', before'⟩, _⟩ := awaited_eq_some.mp waits
      rw [before] at before'
      cases before'
      exact .inr ⟨post, rfl, action_eq, rfl⟩
    · cases raised
  | dispatch event =>
    simp only [step] at stepped
    split at stepped
    · cases stepped
    · next answered =>
      obtain ⟨dispatcher, moved, rfl⟩ := Option.map_eq_some_iff.mp stepped
      rcases works_of_step moved busy with before | locked | ⟨called, _⟩ | ⟨_, _, returns, before⟩ | ⟨_, raised⟩
      · exact .inl before
      · cases locked
      · cases called
      · refine absurd ?_ answered
        rw [returns, endsUnanswered, Option.isSome_iff_exists]
        exact ⟨row, awaited_eq_some.mpr ⟨⟨expiresAt, before⟩, webhook⟩⟩
      · cases raised

/-- After a response of any status the handler has returned. -/
theorem returned_of_answer {worker status : Nat} (stepped : step s (.answer worker (.ok status)) = some s') :
    ∃ row expiresAt, s'.dispatcher.working worker = some ⟨row, expiresAt, .returned s.dispatcher.now⟩ := by
  obtain ⟨row, _, stepped⟩ := Option.bind_eq_some_iff.mp stepped
  obtain ⟨dispatcher, moved, same⟩ := Option.bind_eq_some_iff.mp stepped
  cases same
  obtain ⟨tick, present, drains⟩ := drains_of_step moved
  cases drains with
  | @returned row expiresAt rest delivered failed skipped =>
    refine ⟨row, expiresAt, ?_⟩
    rw [Dispatcher.State.mark, Dispatcher.State.put, working_set present, if_pos rfl]
    rfl

theorem Vouched.step (vouched : Vouched s) (accepting : Accepting event) (stepped : Webhooks.step s event = some s') :
    Vouched s' := by
  obtain ⟨⟨_, moved⟩, more, grown⟩ := dispatched_of_step stepped
  refine ⟨vouched.identified.step moved, ?_⟩
  intro worker row expiresAt deliveredAt busy webhook
  rcases answered_of_returned stepped webhook busy with before | ⟨post, rfl, returns, answers⟩
  · exact (vouched.returned worker row expiresAt deliveredAt before webhook).grows grown
  · obtain ⟨status, rfl⟩ := ending_returned_iff.mp returns
    exact ⟨status, by rw [answers]; exact List.mem_append_right _ List.mem_cons_self, accepting⟩

/-- A webhook callback that a step delivers has been accepted. -/
theorem Vouched.accepted (vouched : Vouched s) (stepped : Webhooks.step s event = some s') {outboxId : Nat}
    {row : OnrampOutbox} (fresh : ¬ Delivered s.dispatcher.db outboxId)
    (found : outboxOf outboxId s'.dispatcher.db = some row) (webhook : row.eventType = .webhookCallback)
    (done : row.deliveredAt ≠ none) : Accepted s outboxId := by
  obtain ⟨⟨event', moved⟩, _⟩ := dispatched_of_step stepped
  rcases Retries.delivered_by_return moved ⟨row, found, done⟩ with before | ⟨worker, work, expiresAt, deliveredAt, busy, same⟩
  · exact absurd before fresh
  · have id : row.outboxId = outboxId := by simpa using List.find?_some found
    have inside : row ∈ held s'.dispatcher := List.mem_append_left _ (List.mem_of_find?_eq_some found)
    have held_work : work ∈ held s.dispatcher := held_of_working busy
    rcases (held_of_step moved).2 row inside with ⟨old, there, id', kind, _⟩ | ⟨new, _⟩
    · have typed : work.eventType = .webhookCallback := by
        rw [vouched.identified.kinds work held_work old there (by rw [same, ← id', id]), ← kind, webhook]
      exact same ▸ vouched.returned worker work expiresAt deliveredAt busy typed
    · have early := vouched.identified.fresh work held_work
      rw [same, ← id, new] at early
      exact absurd early (Nat.lt_irrefl _)

end

/-- Whatever ticks overlap and whatever their fate, a run delivers webhook callbacks only on a
    2xx status and retries the others exactly when the receiver answers with nothing else. -/
theorem accepted_only_iff (now : Instant) (db : Db) (keyed : Keyed db) (events : List Event) :
    AcceptedOnly now db events ↔
      ∀ before event after, Takes step (initial now db) events before event after → Accepting event := by
  constructor
  · intro only before event after taken
    cases event with
    | dispatch event => trivial
    | answer worker post =>
      cases post with
      | error exc => trivial
      | ok status =>
        by_contra refused
        obtain ⟨row, expiresAt, _, raised⟩ := only.refused_retried before worker status after taken refused
        obtain ⟨row', expiresAt', returned⟩ := returned_of_answer (stepped_of_takes taken)
        rw [returned] at raised
        cases raised
  · intro accepting
    obtain ⟨_, along⟩ := invariant_of_run Vouched (fun _ event => Accepting event)
      (fun s event next vouched accepts stepped => vouched.step accepts stepped)
      events (initial now db) ⟨initial_identified keyed, by intro worker row _ _ busy; cases busy⟩ accepting
    refine ⟨?_, ?_⟩
    · intro before event after outboxId row taken fresh found webhook done
      exact (along before event after taken).accepted (stepped_of_takes taken) fresh found webhook done
    · intro before worker status after taken refused
      exact absurd (accepting before _ after taken) refused

/-- A callback that waits in the outbox. -/
def sampleOutbox : Db :=
  pushOutbox "j1" .webhookCallback (.resultDelivered "jobs/j1/normalized_ratesheet.json")
    { jobs := [("j1", ⟨"j1", "acme", "Acme Lines", .completed, "5a4c", "xlsx", ⟨⟨2026, 6, 1⟩, 0⟩, none⟩)], outputs := [],
      outbox := [], nextOutboxId := 1, scores := [], auditLog := [], reference := ⟨[], []⟩ }

theorem sampleOutbox_keyed : Keyed sampleOutbox where
  unique := by decide
  fresh := by decide

/-- One tick that calls the handler of the row. -/
def called : List Event :=
  [.dispatch .start, .dispatch (.tick 0 (.select [1])), .dispatch (.tick 0 .acquire), .dispatch (.tick 0 .call)]

/-- The receiver accepts the callback. -/
theorem accepted_only_iff_accepted :
    AcceptedOnly 0 sampleOutbox (called ++ [.answer 0 (.ok 204), .dispatch (.tick 0 .commit)]) := by
  refine (accepted_only_iff 0 sampleOutbox sampleOutbox_keyed _).mpr ?_
  intro before event after taken
  have each : ∀ event ∈ called ++ [.answer 0 (.ok 204), .dispatch (.tick 0 .commit)], Accepting event := by decide
  exact each event (mem_of_takes taken)

/-- The receiver is unavailable, and the callback is recorded as delivered. -/
theorem refused_callback_delivered :
    ¬ ∀ (now : Instant) (db : Db) (events : List Event), Keyed db → AcceptedOnly now db events := by
  intro always
  have only := always 0 sampleOutbox (called ++ [.answer 0 (.ok 503)] ++ [.dispatch (.tick 0 .commit)]) sampleOutbox_keyed
  obtain ⟨before, after, taken, answers, fresh, row, found, webhook, done⟩ : ∃ before after,
      Takes step (initial 0 sampleOutbox) (called ++ [.answer 0 (.ok 503)] ++ [.dispatch (.tick 0 .commit)]) before
        (.dispatch (.tick 0 .commit)) after ∧ before.answers = [(1, .ok 503)] ∧ ¬ Delivered before.dispatcher.db 1 ∧
      ∃ row, outboxOf 1 after.dispatcher.db = some row ∧ row.eventType = .webhookCallback ∧ row.deliveredAt ≠ none :=
    ⟨_, _, takes_of_run rfl rfl, rfl, by decide, _, rfl, rfl, by decide⟩
  obtain ⟨status, inside, accepts⟩ := only.after_acceptance _ _ _ 1 row taken fresh found webhook done
  rw [answers] at inside
  cases List.mem_singleton.mp inside
  exact absurd accepts (by decide)

end Onramp.Webhooks
