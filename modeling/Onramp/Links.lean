import Onramp.Retries
import Onramp.LaneAccounting

/-!
The signed link in the message of a completed job. The link is signed before the job is
completed, and its blob is uploaded by a row of the outbox of its own: nothing orders the
upload and the message, and retries of the message outlast the link. What the message
points at is there once the upload is delivered, and the link works whenever the message
is sent between that moment and its expiry.
-/
namespace Onramp.Links
open Onramp.Python
open Onramp.Models
open Onramp.Database
open Onramp.Stage4 (Validated)
open Onramp.Tasks (Env slackPayload validatedBlock validatedPayload)
open Onramp.Blocks
open Onramp.Dispatcher (seconds outboxOf Work Tick Drains drains_of_step enqueued_of_step working_set selectBatch_mem)
open Onramp.Deliveries (Delivered working_of_tick working_of_started)
open Onramp.Attempts (entries)
open Onramp.Retries (delivered_of_step)
open Onramp.Library.Keyed (Table find upsert find_upsert_self find_upsert_other)
open Onramp.Library.Atomic (applyAll)
open Onramp.Library.Runs
open Onramp.LaneAccounting (sampleEnv sampleSheet sampleJob)

def signedUrlTtlSeconds : Nat := 900

/-- `generate_v4_signed_url` at a time, with the signer of the storage client. -/
def generateV4SignedUrl (sign : String → String → String → Raises String) (issuedAt : Instant)
    (bucket blobName serviceAccount : String) (ttlSeconds : Nat) : Raises (String × Instant) :=
  if ttlSeconds ≠ signedUrlTtlSeconds then
    .error (PyExc.mk' .valueError s!"signed-URL TTL is locked at {signedUrlTtlSeconds}s; got {ttlSeconds}")
  else do
    let url ← sign bucket blobName serviceAccount
    return (url, issuedAt + seconds ttlSeconds)

theorem generateV4SignedUrl_expires {sign : String → String → String → Raises String} {issuedAt expiresAt : Instant}
    {bucket blobName serviceAccount url : String} {ttlSeconds : Nat}
    (signed : generateV4SignedUrl sign issuedAt bucket blobName serviceAccount ttlSeconds = .ok (url, expiresAt)) :
    expiresAt = issuedAt + seconds signedUrlTtlSeconds := by
  unfold generateV4SignedUrl at signed
  by_cases locked : ttlSeconds = signedUrlTtlSeconds
  · rw [if_neg (not_not.mpr locked)] at signed
    cases made : sign bucket blobName serviceAccount with
    | error exc =>
      rw [made] at signed
      cases signed
    | ok text =>
      rw [made] at signed
      cases signed
      rw [locked]
  · rw [if_pos locked] at signed
    cases signed

/-- The date and time of an instant, counted from the epoch. -/
def timeAt (instant : Instant) : DateTime :=
  ⟨Date.tomorrow^[instant / 86400000000] ⟨1970, 1, 1⟩, instant % 86400000000⟩

/-- A run of `_validate` that is about to sign its link. -/
structure Validation where
  env : Env
  jobId : String
  result : Validated
  channel : String
  prospectName : String
  serviceAccount : String

def Validation.blobName (validation : Validation) : String := s!"jobs/{validation.jobId}/normalized_ratesheet.json"

/-- A run of `_validate` with its link, before its terminal block. -/
structure Minted where
  validation : Validation
  url : String
  issuedAt : Instant
  expiresAt : Instant

/-- The link of a committed validation, and the rows that send it and upload its blob. -/
structure Link where
  jobId : String
  slackId : Nat
  uploadId : Nat
  bucket : String
  blobName : String
  issuedAt : Instant
  expiresAt : Instant

structure State where
  dispatcher : Dispatcher.State
  blobs : Table (String × String) NormalizedRatesheet
  minted : List Minted
  links : List Link

/-- A link is signed, a validation commits its terminal block, or something happens to the
    clock, the outbox or a tick of the dispatcher. -/
inductive Event
  | mint (validation : Validation) (sign : String → String → String → Raises String)
  | complete (place : Nat)
  | dispatch (event : Dispatcher.Event)

/-- The message with the link. -/
def Minted.message (minted : Minted) : Payload :=
  slackPayload minted.validation.channel minted.validation.prospectName minted.validation.result
    (minted.url, timeAt minted.expiresAt)

/-- The terminal block of the validation. -/
def Minted.block (minted : Minted) : List Statement :=
  validatedBlock minted.validation.env minted.validation.jobId minted.validation.result minted.message

/-- The ids of the rows as the block inserts them: audit event, message, upload. -/
def Minted.link (minted : Minted) (db : Db) : Link where
  jobId := minted.validation.jobId
  slackId := db.nextOutboxId + 1
  uploadId := db.nextOutboxId + 2
  bucket := minted.validation.env.gcsBucketOutputs
  blobName := minted.validation.blobName
  issuedAt := minted.issuedAt
  expiresAt := minted.expiresAt

/-- The blobs after the handler of a row returned; without an output to upload,
    `deliver_upload_result` cannot return. -/
def handled (db : Db) (row : OnrampOutbox) (blobs : Table (String × String) NormalizedRatesheet) :
    Option (Table (String × String) NormalizedRatesheet) :=
  match row.eventType, row.payload with
  | .uploadResult, .uploadResult jobId bucket blobName =>
    (find jobId db.outputs).map (fun output => upsert (bucket, blobName) output.normalizedPayload blobs)
  | .uploadResult, _ => none
  | _, _ => some blobs

def step (s : State) : Event → Option State
  | .mint validation sign =>
    match generateV4SignedUrl sign s.dispatcher.now validation.env.gcsBucketOutputs validation.blobName
      validation.serviceAccount signedUrlTtlSeconds with
    | .ok (url, expiresAt) => some { s with minted := s.minted ++ [⟨validation, url, s.dispatcher.now, expiresAt⟩] }
    | .error _ => none
  | .complete place => do
    let minted ← s.minted[place]?
    match applyAll minted.block s.dispatcher.db with
    | .ok db => some { s with
        dispatcher := { s.dispatcher with db }
        minted := s.minted.eraseIdx place
        links := s.links ++ [minted.link s.dispatcher.db] }
    | .error _ => none
  | .dispatch (.tick worker .returned) => do
    let work ← s.dispatcher.working worker
    let blobs ← handled s.dispatcher.db work.row s.blobs
    let dispatcher ← Dispatcher.step s.dispatcher (.tick worker .returned)
    return { s with dispatcher, blobs }
  | .dispatch event => (Dispatcher.step s.dispatcher event).map (fun dispatcher => { s with dispatcher })

/-- The state before the first tick. -/
def initial (now : Instant) (db : Db) : State := ⟨Dispatcher.initial now db, [], [], []⟩

/-- The blob of the link is uploaded. -/
def Link.Stored (link : Link) (s : State) : Prop := (find (link.bucket, link.blobName) s.blobs).isSome

structure Link.Works (link : Link) (s : State) : Prop where
  stored : link.Stored s
  delivered : Delivered s.dispatcher.db link.uploadId
  unexpired : s.dispatcher.now < link.expiresAt

/-- The links of the row that the tick of the worker is at work on work. -/
def PostWorks (s : State) (worker : Nat) : Prop :=
  ∀ work, s.dispatcher.working worker = some work → ∀ link ∈ s.links, work.row.outboxId = link.slackId → link.Works s

/-- Whenever in the run the handler of a message returns, the link of the message works. -/
def DeliveredLinksWork (now : Instant) (db : Db) (events : List Event) : Prop :=
  ∀ before worker after, Takes step (initial now db) events before (.dispatch (.tick worker .returned)) after →
    PostWorks before worker

/-- Whatever handler returns next, the links of its row work. -/
def NextWorks (s : State) : Prop :=
  ∀ worker next, step s (.dispatch (.tick worker .returned)) = some next → PostWorks s worker

/-- The row whose handler the tick is about to call. -/
def waiting (tick : Tick) : Option OnrampOutbox :=
  tick.work.bind (fun work => match work.progress with
    | .locked => some work.row
    | _ => none)

/-- The row whose handler the tick waits for. -/
def running (tick : Tick) : Option OnrampOutbox :=
  tick.work.bind (fun work => match work.progress with
    | .called => some work.row
    | _ => none)

/-- The handler of a message is called after the delivery of the upload and before the link
    expires, and no link expires while it runs. -/
def InTime (s : State) : Event → Prop
  | .dispatch (.tick worker .call) => ∀ tick ∈ s.dispatcher.ticks[worker]?, ∀ row ∈ waiting tick, ∀ link ∈ s.links,
    row.outboxId = link.slackId → Delivered s.dispatcher.db link.uploadId ∧ s.dispatcher.now < link.expiresAt
  | .dispatch (.advance elapsed) => ∀ tick ∈ s.dispatcher.ticks, ∀ row ∈ running tick, ∀ link ∈ s.links,
    row.outboxId = link.slackId → s.dispatcher.now + elapsed < link.expiresAt
  | _ => True

instance (db : Db) (outboxId : Nat) : Decidable (Delivered db outboxId) :=
  decidable_of_iff ((outboxOf outboxId db).any (fun row => row.deliveredAt.isSome) = true)
    (by simp [Delivered, Option.any_eq_true, Option.isSome_iff_ne_none])

instance (s : State) (event : Event) : Decidable (InTime s event) :=
  match event with
  | .dispatch (.tick worker .call) =>
    inferInstanceAs (Decidable (∀ tick ∈ s.dispatcher.ticks[worker]?, ∀ row ∈ waiting tick, ∀ link ∈ s.links,
      row.outboxId = link.slackId → Delivered s.dispatcher.db link.uploadId ∧ s.dispatcher.now < link.expiresAt))
  | .dispatch (.advance elapsed) =>
    inferInstanceAs (Decidable (∀ tick ∈ s.dispatcher.ticks, ∀ row ∈ running tick, ∀ link ∈ s.links,
      row.outboxId = link.slackId → s.dispatcher.now + elapsed < link.expiresAt))
  | .dispatch (.tick _ (.select _)) | .dispatch (.tick _ .acquire) | .dispatch (.tick _ .returned)
  | .dispatch (.tick _ .raised) | .dispatch (.tick _ .commit) | .dispatch (.tick _ .updateRaised)
  | .dispatch (.tick _ .die) | .dispatch (.enqueue ..) | .dispatch .start | .mint .. | .complete _ => isTrue trivial

/-- The rows of the table and of all batches. -/
def held (s : Dispatcher.State) : List OnrampOutbox := s.db.outbox ++ s.ticks.flatMap entries

/-- The event of the row is that of the other. -/
def SameEvent (row old : OnrampOutbox) : Prop :=
  row.outboxId = old.outboxId ∧ row.eventType = old.eventType ∧ row.payload = old.payload

section
variable {s s' : Dispatcher.State} {worker : Nat} {tick tick' : Tick} {row : OnrampOutbox}

theorem held_of_tick (present : s.ticks[worker]? = some tick) (entered : row ∈ entries tick) : row ∈ held s :=
  List.mem_append_right _ (List.mem_flatMap.mpr ⟨tick, List.mem_of_getElem? present, entered⟩)

theorem held_of_working {work : Work} (busy : s.working worker = some work) : work.row ∈ held s := by
  obtain ⟨tick, present, busy'⟩ := Option.bind_eq_some_iff.mp busy
  exact held_of_tick present (by simp [entries, busy'])

theorem held_set (ticks : s'.ticks = s.ticks.set worker tick')
    (table : ∀ row ∈ s'.db.outbox, ∃ old ∈ s.db.outbox, SameEvent row old) (entered : ∀ row ∈ entries tick', row ∈ held s) :
    ∀ row ∈ held s', ∃ old ∈ held s, SameEvent row old := by
  intro row inside
  rcases List.mem_append.mp inside with stored | batched
  · obtain ⟨old, there, same⟩ := table row stored
    exact ⟨old, List.mem_append_left _ there, same⟩
  · obtain ⟨other, listed, entry⟩ := List.mem_flatMap.mp batched
    rw [ticks] at listed
    rcases List.mem_or_eq_of_mem_set listed with old | rfl
    · exact ⟨row, List.mem_append_right _ (List.mem_flatMap.mpr ⟨other, old, entry⟩), rfl, rfl, rfl⟩
    · exact ⟨row, entered row entry, rfl, rfl, rfl⟩

theorem sameEvent_updated {updated : Nat} {values : OnrampOutbox → OnrampOutbox} {db : Db}
    (keeps : ∀ row, SameEvent (values row) row) :
    ∀ row ∈ (Dispatcher.updateOutbox updated values db).outbox, ∃ old ∈ db.outbox, SameEvent row old := by
  intro row inside
  obtain ⟨old, there, rfl⟩ := List.mem_map.mp inside
  refine ⟨old, there, ?_⟩
  split
  · exact keeps old
  · exact ⟨rfl, rfl, rfl⟩

theorem held_of_drains {action : Dispatcher.Action} (present : s.ticks[worker]? = some tick)
    (drains : Drains s worker tick action s') : ∀ row ∈ held s', ∃ old ∈ held s, SameEvent row old := by
  have untouched : ∀ row ∈ s.db.outbox, ∃ old ∈ s.db.outbox, SameEvent row old :=
    fun row inside => ⟨row, inside, rfl, rfl, rfl⟩
  cases drains with
  | select selected =>
    refine held_set rfl untouched ?_
    intro row entered
    exact List.mem_append_left _ (selectBatch_mem selected (by simpa [entries, Tick.work] using entered)).1
  | commitDelivered =>
    refine held_set rfl (sameEvent_updated (fun _ => ⟨rfl, rfl, rfl⟩)) (fun row entered => held_of_tick present ?_)
    exact List.mem_append_right _ (by simpa [entries, Tick.work] using entered)
  | commitFailed =>
    refine held_set rfl (sameEvent_updated (fun _ => ⟨rfl, rfl, rfl⟩)) (fun row entered => held_of_tick present ?_)
    exact List.mem_append_right _ (by simpa [entries, Tick.work] using entered)
  | skip =>
    refine held_set rfl untouched (fun row entered => held_of_tick present ?_)
    exact List.mem_cons_of_mem _ (by simpa [entries, Tick.work] using entered)
  | grant taken => exact held_set rfl untouched (fun row entered => held_of_tick present entered)
  | die idle =>
    refine held_set rfl untouched (fun row entered => held_of_tick present ?_)
    exact List.mem_append_right _ (by simpa [entries, Tick.work] using entered)
  | kill busy begun =>
    refine held_set rfl untouched (fun row entered => held_of_tick present ?_)
    exact List.mem_append_right _ (by simpa [entries, Tick.work] using entered)
  | _ => exact held_set rfl untouched (fun row entered => held_of_tick present entered)

/-- A step of the dispatcher brings in no row but the one that it enqueues. -/
theorem held_of_step {event : Dispatcher.Event} (stepped : Dispatcher.step s event = some s') :
    s.db.nextOutboxId ≤ s'.db.nextOutboxId ∧ ∀ row ∈ held s', (∃ old ∈ held s, SameEvent row old) ∨
      (row.outboxId = s.db.nextOutboxId ∧ s.db.nextOutboxId < s'.db.nextOutboxId) := by
  cases event with
  | advance elapsed =>
    cases stepped
    exact ⟨le_refl _, fun row inside => .inl ⟨row, inside, rfl, rfl, rfl⟩⟩
  | start =>
    cases stepped
    refine ⟨le_refl _, fun row inside => .inl ⟨row, ?_, rfl, rfl, rfl⟩⟩
    simpa [held, entries, Tick.work] using inside
  | enqueue jobId eventType payload =>
    obtain rfl := enqueued_of_step stepped
    refine ⟨Nat.le_succ _, ?_⟩
    intro row inside
    rcases List.mem_append.mp inside with stored | batched
    · rcases List.mem_append.mp stored with old | new
      · exact .inl ⟨row, List.mem_append_left _ old, rfl, rfl, rfl⟩
      · rw [List.mem_singleton.mp new]
        exact .inr ⟨rfl, Nat.lt_succ_self _⟩
    · exact .inl ⟨row, List.mem_append_right _ batched, rfl, rfl, rfl⟩
  | tick worker action =>
    obtain ⟨tick, present, drains⟩ := drains_of_step stepped
    refine ⟨?_, fun row inside => .inl (held_of_drains present drains row inside)⟩
    cases drains <;> exact le_refl _

theorem working_of_set {other : Nat} (present : s.ticks[other]? = some tick) (ticks : s'.ticks = s.ticks.set other tick') :
    s'.working worker = if worker = other then tick'.work else s.working worker := by
  obtain ⟨now, db, locks, ticks', log⟩ := s'
  subst ticks
  exact working_set present

/-- How a tick came to where it is at work: it was there, or it took the step in between. -/
theorem works_of_step {event : Dispatcher.Event} (stepped : Dispatcher.step s event = some s') {expiresAt : Instant}
    {progress : Dispatcher.Progress} (busy : s'.working worker = some ⟨row, expiresAt, progress⟩) :
    s.working worker = some ⟨row, expiresAt, progress⟩ ∨ progress = .locked ∨
      (progress = .called ∧ event = .tick worker .call ∧ s.working worker = some ⟨row, expiresAt, .locked⟩) ∨
      (∃ deliveredAt, progress = .returned deliveredAt ∧ event = .tick worker .returned ∧
        s.working worker = some ⟨row, expiresAt, .called⟩) ∨ ∃ retryAt, progress = .raised retryAt := by
  cases event with
  | advance elapsed =>
    cases stepped
    exact .inl busy
  | enqueue jobId eventType payload =>
    obtain rfl := enqueued_of_step stepped
    exact .inl busy
  | start =>
    cases stepped
    exact .inl (working_of_started busy)
  | tick other action =>
    obtain ⟨tick, present, drains⟩ := drains_of_step stepped
    have moved : ∀ tick', s'.ticks = s.ticks.set other tick' →
        (worker = other ∧ tick'.work = some ⟨row, expiresAt, progress⟩) ∨
          s.working worker = some ⟨row, expiresAt, progress⟩ := by
      intro tick' ticks
      rw [working_of_set present ticks] at busy
      by_cases same : worker = other
      · rw [if_pos same] at busy
        exact .inl ⟨same, busy⟩
      · rw [if_neg same] at busy
        exact .inr busy
    cases drains with
    | grant taken =>
      rcases moved _ rfl with ⟨rfl, here⟩ | there
      · cases here
        exact .inr (.inl rfl)
      · exact .inl there
    | call =>
      rcases moved _ rfl with ⟨rfl, here⟩ | there
      · cases here
        exact .inr (.inr (.inl ⟨rfl, rfl, working_of_tick present rfl⟩))
      · exact .inl there
    | returned =>
      rcases moved _ rfl with ⟨rfl, here⟩ | there
      · cases here
        exact .inr (.inr (.inr (.inl ⟨_, rfl, rfl, working_of_tick present rfl⟩)))
      · exact .inl there
    | raised | updateRaised =>
      rcases moved _ rfl with ⟨rfl, here⟩ | there
      · cases here
        exact .inr (.inr (.inr (.inr ⟨_, rfl⟩)))
      · exact .inl there
    | select | skip | commitDelivered | commitFailed | die | kill =>
      rcases moved _ rfl with ⟨rfl, here⟩ | there
      · cases here
      · exact .inl there

end

/-! ### Rows that a block appends -/

section
variable {db db' : Db} {outboxId : Nat}

/-- Appended rows that are not delivered deliver nothing. -/
theorem delivered_append {rows : List OnrampOutbox} (table : db'.outbox = db.outbox ++ rows)
    (fresh : ∀ row ∈ rows, row.deliveredAt = none) : Delivered db' outboxId ↔ Delivered db outboxId := by
  have found : outboxOf outboxId db' = (outboxOf outboxId db).or (rows.find? (fun row => row.outboxId = outboxId)) := by
    rw [outboxOf, table, List.find?_append]
    rfl
  constructor
  · rintro ⟨row, here, done⟩
    rw [found] at here
    cases old : outboxOf outboxId db with
    | some stored =>
      rw [old] at here
      cases here
      exact ⟨row, old, done⟩
    | none =>
      rw [old, Option.none_or] at here
      exact absurd (fresh row (List.mem_of_find?_eq_some here)) done
  · rintro ⟨row, here, done⟩
    refine ⟨row, ?_, done⟩
    rw [found, here, Option.some_or]

theorem outbox_of_block {minted : Minted} (applied : applyAll minted.block db = .ok db') :
    db'.outbox = db.outbox ++ [
      outboxRow db.nextOutboxId minted.validation.jobId .auditLog (validatedPayload minted.validation.result),
      outboxRow (minted.link db).slackId minted.validation.jobId .slackPost minted.message,
      outboxRow (minted.link db).uploadId minted.validation.jobId .uploadResult
        (.uploadResult (minted.link db).jobId (minted.link db).bucket (minted.link db).blobName)] ∧
      db'.nextOutboxId = db.nextOutboxId + 3 := by
  cases present : db.hasJob minted.validation.jobId with
  | true =>
    rw [Minted.block, applyAll_validated _ _ _ _ present] at applied
    cases applied
    refine ⟨?_, ?_⟩
    · simp [validatedDb, pushOutbox, pushAudit, setStatus, putOutput, Minted.link, uploadPayload, Validation.blobName]
    · simp [validatedDb, pushOutbox, pushAudit, setStatus, putOutput]
  | false => simp [Minted.block, validatedBlock, applyAll, upsertOutput, referring, present] at applied

end

/-- The rows of a link are its message and its upload, wherever they are on their way, and its
    blob is stored once the handler of the upload returned. -/
structure Backed (s : State) : Prop where
  fresh : ∀ row ∈ held s.dispatcher, row.outboxId < s.dispatcher.db.nextOutboxId
  assigned : ∀ link ∈ s.links,
    link.slackId < s.dispatcher.db.nextOutboxId ∧ link.uploadId < s.dispatcher.db.nextOutboxId
  message : ∀ link ∈ s.links, ∀ row ∈ held s.dispatcher, row.outboxId = link.slackId → row.eventType = .slackPost
  upload : ∀ link ∈ s.links, ∀ row ∈ held s.dispatcher, row.outboxId = link.uploadId →
    row.eventType = .uploadResult ∧ row.payload = .uploadResult link.jobId link.bucket link.blobName
  returned : ∀ link ∈ s.links, ∀ worker row expiresAt deliveredAt,
    s.dispatcher.working worker = some ⟨row, expiresAt, .returned deliveredAt⟩ → row.outboxId = link.uploadId →
      link.Stored s
  recorded : ∀ link ∈ s.links, Delivered s.dispatcher.db link.uploadId → link.Stored s

/-- Every link expires when its time is over. -/
structure Timed (s : State) : Prop where
  minted : ∀ minted ∈ s.minted, minted.expiresAt = minted.issuedAt + seconds signedUrlTtlSeconds
  links : ∀ link ∈ s.links, link.expiresAt = link.issuedAt + seconds signedUrlTtlSeconds

section
variable {s : State} {dispatcher : Dispatcher.State} {blobs : Table (String × String) NormalizedRatesheet}

theorem handled_grows {db : Db} {row : OnrampOutbox} (returns : handled db row s.blobs = some blobs) {key : String × String}
    (there : (find key s.blobs).isSome) : (find key blobs).isSome := by
  unfold handled at returns
  split at returns
  · next jobId bucket blobName _ _ =>
    obtain ⟨output, _, rfl⟩ := Option.map_eq_some_iff.mp returns
    by_cases same : key = (bucket, blobName)
    · rw [same, find_upsert_self]
      rfl
    · rwa [find_upsert_other same]
  · cases returns
  · cases returns
    exact there

theorem handled_uploads {db : Db} {row : OnrampOutbox} (returns : handled db row s.blobs = some blobs)
    {jobId bucket blobName : String} (upload : row.eventType = .uploadResult)
    (payload : row.payload = .uploadResult jobId bucket blobName) : (find (bucket, blobName) blobs).isSome := by
  simp only [handled, upload, payload] at returns
  obtain ⟨output, _, rfl⟩ := Option.map_eq_some_iff.mp returns
  rw [find_upsert_self]
  rfl

/-- A step of the dispatcher, whose handler stores what it uploads. -/
theorem Backed.dispatched {event : Dispatcher.Event} (backed : Backed s)
    (stepped : Dispatcher.step s.dispatcher event = some dispatcher)
    (grows : ∀ key, (find key s.blobs).isSome → (find key blobs).isSome)
    (uploads : ∀ worker row expiresAt jobId bucket blobName, event = .tick worker .returned →
      s.dispatcher.working worker = some ⟨row, expiresAt, .called⟩ → row.eventType = .uploadResult →
        row.payload = .uploadResult jobId bucket blobName → (find (bucket, blobName) blobs).isSome) :
    Backed { s with dispatcher, blobs } := by
  obtain ⟨later, rows⟩ := held_of_step stepped
  -- a row of a link is no new one, so it is still the row of the link
  have known : ∀ row ∈ held dispatcher, row.outboxId < s.dispatcher.db.nextOutboxId →
      ∃ old ∈ held s.dispatcher, SameEvent row old := by
    intro row inside early
    rcases rows row inside with old | ⟨new, _⟩
    · exact old
    · exact absurd early (by rw [new]; exact Nat.lt_irrefl _)
  refine ⟨?_, ?_, ?_, ?_, ?_, ?_⟩
  · intro row inside
    rcases rows row inside with ⟨old, there, same, _⟩ | ⟨new, grown⟩
    · rw [same]
      exact lt_of_lt_of_le (backed.fresh old there) later
    · rw [new]
      exact grown
  · intro link inside
    obtain ⟨slack, upload⟩ := backed.assigned link inside
    exact ⟨lt_of_lt_of_le slack later, lt_of_lt_of_le upload later⟩
  · intro link inside row there same
    obtain ⟨old, there', id, kind, _⟩ := known row there (same ▸ (backed.assigned link inside).1)
    rw [kind]
    exact backed.message link inside old there' (id ▸ same)
  · intro link inside row there same
    obtain ⟨old, there', id, kind, payload⟩ := known row there (same ▸ (backed.assigned link inside).2)
    rw [kind, payload]
    exact backed.upload link inside old there' (id ▸ same)
  · intro link inside worker row expiresAt deliveredAt busy same
    rcases works_of_step stepped busy with before | locked | ⟨called, _⟩ | ⟨_, _, event, before⟩ | ⟨_, raised⟩
    · exact grows _ (backed.returned link inside worker row expiresAt deliveredAt before same)
    · cases locked
    · cases called
    · obtain ⟨kind, payload⟩ := backed.upload link inside row (held_of_working before) same
      exact uploads worker row expiresAt _ _ _ event before kind payload
    · cases raised
  · intro link inside delivered
    rcases Retries.delivered_by_return stepped delivered with before | ⟨worker, row, expiresAt, deliveredAt, busy, same⟩
    · exact grows _ (backed.recorded link inside before)
    · exact grows _ (backed.returned link inside worker row expiresAt deliveredAt busy same)

/-- What the rows of a block are, by their ids. -/
theorem held_of_block {minted : Minted} {db : Db} (fresh : ∀ row ∈ held s.dispatcher, row.outboxId < s.dispatcher.db.nextOutboxId)
    (applied : applyAll minted.block s.dispatcher.db = .ok db) {row : OnrampOutbox}
    (inside : row ∈ held { s.dispatcher with db }) :
    row.outboxId < db.nextOutboxId ∧
      (row.outboxId < s.dispatcher.db.nextOutboxId → row ∈ held s.dispatcher) ∧
      (row.outboxId = (minted.link s.dispatcher.db).slackId → row.eventType = .slackPost) ∧
      (row.outboxId = (minted.link s.dispatcher.db).uploadId → row.eventType = .uploadResult ∧
        row.payload = .uploadResult (minted.link s.dispatcher.db).jobId (minted.link s.dispatcher.db).bucket
          (minted.link s.dispatcher.db).blobName) := by
  obtain ⟨table, next⟩ := outbox_of_block applied
  have slack : (minted.link s.dispatcher.db).slackId = s.dispatcher.db.nextOutboxId + 1 := rfl
  have upload : (minted.link s.dispatcher.db).uploadId = s.dispatcher.db.nextOutboxId + 2 := rfl
  have known : row ∈ held s.dispatcher → row.outboxId < s.dispatcher.db.nextOutboxId := fresh row
  rcases List.mem_append.mp inside with stored | batched
  · rw [table] at stored
    rcases List.mem_append.mp stored with old | new
    · have there : row ∈ held s.dispatcher := List.mem_append_left _ old
      have early := known there
      exact ⟨by omega, fun _ => there, fun same => by omega, fun same => by omega⟩
    · simp only [List.mem_cons, List.not_mem_nil, or_false] at new
      rcases new with audit | message | uploaded
      · have id : row.outboxId = s.dispatcher.db.nextOutboxId := by rw [audit]; rfl
        exact ⟨by omega, fun early => by omega, fun same => by omega, fun same => by omega⟩
      · have id : row.outboxId = s.dispatcher.db.nextOutboxId + 1 := by rw [message]; rfl
        exact ⟨by omega, fun early => by omega, fun _ => by rw [message]; rfl, fun same => by omega⟩
      · have id : row.outboxId = s.dispatcher.db.nextOutboxId + 2 := by rw [uploaded]; rfl
        exact ⟨by omega, fun early => by omega, fun same => by omega, fun _ => by rw [uploaded]; exact ⟨rfl, rfl⟩⟩
  · have there : row ∈ held s.dispatcher := List.mem_append_right _ batched
    have early := known there
    exact ⟨by omega, fun _ => there, fun same => by omega, fun same => by omega⟩

theorem Backed.completed {minted : Minted} {db : Db} (backed : Backed s)
    (applied : applyAll minted.block s.dispatcher.db = .ok db) (place : Nat) :
    Backed { s with
      dispatcher := { s.dispatcher with db }
      minted := s.minted.eraseIdx place
      links := s.links ++ [minted.link s.dispatcher.db] } := by
  obtain ⟨table, next⟩ := outbox_of_block applied
  have delivered : ∀ outboxId, Delivered db outboxId ↔ Delivered s.dispatcher.db outboxId :=
    fun outboxId => delivered_append table (by simp [outboxRow])
  -- no row has the id of the new upload yet
  have unused : ∀ row ∈ held s.dispatcher, row.outboxId ≠ (minted.link s.dispatcher.db).uploadId := by
    intro row inside same
    have early := backed.fresh row inside
    simp only [Minted.link] at same
    omega
  refine ⟨fun row inside => (held_of_block backed.fresh applied inside).1, ?_, ?_, ?_, ?_, ?_⟩
  · intro link inside
    show link.slackId < db.nextOutboxId ∧ link.uploadId < db.nextOutboxId
    rw [next]
    rcases List.mem_append.mp inside with old | new
    · have early := backed.assigned link old
      omega
    · rw [List.mem_singleton.mp new]
      simp [Minted.link]
  · intro link inside row there same
    obtain ⟨_, before, message, _⟩ := held_of_block backed.fresh applied there
    rcases List.mem_append.mp inside with old | new
    · exact backed.message link old row (before (same ▸ (backed.assigned link old).1)) same
    · obtain rfl := List.mem_singleton.mp new
      exact message same
  · intro link inside row there same
    obtain ⟨_, before, _, upload⟩ := held_of_block backed.fresh applied there
    rcases List.mem_append.mp inside with old | new
    · exact backed.upload link old row (before (same ▸ (backed.assigned link old).2)) same
    · obtain rfl := List.mem_singleton.mp new
      exact upload same
  · intro link inside worker row expiresAt deliveredAt busy same
    have before : s.dispatcher.working worker = some ⟨row, expiresAt, .returned deliveredAt⟩ := busy
    rcases List.mem_append.mp inside with old | new
    · exact backed.returned link old worker row expiresAt deliveredAt before same
    · obtain rfl := List.mem_singleton.mp new
      exact absurd same (unused row (held_of_working before))
  · intro link inside done
    rcases List.mem_append.mp inside with old | new
    · exact backed.recorded link old ((delivered link.uploadId).mp done)
    · obtain rfl := List.mem_singleton.mp new
      obtain ⟨row, found, _⟩ := (delivered _).mp done
      have same : row.outboxId = (minted.link s.dispatcher.db).uploadId := by simpa using List.find?_some found
      exact absurd same (unused row (List.mem_append_left _ (List.mem_of_find?_eq_some found)))

variable {s' : State}

/-- What an event of the dispatcher does: its step, and what the handler uploads. -/
theorem dispatched_of_step {event : Dispatcher.Event} (stepped : step s (.dispatch event) = some s') :
    ∃ dispatcher blobs, Dispatcher.step s.dispatcher event = some dispatcher ∧ s' = { s with dispatcher, blobs } ∧
      (∀ key, (find key s.blobs).isSome → (find key blobs).isSome) ∧
      ∀ worker row expiresAt jobId bucket blobName, event = .tick worker .returned →
        s.dispatcher.working worker = some ⟨row, expiresAt, .called⟩ → row.eventType = .uploadResult →
          row.payload = .uploadResult jobId bucket blobName → (find (bucket, blobName) blobs).isSome := by
  by_cases returns : ∃ worker, event = .tick worker .returned
  · obtain ⟨worker, rfl⟩ := returns
    simp only [step, Option.bind_eq_bind, Option.bind_eq_some_iff] at stepped
    obtain ⟨work, busy, blobs, stored, dispatcher, moved, made⟩ := stepped
    cases made
    refine ⟨dispatcher, blobs, moved, rfl, fun key => handled_grows stored, ?_⟩
    intro other row expiresAt jobId bucket blobName same called kind payload
    cases same
    rw [busy] at called
    cases called
    exact handled_uploads stored kind payload
  · have plain : step s (.dispatch event) = (Dispatcher.step s.dispatcher event).map (fun dispatcher => { s with dispatcher }) := by
      cases event with
      | tick worker action =>
        cases action with
        | returned => exact absurd ⟨worker, rfl⟩ returns
        | _ => rfl
      | _ => rfl
    rw [plain] at stepped
    obtain ⟨dispatcher, moved, rfl⟩ := Option.map_eq_some_iff.mp stepped
    refine ⟨dispatcher, s.blobs, moved, rfl, fun _ there => there, ?_⟩
    intro worker _ _ _ _ _ same
    exact absurd ⟨worker, same⟩ returns

theorem completed_of_step {place : Nat} (stepped : step s (.complete place) = some s') :
    ∃ minted db, s.minted[place]? = some minted ∧ applyAll minted.block s.dispatcher.db = .ok db ∧
      s' = { s with
        dispatcher := { s.dispatcher with db }
        minted := s.minted.eraseIdx place
        links := s.links ++ [minted.link s.dispatcher.db] } := by
  simp only [step, Option.bind_eq_bind, Option.bind_eq_some_iff] at stepped
  obtain ⟨minted, there, made⟩ := stepped
  cases applied : applyAll minted.block s.dispatcher.db with
  | error exc =>
    rw [applied] at made
    cases made
  | ok db =>
    rw [applied] at made
    cases made
    exact ⟨minted, db, there, applied, rfl⟩

theorem minted_of_step {validation : Validation} {sign : String → String → String → Raises String}
    (stepped : step s (.mint validation sign) = some s') :
    ∃ minted : Minted, minted.expiresAt = minted.issuedAt + seconds signedUrlTtlSeconds ∧
      s' = { s with minted := s.minted ++ [minted] } := by
  simp only [step] at stepped
  split at stepped
  · next signed =>
    cases stepped
    exact ⟨_, generateV4SignedUrl_expires signed, rfl⟩
  · cases stepped

theorem Backed.step {event : Event} (backed : Backed s) (stepped : Links.step s event = some s') : Backed s' := by
  cases event with
  | mint validation sign =>
    obtain ⟨minted, _, rfl⟩ := minted_of_step stepped
    exact ⟨backed.fresh, backed.assigned, backed.message, backed.upload, backed.returned, backed.recorded⟩
  | complete place =>
    obtain ⟨minted, db, _, applied, rfl⟩ := completed_of_step stepped
    exact backed.completed applied place
  | dispatch event =>
    obtain ⟨dispatcher, blobs, moved, rfl, grows, uploads⟩ := dispatched_of_step stepped
    exact backed.dispatched moved grows uploads

theorem Timed.step {event : Event} (timed : Timed s) (stepped : Links.step s event = some s') : Timed s' := by
  cases event with
  | mint validation sign =>
    obtain ⟨minted, expires, rfl⟩ := minted_of_step stepped
    refine ⟨?_, timed.links⟩
    intro other inside
    rcases List.mem_append.mp inside with old | new
    · exact timed.minted other old
    · rw [List.mem_singleton.mp new]
      exact expires
  | complete place =>
    obtain ⟨minted, db, there, _, rfl⟩ := completed_of_step stepped
    refine ⟨fun other inside => timed.minted other (List.mem_of_mem_eraseIdx inside), ?_⟩
    intro link inside
    rcases List.mem_append.mp inside with old | new
    · exact timed.links link old
    · rw [List.mem_singleton.mp new]
      exact timed.minted minted (List.mem_of_getElem? there)
  | dispatch event =>
    obtain ⟨dispatcher, blobs, _, rfl, _⟩ := dispatched_of_step stepped
    exact ⟨timed.minted, timed.links⟩

/-! ### Messages under way -/

/-- The upload of every message whose handler runs is delivered, and its link not expired. -/
def Punctual (s : State) : Prop :=
  ∀ worker row expiresAt, s.dispatcher.working worker = some ⟨row, expiresAt, .called⟩ → ∀ link ∈ s.links,
    row.outboxId = link.slackId → Delivered s.dispatcher.db link.uploadId ∧ s.dispatcher.now < link.expiresAt

theorem mem_waiting {tick : Tick} {row : OnrampOutbox} :
    row ∈ waiting tick ↔ ∃ expiresAt, tick.work = some ⟨row, expiresAt, .locked⟩ := by
  cases busy : tick.work with
  | none => simp [waiting, busy]
  | some work =>
    obtain ⟨row', expiresAt, progress⟩ := work
    cases progress <;> simp [waiting, busy]

theorem mem_running {tick : Tick} {row : OnrampOutbox} :
    row ∈ running tick ↔ ∃ expiresAt, tick.work = some ⟨row, expiresAt, .called⟩ := by
  cases busy : tick.work with
  | none => simp [running, busy]
  | some work =>
    obtain ⟨row', expiresAt, progress⟩ := work
    cases progress <;> simp [running, busy]

theorem returned_steps {worker : Nat} {row : OnrampOutbox} {expiresAt : Instant}
    (busy : s.dispatcher.working worker = some ⟨row, expiresAt, .called⟩) (message : row.eventType = .slackPost) :
    ∃ next, step s (.dispatch (.tick worker .returned)) = some next := by
  obtain ⟨tick, present, busy'⟩ := Option.bind_eq_some_iff.mp busy
  obtain ⟨phase, rows, delivered, failed, skipped⟩ := tick
  cases phase with
  | working work =>
    cases busy'
    simp [step, busy, handled, message, Dispatcher.step, present, Dispatcher.drainOnce]
  | _ => cases busy'

theorem nextWorks_iff (backed : Backed s) : NextWorks s ↔ Punctual s := by
  constructor
  · intro works worker row expiresAt busy link inside same
    have message := backed.message link inside row (held_of_working busy) same
    obtain ⟨next, stepped⟩ := returned_steps busy message
    have linked := works worker next stepped _ busy link inside same
    exact ⟨linked.delivered, linked.unexpired⟩
  · intro punctual worker next stepped work busy link inside same
    obtain ⟨dispatcher, _, moved, _⟩ := dispatched_of_step stepped
    obtain ⟨tick, present, drains⟩ := drains_of_step moved
    cases drains with
    | returned =>
      rw [working_of_tick present rfl] at busy
      cases busy
      obtain ⟨delivered, early⟩ := punctual worker _ _ (working_of_tick present rfl) link inside same
      exact ⟨backed.recorded link inside delivered, delivered, early⟩

theorem now_of_step {event : Dispatcher.Event} {before after : Dispatcher.State}
    (stepped : Dispatcher.step before event = some after) (still : ∀ elapsed, event ≠ .advance elapsed) :
    after.now = before.now := by
  cases event with
  | advance elapsed => exact absurd rfl (still elapsed)
  | enqueue jobId eventType payload =>
    obtain rfl := enqueued_of_step stepped
    rfl
  | start =>
    cases stepped
    rfl
  | tick worker action =>
    obtain ⟨tick, present, drains⟩ := drains_of_step stepped
    cases drains <;> rfl

theorem Punctual.dispatched {event : Dispatcher.Event} (punctual : Punctual s)
    (moved : Dispatcher.step s.dispatcher event = some dispatcher) (still : ∀ elapsed, event ≠ .advance elapsed)
    (calls : ∀ worker row expiresAt, event = .tick worker .call →
      s.dispatcher.working worker = some ⟨row, expiresAt, .locked⟩ → ∀ link ∈ s.links, row.outboxId = link.slackId →
        Delivered s.dispatcher.db link.uploadId ∧ s.dispatcher.now < link.expiresAt) :
    Punctual { s with dispatcher, blobs } := by
  intro worker row expiresAt busy link inside same
  have before : Delivered s.dispatcher.db link.uploadId ∧ s.dispatcher.now < link.expiresAt := by
    rcases works_of_step moved busy with running | locked | ⟨_, called, ready⟩ | ⟨_, returned, _⟩ | ⟨_, raised⟩
    · exact punctual worker row expiresAt running link inside same
    · cases locked
    · exact calls worker row expiresAt called ready link inside same
    · cases returned
    · cases raised
  refine ⟨delivered_of_step moved before.1, ?_⟩
  show dispatcher.now < link.expiresAt
  rw [now_of_step moved still]
  exact before.2

theorem Punctual.completed {minted : Minted} {db : Db} (punctual : Punctual s) (backed : Backed s)
    (applied : applyAll minted.block s.dispatcher.db = .ok db) (place : Nat) :
    Punctual { s with
      dispatcher := { s.dispatcher with db }
      minted := s.minted.eraseIdx place
      links := s.links ++ [minted.link s.dispatcher.db] } := by
  intro worker row expiresAt busy link inside same
  have before : s.dispatcher.working worker = some ⟨row, expiresAt, .called⟩ := busy
  rcases List.mem_append.mp inside with old | new
  · obtain ⟨delivered, early⟩ := punctual worker row expiresAt before link old same
    exact ⟨(delivered_append (outbox_of_block applied).1 (by simp [outboxRow])).mpr delivered, early⟩
  · rw [List.mem_singleton.mp new] at same
    have id : row.outboxId = s.dispatcher.db.nextOutboxId + 1 := same
    have known : row.outboxId < s.dispatcher.db.nextOutboxId := backed.fresh row (held_of_working before)
    omega

/-- A step keeps the messages under way punctual exactly when it is in time. -/
theorem punctual_iff_of_step {event : Event} (backed : Backed s) (punctual : Punctual s)
    (stepped : step s event = some s') : Punctual s' ↔ InTime s event := by
  cases event with
  | mint validation sign =>
    obtain ⟨minted, _, rfl⟩ := minted_of_step stepped
    exact iff_of_true punctual trivial
  | complete place =>
    obtain ⟨minted, db, _, applied, rfl⟩ := completed_of_step stepped
    exact iff_of_true (punctual.completed backed applied place) trivial
  | dispatch event =>
    obtain ⟨dispatcher, blobs, moved, rfl, _⟩ := dispatched_of_step stepped
    cases event with
    | advance elapsed =>
      cases moved
      constructor
      · intro later tick present row runs link inside same
        obtain ⟨expiresAt, busy⟩ := mem_running.mp runs
        obtain ⟨worker, there⟩ := List.getElem?_of_mem present
        exact (later worker row expiresAt (working_of_tick there busy) link inside same).2
      · intro timely worker row expiresAt busy link inside same
        obtain ⟨tick, there, busy'⟩ := Option.bind_eq_some_iff.mp busy
        exact ⟨(punctual worker row expiresAt busy link inside same).1,
          timely tick (List.mem_of_getElem? there) row (mem_running.mpr ⟨expiresAt, busy'⟩) link inside same⟩
    | tick worker action =>
      cases action with
      | call =>
        obtain ⟨tick, present, drains⟩ := drains_of_step moved
        cases drains with
        | @call row expiresAt rest delivered failed skipped =>
          constructor
          · intro later tick' there row' waits link inside same
            cases present.symm.trans there
            obtain ⟨expiresAt', busy⟩ := mem_waiting.mp waits
            cases busy
            exact later worker row expiresAt ((working_of_set present rfl).trans (if_pos rfl)) link inside same
          · intro timely
            refine punctual.dispatched moved (by simp) ?_
            intro other row' expiresAt' called ready
            cases called
            obtain ⟨tick', there, busy⟩ := Option.bind_eq_some_iff.mp ready
            exact timely tick' there row' (mem_waiting.mpr ⟨expiresAt', busy⟩)
      | _ => exact iff_of_true (punctual.dispatched moved (by simp) (by simp)) trivial
    | _ => exact iff_of_true (punctual.dispatched moved (by simp) (by simp)) trivial

end

section
variable (now : Instant) (db : Db)

theorem initial_backed (sequence : ∀ row ∈ db.outbox, row.outboxId < db.nextOutboxId) : Backed (initial now db) where
  fresh := by
    intro row inside
    rcases List.mem_append.mp inside with stored | batched
    · exact sequence row stored
    · cases batched
  assigned := fun link inside => absurd inside List.not_mem_nil
  message := fun link inside => absurd inside List.not_mem_nil
  upload := fun link inside => absurd inside List.not_mem_nil
  returned := fun link inside => absurd inside List.not_mem_nil
  recorded := fun link inside => absurd inside List.not_mem_nil

theorem initial_timed : Timed (initial now db) :=
  ⟨fun _ inside => absurd inside List.not_mem_nil, fun _ inside => absurd inside List.not_mem_nil⟩

theorem initial_punctual : Punctual (initial now db) := by
  intro worker row expiresAt busy
  cases busy

/-- A link leads to the blob that the upload of its own job stores, for as long as it was signed
    for. The link of a delivered message works in every run that calls the handlers of messages
    in time, and a step that is not in time leaves a message that can be delivered with a link
    that does not work. -/
theorem timely_links_work (sequence : ∀ row ∈ db.outbox, row.outboxId < db.nextOutboxId) (events : List Event) :
    (∀ last, run step (initial now db) events = some last → ∀ link ∈ last.links,
      link.expiresAt = link.issuedAt + seconds signedUrlTtlSeconds ∧
        (Delivered last.dispatcher.db link.uploadId → link.Stored last)) ∧
    ((∀ before event after, Takes step (initial now db) events before event after → InTime before event) →
      DeliveredLinksWork now db events) ∧
    ((∀ before event after, Takes step (initial now db) events before event after → NextWorks after) ↔
      ∀ before event after, Takes step (initial now db) events before event after → InTime before event) := by
  obtain ⟨reach, along⟩ := invariant_of_run (fun s => Backed s ∧ Timed s) (fun _ _ => True)
    (fun s event next inv _ stepped => ⟨inv.1.step stepped, inv.2.step stepped⟩) events (initial now db)
    ⟨initial_backed now db sequence, initial_timed now db⟩ (fun _ _ _ _ => trivial)
  refine ⟨?_, ?_, ?_⟩
  · intro last reached link inside
    obtain ⟨backed, timed⟩ := reach last reached
    exact ⟨timed.links link inside, backed.recorded link inside⟩
  · intro timely before worker after taken
    have punctual : Punctual before := by
      refine ((invariant_of_run (fun s => Backed s ∧ Punctual s) InTime ?_ events (initial now db)
        ⟨initial_backed now db sequence, initial_punctual now db⟩ timely).2 _ _ _ taken).2
      intro s event next ⟨backed, punctual⟩ inTime stepped
      exact ⟨backed.step stepped, (punctual_iff_of_step backed punctual stepped).mpr inTime⟩
    exact (nextWorks_iff (along _ _ _ taken).1).mpr punctual worker after (stepped_of_takes taken)
  · have backed_after : ∀ before event after, Takes step (initial now db) events before event after → Backed after :=
      fun before event after taken => (along before event after taken).1.step (stepped_of_takes taken)
    rw [← along_iff_of_run Backed Punctual InTime (fun s event next backed stepped => backed.step stepped)
      (fun s event next backed punctual stepped => punctual_iff_of_step backed punctual stepped) events (initial now db)
      (initial_backed now db sequence) (initial_punctual now db)]
    constructor
    · intro works before event after taken
      exact (nextWorks_iff (backed_after before event after taken)).mp (works before event after taken)
    · intro punctual before event after taken
      exact (nextWorks_iff (backed_after before event after taken)).mpr (punctual before event after taken)

end

/-- A job whose lanes are validated. -/
def validatingDb : Db where
  jobs := [("j1", sampleJob .validating)]
  outputs := [("j1", outputRow (sampleSheet [] []))]
  outbox := [outboxRow 1 "j1" .auditLog (.ingressReceived "ops@acme.test" "normal" "C042")]
  nextOutboxId := 2
  scores := []
  auditLog := []
  reference := ⟨[], []⟩

def validation : Validation where
  env := sampleEnv
  jobId := "j1"
  result := ⟨sampleSheet [] [], [], [], [], 0, []⟩
  channel := "C042"
  prospectName := "Acme Lines"
  serviceAccount := "signer@acme.test"

/-- The job is completed, and a tick starts. Its rows are 2, 3 for the message and 4 for the upload. -/
def completion : List Event :=
  [.mint validation (fun bucket blobName _ => .ok ("https://storage.googleapis.com/" ++ bucket ++ "/" ++ blobName)),
    .complete 0, .dispatch .start]

/-- The tick of the beat dispatches its next row. -/
def dispatched : List Event :=
  [.dispatch (.tick 0 .acquire), .dispatch (.tick 0 .call), .dispatch (.tick 0 .returned), .dispatch (.tick 0 .commit)]

/-- The batch has the message before the upload. -/
def messageFirst : List Event := completion ++ .dispatch (.tick 0 (.select [3, 4, 1, 2])) :: dispatched

def uploadFirst : List Event := completion ++ .dispatch (.tick 0 (.select [4, 3, 1, 2])) :: (dispatched ++ dispatched)

/-- The upload is delivered, and the link expires before the message is sent. -/
def lateMessage : List Event :=
  completion ++ .dispatch (.tick 0 (.select [4, 3, 1, 2])) :: (dispatched ++ .dispatch (.advance (seconds 900)) :: dispatched)

theorem timely_links_work_upload_first :
    (∃ last, run step (initial 0 validatingDb) uploadFirst = some last) ∧ DeliveredLinksWork 0 validatingDb uploadFirst := by
  have timely : checked step (fun s e => decide (InTime s e)) (initial 0 validatingDb) uploadFirst = true := by decide
  refine ⟨⟨_, rfl⟩, (timely_links_work 0 validatingDb (by decide) uploadFirst).2.1 ?_⟩
  intro before event after taken
  have passed := of_checked timely taken
  exact of_decide_eq_true passed

/-- The message goes out before its blob is uploaded, or after its link expired. -/
theorem link_dead_on_delivery :
    ¬ DeliveredLinksWork 0 validatingDb messageFirst ∧ ¬ DeliveredLinksWork 0 validatingDb lateMessage := by
  constructor
  · intro works
    have dead := works _ 0 _ (@takes_of_run _ _ step (completion ++ [.dispatch (.tick 0 (.select [3, 4, 1, 2])),
      .dispatch (.tick 0 .acquire), .dispatch (.tick 0 .call)]) [.dispatch (.tick 0 .commit)] _ _ _ _ rfl rfl)
    obtain ⟨row, found, done⟩ := (dead _ rfl _ (List.mem_singleton.mpr rfl) rfl).delivered
    cases found
    exact done rfl
  · intro works
    have dead := works _ 0 _ (@takes_of_run _ _ step (completion ++ .dispatch (.tick 0 (.select [4, 3, 1, 2])) ::
      (dispatched ++ [.dispatch (.advance (seconds 900)), .dispatch (.tick 0 .acquire), .dispatch (.tick 0 .call)]))
      [.dispatch (.tick 0 .commit)] _ _ _ _ rfl rfl)
    have expired := (dead _ rfl _ (List.mem_singleton.mpr rfl) rfl).unexpired
    exact absurd expired (by decide)

end Onramp.Links
