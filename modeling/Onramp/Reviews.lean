import Onramp.ReadRoutes
import Onramp.Writers

/-!
The reviews of the operators. A review of a lane is posted in two transactions, one that looks for
the job and one that inserts, so that the posts of several operators and all other writers of the
database come in between. The constraint of the table lets the first review of a lane through; the
others fail, and what is recorded is never changed.
-/
namespace Onramp.Reviews
open Onramp.Python
open Onramp.Models
open Onramp.Database
open Onramp.Tasks (Env)
open Onramp.Journey (Block)
open Onramp.Library.Runs
open Onramp.Library.Transactions
open Onramp.ReadRoutes (RouteError invalidRequestError jobNotFound raising)
open Onramp.Writers
open Onramp.Settlement (pendingDb)

inductive Decision
  | accept | reject | needsProspectClarification
  deriving DecidableEq

/-- The text of the literal. -/
def Decision.literal : Decision → String
  | .accept => "accept"
  | .reject => "reject"
  | .needsProspectClarification => "needs_prospect_clarification"

structure ReviewAck where
  jobId : String
  laneId : String
  decision : Decision
  operatorEmail : String
  notes : String
  acknowledgedAt : DateTime
  deriving DecidableEq

structure ReviewAck.Valid (ack : ReviewAck) : Prop where
  operatorEmail : lengthWithin 5 128 ack.operatorEmail
  notes : ack.notes.length ≤ 512

instance : DecidablePred ReviewAck.Valid := fun ack =>
  decidable_of_iff (lengthWithin 5 128 ack.operatorEmail ∧ ack.notes.length ≤ 512) ⟨fun h => ⟨h.1, h.2⟩, fun h => ⟨h.1, h.2⟩⟩

structure OnrampIntakeReview where
  jobId : String
  laneId : String
  decision : Decision
  operatorEmail : String
  notes : String
  acknowledgedAt : DateTime
  deriving DecidableEq

/-- The tables with that of the reviews. -/
structure Store where
  db : Db
  reviews : List OnrampIntakeReview

abbrev RouteBody (α : Type) : Type := Prog Store RouteError α

/-- The row that is added for an acknowledgement. -/
def reviewRow (ack : ReviewAck) : OnrampIntakeReview where
  jobId := ack.jobId
  laneId := ack.laneId
  decision := ack.decision
  operatorEmail := ack.operatorEmail
  notes := ack.notes
  acknowledgedAt := ack.acknowledgedAt

/-- The insert of a review, under `uq_intake_review_one_per_lane` and the foreign key. -/
def addReview (ack : ReviewAck) (s : Store) : Raises Store :=
  if s.reviews.any (fun row => row.jobId = ack.jobId ∧ row.laneId = ack.laneId) then
    .error (PyExc.mk' .integrityError "duplicate key value")
  else if s.db.hasJob ack.jobId then .ok { s with reviews := s.reviews ++ [reviewRow ack] }
  else .error (PyExc.mk' .integrityError "violates foreign key constraint")

/-- `enqueue_outbox_event` next to the reviews. -/
def enqueue (jobId : String) (eventType : OutboxEventType) (payload : Payload) (s : Store) : Raises Store := do
  let db ← enqueueOutboxEvent jobId eventType payload s.db
  return { s with db }

/-- The query for the job, which is answered with 404 when there is none. -/
def jobExists (jobId : String) : RouteBody Unit := do
  if ← query (fun s => .ok (s.db.hasJob jobId)) then return () else raise jobNotFound

/-- `post_review` up to its commit. -/
def checkReview (jobId : String) (ack : ReviewAck) : RouteBody Unit :=
  if ack.jobId ≠ jobId then raise (.httpException 422 (.str "ack.job_id does not match URL job_id"))
  else do
    jobExists jobId
    commit

/-- The block of `post_review`. -/
def recordReview (jobId : String) (ack : ReviewAck) : RouteBody ReviewAck := do
  beginning invalidRequestError do
    execute (fun s => raising (addReview ack s))
    execute (fun s => raising (enqueue jobId .auditLog
      (.reviewAcknowledged ack.laneId ack.decision.literal ack.operatorEmail) s))
  return ack

def postReview (jobId : String) (ack : ReviewAck) : RouteBody ReviewAck := do
  checkReview jobId ack
  recordReview jobId ack

/-- The acknowledgement that a row is listed as. -/
def ackOf (row : OnrampIntakeReview) : ReviewAck where
  jobId := row.jobId
  laneId := row.laneId
  decision := row.decision
  operatorEmail := row.operatorEmail
  notes := row.notes
  acknowledgedAt := row.acknowledgedAt

/-- Every row as its acknowledgement, which is validated again. -/
def acksOf : List OnrampIntakeReview → Raises (List ReviewAck)
  | [] => .ok []
  | row :: rest => do
    let ack ← checked "ReviewAck" ReviewAck.Valid (ackOf row)
    let acks ← acksOf rest
    return ack :: acks

def listReviews (jobId : String) : RouteBody (List ReviewAck) := do
  jobExists jobId
  let rows ← query (fun s => .ok (oldestFirst OnrampIntakeReview.acknowledgedAt (s.reviews.filter (fun row => row.jobId = jobId))))
  lift (raising (acksOf rows))

/-- How far a post has come. -/
inductive Progress
  | received
  | found
  | answered (outcome : Except RouteError ReviewAck)

structure Post where
  jobId : String
  ack : ReviewAck
  progress : Progress

/-- The tables and the posts so far. The worker of a post is its place in the list. -/
structure State where
  store : Store
  posts : List Post

inductive Event
  | post (jobId : String) (ack : ReviewAck)
  | check (worker : Nat)
  | record (worker : Nat)
  | write (writer : Writer)

/-- The writer enqueues no review. -/
def elsewhere : Writer → Bool
  | .event _ _ payload => payload.stage ≠ some .reviewAcknowledged
  | _ => true

/-- One event. A body that is not valid is answered with 422 before the route is called. -/
def step (s : State) : Event → Option State
  | .post jobId ack => if ack.Valid then some { s with posts := s.posts ++ [⟨jobId, ack, .received⟩] } else some s
  | .check worker =>
    match s.posts[worker]? with
    | some ⟨jobId, ack, .received⟩ =>
      let (outcome, store) := Library.Transactions.run (checkReview jobId ack) s.store
      let progress :=
        match outcome with
        | .ok () => .found
        | .error error => .answered (.error error)
      some { store, posts := s.posts.set worker ⟨jobId, ack, progress⟩ }
    | _ => none
  | .record worker =>
    match s.posts[worker]? with
    | some ⟨jobId, ack, .found⟩ =>
      let (outcome, store) := Library.Transactions.run (recordReview jobId ack) s.store
      some { store, posts := s.posts.set worker ⟨jobId, ack, .answered outcome⟩ }
    | _ => none
  | .write writer => if elsewhere writer then some { s with store := { s.store with db := writer.apply s.store.db } } else none

/-- The lane that a review is of. -/
def laneOf (row : OnrampIntakeReview) : String × String := (row.jobId, row.laneId)

def mismatch : RouteError := .httpException 422 (.str "ack.job_id does not match URL job_id")

def alreadyReviewed : RouteError := .raised (PyExc.mk' .integrityError "duplicate key value")

theorem jobExists_present {jobId : String} {s : Store} (present : s.db.hasJob jobId = true) :
    jobExists jobId ⟨s, none⟩ = (.ok (), Session.opened ⟨s, none⟩) := by
  simp [jobExists, query, bind, pure, Session.view, present]

theorem jobExists_absent {jobId : String} {s : Store} (absent : s.db.hasJob jobId = false) :
    jobExists jobId ⟨s, none⟩ = (.error jobNotFound, Session.opened ⟨s, none⟩) := by
  simp [jobExists, query, bind, Session.view, absent, raise]

/-- The first transaction changes nothing and ends. -/
theorem checkReview_spec (jobId : String) (ack : ReviewAck) (s : Store) :
    (ack.jobId ≠ jobId ∧ Library.Transactions.run (checkReview jobId ack) s = (.error mismatch, s)) ∨
      (ack.jobId = jobId ∧ s.db.hasJob jobId = false ∧ Library.Transactions.run (checkReview jobId ack) s = (.error jobNotFound, s)) ∨
        (ack.jobId = jobId ∧ s.db.hasJob jobId = true ∧ checkReview jobId ack ⟨s, none⟩ = (.ok (), ⟨s, none⟩)) := by
  by_cases same : ack.jobId = jobId
  · right
    cases present : s.db.hasJob jobId with
    | false =>
      refine .inl ⟨same, rfl, run_of_opened ?_⟩
      rw [checkReview, if_neg (not_not.mpr same)]
      exact bind_error (jobExists_absent present)
    | true =>
      refine .inr ⟨same, rfl, ?_⟩
      rw [checkReview, if_neg (not_not.mpr same), bind_ok (jobExists_present present)]
      rfl
  · left
    refine ⟨same, ?_⟩
    rw [checkReview, if_pos same]
    rfl

/-- The tables with the review of an acknowledgement. -/
def reviewed (ack : ReviewAck) (s : Store) : Store where
  db := pushOutbox ack.jobId .auditLog (.reviewAcknowledged ack.laneId ack.decision.literal ack.operatorEmail) s.db
  reviews := s.reviews ++ [reviewRow ack]

theorem addReview_taken {ack : ReviewAck} {s : Store} (taken : laneOf (reviewRow ack) ∈ s.reviews.map laneOf) :
    addReview ack s = .error (PyExc.mk' .integrityError "duplicate key value") := by
  obtain ⟨row, inside, same⟩ := List.mem_map.mp taken
  obtain ⟨sameJob, sameLane⟩ := Prod.mk.inj same
  exact if_pos (List.any_eq_true.mpr ⟨row, inside, decide_eq_true ⟨sameJob, sameLane⟩⟩)

theorem addReview_new {ack : ReviewAck} {s : Store} (new : laneOf (reviewRow ack) ∉ s.reviews.map laneOf)
    (present : s.db.hasJob ack.jobId = true) : addReview ack s = .ok { s with reviews := s.reviews ++ [reviewRow ack] } := by
  have missing : ¬ s.reviews.any (fun row => row.jobId = ack.jobId ∧ row.laneId = ack.laneId) = true := by
    intro found
    obtain ⟨row, inside, same⟩ := List.any_eq_true.mp found
    obtain ⟨sameJob, sameLane⟩ := of_decide_eq_true same
    exact new (List.mem_map.mpr ⟨row, inside, Prod.ext sameJob sameLane⟩)
  rw [addReview, if_neg missing, if_pos present]

/-- The second transaction records the review, or fails on one of the same lane. -/
theorem recordReview_spec {ack : ReviewAck} {s : Store} (present : s.db.hasJob ack.jobId = true) :
    (laneOf (reviewRow ack) ∉ s.reviews.map laneOf ∧
        Library.Transactions.run (recordReview ack.jobId ack) s = (.ok ack, reviewed ack s)) ∨
      (laneOf (reviewRow ack) ∈ s.reviews.map laneOf ∧
        Library.Transactions.run (recordReview ack.jobId ack) s = (.error alreadyReviewed, s)) := by
  by_cases taken : laneOf (reviewRow ack) ∈ s.reviews.map laneOf
  · right
    have refused := addReview_taken taken
    refine ⟨taken, ?_⟩
    simp [Library.Transactions.run, recordReview, beginning, execute, bind, Session.view, refused, raising, Except.mapError,
      alreadyReviewed, Session.opened]
  · left
    have added := addReview_new taken present
    refine ⟨taken, ?_⟩
    simp [Library.Transactions.run, recordReview, beginning, execute, bind, pure, Session.view, added, present, raising,
      Except.mapError, enqueue, enqueueOutboxEvent, referring, reviewed, Except.bind, Except.pure]

/-- A post with nothing in between is its two transactions. -/
theorem postReview_alone (jobId : String) (ack : ReviewAck) (s : Store) :
    Library.Transactions.run (postReview jobId ack) s =
      match Library.Transactions.run (checkReview jobId ack) s with
      | (.ok (), s') => Library.Transactions.run (recordReview jobId ack) s'
      | (.error error, s') => (.error error, s') := by
  rcases ran : checkReview jobId ack ⟨s, none⟩ with ⟨error | ⟨⟩, s'⟩
  · have alone : Library.Transactions.run (checkReview jobId ack) s = (.error error, s'.committed) := by
      rw [Library.Transactions.run, ran]
    rw [alone]
    exact run_bind_error ran
  · rcases checkReview_spec jobId ack s with ⟨-, refused⟩ | ⟨-, -, refused⟩ | ⟨-, -, idle⟩
    · simp [Library.Transactions.run, ran] at refused
    · simp [Library.Transactions.run, ran] at refused
    · have alone : Library.Transactions.run (checkReview jobId ack) s = (.ok (), s) := by
        rw [Library.Transactions.run, idle]
      rw [alone]
      exact run_bind_idle idle

/-! ### What the outbox tells of -/

/-- What an event says of a review: its lane, and the decision and the address of the operator. -/
def reviewOf (jobId : String) : OutboxEventType → Payload → Option (String × String × String × String)
  | .auditLog, .reviewAcknowledged laneId decision operatorEmail => some (jobId, laneId, decision, operatorEmail)
  | _, _ => none

theorem silent_of_elsewhere {writer : Writer} (away : elsewhere writer = true) : writer.Silent reviewOf := by
  cases writer with
  | chain env jobId block =>
    intro event inside
    cases block <;>
      simp [Block.events, Blocks.normalizedPayload, Tasks.validatedPayload, Tasks.failurePayload] at inside <;>
      rcases inside with rfl | rfl | rfl <;> rfl
  | event jobId eventType payload =>
    have other : payload.stage ≠ some .reviewAcknowledged := by simpa [elsewhere] using away
    cases payload with
    | reviewAcknowledged laneId decision operatorEmail => exact absurd rfl other
    | _ => cases eventType <;> rfl
  | _ => trivial

/-- The acknowledgement that the post is answered with. -/
def accepted (post : Post) : Option ReviewAck :=
  match post.progress with
  | .answered (.ok ack) => some ack
  | _ => none

/-- What the progress of a post tells of the tables. -/
inductive Known (s : Store) : Post → Prop
  | received {jobId : String} {ack : ReviewAck} (valid : ack.Valid) : Known s ⟨jobId, ack, .received⟩
  | found {ack : ReviewAck} (valid : ack.Valid) (present : s.db.hasJob ack.jobId = true) : Known s ⟨ack.jobId, ack, .found⟩
  | recorded {ack : ReviewAck} : Known s ⟨ack.jobId, ack, .answered (.ok ack)⟩
  | mismatch {jobId : String} {ack : ReviewAck} (differs : ack.jobId ≠ jobId) :
      Known s ⟨jobId, ack, .answered (.error mismatch)⟩
  | notFound {ack : ReviewAck} : Known s ⟨ack.jobId, ack, .answered (.error jobNotFound)⟩
  | second {ack : ReviewAck} (taken : laneOf (reviewRow ack) ∈ s.reviews.map laneOf) :
      Known s ⟨ack.jobId, ack, .answered (.error alreadyReviewed)⟩

/-- The tables grow only. -/
structure Keeps (s s' : Store) : Prop where
  reviews : s.reviews <+: s'.reviews
  jobs : ∀ jobId, s.db.hasJob jobId = true → s'.db.hasJob jobId = true

theorem Keeps.refl (s : Store) : Keeps s s := ⟨List.prefix_rfl, fun _ present => present⟩

theorem keeps_reviewed (ack : ReviewAck) (s : Store) : Keeps s (reviewed ack s) :=
  ⟨List.prefix_append _ _, fun jobId present => by simpa [reviewed] using present⟩

theorem Known.keeps {s s' : Store} {post : Post} (known : Known s post) (keeps : Keeps s s') : Known s' post := by
  cases known with
  | received valid => exact .received valid
  | found valid present => exact .found valid (keeps.jobs _ present)
  | recorded => exact .recorded
  | mismatch differs => exact .mismatch differs
  | notFound => exact .notFound
  | second taken =>
    obtain ⟨row, inside, same⟩ := List.mem_map.mp taken
    exact .second (List.mem_map.mpr ⟨row, keeps.reviews.subset inside, same⟩)

/-- The rows, the events and the answers tell of the same reviews, one for a lane. -/
structure Recorded (s : State) : Prop where
  lanes : (s.store.reviews.map laneOf).Nodup
  valid : ∀ row ∈ s.store.reviews, (ackOf row).Valid
  events : told reviewOf s.store.db = s.store.reviews.map fun row =>
    (row.jobId, row.laneId, row.decision.literal, row.operatorEmail)
  posts : ∀ post ∈ s.posts, Known s.store post
  answers : (s.posts.filterMap accepted).Perm (s.store.reviews.map ackOf)

/-- The answers after a change of a post that was not answered. -/
theorem accepted_set {posts : List Post} {worker : Nat} {before after : Post} (here : posts[worker]? = some before)
    (unanswered : accepted before = none) :
    ((posts.set worker after).filterMap accepted).Perm ((accepted after).toList ++ posts.filterMap accepted) := by
  induction posts generalizing worker with
  | nil => simp at here
  | cons post rest ih =>
    cases worker with
    | zero =>
      obtain rfl : post = before := by simpa using here
      cases answer : accepted after <;> simp [unanswered, answer]
    | succ worker =>
      have there : rest[worker]? = some before := by simpa using here
      have later := ih there
      cases answer : accepted post with
      | none => simpa [answer] using later
      | some ack =>
        simp only [List.set_cons_succ, List.filterMap_cons, answer]
        exact (later.cons ack).trans List.perm_middle.symm

theorem mem_posts_set {posts : List Post} {worker : Nat} {known : Post → Prop} {after : Post}
    (all : ∀ post ∈ posts, known post) (changed : known after) : ∀ post ∈ posts.set worker after, known post := by
  intro post inside
  rcases List.mem_or_eq_of_mem_set inside with old | rfl
  · exact all post old
  · exact changed

/-- A post with a new progress that is no acceptance. -/
theorem Recorded.refuse {s : State} {jobId : String} {ack : ReviewAck} {worker : Nat} {before after : Progress}
    (recorded : Recorded s) (here : s.posts[worker]? = some ⟨jobId, ack, before⟩)
    (unanswered : accepted ⟨jobId, ack, before⟩ = none) (refused : accepted ⟨jobId, ack, after⟩ = none)
    (known : Known s.store ⟨jobId, ack, after⟩) : Recorded { s with posts := s.posts.set worker ⟨jobId, ack, after⟩ } where
  lanes := recorded.lanes
  valid := recorded.valid
  events := recorded.events
  posts := mem_posts_set recorded.posts known
  answers := by
    have same := @accepted_set s.posts worker _ ⟨jobId, ack, after⟩ here unanswered
    rw [refused] at same
    exact same.trans recorded.answers

/-- The post whose review is recorded. -/
theorem Recorded.accept {s : State} {ack : ReviewAck} {worker : Nat} (recorded : Recorded s) (valid : ack.Valid)
    (here : s.posts[worker]? = some ⟨ack.jobId, ack, .found⟩) (new : laneOf (reviewRow ack) ∉ s.store.reviews.map laneOf) :
    Recorded { store := reviewed ack s.store, posts := s.posts.set worker ⟨ack.jobId, ack, .answered (.ok ack)⟩ } where
  lanes := by
    rw [reviewed, List.map_append, List.map_singleton, ← List.concat_eq_append]
    exact recorded.lanes.concat new
  valid := by
    intro row inside
    rcases List.mem_append.mp inside with old | added
    · exact recorded.valid row old
    · rw [List.mem_singleton.mp added]
      exact valid
  events := by
    simp [reviewed, recorded.events, reviewOf, reviewRow]
  posts := mem_posts_set (fun post inside => (recorded.posts post inside).keeps (keeps_reviewed ack s.store)) .recorded
  answers := by
    have same := @accepted_set s.posts worker _ ⟨ack.jobId, ack, .answered (.ok ack)⟩ here rfl
    refine same.trans ?_
    have row : ackOf (reviewRow ack) = ack := rfl
    rw [reviewed, List.map_append, List.map_singleton, row]
    exact (recorded.answers.cons ack).trans (List.perm_append_singleton _ _).symm

/-- The step: whatever happens next, the reviews stay on record. -/
theorem Recorded.step {s next : State} {event : Event} (recorded : Recorded s) (stepped : Reviews.step s event = some next) :
    Recorded next ∧ Keeps s.store next.store := by
  cases event with
  | post jobId ack =>
    simp only [Reviews.step] at stepped
    split_ifs at stepped with valid
    · cases stepped
      refine ⟨{ recorded with posts := ?_, answers := ?_ }, .refl _⟩
      · intro post inside
        rcases List.mem_append.mp inside with old | new
        · exact recorded.posts post old
        · rw [List.mem_singleton.mp new]
          exact .received valid
      · have none : accepted ⟨jobId, ack, .received⟩ = none := rfl
        simpa [none] using recorded.answers
    · cases stepped
      exact ⟨recorded, .refl _⟩
  | check worker =>
    simp only [Reviews.step] at stepped
    split at stepped
    · next jobId ack here =>
      have received := recorded.posts _ (List.mem_of_getElem? here)
      have valid : ack.Valid := by
        cases received with
        | received valid => exact valid
      rcases checkReview_spec jobId ack s.store with ⟨differs, ran⟩ | ⟨rfl, absent, ran⟩ | ⟨rfl, present, idle⟩
      · rw [ran] at stepped
        cases stepped
        exact ⟨recorded.refuse here rfl rfl (.mismatch differs), .refl _⟩
      · rw [ran] at stepped
        cases stepped
        exact ⟨recorded.refuse here rfl rfl .notFound, .refl _⟩
      · rw [Library.Transactions.run, idle] at stepped
        cases stepped
        exact ⟨recorded.refuse here rfl rfl (.found valid present), .refl _⟩
    · cases stepped
  | record worker =>
    simp only [Reviews.step] at stepped
    split at stepped
    · next jobId ack here =>
      have found := recorded.posts _ (List.mem_of_getElem? here)
      cases found with
      | found valid present =>
        rcases recordReview_spec present with ⟨new, ran⟩ | ⟨taken, ran⟩
        · rw [ran] at stepped
          cases stepped
          exact ⟨recorded.accept valid here new, keeps_reviewed ack s.store⟩
        · rw [ran] at stepped
          cases stepped
          exact ⟨recorded.refuse here rfl rfl (.second taken), .refl _⟩
    · cases stepped
  | write writer =>
    simp only [Reviews.step] at stepped
    split_ifs at stepped with away
    cases stepped
    have events := writer.apply_told (silent_of_elsewhere away) s.store.db
    have jobs := writer.apply_hasJob s.store.db
    have keeps : Keeps s.store { s.store with db := writer.apply s.store.db } := ⟨List.prefix_rfl, jobs⟩
    exact ⟨{ recorded with
      events := events.trans recorded.events
      posts := fun post inside => (recorded.posts post inside).keeps keeps }, keeps⟩

/-- The run: from a recorded state every run ends in one, and has only added reviews. -/
theorem Recorded.run {s last : State} {events : List Event} (recorded : Recorded s)
    (reached : Library.Runs.run Reviews.step s events = some last) : Recorded last ∧ s.store.reviews <+: last.store.reviews := by
  induction events generalizing s with
  | nil =>
    cases reached
    exact ⟨recorded, List.prefix_rfl⟩
  | cons event rest ih =>
    simp only [Library.Runs.run] at reached
    split at reached
    · next middle stepped =>
      obtain ⟨still, keeps⟩ := recorded.step stepped
      obtain ⟨ends, later⟩ := ih still reached
      exact ⟨ends, keeps.reviews.trans later⟩
    · cases reached

theorem acksOf_valid {rows : List OnrampIntakeReview} (valid : ∀ row ∈ rows, (ackOf row).Valid) :
    acksOf rows = .ok (rows.map ackOf) := by
  induction rows with
  | nil => rfl
  | cons row rest ih =>
    obtain ⟨here, later⟩ := List.forall_mem_cons.mp valid
    simp [acksOf, checked_of_valid here, ih later, bind, Except.bind, pure, Except.pure]

/-- The reviews of a job that exists are listed, oldest first. -/
theorem listReviews_returns {jobId : String} {s : Store} (present : s.db.hasJob jobId = true)
    (valid : ∀ row ∈ s.reviews, (ackOf row).Valid) :
    ∃ rows : List OnrampIntakeReview, Library.Transactions.run (listReviews jobId) s = (.ok (rows.map ackOf), s) ∧
      rows.Perm (s.reviews.filter (fun row => row.jobId = jobId)) ∧
        rows.Pairwise (fun row row' => notAfter row.acknowledgedAt row'.acknowledgedAt = true) := by
  have perm := oldestFirst_perm OnrampIntakeReview.acknowledgedAt (s.reviews.filter (fun row => row.jobId = jobId))
  have sorted := oldestFirst_sorted OnrampIntakeReview.acknowledgedAt (s.reviews.filter (fun row => row.jobId = jobId))
  generalize listed : oldestFirst OnrampIntakeReview.acknowledgedAt (s.reviews.filter (fun row => row.jobId = jobId)) = rows
    at perm sorted
  have all : acksOf rows = .ok (rows.map ackOf) := acksOf_valid fun row inside =>
    valid row (List.mem_of_mem_filter (perm.mem_iff.mp inside))
  have ran : listReviews jobId ⟨s, none⟩ = (.ok (rows.map ackOf), Session.opened ⟨s, none⟩) := by
    unfold listReviews
    rw [bind_ok (jobExists_present present)]
    have queried : query (fun s : Store => (.ok (oldestFirst OnrampIntakeReview.acknowledgedAt
        (s.reviews.filter (fun row => row.jobId = jobId))) : Except RouteError _)) (Session.opened ⟨s, none⟩) =
          (.ok rows, Session.opened ⟨s, none⟩) := by
      rw [← listed]
      rfl
    rw [bind_ok queried, all]
    rfl
  exact ⟨rows, run_of_opened ran, perm, sorted⟩

theorem listReviews_absent {jobId : String} {s : Store} (absent : s.db.hasJob jobId = false) :
    Library.Transactions.run (listReviews jobId) s = (.error jobNotFound, s) :=
  run_of_opened (bind_error (jobExists_absent absent))

/-- The lane that an acknowledgement is of. -/
def laneOfAck (ack : ReviewAck) : String × String := (ack.jobId, ack.laneId)

/-- What the posts so far have come to. -/
structure FirstWins (s : State) : Prop where
  once : ((s.posts.filterMap accepted).map laneOfAck).Nodup
  stored : (s.posts.filterMap accepted).Perm (s.store.reviews.map ackOf)
  events : told reviewOf s.store.db = s.store.reviews.map fun row =>
    (row.jobId, row.laneId, row.decision.literal, row.operatorEmail)
  refused : ∀ post ∈ s.posts, ∀ error, post.progress = .answered (.error error) →
    post.ack.jobId ≠ post.jobId ∧ error = mismatch ∨ error = jobNotFound ∨
      error = alreadyReviewed ∧ ∃ first ∈ s.posts.filterMap accepted, laneOfAck first = laneOfAck post.ack
  listed : ∀ jobId, s.store.db.hasJob jobId = true → ∃ rows : List OnrampIntakeReview,
    Library.Transactions.run (listReviews jobId) s.store = (.ok (rows.map ackOf), s.store) ∧
      (rows.map ackOf).Perm ((s.posts.filterMap accepted).filter (fun ack => ack.jobId = jobId)) ∧
        rows.Pairwise (fun row row' => notAfter row.acknowledgedAt row'.acknowledgedAt = true)
  notFound : ∀ jobId, s.store.db.hasJob jobId = false →
    Library.Transactions.run (listReviews jobId) s.store = (.error jobNotFound, s.store)

theorem Recorded.firstWins {s : State} (recorded : Recorded s) : FirstWins s where
  once := by
    have lanes : (s.store.reviews.map ackOf).map laneOfAck = s.store.reviews.map laneOf := by
      simp [laneOfAck, ackOf, laneOf, Function.comp_def]
    rw [(recorded.answers.map laneOfAck).nodup_iff, lanes]
    exact recorded.lanes
  stored := recorded.answers
  events := recorded.events
  refused := by
    intro post inside error answered
    cases recorded.posts post inside with
    | received | found | recorded => cases answered
    | mismatch differs =>
      cases answered
      exact .inl ⟨differs, rfl⟩
    | notFound =>
      cases answered
      exact .inr (.inl rfl)
    | second taken =>
      cases answered
      obtain ⟨row, among, same⟩ := List.mem_map.mp taken
      exact .inr (.inr ⟨rfl, ackOf row, recorded.answers.mem_iff.mpr (List.mem_map_of_mem among), same⟩)
  listed := by
    intro jobId present
    obtain ⟨rows, returned, perm, sorted⟩ := listReviews_returns present recorded.valid
    refine ⟨rows, returned, (perm.map ackOf).trans ?_, sorted⟩
    have filtered : (s.store.reviews.map ackOf).filter (fun ack => ack.jobId = jobId) =
        (s.store.reviews.filter (fun row => row.jobId = jobId)).map ackOf := by
      rw [List.filter_map]
      rfl
    rw [← filtered]
    exact (recorded.answers.filter _).symm
  notFound := fun _ absent => listReviews_absent absent

/-- However the posts of reviews, and everything else that writes, come in between each other: the first post of a lane
    to come to its insert is the one whose review is recorded, for good and with one event. -/
theorem first_review_wins (store : Store) (blank : store.reviews = []) (silent : told reviewOf store.db = [])
    (events : List Event) (last : State) (reached : run step ⟨store, []⟩ events = some last) :
    FirstWins last ∧ ∀ front middle, front <+: events → run step ⟨store, []⟩ front = some middle →
      middle.store.reviews <+: last.store.reviews := by
  have start : Recorded ⟨store, []⟩ := ⟨by simp [blank], by simp [blank], by simp [blank, silent], by simp, by simp [blank]⟩
  refine ⟨(start.run reached).1.firstWins, ?_⟩
  rintro front middle ⟨back, rfl⟩ half
  rw [run_append, half] at reached
  exact ((start.run half).1.run reached).2

/-- A review of the lane, from two operators. -/
def sampleAck (operatorEmail : String) (decision : Decision) : ReviewAck where
  jobId := "j1"
  laneId := "L1"
  decision := decision
  operatorEmail := operatorEmail
  notes := ""
  acknowledgedAt := LaneAccounting.sampleNow

/-- Both look for the job before the first of them inserts. -/
def samplePosts : List Event :=
  [.post "j1" (sampleAck "a@acme.test" .accept), .post "j1" (sampleAck "b@acme.test" .reject), .check 0, .check 1, .record 1,
    .record 0]

theorem first_review_wins_two : ∃ last, run step ⟨⟨pendingDb, []⟩, []⟩ samplePosts = some last ∧ FirstWins last ∧
    ∀ front middle, front <+: samplePosts → run step ⟨⟨pendingDb, []⟩, []⟩ front = some middle →
      middle.store.reviews <+: last.store.reviews :=
  ⟨_, rfl, first_review_wins ⟨pendingDb, []⟩ rfl rfl samplePosts _ rfl⟩

end Onramp.Reviews
