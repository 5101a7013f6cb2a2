import Onramp.Ingress.Steps

/-!
Ingress is idempotent: however the statements of submissions over both routes interleave,
equal bytes are one job, created once, sent at most once, and named in every other answer.
-/
namespace Onramp.Ingress
open Onramp.Database
open Onramp.Tasks
open Onramp.Classifier (Bytes)
open Onramp.Staging
open Onramp.LaneAccounting (sampleEnv sampleNow)
open Onramp.Library.Runs

section
variable {env : Env} {digest : Bytes → String}

/-- On its own, the submission at `i` comes to be answered with 409 and this id. -/
def ComesToConflict (env : Env) (digest : Bytes → String) (s : State) (i : Nat) (submission : Submission) (jobId : String) :
    Prop :=
  ∃ n last, run (step env digest) s (List.replicate n (.proceed i)) = some last ∧
    last.submissions[i]? = some (submission, .answered false (.conflict jobId))

theorem comesToConflict_step {s : State} {i : Nat} {submission : Submission} {phase after : Phase} {jobId : String} {db : Db}
    (here : s.submissions[i]? = some (submission, phase))
    (ran : nextStatement digest submission s.db s.fs phase = some (db, s.fs, after))
    (onward : ∀ next : State, next.db = db → next.submissions[i]? = some (submission, after) →
      ComesToConflict env digest next i submission jobId) : ComesToConflict env digest s i submission jobId := by
  have bound := (List.getElem?_eq_some_iff.mp here).1
  have stepped : step env digest s (.proceed i) =
      some { s with db, submissions := s.submissions.set i (submission, after) } := by
    simp [step, here, ran]
  obtain ⟨n, last, reached, answered⟩ := onward { s with db, submissions := s.submissions.set i (submission, after) } rfl
    (by simp [bound])
  exact ⟨n + 1, last, by rw [List.replicate_succ, run, stepped]; exact reached, answered⟩

variable {s : State} {i : Nat} {submission : Submission} {jobId : String}

theorem committed_comesToConflict (keys : Keys s.db) (has : Has s.db jobId (digest submission.payload))
    (here : s.submissions[i]? = some (submission, .committed jobId false)) :
    ComesToConflict env digest s i submission jobId := by
  refine comesToConflict_step here (by rw [nextStatement, namedJob_of_has keys has]) ?_
  intro next _ answered
  exact ⟨0, next, rfl, answered⟩

theorem recorded_comesToConflict (keys : Keys s.db) (has : Has s.db jobId (digest submission.payload))
    (here : s.submissions[i]? = some (submission, .recorded jobId false)) :
    ComesToConflict env digest s i submission jobId := by
  refine comesToConflict_step here rfl ?_
  intro next same committed
  exact committed_comesToConflict (same ▸ keys) (same ▸ has) committed

theorem resolved_comesToConflict (keys : Keys s.db) (has : Has s.db jobId (digest submission.payload))
    (here : s.submissions[i]? = some (submission, .resolved jobId false)) :
    ComesToConflict env digest s i submission jobId := by
  cases route : submission.request with
  | ratesheet request =>
    refine comesToConflict_step here (by simp only [nextStatement, route]; rfl) ?_
    intro next same committed
    exact committed_comesToConflict (same ▸ keys) (same ▸ has) committed
  | intake request =>
    have present : s.db.hasJob jobId = true := (hasJob_iff s.db jobId).mpr (List.mem_map_of_mem has)
    refine comesToConflict_step here
      (by simp only [nextStatement, route, enqueueOutboxEvent, referring, present, if_true]; rfl) ?_
    intro next same recorded
    have unchanged : jobKeys next.db = jobKeys s.db := by rw [same, jobKeys_pushOutbox]
    refine recorded_comesToConflict ⟨unchanged ▸ keys.ids, unchanged ▸ keys.hashes, unchanged ▸ keys.named⟩ ?_ recorded
    rw [Has, unchanged]
    exact has

theorem conflicted_comesToConflict (keys : Keys s.db) (has : Has s.db jobId (digest submission.payload))
    (here : s.submissions[i]? = some (submission, .conflicted)) : ComesToConflict env digest s i submission jobId := by
  refine comesToConflict_step here (by simp only [nextStatement, selectJobId_of_has keys has]; rfl) ?_
  intro next same resolved
  exact resolved_comesToConflict (same ▸ keys) (same ▸ has) resolved

theorem received_comesToConflict (keys : Keys s.db) (has : Has s.db jobId (digest submission.payload))
    (here : s.submissions[i]? = some (submission, .received)) : ComesToConflict env digest s i submission jobId := by
  have taken : insertJob (submission.job digest) s.db = .ok (s.db, none) := by
    rcases insertJob_cases keys (submission.job digest) with ⟨-, found⟩ | ⟨unknown, -⟩ | ⟨unknown, -⟩
    · exact found
    · exact absurd ⟨jobId, by simpa using has⟩ unknown
    · exact absurd ⟨jobId, by simpa using has⟩ unknown
  refine comesToConflict_step here (by simp only [nextStatement, taken]; rfl) ?_
  intro next same conflicted
  exact conflicted_comesToConflict (same ▸ keys) (same ▸ has) conflicted

end

/-- A table of jobs that submissions find, with its constraints, and a file system. -/
structure Ground where
  db : Db
  fs : FileSystem
  keys : Keys db

/-- The state before the first submission. -/
def Ground.state (ground : Ground) : State := ⟨ground.db, ground.fs, [], []⟩

theorem consistent_start (digest : Bytes → String) (ground : Ground) : Consistent digest ground.db ground.state where
  keys := ground.keys
  backed i submission phase jobId created found := by cases found
  awaited i submission found := by cases found
  fitting i submission phase found := by cases found
  creators i j submission other jobId := by
    rintro ⟨phase, found, -⟩
    cases found
  grounded jobId inputHash known := known
  origin jobId inputHash has := Or.inl has
  foreign i submission jobId := by
    rintro ⟨phase, found, -⟩
    cases found
  senders chain inside := by cases inside
  once := List.nodup_nil
  delivered i submission phase jobId found := by cases found

/-- The submission is still on its way to an answer, without a job of its own. -/
def Phase.pending : Phase → Bool
  | .received => true
  | .conflicted => true
  | .resolved _ created => !created
  | .recorded _ created => !created
  | .committed _ created => !created
  | _ => false

instance (db : Db) (jobId inputHash : String) : Decidable (Has db jobId inputHash) :=
  inferInstanceAs (Decidable (_ ∈ _))

/-- The same bytes are one job, whichever routes they come over. -/
structure Idempotent (env : Env) (digest : Bytes → String) (ground : Db) (s : State) : Prop where
  /-- equal bytes resolve to one job -/
  agree : ∀ i j submission other jobId jobId' created created', Resolves s i submission jobId created →
    Resolves s j other jobId' created' → submission.payload = other.payload → jobId = jobId'
  /-- different hashes never share a job -/
  apart : ∀ i j submission other jobId jobId' created created', Resolves s i submission jobId created →
    Resolves s j other jobId' created' → digest submission.payload ≠ digest other.payload → jobId ≠ jobId'
  /-- exactly one of the submissions of new bytes has created the job -/
  one_creator : ∀ i submission jobId created, Resolves s i submission jobId created →
    ¬ Known ground (digest submission.payload) →
      ∃! j, ∃ other, Resolves s j other jobId true ∧ digest other.payload = digest submission.payload
  /-- and none of those of bytes that had a job before -/
  no_creator : ∀ i submission jobId, Known ground (digest submission.payload) → ¬ Resolves s i submission jobId true
  /-- the bytes are sent once at most -/
  sent_once : ∀ inputHash, (s.sent.filter (fun chain => Has s.db chain.1 inputHash)).length ≤ 1
  /-- the creator is answered with 202, every other submission with 409 that names the job -/
  answers : ∀ (i : Nat) (submission : Submission) (created : Bool) (response : Response),
    s.submissions[i]? = some (submission, .answered created response) →
      Has s.db response.jobId (digest submission.payload) ∧
        response = if created then .accepted response.jobId else .conflict response.jobId
  /-- and nothing keeps the others from their answer, once there is a job -/
  answerable : ∀ (i : Nat) (submission : Submission) (phase : Phase) (jobId : String),
    s.submissions[i]? = some (submission, phase) → phase.pending = true → Has s.db jobId (digest submission.payload) →
      ComesToConflict env digest s i submission jobId

section
variable {env : Env} {digest : Bytes → String} {ground : Db} {s : State}

theorem has_of_resolves (consistent : Consistent digest ground s) {i : Nat} {submission : Submission} {jobId : String}
    {created : Bool} (resolves : Resolves s i submission jobId created) : Has s.db jobId (digest submission.payload) := by
  obtain ⟨phase, here, resolution⟩ := resolves
  exact consistent.backed i submission phase jobId created here resolution

theorem sent_once_of_consistent (consistent : Consistent digest ground s) (inputHash : String) :
    (s.sent.filter (fun chain => Has s.db chain.1 inputHash)).length ≤ 1 := by
  have distinct : ((s.sent.filter (fun chain => Has s.db chain.1 inputHash)).map Prod.fst).Nodup :=
    consistent.once.sublist (List.filter_sublist.map Prod.fst)
  have has : ∀ chain ∈ s.sent.filter (fun chain => Has s.db chain.1 inputHash), Has s.db chain.1 inputHash := by
    intro chain inside
    simpa using (List.mem_filter.mp inside).2
  generalize s.sent.filter (fun chain => Has s.db chain.1 inputHash) = chains at distinct has
  match chains with
  | [] => simp
  | [_] => simp
  | first :: second :: rest =>
    have same := hash_unique consistent.keys (has first (by simp)) (has second (by simp))
    simp [same] at distinct

theorem answerable_of_consistent (consistent : Consistent digest ground s) {i : Nat} {submission : Submission}
    {phase : Phase} {jobId : String} (here : s.submissions[i]? = some (submission, phase))
    (pending : phase.pending = true) (has : Has s.db jobId (digest submission.payload)) :
    ComesToConflict env digest s i submission jobId := by
  have named : ∀ {id : String}, phase.resolution = some (id, false) → id = jobId :=
    fun resolution => hash_unique consistent.keys (consistent.backed i submission phase _ false here resolution) has
  cases phase with
  | received => exact received_comesToConflict consistent.keys has here
  | conflicted => exact conflicted_comesToConflict consistent.keys has here
  | resolved id created =>
    cases created with
    | true => cases pending
    | false =>
      obtain rfl := named rfl
      exact resolved_comesToConflict consistent.keys has here
  | recorded id created =>
    cases created with
    | true => cases pending
    | false =>
      obtain rfl := named rfl
      exact recorded_comesToConflict consistent.keys has here
  | committed id created =>
    cases created with
    | true => cases pending
    | false =>
      obtain rfl := named rfl
      exact committed_comesToConflict consistent.keys has here
  | rooted id => cases pending
  | housed id => cases pending
  | staged id => cases pending
  | enqueued id => cases pending
  | answered created response => cases pending
  | failed resolution exc => cases pending

theorem idempotent_of_consistent (consistent : Consistent digest ground s) : Idempotent env digest ground s where
  agree i j submission other jobId jobId' created created' one two same := by
    have first := has_of_resolves consistent one
    rw [same] at first
    exact hash_unique consistent.keys first (has_of_resolves consistent two)
  apart i j submission other jobId jobId' created created' one two different same := by
    have first := has_of_resolves consistent one
    rw [same] at first
    exact different (id_unique consistent.keys first (has_of_resolves consistent two))
  one_creator i submission jobId created resolves unknown := by
    have has := has_of_resolves consistent resolves
    rcases consistent.origin jobId _ has with known | ⟨j, other, creates, hashed⟩
    · exact absurd ⟨jobId, known⟩ unknown
    · refine ⟨j, ⟨other, creates, hashed⟩, ?_⟩
      rintro k ⟨third, creates', -⟩
      exact consistent.creators k j third other jobId creates' creates
  no_creator i submission jobId := by
    rintro ⟨first, known⟩ creates
    have has := has_of_resolves consistent creates
    obtain rfl := hash_unique consistent.keys (consistent.grounded first _ known) has
    exact consistent.foreign i submission first creates _ known
  sent_once := sent_once_of_consistent consistent
  answers i submission created response here := by
    refine ⟨consistent.backed i submission _ response.jobId created here rfl, ?_⟩
    have fitting := consistent.fitting i submission _ here
    cases created <;> cases response <;> first | rfl | exact fitting.elim
  answerable i submission phase jobId here pending has := answerable_of_consistent consistent here pending has

end

/-- In every state that any number of submissions over both routes reach, in whatever order
    their statements run, equal bytes are one job. -/
theorem ingress_idempotent (env : Env) (digest : Bytes → String) (ground : Ground) (events : List Event) (last : State)
    (reached : run (step env digest) ground.state events = some last) : Idempotent env digest ground.db last := by
  refine idempotent_of_consistent ((invariant_of_run (Consistent digest ground.db) (fun _ _ => True) ?_ events ground.state
    (consistent_start digest ground) (fun _ _ _ _ => trivial)).1 last reached)
  exact fun s event next before _ stepped => consistent_of_step before stepped

/-- Two submissions of the same bytes over both routes, whose inserts run before either
    commits. -/
def overlapping : List Event :=
  [.submit ⟨.ratesheet ⟨"acme", "Acme Lines", .auto, "U042", "C042"⟩, [80, 75, 3, 4], some "rates.xlsx", "j1", sampleNow⟩,
    .submit ⟨.intake ⟨"acme", "Acme Lines", "ops@acme.test", "C042", .normal⟩, [80, 75, 3, 4], some "rates.xlsx", "j2",
      sampleNow⟩,
    .proceed 0, .proceed 1, .proceed 1, .proceed 0, .proceed 0, .proceed 1, .proceed 0, .proceed 0, .proceed 1,
    .send 0 .accepted, .proceed 1, .proceed 0]

/-- No jobs and no files. -/
def emptyGround : Ground where
  db := (Intake.initial ⟨[], []⟩).db
  fs := ⟨[], [], fun _ => none⟩
  keys := ⟨List.nodup_nil, List.nodup_nil, fun row inside => by cases inside⟩

theorem overlapping_reached :
    ∃ last, run (step sampleEnv (fun _ => "5a4c")) emptyGround.state overlapping = some last ∧
      last.submissions.map Prod.snd = [.answered true (.accepted "j1"), .answered false (.conflict "j1")] := by
  have answers : (run (step sampleEnv (fun _ => "5a4c")) emptyGround.state overlapping).map
      (fun last => last.submissions.map Prod.snd) =
      some [.answered true (.accepted "j1"), .answered false (.conflict "j1")] := by rfl
  exact Option.map_eq_some_iff.mp answers

theorem ingress_idempotent_overlapping :
    ∃ last, run (step sampleEnv (fun _ => "5a4c")) emptyGround.state overlapping = some last ∧
      last.submissions.map Prod.snd = [.answered true (.accepted "j1"), .answered false (.conflict "j1")] ∧
      Idempotent sampleEnv (fun _ => "5a4c") emptyGround.db last := by
  obtain ⟨last, reached, answers⟩ := overlapping_reached
  exact ⟨last, reached, answers, ingress_idempotent sampleEnv (fun _ => "5a4c") emptyGround overlapping last reached⟩

end Onramp.Ingress
