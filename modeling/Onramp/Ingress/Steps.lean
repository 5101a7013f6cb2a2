import Onramp.Ingress

/-!
What one step of the routes changes, and what therefore holds in every state that submissions
reach: where resolutions come from, that a new job has one creator, and that each creator
sends at most one chain.
-/
namespace Onramp.Ingress
open Onramp.Python
open Onramp.Database
open Onramp.Tasks
open Onramp.Classifier (Bytes)
open Onramp.Staging
open Onramp.Intake (maxUploadBytes)

/-- The events with their guards and effects. -/
inductive Happens (env : Env) (digest : Bytes → String) (s : State) : Event → State → Prop
  | submits {submission} (valid : submission.request.Valid ∧ submission.payload.length ≤ maxUploadBytes) :
    Happens env digest s (.submit submission) { s with submissions := s.submissions ++ [(submission, .received)] }
  | proceeds {i submission phase db fs after} (here : s.submissions[i]? = some (submission, phase))
    (ran : nextStatement digest submission s.db s.fs phase = some (db, fs, after)) :
    Happens env digest s (.proceed i) { s with db, fs, submissions := s.submissions.set i (submission, after) }
  | accepted {i submission jobId} (here : s.submissions[i]? = some (submission, .staged jobId)) :
    Happens env digest s (.send i .accepted)
      { s with
        sent := s.sent ++ [(jobId, (stagingPath jobId submission.filename).str)]
        submissions := s.submissions.set i (submission, .enqueued jobId) }
  | refused {i submission jobId exc} (here : s.submissions[i]? = some (submission, .staged jobId)) :
    Happens env digest s (.send i (.refused exc))
      { s with submissions := s.submissions.set i (submission, .failed (some (jobId, true)) exc) }
  | acceptedThenRaised {i submission jobId exc} (here : s.submissions[i]? = some (submission, .staged jobId)) :
    Happens env digest s (.send i (.acceptedThenRaised exc))
      { s with
        sent := s.sent ++ [(jobId, (stagingPath jobId submission.filename).str)]
        submissions := s.submissions.set i (submission, .failed (some (jobId, true)) exc) }
  | raises {i submission phase exc} (here : s.submissions[i]? = some (submission, phase)) (strikes : phase.strikable = true) :
    Happens env digest s (.raise i exc)
      { s with submissions := s.submissions.set i (submission, .failed phase.resolution exc) }
  | works {jobId block} (present : s.db.hasJob jobId = true) :
    Happens env digest s (.worker jobId block) { s with db := block.apply env jobId s.db }
  | files {fs} : Happens env digest s (.files fs) { s with fs }

theorem happens_of_step {env : Env} {digest : Bytes → String} {s next : State} {event : Event}
    (stepped : step env digest s event = some next) : Happens env digest s event next := by
  cases event with
  | submit submission =>
    simp only [step] at stepped
    split at stepped
    · next valid =>
      cases stepped
      exact .submits valid
    · cases stepped
  | proceed i =>
    simp only [step] at stepped
    split at stepped
    · cases stepped
    next submission phase here =>
    obtain ⟨⟨db, fs, after⟩, ran, rfl⟩ := Option.map_eq_some_iff.mp stepped
    exact .proceeds here ran
  | send i delivery =>
    simp only [step] at stepped
    split at stepped
    · next submission jobId here =>
      cases delivery with
      | accepted =>
        cases stepped
        exact .accepted here
      | refused exc =>
        cases stepped
        exact .refused here
      | acceptedThenRaised exc =>
        cases stepped
        exact .acceptedThenRaised here
    · cases stepped
  | raise i exc =>
    simp only [step] at stepped
    split at stepped
    · cases stepped
    next submission phase here =>
    split at stepped
    · next strikes =>
      cases stepped
      exact .raises here strikes
    · cases stepped
  | worker jobId block =>
    simp only [step] at stepped
    split at stepped
    · next present =>
      cases stepped
      exact .works present
    · cases stepped
  | files fs =>
    cases stepped
    exact .files

/-- The chain of the submission is sent, or never will be. -/
def Phase.past : Phase → Bool
  | .enqueued _ => true
  | .answered .. => true
  | .failed .. => true
  | _ => false

/-- The chain of the submission is sent. -/
def Phase.sent : Phase → Bool
  | .enqueued _ => true
  | .answered created _ => created
  | _ => false

/-- The response is 202 for the job of the submission itself, and 409 for that of another. -/
def Phase.Fitting : Phase → Prop
  | .answered true (.conflict _) => False
  | .answered false (.accepted _) => False
  | _ => True

/-- The submission at `i` comes from one phase to another, and the others stay. -/
structure Touches (s next : State) (i : Nat) (submission : Submission) (phase after : Phase) : Prop where
  here : s.submissions[i]? = some (submission, phase)
  there : next.submissions = s.submissions.set i (submission, after)

/-- What one step does to the jobs, the submissions and the chains. -/
inductive Change (digest : Bytes → String) (s next : State) : Prop
  | quiet (same : next.submissions = s.submissions) (keys : jobKeys next.db = jobKeys s.db) (sent : next.sent = s.sent)
  | arrives (submission : Submission) (added : next.submissions = s.submissions ++ [(submission, .received)])
      (keys : jobKeys next.db = jobKeys s.db) (sent : next.sent = s.sent)
  | creates (i : Nat) (submission : Submission)
      (touches : Touches s next i submission .received (.resolved submission.jobId true))
      (unknown : ¬ Known s.db (digest submission.payload)) (fresh : s.db.hasJob submission.jobId = false)
      (keys : jobKeys next.db = jobKeys s.db ++ [(submission.jobId, submission.jobId, digest submission.payload)])
      (sent : next.sent = s.sent)
  | conflicts (i : Nat) (submission : Submission) (touches : Touches s next i submission .received .conflicted)
      (known : Known s.db (digest submission.payload)) (keys : jobKeys next.db = jobKeys s.db) (sent : next.sent = s.sent)
  | finds (i : Nat) (submission : Submission) (jobId : String)
      (touches : Touches s next i submission .conflicted (.resolved jobId false))
      (has : Has s.db jobId (digest submission.payload)) (keys : jobKeys next.db = jobKeys s.db) (sent : next.sent = s.sent)
  | continues (i : Nat) (submission : Submission) (phase after : Phase) (touches : Touches s next i submission phase after)
      (resolution : after.resolution = phase.resolution) (unconflicted : after ≠ .conflicted)
      (past : phase.past = true → after.past = true) (unsent : after.sent = true → phase.sent = true)
      (fitting : after.Fitting) (keys : jobKeys next.db = jobKeys s.db) (sent : next.sent = s.sent)
  | sends (i : Nat) (submission : Submission) (jobId path : String) (after : Phase)
      (touches : Touches s next i submission (.staged jobId) after) (resolution : after.resolution = some (jobId, true))
      (unconflicted : after ≠ .conflicted) (past : after.past = true) (fitting : after.Fitting)
      (keys : jobKeys next.db = jobKeys s.db) (sent : next.sent = s.sent ++ [(jobId, path)])

theorem afterCall_cases (db : Db) (jobId : String) (call : FileSystem × Raises Unit) (next : Phase) :
    (call.2 = .ok () ∧ afterCall db jobId call next = (db, call.1, next)) ∨
      ∃ exc, call.2 = .error exc ∧ afterCall db jobId call next = (db, call.1, .failed (some (jobId, true)) exc) := by
  unfold afterCall
  split
  · next ok => exact Or.inl ⟨ok, rfl⟩
  · next exc raised => exact Or.inr ⟨exc, raised, rfl⟩

/-- A staging call goes on or fails, and the resolution stays. -/
theorem change_of_call {digest : Bytes → String} {s : State} {i : Nat} {submission : Submission} {phase next : Phase}
    {jobId : String} {call : FileSystem × Raises Unit} {parts : Db × FileSystem × Phase}
    (here : s.submissions[i]? = some (submission, phase)) (called : afterCall s.db jobId call next = parts)
    (resolution : phase.resolution = some (jobId, true)) (before : phase.past = false)
    (resolution' : next.resolution = some (jobId, true)) (unconflicted : next ≠ .conflicted) (unsent : next.sent = false)
    (fitting : next.Fitting) :
    Change digest s { s with db := parts.1, fs := parts.2.1, submissions := s.submissions.set i (submission, parts.2.2) } := by
  rcases afterCall_cases s.db jobId call next with ⟨-, same⟩ | ⟨exc, -, same⟩
  · rw [same] at called
    subst called
    exact .continues i submission phase next ⟨here, rfl⟩ (resolution'.trans resolution.symm) unconflicted
      (by simp [before]) (by simp [unsent]) fitting rfl rfl
  · rw [same] at called
    subst called
    exact .continues i submission phase (.failed (some (jobId, true)) exc) ⟨here, rfl⟩ resolution.symm (by simp)
      (by simp [Phase.past]) (by simp [Phase.sent]) trivial rfl rfl

@[simp] theorem job_jobId (digest : Bytes → String) (submission : Submission) :
    (submission.job digest).jobId = submission.jobId := by
  unfold Submission.job
  split <;> rfl

@[simp] theorem job_inputHash (digest : Bytes → String) (submission : Submission) :
    (submission.job digest).inputHash = digest submission.payload := by
  unfold Submission.job
  split <;> rfl

/-- Every resolution is a row of the table, with the hash of the submission. -/
def Backed (digest : Bytes → String) (s : State) : Prop :=
  ∀ (i : Nat) (submission : Submission) (phase : Phase) (jobId : String) (created : Bool),
    s.submissions[i]? = some (submission, phase) → phase.resolution = some (jobId, created) → Has s.db jobId (digest submission.payload)

/-- Every submission that found its bytes taken finds their job. -/
def Awaited (digest : Bytes → String) (s : State) : Prop :=
  ∀ (i : Nat) (submission : Submission), s.submissions[i]? = some (submission, .conflicted) → Known s.db (digest submission.payload)

theorem change_of_proceed {digest : Bytes → String} {s : State} {i : Nat} {submission : Submission} {phase : Phase}
    {parts : Db × FileSystem × Phase} (keys : Keys s.db) (backed : Backed digest s) (awaited : Awaited digest s)
    (here : s.submissions[i]? = some (submission, phase))
    (ran : nextStatement digest submission s.db s.fs phase = some parts) :
    Change digest s { s with db := parts.1, fs := parts.2.1, submissions := s.submissions.set i (submission, parts.2.2) } := by
  cases phase with
  | received =>
    simp only [nextStatement] at ran
    rcases insertJob_cases keys (submission.job digest) with
      ⟨known, found⟩ | ⟨-, exc, raised⟩ | ⟨unknown, fresh, db', inserted, added⟩
    · rw [found] at ran
      cases ran
      exact .conflicts i submission ⟨here, rfl⟩ (by simpa using known) rfl rfl
    · rw [raised] at ran
      cases ran
      exact .continues i submission .received (.failed none exc) ⟨here, rfl⟩ rfl (by simp) (by simp [Phase.past])
        (by simp [Phase.sent]) trivial rfl rfl
    · rw [inserted] at ran
      simp only [job_jobId] at ran
      cases ran
      exact .creates i submission ⟨here, rfl⟩ (by simpa using unknown) (by simpa using fresh) (by simpa using added) rfl
  | conflicted =>
    obtain ⟨jobId, has⟩ := awaited i submission here
    simp only [nextStatement, selectJobId_of_has keys has] at ran
    cases ran
    exact .finds i submission jobId ⟨here, rfl⟩ has rfl rfl
  | resolved jobId created =>
    have has := backed i submission _ jobId created here rfl
    have present : s.db.hasJob jobId = true := (hasJob_iff s.db jobId).mpr (List.mem_map_of_mem has)
    simp only [nextStatement] at ran
    split at ran
    · cases ran
      exact .continues i submission _ (.committed jobId created) ⟨here, rfl⟩ rfl (by simp) (by simp [Phase.past])
        (by simp [Phase.sent]) trivial rfl rfl
    · simp only [enqueueOutboxEvent, referring, present, if_true] at ran
      cases ran
      exact .continues i submission _ (.recorded jobId created) ⟨here, rfl⟩ rfl (by simp) (by simp [Phase.past])
        (by simp [Phase.sent]) trivial rfl rfl
  | recorded jobId created =>
    cases ran
    exact .continues i submission _ (.committed jobId created) ⟨here, rfl⟩ rfl (by simp) (by simp [Phase.past])
      (by simp [Phase.sent]) trivial rfl rfl
  | committed jobId created =>
    cases created with
    | true =>
      exact change_of_call here (Option.some.inj ran) rfl rfl rfl (by simp) rfl trivial
    | false =>
      have has := backed i submission _ jobId false here rfl
      simp only [nextStatement, namedJob_of_has keys has] at ran
      cases ran
      exact .continues i submission _ (.answered false (.conflict jobId)) ⟨here, rfl⟩ rfl (by simp) (by simp [Phase.past])
        (by simp [Phase.sent]) trivial rfl rfl
  | rooted jobId => exact change_of_call here (Option.some.inj ran) rfl rfl rfl (by simp) rfl trivial
  | housed jobId => exact change_of_call here (Option.some.inj ran) rfl rfl rfl (by simp) rfl trivial
  | enqueued jobId =>
    have has := backed i submission _ jobId true here rfl
    simp only [nextStatement, namedJob_of_has keys has] at ran
    split at ran <;>
    · cases ran
      exact .continues i submission _ (.answered true (.accepted jobId)) ⟨here, rfl⟩ rfl (by simp) (by simp [Phase.past])
        (by simp [Phase.sent]) trivial rfl rfl
  | staged jobId => cases ran
  | answered created response => cases ran
  | failed resolution exc => cases ran

theorem change_of_step {env : Env} {digest : Bytes → String} {s next : State} {event : Event} (keys : Keys s.db)
    (backed : Backed digest s) (awaited : Awaited digest s) (stepped : step env digest s event = some next) :
    Change digest s next := by
  cases happens_of_step stepped with
  | submits valid => exact .arrives _ rfl rfl rfl
  | proceeds here ran => exact change_of_proceed keys backed awaited here ran
  | @accepted i submission jobId here =>
    exact .sends i submission jobId _ (.enqueued jobId) ⟨here, rfl⟩ rfl (by simp) rfl trivial rfl rfl
  | @refused i submission jobId exc here =>
    exact .continues i submission (.staged jobId) (.failed (some (jobId, true)) exc) ⟨here, rfl⟩ rfl (by simp)
      (by simp [Phase.past]) (by simp [Phase.sent]) trivial rfl rfl
  | @acceptedThenRaised i submission jobId exc here =>
    exact .sends i submission jobId _ (.failed (some (jobId, true)) exc) ⟨here, rfl⟩ rfl (by simp) rfl trivial rfl rfl
  | @raises i submission phase exc here strikes =>
    exact .continues i submission phase (.failed phase.resolution exc) ⟨here, rfl⟩ rfl (by simp) (by simp [Phase.past])
      (by simp [Phase.sent]) trivial rfl rfl
  | works present => exact .quiet rfl (jobKeys_apply env _ _ s.db) rfl
  | files => exact .quiet rfl rfl rfl

/-! ### What every step keeps -/

section
variable {digest : Bytes → String} {s next : State} {i j : Nat} {submission other : Submission}
  {phase after seen : Phase} {jobId inputHash : String} {created : Bool}

theorem Touches.at (touches : Touches s next i submission phase after)
    (found : next.submissions[j]? = some (other, seen)) :
    (j = i ∧ other = submission ∧ seen = after) ∨ (j ≠ i ∧ s.submissions[j]? = some (other, seen)) := by
  rw [touches.there, List.getElem?_set] at found
  by_cases same : i = j
  · subst same
    have bound := (List.getElem?_eq_some_iff.mp touches.here).1
    simp only [if_true, bound, Option.some.injEq, Prod.mk.injEq] at found
    exact Or.inl ⟨rfl, found.1.symm, found.2.symm⟩
  · rw [if_neg same] at found
    exact Or.inr ⟨Ne.symm same, found⟩

theorem Touches.self (touches : Touches s next i submission phase after) :
    next.submissions[i]? = some (submission, after) := by
  have bound := (List.getElem?_eq_some_iff.mp touches.here).1
  simp [touches.there, bound]

theorem Touches.others (touches : Touches s next i submission phase after) (different : j ≠ i) :
    next.submissions[j]? = s.submissions[j]? := by
  rw [touches.there, List.getElem?_set, if_neg (Ne.symm different)]

/-- A submission keeps its place, what it resolved to, and that it is past its chain. -/
theorem Touches.keeps (touches : Touches s next i submission phase after)
    (resolution : ∀ result, phase.resolution = some result → after.resolution = some result)
    (past : phase.past = true → after.past = true) (was : s.submissions[j]? = some (other, seen)) :
    ∃ now, next.submissions[j]? = some (other, now) ∧
      (∀ result, seen.resolution = some result → now.resolution = some result) ∧ (seen.past = true → now.past = true) := by
  by_cases same : j = i
  · subst same
    cases touches.here.symm.trans was
    exact ⟨after, touches.self, resolution, past⟩
  · exact ⟨seen, (touches.others same).trans was, fun _ => id, id⟩

theorem Change.kept (change : Change digest s next) (was : s.submissions[j]? = some (other, seen)) :
    ∃ now, next.submissions[j]? = some (other, now) ∧
      (∀ result, seen.resolution = some result → now.resolution = some result) ∧ (seen.past = true → now.past = true) := by
  cases change with
  | quiet same keys sent => exact ⟨seen, by rw [same, was], fun _ => id, id⟩
  | arrives submission added keys sent =>
    have bound := (List.getElem?_eq_some_iff.mp was).1
    exact ⟨seen, by rw [added, List.getElem?_append_left bound, was], fun _ => id, id⟩
  | creates i submission touches unknown fresh keys sent =>
    exact touches.keeps (by simp [Phase.resolution]) (by simp [Phase.past]) was
  | conflicts i submission touches known keys sent =>
    exact touches.keeps (by simp [Phase.resolution]) (by simp [Phase.past]) was
  | finds i submission jobId touches has keys sent =>
    exact touches.keeps (by simp [Phase.resolution]) (by simp [Phase.past]) was
  | continues i submission phase after touches resolution unconflicted past unsent fitting keys sent =>
    exact touches.keeps (by simp [resolution]) past was
  | sends i submission jobId path after touches resolution unconflicted past fitting keys sent =>
    exact touches.keeps (fun result same => resolution.trans same) (fun _ => past) was

theorem Change.has (change : Change digest s next) (has : Has s.db jobId inputHash) : Has next.db jobId inputHash := by
  cases change with
  | creates i submission touches unknown fresh keys sent =>
    rw [Has, keys]
    exact List.mem_append.mpr (Or.inl has)
  | quiet same keys sent => rwa [Has, keys]
  | arrives submission added keys sent => rwa [Has, keys]
  | conflicts i submission touches known keys sent => rwa [Has, keys]
  | finds i submission jobId touches has' keys sent => rwa [Has, keys]
  | continues i submission phase after touches resolution unconflicted past unsent fitting keys sent => rwa [Has, keys]
  | sends i submission jobId path after touches resolution unconflicted past fitting keys sent => rwa [Has, keys]

/-- What a submission has resolved to, it had resolved to before, or it is the id of the row
    that it has just inserted, or of the row that it has just found. -/
theorem Change.resolution (change : Change digest s next) (found : next.submissions[j]? = some (other, seen))
    (resolves : seen.resolution = some (jobId, created)) :
    (∃ before, s.submissions[j]? = some (other, before) ∧ before.resolution = some (jobId, created)) ∨
      (created = true ∧ s.db.hasJob jobId = false ∧ Has next.db jobId (digest other.payload) ∧
        ∀ k, k ≠ j → next.submissions[k]? = s.submissions[k]?) ∨
      (created = false ∧ Has next.db jobId (digest other.payload)) := by
  cases change with
  | quiet same keys sent => exact Or.inl ⟨seen, by rw [← same, found], resolves⟩
  | arrives submission added keys sent =>
    rw [added, List.getElem?_append] at found
    split at found
    · exact Or.inl ⟨seen, found, resolves⟩
    · obtain ⟨-, -, same⟩ : _ ∧ submission = other ∧ Phase.received = seen := by
        rw [List.getElem?_singleton] at found
        split at found
        · next zero => exact ⟨zero, Prod.mk.inj (Option.some.inj found)⟩
        · cases found
      subst same
      cases resolves
  | creates i submission touches unknown fresh keys sent =>
    rcases touches.at found with ⟨rfl, rfl, rfl⟩ | ⟨-, was⟩
    · cases resolves
      exact Or.inr (Or.inl ⟨rfl, fresh, by simp [Has, keys], fun k different => touches.others different⟩)
    · exact Or.inl ⟨seen, was, resolves⟩
  | conflicts i submission touches known keys sent =>
    rcases touches.at found with ⟨rfl, rfl, rfl⟩ | ⟨-, was⟩
    · cases resolves
    · exact Or.inl ⟨seen, was, resolves⟩
  | finds i submission jobId touches has keys sent =>
    rcases touches.at found with ⟨rfl, rfl, rfl⟩ | ⟨-, was⟩
    · cases resolves
      exact Or.inr (Or.inr ⟨rfl, by rwa [Has, keys]⟩)
    · exact Or.inl ⟨seen, was, resolves⟩
  | continues i submission phase after touches resolution unconflicted past unsent fitting keys sent =>
    rcases touches.at found with ⟨rfl, rfl, rfl⟩ | ⟨-, was⟩
    · exact Or.inl ⟨phase, touches.here, resolution.symm.trans resolves⟩
    · exact Or.inl ⟨seen, was, resolves⟩
  | sends i submission jobId path after touches resolution unconflicted past fitting keys sent =>
    rcases touches.at found with ⟨rfl, rfl, rfl⟩ | ⟨-, was⟩
    · exact Or.inl ⟨_, touches.here, resolution.symm.trans resolves⟩
    · exact Or.inl ⟨seen, was, resolves⟩

end

/-- The submission at `i` holds this id, of its own job or of another's. -/
def Resolves (s : State) (i : Nat) (submission : Submission) (jobId : String) (created : Bool) : Prop :=
  ∃ phase, s.submissions[i]? = some (submission, phase) ∧ phase.resolution = some (jobId, created)

/-- What holds in every state that submissions reach from a table of jobs: the constraints of
    the table, where its rows and the resolutions come from, one creator of each new job, and
    one chain at most of each creator. -/
structure Consistent (digest : Bytes → String) (ground : Db) (s : State) : Prop where
  keys : Keys s.db
  backed : Backed digest s
  awaited : Awaited digest s
  fitting : ∀ (i : Nat) (submission : Submission) (phase : Phase), s.submissions[i]? = some (submission, phase) → phase.Fitting
  creators : ∀ i j submission other jobId, Resolves s i submission jobId true → Resolves s j other jobId true → i = j
  grounded : ∀ jobId inputHash, Has ground jobId inputHash → Has s.db jobId inputHash
  origin : ∀ jobId inputHash, Has s.db jobId inputHash →
    Has ground jobId inputHash ∨ ∃ i submission, Resolves s i submission jobId true ∧ digest submission.payload = inputHash
  foreign : ∀ i submission jobId, Resolves s i submission jobId true → ∀ inputHash, ¬ Has ground jobId inputHash
  senders : ∀ chain ∈ s.sent, ∃ (i : Nat) (submission : Submission) (phase : Phase),
    s.submissions[i]? = some (submission, phase) ∧ phase.resolution = some (chain.1, true) ∧ phase.past = true
  once : (s.sent.map Prod.fst).Nodup
  delivered : ∀ (i : Nat) (submission : Submission) (phase : Phase) (jobId : String),
    s.submissions[i]? = some (submission, phase) → phase.sent = true → phase.resolution = some (jobId, true) → ∃ chain ∈ s.sent, chain.1 = jobId

section
variable {env : Env} {digest : Bytes → String} {ground : Db} {s next : State}

theorem Resolves.of_change (change : Change digest s next) {i : Nat} {submission : Submission} {jobId : String}
    {created : Bool} (resolves : Resolves s i submission jobId created) : Resolves next i submission jobId created := by
  obtain ⟨phase, here, resolution⟩ := resolves
  obtain ⟨now, there, kept, -⟩ := change.kept here
  exact ⟨now, there, kept _ resolution⟩

theorem backed_of_change (before : Consistent digest ground s) (change : Change digest s next) : Backed digest next := by
  intro i submission phase jobId created found resolution
  rcases change.resolution found resolution with ⟨was, here, resolved⟩ | ⟨-, -, has, -⟩ | ⟨-, has⟩
  · exact change.has (before.backed i submission was jobId created here resolved)
  · exact has
  · exact has

theorem keys_of_change (before : Consistent digest ground s) (change : Change digest s next) : Keys next.db := by
  have same : jobKeys next.db = jobKeys s.db → Keys next.db :=
    fun keys => ⟨keys ▸ before.keys.ids, keys ▸ before.keys.hashes, keys ▸ before.keys.named⟩
  cases change with
  | creates i submission touches unknown fresh keys sent =>
    have newId : submission.jobId ∉ (jobKeys s.db).map (fun row => row.1) := by
      intro inside
      have present := (hasJob_iff s.db submission.jobId).mpr inside
      rw [fresh] at present
      cases present
    have newHash : digest submission.payload ∉ (jobKeys s.db).map (fun row => row.2.2) := by
      intro inside
      obtain ⟨⟨key, jobId, inputHash⟩, row, rfl⟩ := List.mem_map.mp inside
      have named : jobId = key := before.keys.named _ row
      subst named
      exact unknown ⟨jobId, row⟩
    refine ⟨?_, ?_, ?_⟩
    · rw [keys, List.map_append, List.map_singleton, ← List.concat_eq_append]
      exact before.keys.ids.concat newId
    · rw [keys, List.map_append, List.map_singleton, ← List.concat_eq_append]
      exact before.keys.hashes.concat newHash
    · intro row inside
      rw [keys] at inside
      rcases List.mem_append.mp inside with old | new
      · exact before.keys.named row old
      · rw [List.mem_singleton.mp new]
  | quiet same' keys sent => exact same keys
  | arrives submission added keys sent => exact same keys
  | conflicts i submission touches known keys sent => exact same keys
  | finds i submission jobId touches has keys sent => exact same keys
  | continues i submission phase after touches resolution unconflicted past unsent fitting keys sent => exact same keys
  | sends i submission jobId path after touches resolution unconflicted past fitting keys sent => exact same keys

/-- A submission is where it was, has just arrived, or has come to its phase in this step. -/
theorem Change.at (change : Change digest s next) {j : Nat} {other : Submission} {seen : Phase}
    (found : next.submissions[j]? = some (other, seen)) :
    s.submissions[j]? = some (other, seen) ∨ seen = .received ∨
      ∃ phase, Touches s next j other phase seen ∧ seen.Fitting ∧
        (seen = .conflicted → Known s.db (digest other.payload)) ∧
        ∀ jobId, seen.sent = true → seen.resolution = some (jobId, true) →
          (phase.sent = true ∧ phase.resolution = some (jobId, true)) ∨ ∃ chain ∈ next.sent, chain.1 = jobId := by
  cases change with
  | quiet same keys sent => exact Or.inl (by rw [← same, found])
  | arrives submission added keys sent =>
    rw [added, List.getElem?_append] at found
    split at found
    · exact Or.inl found
    · rw [List.getElem?_singleton] at found
      split at found
      · cases found
        exact Or.inr (Or.inl rfl)
      · cases found
  | creates i submission touches unknown fresh keys sent =>
    rcases touches.at found with ⟨rfl, rfl, rfl⟩ | ⟨-, was⟩
    · exact Or.inr (Or.inr ⟨_, touches, trivial, by simp, fun _ isSent => by cases isSent⟩)
    · exact Or.inl was
  | conflicts i submission touches known keys sent =>
    rcases touches.at found with ⟨rfl, rfl, rfl⟩ | ⟨-, was⟩
    · exact Or.inr (Or.inr ⟨_, touches, trivial, fun _ => known, fun _ isSent => by cases isSent⟩)
    · exact Or.inl was
  | finds i submission jobId touches has keys sent =>
    rcases touches.at found with ⟨rfl, rfl, rfl⟩ | ⟨-, was⟩
    · exact Or.inr (Or.inr ⟨_, touches, trivial, by simp, fun _ isSent => by cases isSent⟩)
    · exact Or.inl was
  | continues i submission phase after touches resolution unconflicted past unsent fitting keys sent =>
    rcases touches.at found with ⟨rfl, rfl, rfl⟩ | ⟨-, was⟩
    · exact Or.inr (Or.inr ⟨phase, touches, fitting, fun same => absurd same unconflicted,
        fun jobId isSent resolves => Or.inl ⟨unsent isSent, resolution.symm.trans resolves⟩⟩)
    · exact Or.inl was
  | sends i submission jobId path after touches resolution unconflicted past fitting keys sent =>
    rcases touches.at found with ⟨rfl, rfl, rfl⟩ | ⟨-, was⟩
    · refine Or.inr (Or.inr ⟨_, touches, fitting, fun same => absurd same unconflicted, ?_⟩)
      intro id _ resolves
      cases resolution.symm.trans resolves
      exact Or.inr ⟨(jobId, path), by rw [sent]; simp, rfl⟩
    · exact Or.inl was

theorem awaited_of_change (before : Consistent digest ground s) (change : Change digest s next) : Awaited digest next := by
  have known : ∀ inputHash, Known s.db inputHash → Known next.db inputHash :=
    fun inputHash known => known.imp (fun jobId has => change.has has)
  intro j other found
  rcases change.at found with was | received | ⟨phase, -, -, taken, -⟩
  · exact known _ (before.awaited j other was)
  · cases received
  · exact known _ (taken rfl)

theorem fitting_of_change (before : Consistent digest ground s) (change : Change digest s next) :
    ∀ (i : Nat) (submission : Submission) (phase : Phase), next.submissions[i]? = some (submission, phase) →
      phase.Fitting := by
  intro j other seen found
  rcases change.at found with was | rfl | ⟨phase, -, fitting, -, -⟩
  · exact before.fitting j other seen was
  · trivial
  · exact fitting

theorem creators_of_change (before : Consistent digest ground s) (change : Change digest s next) :
    ∀ i j submission other jobId, Resolves next i submission jobId true → Resolves next j other jobId true → i = j := by
  have fresh : ∀ {k : Nat} {creator : Submission} {jobId : String}, s.db.hasJob jobId = false →
      ¬ Resolves s k creator jobId true := by
    rintro k creator jobId absent ⟨phase, here, resolution⟩
    have has := before.backed k creator phase jobId true here resolution
    have present := (hasJob_iff s.db jobId).mpr (List.mem_map_of_mem has)
    rw [absent] at present
    cases present
  rintro i j submission other jobId ⟨one, found, resolution⟩ ⟨two, found', resolution'⟩
  rcases change.resolution found resolution with was | ⟨-, absent, -, others⟩ | ⟨impossible, -⟩
  · rcases change.resolution found' resolution' with was' | ⟨-, absent', -, -⟩ | ⟨impossible, -⟩
    · exact before.creators i j submission other jobId was was'
    · exact (fresh absent' was).elim
    · cases impossible
  · rcases change.resolution found' resolution' with was' | ⟨-, -, -, others'⟩ | ⟨impossible, -⟩
    · exact (fresh absent was').elim
    · by_contra different
      rw [others j (Ne.symm different)] at found'
      exact fresh absent ⟨two, found', resolution'⟩
    · cases impossible
  · cases impossible

theorem origin_of_change (before : Consistent digest ground s) (change : Change digest s next) :
    ∀ jobId inputHash, Has next.db jobId inputHash →
      Has ground jobId inputHash ∨
        ∃ i submission, Resolves next i submission jobId true ∧ digest submission.payload = inputHash := by
  have old : ∀ jobId inputHash, Has s.db jobId inputHash → Has ground jobId inputHash ∨
      ∃ i submission, Resolves next i submission jobId true ∧ digest submission.payload = inputHash := by
    intro jobId inputHash has
    refine (before.origin jobId inputHash has).imp_right ?_
    rintro ⟨i, submission, resolves, hashed⟩
    exact ⟨i, submission, resolves.of_change change, hashed⟩
  intro jobId inputHash has
  cases change with
  | creates i submission touches unknown fresh keys sent =>
    rw [Has, keys] at has
    rcases List.mem_append.mp has with was | new
    · exact old jobId inputHash was
    · cases List.mem_singleton.mp new
      exact Or.inr ⟨i, submission, ⟨_, touches.self, rfl⟩, rfl⟩
  | quiet same keys sent => exact old jobId inputHash (by rwa [Has, keys] at has)
  | arrives submission added keys sent => exact old jobId inputHash (by rwa [Has, keys] at has)
  | conflicts i submission touches taken keys sent => exact old jobId inputHash (by rwa [Has, keys] at has)
  | finds i submission other touches found keys sent => exact old jobId inputHash (by rwa [Has, keys] at has)
  | continues i submission phase after touches resolution unconflicted past unsent fitting keys sent =>
    exact old jobId inputHash (by rwa [Has, keys] at has)
  | sends i submission other path after touches resolution unconflicted past fitting keys sent =>
    exact old jobId inputHash (by rwa [Has, keys] at has)

theorem foreign_of_change (before : Consistent digest ground s) (change : Change digest s next) :
    ∀ i submission jobId, Resolves next i submission jobId true → ∀ inputHash, ¬ Has ground jobId inputHash := by
  rintro i submission jobId ⟨phase, found, resolution⟩ inputHash known
  rcases change.resolution found resolution with was | ⟨-, absent, -, -⟩ | ⟨impossible, -⟩
  · exact before.foreign i submission jobId was inputHash known
  · have present := (hasJob_iff s.db jobId).mpr (List.mem_map_of_mem (before.grounded jobId inputHash known))
    rw [absent] at present
    cases present
  · cases impossible

/-- A step sends no chain, or one of a submission that had not sent any. -/
theorem Change.sent (change : Change digest s next) :
    next.sent = s.sent ∨ ∃ i submission jobId path after, Touches s next i submission (.staged jobId) after ∧
      after.resolution = some (jobId, true) ∧ after.past = true ∧ next.sent = s.sent ++ [(jobId, path)] := by
  cases change with
  | sends i submission jobId path after touches resolution unconflicted past fitting keys sent =>
    exact Or.inr ⟨i, submission, jobId, path, after, touches, resolution, past, sent⟩
  | quiet same keys sent => exact Or.inl sent
  | arrives submission added keys sent => exact Or.inl sent
  | creates i submission touches unknown fresh keys sent => exact Or.inl sent
  | conflicts i submission touches taken keys sent => exact Or.inl sent
  | finds i submission jobId touches has keys sent => exact Or.inl sent
  | continues i submission phase after touches resolution unconflicted past unsent fitting keys sent => exact Or.inl sent

theorem senders_of_change (before : Consistent digest ground s) (change : Change digest s next) :
    ∀ chain ∈ next.sent, ∃ (i : Nat) (submission : Submission) (phase : Phase),
      next.submissions[i]? = some (submission, phase) ∧ phase.resolution = some (chain.1, true) ∧ phase.past = true := by
  have old : ∀ chain ∈ s.sent, ∃ (i : Nat) (submission : Submission) (phase : Phase),
      next.submissions[i]? = some (submission, phase) ∧ phase.resolution = some (chain.1, true) ∧ phase.past = true := by
    intro chain inside
    obtain ⟨i, submission, phase, here, resolution, past⟩ := before.senders chain inside
    obtain ⟨now, there, kept, still⟩ := change.kept here
    exact ⟨i, submission, now, there, kept _ resolution, still past⟩
  intro chain inside
  rcases change.sent with same | ⟨i, submission, jobId, path, after, touches, resolution, past, sent⟩
  · exact old chain (same ▸ inside)
  · rw [sent] at inside
    rcases List.mem_append.mp inside with was | new
    · exact old chain was
    · rw [List.mem_singleton.mp new]
      exact ⟨i, submission, after, touches.self, resolution, past⟩

theorem once_of_change (before : Consistent digest ground s) (change : Change digest s next) :
    (next.sent.map Prod.fst).Nodup := by
  rcases change.sent with same | ⟨i, submission, jobId, path, after, touches, -, -, sent⟩
  · rw [same]
    exact before.once
  · have unsent : jobId ∉ s.sent.map Prod.fst := by
      intro inside
      obtain ⟨chain, among, same⟩ := List.mem_map.mp inside
      obtain ⟨j, other, phase, there, resolution, past⟩ := before.senders chain among
      rw [same] at resolution
      -- the sender of the job is its one creator, which has not sent its chain
      obtain rfl := before.creators i j submission other jobId ⟨_, touches.here, rfl⟩ ⟨phase, there, resolution⟩
      cases touches.here.symm.trans there
      cases past
    rw [sent, List.map_append, List.map_singleton, ← List.concat_eq_append]
    exact before.once.concat unsent

theorem delivered_of_change (before : Consistent digest ground s) (change : Change digest s next) :
    ∀ (i : Nat) (submission : Submission) (phase : Phase) (jobId : String),
      next.submissions[i]? = some (submission, phase) → phase.sent = true → phase.resolution = some (jobId, true) →
        ∃ chain ∈ next.sent, chain.1 = jobId := by
  have more : ∀ jobId, (∃ chain ∈ s.sent, chain.1 = jobId) → ∃ chain ∈ next.sent, chain.1 = jobId := by
    rintro jobId ⟨chain, inside, same⟩
    rcases change.sent with kept | ⟨_, _, _, _, _, _, _, _, sent⟩
    · exact ⟨chain, kept ▸ inside, same⟩
    · exact ⟨chain, by rw [sent]; exact List.mem_append.mpr (Or.inl inside), same⟩
  intro j other seen jobId found isSent resolves
  rcases change.at found with was | rfl | ⟨phase, touches, -, -, chains⟩
  · exact more jobId (before.delivered j other seen jobId was isSent resolves)
  · cases isSent
  · rcases chains jobId isSent resolves with ⟨wasSent, resolved⟩ | now
    · exact more jobId (before.delivered j other phase jobId touches.here wasSent resolved)
    · exact now

theorem consistent_of_step {event : Event} (before : Consistent digest ground s)
    (stepped : step env digest s event = some next) : Consistent digest ground next := by
  have change := change_of_step before.keys before.backed before.awaited stepped
  exact {
    keys := keys_of_change before change
    backed := backed_of_change before change
    awaited := awaited_of_change before change
    fitting := fitting_of_change before change
    creators := creators_of_change before change
    grounded := fun jobId inputHash known => change.has (before.grounded jobId inputHash known)
    origin := origin_of_change before change
    foreign := foreign_of_change before change
    senders := senders_of_change before change
    once := once_of_change before change
    delivered := delivered_of_change before change }

end

end Onramp.Ingress
