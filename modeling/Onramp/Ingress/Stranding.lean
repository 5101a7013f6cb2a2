import Onramp.Ingress.Idempotence

/-!
Jobs that are left behind: a submission that fails between the commit of its job and the
broker leaves a job whose chain nobody will ever send, while its bytes are answered with 409
from then on.
-/
namespace Onramp.Ingress
open Onramp.Python
open Onramp.Database
open Onramp.Tasks
open Onramp.Classifier (Bytes)
open Onramp.Staging
open Onramp.LaneAccounting (sampleEnv sampleNow)
open Onramp.Library.Runs

/-- A submission that fails with a job of its own has sent the chain of the job, or there is
    no job of its bytes. -/
def NoneStranded (digest : Bytes → String) (s : State) : Prop :=
  ∀ (i : Nat) (submission : Submission) (jobId : String) (exc : PyExc),
    s.submissions[i]? = some (submission, .failed (some (jobId, true)) exc) →
      (∃ chain ∈ s.sent, chain.1 = jobId) ∨ ¬ Known s.db (digest submission.payload)

/-- The call on the file system that the submission makes next. -/
def stagingCall (submission : Submission) (fs : FileSystem) : Phase → Option (FileSystem × Raises Unit)
  | .committed _ true => some (makeDirs fs [] stagingRoot.parts)
  | .rooted jobId => some (makeDirs fs [] (jobDir jobId).parts)
  | .housed jobId => some (writeBytes (stagingPath jobId submission.filename) submission.payload fs)
  | _ => none

/-- The job of the submission is committed, and its chain is still to be sent. -/
def Phase.unsent : Phase → Bool
  | .committed _ created => created
  | .rooted _ => true
  | .housed _ => true
  | .staged _ => true
  | _ => false

/-- Nothing goes wrong for a submission between the commit of its job and the broker: the
    directories can be made, the file can be written, the broker takes the chain, and no
    other exception strikes. -/
def Undisturbed (s : State) : Event → Prop
  | .proceed i => ∀ (submission : Submission) (phase : Phase) (call : FileSystem × Raises Unit),
    s.submissions[i]? = some (submission, phase) → stagingCall submission s.fs phase = some call → call.2 = .ok ()
  | .send _ (.refused _) => False
  | .raise i _ => ∀ (submission : Submission) (phase : Phase), s.submissions[i]? = some (submission, phase) →
    phase.unsent = false
  | _ => True

section
variable {env : Env} {digest : Bytes → String} {ground : Db} {s next : State}

theorem nextStatement_of_call {submission : Submission} {db : Db} {fs : FileSystem} {phase : Phase}
    {call : FileSystem × Raises Unit} (calls : stagingCall submission fs phase = some call) :
    ∃ jobId onward, phase.resolution = some (jobId, true) ∧ phase.past = false ∧
      nextStatement digest submission db fs phase = some (afterCall db jobId call onward) := by
  cases phase with
  | committed jobId created =>
    cases created with
    | true =>
      cases calls
      exact ⟨jobId, .rooted jobId, rfl, rfl, rfl⟩
    | false => cases calls
  | rooted jobId =>
    cases calls
    exact ⟨jobId, .housed jobId, rfl, rfl, rfl⟩
  | housed jobId =>
    cases calls
    exact ⟨jobId, .staged jobId, rfl, rfl, rfl⟩
  | _ => cases calls

/-- The statements of a submission with a job of its own fail in the staging calls alone. -/
theorem call_of_failure {submission : Submission} {db db' : Db} {fs fs' : FileSystem} {phase : Phase} {jobId : String}
    {exc : PyExc} (present : ∀ id created, phase.resolution = some (id, created) → db.hasJob id = true)
    (ran : nextStatement digest submission db fs phase = some (db', fs', .failed (some (jobId, true)) exc)) :
    ∃ call, stagingCall submission fs phase = some call ∧ call.2 = .error exc := by
  have called : ∀ {id : String} {call : FileSystem × Raises Unit} {onward : Phase},
      (∀ result cause, onward ≠ .failed result cause) →
      afterCall db id call onward = (db', fs', .failed (some (jobId, true)) exc) → call.2 = .error exc := by
    intro id call onward noFailure after
    rcases afterCall_cases db id call onward with ⟨-, same⟩ | ⟨cause, raised, same⟩
    · rw [same] at after
      exact absurd (congrArg (fun parts => parts.2.2) after) (noFailure _ _)
    · rw [same] at after
      cases after
      exact raised
  cases phase with
  | received =>
    simp only [nextStatement] at ran
    split at ran <;> cases ran
  | conflicted =>
    simp only [nextStatement] at ran
    split at ran <;> cases ran
  | resolved id created =>
    simp only [nextStatement, enqueueOutboxEvent, referring, present id created rfl, if_true] at ran
    split at ran <;> cases ran
  | recorded id created => cases ran
  | committed id created =>
    cases created with
    | true => exact ⟨_, rfl, called (by simp) (Option.some.inj ran)⟩
    | false => cases ran
  | rooted id => exact ⟨_, rfl, called (by simp) (Option.some.inj ran)⟩
  | housed id => exact ⟨_, rfl, called (by simp) (Option.some.inj ran)⟩
  | staged id => cases ran
  | enqueued id =>
    simp only [nextStatement] at ran
    split at ran <;> cases ran
  | answered created response => cases ran
  | failed resolution cause => cases ran

/-- A submission that fails with a job of its own before its chain is sent strands the job. -/
theorem not_noneStranded (before : Consistent digest ground s) (none : NoneStranded digest next) {i : Nat}
    {submission : Submission} {phase : Phase} {jobId : String} {exc : PyExc}
    (touches : Touches s next i submission phase (.failed (some (jobId, true)) exc))
    (resolution : phase.resolution = some (jobId, true)) (notPast : phase.past = false) (keys : jobKeys next.db = jobKeys s.db)
    (sent : next.sent = s.sent) : False := by
  rcases none i submission jobId exc touches.self with ⟨chain, inside, same⟩ | unknown
  · rw [sent] at inside
    obtain ⟨j, other, there, here, resolved, past⟩ := before.senders chain inside
    rw [same] at resolved
    obtain rfl := before.creators i j submission other jobId ⟨phase, touches.here, resolution⟩ ⟨there, here, resolved⟩
    cases touches.here.symm.trans here
    rw [notPast] at past
    cases past
  · have has := before.backed i submission phase jobId true touches.here resolution
    exact unknown ⟨jobId, by rwa [Has, keys]⟩

theorem Phase.unsent_own {phase : Phase} (unsent : phase.unsent = true) :
    ∃ jobId, phase.resolution = some (jobId, true) ∧ phase.past = false := by
  cases phase with
  | committed jobId created =>
    cases created with
    | true => exact ⟨jobId, rfl, rfl⟩
    | false => cases unsent
  | rooted jobId => exact ⟨jobId, rfl, rfl⟩
  | housed jobId => exact ⟨jobId, rfl, rfl⟩
  | staged jobId => exact ⟨jobId, rfl, rfl⟩
  | _ => cases unsent

/-- A submission with a job of its own that an exception can strike has its chain still to be
    sent, or sent. -/
theorem Phase.sent_of_strikable {phase : Phase} {jobId : String} (own : phase.resolution = some (jobId, true))
    (strikes : phase.strikable = true) (notUnsent : phase.unsent = false) : phase.sent = true := by
  cases phase with
  | received => cases own
  | conflicted => cases own
  | resolved id created =>
    cases own
    cases strikes
  | recorded id created =>
    cases own
    cases strikes
  | committed id created =>
    cases own
    cases notUnsent
  | rooted id => cases notUnsent
  | housed id => cases notUnsent
  | staged id => cases notUnsent
  | enqueued id => rfl
  | answered created response => cases strikes
  | failed resolution exc => cases strikes

theorem undisturbed_of_step {event : Event} (before : Consistent digest ground s)
    (stepped : step env digest s event = some next) (none : NoneStranded digest next) : Undisturbed s event := by
  cases happens_of_step stepped with
  | @proceeds i submission phase db fs after here ran =>
    intro submission' phase' call here' calls
    cases here.symm.trans here'
    obtain ⟨jobId, onward, resolution, notPast, called⟩ := @nextStatement_of_call digest submission s.db s.fs phase call calls
    have same : afterCall s.db jobId call onward = (db, fs, after) := Option.some.inj (called.symm.trans ran)
    rcases afterCall_cases s.db jobId call onward with ⟨ok, -⟩ | ⟨exc, -, failed⟩
    · exact ok
    · cases failed.symm.trans same
      exact (not_noneStranded before none ⟨here, rfl⟩ resolution notPast rfl rfl).elim
  | refused here => exact (not_noneStranded before none ⟨here, rfl⟩ rfl rfl rfl rfl).elim
  | @raises i submission phase exc here strikes =>
    intro submission' phase' here'
    cases here.symm.trans here'
    by_contra unsent
    obtain ⟨jobId, resolution, notPast⟩ := Phase.unsent_own (Bool.not_eq_false _ ▸ unsent)
    have touches : Touches s { s with submissions := s.submissions.set i (submission, .failed phase.resolution exc) } i
        submission phase (.failed (some (jobId, true)) exc) := ⟨here, by rw [resolution]⟩
    exact not_noneStranded before none touches resolution notPast rfl rfl
  | _ => trivial

theorem noneStranded_of_step {event : Event} (before : Consistent digest ground s)
    (stepped : step env digest s event = some next) (none : NoneStranded digest s) (fine : Undisturbed s event) :
    NoneStranded digest next := by
  have change := change_of_step before.keys before.backed before.awaited stepped
  -- a failure of before this step, and a failure in this step, which comes with its chain
  have more : ∀ jobId, (∃ chain ∈ s.sent, chain.1 = jobId) → ∃ chain ∈ next.sent, chain.1 = jobId := by
    rintro jobId ⟨chain, inside, same⟩
    rcases change.sent with kept | ⟨_, _, _, _, _, _, _, _, sent⟩
    · exact ⟨chain, kept ▸ inside, same⟩
    · exact ⟨chain, by rw [sent]; exact List.mem_append.mpr (Or.inl inside), same⟩
  have touched : ∀ {i : Nat} {submission : Submission} {phase after : Phase}, Touches s next i submission phase after →
      (∀ jobId exc, after = .failed (some (jobId, true)) exc → ∃ chain ∈ next.sent, chain.1 = jobId) →
      NoneStranded digest next := by
    intro i submission phase after touches own j other jobId exc found
    rcases touches.at found with ⟨rfl, rfl, same⟩ | ⟨-, was⟩
    · exact Or.inl (own jobId exc same.symm)
    · refine (none j other jobId exc was).imp (more jobId) ?_
      intro unknown
      exact absurd ⟨jobId, before.backed j other _ jobId true was rfl⟩ unknown
  have untouched : next.submissions = s.submissions → NoneStranded digest next := by
    intro same j other jobId exc found
    rw [same] at found
    refine (none j other jobId exc found).imp (more jobId) ?_
    intro unknown
    exact absurd ⟨jobId, before.backed j other _ jobId true found rfl⟩ unknown
  cases happens_of_step stepped with
  | submits valid =>
    intro j other jobId exc found
    rw [List.getElem?_append] at found
    split at found
    · refine (none j other jobId exc found).imp id ?_
      intro unknown
      exact absurd ⟨jobId, before.backed j other _ jobId true found rfl⟩ unknown
    · rw [List.getElem?_singleton] at found
      split at found <;> cases found
  | @proceeds i submission phase db fs after here ran =>
    refine touched ⟨here, rfl⟩ ?_
    rintro jobId exc rfl
    have present : ∀ id created, phase.resolution = some (id, created) → s.db.hasJob id = true := by
      intro id created resolution
      exact (hasJob_iff s.db id).mpr (List.mem_map_of_mem (before.backed i submission phase id created here resolution))
    obtain ⟨call, calls, raised⟩ := call_of_failure present ran
    have ok := fine submission phase call here calls
    rw [raised] at ok
    cases ok
  | accepted here => exact touched ⟨here, rfl⟩ (by simp)
  | refused here => exact fine.elim
  | @acceptedThenRaised i submission jobId exc here =>
    refine touched ⟨here, rfl⟩ ?_
    intro other cause same
    cases same
    exact ⟨(jobId, _), List.mem_append.mpr (Or.inr List.mem_cons_self), rfl⟩
  | @raises i submission phase exc here strikes =>
    refine touched ⟨here, rfl⟩ ?_
    intro jobId cause same
    have resolution : phase.resolution = some (jobId, true) := (Phase.failed.inj same).1
    have sent := Phase.sent_of_strikable resolution strikes (fine submission phase here)
    exact before.delivered i submission phase jobId here sent resolution
  | works present => exact untouched rfl
  | files => exact untouched rfl

/-- The job of this failed submission is in the table, and its chain is not sent. -/
def Stranded (s : State) (i : Nat) (submission : Submission) (jobId : String) : Prop :=
  (∃ exc, s.submissions[i]? = some (submission, .failed (some (jobId, true)) exc)) ∧ ∀ chain ∈ s.sent, chain.1 ≠ jobId

theorem stranded_of_step {event : Event} (before : Consistent digest ground s)
    (stepped : step env digest s event = some next) {i : Nat} {submission : Submission} {jobId : String}
    (stranded : Stranded s i submission jobId) : Stranded next i submission jobId := by
  obtain ⟨⟨exc, here⟩, unsent⟩ := stranded
  have ended : ∀ {j : Nat} {other : Submission} {phase after : Phase}, Touches s next j other phase after → j ≠ i →
      ∃ exc, next.submissions[i]? = some (submission, .failed (some (jobId, true)) exc) :=
    fun touches different => ⟨exc, (touches.others (Ne.symm different)).trans here⟩
  have change := change_of_step before.keys before.backed before.awaited stepped
  refine ⟨?_, ?_⟩
  · cases happens_of_step stepped with
    | submits valid =>
      have bound := (List.getElem?_eq_some_iff.mp here).1
      exact ⟨exc, by rw [List.getElem?_append_left bound]; exact here⟩
    | proceeds there ran =>
      refine ended ⟨there, rfl⟩ ?_
      rintro rfl
      cases here.symm.trans there
      cases ran
    | accepted there | refused there | acceptedThenRaised there =>
      refine ended ⟨there, rfl⟩ ?_
      rintro rfl
      cases here.symm.trans there
    | raises there strikes =>
      refine ended ⟨there, rfl⟩ ?_
      rintro rfl
      cases here.symm.trans there
      cases strikes
    | works present => exact ⟨exc, here⟩
    | files => exact ⟨exc, here⟩
  · intro chain inside same
    rcases change.sent with kept | ⟨j, other, id, path, after, touches, -, -, sent⟩
    · exact unsent chain (kept ▸ inside) same
    · rw [sent] at inside
      rcases List.mem_append.mp inside with was | new
      · exact unsent chain was same
      · rw [List.mem_singleton.mp new] at same
        obtain rfl : id = jobId := same
        -- only the creator sends the chain of the job, and it has failed
        obtain rfl := before.creators j i other submission id ⟨_, touches.here, rfl⟩ ⟨_, here, rfl⟩
        cases here.symm.trans touches.here

/-- A stranded job stays stranded, whatever is submitted later. -/
theorem stranded_forever {events : List Event} {last : State} (before : Consistent digest ground s)
    (reached : run (step env digest) s events = some last) {i : Nat} {submission : Submission} {jobId : String}
    (stranded : Stranded s i submission jobId) : Stranded last i submission jobId := by
  refine ((invariant_of_run (fun s => Consistent digest ground s ∧ Stranded s i submission jobId) (fun _ _ => True) ?_
    events s ⟨before, stranded⟩ (fun _ _ _ _ => trivial)).1 last reached).2
  rintro s event next ⟨consistent, strands⟩ _ stepped
  exact ⟨consistent_of_step consistent stepped, stranded_of_step consistent stepped strands⟩

end

/-- In every state of a run each submission that fails with a job of its own has sent the
    chain of the job if and only if nothing goes wrong for a submission between the commit of
    its job and the broker. -/
theorem none_stranded_iff (env : Env) (digest : Bytes → String) (ground : Ground) (events : List Event) :
    (∀ before event after, Takes (step env digest) ground.state events before event after → NoneStranded digest after) ↔
      ∀ before event after, Takes (step env digest) ground.state events before event after → Undisturbed before event := by
  refine along_iff_of_run (Consistent digest ground.db) (NoneStranded digest) Undisturbed ?_ ?_ events ground.state
    (consistent_start digest ground) ?_
  · exact fun s event next before stepped => consistent_of_step before stepped
  · exact fun s event next before none stepped =>
      ⟨undisturbed_of_step before stepped, noneStranded_of_step before stepped none⟩
  · intro i submission jobId exc found
    cases found

/-- One submission whose filename has a directory of its own, up to the write of its file. -/
def nestedFilename : List Event :=
  [.submit ⟨.ratesheet ⟨"acme", "Acme Lines", .auto, "U042", "C042"⟩, [80, 75, 3, 4], some "rates/2024.xlsx", "j1",
      sampleNow⟩,
    .proceed 0, .proceed 0, .proceed 0, .proceed 0, .proceed 0]

/-- The directory in the filename does not exist, and the job is left behind. -/
theorem nested_filename_strands_job :
    ¬ ∀ (env : Env) (digest : Bytes → String) (ground : Ground) (events : List Event) (last : State),
      run (step env digest) ground.state events = some last → NoneStranded digest last := by
  intro always
  have outcome : (run (step sampleEnv (fun _ => "5a4c")) emptyGround.state nestedFilename).map
      (fun last => (last.submissions[0]?.map Prod.snd, last.sent, jobKeys last.db)) =
      some (some (.failed (some ("j1", true)) (osError "FileNotFoundError" ["tmp", "onramp", "j1", "rates"])), [],
        [("j1", "j1", "5a4c")]) := by rfl
  obtain ⟨last, reached, parts⟩ := Option.map_eq_some_iff.mp outcome
  obtain ⟨⟨submission, here⟩, sent, keys⟩ : _ ∧ last.sent = [] ∧ jobKeys last.db = [("j1", "j1", "5a4c")] := by
    simpa using parts
  rcases always sampleEnv (fun _ => "5a4c") emptyGround nestedFilename last reached 0 submission "j1" _ here with
    ⟨chain, inside, -⟩ | unknown
  · rw [sent] at inside
    cases inside
  · exact unknown ⟨"j1", by rw [Has, keys]; exact List.mem_cons_self⟩

end Onramp.Ingress
