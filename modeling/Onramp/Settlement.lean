import Onramp.Journey
import Onramp.LaneAccounting

/-!
Where a job stands when the run of its chain stops, while the transactions succeed: it
is settled exactly when every exception was raised to a task that handles it. Stage 1
handles none, Stage 2 and Stage 3 handle their own errors, Stage 4 handles all.
-/
namespace Onramp.Settlement
open Onramp.Python
open Onramp.Values
open Onramp.Models
open Onramp.Vertex
open Onramp.Database
open Onramp.Stage4
open Onramp.Tasks
open Onramp.TaskSpecs
open Onramp.Journey
open Onramp.Library.Atomic
open Onramp.Classifier (xlsxHeader xlsxOpcMarker)
open Onramp.LaneAccounting (sampleEnv sampleServices sampleJob)

/-- The job is `completed` or `failed`. -/
def Settled (jobId : String) (db : Db) : Prop :=
  db.status jobId = some .completed ∨ db.status jobId = some .failed

/-- What the outcome raises is handled, and what follows its value holds. -/
def Caught {α : Type} (handles : PyExc → Bool) (next : α → Prop) : Raises α → Prop
  | .ok value => next value
  | .error exc => handles exc = true

/-- No task of the chain raises what it does not handle: nothing in `classify`, nothing but
    the errors of their stages in `extract` and `normalize`, nothing but an `Exception` in
    `validate`. -/
def Handled (env : Env) (jobId : String) (db : Db) (job : OnrampJob) : Prop :=
  classifyOutcome env |> Caught (fun _ => false) fun format => Supported format.detectedFormat →
    (extractPayload env jobId format.detectedFormat job.prospectId |> Caught extractHandles fun payload =>
      (normalizeOutcome env (replay env jobId [.extracted payload, .classified format] db) payload |>
        Caught normalizeHandles fun parts =>
          (validateOutcome env jobId
            (replay env jobId [.normalized parts.1 parts.2, .extracted payload, .classified format] db) |>
            Caught PyExc.isException fun _ => True)))

variable {env : Env} {jobId : String} {db : Db} {job : OnrampJob}

theorem caught_of_fails {α : Type} {handles : PyExc → Bool} {next : α → Prop} {outcome : Raises α} {exc : PyExc}
    (failed : Fails (fun _ => False) handles outcome exc) : Caught handles next outcome := by
  obtain ⟨fault | raised, handled⟩ := failed
  · exact fault.elim
  · rw [raised]
    exact handled

theorem not_caught_of_escapes {α : Type} {handles : PyExc → Bool} {next : α → Prop} {outcome : Raises α}
    (stopped : Escapes (fun _ => False) handles outcome) : ¬ Caught handles next outcome := by
  obtain ⟨exc, fault | ⟨raised, unhandled⟩⟩ := stopped
  · exact fault.elim
  · rw [raised]
    simp [Caught, unhandled]

theorem handled_of_classified {format : ClassifiedFormat} (passed : Passed env jobId db job [.classified format]) :
    Handled env jobId db job ↔ Caught extractHandles (fun payload =>
      Caught normalizeHandles (fun parts =>
        Caught PyExc.isException (fun _ => True)
          (validateOutcome env jobId
            (replay env jobId [.normalized parts.1 parts.2, .extracted payload, .classified format] db)))
        (normalizeOutcome env (replay env jobId [.extracted payload, .classified format] db) payload))
      (extractPayload env jobId format.detectedFormat job.prospectId) := by
  cases passed with
  | classified outcome supported => simp [Handled, outcome, Caught, supported]

theorem handled_of_extracted {payload : NormalizedRatesheet} {rest : List Block}
    (passed : Passed env jobId db job (.extracted payload :: rest)) :
    Handled env jobId db job ↔ Caught normalizeHandles (fun parts =>
        Caught PyExc.isException (fun _ => True)
          (validateOutcome env jobId
            (replay env jobId (.normalized parts.1 parts.2 :: .extracted payload :: rest) db)))
        (normalizeOutcome env (replay env jobId (.extracted payload :: rest) db) payload) := by
  cases passed with
  | extracted before outcome =>
    rw [handled_of_classified before, outcome]
    rfl

theorem handled_of_normalized {updated : NormalizedRatesheet} {results : List ConsensusResult} {rest : List Block}
    (passed : Passed env jobId db job (.normalized updated results :: rest)) :
    Handled env jobId db job ↔ Caught PyExc.isException (fun _ => True)
      (validateOutcome env jobId (replay env jobId (.normalized updated results :: rest) db)) := by
  cases passed with
  | normalized before outcome =>
    rw [handled_of_extracted before, outcome]
    rfl

theorem settled_replay (fresh : Fresh jobId db) (block : Block) (rest : List Block) :
    Settled jobId (replay env jobId (block :: rest) db) ↔ block.target = .completed ∨ block.target = .failed := by
  have status : (replay env jobId (block :: rest) db).status jobId = some block.target :=
    Block.apply_status env block ((replay_hasJob env rest jobId).trans fresh.hasJob)
  simp [Settled, status]

/-- A run of the chain of a fresh job, with all its transactions succeeding, leaves the job
    completed or failed if and only if no task raised what it does not handle. -/
theorem chain_settles_iff (env : Env) (jobId : String) (db : Db) (job : OnrampJob) (fresh : Fresh jobId db)
    (found : db.getJob jobId = some job) :
    Settled jobId (chain env jobId ⟨⟨db, []⟩, []⟩).2.trace.committed ↔ Handled env jobId db job := by
  have ended : Ends env jobId db (fun _ => False) job (chain env jobId ⟨⟨db, []⟩, []⟩).2.trace := by
    refine chain_trace_ends env fresh found ?_
    intro exc fault
    cases fault
  obtain ⟨done, ending, trace⟩ := ended
  rw [trace, traceOf_committed]
  cases ending with
  | pending stopped =>
    have unsettled : ¬ Settled jobId (replay env jobId [] db) := by simp [Settled, replay, fresh.pending]
    exact iff_of_false unsettled (not_caught_of_escapes stopped)
  | unsupported outcome unsupported =>
    refine iff_of_true ((settled_replay fresh _ _).mpr (.inr rfl)) ?_
    simp [Handled, outcome, Caught, unsupported]
  | extracting passed stopped =>
    rw [settled_replay fresh, handled_of_classified passed]
    exact iff_of_false (by simp [Block.target]) (not_caught_of_escapes stopped)
  | extractFailed passed failed =>
    rw [settled_replay fresh, handled_of_classified passed]
    exact iff_of_true (.inr rfl) (caught_of_fails failed)
  | normalizing passed stopped =>
    rw [settled_replay fresh, handled_of_extracted passed]
    exact iff_of_false (by simp [Block.target]) (not_caught_of_escapes stopped)
  | normalizeFailed passed failed =>
    rw [settled_replay fresh, handled_of_extracted passed]
    exact iff_of_true (.inr rfl) (caught_of_fails failed)
  | validating passed stopped =>
    rw [settled_replay fresh, handled_of_normalized passed]
    exact iff_of_false (by simp [Block.target]) (not_caught_of_escapes stopped)
  | validateFailed passed failed =>
    rw [settled_replay fresh, handled_of_normalized passed]
    exact iff_of_true (.inr rfl) (caught_of_fails failed)
  | completed passed =>
    rw [settled_replay fresh]
    refine iff_of_true (.inl rfl) ?_
    cases passed with
    | validated before outcome =>
      rw [handled_of_normalized before, outcome]
      trivial

/-- A job as the intake route leaves it. -/
def pendingDb : Db where
  jobs := [("j1", sampleJob .pending)]
  outputs := []
  outbox := [outboxRow 1 "j1" .auditLog (.ingressReceived "ops@acme.test" "normal" "C042")]
  nextOutboxId := 2
  scores := []
  auditLog := []
  reference := ⟨["USNYC", "CNSHA"], []⟩

theorem pendingDb_fresh : Fresh "j1" pendingDb where
  pending := by decide
  output := rfl
  score _ := rfl
  events := by
    intro event inside
    simp only [eventsOf, pendingDb, outboxRow, decide_true, List.filter_cons_of_pos, List.filter_nil, List.map_cons,
      List.map_nil, List.mem_singleton] at inside
    subst inside
    exact ⟨rfl, rfl⟩
  audit := rfl

/-- A workbook is staged, and every call of the model is answered with status 503. -/
def unavailableEnv : Env :=
  { sampleEnv with
    services := { sampleServices with generate := fun _ _ => .error ⟨.other "ServerError", "503 UNAVAILABLE", some 503⟩ }
    readBytes := .ok (xlsxHeader ++ xlsxOpcMarker)
    workbook := .ok [.ok ⟨"Rates", 1, 1, "A1", .primitive (.text "Origin")⟩] }

theorem chain_settles_iff_unavailable :
    Settled "j1" (chain unavailableEnv "j1" ⟨⟨pendingDb, []⟩, []⟩).2.trace.committed ↔
      Handled unavailableEnv "j1" pendingDb (sampleJob .pending) :=
  chain_settles_iff unavailableEnv "j1" pendingDb (sampleJob .pending) pendingDb_fresh rfl

/-- A job stays `extracting` when Vertex answers the call of Stage 2 with status 503 twice. -/
theorem chain_leaves_job_extracting :
    ¬ ∀ (env : Env) (jobId : String) (db : Db), Fresh jobId db →
      Settled jobId (chain env jobId ⟨⟨db, []⟩, []⟩).2.trace.committed := by
  intro always
  have stuck : (chain unavailableEnv "j1" ⟨⟨pendingDb, []⟩, []⟩).2.trace.committed.status "j1" = some .extracting := by
    decide +kernel
  have settled := always unavailableEnv "j1" pendingDb pendingDb_fresh
  unfold Settled at settled
  rw [stuck] at settled
  rcases settled with completed | failed
  · cases completed
  · cases failed

/-- A message with one lane is staged. -/
def pricatEnv : Env :=
  { sampleEnv with
    stagingPath := "/tmp/onramp/j1/rates.edi"
    readBytes := .ok (Classifier.ascii "UNA")
    tokenize := fun _ => .ok
      [⟨"LIN", ["USNYC", "CNSHA", "40HC", "100", "2027-01-01", "2027-12-31"].map Edifact.Element.text⟩] }

/-- The calibration of Stage 4 cannot be read. -/
def uncalibratedEnv : Env :=
  { pricatEnv with calibrationText := .error ⟨.other "FileNotFoundError", "No such file or directory", none⟩ }

/-- The chain for the staged file. -/
def stagedTrace (env : Env) : Trace Db := (chain env "j1" ⟨⟨pendingDb, []⟩, []⟩).2.trace

end Onramp.Settlement
