import Onramp.Blocks

/-!
One specification for each task: from any committed states, under any allowed
faults, the task commits its block and returns, or it raises and has committed a
failure record or nothing. The outcomes are those of the computations of the task
without faults.
-/
namespace Onramp.TaskSpecs
open Onramp.Python
open Onramp.Models
open Onramp.Database
open Onramp.Stage4
open Onramp.Tasks
open Onramp.Blocks
open Onramp.Classifier (classifyFormat)
open Onramp.Excel (extractionError)
open Onramp.Normalizer (normalizeLanes)
open Onramp.Library.Keyed (find)
open Onramp.Library.Atomic

variable (env : Env) (jobId : String) {allowed : PyExc → Prop}

/-- What `classify` computes. -/
def classifyOutcome : Raises ClassifiedFormat := do
  let payload ← env.readBytes
  classifyFormat env.services.platform.lower env.csv payload (pathName env.stagingPath)

/-- The format is one that the extractor handles. -/
def Supported (fmt : DetectedFormat) : Prop := fmt = .excel ∨ fmt = .edifact

/-- What `normalize` computes on the extraction. -/
def normalizeOutcome (db : Db) (extraction : NormalizedRatesheet) :
    Raises (NormalizedRatesheet × List ConsensusResult) :=
  normalizeLanes (env.services.stage 3) db.reference env.normalizedAt extraction

/-- What `validate` computes: the result, and the payload for Slack. -/
def validateOutcome (db : Db) : Raises (Validated × Payload) := do
  match ← db.getOutput jobId with
  | none => .error (extractionError s!"job {strRepr jobId} has no normalized output to validate")
  | some normalized =>
    match db.getJob jobId with
    | none => .error (extractionError s!"job {strRepr jobId} vanished before validation")
    | some job =>
      match recoverRequestedSlackChannel jobId (env.rowOrder db.outbox) with
      | none => .error (extractionError (s!"job {strRepr jobId} has no requested_slack_channel in audit_log; " ++
          "intake route did not enqueue ingress_received payload as expected"))
      | some channel => do
        let result ← validateSheet (stage4Inputs env jobId db) normalized
        let signed ← env.signedUrl
        return (result, slackPayload channel job.prospectName result signed)

/-- The computation of `validate` returns when each of its queries finds a row and each of its calls returns. -/
theorem validateOutcome_eq_ok {db : Db} {result : Validated} {slack : Payload} :
    validateOutcome env jobId db = .ok (result, slack) ↔
      ∃ normalized job channel signed, db.getOutput jobId = .ok (some normalized) ∧ db.getJob jobId = some job ∧
        recoverRequestedSlackChannel jobId (env.rowOrder db.outbox) = some channel ∧
        validateSheet (stage4Inputs env jobId db) normalized = .ok result ∧ env.signedUrl = .ok signed ∧
        slack = slackPayload channel job.prospectName result signed := by
  unfold validateOutcome
  rw [bind_eq_ok]
  constructor
  · rintro ⟨output, stored, computed⟩
    cases output with
    | none => cases computed
    | some normalized =>
      cases found : db.getJob jobId with
      | none => simp [found] at computed
      | some job =>
        cases recovered : recoverRequestedSlackChannel jobId (env.rowOrder db.outbox) with
        | none => simp [found, recovered] at computed
        | some channel =>
          simp only [found, recovered, bind_eq_ok, pure, Except.pure, Except.ok.injEq, Prod.mk.injEq] at computed
          obtain ⟨validated, returned, signed, issued, rfl, rfl⟩ := computed
          exact ⟨normalized, job, channel, signed, stored, rfl, rfl, returned, issued, rfl⟩
  · rintro ⟨normalized, job, channel, signed, stored, found, recovered, returned, issued, rfl⟩
    refine ⟨some normalized, stored, ?_⟩
    simp only [found, recovered, returned, issued, bind, Except.bind, pure, Except.pure]

theorem hasJob_of_getJob {jobId : String} {db : Db} {job : OnrampJob} (found : db.getJob jobId = some job) :
    db.hasJob jobId = true := by
  unfold Db.getJob at found
  rw [Db.hasJob, found]
  rfl

/-- A failure record is committed on top of the trace. -/
def Recorded (stage : Stage) (exc : PyExc) (t0 t : Trace Db) : Prop :=
  t = t0.commit (failureDb env jobId stage exc t0.committed)

variable {t0 : Trace Db}

theorem failWith_spec {α : Type} (stage : Stage) (exc : PyExc) (present : t0.committed.hasJob jobId = true) :
    Triple allowed (fun t => t = t0) (failWith env jobId stage exc : TaskBody α) (fun _ _ => False)
      (fun e t => (t = t0 ∧ allowed e) ∨ (e = exc ∧ Recorded env jobId stage exc t0 t)) := by
  unfold failWith commitFailure
  exact Triple.bind (fun _ t => Recorded env jobId stage exc t0 t)
    (Triple.atomic_commits (applyAll_failure env jobId stage exc present) (fun e fault => .inl ⟨rfl, fault⟩) rfl)
    (fun _ => Triple.raise exc (fun t recorded => .inr ⟨rfl, recorded⟩))

/-- `try` around a program that leaves the trace alone when it raises: what is handled is recorded. -/
theorem catching_spec {α : Type} {handles : PyExc → Bool} {p : TaskBody α} {post : α → Trace Db → Prop} (stage : Stage)
    (present : t0.committed.hasJob jobId = true) {raised : PyExc → Prop}
    (inner : Triple allowed (fun t => t = t0) p post (fun e t => t = t0 ∧ (allowed e ∨ raised e))) :
    Triple allowed (fun t => t = t0) (catching handles p (failWith env jobId stage)) post
      (fun e t => (t = t0 ∧ (allowed e ∨ (raised e ∧ handles e = false))) ∨
        (Recorded env jobId stage e t0 t ∧ (allowed e ∨ raised e) ∧ handles e = true)) := by
  refine Triple.catching _ inner ?_ ?_
  · intro e handled
    refine Triple.given (fun why => Triple.weaken (failWith_spec env jobId stage e present)
      (fun _ start => start) (fun _ _ impossible => impossible.elim) ?_)
    rintro e' t (⟨rfl, fault⟩ | ⟨rfl, recorded⟩)
    · exact .inl ⟨rfl, .inl fault⟩
    · exact .inr ⟨recorded, why, handled⟩
  · rintro e escaped t ⟨rfl, why⟩
    exact .inl ⟨rfl, why.imp id (fun raised => ⟨raised, escaped⟩)⟩

theorem classify_spec (present : t0.committed.hasJob jobId = true) :
    Triple allowed (fun t => t = t0) (classify env jobId)
      (fun fmt t => ∃ classified, classifyOutcome env = .ok classified ∧ classified.detectedFormat = fmt ∧
        Supported fmt ∧ t = t0.commit (classifiedDb jobId classified t0.committed))
      (fun e t => (t = t0 ∧ (allowed e ∨ classifyOutcome env = .error e)) ∨
        ∃ classified, classifyOutcome env = .ok classified ∧ ¬ Supported classified.detectedFormat ∧
          t = t0.commit (setStatus jobId .failed (some env.finishedAt) t0.committed)) := by
  unfold classify
  refine Triple.point_then (fun e fault => .inl ⟨rfl, .inl fault⟩) (Triple.lift_then (fun e failed => ?_) (fun payload read =>
    Triple.lift_then (fun e failed => ?_) (fun classified computed => ?_)))
  · exact .inl ⟨rfl, .inr (by simp [classifyOutcome, failed, bind, Except.bind])⟩
  · exact .inl ⟨rfl, .inr (by simpa [classifyOutcome, read, bind, Except.bind] using failed)⟩
  have outcome : classifyOutcome env = .ok classified := bind_eq_ok.mpr ⟨payload, read, computed⟩
  by_cases supported : classified.detectedFormat ∈ [DetectedFormat.excel, .edifact]
  · have supported' : Supported classified.detectedFormat := by simpa [Supported] using supported
    rw [if_neg (not_not.mpr supported)]
    refine Triple.bind (fun _ t => t = t0.commit (classifiedDb jobId classified t0.committed))
      (Triple.atomic_commits (applyAll_classified jobId classified present) (fun e fault => .inl ⟨rfl, .inl fault⟩) rfl)
      (fun _ => Triple.pure _ ?_)
    exact fun t reached => ⟨classified, outcome, rfl, supported', reached⟩
  · have unsupported : ¬ Supported classified.detectedFormat := by simpa [Supported] using supported
    rw [if_pos supported]
    refine Triple.bind (fun _ t => t = t0.commit (setStatus jobId .failed (some env.finishedAt) t0.committed))
      (Triple.atomic_commits rfl (fun e fault => .inl ⟨rfl, .inl fault⟩) rfl) (fun _ => Triple.raise _ ?_)
    exact fun t reached => .inr ⟨classified, outcome, unsupported, reached⟩

theorem extract_spec {fmt : DetectedFormat} (supported : Supported fmt) {job : OnrampJob}
    (found : t0.committed.getJob jobId = some job) (absent : find jobId t0.committed.outputs = none) :
    Triple allowed (fun t => t = t0) (extract env jobId fmt)
      (fun _ t => ∃ payload, extractPayload env jobId fmt job.prospectId = .ok payload ∧
        t = t0.commit (extractedDb jobId payload t0.committed))
      (fun e t => (t = t0 ∧ (allowed e ∨ (extractPayload env jobId fmt job.prospectId = .error e ∧
          extractHandles e = false))) ∨
        (Recorded env jobId .extractFailed e t0 t ∧
          (allowed e ∨ extractPayload env jobId fmt job.prospectId = .error e) ∧ extractHandles e = true)) := by
  have present : t0.committed.hasJob jobId = true := hasJob_of_getJob found
  have listed : fmt ∈ [DetectedFormat.excel, .edifact] := by simpa [Supported] using supported
  unfold extract
  rw [if_neg (not_not.mpr listed)]
  refine Triple.point_then (fun e fault => .inl ⟨rfl, .inl fault⟩)
    (Triple.query_then (fun e failed => by cases failed) (fun found' read => ?_))
  obtain rfl : found' = some job := (Except.ok.inj read).symm.trans found
  refine Triple.bind (fun payload t => t = t0 ∧ extractPayload env jobId fmt job.prospectId = .ok payload)
    (catching_spec env jobId .extractFailed present (Triple.point_then (fun e fault => ⟨rfl, .inl fault⟩) (Triple.lift ?_ ?_)))
    (fun payload => Triple.given (fun outcome => ?_))
  · exact fun payload outcome t start => ⟨start, outcome⟩
  · exact fun e outcome t start => ⟨start, .inr outcome⟩
  exact Triple.point_then (fun e fault => .inl ⟨rfl, .inl fault⟩)
    (Triple.atomic_commits (applyAll_extracted jobId payload present absent) (fun e fault => .inl ⟨rfl, .inl fault⟩)
      ⟨payload, outcome, rfl⟩)

theorem normalize_spec (present : t0.committed.hasJob jobId = true) {extraction : NormalizedRatesheet}
    (stored : t0.committed.getOutput jobId = .ok (some extraction)) :
    Triple allowed (fun t => t = t0) (Tasks.normalize env jobId)
      (fun _ t => ∃ updated results, normalizeOutcome env t0.committed extraction = .ok (updated, results) ∧
        t = t0.commit (normalizedDb jobId updated results t0.committed))
      (fun e t => (t = t0 ∧ (allowed e ∨ (normalizeOutcome env t0.committed extraction = .error e ∧
          normalizeHandles e = false))) ∨
        (Recorded env jobId .normalizeFailed e t0 t ∧
          (allowed e ∨ normalizeOutcome env t0.committed extraction = .error e) ∧ normalizeHandles e = true)) := by
  unfold Tasks.normalize
  refine Triple.point_then (fun e fault => .inl ⟨rfl, .inl fault⟩) (Triple.query_then (fun e failed => ?_) (fun output read => ?_))
  · rw [stored] at failed
    cases failed
  obtain rfl : output = some extraction := by
    rw [stored] at read
    exact (Except.ok.inj read).symm
  refine Triple.bind (fun parts t => t = t0 ∧ normalizeOutcome env t0.committed extraction = .ok parts)
    (catching_spec env jobId .normalizeFailed present (Triple.point_then (fun e fault => ⟨rfl, .inl fault⟩)
      (Triple.query_then (fun e failed => by cases failed) (fun reference read => ?_))))
    (fun parts => Triple.given (fun outcome => ?_))
  · obtain rfl : reference = t0.committed.reference := (Except.ok.inj read).symm
    exact Triple.lift (fun parts outcome t start => ⟨start, outcome⟩) (fun e outcome t start => ⟨start, .inr outcome⟩)
  obtain ⟨updated, results⟩ := parts
  exact Triple.point_then (fun e fault => .inl ⟨rfl, .inl fault⟩)
    (Triple.atomic_commits (applyAll_normalized jobId updated results present) (fun e fault => .inl ⟨rfl, .inl fault⟩)
      ⟨updated, results, outcome, rfl⟩)

/-- The body of `validate` is its computation, followed by the terminal block. -/
theorem validateBody_spec :
    Triple allowed (fun t => t = t0) (validateBody env jobId)
      (fun _ t => ∃ result slack, validateOutcome env jobId t0.committed = .ok (result, slack) ∧
        t = t0.commit (validatedDb env jobId result slack t0.committed))
      (fun e t => t = t0 ∧ (allowed e ∨ validateOutcome env jobId t0.committed = .error e)) := by
  unfold validateBody
  refine Triple.point_then (fun e fault => ⟨rfl, .inl fault⟩) (Triple.query_then (fun e failed => ?_) (fun output stored => ?_))
  · exact ⟨rfl, .inr (by simp [validateOutcome, failed, bind, Except.bind])⟩
  cases output with
  | none => exact Triple.raise _ (fun t start => ⟨start, .inr (by simp [validateOutcome, stored, bind, Except.bind])⟩)
  | some normalized =>
    refine Triple.point_then (fun e fault => ⟨rfl, .inl fault⟩)
      (Triple.query_then (fun e failed => by cases failed) (fun job found => ?_))
    have found := Except.ok.inj found
    cases job with
    | none =>
      exact Triple.raise _ (fun t start => ⟨start, .inr (by simp [validateOutcome, stored, found, bind, Except.bind])⟩)
    | some job =>
      have present : t0.committed.hasJob jobId = true := hasJob_of_getJob found
      refine Triple.point_then (fun e fault => ⟨rfl, .inl fault⟩)
        (Triple.query_then (fun e failed => by cases failed) (fun channel recovered => ?_))
      have recovered := Except.ok.inj recovered
      cases channel with
      | none =>
        exact Triple.raise _ (fun t start =>
          ⟨start, .inr (by simp [validateOutcome, stored, found, recovered, bind, Except.bind])⟩)
      | some channel =>
        refine Triple.point_then (fun e fault => ⟨rfl, .inl fault⟩)
          (Triple.query_then (fun e failed => by cases failed) (fun inputs read => ?_))
        obtain rfl : inputs = stage4Inputs env jobId t0.committed := (Except.ok.inj read).symm
        refine Triple.lift_then (fun e failed => ?_) (fun result validated =>
          Triple.lift_then (fun e failed => ?_) (fun signed issued => ?_))
        · exact ⟨rfl, .inr (by simp [validateOutcome, stored, found, recovered, failed, bind, Except.bind])⟩
        · exact ⟨rfl, .inr (by simp [validateOutcome, stored, found, recovered, validated, failed, bind, Except.bind])⟩
        have computed : validateOutcome env jobId t0.committed =
            .ok (result, slackPayload channel job.prospectName result signed) :=
          (validateOutcome_eq_ok env jobId).mpr
            ⟨normalized, job, channel, signed, stored, found, recovered, validated, issued, rfl⟩
        exact Triple.point_then (fun e fault => ⟨rfl, .inl fault⟩)
          (Triple.atomic_commits (applyAll_validated env jobId result _ present) (fun e fault => ⟨rfl, .inl fault⟩)
            ⟨result, _, computed, rfl⟩)

/-- `validate` commits its terminal block, or records a failure, unless what strikes is
    no `Exception` or strikes the failure record itself. -/
theorem validate_spec (present : t0.committed.hasJob jobId = true) :
    Triple allowed (fun t => t = t0) (validate env jobId)
      (fun _ t => ∃ result slack, validateOutcome env jobId t0.committed = .ok (result, slack) ∧
        t = t0.commit (validatedDb env jobId result slack t0.committed))
      (fun e t => (t = t0 ∧ (allowed e ∨ (validateOutcome env jobId t0.committed = .error e ∧
          e.isException = false))) ∨
        (Recorded env jobId .validateFailed e t0 t ∧
          (allowed e ∨ validateOutcome env jobId t0.committed = .error e) ∧ e.isException = true)) := by
  unfold validate
  exact catching_spec env jobId .validateFailed present (validateBody_spec env jobId)

/-- When `validate` returns, it committed its terminal block, whatever struck before. -/
theorem validate_returns :
    Triple allowed (fun t => t = t0) (validate env jobId)
      (fun _ t => ∃ result slack, validateOutcome env jobId t0.committed = .ok (result, slack) ∧
        t = t0.commit (validatedDb env jobId result slack t0.committed))
      (fun _ _ => True) := by
  have raises : ∀ e, Triple allowed (fun _ => True) (failWith env jobId .validateFailed e : TaskBody Unit)
      (fun _ _ => False) (fun _ _ => True) := fun e =>
    Triple.bind (fun _ _ => True) (Triple.atomic (fun _ _ _ _ => trivial) (fun _ _ _ _ => trivial))
      (fun _ => Triple.raise e (fun _ _ => trivial))
  refine Triple.catching _ (validateBody_spec env jobId) (fun e _ => ?_) (fun _ _ _ _ => trivial)
  exact Triple.weaken (raises e) (fun _ _ => trivial) (fun _ _ impossible => impossible.elim) (fun _ _ _ => trivial)

theorem validateOutcome_spec {db : Db} {result : Validated} {slack : Payload}
    (computed : validateOutcome env jobId db = .ok (result, slack)) :
    ∃ normalized, db.getOutput jobId = .ok (some normalized) ∧
      validateSheet (stage4Inputs env jobId db) normalized = .ok result := by
  obtain ⟨normalized, job, channel, signed, stored, -, -, validated, -, -⟩ := (validateOutcome_eq_ok env jobId).mp computed
  exact ⟨normalized, stored, validated⟩

end Onramp.TaskSpecs
