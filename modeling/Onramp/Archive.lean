import Onramp.Library.Runs
import Onramp.LaneAccounting

/-!
The archive sweeps over the outputs of completed jobs. A sweep selects the rows that are older
than its cutoff, and for each of them uploads the payload and deletes the row in a transaction
of its own. Uploads fail or are stored late, sweeps overlap and crash at any point; a row goes
only when the archive has its payload.
-/
namespace Onramp.Archive
open Onramp.Python
open Onramp.Models
open Onramp.Database
open Onramp.Library.Keyed (Table find upsert erase keys find_erase find_upsert_self find_upsert_other)
open Onramp.Library.Runs
open Onramp.LaneAccounting (sampleNow sampleSheet sampleJob)

/-- `json.dumps` and `gzip.compress` with their inverses. -/
structure Codec (Text Bytes : Type) where
  dumps : NormalizedRatesheet → Text
  loads : Text → Option NormalizedRatesheet
  compress : Text → Bytes
  decompress : Bytes → Option Text
  loads_dumps : ∀ payload, loads (dumps payload) = some payload
  decompress_compress : ∀ text, decompress (compress text) = some text

section
variable {Text Bytes : Type} (codec : Codec Text Bytes)

/-- The bytes that are uploaded for a payload. -/
def Codec.gzipped (payload : NormalizedRatesheet) : Bytes := codec.compress (codec.dumps payload)

/-- The decompressed JSON of a blob. -/
def Codec.restored (blob : Bytes) : Option NormalizedRatesheet := (codec.decompress blob).bind codec.loads

@[simp] theorem Codec.restored_gzipped (payload : NormalizedRatesheet) :
    codec.restored (codec.gzipped payload) = some payload := by
  simp [Codec.restored, Codec.gzipped, codec.decompress_compress, codec.loads_dumps]
end

def blobName (jobId : String) : String := "jobs/" ++ jobId ++ ".json.gz"

theorem blobName_injective : Function.Injective blobName := by
  intro a b same
  exact String.append_right_inj _ |>.mp (String.append_left_inj _ |>.mp same)

/-- A tuple of the selection. -/
structure Selected where
  jobId : String
  completedAt : DateTime
  payload : NormalizedRatesheet

inductive SourceTable
  | onrampOutputs | onrampAuditLog
  deriving DecidableEq

structure ArchiveCandidate where
  jobId : String
  completedAt : DateTime
  archiveBlobName : String
  sourceTable : SourceTable
  deriving DecidableEq

def ArchiveCandidate.Valid (candidate : ArchiveCandidate) : Prop :=
  lengthWithin 1 64 candidate.jobId ∧ lengthWithin 4 256 candidate.archiveBlobName

instance (candidate : ArchiveCandidate) : Decidable candidate.Valid :=
  inferInstanceAs (Decidable (_ ∧ _))

def Selected.candidate (row : Selected) : ArchiveCandidate := ⟨row.jobId, row.completedAt, blobName row.jobId, .onrampOutputs⟩

/-- The row that the query has for a job. -/
def selectRow (cutoff : DateTime) (db : Db) (jobId : String) : Option Selected := do
  let job ← find jobId db.jobs
  let output ← find jobId db.outputs
  let completedAt ← job.completedAt
  if job.status = .completed ∧ completedAt.before cutoff then
    return ⟨jobId, completedAt, output.normalizedPayload⟩
  else none

def selectCandidates (cutoff : DateTime) (db : Db) : List Selected := (keys db.jobs).filterMap (selectRow cutoff db)

/-- `delete(OnrampOutput).where(OnrampOutput.job_id == job_id)`. -/
def deleteOutput (jobId : String) (db : Db) : Db := { db with outputs := erase jobId db.outputs }

/-- Where a sweep is: between two rows, in the upload of a row, behind it, behind the deletion
    of the row, or at its end. -/
inductive Phase
  | idle
  | uploading (row : Selected) (upload : Nat)
  | uploaded (row : Selected)
  | deleted (row : Selected)
  | returned
  | crashed

/-- A call of `archive_completed_jobs` after its selection. The query has no order: the loop
    takes any of the remaining rows. -/
structure Sweep where
  cutoff : DateTime
  rows : List Selected
  remaining : List Selected
  phase : Phase
  candidates : List ArchiveCandidate

/-- A call of `upload_blob`. It is stored at any time, if at all, however the call ends. -/
structure Upload (Bytes : Type) where
  name : String
  payload : Bytes
  stored : Bool

structure State (Bytes : Type) where
  db : Db
  archive : Table String Bytes
  uploads : List (Upload Bytes)
  sweeps : List Sweep

/-- What a sweep does next. -/
inductive Action
  | upload (place : Nat)
  | returns
  | raises (exc : PyExc)
  | delete
  | append
  | finish
  | crash

/-- The other components write, a sweep starts or goes on, or an upload is stored. -/
inductive Event
  | others (db : Db)
  | start (now : DateTime) (ageDays : Int)
  | sweep (number : Nat) (action : Action)
  | stores (upload : Nat)

section
variable {Text Bytes : Type} (codec : Codec Text Bytes)

/-- One action of a sweep: what it makes of the state and of itself. -/
def Sweep.act (s : State Bytes) (sweep : Sweep) : Action → Option (State Bytes × Sweep)
  | .upload place =>
    match sweep.phase, sweep.remaining[place]? with
    | .idle, some row => some
      ({ s with uploads := s.uploads ++ [⟨blobName row.jobId, codec.gzipped row.payload, false⟩] },
        { sweep with remaining := sweep.remaining.eraseIdx place, phase := .uploading row s.uploads.length })
    | _, _ => none
  | .returns =>
    match sweep.phase with
    | .uploading row upload =>
      if (s.uploads[upload]?).any Upload.stored then some (s, { sweep with phase := .uploaded row }) else none
    | _ => none
  | .raises exc =>
    match sweep.phase with
    | .uploading _ _ => some (s, { sweep with phase := if exc.isException then .idle else .crashed })
    | _ => none
  | .delete =>
    match sweep.phase with
    | .uploaded row => some ({ s with db := deleteOutput row.jobId s.db }, { sweep with phase := .deleted row })
    | _ => none
  | .append =>
    match sweep.phase with
    | .deleted row => some (s,
        if row.candidate.Valid then { sweep with candidates := sweep.candidates ++ [row.candidate], phase := .idle }
        else { sweep with phase := .crashed })
    | _ => none
  | .finish =>
    match sweep.phase, sweep.remaining with
    | .idle, [] => some (s, { sweep with phase := .returned })
    | _, _ => none
  | .crash =>
    match sweep.phase with
    | .returned => none
    | _ => some (s, { sweep with phase := .crashed })

def step (s : State Bytes) : Event → Option (State Bytes)
  | .others db => some { s with db }
  | .start now ageDays => do
    let cutoff ← now.minusDays ageDays
    let rows := selectCandidates cutoff s.db
    return { s with sweeps := s.sweeps ++ [⟨cutoff, rows, rows, .idle, []⟩] }
  | .sweep number action => do
    let sweep ← s.sweeps[number]?
    let (next, sweep) ← sweep.act codec s action
    return { next with sweeps := s.sweeps.set number sweep }
  | .stores upload => do
    let started ← s.uploads[upload]?
    return { s with
      archive := upsert started.name started.payload s.archive
      uploads := s.uploads.set upload { started with stored := true } }

/-- No sweep has started. -/
def start (db : Db) (archive : Table String Bytes) : State Bytes := ⟨db, archive, [], []⟩

end

/-- The completed jobs keep their rows. -/
def KeepsCompleted (before after : Db) : Prop :=
  ∀ jobId job, find jobId before.jobs = some job → job.status = .completed →
    find jobId after.jobs = some job ∧ find jobId after.outputs = find jobId before.outputs

/-- The job is completed and older than the cutoff. -/
def Eligible (db : Db) (cutoff : DateTime) (jobId : String) : Prop :=
  ∃ job completedAt, find jobId db.jobs = some job ∧ job.status = .completed ∧ job.completedAt = some completedAt ∧
    completedAt.before cutoff = true

theorem selectRow_spec {cutoff : DateTime} {db : Db} {jobId : String} {row : Selected}
    (selected : selectRow cutoff db jobId = some row) :
    row.jobId = jobId ∧ Eligible db cutoff jobId ∧
      ∃ output, find jobId db.outputs = some output ∧ output.normalizedPayload = row.payload := by
  simp only [selectRow, Option.bind_eq_bind, Option.bind_eq_some_iff] at selected
  obtain ⟨job, found, output, present, completedAt, completed, taken⟩ := selected
  by_cases old : job.status = .completed ∧ completedAt.before cutoff = true
  · rw [if_pos old] at taken
    cases taken
    exact ⟨rfl, ⟨job, completedAt, found, old.1, completed, old.2⟩, output, present, rfl⟩
  · rw [if_neg old] at taken
    cases taken

theorem selectCandidates_spec {cutoff : DateTime} {db : Db} {row : Selected}
    (selected : row ∈ selectCandidates cutoff db) :
    Eligible db cutoff row.jobId ∧
      ∃ output, find row.jobId db.outputs = some output ∧ output.normalizedPayload = row.payload := by
  obtain ⟨jobId, _, taken⟩ := List.mem_filterMap.mp selected
  obtain ⟨rfl, eligible, current⟩ := selectRow_spec taken
  exact ⟨eligible, current⟩

theorem find_deleteOutput (jobId other : String) (db : Db) :
    find other (deleteOutput jobId db).outputs = if other = jobId then none else find other db.outputs :=
  find_erase jobId other db.outputs

section
variable {Text Bytes : Type} (codec : Codec Text Bytes)

/-- A sweep has selected the row. -/
def IsSelected (s : State Bytes) (row : Selected) : Prop := ∃ sweep ∈ s.sweeps, row ∈ sweep.rows

/-- The archive has the payload of the row. -/
def Archived (s : State Bytes) (row : Selected) : Prop :=
  find (blobName row.jobId) s.archive = some (codec.gzipped row.payload)

/-- The row is archived and gone. -/
def Settled (s : State Bytes) (row : Selected) : Prop := Archived codec s row ∧ find row.jobId s.db.outputs = none

/-- The upload is one of the row. -/
def Upload.Of (upload : Upload Bytes) (row : Selected) : Prop :=
  upload.name = blobName row.jobId ∧ upload.payload = codec.gzipped row.payload

/-- What holds of the row that a sweep is at. -/
def Phase.Sound (s : State Bytes) (rows : List Selected) : Phase → Prop
  | .uploading row upload => row ∈ rows ∧ ∃ started, s.uploads[upload]? = some started ∧ started.Of codec row
  | .uploaded row => row ∈ rows ∧ Archived codec s row
  | .deleted row => row ∈ rows ∧ Settled codec s row
  | .idle | .returned | .crashed => True

structure Sweep.Sound (s : State Bytes) (sweep : Sweep) : Prop where
  eligible : ∀ row ∈ sweep.rows, Eligible s.db sweep.cutoff row.jobId
  remaining : ∀ row ∈ sweep.remaining, row ∈ sweep.rows
  phase : sweep.phase.Sound codec s sweep.rows
  candidates : ∀ candidate ∈ sweep.candidates, ∃ row ∈ sweep.rows, row.candidate = candidate ∧ Settled codec s row

/-- Two selections of a job have one payload, which is the one of its row while the row is there. -/
structure Inv (s : State Bytes) : Prop where
  sweeps : ∀ sweep ∈ s.sweeps, sweep.Sound codec s
  current : ∀ row, IsSelected s row → ∀ output, find row.jobId s.db.outputs = some output →
    output.normalizedPayload = row.payload
  agree : ∀ row other, IsSelected s row → IsSelected s other → row.jobId = other.jobId → row.payload = other.payload
  uploads : ∀ upload ∈ s.uploads, ∃ row, IsSelected s row ∧ upload.Of codec row ∧
    (upload.stored = true → Archived codec s row)

/-- What a step leaves to the sweeps: completed jobs keep their row or have it archived, what is
    archived stays so, and no upload is forgotten. -/
structure Carries (s s' : State Bytes) : Prop where
  completed : ∀ jobId job, find jobId s.db.jobs = some job → job.status = .completed →
    find jobId s'.db.jobs = some job ∧
      (find jobId s'.db.outputs = find jobId s.db.outputs ∨
        find jobId s'.db.outputs = none ∧ ∃ row, IsSelected s row ∧ row.jobId = jobId ∧ Archived codec s' row)
  archived : ∀ row, IsSelected s row → Archived codec s row → Archived codec s' row
  uploads : ∀ (number : Nat) (upload : Upload Bytes), s.uploads[number]? = some upload →
    ∃ later, s'.uploads[number]? = some later ∧ later.name = upload.name ∧ later.payload = upload.payload
  selected : ∀ row, IsSelected s row → IsSelected s' row

/-- The actions of a sweep by what they do. -/
inductive Acts (s : State Bytes) (sweep : Sweep) : State Bytes → Sweep → Prop
  | begins {row : Selected} {place : Nat} (idle : sweep.phase = .idle) (taken : sweep.remaining[place]? = some row) :
    Acts s sweep { s with uploads := s.uploads ++ [⟨blobName row.jobId, codec.gzipped row.payload, false⟩] }
      { sweep with remaining := sweep.remaining.eraseIdx place, phase := .uploading row s.uploads.length }
  | returns {row : Selected} {number : Nat} {upload : Upload Bytes} (at_ : sweep.phase = .uploading row number)
    (started : s.uploads[number]? = some upload) (stored : upload.stored = true) :
    Acts s sweep s { sweep with phase := .uploaded row }
  | deletes {row : Selected} (at_ : sweep.phase = .uploaded row) :
    Acts s sweep { s with db := deleteOutput row.jobId s.db } { sweep with phase := .deleted row }
  | appends {row : Selected} (at_ : sweep.phase = .deleted row) :
    Acts s sweep s { sweep with candidates := sweep.candidates ++ [row.candidate], phase := .idle }
  | rests {phase : Phase} (still : phase = .idle ∨ phase = .returned ∨ phase = .crashed) :
    Acts s sweep s { sweep with phase }

/-- The events by what they do. -/
inductive Happens (s : State Bytes) : Event → State Bytes → Prop
  | others {db : Db} : Happens s (.others db) { s with db }
  | starts {now : DateTime} {ageDays : Int} {cutoff : DateTime} (limit : now.minusDays ageDays = some cutoff) :
    Happens s (.start now ageDays) { s with
      sweeps := s.sweeps ++ [⟨cutoff, selectCandidates cutoff s.db, selectCandidates cutoff s.db, .idle, []⟩] }
  | moves {number : Nat} {action : Action} {sweep sweep' : Sweep} {next : State Bytes}
    (at_ : s.sweeps[number]? = some sweep) (acts : Acts codec s sweep next sweep') :
    Happens s (.sweep number action) { next with sweeps := s.sweeps.set number sweep' }
  | stores {number : Nat} {upload : Upload Bytes} (started : s.uploads[number]? = some upload) :
    Happens s (.stores number) { s with
      archive := upsert upload.name upload.payload s.archive
      uploads := s.uploads.set number { upload with stored := true } }

variable {codec}

theorem acts_of_act {s next : State Bytes} {sweep sweep' : Sweep} {action : Action}
    (acted : sweep.act codec s action = some (next, sweep')) : Acts codec s sweep next sweep' := by
  cases action with
  | upload place =>
    simp only [Sweep.act] at acted
    split at acted
    · next idle taken =>
      cases acted
      exact .begins idle taken
    · cases acted
  | returns =>
    simp only [Sweep.act] at acted
    split at acted
    · next row number at_ =>
      by_cases stored : (s.uploads[number]?).any Upload.stored = true
      · rw [if_pos stored] at acted
        cases acted
        obtain ⟨upload, started, done⟩ := (Option.any_eq_true _ _).mp stored
        exact .returns at_ started done
      · rw [if_neg stored] at acted
        cases acted
    · cases acted
  | raises exc =>
    simp only [Sweep.act] at acted
    split at acted
    · cases acted
      refine .rests ?_
      by_cases caught : exc.isException = true <;> simp [caught]
    · cases acted
  | delete =>
    simp only [Sweep.act] at acted
    split at acted
    · next row at_ =>
      cases acted
      exact .deletes at_
    · cases acted
  | append =>
    simp only [Sweep.act] at acted
    split at acted
    · next row at_ =>
      by_cases valid : row.candidate.Valid
      · rw [if_pos valid] at acted
        cases acted
        exact .appends at_
      · rw [if_neg valid] at acted
        cases acted
        exact .rests (.inr (.inr rfl))
    · cases acted
  | finish =>
    simp only [Sweep.act] at acted
    split at acted
    · cases acted
      exact .rests (.inr (.inl rfl))
    · cases acted
  | crash =>
    simp only [Sweep.act] at acted
    split at acted
    · cases acted
    · cases acted
      exact .rests (.inr (.inr rfl))

variable {s s' next : State Bytes} {sweep sweep' : Sweep} {row : Selected}

theorem happens_of_step {event : Event} (stepped : step codec s event = some s') : Happens codec s event s' := by
  cases event with
  | others db =>
    cases stepped
    exact .others
  | start now ageDays =>
    simp only [step, Option.bind_eq_bind, Option.bind_eq_some_iff] at stepped
    obtain ⟨cutoff, limit, made⟩ := stepped
    cases made
    exact .starts limit
  | sweep number action =>
    simp only [step, Option.bind_eq_bind, Option.bind_eq_some_iff] at stepped
    obtain ⟨sweep, at_, ⟨next, sweep'⟩, acted, made⟩ := stepped
    cases made
    exact .moves at_ (acts_of_act acted)
  | stores number =>
    simp only [step, Option.bind_eq_bind, Option.bind_eq_some_iff] at stepped
    obtain ⟨upload, started, made⟩ := stepped
    cases made
    exact .stores started

theorem Inv.eligible (inv : Inv codec s) (selected : IsSelected s row) :
    ∃ job, find row.jobId s.db.jobs = some job ∧ job.status = .completed := by
  obtain ⟨sweep, inside, member⟩ := selected
  obtain ⟨job, _, found, completed, _⟩ := (inv.sweeps sweep inside).eligible row member
  exact ⟨job, found, completed⟩

/-! ### Steps without a selection -/

theorem Settled.carried (settled : Settled codec s row) (carries : Carries codec s s') (inv : Inv codec s)
    (selected : IsSelected s row) : Settled codec s' row := by
  obtain ⟨job, found, completed⟩ := inv.eligible selected
  refine ⟨carries.archived row selected settled.1, ?_⟩
  rcases (carries.completed row.jobId job found completed).2 with same | ⟨gone, _⟩
  · rw [same]
    exact settled.2
  · exact gone

theorem Sweep.Sound.carried (inside : sweep ∈ s.sweeps) (carries : Carries codec s s') (inv : Inv codec s) :
    sweep.Sound codec s' := by
  have sound := inv.sweeps sweep inside
  refine ⟨?_, sound.remaining, ?_, ?_⟩
  · intro row member
    obtain ⟨job, completedAt, found, completed, at_, old⟩ := sound.eligible row member
    exact ⟨job, completedAt, (carries.completed row.jobId job found completed).1, completed, at_, old⟩
  · have phase := sound.phase
    cases current : sweep.phase with
    | idle | returned | crashed => trivial
    | uploading row number =>
      rw [current] at phase
      obtain ⟨member, started, found, name, payload⟩ := phase
      obtain ⟨later, found', name', payload'⟩ := carries.uploads number started found
      exact ⟨member, later, found', name'.trans name, payload'.trans payload⟩
    | uploaded row =>
      rw [current] at phase
      exact ⟨phase.1, carries.archived row ⟨sweep, inside, phase.1⟩ phase.2⟩
    | deleted row =>
      rw [current] at phase
      exact ⟨phase.1, phase.2.carried carries inv ⟨sweep, inside, phase.1⟩⟩
  · intro candidate listed
    obtain ⟨row, member, same, settled⟩ := sound.candidates candidate listed
    exact ⟨row, member, same, settled.carried carries inv ⟨sweep, inside, member⟩⟩

/-- A step that selects nothing keeps the invariant, if the sweep that moved is sound. -/
theorem Inv.carried (inv : Inv codec s) (carries : Carries codec s s')
    (sweeps : ∀ sweep ∈ s'.sweeps, sweep ∈ s.sweeps ∨ sweep.Sound codec s')
    (selected : ∀ row, IsSelected s' row → IsSelected s row)
    (uploads : ∀ upload ∈ s'.uploads, ∃ row, IsSelected s row ∧ upload.Of codec row ∧
      (upload.stored = true → Archived codec s' row)) : Inv codec s' := by
  refine ⟨?_, ?_, ?_, ?_⟩
  · intro sweep inside
    rcases sweeps sweep inside with known | sound
    · exact Sweep.Sound.carried known carries inv
    · exact sound
  · intro row chosen output present
    obtain ⟨job, found, completed⟩ := inv.eligible (selected row chosen)
    rcases (carries.completed row.jobId job found completed).2 with same | ⟨gone, _⟩
    · exact inv.current row (selected row chosen) output (same ▸ present)
    · rw [gone] at present
      cases present
  · intro row other chosen chosen' same
    exact inv.agree row other (selected row chosen) (selected other chosen') same
  · intro upload inside
    obtain ⟨row, chosen, of, stored⟩ := uploads upload inside
    exact ⟨row, carries.selected row chosen, of, stored⟩

theorem carries_of_others {db : Db} (keeps : KeepsCompleted s.db db) : Carries codec s { s with db } := by
  refine ⟨?_, fun _ _ archived => archived, fun _ upload found => ⟨upload, found, rfl, rfl⟩, fun _ selected => selected⟩
  intro jobId job found completed
  obtain ⟨kept, same⟩ := keeps jobId job found completed
  exact ⟨kept, .inl same⟩

theorem inv_of_others {db : Db} (inv : Inv codec s) (keeps : KeepsCompleted s.db db) : Inv codec { s with db } :=
  inv.carried (carries_of_others keeps) (fun _ inside => .inl inside) (fun _ selected => selected) inv.uploads

theorem carries_of_stores {number : Nat} {upload : Upload Bytes} (inv : Inv codec s)
    (started : s.uploads[number]? = some upload) :
    Carries codec s { s with
      archive := upsert upload.name upload.payload s.archive
      uploads := s.uploads.set number { upload with stored := true } } := by
  obtain ⟨origin, chosen, ⟨name, payload⟩, _⟩ := inv.uploads upload (List.mem_of_getElem? started)
  refine ⟨fun _ _ found _ => ⟨found, .inl rfl⟩, ?_, ?_, fun _ selected => selected⟩
  · intro row selected archived
    show find (blobName row.jobId) (upsert upload.name upload.payload s.archive) = some (codec.gzipped row.payload)
    by_cases same : row.jobId = origin.jobId
    · rw [name, same, payload, inv.agree row origin selected chosen same]
      exact find_upsert_self _ _ _
    · have other : blobName row.jobId ≠ upload.name := by
        rw [name]
        exact fun equal => same (blobName_injective equal)
      rw [find_upsert_other other]
      exact archived
  · intro place earlier found
    by_cases here : number = place
    · subst here
      rw [started] at found
      cases found
      exact ⟨_, List.getElem?_set_self (List.getElem?_eq_some_iff.mp started).1, rfl, rfl⟩
    · exact ⟨earlier, (List.getElem?_set_ne here).trans found, rfl, rfl⟩

theorem inv_of_stores {number : Nat} {upload : Upload Bytes} (inv : Inv codec s)
    (started : s.uploads[number]? = some upload) :
    Inv codec { s with
      archive := upsert upload.name upload.payload s.archive
      uploads := s.uploads.set number { upload with stored := true } } := by
  have carries := carries_of_stores inv started
  refine inv.carried carries (fun _ inside => .inl inside) (fun _ selected => selected) ?_
  intro other inside
  rcases List.mem_or_eq_of_mem_set inside with known | rfl
  · obtain ⟨row, chosen, of, stored⟩ := inv.uploads other known
    exact ⟨row, chosen, of, fun done => carries.archived row chosen (stored done)⟩
  · obtain ⟨origin, chosen, ⟨name, payload⟩, _⟩ := inv.uploads upload (List.mem_of_getElem? started)
    refine ⟨origin, chosen, ⟨name, payload⟩, fun _ => ?_⟩
    show find (blobName origin.jobId) (upsert upload.name upload.payload s.archive) = some (codec.gzipped origin.payload)
    rw [name, payload]
    exact find_upsert_self _ _ _

theorem rows_of_acts (acts : Acts codec s sweep next sweep') :
    sweep'.rows = sweep.rows ∧ sweep'.cutoff = sweep.cutoff := by
  cases acts <;> exact ⟨rfl, rfl⟩

theorem isSelected_set {number : Nat} (at_ : s.sweeps[number]? = some sweep) (same : sweep'.rows = sweep.rows) :
    IsSelected { next with sweeps := s.sweeps.set number sweep' } row ↔ IsSelected s row := by
  constructor
  · rintro ⟨found, inside, member⟩
    rcases List.mem_or_eq_of_mem_set inside with known | rfl
    · exact ⟨found, known, member⟩
    · exact ⟨sweep, List.mem_of_getElem? at_, same ▸ member⟩
  · rintro ⟨found, inside, member⟩
    obtain ⟨place, there⟩ := List.getElem?_of_mem inside
    by_cases here : number = place
    · subst here
      rw [at_] at there
      cases there
      exact ⟨sweep', List.mem_set (List.getElem?_eq_some_iff.mp at_).1 _, same.symm ▸ member⟩
    · exact ⟨found, List.mem_of_getElem? ((List.getElem?_set_ne here).trans there), member⟩

theorem carries_of_acts {number : Nat} (inv : Inv codec s) (at_ : s.sweeps[number]? = some sweep)
    (acts : Acts codec s sweep next sweep') : Carries codec s { next with sweeps := s.sweeps.set number sweep' } := by
  have inside : sweep ∈ s.sweeps := List.mem_of_getElem? at_
  have selected : ∀ row, IsSelected s row → IsSelected { next with sweeps := s.sweeps.set number sweep' } row :=
    fun row => (isSelected_set at_ (rows_of_acts acts).1).mpr
  cases acts with
  | begins idle taken =>
    refine ⟨fun _ _ found _ => ⟨found, .inl rfl⟩, fun _ _ archived => archived, ?_, selected⟩
    intro place earlier found
    have bound := (List.getElem?_eq_some_iff.mp found).1
    exact ⟨earlier, (List.getElem?_append_left bound).trans found, rfl, rfl⟩
  | @deletes row phase =>
    refine ⟨?_, fun _ _ archived => archived, fun _ upload found => ⟨upload, found, rfl, rfl⟩, selected⟩
    intro jobId job found _
    refine ⟨found, ?_⟩
    have sound := (inv.sweeps sweep inside).phase
    rw [phase] at sound
    have effect := find_deleteOutput row.jobId jobId s.db
    by_cases same : jobId = row.jobId
    · rw [if_pos same] at effect
      exact .inr ⟨effect, row, ⟨sweep, inside, sound.1⟩, same.symm, sound.2⟩
    · rw [if_neg same] at effect
      exact .inl effect
  | returns | appends | rests =>
    exact ⟨fun _ _ found _ => ⟨found, .inl rfl⟩, fun _ _ archived => archived,
      fun _ upload found => ⟨upload, found, rfl, rfl⟩, selected⟩

theorem sound_of_acts {number : Nat} (inv : Inv codec s) (at_ : s.sweeps[number]? = some sweep)
    (acts : Acts codec s sweep next sweep') : sweep'.Sound codec { next with sweeps := s.sweeps.set number sweep' } := by
  have inside : sweep ∈ s.sweeps := List.mem_of_getElem? at_
  have kept := Sweep.Sound.carried inside (carries_of_acts inv at_ acts) inv
  have phase := (inv.sweeps sweep inside).phase
  cases acts with
  | @begins row place idle taken =>
    refine ⟨kept.eligible, ?_, ⟨kept.remaining row (List.mem_of_getElem? taken), ?_⟩, kept.candidates⟩
    · intro other left
      exact kept.remaining other (List.mem_of_mem_eraseIdx left)
    · exact ⟨_, List.getElem?_concat_length, rfl, rfl⟩
  | @returns row number upload here started stored =>
    rw [here] at phase
    obtain ⟨member, upload', started', name, payload⟩ := phase
    rw [started] at started'
    cases started'
    obtain ⟨origin, chosen, of, archived⟩ := inv.uploads upload (List.mem_of_getElem? started)
    have same : row.jobId = origin.jobId := blobName_injective (name.symm.trans of.1)
    refine ⟨kept.eligible, kept.remaining, ⟨member, ?_⟩, kept.candidates⟩
    show find (blobName row.jobId) s.archive = some (codec.gzipped row.payload)
    rw [same, inv.agree row origin ⟨sweep, inside, member⟩ chosen same]
    exact archived stored
  | @deletes row here =>
    rw [here] at phase
    refine ⟨kept.eligible, kept.remaining, ⟨phase.1, phase.2, ?_⟩, kept.candidates⟩
    exact (find_deleteOutput row.jobId row.jobId s.db).trans (if_pos rfl)
  | @appends row here =>
    rw [here] at phase
    refine ⟨kept.eligible, kept.remaining, trivial, ?_⟩
    intro candidate listed
    rcases List.mem_append.mp listed with earlier | new
    · exact kept.candidates candidate earlier
    · exact ⟨row, phase.1, (List.mem_singleton.mp new).symm, phase.2⟩
  | rests still =>
    refine ⟨kept.eligible, kept.remaining, ?_, kept.candidates⟩
    rcases still with rfl | rfl | rfl <;> trivial

theorem inv_of_acts {number : Nat} (inv : Inv codec s) (at_ : s.sweeps[number]? = some sweep)
    (acts : Acts codec s sweep next sweep') : Inv codec { next with sweeps := s.sweeps.set number sweep' } := by
  have carries := carries_of_acts inv at_ acts
  refine inv.carried carries ?_ (fun row => (isSelected_set at_ (rows_of_acts acts).1).mp) ?_
  · intro other inside
    rcases List.mem_or_eq_of_mem_set inside with known | rfl
    · exact .inl known
    · exact .inr (sound_of_acts inv at_ acts)
  · have old : ∀ upload ∈ s.uploads, ∃ row, IsSelected s row ∧ upload.Of codec row ∧
        (upload.stored = true → Archived codec { next with sweeps := s.sweeps.set number sweep' } row) := by
      intro upload inside
      obtain ⟨row, chosen, of, stored⟩ := inv.uploads upload inside
      exact ⟨row, chosen, of, fun done => carries.archived row chosen (stored done)⟩
    cases acts with
    | @begins row place idle taken =>
      intro upload inside
      rcases List.mem_append.mp inside with known | new
      · exact old upload known
      · have member := (inv.sweeps sweep (List.mem_of_getElem? at_)).remaining row (List.mem_of_getElem? taken)
        rw [List.mem_singleton.mp new]
        exact ⟨row, ⟨sweep, List.mem_of_getElem? at_, member⟩, ⟨rfl, rfl⟩, fun stored => by cases stored⟩
    | returns | deletes | appends | rests => exact old

theorem carries_of_start (codec : Codec Text Bytes) (s : State Bytes) (cutoff : DateTime) (rows : List Selected) :
    Carries codec s { s with sweeps := s.sweeps ++ [⟨cutoff, rows, rows, .idle, []⟩] } := by
  refine ⟨fun _ _ found _ => ⟨found, .inl rfl⟩, fun _ _ archived => archived,
    fun _ upload found => ⟨upload, found, rfl, rfl⟩, ?_⟩
  rintro row ⟨sweep, inside, member⟩
  exact ⟨sweep, List.mem_append_left _ inside, member⟩

theorem inv_of_start (inv : Inv codec s) (cutoff : DateTime) :
    Inv codec { s with
      sweeps := s.sweeps ++ [⟨cutoff, selectCandidates cutoff s.db, selectCandidates cutoff s.db, .idle, []⟩] } := by
  have carries := carries_of_start codec s cutoff (selectCandidates cutoff s.db)
  -- a selected row carries the payload that the table has for its job, if it has one
  have current : ∀ row, IsSelected { s with
      sweeps := s.sweeps ++ [⟨cutoff, selectCandidates cutoff s.db, selectCandidates cutoff s.db, .idle, []⟩] } row →
      IsSelected s row ∨ ∃ output, find row.jobId s.db.outputs = some output ∧ output.normalizedPayload = row.payload := by
    rintro row ⟨sweep, inside, member⟩
    rcases List.mem_append.mp inside with known | new
    · exact .inl ⟨sweep, known, member⟩
    · rw [List.mem_singleton.mp new] at member
      exact .inr (selectCandidates_spec member).2
  refine ⟨?_, ?_, ?_, ?_⟩
  · intro sweep inside
    rcases List.mem_append.mp inside with known | new
    · exact Sweep.Sound.carried known carries inv
    · rw [List.mem_singleton.mp new]
      exact ⟨fun row member => (selectCandidates_spec member).1, fun _ member => member, trivial,
        fun _ listed => absurd listed List.not_mem_nil⟩
  · intro row chosen output present
    rcases current row chosen with known | ⟨output', present', payload⟩
    · exact inv.current row known output present
    · have same : output = output' := Option.some.inj (present.symm.trans present')
      rw [same, payload]
  · intro row other chosen chosen' same
    rcases current row chosen with known | ⟨output, present, payload⟩
    · rcases current other chosen' with known' | ⟨output', present', payload'⟩
      · exact inv.agree row other known known' same
      · rw [← inv.current row known output' (same ▸ present'), payload']
    · rcases current other chosen' with known' | ⟨output', present', payload'⟩
      · rw [← inv.current other known' output (same ▸ present), payload]
      · have equal : output = output' := Option.some.inj ((same ▸ present.symm).trans present')
        rw [← payload, ← payload', equal]
  · intro upload inside
    obtain ⟨row, chosen, of, stored⟩ := inv.uploads upload inside
    exact ⟨row, carries.selected row chosen, of, stored⟩

/-! ### Every step -/

/-- The write, if the event is one, keeps the completed jobs. -/
def Alone (s : State Bytes) : Event → Prop
  | .others db => KeepsCompleted s.db db
  | _ => True

theorem step_keeps {event : Event} (inv : Inv codec s) (alone : Alone s event) (stepped : step codec s event = some s') :
    Inv codec s' ∧ Carries codec s s' := by
  cases happens_of_step stepped with
  | others => exact ⟨inv_of_others inv alone, carries_of_others alone⟩
  | starts limit => exact ⟨inv_of_start inv _, carries_of_start codec s _ _⟩
  | moves at_ acts => exact ⟨inv_of_acts inv at_ acts, carries_of_acts inv at_ acts⟩
  | stores started => exact ⟨inv_of_stores inv started, carries_of_stores inv started⟩

theorem inv_start (db : Db) (archive : Table String Bytes) : Inv codec (start db archive) := by
  have none : ∀ row, ¬ IsSelected (start db archive) row := fun _ ⟨_, inside, _⟩ => List.not_mem_nil inside
  exact ⟨fun _ inside => absurd inside List.not_mem_nil, fun row chosen => (none row chosen).elim,
    fun row _ chosen => (none row chosen).elim, fun _ inside => absurd inside List.not_mem_nil⟩

variable (codec)

/-- The archive has a blob of the job that decompresses to the payload. -/
def Restored (s : State Bytes) (jobId : String) (payload : NormalizedRatesheet) : Prop :=
  ∃ blob, find (blobName jobId) s.archive = some blob ∧ codec.restored blob = some payload

/-- The output of the completed job is where it was, or gone with its payload archived. -/
structure Preserved (jobId : String) (output : OnrampOutput) (s : State Bytes) : Prop where
  completed : ∃ job, find jobId s.db.jobs = some job ∧ job.status = .completed
  kept : find jobId s.db.outputs = some output ∨
    find jobId s.db.outputs = none ∧ ∃ row, IsSelected s row ∧ row.jobId = jobId ∧
      row.payload = output.normalizedPayload ∧ Archived codec s row

/-- The step changes outputs alone, and those of jobs that the sweep may archive. -/
structure Spares (before : State Bytes) (event : Event) (after : State Bytes) : Prop where
  rest : after.db = { before.db with outputs := after.db.outputs }
  outputs : ∀ jobId, find jobId after.db.outputs ≠ find jobId before.db.outputs →
    ∃ number action sweep, event = .sweep number action ∧ before.sweeps[number]? = some sweep ∧
      Eligible before.db sweep.cutoff jobId

variable {codec}

theorem Archived.restored (archived : Archived codec s row) : Restored codec s row.jobId row.payload :=
  ⟨_, archived, codec.restored_gzipped row.payload⟩

theorem Preserved.carried {jobId : String} {output : OnrampOutput} (preserved : Preserved codec jobId output s)
    (inv : Inv codec s) (carries : Carries codec s s') : Preserved codec jobId output s' := by
  obtain ⟨job, found, completed⟩ := preserved.completed
  obtain ⟨stays, outcome⟩ := carries.completed jobId job found completed
  refine ⟨⟨job, stays, completed⟩, ?_⟩
  rcases preserved.kept with there | ⟨gone, row, chosen, same, payload, archived⟩
  · rcases outcome with unchanged | ⟨gone, row, chosen, same, archived⟩
    · exact .inl (unchanged.trans there)
    · have payload : output.normalizedPayload = row.payload := inv.current row chosen output (same ▸ there)
      exact .inr ⟨gone, row, carries.selected row chosen, same, payload.symm, archived⟩
  · have gone' : find jobId s'.db.outputs = none := by
      rcases outcome with unchanged | ⟨gone', _⟩
      · exact unchanged.trans gone
      · exact gone'
    exact .inr ⟨gone', row, carries.selected row chosen, same, payload, carries.archived row chosen archived⟩

theorem spares_of_step {event : Event} (inv : Inv codec s) (own : ∀ db, event ≠ .others db)
    (stepped : step codec s event = some s') : Spares s event s' := by
  cases happens_of_step stepped with
  | @others db => exact (own db rfl).elim
  | starts limit => exact ⟨rfl, fun _ changed => (changed rfl).elim⟩
  | stores started => exact ⟨rfl, fun _ changed => (changed rfl).elim⟩
  | @moves number action sweep sweep' next at_ acts =>
    have sound := inv.sweeps sweep (List.mem_of_getElem? at_)
    cases acts with
    | @deletes row here =>
      refine ⟨rfl, ?_⟩
      intro jobId changed
      have effect := find_deleteOutput row.jobId jobId s.db
      have same : jobId = row.jobId := by
        by_contra other
        rw [if_neg other] at effect
        exact changed effect
      have phase := sound.phase
      rw [here] at phase
      exact ⟨number, action, sweep, rfl, at_, same ▸ sound.eligible row phase.1⟩
    | begins | returns | appends | rests => exact ⟨rfl, fun _ changed => (changed rfl).elim⟩

theorem inv_of_run {events : List Event} {first : State Bytes} (start : Inv codec first)
    (alone : ∀ before event after, Takes (step codec) first events before event after → Alone before event) :
    (∀ last, run (step codec) first events = some last → Inv codec last) ∧
      ∀ before event after, Takes (step codec) first events before event after → Inv codec before :=
  invariant_of_run (Inv codec) Alone (fun _ _ _ inv alone stepped => (step_keeps inv alone stepped).1) events first start
    alone

theorem preserved_of_run {jobId : String} {output : OnrampOutput} {events : List Event} {middle last : State Bytes}
    (inv : Inv codec middle) (preserved : Preserved codec jobId output middle)
    (alone : ∀ before event after, Takes (step codec) middle events before event after → Alone before event)
    (reached : run (step codec) middle events = some last) : Preserved codec jobId output last := by
  refine ((invariant_of_run (fun s => Inv codec s ∧ Preserved codec jobId output s) Alone ?_ events middle
    ⟨inv, preserved⟩ alone).1 last reached).2
  intro s event next ⟨inv, preserved⟩ alone stepped
  obtain ⟨inv', carries⟩ := step_keeps inv alone stepped
  exact ⟨inv', preserved.carried inv carries⟩

variable (codec)

/-- Along any run, an output of a completed job stays in its row or is restored from the
    archive; a step of the archiver changes nothing but the outputs that its sweep may
    archive; and a candidate is archived and deleted. -/
theorem archiving_loses_nothing (db : Db) (archive : Table String Bytes) (events : List Event)
    (alone : ∀ before written after, Takes (step codec) (start db archive) events before (.others written) after →
      KeepsCompleted before.db written) :
    (∀ front back middle last, events = front ++ back → run (step codec) (start db archive) front = some middle →
      run (step codec) middle back = some last → ∀ jobId job output, find jobId middle.db.jobs = some job →
        job.status = .completed → find jobId middle.db.outputs = some output →
          find jobId last.db.outputs = some output ∨ Restored codec last jobId output.normalizedPayload) ∧
    (∀ before event after, Takes (step codec) (start db archive) events before event after →
      (∀ written, event ≠ .others written) → Spares before event after) ∧
    ∀ last, run (step codec) (start db archive) events = some last → ∀ sweep ∈ last.sweeps,
      ∀ candidate ∈ sweep.candidates, find candidate.jobId last.db.outputs = none ∧
        ∃ row ∈ sweep.rows, row.candidate = candidate ∧ Restored codec last candidate.jobId row.payload := by
  have meets : ∀ before event after, Takes (step codec) (start db archive) events before event after →
      Alone before event := by
    intro before event after taken
    cases event with
    | others written => exact alone before written after taken
    | start | sweep | stores => trivial
  obtain ⟨reach, along⟩ := inv_of_run (inv_start db archive) meets
  refine ⟨?_, ?_, ?_⟩
  · intro front back middle last split reached reached' jobId job output found completed present
    subst split
    have inv := (inv_of_run (inv_start db archive)
      (fun before event after taken => meets before event after (takes_front back taken))).1 middle reached
    have preserved := preserved_of_run inv ⟨⟨job, found, completed⟩, .inl present⟩
      (fun before event after taken => meets before event after (takes_back reached taken)) reached'
    rcases preserved.kept with there | ⟨_, row, _, rfl, payload, archived⟩
    · exact .inl there
    · exact .inr (payload ▸ archived.restored)
  · intro before event after taken own
    exact spares_of_step (along before event after taken) own (stepped_of_takes taken)
  · intro last reached sweep inside candidate listed
    obtain ⟨row, member, rfl, archived, gone⟩ := ((reach last reached).sweeps sweep inside).candidates candidate listed
    exact ⟨gone, row, member, rfl, archived.restored⟩

end

/-- A member of a gzip file by its first bytes and its content, and a JSON text by the record
    whose dump it is. -/
def memberCodec : Codec NormalizedRatesheet (List Nat × NormalizedRatesheet) where
  dumps := id
  loads := some
  compress text := ([0x1f, 0x8b], text)
  decompress member := if member.1 = [0x1f, 0x8b] then some member.2 else none
  loads_dumps _ := rfl
  decompress_compress _ := rfl

/-- `j1` was completed on New Year's Day, and `j2` has the status. -/
def twoJobs (status : JobStatusLiteral) : Db where
  jobs := [("j1", { sampleJob .completed with completedAt := some ⟨⟨2026, 1, 1⟩, 0⟩ }),
    ("j2", { sampleJob status with jobId := "j2", inputHash := "5891b5b522d5df08", completedAt := some sampleNow })]
  outputs := [("j1", outputRow (sampleSheet [] [])), ("j2", outputRow { sampleSheet [] [] with jobId := "j2" })]
  outbox := []
  nextOutboxId := 1
  scores := []
  auditLog := [auditRow "j1" .classified (.classified .excel 90)]
  reference := ⟨[], []⟩

/-- `j2` completes. The upload of the first sweep fails and is stored late, the second sweep
    crashes between upload and deletion, and the third goes through. -/
def failingSweeps : List Event :=
  [.others (twoJobs .completed),
    .start sampleNow 3, .sweep 0 (.upload 0), .sweep 0 (.raises (PyExc.mk' .timeoutError "")), .sweep 0 .finish,
    .start sampleNow 3, .sweep 1 (.upload 0), .stores 1, .sweep 1 .returns, .sweep 1 .crash, .stores 0,
    .start sampleNow 3, .sweep 2 (.upload 0), .stores 2, .sweep 2 .returns, .sweep 2 .delete, .sweep 2 .append,
    .sweep 2 .finish]

theorem failingSweeps_alone (before written after) (taken : Takes (step memberCodec) (start (twoJobs .validating) [])
    failingSweeps before (.others written) after) : KeepsCompleted before.db written := by
  cases taken with
  | here stepped =>
    intro jobId job found completed
    by_cases first : jobId = "j1"
    · subst first
      exact ⟨found, rfl⟩
    · by_cases second : jobId = "j2"
      · subst second
        cases found
        cases completed
      · have absent : find jobId (twoJobs .validating).jobs = none := by
          simp [twoJobs, find, Ne.symm first, Ne.symm second]
        rw [show (start (twoJobs .validating) ([] : Table String (List Nat × NormalizedRatesheet))).db =
          twoJobs .validating from rfl, absent] at found
        cases found
  | later _ taken => exact absurd (mem_of_takes taken) (by simp)

theorem failingSweeps_delete : (run (step memberCodec) (start (twoJobs .validating) []) failingSweeps).any
    (fun last => (find "j1" last.db.outputs).isNone) = true := by decide +kernel

theorem archiving_loses_nothing_failing : ∃ last,
    run (step memberCodec) (start (twoJobs .validating) []) failingSweeps = some last ∧
      find "j1" last.db.outputs = none ∧ Restored memberCodec last "j1" (sampleSheet [] []) := by
  obtain ⟨kept, _, _⟩ := archiving_loses_nothing memberCodec (twoJobs .validating) [] failingSweeps failingSweeps_alone
  obtain ⟨last, reached, deleted⟩ := (Option.any_eq_true _ _).mp failingSweeps_delete
  have gone : find "j1" last.db.outputs = none := Option.isNone_iff_eq_none.mp deleted
  refine ⟨last, reached, gone, ?_⟩
  rcases kept [] failingSweeps _ last rfl rfl reached "j1" _ _ rfl rfl rfl with there | restored
  · rw [gone] at there
    cases there
  · exact restored

end Onramp.Archive
