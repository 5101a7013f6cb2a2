import Onramp.Money
import Onramp.RoundTrip
import Onramp.StoredOutput
import Onramp.Conservation

/-!
The ratesheet of a job as the column stores it and as the delivery uploads it. Every date that a
stage takes over is one that the platform read, so the column of every state reads back as the
ratesheet that was written, and so does the uploaded text, which no order of the column changes.
-/
namespace Onramp.Artifact
open Onramp.Library.Keyed (find find_upsert_self find_upsert_other)
open Onramp.Library.Atomic
open Onramp.Python
open Onramp.Values
open Onramp.Models
open Onramp.Vertex
open Onramp.Schema
open Onramp.Edifact
open Onramp.Consensus
open Onramp.Normalizer
open Onramp.Stage4
open Onramp.Database
open Onramp.Tasks
open Onramp.TaskSpecs
open Onramp.Journey
open Onramp.AuditTrail
open Onramp.StoredFormat
open Onramp.RoundTrip
open Onramp.JsonText
open Onramp.LaneAccounting (survivingFlags_sublist)
open Onramp.StoredOutput
open Onramp.Settlement (pendingDb)

/-- The dates that the platform reads are days of the calendar. -/
structure ReadsCalendar (platform : Platform) : Prop where
  asDate : ∀ value d, platform.asDate value = some d → OnCalendar d
  dateFromIsoformat : ∀ s d, platform.dateFromIsoformat s = some d → OnCalendar d
  strptimeYmd : ∀ s d, platform.strptimeYmd s = some d → OnCalendar d

variable {platform : Platform} (calendar : ReadsCalendar platform)
include calendar

theorem laneRecord_dated {value : Json} {lane : LaneRecord} (read : laneRecord platform value = some lane) :
    DatedLane lane := by
  unfold laneRecord at read
  simp only [bind, Option.bind_eq_some_iff] at read
  obtain ⟨_, -, _, -, _, -, _, -, _, -, _, -, _, -, _, -, _, -, start, ⟨_, -, startRead⟩, finish, ⟨_, -, finishRead⟩, _, -,
    built⟩ := read
  obtain ⟨-, rfl⟩ := guarded_eq_some.mp built
  exact ⟨calendar.asDate _ _ startRead, calendar.asDate _ _ finishRead⟩

theorem modelValidate_dated {value : Json} {lane : LaneRecord}
    (read : modelValidate "LaneRecord" (laneRecord platform) value = .ok lane) : DatedLane lane := by
  unfold modelValidate at read
  split at read
  · next record =>
    cases read
    exact laneRecord_dated calendar record
  · cases read

theorem parseLidSegment_dated {elements : List Element} {sheetLabel : String} {rowIndex : Nat} {lane : LaneRecord}
    (returned : parseLidSegment platform elements sheetLabel rowIndex = .ok (some lane)) : DatedLane lane := by
  unfold parseLidSegment at returned
  simp only [bind, Except.bind, pure, Except.pure] at returned
  repeat' split at returned
  all_goals cases returned
  next built =>
  obtain ⟨-, rfl⟩ := checked_eq_ok.mp built
  exact ⟨calendar.dateFromIsoformat _ _ ‹_›, calendar.dateFromIsoformat _ _ ‹_›⟩

theorem disambiguateViaFlash_dated {services : Services} (same : services.platform = platform) {position : Nat}
    {segments : List Segment} {laneId : String} {lane : LaneRecord}
    (returned : disambiguateViaFlash services position segments laneId = .ok (some lane)) : DatedLane lane := by
  unfold disambiguateViaFlash at returned
  simp only at returned
  split at returned
  · next asked =>
    cases returned
    obtain ⟨response, -, asked⟩ := bind_eq_ok.mp asked
    split at asked
    · cases asked
    simp only [bind_eq_ok, pure_eq_ok, Option.some.injEq, same] at asked
    obtain ⟨parsed, -, _, read, rfl⟩ := asked
    exact modelValidate_dated calendar read
  · split at returned <;> cases returned

theorem parseDtmSegment_dated {elements : List Element} {d : Date} (read : (parseDtmSegment platform elements).2 = some d) :
    OnCalendar d := by
  unfold parseDtmSegment at read
  split at read
  · cases read
  · simp only at read
    split at read
    · split at read
      · cases read
      · exact calendar.strptimeYmd _ _ read
    · cases read

/-- The dates that are found are on the calendar. -/
def DatedPair (found : Option Date × Option Date) : Prop := (∀ d ∈ found.1, OnCalendar d) ∧ ∀ d ∈ found.2, OnCalendar d

theorem extractInterchangeValidity_dated (segments : List Segment) :
    DatedPair (extractInterchangeValidity platform segments) := by
  unfold extractInterchangeValidity
  refine List.foldlRecOn segments _ ⟨by simp, by simp⟩ ?_
  intro found dated segment _
  split
  · exact dated
  · split
    · next qualifier parsed read =>
      have onCalendar : OnCalendar parsed := parseDtmSegment_dated calendar (by rw [read])
      split_ifs
      · exact ⟨dated.1, by rintro _ ⟨⟩; exact onCalendar⟩
      · exact ⟨by rintro _ ⟨⟩; exact onCalendar, dated.2⟩
      · exact dated
    · exact dated

theorem recovered_dated {interchange : Option Date × Option Date} (dated : DatedPair interchange) (cluster : List Segment)
    {lane : LaneRecord} (own : DatedLane lane) : DatedLane (recovered platform interchange cluster lane) := by
  have dates := extractInterchangeValidity_dated calendar cluster
  have pick : ∀ (first second : Option Date) (third : Date), (∀ d ∈ first, OnCalendar d) → (∀ d ∈ second, OnCalendar d) →
      OnCalendar third → OnCalendar ((first.or second).getD third) := by
    intro first second third one two three
    cases first with
    | some d => exact one d rfl
    | none =>
      cases second with
      | some d => exact two d rfl
      | none => exact three
  exact ⟨pick _ _ _ dates.1 dated.1 own.1, pick _ _ _ dates.2 dated.2 own.2⟩

theorem laneClusters_dated {services : Services} (same : services.platform = platform) {sheetLabel : String}
    {interchange : Option Date × Option Date} (dated : DatedPair interchange) {position : Nat}
    {clusters : List (List Segment)} {lanes : List LaneRecord}
    (returned : laneClusters services sheetLabel interchange position clusters = .ok lanes) :
    ∀ lane ∈ lanes, DatedLane lane := by
  induction clusters generalizing position lanes with
  | nil =>
    cases returned
    simp
  | cons cluster rest ih =>
    obtain ⟨outcome, others, here, later, rfl⟩ := laneClusters_cons returned
    intro lane inside
    rcases List.mem_append.mp inside with own | other
    · rcases laneOf_eq_ok here with ⟨-, read⟩ | ⟨-, disambiguated, asked, rfl⟩
      · rw [Option.mem_toList.mp own, same] at read
        exact parseLidSegment_dated calendar read
      · obtain ⟨answer, rfl, rfl⟩ := Option.map_eq_some_iff.mp (Option.mem_toList.mp own)
        rw [same]
        exact recovered_dated calendar dated cluster (disambiguateViaFlash_dated calendar same asked)
    · exact ih later lane other

theorem allOf_dated {items : List Json} {lanes : List LaneRecord} (read : allOf (laneRecord platform) items = some lanes) :
    ∀ lane ∈ lanes, DatedLane lane := by
  intro lane inside
  obtain ⟨item, -, here⟩ := mem_right_of_forall₂ (allOf_forall.mp read) inside
  exact laneRecord_dated calendar here

omit calendar

theorem extractEdifactPayload_time {services : Services} {filePath : String} {readText : Raises String}
    {tokenize : String → Raises (List Segment)} {jobId prospectId : String} {now : DateTime} {rs : NormalizedRatesheet}
    {metadata : ExtractionMetadata}
    (returned : extractEdifactPayload services filePath readText tokenize jobId prospectId now = .ok (rs, metadata)) :
    metadata.extractedAt = now := by
  unfold extractEdifactPayload at returned
  simp only [bind_eq_ok] at returned
  obtain ⟨_, -, _, -, _, -, returned⟩ := returned
  split at returned
  · cases returned
  simp only [bind_eq_ok, pure_eq_ok, Prod.mk.injEq] at returned
  obtain ⟨_, counted, _, -, -, rfl⟩ := returned
  obtain ⟨-, rfl⟩ := checked_eq_ok.mp counted
  rfl

theorem extractFromCells_time {services : Services} {cells : List Cells.Cell} {jobId prospectId : String} {now : DateTime}
    {payload : NormalizedRatesheet} {metadata : ExtractionMetadata}
    (returned : Excel.extractFromCells services cells jobId prospectId now = .ok (payload, metadata)) :
    metadata.extractedAt = now := by
  unfold Excel.extractFromCells at returned
  simp only [bind_eq_ok, pure_eq_ok, Prod.mk.injEq] at returned
  obtain ⟨_, -, _, -, _, -, _, -, _, -, _, counted, _, -, -, rfl⟩ := returned
  obtain ⟨-, rfl⟩ := checked_eq_ok.mp counted
  rfl

include calendar

theorem extractPayload_dated {env : Env} (same : env.services.platform = platform) (clock : OnClock env.extractedAt)
    {jobId prospectId : String} {fmt : DetectedFormat} {payload : NormalizedRatesheet}
    (returned : extractPayload env jobId fmt prospectId = .ok payload) : Dated payload := by
  unfold extractPayload at returned
  split at returned
  · split at returned
    · next read =>
      cases returned
      obtain ⟨_, segments, lanes, -, -, clustered, -, sheet⟩ := extractEdifactPayload_eq_ok read
      have time := extractEdifactPayload_time read
      have interchange := extractInterchangeValidity_dated calendar segments
      have platforms : (env.services.stage 2).platform = platform := same
      rw [platforms] at clustered
      rw [sheet]
      refine ⟨laneClusters_dated calendar platforms interchange clustered, by simp, ?_, rfl⟩
      rw [time]
      exact clock
    · cases returned
  · split at returned
    · next read =>
      cases returned
      unfold Excel.extractExcelPayload at read
      obtain ⟨cells, -, extracted⟩ := bind_eq_ok.mp read
      have time := extractFromCells_time extracted
      obtain ⟨_, _, _, _, -, -, -, built⟩ := Excel.extractFromCells_eq_ok extracted
      obtain ⟨_, _, _, lanes, -, -, lanesRead, -, sheet⟩ := Excel.payloadOf_eq_ok built
      have platforms : (env.services.stage 2).platform = platform := same
      rw [platforms] at lanesRead
      rw [sheet]
      refine ⟨allOf_dated calendar lanesRead, by simp, ?_, rfl⟩
      rw [time]
      exact clock
    · cases returned

theorem voteOf_dated {empty : PyExc} {lane : LaneRecord} {sampleIndex temperatureTenths : Nat} {response : Response}
    {vote : EnsembleVote} (returned : voteOf platform empty lane sampleIndex temperatureTenths response = .ok vote) :
    DatedLane vote.lane := by
  unfold voteOf at returned
  simp only at returned
  split at returned
  · cases returned
  · simp only [bind_eq_ok] at returned
    obtain ⟨_, -, _, -, _, -, _, read, built⟩ := returned
    obtain ⟨-, rfl⟩ := checked_eq_ok.mp built
    exact modelValidate_dated calendar read

theorem oneProCall_dated {services : Services} (same : services.platform = platform) {position : Nat} {lane : LaneRecord}
    {sampleIndex temperatureTenths : Nat} {vote : EnsembleVote}
    (returned : oneProCall services position lane sampleIndex temperatureTenths = .ok vote) : DatedLane vote.lane := by
  unfold oneProCall at returned
  obtain ⟨attempt, asked⟩ := withRetry_ok returned
  obtain ⟨response, -, voted⟩ := bind_eq_ok.mp asked
  rw [same] at voted
  exact voteOf_dated calendar voted

omit calendar in
theorem selectedLane_validityStart (laneId : String) (first : EnsembleVote) (votes : List EnsembleVote) :
    (selectedLane laneId first votes).validityStart = (selectedVote first votes .validityStart).lane.validityStart := rfl

omit calendar in
theorem selectedLane_validityEnd (laneId : String) (first : EnsembleVote) (votes : List EnsembleVote) :
    (selectedLane laneId first votes).validityEnd = (selectedVote first votes .validityEnd).lane.validityEnd := rfl

/-- The lane of a consensus takes each of its dates from one of the votes. -/
theorem ensembleForLane_dated {services : Services} (same : services.platform = platform) {position : Nat}
    {lane chosen : LaneRecord} {consensus : ConsensusResult}
    (returned : ensembleForLane services position lane = .ok consensus) (selected : consensus.consensusLane = some chosen) :
    DatedLane chosen := by
  obtain ⟨votes, ⟨low, middle, high, first, second, third, rfl⟩, voted⟩ := Money.responses_of_ensemble returned
  have dated : ∀ vote ∈ [low, middle, high], DatedLane vote.lane := by
    intro vote inside
    simp only [List.mem_cons, List.not_mem_nil, or_false] at inside
    rcases inside with rfl | rfl | rfl
    · exact oneProCall_dated calendar same first
    · exact oneProCall_dated calendar same second
    · exact oneProCall_dated calendar same third
  obtain ⟨-, lane'⟩ := (consensusLane_iff voted chosen).mp selected
  have startVote := dated _ (selectedVote_mem low [middle, high] .validityStart)
  have endVote := dated _ (selectedVote_mem low [middle, high] .validityEnd)
  have start := selectedLane_validityStart lane.laneId low [low, middle, high]
  have finish := selectedLane_validityEnd lane.laneId low [low, middle, high]
  rw [← lane'] at start finish
  generalize selectedVote low [low, middle, high] .validityStart = vote at start startVote
  generalize selectedVote low [low, middle, high] .validityEnd = vote' at finish endVote
  unfold DatedLane
  rw [start, finish]
  exact ⟨startVote.1, endVote.2⟩

theorem normalizeEach_dated {services : Services} (same : services.platform = platform) {reference : Ports.Reference}
    {position : Nat} {lanes : List LaneRecord} {settled : List (ConsensusResult × LaneOutcome)}
    (dated : ∀ lane ∈ lanes, DatedLane lane)
    (returned : normalizeEach services reference position lanes = .ok settled) :
    ∀ entry ∈ settled, (∀ kept ∈ entry.2.keptLane, DatedLane kept) ∧ ∀ flag ∈ entry.2.flag, DatedLane flag.lane := by
  induction lanes generalizing position settled with
  | nil =>
    cases returned
    simp
  | cons lane rest ih =>
    obtain ⟨consensus, outcome, others, voted, moved, later, rfl⟩ := normalizeEach_cons returned
    obtain ⟨laneDated, restDated⟩ := List.forall_mem_cons.mp dated
    refine List.forall_mem_cons.mpr ⟨?_, ih restDated later⟩
    cases settleLane_settles moved with
    | noMajority => exact ⟨by rintro _ ⟨⟩, by rintro _ ⟨⟩; exact laneDated⟩
    | resolved selected =>
      have chosen := ensembleForLane_dated calendar same voted selected
      exact ⟨by rintro _ ⟨⟩; exact chosen, by rintro _ ⟨⟩⟩
    | passed selected => exact ⟨by rintro _ ⟨⟩; exact ensembleForLane_dated calendar same voted selected, by rintro _ ⟨⟩⟩
    | obfuscated selected => exact ⟨by rintro _ ⟨⟩, by rintro _ ⟨⟩; exact ensembleForLane_dated calendar same voted selected⟩

theorem normalizeLanes_dated {services : Services} (same : services.platform = platform) {reference : Ports.Reference}
    {now : DateTime} (clock : OnClock now) {extraction updated : NormalizedRatesheet} {results : List ConsensusResult}
    (dated : Dated extraction)
    (returned : normalizeLanes services reference now extraction = .ok (updated, results)) : Dated updated := by
  obtain ⟨settled, each, -, -, -⟩ := normalizeLanes_eq_ok returned
  have entries := normalizeEach_dated calendar same dated.lanes each
  unfold normalizeLanes at returned
  simp only [bind_eq_ok, pure_eq_ok, each, Except.ok.injEq, Prod.mk.injEq] at returned
  obtain ⟨_, -, _, rfl, rfl, -⟩ := returned
  refine ⟨?_, ?_, clock, dated.conformalScores⟩
  · intro kept inside
    obtain ⟨entry, among, keeps⟩ := List.mem_filterMap.mp inside
    exact (entries entry among).1 kept keeps
  · intro flag inside
    rcases List.mem_append.mp inside with old | new
    · exact dated.flaggedForReview flag old
    · obtain ⟨entry, among, flags⟩ := List.mem_filterMap.mp new
      exact (entries entry among).2 flag flags

omit calendar

theorem validateSheet_dated {inputs : Inputs} {normalized : NormalizedRatesheet} {result : Validated}
    (dated : Dated normalized) (returned : validateSheet inputs normalized = .ok result) : Dated result.sheet := by
  obtain ⟨_, _, _, scored, outcomes, sheet, -, -, -, -, scores, corrected⟩ := validateSheet_spec returned
  obtain ⟨scoredLanes, -⟩ := scoreLanes_spec scores
  obtain ⟨triedFlags, -⟩ := correctFlags_spec corrected
  rw [sheet]
  refine ⟨fun lane inside => dated.lanes lane (List.mem_of_mem_filter inside), ?_, dated.extractedAt, dated.conformalScores⟩
  intro flag inside
  rcases List.mem_append.mp inside with survives | low
  · have tried : flag ∈ outcomes.map Prod.fst := (survivingFlags_sublist outcomes).subset survives
    rw [triedFlags] at tried
    exact dated.flaggedForReview flag tried
  · obtain ⟨entry, among, rfl⟩ := List.mem_map.mp low
    have listed : entry.1 ∈ scored.map Prod.fst := List.mem_map_of_mem (List.mem_of_mem_filter among)
    rw [scoredLanes] at listed
    exact dated.lanes entry.1 (List.mem_of_mem_filter (List.mem_of_mem_filter listed))

/-- Every stored ratesheet is dated. -/
def AllDated (db : Db) : Prop := ∀ jobId row, find jobId db.outputs = some row → Dated row.normalizedPayload

/-- What an execution rests on: the platform reads dates of the calendar, and its clocks are clocks. -/
structure KeepsTime (env : Env) : Prop where
  calendar : ReadsCalendar env.services.platform
  extractedAt : OnClock env.extractedAt
  normalizedAt : OnClock env.normalizedAt

theorem getOutput_dated {db : Db} (dated : AllDated db) {jobId : String} {stored : NormalizedRatesheet}
    (loaded : db.getOutput jobId = .ok (some stored)) : Dated stored := by
  unfold Db.getOutput at loaded
  split at loaded
  · cases loaded
  · next row found =>
    simp only [bind_eq_ok, pure_eq_ok, Option.some.injEq] at loaded
    obtain ⟨payload, checkedPayload, rfl⟩ := loaded
    obtain ⟨-, rfl⟩ := checked_eq_ok.mp checkedPayload
    exact dated jobId row found

theorem offers_dated {env : Env} {jobId : String} {allowed : PyExc → Prop} {db : Db} {body : Body} {block : Block}
    {sheet : NormalizedRatesheet} (time : KeepsTime env) (dated : AllDated db)
    (offered : Offers env jobId allowed db body block) (writes : block.output = some sheet) : Dated sheet := by
  cases offered with
  | extracted _ _ outcome _ =>
    cases writes
    exact extractPayload_dated time.calendar rfl time.extractedAt outcome
  | normalized stored outcome =>
    cases writes
    have platforms : (env.services.stage 3).platform = env.services.platform := rfl
    exact normalizeLanes_dated time.calendar platforms time.normalizedAt (getOutput_dated dated stored) outcome
  | validated outcome =>
    cases writes
    obtain ⟨normalized, stored, validated⟩ := validateOutcome_spec env jobId outcome
    exact validateSheet_dated (getOutput_dated dated stored) validated
  | _ => cases writes

/-- Every state of a run has its ratesheets dated. -/
theorem performAll_dated {db : Db} (invocations : List Invocation) (start : AllDated db)
    (time : ∀ invocation ∈ invocations, KeepsTime invocation.env) :
    ∀ reached ∈ (performAll db invocations).states, AllDated reached := by
  refine performAll_invariant invocations start ?_
  intro invocation listed before block dated offered jobId row found
  rw [block_outputs] at found
  cases writes : block.output with
  | none =>
    rw [writes] at found
    exact dated jobId row found
  | some sheet =>
    rw [writes] at found
    by_cases same : jobId = invocation.jobId
    · subst same
      cases (find_upsert_self _ _ _).symm.trans found
      exact offers_dated (time invocation listed) dated offered writes
    · exact dated jobId row ((find_upsert_other same _ _).symm.trans found)

/-! ### The column and the upload -/

/-- `get_output` on a column that keeps what `column` makes of a dump. -/
def getOutputOfColumn (platform : Platform) (coercions : Coercions) (column : Json → Json) (db : Db) (jobId : String) :
    Raises (Option NormalizedRatesheet) :=
  match find jobId db.outputs with
  | none => .ok none
  | some row => do
    let payload ← modelValidate "NormalizedRatesheet" (normalizedRatesheet platform coercions)
      (column row.normalizedPayload.modelDump)
    return some payload

/-- The text that `deliver_upload_result` uploads for the job. -/
def deliverUploadResult (column : Json → Json) (db : Db) (jobId : String) : Raises (List Char) :=
  match find jobId db.outputs with
  | none => .error (PyExc.mk' .valueError s!"job {strRepr jobId} has no normalized_payload to upload")
  | some row => .ok (dumps (sortKeys (column row.normalizedPayload.modelDump)))

section
variable {coercions : Coercions} {column : Json → Json}

theorem getOutputOfColumn_eq (reads : ReadsTexts platform coercions) (reorders : Reorders column) {db : Db}
    (dated : AllDated db) (jobId : String) : getOutputOfColumn platform coercions column db jobId = db.getOutput jobId := by
  unfold getOutputOfColumn Db.getOutput
  cases found : find jobId db.outputs with
  | none => rfl
  | some row =>
    have restores := normalizedRatesheet_restores reads reorders (dated jobId row found)
    have same : modelValidate "NormalizedRatesheet" (normalizedRatesheet platform coercions)
        (column row.normalizedPayload.modelDump) =
          checked "NormalizedRatesheet" NormalizedRatesheet.Valid row.normalizedPayload := by
      unfold modelValidate checked
      by_cases valid : row.normalizedPayload.Valid
      · rw [(restores _).mpr ⟨valid, rfl⟩, if_pos valid]
      · rw [if_neg valid]
        cases read : normalizedRatesheet platform coercions (column row.normalizedPayload.modelDump) with
        | none => rfl
        | some result => exact absurd ((restores result).mp read).1 valid
    simp only [same]

theorem plainItems_map {α : Type} {write : α → Json} {values : List α} (each : ∀ value ∈ values, Plain (write value)) :
    PlainItems (values.map write) := by
  induction values with
  | nil => trivial
  | cons value rest ih =>
    obtain ⟨here, later⟩ := List.forall_mem_cons.mp each
    exact ⟨here, ih later⟩

theorem plain_laneRecord (lane : LaneRecord) : Plain lane.modelDump := by
  have surcharges : PlainItems (lane.surcharges.map SurchargeRecord.modelDump) := by
    refine plainItems_map fun surcharge _ => ?_
    simp [SurchargeRecord.modelDump, Plain, PlainMembers, Library.Keyed.keys]
  have commodity : Plain ((lane.commodityCode.map Json.str).getD .null) := by cases lane.commodityCode <;> trivial
  have transit : Plain ((lane.transitTimeDays.map Json.int).getD .null) := by cases lane.transitTimeDays <;> trivial
  simp [LaneRecord.modelDump_eq, PortCode.modelDump, SourceRow.modelDump, Plain, PlainMembers, Library.Keyed.keys, surcharges,
    commodity, transit]

theorem plain_modelDump {rs : NormalizedRatesheet} (dated : Dated rs) : Plain rs.modelDump := by
  have lanes : PlainItems (rs.lanes.map LaneRecord.modelDump) := plainItems_map fun lane _ => plain_laneRecord lane
  have flags : PlainItems (rs.flaggedForReview.map FlaggedLane.modelDump) := by
    refine plainItems_map fun flagged _ => ?_
    have lane := plain_laneRecord flagged.lane
    have confidence : Plain ((flagged.confidence.map fun d => Json.str d.str).getD .null) := by
      cases flagged.confidence <;> trivial
    simp [FlaggedLane.modelDump, Plain, PlainMembers, Library.Keyed.keys, lane, confidence]
  have rejections : PlainItems (rs.deterministicallyRejected.map RejectionRecord.modelDump) := by
    refine plainItems_map fun record _ => ?_
    simp [RejectionRecord.modelDump, SourceRow.modelDump, Plain, PlainMembers, Library.Keyed.keys]
  have violators : PlainItems (rs.shapeViolatingLanes.map ShapeViolatingLane.modelDump) := by
    refine plainItems_map fun violator _ => ?_
    simp [ShapeViolatingLane.modelDump, SourceRow.modelDump, Plain, PlainMembers, Library.Keyed.keys]
  simp [NormalizedRatesheet.modelDump, ExtractionMetadata.modelDump, Plain, PlainMembers, Library.Keyed.keys,
    dated.conformalScores, lanes, flags, rejections, violators]

/-- The text of a reordered dump is read back, and is the text of every other order. -/
theorem uploadedText (reads : ReadsTexts platform coercions) (reorders : Reorders column) (floatRepr : String → String)
    {rs : NormalizedRatesheet} (dated : Dated rs) (valid : rs.Valid) :
    (loads floatRepr (dumps (sortKeys (column rs.modelDump)))).bind (normalizedRatesheet platform coercions) = some rs ∧
      sortKeys (column rs.modelDump) = sortKeys rs.modelDump := by
  obtain ⟨canonical, plain⟩ := sortKeys_canonical reorders rs.modelDump (plain_modelDump dated)
  have sorted := (sortKeys_canonical sortKeys_reorders (column rs.modelDump) plain).2
  have restores := normalizedRatesheet_restores reads (reorders.comp sortKeys_reorders) dated
  refine ⟨?_, canonical⟩
  rw [loads_dumps floatRepr sorted]
  exact (restores rs).mpr ⟨valid, rfl⟩

end

/-- Every upload that is enqueued is one of a job with an output. -/
def Uploadable (db : Db) : Prop :=
  ∀ entry ∈ db.outbox, entry.eventType = .uploadResult → ∀ jobId bucket blobName,
    entry.payload = .uploadResult jobId bucket blobName → (find jobId db.outputs).isSome

theorem block_outbox (env : Env) (jobId : String) (db : Db) (block : Block) :
    ∀ entry ∈ (block.apply env jobId db).outbox, entry ∈ db.outbox ∨ (entry.eventType, entry.payload) ∈ block.events env jobId := by
  intro entry inside
  cases block <;>
    simp [Block.apply, Block.events, Blocks.classifiedDb, Blocks.extractedDb, Blocks.normalizedDb, Blocks.validatedDb,
      Blocks.failureDb, pushOutbox, outboxRow] at inside ⊢ <;>
    aesop

theorem Uploadable.apply {env : Env} {jobId : String} {db : Db} (uploadable : Uploadable db) (block : Block) :
    Uploadable (block.apply env jobId db) := by
  intro entry inside upload other bucket blobName payload
  rw [block_outputs]
  rcases block_outbox env jobId db block entry inside with old | new
  · have before := uploadable entry old upload other bucket blobName payload
    cases block.output with
    | none => exact before
    | some sheet =>
      by_cases same : other = jobId
      · subst same
        simp [find_upsert_self]
      · simpa [find_upsert_other same] using before
  · rw [upload, payload] at new
    cases block with
    | validated result slack =>
      obtain rfl : other = jobId := by
        simp [Block.events, Blocks.uploadPayload] at new
        exact new.1
      simp [Block.output, find_upsert_self]
    | _ => simp [Block.events] at new

theorem digitsValue_lt {digits : List Char} {n : Nat} (read : digitsValue digits = some n) : n < 10 ^ digits.length := by
  have folded : ∀ (digits : List Char) (start : Nat), (∀ c ∈ digits, c.isDigit = true) →
      digits.foldl (fun n c => 10 * n + (c.toNat - 48)) start < (start + 1) * 10 ^ digits.length := by
    intro digits
    induction digits with
    | nil => intro start _; simp
    | cons c rest ih =>
      intro start all
      obtain ⟨digit, others⟩ := List.forall_mem_cons.mp all
      have small : c.toNat - 48 ≤ 9 := by
        have upper : c.toNat ≤ 57 := by
          simp only [Char.isDigit, Bool.and_eq_true, decide_eq_true_eq, UInt32.le_iff_toNat_le] at digit
          exact digit.2
        omega
      have step := ih (10 * start + (c.toNat - 48)) others
      rw [List.foldl_cons, List.length_cons, pow_succ]
      have pos : 0 < 10 ^ rest.length := Nat.pow_pos (by decide)
      nlinarith
  unfold digitsValue at read
  split_ifs at read with all
  cases read
  have bound := folded digits 0 (List.all_eq_true.mp all.2)
  simpa using bound

theorem isoDate_onCalendar {s : String} {d : Date} (read : isoDate s = some d) : OnCalendar d := by
  unfold isoDate at read
  split at read
  · simp only [bind, Option.bind_eq_some_iff] at read
    obtain ⟨year, yearRead, month, -, day, -, built⟩ := read
    split_ifs at built with fits
    cases built
    have four : year < 10 ^ 4 := digitsValue_lt yearRead
    exact ⟨⟨fits.1, Nat.le_of_lt_succ four⟩, ⟨fits.2.1, fits.2.2.1⟩, fits.2.2.2⟩
  · cases read

theorem compactDate_onCalendar {s : String} {d : Date} (read : compactDate s = some d) : OnCalendar d := by
  unfold compactDate at read
  split at read
  · exact isoDate_onCalendar read
  · cases read

/-- The sample platform with every number that `str` writes. -/
def storedPlatform : Platform :=
  { LaneAccounting.samplePlatform with
    asDecimal := fun
      | .str s => decimalOf s.toList
      | value => LaneAccounting.samplePlatform.asDecimal value }

def storedCoercions : Coercions where
  asDateTime
    | .str s => zuluTime s.toList
    | _ => none
  asFloat
    | .float shown => some shown
    | _ => none

theorem stored_readsTexts : ReadsTexts storedPlatform storedCoercions := ⟨fun _ _ read => read, fun _ _ read => read, fun _ _ read => read⟩

theorem stored_readsCalendar : ReadsCalendar storedPlatform := by
  refine ⟨?_, fun _ _ => isoDate_onCalendar, fun _ _ => compactDate_onCalendar⟩
  intro value d read
  cases value with
  | str s => exact isoDate_onCalendar read
  | _ => cases read

/-- The message is staged where the platform reads what is written. -/
def storedEnv : Env :=
  { Settlement.pricatEnv with services := { Settlement.pricatEnv.services with platform := storedPlatform } }

theorem stored_keepsTime : KeepsTime storedEnv := ⟨stored_readsCalendar, by decide, by decide⟩

/-- The four tasks for the message. -/
def storedRun : List Invocation :=
  [.classify, .extract .edifact, .normalize, .validate].map fun body => ⟨storedEnv, "j1", body, []⟩

theorem storedRun_keepsTime : ∀ invocation ∈ storedRun, KeepsTime invocation.env := by
  intro invocation listed
  obtain ⟨body, -, rfl⟩ := List.mem_map.mp listed
  exact stored_keepsTime

/-- The uploads of a database: the text of every output is read back as its ratesheet, whatever the order of the column
    the texts are the same, and every upload that is enqueued has one. -/
structure Uploads (platform : Platform) (coercions : Coercions) (floatRepr : String → String) (column : Json → Json)
    (db : Db) : Prop where
  restored : ∀ jobId row, find jobId db.outputs = some row → ∃ text, deliverUploadResult column db jobId = .ok text ∧
    (loads floatRepr text).bind (normalizedRatesheet platform coercions) = some row.normalizedPayload
  canonical : ∀ other, Reorders other → ∀ jobId, deliverUploadResult other db jobId = deliverUploadResult column db jobId
  enqueued : ∀ entry ∈ db.outbox, entry.eventType = .uploadResult → ∀ jobId bucket blobName,
    entry.payload = .uploadResult jobId bucket blobName → ∃ text, deliverUploadResult column db jobId = .ok text

theorem pendingDb_uploadable : Uploadable pendingDb := by
  intro entry inside upload
  rw [List.mem_singleton.mp inside] at upload
  cases upload

/-- The run ends with an output and with its upload in the outbox. -/
theorem storedRun_uploads : (performAll pendingDb storedRun).committed.outputs.length = 1 ∧
    (performAll pendingDb storedRun).committed.outbox.countP (fun entry => entry.eventType = .uploadResult) = 1 := by
  decide +kernel

end Onramp.Artifact
