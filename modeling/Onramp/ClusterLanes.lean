import Onramp.LinParsing

/-!
From clusters to lanes. A cluster that is not read deterministically has a lane when the model
answers with one, and is left out of the sheet otherwise, without a record.
-/
namespace Onramp.ClusterLanes
open Onramp.Python
open Onramp.Values
open Onramp.Models
open Onramp.Schema
open Onramp.Vertex
open Onramp.Edifact

variable {services : Services} {sheetLabel : String} {interchange : Option Date × Option Date}

/-- The loop collects the lanes of the clusters, in order. -/
theorem laneClusters_run {position : Nat} {clusters : List (List Segment)} {lanes : List LaneRecord}
    (returned : laneClusters services sheetLabel interchange position clusters = .ok lanes) :
    ∃ outcomes, List.Forall₂ (fun entry outcome => laneOf services sheetLabel interchange entry.2 entry.1 = .ok outcome)
      (clusters.zipIdx position) outcomes ∧ lanes = outcomes.reduceOption := by
  induction clusters generalizing position lanes with
  | nil =>
    cases returned
    exact ⟨[], .nil, rfl⟩
  | cons cluster rest ih =>
    obtain ⟨outcome, others, here, later, rfl⟩ := laneClusters_cons returned
    obtain ⟨outcomes, walked, rfl⟩ := ih later
    refine ⟨outcome :: outcomes, .cons here walked, ?_⟩
    cases outcome <;> rfl

/-- A flagged or a rejected record of the sheet cites the row. -/
def Cited (rs : NormalizedRatesheet) (rowNumber : Nat) : Prop :=
  (∃ flagged ∈ rs.flaggedForReview, flagged.lane.sourceRowReference.rowNumber = rowNumber) ∨
    (∃ record ∈ rs.deterministicallyRejected, record.sourceRowReference.rowNumber = rowNumber) ∨
    ∃ violator ∈ rs.shapeViolatingLanes, violator.sourceRowReference.rowNumber = rowNumber

/-- Every cluster has a lane of its own in the sheet, in order, or else a record that cites its
    row. -/
def Accounted (services : Services) (sheetLabel : String) (interchange : Option Date × Option Date)
    (clusters : List (List Segment)) (rs : NormalizedRatesheet) : Prop :=
  ∃ outcomes, List.Forall₂ (fun entry outcome => laneOf services sheetLabel interchange entry.2 entry.1 = .ok outcome ∧
      (outcome = none → Cited rs (entry.2 + 1))) clusters.zipIdx outcomes ∧
    outcomes.reduceOption.Sublist rs.lanes

/-- What the model is asked about a cluster. -/
def flashRequest (services : Services) (cluster : List Segment) (laneId : String) : Request :=
  { model := "gemini-3.1-flash-lite", temperature := "0.0",
    contents := s!"Cluster lane_id={laneId}\nSegments:\n" ++
      services.platform.jsonDumps (.arr (cluster.map segmentToDict)) ++ "\nReturn one LaneRecord JSON." }

/-- The model answers with the JSON text of a lane that meets the schema. -/
def FlashReads (services : Services) (position : Nat) (cluster : List Segment) : Prop :=
  ∃ response text value lane,
    services.generate (flashRequest services cluster s!"edi-row-{position + 1}") [position] = .ok response ∧
    response.text = some text ∧ text ≠ "" ∧ services.platform.jsonLoads text = .ok value ∧
    laneRecord services.platform value = some lane

/-- The model reads every cluster that the deterministic parse leaves to it. -/
def FlashReadsRest (services : Services) (sheetLabel : String) (clusters : List (List Segment)) : Prop :=
  ∀ entry ∈ clusters.zipIdx, parseLidSegment services.platform (elementsOf entry.1) sheetLabel (entry.2 + 1) = .ok none →
    FlashReads services entry.2 entry.1

theorem flashReads_iff {position : Nat} {cluster : List Segment} : FlashReads services position cluster ↔
    ∃ lane, disambiguateViaFlash services position cluster s!"edi-row-{position + 1}" = .ok (some lane) := by
  unfold FlashReads
  generalize s!"edi-row-{position + 1}" = laneId
  constructor
  · rintro ⟨response, text, value, lane, answered, written, filled, loaded, read⟩
    refine ⟨lane, ?_⟩
    unfold flashRequest at answered
    simp [disambiguateViaFlash, answered, written, filled, loaded, read, modelValidate, bind, Except.bind, pure,
      Except.pure]
  · rintro ⟨lane, returned⟩
    unfold disambiguateViaFlash at returned
    simp only at returned
    split at returned
    · next lane' asked =>
      cases returned
      obtain ⟨response, answered, asked⟩ := bind_eq_ok.mp asked
      split at asked
      · cases asked
      next filled =>
      simp only [bind_eq_ok, pure_eq_ok, Option.some.injEq] at asked
      obtain ⟨value, loaded, _, validated, rfl⟩ := asked
      unfold modelValidate at validated
      split at validated
      · next read =>
        cases validated
        cases written : response.text with
        | none => simp [written] at filled
        | some text =>
          rw [written, Option.getD_some] at filled loaded
          exact ⟨response, text, value, _, answered, written, filled, loaded, read⟩
      · cases validated
    · split at returned <;> cases returned

/-- When a ratesheet is returned, every cluster is accounted for in it if and only if the model reads
    every cluster that the deterministic parse leaves to it. -/
theorem clusters_accounted_iff (services : Services) (filePath raw : String) (segments : List Segment)
    (readText : Raises String) (tokenize : String → Raises (List Segment)) (jobId prospectId : String) (now : DateTime)
    (rs : NormalizedRatesheet) (metadata : ExtractionMetadata) (read : readText = .ok raw)
    (tokenized : tokenize raw = .ok segments)
    (returned : extractEdifactPayload services filePath readText tokenize jobId prospectId now = .ok (rs, metadata)) :
    Accounted services (pathStem filePath) (extractInterchangeValidity services.platform segments)
        (clustersFrom [] segments) rs ↔
      FlashReadsRest services (pathStem filePath) (clustersFrom [] segments) := by
  obtain ⟨raw', segments', lanes, read', tokenized', clustered, -, sheet⟩ := extractEdifactPayload_eq_ok returned
  obtain rfl : raw = raw' := Except.ok.inj (read.symm.trans read')
  obtain rfl : segments = segments' := Except.ok.inj (tokenized.symm.trans tokenized')
  obtain ⟨outcomes, walked, rfl⟩ := laneClusters_run clustered
  have uncited : ∀ number, ¬ Cited rs number := by
    intro number cited
    rw [sheet] at cited
    rcases cited with ⟨_, none, _⟩ | ⟨_, none, _⟩ | ⟨_, none, _⟩ <;> cases none
  constructor
  · rintro ⟨outcomes', accounted, -⟩ entry inside unread
    obtain ⟨outcome, -, here, own⟩ := mem_left_of_forall₂ accounted inside
    rcases laneOf_eq_ok here with ⟨some, parsed⟩ | ⟨-, disambiguated, asked, same⟩
    · rw [unread] at parsed
      cases parsed
      cases some
    · cases disambiguated with
      | none => exact absurd (own same) (uncited _)
      | some lane => exact flashReads_iff.mpr ⟨lane, asked⟩
  · intro reads
    have each := (List.forall₂_and_left _ _).mpr ⟨reads, walked⟩
    refine ⟨outcomes, each.imp ?_, by rw [sheet]⟩
    rintro entry outcome ⟨answers, here⟩
    refine ⟨here, ?_⟩
    rintro rfl
    rcases laneOf_eq_ok here with ⟨some, -⟩ | ⟨unread, disambiguated, asked, same⟩
    · cases some
    · obtain ⟨lane, answered⟩ := flashReads_iff.mp (answers unread)
      rw [asked] at answered
      cases answered
      cases same

/-- A model that runs into the timeout of every call. -/
def silentServices : Services where
  platform := LinParsing.edifactPlatform
  client _ := .ok ()
  generate _ _ := .error timeoutError
  expires _ := false

/-- The second LIN has no fields at all. -/
def halfReadable : List Segment :=
  [⟨"UNH", [.text "1"]⟩, ⟨"LIN", LinParsing.sampleElements "NLRTM"⟩, ⟨"LIN", []⟩, ⟨"UNT", [.text "4"]⟩]

def readLane : LaneRecord :=
  ⟨"edi-row-1", ⟨"NLRTM"⟩, ⟨"USNYC"⟩, .hc40, none, Decimal.ofNat 2100, [], none, ⟨2026, 1, 1⟩, ⟨2026, 6, 30⟩,
    ⟨"rates", 1, "LIN:1"⟩⟩

def extracted : ExtractionMetadata := ⟨"gemini-3.1-flash-lite", ⟨⟨2026, 6, 1⟩, 0⟩, "stage2.edifact.v1", 4⟩

/-- A sheet of one lane, for an interchange of two. -/
def halfSheet : NormalizedRatesheet :=
  { jobId := "j1", prospectId := "acme", extractionMetadata := extracted, lanes := [readLane], conformalScores := [],
    flaggedForReview := [], deterministicallyRejected := [], shapeViolatingLanes := [], schemaVersion := "onramp.v1" }

theorem halfReadable_extracted :
    extractEdifactPayload silentServices "rates.edi" (.ok "UNB") (fun _ => .ok halfReadable) "j1" "acme"
      ⟨⟨2026, 6, 1⟩, 0⟩ = .ok (halfSheet, extracted) := by
  decide +kernel

/-- The call for the second cluster times out, and the sheet of the first is returned without it. -/
theorem unanswered_cluster_dropped :
    extractEdifactPayload silentServices "rates.edi" (.ok "UNB") (fun _ => .ok halfReadable) "j1" "acme"
        ⟨⟨2026, 6, 1⟩, 0⟩ = .ok (halfSheet, extracted) ∧
      ¬ Accounted silentServices (pathStem "rates.edi") (extractInterchangeValidity silentServices.platform halfReadable)
        (clustersFrom [] halfReadable) halfSheet := by
  refine ⟨halfReadable_extracted, ?_⟩
  rintro ⟨outcomes, accounted, -⟩
  have clusters : (clustersFrom [] halfReadable).zipIdx =
      [([⟨"LIN", LinParsing.sampleElements "NLRTM"⟩], 0), ([⟨"LIN", []⟩], 1)] := by decide
  have unanswered : laneOf silentServices (pathStem "rates.edi")
      (extractInterchangeValidity silentServices.platform halfReadable) 1 [⟨"LIN", []⟩] = .ok none := by decide +kernel
  rw [clusters] at accounted
  cases accounted with
  | cons _ later =>
  cases later with
  | cons second _ =>
  have none := Except.ok.inj (second.1.symm.trans unanswered)
  rcases second.2 none with ⟨_, inside, _⟩ | ⟨_, inside, _⟩ | ⟨_, inside, _⟩ <;> cases inside

theorem clusters_accounted_iff_half :
    Accounted silentServices (pathStem "rates.edi") (extractInterchangeValidity silentServices.platform halfReadable)
        (clustersFrom [] halfReadable) halfSheet ↔
      FlashReadsRest silentServices (pathStem "rates.edi") (clustersFrom [] halfReadable) :=
  clusters_accounted_iff silentServices "rates.edi" "UNB" halfReadable (.ok "UNB") (fun _ => .ok halfReadable) "j1" "acme"
    ⟨⟨2026, 6, 1⟩, 0⟩ halfSheet extracted rfl rfl halfReadable_extracted

end Onramp.ClusterLanes
