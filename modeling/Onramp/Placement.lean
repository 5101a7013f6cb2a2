import Onramp.Library.Partition
import Onramp.LaneAccounting

/-!
Where Stage 3 puts the lanes: each goes on or is flagged, in the order of the extraction,
and a lane goes on only with ports that the reference table has.
-/
namespace Onramp.Placement
open Onramp.Library.Keyed (Table find mem_of_find)
open Onramp.Library.Partition
open Onramp.Python
open Onramp.Values
open Onramp.Models
open Onramp.Vertex
open Onramp.Ports
open Onramp.Normalizer
open Onramp.LaneAccounting (sampleNow sampleSheet sampleLane)

variable {services : Services} {reference : Reference} {now : DateTime} {extraction updated : NormalizedRatesheet}
  {results : List ConsensusResult}

/-- What Stage 3 leaves as it was. -/
structure Untouched (extraction updated : NormalizedRatesheet) : Prop where
  jobId : updated.jobId = extraction.jobId
  prospectId : updated.prospectId = extraction.prospectId
  deterministicallyRejected : updated.deterministicallyRejected = extraction.deterministicallyRejected
  conformalScores : updated.conformalScores = extraction.conformalScores
  shapeViolatingLanes : updated.shapeViolatingLanes = extraction.shapeViolatingLanes
  schemaVersion : updated.schemaVersion = extraction.schemaVersion

theorem normalizeLanes_untouched (returned : normalizeLanes services reference now extraction = .ok (updated, results)) :
    Untouched extraction updated := by
  unfold normalizeLanes at returned
  simp only [bind_eq_ok, pure_eq_ok, Prod.mk.injEq] at returned
  obtain ⟨_, -, _, -, rfl, -⟩ := returned
  exact ⟨rfl, rfl, rfl, rfl, rfl, rfl⟩

/-- Where `normalize_lanes` returns, every lane goes on or gives a new flag, in the order of the
    extraction and with its id, and every lane has its consensus. -/
theorem normalize_partitions (services : Services) (reference : Reference) (now : DateTime)
    (extraction updated : NormalizedRatesheet) (results : List ConsensusResult)
    (returned : normalizeLanes services reference now extraction = .ok (updated, results)) :
    (∃ flags, updated.flaggedForReview = extraction.flaggedForReview ++ flags ∧
      Dealt (fun (lane kept : LaneRecord) => kept.laneId = lane.laneId)
        (fun lane (flag : FlaggedLane) => flag.lane.laneId = lane.laneId) extraction.lanes updated.lanes flags) ∧
    List.Forall₂ (fun (lane : LaneRecord) (consensus : ConsensusResult) => consensus.laneId = lane.laneId)
      extraction.lanes results ∧
    Untouched extraction updated := by
  obtain ⟨settled, each, lanes, flags, rfl⟩ := normalizeLanes_eq_ok returned
  have walked := normalizeEach_spec each
  refine ⟨⟨_, flags, ?_⟩, ?_, normalizeLanes_untouched returned⟩
  · rw [lanes]
    refine dealt_of_forall₂ walked ?_
    rintro lane ⟨consensus, outcome⟩ ⟨-, -, named⟩
    cases outcome with
    | kept kept => exact .inl ⟨kept, rfl, rfl, named⟩
    | flagged flag => exact .inr ⟨flag, rfl, rfl, named⟩
  · rw [List.forall₂_map_right_iff]
    exact walked.imp fun _ _ settled => settled.2.1

/-- A reply about a lane, with this origin. -/
def portReply (origin : String) : Json :=
  .obj [("lane_id", .str "L1"), ("origin_port", .obj [("code", .str origin)]),
    ("destination_port", .obj [("code", .str "USNYC")]), ("equipment_type", .str "40HC"), ("base_rate_usd", .int 100),
    ("validity_start", .str "2027-01-01"), ("validity_end", .str "2027-12-31")]

/-- The samples name a carrier's alias in the first lane, differ in the origin of the second, and name an unknown code
    in the third. -/
def dealtReply : List Nat → Json
  | 0 :: _ => portReply "SHACY"
  | 1 :: sample :: _ => portReply (["USNYC", "CNSHA", "SHACY"].getD sample "")
  | _ => portReply "ZZZZZ"

def dealtServices : Services where
  platform := asciiPlatform ((["USNYC", "CNSHA", "SHACY", "ZZZZZ"].map portReply).map fun reply => (reply.render "", reply))
    sampleDigest sampleDigest_length
  client _ := .ok ()
  generate _ place := .ok { text := some ((dealtReply place).render ""), candidates := [] }
  expires _ := false

def dealtReference : Reference := ⟨["USNYC", "CNSHA"], [("SHACY", "CNSHA")]⟩

def dealtSheet : NormalizedRatesheet :=
  sampleSheet (["L1", "L2", "L3"].map fun laneId => { sampleLane 100 none with laneId := laneId }) []

theorem dealtSheet_returns : ∃ returned,
    normalizeLanes dealtServices dealtReference sampleNow dealtSheet = .ok returned ∧
      (returned.1.lanes.map (fun lane => (lane.laneId, lane.originPort.code)),
        returned.1.flaggedForReview.map (fun flag => (flag.lane.laneId, flag.reason))) =
      ([("L1", "CNSHA")], [("L2", .noMajority), ("L3", .portObfuscationUnresolved)]) :=
  eq_ok_of_toOption_map (by decide +kernel)

theorem normalize_partitions_dealt : ∃ updated results,
    normalizeLanes dealtServices dealtReference sampleNow dealtSheet = .ok (updated, results) ∧
    (∃ flags, updated.flaggedForReview = dealtSheet.flaggedForReview ++ flags ∧
      Dealt (fun (lane kept : LaneRecord) => kept.laneId = lane.laneId)
        (fun lane (flag : FlaggedLane) => flag.lane.laneId = lane.laneId) dealtSheet.lanes updated.lanes flags) ∧
    List.Forall₂ (fun (lane : LaneRecord) (consensus : ConsensusResult) => consensus.laneId = lane.laneId)
      dealtSheet.lanes results ∧
    Untouched dealtSheet updated := by
  obtain ⟨⟨updated, results⟩, returned, -⟩ := dealtSheet_returns
  exact ⟨updated, results, returned, normalize_partitions dealtServices dealtReference sampleNow dealtSheet updated results returned⟩

/-- The characters of a code are ASCII, no spaces, and have no upper case of their own. -/
theorem codeChar {c : Char} (shaped : isUpperOrDigit c = true) : c.toNat < 128 ∧ isSpace c = false ∧ c.toUpper = c := by
  have range : (65 ≤ c.toNat ∧ c.toNat ≤ 90) ∨ (48 ≤ c.toNat ∧ c.toNat ≤ 57) := by
    simpa [isUpperOrDigit, isUpper] using shaped
  refine ⟨by omega, ?_, ?_⟩
  · simp only [isSpace, Bool.or_eq_false_iff, Bool.and_eq_false_iff, decide_eq_false_iff_not]
    omega
  · unfold Char.toUpper
    rw [dif_neg]
    rintro ⟨low, -⟩
    have small : 97 ≤ c.toNat := UInt32.le_iff_toNat_le.mp low
    omega

theorem codeChars_of_exact {s : String} (exact : unlocodeExact s = true) : ∀ c ∈ s.toList, isUpperOrDigit c = true := by
  unfold unlocodeExact at exact
  split at exact
  · next a b c d e five =>
    rw [five]
    simp only [unlocodeChars, Bool.and_eq_true] at exact
    obtain ⟨⟨⟨⟨first, second⟩, third⟩, fourth⟩, fifth⟩ := exact
    simp [isUpperOrDigit, first, second] at third fourth fifth ⊢
    exact ⟨third, fourth, fifth⟩
  · cases exact

theorem strip_of_exact {s : String} (exact : unlocodeExact s = true) : strip s = s := by
  have chars := codeChars_of_exact exact
  have front : s.toList.dropWhile isSpace = s.toList := by
    cases listed : s.toList with
    | nil => rfl
    | cons c rest =>
      rw [List.dropWhile_cons_of_neg]
      simp [(codeChar (chars c (by simp [listed]))).2.1]
  have back : s.toList.reverse.dropWhile isSpace = s.toList.reverse := by
    cases listed : s.toList.reverse with
    | nil => rfl
    | cons c rest =>
      have inside : c ∈ s.toList := by
        rw [← List.mem_reverse, listed]
        exact List.mem_cons_self
      rw [List.dropWhile_cons_of_neg]
      simp [(codeChar (chars c inside)).2.1]
  rw [strip, front, back, List.reverse_reverse, String.ofList_toList]

theorem upper_of_exact (platform : Platform) {s : String} (exact : unlocodeExact s = true) : platform.upper s = s := by
  have chars := codeChars_of_exact exact
  rw [platform.upper_ascii s (fun c inside => (codeChar (chars c inside)).1)]
  have same : s.toList.map Char.toUpper = s.toList := by
    refine (List.map_congr_left (g := id) ?_).trans (List.map_id _)
    intro c inside
    exact (codeChar (chars c inside)).2.2
  rw [same, String.ofList_toList]

/-- The code is in the reference table, and is the upper-cased raw code itself, its image under
    the alias table or its image under the IATA fallback. -/
def Anchored (platform : Platform) (reference : Reference) (raw code : String) : Prop :=
  code ∈ reference.unLocodeReference ∧
    (code = platform.upper raw ∨ find (platform.upper raw) reference.carrierPortAliases = some code ∨
      find (platform.upper raw) iataFallback = some code)

theorem lookupCanonicalCode_eq_some {platform : Platform} {code found : String}
    (listed : lookupCanonicalCode platform reference code = some found) :
    found ∈ reference.unLocodeReference ∧ found = platform.upper code :=
  ⟨List.mem_of_find?_eq_some listed, by simpa using List.find?_some listed⟩

/-- The targets of the aliases are rows of the reference table. -/
def ForeignKey (reference : Reference) : Prop := ∀ row ∈ reference.carrierPortAliases, row.2 ∈ reference.unLocodeReference

/-- A schema-valid code is resolved into the reference table. -/
theorem resolvePortCode_anchored {platform : Platform} (foreignKey : ForeignKey reference) {raw : String}
    (exact : unlocodeExact raw = true) {resolved : ResolvedPortCode} {port : PortCode}
    (returned : resolvePortCode platform reference raw = .ok resolved) (found : resolved.canonical = some port) :
    Anchored platform reference raw port.code := by
  have candidate : platform.upper (strip raw) = raw := by rw [strip_of_exact exact, upper_of_exact platform exact]
  have upper := upper_of_exact platform exact
  unfold resolvePortCode at returned
  simp only [candidate] at returned
  split at returned
  · next code direct =>
    obtain ⟨-, -, rfl⟩ := resolvedTo_eq_ok.mp returned
    cases found
    unfold directHit at direct
    split at direct
    · obtain ⟨listed, same⟩ := lookupCanonicalCode_eq_some direct
      exact ⟨listed, .inl same⟩
    · cases direct
  · split at returned
    · next code aliased =>
      obtain ⟨-, -, rfl⟩ := resolvedTo_eq_ok.mp returned
      cases found
      exact ⟨foreignKey _ (mem_of_find aliased), .inr (.inl aliased)⟩
    · split at returned
      · next code fallback =>
        unfold iataHit at fallback
        split at fallback
        · next three =>
          have five := length_of_exact exact
          omega
        · cases fallback
      · obtain ⟨-, rfl⟩ := checked_eq_ok.mp returned
        cases found

/-- The lane goes on from a consensus lane, with ports that are anchored to those of it. -/
def KeptAnchored (platform : Platform) (reference : Reference) (consensus : ConsensusResult) (kept : LaneRecord) : Prop :=
  ∃ chosen, consensus.consensusLane = some chosen ∧
    kept = { chosen with originPort := kept.originPort, destinationPort := kept.destinationPort } ∧
    Anchored platform reference chosen.originPort.code kept.originPort.code ∧
    Anchored platform reference chosen.destinationPort.code kept.destinationPort.code

/-- The flag is for a lane without a majority, or for a consensus lane whose ports are not resolved. -/
def FlaggedFor (lane : LaneRecord) (consensus : ConsensusResult) (flag : FlaggedLane) : Prop :=
  (consensus.consensusLane = none ∧ flag = ⟨lane, .noMajority, none⟩) ∨
    ∃ chosen, consensus.consensusLane = some chosen ∧ flag = ⟨chosen, .portObfuscationUnresolved, none⟩

theorem settleLane_anchored (foreignKey : ForeignKey reference) {lane : LaneRecord} {consensus : ConsensusResult}
    (valid : consensus.Valid) {outcome : LaneOutcome} (settled : settleLane services reference lane consensus = .ok outcome) :
    (∃ kept, outcome = .kept kept ∧ KeptAnchored services.platform reference consensus kept) ∨
      ∃ flag, outcome = .flagged flag ∧ FlaggedFor lane consensus flag := by
  cases settleLane_settles settled with
  | noMajority none => exact .inr ⟨_, rfl, .inl ⟨none, rfl⟩⟩
  | resolved selected originRead destinationRead originFound destinationFound =>
    have ports := valid.2.2 _ selected
    exact .inl ⟨_, rfl, _, selected, rfl, resolvePortCode_anchored foreignKey ports.originPort originRead originFound,
      resolvePortCode_anchored foreignKey ports.destinationPort destinationRead destinationFound⟩
  | passed selected shapeless =>
    -- The ports of a schema-valid lane have the shape, so the lane is not passed through.
    have ports := valid.2.2 _ selected
    have origin := unlocodeMatch_of_exact ports.originPort
    have destination := unlocodeMatch_of_exact ports.destinationPort
    rw [origin, destination] at shapeless
    simp at shapeless
  | obfuscated selected => exact .inr ⟨_, rfl, .inr ⟨_, selected, rfl⟩⟩

/-- Each lane is settled with its ports anchored, or is flagged. -/
theorem normalizeEach_anchored (foreignKey : ForeignKey reference) {position : Nat} {lanes : List LaneRecord}
    {settled : List (ConsensusResult × LaneOutcome)}
    (returned : normalizeEach services reference position lanes = .ok settled) :
    List.Forall₂ (fun (lane : LaneRecord) (entry : ConsensusResult × LaneOutcome) =>
      (∃ kept, entry.2 = .kept kept ∧ KeptAnchored services.platform reference entry.1 kept) ∨
        ∃ flag, entry.2 = .flagged flag ∧ FlaggedFor lane entry.1 flag) lanes settled := by
  induction lanes generalizing position settled with
  | nil =>
    cases returned
    exact .nil
  | cons lane rest ih =>
    obtain ⟨consensus, outcome, others, voted, moved, later, rfl⟩ := normalizeEach_cons returned
    exact .cons (settleLane_anchored foreignKey (ensembleForLane_spec voted).1 moved) (ih later)

/-- A lane that goes on has both ports in the reference table, each the upper-cased code of its consensus or the
    image of it; every other lane is flagged. -/
theorem kept_ports_anchored (services : Services) (reference : Reference) (now : DateTime)
    (extraction updated : NormalizedRatesheet) (results : List ConsensusResult) (foreignKey : ForeignKey reference)
    (returned : normalizeLanes services reference now extraction = .ok (updated, results)) :
    (∀ lane ∈ updated.lanes, lane.originPort.code ∈ reference.unLocodeReference ∧
      lane.destinationPort.code ∈ reference.unLocodeReference) ∧
    extraction.lanes.length = results.length ∧
    ∃ flags, updated.flaggedForReview = extraction.flaggedForReview ++ flags ∧
      Dealt (fun entry kept => KeptAnchored services.platform reference entry.2 kept)
        (fun entry flag => FlaggedFor entry.1 entry.2 flag) (extraction.lanes.zip results) updated.lanes flags := by
  obtain ⟨settled, each, lanes, flags, rfl⟩ := normalizeLanes_eq_ok returned
  have walked := normalizeEach_anchored foreignKey each
  have dealt : Dealt (fun entry kept => KeptAnchored services.platform reference entry.2 kept)
      (fun entry flag => FlaggedFor entry.1 entry.2 flag) (extraction.lanes.zip (settled.map Prod.fst)) updated.lanes
      (settled.filterMap (fun entry => entry.2.flag)) := by
    rw [lanes]
    refine dealt_of_forall₂ (forall₂_zip Prod.fst walked) ?_
    rintro ⟨lane, _⟩ ⟨consensus, outcome⟩ ⟨settled, rfl⟩
    rcases settled with ⟨kept, rfl, anchored⟩ | ⟨flag, rfl, flagged⟩
    · exact .inl ⟨kept, rfl, rfl, anchored⟩
    · exact .inr ⟨flag, rfl, rfl, flagged⟩
  refine ⟨?_, by simpa using walked.length_eq, _, flags, dealt⟩
  intro lane inside
  obtain ⟨-, -, chosen, -, -, origin, destination⟩ := dealt.exists_of_first inside
  exact ⟨origin.1, destination.1⟩

theorem kept_ports_anchored_dealt : ForeignKey dealtReference ∧ ∃ updated results,
    normalizeLanes dealtServices dealtReference sampleNow dealtSheet = .ok (updated, results) ∧
    (∀ lane ∈ updated.lanes, lane.originPort.code ∈ dealtReference.unLocodeReference ∧
      lane.destinationPort.code ∈ dealtReference.unLocodeReference) ∧
    dealtSheet.lanes.length = results.length ∧
    ∃ flags, updated.flaggedForReview = dealtSheet.flaggedForReview ++ flags ∧
      Dealt (fun entry kept => KeptAnchored dealtServices.platform dealtReference entry.2 kept)
        (fun entry flag => FlaggedFor entry.1 entry.2 flag) (dealtSheet.lanes.zip results) updated.lanes flags := by
  have foreignKey : ForeignKey dealtReference := by
    unfold ForeignKey
    decide
  obtain ⟨⟨updated, results⟩, returned, -⟩ := dealtSheet_returns
  exact ⟨foreignKey, updated, results, returned,
    kept_ports_anchored dealtServices dealtReference sampleNow dealtSheet updated results foreignKey returned⟩

end Onramp.Placement
