import Mathlib.Data.List.Induction
import Onramp.Models

/-!
Majority vote across the ensemble's samples of a lane: each field is voted on by
the canonical forms of its values, and a strict majority in every field makes the
consensus lane.
-/
namespace Onramp.Consensus
open Onramp.Python
open Onramp.Values
open Onramp.Models
open Onramp.Library.Keyed (Table alter find keys find_alter mem_of_find find_of_mem nodup_keys_alter)

/-- `_VOTED_FIELDS`. -/
inductive VotedField
  | originPort | destinationPort | equipmentType | commodityCode | baseRateUsd | transitTimeDays | validityStart
  | validityEnd | surcharges | sourceRowReference
  deriving DecidableEq

def VotedField.name : VotedField → String
  | .originPort => "origin_port"
  | .destinationPort => "destination_port"
  | .equipmentType => "equipment_type"
  | .commodityCode => "commodity_code"
  | .baseRateUsd => "base_rate_usd"
  | .transitTimeDays => "transit_time_days"
  | .validityStart => "validity_start"
  | .validityEnd => "validity_end"
  | .surcharges => "surcharges"
  | .sourceRowReference => "source_row_reference"

/-- The fields in the order in which they are voted on. -/
def votedFields : List VotedField :=
  [.originPort, .destinationPort, .equipmentType, .commodityCode, .baseRateUsd, .transitTimeDays, .validityStart,
    .validityEnd, .surcharges, .sourceRowReference]

/-- The Python value of a voted field: a model, by its dump, or a plain value. -/
inductive FieldValue
  | model (dump : Json)
  | text (s : Option String)
  | integer (n : Option Int)
  | decimal (d : Decimal)
  | date (d : Date)
  | surcharges (items : List SurchargeRecord)

/-- `getattr(lane, field)`. -/
def getField (lane : LaneRecord) : VotedField → FieldValue
  | .originPort => .model lane.originPort.modelDump
  | .destinationPort => .model lane.destinationPort.modelDump
  | .equipmentType => .text (some lane.equipmentType.literal)
  | .commodityCode => .text lane.commodityCode
  | .baseRateUsd => .decimal lane.baseRateUsd
  | .transitTimeDays => .integer lane.transitTimeDays
  | .validityStart => .date lane.validityStart
  | .validityEnd => .date lane.validityEnd
  | .surcharges => .surcharges lane.surcharges
  | .sourceRowReference => .model lane.sourceRowReference.modelDump

/-- `sorted` on pairs of strings. -/
def sortPairs (pairs : List (String × String)) : List (String × String) :=
  pairs.insertionSort (fun a b => a.1 < b.1 ∨ (a.1 = b.1 ∧ a.2 ≤ b.2))

mutual
/-- `_canonical`, on the JSON values inside a dump. -/
def canonicalJson : Json → String
  | .arr items => listRepr ((sortStrings (canonicalItems items)).map strRepr)
  | .obj members =>
    listRepr ((sortPairs (canonicalMembers members)).map (fun pair => s!"({strRepr pair.1}, {strRepr pair.2})"))
  | value => value.repr

def canonicalItems : List Json → List String
  | [] => []
  | item :: rest => canonicalJson item :: canonicalItems rest

def canonicalMembers : List (String × Json) → List (String × String)
  | [] => []
  | (name, value) :: rest => (name, canonicalJson value) :: canonicalMembers rest
end

/-- `_canonical`, on a model: the `repr` of the canonical form of its dump. -/
def canonicalModel (dump : Json) : String := strRepr (canonicalJson dump)

def canonical : FieldValue → String
  | .model dump => canonicalModel dump
  | .surcharges items => listRepr ((sortStrings (items.map (fun item => canonicalModel item.modelDump))).map strRepr)
  | .decimal d => d.str
  | .text s => (s.map strRepr).getD "None"
  | .integer n => (n.map Int.repr).getD "None"
  | .date d => d.repr

/-- A `Counter` over the keys, in the order of their first occurrences. -/
def counter (keys : List String) : Table String Nat :=
  keys.foldl (fun table key => alter key (fun count => count.getD 0 + 1) table) []

/-- `counter.most_common(1)[0]`: the first entry with the greatest count. -/
def mostCommon (entries : Table String Nat) : String × Nat :=
  entries.foldl (fun best entry => if best.2 < entry.2 then entry else best) ("", 0)

/-- The canonical value of the field in each vote. -/
def fieldKeys (field : VotedField) (votes : List EnsembleVote) : List String :=
  votes.map (fun vote => canonical (getField vote.lane field))

/-- The top canonical value of the field and its count. -/
def topEntry (field : VotedField) (votes : List EnsembleVote) : String × Nat := mostCommon (counter (fieldKeys field votes))

/-- The loop over the fields up to the first without a majority: the agreement per
    field, and whether every field reached the threshold. -/
def countFields (threshold : Nat) (votes : List EnsembleVote) : List VotedField → List (String × Nat) × Bool
  | [] => ([], true)
  | field :: rest =>
    let top := (topEntry field votes).2
    if threshold ≤ top then
      let counted := countFields threshold votes rest
      ((field.name, top) :: counted.1, counted.2)
    else ([(field.name, top)], false)

/-- `canon_to_value[top_key]`: the last vote with the top value, whose value is
    selected. -/
def selectedVote (first : EnsembleVote) (votes : List EnsembleVote) (field : VotedField) : EnsembleVote :=
  ((votes.filter (fun vote => canonical (getField vote.lane field) = (topEntry field votes).1)).getLast?).getD first

/-- The lane of the selected values. -/
def selectedLane (laneId : String) (first : EnsembleVote) (votes : List EnsembleVote) : LaneRecord where
  laneId := laneId
  originPort := (selectedVote first votes .originPort).lane.originPort
  destinationPort := (selectedVote first votes .destinationPort).lane.destinationPort
  equipmentType := (selectedVote first votes .equipmentType).lane.equipmentType
  commodityCode := (selectedVote first votes .commodityCode).lane.commodityCode
  baseRateUsd := (selectedVote first votes .baseRateUsd).lane.baseRateUsd
  surcharges := (selectedVote first votes .surcharges).lane.surcharges
  transitTimeDays := (selectedVote first votes .transitTimeDays).lane.transitTimeDays
  validityStart := (selectedVote first votes .validityStart).lane.validityStart
  validityEnd := (selectedVote first votes .validityEnd).lane.validityEnd
  sourceRowReference := (selectedVote first votes .sourceRowReference).lane.sourceRowReference

def majorityConsensus (laneId : String) (votes : List EnsembleVote) : Raises ConsensusResult :=
  match votes with
  | [] => .error (PyExc.mk' .valueError "majority_consensus requires at least one vote")
  | first :: _ => do
    let counted := countFields (votes.length / 2 + 1) votes votedFields
    if counted.2 then
      let lane ← checked "LaneRecord" LaneRecord.Valid (selectedLane laneId first votes)
      checked "ConsensusResult" ConsensusResult.Valid
        { laneId, consensusLane := some lane, votes, agreementPerField := counted.1, requiresReview := false,
          reviewReason := .agreementClean }
    else
      checked "ConsensusResult" ConsensusResult.Valid
        { laneId, consensusLane := none, votes, agreementPerField := counted.1, requiresReview := true,
          reviewReason := .noMajority }

theorem selectedVote_mem (first : EnsembleVote) (rest : List EnsembleVote) (field : VotedField) :
    selectedVote first (first :: rest) field ∈ first :: rest := by
  unfold selectedVote
  cases last : ((first :: rest).filter
      (fun vote => canonical (getField vote.lane field) = (topEntry field (first :: rest)).1)).getLast? with
  | none => simp
  | some vote => exact List.mem_of_mem_filter (List.mem_of_getLast? last)

theorem selectedLane_laneId (laneId : String) (first : EnsembleVote) (votes : List EnsembleVote) :
    (selectedLane laneId first votes).laneId = laneId := rfl

theorem selectedLane_originPort (laneId : String) (first : EnsembleVote) (votes : List EnsembleVote) :
    (selectedLane laneId first votes).originPort = (selectedVote first votes .originPort).lane.originPort := rfl

theorem selectedLane_destinationPort (laneId : String) (first : EnsembleVote) (votes : List EnsembleVote) :
    (selectedLane laneId first votes).destinationPort =
      (selectedVote first votes .destinationPort).lane.destinationPort := rfl

theorem selectedLane_baseRateUsd (laneId : String) (first : EnsembleVote) (votes : List EnsembleVote) :
    (selectedLane laneId first votes).baseRateUsd = (selectedVote first votes .baseRateUsd).lane.baseRateUsd := rfl

theorem selectedLane_surcharges (laneId : String) (first : EnsembleVote) (votes : List EnsembleVote) :
    (selectedLane laneId first votes).surcharges = (selectedVote first votes .surcharges).lane.surcharges := rfl

/-- A consensus keeps the lane id and the votes it was computed from. It has a lane
    exactly when it needs no review; the lane is valid, has the lane id, and takes
    each port from one of the votes. -/
theorem majorityConsensus_spec {laneId : String} {votes : List EnsembleVote} {result : ConsensusResult}
    (returned : majorityConsensus laneId votes = .ok result) :
    result.Valid ∧ result.laneId = laneId ∧ result.votes = votes ∧
      (result.consensusLane = none ↔ result.requiresReview = true) ∧
      ∀ lane, result.consensusLane = some lane → lane.Valid ∧ lane.laneId = laneId ∧
        (∃ vote ∈ votes, lane.originPort = vote.lane.originPort) ∧
        ∃ vote ∈ votes, lane.destinationPort = vote.lane.destinationPort := by
  cases votes with
  | nil => cases returned
  | cons first rest =>
    unfold majorityConsensus at returned
    simp only at returned
    have origin := selectedVote_mem first rest .originPort
    have destination := selectedVote_mem first rest .destinationPort
    have laneIdSame := selectedLane_laneId laneId first (first :: rest)
    have originSame := selectedLane_originPort laneId first (first :: rest)
    have destinationSame := selectedLane_destinationPort laneId first (first :: rest)
    generalize selectedLane laneId first (first :: rest) = lane at *
    generalize countFields ((first :: rest).length / 2 + 1) (first :: rest) votedFields = counted at returned
    by_cases clean : counted.2 = true
    · simp only [clean, if_true, bind, Except.bind] at returned
      by_cases valid : lane.Valid
      · rw [checked_of_valid valid] at returned
        obtain ⟨fits, rfl⟩ := checked_eq_ok.mp returned
        refine ⟨fits, rfl, rfl, by simp, ?_⟩
        intro lane' chosen
        obtain rfl : lane = lane' := Option.some.inj chosen
        exact ⟨valid, laneIdSame, ⟨_, origin, originSame⟩, ⟨_, destination, destinationSame⟩⟩
      · simp [checked, valid] at returned
    · simp only [clean] at returned
      obtain ⟨fits, rfl⟩ := checked_eq_ok.mp returned
      exact ⟨fits, rfl, rfl, by simp, by simp⟩

theorem find_counter (votes : List String) (key : String) :
    find key (counter votes) = if key ∈ votes then some (votes.count key) else none := by
  induction votes using List.reverseRecOn generalizing key with
  | nil => simp [counter]
  | append_singleton front last ih =>
    have grown : counter (front ++ [last]) = alter last (fun count => count.getD 0 + 1) (counter front) := by
      simp [counter]
    have counted : (find last (counter front)).getD 0 = front.count last := by
      by_cases seen : last ∈ front
      · simp [ih, seen]
      · simp [ih, seen, List.count_eq_zero_of_not_mem seen]
    rw [grown, find_alter]
    by_cases same : key = last
    · subst same
      simp [counted]
    · rw [if_neg same, ih]
      simp [same, List.count_append, Ne.symm same]

theorem nodup_counter (votes : List String) : (keys (counter votes)).Nodup := by
  induction votes using List.reverseRecOn with
  | nil => simp [counter, keys]
  | append_singleton front last ih =>
    have grown : counter (front ++ [last]) = alter last (fun count => count.getD 0 + 1) (counter front) := by
      simp [counter]
    rw [grown]
    exact nodup_keys_alter last _ ih

/-- The fold of `mostCommon` ends with the entry it starts from or with one it has seen, and no entry has a
    greater count. -/
theorem mostCommon_best (entries : Table String Nat) (best : String × Nat) :
    let found := entries.foldl (fun best entry => if best.2 < entry.2 then entry else best) best
    (found = best ∨ found ∈ entries) ∧ best.2 ≤ found.2 ∧ ∀ entry ∈ entries, entry.2 ≤ found.2 := by
  induction entries generalizing best with
  | nil => simp
  | cons entry rest ih =>
    rw [List.foldl_cons]
    obtain ⟨origin, above, most⟩ := ih (if best.2 < entry.2 then entry else best)
    by_cases greater : best.2 < entry.2
    · simp only [greater, if_true] at origin above most ⊢
      refine ⟨Or.inr ?_, by omega, ?_⟩
      · rcases origin with same | inside
        · exact List.mem_cons.mpr (Or.inl same)
        · exact List.mem_cons_of_mem _ inside
      · intro other among
        rcases List.mem_cons.mp among with rfl | later
        · exact above
        · exact most other later
    · simp only [greater, if_false] at origin above most ⊢
      refine ⟨origin.imp_right (List.mem_cons_of_mem _), above, ?_⟩
      intro other among
      rcases List.mem_cons.mp among with rfl | later
      · omega
      · exact most other later

/-- The most common entry of a counter is a key with its count, and no key has a greater one. -/
theorem mostCommon_counter (votes : List String) :
    (mostCommon (counter votes)).2 = votes.count (mostCommon (counter votes)).1 ∧
      ∀ key, votes.count key ≤ (mostCommon (counter votes)).2 := by
  have best : (mostCommon (counter votes) = ("", 0) ∨ mostCommon (counter votes) ∈ counter votes) ∧ _ ∧
      ∀ entry ∈ counter votes, entry.2 ≤ (mostCommon (counter votes)).2 := mostCommon_best _ ("", 0)
  generalize mostCommon (counter votes) = top at best ⊢
  obtain ⟨origin, -, most⟩ := best
  have bounded : ∀ key, votes.count key ≤ top.2 := by
    intro key
    by_cases seen : key ∈ votes
    · have listed := find_counter votes key
      rw [if_pos seen] at listed
      exact most _ (mem_of_find listed)
    · rw [List.count_eq_zero_of_not_mem seen]
      exact Nat.zero_le _
  refine ⟨?_, bounded⟩
  rcases origin with rfl | inside
  · have none := bounded ""
    exact (Nat.le_zero.mp none).symm
  · have listed := find_of_mem (nodup_counter _) inside
    rw [find_counter] at listed
    split at listed
    · exact (Option.some.inj listed).symm
    · cases listed

/-- The top entry of a field is a canonical value with its count, and no value has a greater one. -/
theorem topEntry_spec (field : VotedField) (votes : List EnsembleVote) :
    (topEntry field votes).2 = (fieldKeys field votes).count (topEntry field votes).1 ∧
      ∀ key, (fieldKeys field votes).count key ≤ (topEntry field votes).2 :=
  mostCommon_counter (fieldKeys field votes)

/-- More than half of the votes have the value of this vote in the field. -/
def InMajority (field : VotedField) (votes : List EnsembleVote) (vote : EnsembleVote) : Prop :=
  votes.length / 2 + 1 ≤ (fieldKeys field votes).count (canonical (getField vote.lane field))

instance (field : VotedField) (votes : List EnsembleVote) : DecidablePred (InMajority field votes) :=
  fun _ => inferInstanceAs (Decidable (_ ≤ _))

/-- The last of the votes in the majority of the field, where there is one. -/
def lastInMajority (field : VotedField) (votes : List EnsembleVote) : Option EnsembleVote :=
  (votes.filter (fun vote => InMajority field votes vote)).getLast?

/-- Two values of a strict majority are the same. -/
theorem majority_unique {keys : List String} {key other : String} (many : keys.length / 2 + 1 ≤ keys.count key)
    (others : keys.length / 2 + 1 ≤ keys.count other) : key = other := by
  by_contra different
  have apart : keys.count other ≤ keys.countP (fun item => decide ¬(item == key) = true) := by
    refine List.countP_mono_left ?_
    intro item _ same
    simp only [beq_iff_eq] at same
    simp [same, Ne.symm different]
  have total : keys.length = keys.count key + _ := List.length_eq_countP_add_countP (fun item => item == key)
  omega

theorem lastInMajority_eq_some {field : VotedField} {votes : List EnsembleVote} (first : EnsembleVote)
    (reached : votes.length / 2 + 1 ≤ (topEntry field votes).2) :
    lastInMajority field votes = some (selectedVote first votes field) := by
  obtain ⟨counted, -⟩ := topEntry_spec field votes
  have length : (fieldKeys field votes).length = votes.length := by simp [fieldKeys]
  have same : ∀ vote ∈ votes, decide (InMajority field votes vote) =
      decide (canonical (getField vote.lane field) = (topEntry field votes).1) := by
    intro vote _
    refine decide_eq_decide.mpr ⟨?_, ?_⟩
    · intro many
      exact majority_unique (by rw [length]; exact many) (by rw [length, ← counted]; exact reached)
    · intro top
      rw [InMajority, top, ← counted]
      exact reached
  have voted : (topEntry field votes).1 ∈ fieldKeys field votes := by
    rw [← List.count_pos_iff, ← counted]
    omega
  obtain ⟨vote, inside, key⟩ := List.mem_map.mp voted
  have chosen : vote ∈ votes.filter (fun vote => canonical (getField vote.lane field) = (topEntry field votes).1) :=
    List.mem_filter.mpr ⟨inside, by simpa using key⟩
  rw [lastInMajority, List.filter_congr same, selectedVote, List.getLast?_eq_some_getLast (List.ne_nil_of_mem chosen)]
  rfl

theorem lastInMajority_isSome (field : VotedField) (votes : List EnsembleVote) :
    (lastInMajority field votes).isSome ↔ votes.length / 2 + 1 ≤ (topEntry field votes).2 := by
  constructor
  · intro some
    obtain ⟨vote, last⟩ := Option.isSome_iff_exists.mp some
    have inside := List.mem_of_getLast? last
    have many := (List.mem_filter.mp inside).2
    exact (decide_eq_true_eq.mp many).trans ((topEntry_spec field votes).2 _)
  · intro reached
    cases votes with
    | nil =>
      have nothing : (topEntry field []).2 = 0 := rfl
      rw [nothing] at reached
      simp at reached
    | cons first rest =>
      rw [lastInMajority_eq_some first reached]
      rfl

theorem countFields_clean (threshold : Nat) (votes : List EnsembleVote) (fields : List VotedField) :
    (countFields threshold votes fields).2 = true ↔ ∀ field ∈ fields, threshold ≤ (topEntry field votes).2 := by
  induction fields with
  | nil => simp [countFields]
  | cons field rest ih =>
    by_cases reached : threshold ≤ (topEntry field votes).2
    · simp [countFields, reached, ih]
    · simp [countFields, reached]

/-- A consensus has a lane exactly when every field has a majority, and then it is the lane of the last votes in
    the majorities. -/
theorem consensusLane_iff {laneId : String} {first : EnsembleVote} {rest : List EnsembleVote} {result : ConsensusResult}
    (returned : majorityConsensus laneId (first :: rest) = .ok result) (lane : LaneRecord) :
    result.consensusLane = some lane ↔ (∀ field ∈ votedFields, (lastInMajority field (first :: rest)).isSome) ∧
      lane = selectedLane laneId first (first :: rest) := by
  simp only [lastInMajority_isSome]
  rw [← countFields_clean]
  unfold majorityConsensus at returned
  simp only at returned
  generalize selectedLane laneId first (first :: rest) = chosen at *
  generalize countFields ((first :: rest).length / 2 + 1) (first :: rest) votedFields = counted at *
  by_cases clean : counted.2 = true
  · simp only [clean, if_true, bind, Except.bind] at returned
    by_cases valid : chosen.Valid
    · rw [checked_of_valid valid] at returned
      obtain ⟨-, rfl⟩ := checked_eq_ok.mp returned
      simp [clean, eq_comm]
    · simp [checked, valid] at returned
  · simp only [clean] at returned
    obtain ⟨-, rfl⟩ := checked_eq_ok.mp returned
    simp [clean]

end Onramp.Consensus
