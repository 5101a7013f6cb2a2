import Onramp.LaneAccounting

/-!
Money through Stage 3. The rate and the surcharges of a lane that goes on are those that
its three responses agree on, and nothing compares them with the ones of the extracted
lane: they stay the same exactly when the responses in the majority carry them.
-/
namespace Onramp.Money
open Onramp.Python
open Onramp.Models
open Onramp.Consensus
open Onramp.Vertex (Services)
open Onramp.Ports
open Onramp.Normalizer
open Onramp.LaneAccounting (sampleServices sampleNow sampleLane sampleSheet)

/-- The amounts of the surcharges of a lane. -/
def amounts (lane : LaneRecord) : List ℚ := lane.surcharges.map (fun surcharge => surcharge.amountUsd.toRat)

/-- The lane has this base rate and this multiset of surcharge amounts. -/
def HasMoney (lane : LaneRecord) (rate : Decimal) (charges : List ℚ) : Prop :=
  lane.baseRateUsd.toRat = rate.toRat ∧ (amounts lane).Perm charges

/-- Every lane that goes on has the money of the lane that it was produced from. -/
def MoneyCarried (lanes : List LaneRecord) (settled : List (ConsensusResult × LaneOutcome)) : Prop :=
  List.Forall₂ (fun lane entry => ∀ kept ∈ entry.2.keptLane, HasMoney kept lane.baseRateUsd (amounts lane)) lanes settled

variable (services : Services) (reference : Reference)

/-- The votes in the three responses about the lane at this position. -/
def Responses (position : Nat) (lane : LaneRecord) (votes : List EnsembleVote) : Prop :=
  ∃ low middle high, oneProCall services position lane 0 1 = .ok low ∧ oneProCall services position lane 1 5 = .ok middle ∧
    oneProCall services position lane 2 9 = .ok high ∧ votes = [low, middle, high]

/-- A lane with these ports goes on: both resolve, or one is no UN/LOCODE. -/
def PortsPass (originPort destinationPort : PortCode) : Prop :=
  (∃ origin destination, resolvePortCode services.platform reference originPort.code = .ok origin ∧
    resolvePortCode services.platform reference destinationPort.code = .ok destination ∧
    origin.canonical.isSome ∧ destination.canonical.isSome) ∨
  unlocodeMatch originPort.code = false ∨ unlocodeMatch destinationPort.code = false

/-- The responses about a lane carry its money: where they have a majority in every field,
    on ports with which the lane goes on, the majorities are for the rate and the amounts of
    the lane. -/
def CarryMoney (lane : LaneRecord) (votes : List EnsembleVote) : Prop :=
  (∀ field ∈ votedFields, (lastInMajority field votes).isSome) →
    ∀ origin ∈ lastInMajority .originPort votes, ∀ destination ∈ lastInMajority .destinationPort votes,
      PortsPass services reference origin.lane.originPort destination.lane.destinationPort →
      (∀ vote ∈ lastInMajority .baseRateUsd votes, vote.lane.baseRateUsd.toRat = lane.baseRateUsd.toRat) ∧
        ∀ vote ∈ lastInMajority .surcharges votes, (amounts vote.lane).Perm (amounts lane)

/-- The responses about every lane carry its money. -/
def ResponsesCarryMoney (position : Nat) (lanes : List LaneRecord) : Prop :=
  ∀ i lane votes, lanes[i]? = some lane → Responses services (position + i) lane votes →
    CarryMoney services reference lane votes

variable {services reference}

theorem gathered_eq_ok {result : Raises EnsembleVote} {vote : EnsembleVote} :
    gathered result = .ok vote ↔ result = .ok vote := by
  cases result with
  | ok value => rfl
  | error exc => simp [gathered]

theorem responses_of_ensemble {position : Nat} {lane : LaneRecord} {consensus : ConsensusResult}
    (returned : ensembleForLane services position lane = .ok consensus) :
    ∃ votes, Responses services position lane votes ∧ majorityConsensus lane.laneId votes = .ok consensus := by
  unfold ensembleForLane at returned
  split at returned
  · cases returned
  simp only [bind_eq_ok] at returned
  obtain ⟨low, first, middle, second, high, third, returned⟩ := returned
  exact ⟨_, ⟨low, middle, high, gathered_eq_ok.mp first, gathered_eq_ok.mp second, gathered_eq_ok.mp third, rfl⟩, returned⟩

theorem responses_unique {position : Nat} {lane : LaneRecord} {votes others : List EnsembleVote}
    (responded : Responses services position lane votes) (again : Responses services position lane others) :
    others = votes := by
  obtain ⟨low, middle, high, first, second, third, rfl⟩ := responded
  obtain ⟨low', middle', high', first', second', third', rfl⟩ := again
  cases first.symm.trans first'
  cases second.symm.trans second'
  cases third.symm.trans third'
  rfl

/-- A lane with a consensus goes on exactly when its ports let it, with the rate and the
    surcharges of the consensus. -/
theorem keptLane_of_settle {lane chosen : LaneRecord} {consensus : ConsensusResult} {outcome : LaneOutcome}
    (settled : settleLane services reference lane consensus = .ok outcome)
    (selected : consensus.consensusLane = some chosen) :
    (outcome.keptLane.isSome ↔ PortsPass services reference chosen.originPort chosen.destinationPort) ∧
      ∀ kept ∈ outcome.keptLane, kept.baseRateUsd = chosen.baseRateUsd ∧ kept.surcharges = chosen.surcharges := by
  cases settleLane_settles settled with
  | noMajority none =>
    rw [none] at selected
    cases selected
  | @resolved chosen' origin destination originPort destinationPort selected' originRead destinationRead originFound
      destinationFound =>
    obtain rfl : chosen = chosen' := Option.some.inj (selected.symm.trans selected')
    have passes : PortsPass services reference chosen.originPort chosen.destinationPort :=
      Or.inl ⟨origin, destination, originRead, destinationRead, by simp [originFound], by simp [destinationFound]⟩
    exact ⟨by simp [LaneOutcome.keptLane, passes], by simp [LaneOutcome.keptLane]⟩
  | passed selected' shapeless =>
    cases selected.symm.trans selected'
    exact ⟨by simp [LaneOutcome.keptLane, PortsPass, shapeless], by simp [LaneOutcome.keptLane]⟩
  | obfuscated selected' originRead destinationRead unresolved shaped =>
    cases selected.symm.trans selected'
    refine ⟨?_, by simp [LaneOutcome.keptLane]⟩
    simp only [LaneOutcome.keptLane, Option.isSome_none, Bool.false_eq_true, false_iff]
    rintro (⟨origin', destination', originRead', destinationRead', originFound, destinationFound⟩ | broken)
    · cases originRead.symm.trans originRead'
      cases destinationRead.symm.trans destinationRead'
      exact unresolved ⟨originFound, destinationFound⟩
    · exact shaped broken

theorem keptLane_of_noMajority {lane : LaneRecord} {consensus : ConsensusResult} {outcome : LaneOutcome}
    (settled : settleLane services reference lane consensus = .ok outcome) (none : consensus.consensusLane = none) :
    outcome.keptLane = .none := by
  unfold settleLane at settled
  rw [none] at settled
  cases settled
  rfl

/-- With a majority in every field, the consensus lane has the ports and the money of the
    last votes in the majorities. -/
theorem consensus_of_majorities {laneId : String} {first : EnsembleVote} {rest : List EnsembleVote}
    {consensus : ConsensusResult} (voted : majorityConsensus laneId (first :: rest) = .ok consensus)
    (agreed : ∀ field ∈ votedFields, (lastInMajority field (first :: rest)).isSome) :
    ∃ chosen origin destination rate charges, consensus.consensusLane = some chosen ∧
      lastInMajority .originPort (first :: rest) = some origin ∧ chosen.originPort = origin.lane.originPort ∧
      lastInMajority .destinationPort (first :: rest) = some destination ∧
        chosen.destinationPort = destination.lane.destinationPort ∧
      lastInMajority .baseRateUsd (first :: rest) = some rate ∧ chosen.baseRateUsd = rate.lane.baseRateUsd ∧
      lastInMajority .surcharges (first :: rest) = some charges ∧ chosen.surcharges = charges.lane.surcharges := by
  have last : ∀ field ∈ votedFields,
      lastInMajority field (first :: rest) = some (selectedVote first (first :: rest) field) :=
    fun field voted => lastInMajority_eq_some first ((lastInMajority_isSome field _).mp (agreed field voted))
  have selected := (consensusLane_iff voted (selectedLane laneId first (first :: rest))).mpr ⟨agreed, rfl⟩
  have originPort := selectedLane_originPort laneId first (first :: rest)
  have destinationPort := selectedLane_destinationPort laneId first (first :: rest)
  have rate := selectedLane_baseRateUsd laneId first (first :: rest)
  have charges := selectedLane_surcharges laneId first (first :: rest)
  generalize selectedLane laneId first (first :: rest) = chosen at selected originPort destinationPort rate charges
  exact ⟨chosen, _, _, _, _, selected, last .originPort (by simp [votedFields]), originPort,
    last .destinationPort (by simp [votedFields]), destinationPort, last .baseRateUsd (by simp [votedFields]), rate,
    last .surcharges (by simp [votedFields]), charges⟩

/-- One lane keeps its money exactly when its responses carry it. -/
theorem lane_carries_iff {position : Nat} {lane : LaneRecord} {consensus : ConsensusResult} {outcome : LaneOutcome}
    {votes : List EnsembleVote} (responded : Responses services position lane votes)
    (voted : majorityConsensus lane.laneId votes = .ok consensus)
    (settled : settleLane services reference lane consensus = .ok outcome) :
    (∀ kept ∈ outcome.keptLane, HasMoney kept lane.baseRateUsd (amounts lane)) ↔
      CarryMoney services reference lane votes := by
  obtain ⟨low, middle, high, -, -, -, rfl⟩ := responded
  by_cases agreed : ∀ field ∈ votedFields, (lastInMajority field [low, middle, high]).isSome
  · obtain ⟨chosen, origin, destination, rate, charges, selected, originLast, originPort, destinationLast,
      destinationPort, rateLast, rateSame, chargesLast, chargesSame⟩ := consensus_of_majorities voted agreed
    obtain ⟨passes, money⟩ := keptLane_of_settle settled selected
    rw [originPort, destinationPort] at passes
    rw [rateSame, chargesSame] at money
    have carry : CarryMoney services reference lane [low, middle, high] ↔
        (outcome.keptLane.isSome → rate.lane.baseRateUsd.toRat = lane.baseRateUsd.toRat ∧
          (amounts charges.lane).Perm (amounts lane)) := by
      rw [passes, CarryMoney, originLast, destinationLast, rateLast, chargesLast]
      simp only [Option.mem_some_iff, forall_eq']
      exact ⟨fun carried => carried agreed, fun carried _ => carried⟩
    rw [carry]
    constructor
    · intro same goesOn
      obtain ⟨kept, found⟩ := Option.isSome_iff_exists.mp goesOn
      obtain ⟨keptRate, keptCharges⟩ := money kept found
      have has := same kept found
      rw [HasMoney, amounts, keptRate, keptCharges] at has
      exact has
    · intro carried kept found
      obtain ⟨keptRate, keptCharges⟩ := money kept found
      have has := carried (Option.isSome_iff_exists.mpr ⟨kept, found⟩)
      rw [HasMoney, amounts, keptRate, keptCharges]
      exact has
  · have none : consensus.consensusLane = none := by
      rw [Option.eq_none_iff_forall_ne_some]
      intro chosen selected
      exact agreed ((consensusLane_iff voted chosen).mp selected).1
    rw [keptLane_of_noMajority settled none]
    simp only [CarryMoney, agreed, Option.not_mem_none, false_imp_iff, implies_true]

theorem moneyCarried_iff {position : Nat} {lanes : List LaneRecord} {settled : List (ConsensusResult × LaneOutcome)}
    (returned : normalizeEach services reference position lanes = .ok settled) :
    MoneyCarried lanes settled ↔ ResponsesCarryMoney services reference position lanes := by
  induction lanes generalizing position settled with
  | nil =>
    cases returned
    simp [MoneyCarried, ResponsesCarryMoney]
  | cons lane rest ih =>
    obtain ⟨consensus, outcome, others, asked, moved, later, rfl⟩ := normalizeEach_cons returned
    obtain ⟨votes, responded, voted⟩ := responses_of_ensemble asked
    rw [MoneyCarried, List.forall₂_cons, lane_carries_iff responded voted moved]
    change _ ∧ MoneyCarried rest others ↔ _
    rw [ih later]
    constructor
    · rintro ⟨here, rest⟩ i lane' votes' listed responded'
      cases i with
      | zero =>
        obtain rfl := Option.some.inj listed
        rw [responses_unique responded responded']
        exact here
      | succ i =>
        rw [show position + (i + 1) = position + 1 + i by omega] at responded'
        exact rest i lane' votes' listed responded'
    · intro all
      refine ⟨all 0 lane votes rfl responded, ?_⟩
      intro i lane' votes' listed responded'
      rw [show position + 1 + i = position + (i + 1) by omega] at responded'
      exact all (i + 1) lane' votes' listed responded'

/-- An extracted lane with a rate of 200, about which every response says 100. -/
def repricedSheet : NormalizedRatesheet := sampleSheet [sampleLane 200 none] []

/-- Both ports of the lane are in the tables. -/
def sampleReference : Reference := ⟨["USNYC", "CNSHA"], []⟩

theorem repricedSheet_returns : ∃ updated results,
    normalizeLanes sampleServices sampleReference sampleNow repricedSheet = .ok (updated, results) ∧
      updated.lanes.map (fun lane => lane.baseRateUsd.toRat) = [100] := by
  have rates : (normalizeLanes sampleServices sampleReference sampleNow repricedSheet).toOption.map
      (fun returned => returned.1.lanes.map (fun lane => lane.baseRateUsd.toRat)) = some [100] := by decide +kernel
  obtain ⟨⟨updated, results⟩, returned, carried⟩ := eq_ok_of_toOption_map rates
  exact ⟨updated, results, returned, carried⟩

/-- Where `normalize_lanes` returns, every lane that goes on has the base rate and the
    surcharge amounts of the lane that it was produced from if and only if the responses
    about the lanes carry them. -/
theorem money_carried_iff (services : Services) (reference : Reference) (now : DateTime)
    (extraction updated : NormalizedRatesheet) (results : List ConsensusResult)
    (returned : normalizeLanes services reference now extraction = .ok (updated, results)) :
    ∃ settled, normalizeEach services reference 0 extraction.lanes = .ok settled ∧
      updated.lanes = settled.filterMap (fun entry => entry.2.keptLane) ∧
      (MoneyCarried extraction.lanes settled ↔ ResponsesCarryMoney services reference 0 extraction.lanes) := by
  obtain ⟨settled, each, lanes, -, -⟩ := normalizeLanes_eq_ok returned
  exact ⟨settled, each, lanes, moneyCarried_iff each⟩

theorem money_carried_iff_repriced :
    ∃ updated results settled,
      normalizeLanes sampleServices sampleReference sampleNow repricedSheet = .ok (updated, results) ∧
      normalizeEach sampleServices sampleReference 0 repricedSheet.lanes = .ok settled ∧
      updated.lanes = settled.filterMap (fun entry => entry.2.keptLane) ∧
      (MoneyCarried repricedSheet.lanes settled ↔
        ResponsesCarryMoney sampleServices sampleReference 0 repricedSheet.lanes) := by
  obtain ⟨updated, results, returned, -⟩ := repricedSheet_returns
  obtain ⟨settled, account⟩ :=
    money_carried_iff sampleServices sampleReference sampleNow repricedSheet updated results returned
  exact ⟨updated, results, settled, returned, account⟩

/-- Three responses that agree on another rate reprice the lane. -/
theorem majority_reprices_lane :
    ¬ ∀ (services : Services) (reference : Reference) (now : DateTime) (extraction updated : NormalizedRatesheet)
      (results : List ConsensusResult) (settled : List (ConsensusResult × LaneOutcome)),
      normalizeLanes services reference now extraction = .ok (updated, results) →
        normalizeEach services reference 0 extraction.lanes = .ok settled → MoneyCarried extraction.lanes settled := by
  intro always
  obtain ⟨updated, results, returned, rates⟩ := repricedSheet_returns
  obtain ⟨settled, each, lanes, -, -⟩ := normalizeLanes_eq_ok returned
  have carried := always _ _ _ _ _ _ settled returned each
  obtain ⟨entry, rest, here, nothing, rfl⟩ := List.forall₂_cons_left_iff.mp carried
  cases List.forall₂_nil_left_iff.mp nothing
  rw [lanes] at rates
  cases kept : entry.2.keptLane with
  | none => simp [kept] at rates
  | some lane =>
    have repriced : lane.baseRateUsd.toRat = 100 := by simpa [kept] using rates
    have same : lane.baseRateUsd.toRat = (Decimal.ofNat 200).toRat := (here lane kept).1
    have original : (Decimal.ofNat 200).toRat = 200 := by simp [Decimal.toRat, Decimal.ofNat]
    rw [repriced, original] at same
    norm_num at same

end Onramp.Money
