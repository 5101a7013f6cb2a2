import Mathlib.Algebra.Order.Floor.Semifield
import Mathlib.Data.Rat.Floor
import Mathlib.Tactic.FieldSimp
import Mathlib.Tactic.IntervalCases
import Onramp.Conformal
import Onramp.Verdict
import Onramp.Library.Rounding

/-!
The agreement that the confidence is computed from, beside the one of the vote. Both count
the votes for a value of a field, the confidence by the `repr` of the value, which keeps
the order of surcharges: the two see the same agreement where the votes for the best
surcharges list them alike.
-/
namespace Onramp.Agreement
open Onramp.Library.Codes
open Onramp.Library.Votes
open Onramp.Library.Rounding
open Onramp.Library.Keyed (Table)
open Onramp.Python
open Onramp.Values
open Onramp.Models
open Onramp.Consensus
open Onramp.Canonical
open Onramp.Verdict
open Onramp.Reprs
open Onramp.Conformal

theorem toList_surchargeRepr (item : SurchargeRecord) : item.repr.toList =
    "SurchargeRecord(code=".toList ++ ((strRepr item.code).toList ++ (", amount_usd=Decimal(".toList ++
      ((strRepr item.amountUsd.str).toList ++ ("), applies_per=".toList ++
        ((strRepr item.appliesPer.literal).toList ++ [')']))))) := by
  have close : ")".toList = [')'] := rfl
  unfold SurchargeRecord.repr
  simp only [String.toList_append, close, List.append_assoc]

theorem surchargeRepr_selfDelimiting : SelfDelimiting (fun item : SurchargeRecord => item.repr.toList) := by
  have last := (strRepr_selfDelimiting.after [')']).before "), applies_per=".toList
  have later := (strRepr_selfDelimiting.pair last).before ", amount_usd=Decimal(".toList
  have texts := (strRepr_selfDelimiting.pair later).before "SurchargeRecord(code=".toList
  have injective : Function.Injective (fun item : SurchargeRecord =>
      (item.code, item.amountUsd.str, item.appliesPer.literal)) := by
    rintro ⟨_, _, _⟩ ⟨_, _, _⟩ same
    simp only [Prod.mk.injEq] at same
    obtain ⟨rfl, amount, basis⟩ := same
    rw [decimalStr_injective amount, basis_injective basis]
  simp only [toList_surchargeRepr]
  simpa only [List.append_assoc] using texts.comp injective

theorem surchargeRepr_apart : StartsApart ']' (fun item : SurchargeRecord => item.repr.toList) := by
  intro item
  exact ⟨'S', _, toList_surchargeRepr item, by decide⟩

theorem toList_portRepr (port : PortCode) : port.modelDump.repr.toList =
    "\x7b'code': ".toList ++ ((strRepr port.code).toList ++ ['\x7d']) := by
  have text : port.modelDump.repr = "\x7b" ++ (strRepr "code" ++ ": " ++ strRepr port.code) ++ "\x7d" := by
    simp [PortCode.modelDump, Json.repr, Json.reprMembers]
  have front : "\x7b".toList ++ (strRepr "code").toList ++ ": ".toList = "\x7b'code': ".toList := by decide
  have back : "\x7d".toList = ['\x7d'] := rfl
  rw [text, ← front, ← back]
  simp only [String.toList_append, List.append_assoc]

theorem toList_rowRepr (row : SourceRow) : row.modelDump.repr.toList =
    "\x7b'sheet_name': ".toList ++ ((strRepr row.sheetName).toList ++ (", 'row_number': ".toList ++
      ((Nat.toDigits 10 row.rowNumber ++ [',']) ++ (" 'cell_reference': ".toList ++
        ((strRepr row.cellReference).toList ++ ['\x7d']))))) := by
  have text : row.modelDump.repr = "\x7b" ++ (strRepr "sheet_name" ++ ": " ++ strRepr row.sheetName ++ ", " ++
      (strRepr "row_number" ++ ": " ++ Nat.repr row.rowNumber) ++ ", " ++
      (strRepr "cell_reference" ++ ": " ++ strRepr row.cellReference)) ++ "\x7d" := by
    simp [SourceRow.modelDump, Json.repr, Json.reprMembers, String.append_assoc, Int.repr]
  have sheet : "\x7b".toList ++ (strRepr "sheet_name").toList ++ ": ".toList = "\x7b'sheet_name': ".toList := by decide
  have number : ", ".toList ++ (strRepr "row_number").toList ++ ": ".toList = ", 'row_number': ".toList := by decide
  have cell : ", ".toList ++ (strRepr "cell_reference").toList ++ ": ".toList = [','] ++ " 'cell_reference': ".toList := by
    decide
  have back : "\x7d".toList = ['\x7d'] := rfl
  rw [text, ← sheet, ← number, ← back]
  simp only [String.toList_append, List.append_assoc, Nat.toList_repr] at cell ⊢
  rw [← List.append_assoc [','], ← cell]
  simp only [List.append_assoc]

theorem portRepr_injective {a b : PortCode} (same : a.modelDump.repr = b.modelDump.repr) : a = b := by
  have texts := congrArg String.toList same
  rw [toList_portRepr, toList_portRepr] at texts
  obtain ⟨code, -⟩ := strRepr_selfDelimiting _ _ _ _ (List.append_cancel_left texts)
  cases a
  cases b
  exact congrArg PortCode.mk code

theorem rowRepr_injective {a b : SourceRow} (same : a.modelDump.repr = b.modelDump.repr) : a = b := by
  have texts := congrArg String.toList same
  rw [toList_rowRepr, toList_rowRepr] at texts
  obtain ⟨sheet, numbers⟩ := strRepr_selfDelimiting _ _ _ _ (List.append_cancel_left texts)
  obtain ⟨row, cells⟩ := digits_selfDelimiting ',' (by decide) _ _ _ _ (List.append_cancel_left numbers)
  obtain ⟨cell, -⟩ := strRepr_selfDelimiting _ _ _ _ (List.append_cancel_left cells)
  cases a
  cases b
  simp only [SourceRow.mk.injEq]
  exact ⟨sheet, row, cell⟩

theorem decimalKey_injective {d e : Decimal} (same : agreementKey (.decimal d) = agreementKey (.decimal e)) : d = e := by
  have texts := congrArg String.toList same
  simp only [agreementKey, toString, String.toList_append] at texts
  obtain ⟨text, -⟩ := strRepr_selfDelimiting d.str e.str _ _ (List.append_cancel_left (by simpa only [List.append_assoc] using texts))
  exact decimalStr_injective text

theorem surchargesKey_injective {items others : List SurchargeRecord}
    (same : agreementKey (.surcharges items) = agreementKey (.surcharges others)) : items = others :=
  (listRepr_selfDelimiting surchargeRepr_selfDelimiting surchargeRepr_apart).injective (congrArg String.toList same)

/-- The key tells apart what the canonical form tells apart. -/
theorem agreementKey_eq_iff {field : VotedField} (plain : field ≠ .surcharges) (a b : LaneRecord) :
    agreementKey (getField a field) = agreementKey (getField b field) ↔ SameField field a b := by
  cases field with
  | originPort => exact ⟨portRepr_injective, fun same => by simp only [getField, show a.originPort = b.originPort from same]⟩
  | destinationPort =>
    exact ⟨portRepr_injective, fun same => by simp only [getField, show a.destinationPort = b.destinationPort from same]⟩
  | baseRateUsd =>
    exact ⟨decimalKey_injective, fun same => by simp only [getField, show a.baseRateUsd = b.baseRateUsd from same]⟩
  | sourceRowReference =>
    exact ⟨rowRepr_injective, fun same => by simp only [getField, show a.sourceRowReference = b.sourceRowReference from same]⟩
  | surcharges => exact absurd rfl plain
  -- The other keys are the canonical forms themselves.
  | equipmentType => exact canonical_eq_iff .equipmentType a b
  | commodityCode => exact canonical_eq_iff .commodityCode a b
  | transitTimeDays => exact canonical_eq_iff .transitTimeDays a b
  | validityStart => exact canonical_eq_iff .validityStart a b
  | validityEnd => exact canonical_eq_iff .validityEnd a b

/-- The key of surcharges tells apart their order too. -/
theorem agreementKey_surcharges (a b : LaneRecord) :
    agreementKey (getField a .surcharges) = agreementKey (getField b .surcharges) ↔ a.surcharges = b.surcharges :=
  ⟨surchargesKey_injective, fun same => by simp only [getField, same]⟩

/-- The key of the field in the vote. -/
def keyIn (field : VotedField) (vote : EnsembleVote) : String := agreementKey (getField vote.lane field)

theorem foldl_max_eq (entries : Table String Nat) (best : String × Nat) :
    (entries.map Prod.snd).foldl max best.2 =
      (entries.foldl (fun best entry => if best.2 < entry.2 then entry else best) best).2 := by
  induction entries generalizing best with
  | nil => rfl
  | cons entry rest ih =>
    rw [List.map_cons, List.foldl_cons, List.foldl_cons, ← ih]
    congr 1
    split <;> omega

theorem topCount_isTop (votes : List EnsembleVote) (field : VotedField) : IsTop (keyIn field) votes (topCount votes field) := by
  have counted : ∀ key, support (keyIn field) votes key = (votes.map (keyIn field)).count key := by
    intro key
    rw [support, List.count, List.countP_map]
    refine List.countP_congr ?_
    intro vote _
    simp only [Function.comp_apply, decide_eq_true_eq, beq_iff_eq]
  have top : topCount votes field = (mostCommon (counter (votes.map (keyIn field)))).2 := foldl_max_eq _ ("", 0)
  obtain ⟨reached, most⟩ := mostCommon_counter (votes.map (keyIn field))
  rw [top]
  constructor
  · exact ⟨_, by rw [counted, ← reached]⟩
  · rintro _ ⟨key, rfl⟩
    rw [counted]
    exact most key

/-- Outside of the surcharges both count the same. -/
theorem topCount_eq {field : VotedField} (plain : field ≠ .surcharges) (votes : List EnsembleVote) :
    topCount votes field = (topEntry field votes).2 := by
  cases votes with
  | nil => rfl
  | cons first rest =>
    refine ((topEntry_isTop field (first :: rest)).eq_iff_of_finer (topCount_isTop (first :: rest) field) (by simp) ?_).mpr ?_
    · intro vote _ other _ keys
      exact (canonical_eq_iff field _ _).mpr ((agreementKey_eq_iff plain _ _).mp keys)
    · obtain ⟨vote, inside, reached⟩ := (topEntry_isTop field (first :: rest)).held (by simp)
      refine ⟨vote, inside, reached, fun other _ values => ?_⟩
      exact (agreementKey_eq_iff plain _ _).mpr ((canonical_eq_iff field _ _).mp values)

/-- Some vote has surcharges that no other ones are more common than, and all votes with these surcharges list
    them as it does. -/
def ListedAlike (votes : List EnsembleVote) : Prop :=
  ∃ vote ∈ votes,
    (∀ other ∈ votes, votes.countP (fun item => item.lane.surcharges.Perm other.lane.surcharges) ≤
      votes.countP (fun item => item.lane.surcharges.Perm vote.lane.surcharges)) ∧
    ∀ other ∈ votes, other.lane.surcharges.Perm vote.lane.surcharges → other.lane.surcharges = vote.lane.surcharges

instance : DecidablePred ListedAlike := fun votes => inferInstanceAs (Decidable (∃ vote ∈ votes, _ ∧ _))

theorem topCount_surcharges {votes : List EnsembleVote} (voted : votes ≠ []) :
    topCount votes .surcharges = (topEntry .surcharges votes).2 ↔ ListedAlike votes := by
  have top := topEntry_isTop .surcharges votes
  have counted : ∀ vote : EnsembleVote, support (valueIn .surcharges) votes (valueIn .surcharges vote) =
      votes.countP (fun item => item.lane.surcharges.Perm vote.lane.surcharges) := fun vote =>
    support_lane .surcharges votes vote.lane
  have greatest : ∀ vote ∈ votes, support (valueIn .surcharges) votes (valueIn .surcharges vote) =
        (topEntry .surcharges votes).2 ↔
      ∀ other ∈ votes, votes.countP (fun item => item.lane.surcharges.Perm other.lane.surcharges) ≤
        votes.countP (fun item => item.lane.surcharges.Perm vote.lane.surcharges) := by
    intro vote _
    constructor
    · intro reached other _
      rw [← counted, ← counted, reached]
      exact top.2 ⟨_, rfl⟩
    · intro most
      obtain ⟨best, among, reached⟩ := top.held voted
      have below := most best among
      rw [← counted, ← counted, reached] at below
      exact Nat.le_antisymm (top.2 ⟨_, rfl⟩) below
  rw [top.eq_iff_of_finer (topCount_isTop votes .surcharges) voted ?_]
  · unfold ListedAlike
    refine exists_congr fun vote => and_congr_right fun inside => and_congr (greatest vote inside) ?_
    refine forall₂_congr fun other _ => ?_
    have values : valueIn .surcharges other = valueIn .surcharges vote ↔ other.lane.surcharges.Perm vote.lane.surcharges :=
      canonical_eq_iff .surcharges _ _
    have keys : keyIn .surcharges other = keyIn .surcharges vote ↔ other.lane.surcharges = vote.lane.surcharges :=
      agreementKey_surcharges _ _
    rw [values, keys]
  · intro vote _ other _ keys
    have listed := (agreementKey_surcharges _ _).mp keys
    exact (canonical_eq_iff .surcharges _ _).mpr (listed ▸ List.Perm.refl _ :
      vote.lane.surcharges.Perm other.lane.surcharges)

/-- The error that one operation of the context leaves, on numbers below a hundred. -/
def contextError : ℚ := 1 / 10 ^ 26

theorem roundHalfEven_near (num : Nat) {den : Nat} (positive : 0 < den) :
    |(roundHalfEven num den : ℚ) - num / den| ≤ 1 := by
  have divided := Nat.div_add_mod num den
  have remainder := Nat.mod_lt num positive
  have den' : (0 : ℚ) < den := Nat.cast_pos.mpr positive
  have whole : (num : ℚ) = den * (num / den : Nat) + (num % den : Nat) := by exact_mod_cast divided.symm
  have share : (num : ℚ) / den = (num / den : Nat) + ((num % den : Nat) : ℚ) / den := by
    rw [whole, add_div, mul_div_cancel_left₀ _ den'.ne']
  have low : (0 : ℚ) ≤ ((num % den : Nat) : ℚ) / den := by positivity
  have high : ((num % den : Nat) : ℚ) / den ≤ 1 := by
    rw [div_le_one den']
    exact_mod_cast remainder.le
  rw [share]
  unfold roundHalfEven
  simp only
  split_ifs
  · push_cast
    exact abs_le.mpr ⟨by linarith, by linarith⟩
  · exact abs_le.mpr ⟨by linarith, by linarith⟩

theorem contextPlaces_ge {num den : Nat} (small : num < 100 * den) : 26 ≤ contextPlaces num den := by
  have digits : ∀ n : Fin 100, digitCount n ≤ 2 := by decide +kernel
  unfold contextPlaces
  split_ifs with large
  · have quotient : num / den < 100 := Nat.div_lt_of_lt_mul (by omega)
    have counted : digitCount (num / den) ≤ 2 := digits ⟨num / den, quotient⟩
    omega
  · omega

theorem contextRound_near {num den : Nat} (positive : 0 < den) (small : num < 100 * den) :
    0 ≤ contextRound num den ∧ |contextRound num den - num / den| ≤ contextError := by
  unfold contextRound contextError
  split_ifs with zero
  · simp [zero]
  · have places := contextPlaces_ge small
    generalize contextPlaces num den = p at places ⊢
    have scale : (0 : ℚ) < 10 ^ p := by positivity
    have rounded := roundHalfEven_near (num * 10 ^ p) positive
    have error : (1 : ℚ) / 10 ^ p ≤ 1 / 10 ^ 26 := one_div_le_one_div_of_le (by positivity) (pow_le_pow_right₀ (by norm_num) places)
    rw [Rat.mkRat_eq_div]
    push_cast at rounded ⊢
    refine ⟨by positivity, ?_⟩
    have share : (roundHalfEven (num * 10 ^ p) den : ℚ) / 10 ^ p - num / den =
        (roundHalfEven (num * 10 ^ p) den - num * 10 ^ p / den) / 10 ^ p := by
      rw [sub_div, mul_div_right_comm, mul_div_cancel_right₀ _ scale.ne']
    rw [share, abs_div, abs_of_pos scale]
    exact (div_le_div_of_nonneg_right rounded scale.le).trans error

/-- The same for a rational number. -/
theorem contextRound_rat {q : ℚ} (low : 0 ≤ q) (high : q < 100) {n : Nat} (positive : 0 < n) :
    0 ≤ contextRound q.num.natAbs (q.den * n) ∧ |contextRound q.num.natAbs (q.den * n) - q / n| ≤ contextError := by
  have den : (0 : ℚ) < q.den := Nat.cast_pos.mpr q.den_pos
  have num : ((q.num.natAbs : Nat) : ℚ) = q.num := by
    rw [Nat.cast_natAbs, abs_of_nonneg (Rat.num_nonneg.mpr low)]
  have value : (q.num.natAbs : ℚ) / q.den = q := by rw [num, Rat.num_div_den]
  have bounded : (q.num.natAbs : ℚ) < 100 * q.den := by
    rw [div_eq_iff den.ne'] at value
    rw [value]
    exact mul_lt_mul_of_pos_right high den
  have small : q.num.natAbs < 100 * (q.den * n) := by
    have natural : q.num.natAbs < 100 * q.den := by exact_mod_cast bounded
    have grown : q.den * 1 ≤ q.den * n := Nat.mul_le_mul_left _ positive
    omega
  have near := contextRound_near (Nat.mul_pos q.den_pos positive) small
  push_cast at near
  rw [← div_div, value] at near
  exact near

theorem meanThousandths_eq {x : ℚ} {n : Nat} (low : 0 ≤ contextRound x.num.natAbs (x.den * n)) :
    meanThousandths x n = halfUp (1000 * contextRound x.num.natAbs (x.den * n)) := by
  unfold meanThousandths halfUp
  simp only
  generalize contextRound x.num.natAbs (x.den * n) = mean at low ⊢
  have den : (0 : ℚ) < mean.den := Nat.cast_pos.mpr mean.den_pos
  have num : ((mean.num.natAbs : Nat) : ℚ) = mean.num := by
    rw [Nat.cast_natAbs, abs_of_nonneg (Rat.num_nonneg.mpr low)]
  have value : (mean.num.natAbs : ℚ) / mean.den = mean := by rw [num, Rat.num_div_den]
  have share : 1000 * mean + 1 / 2 =
      ((2 * 1000 * mean.num.natAbs + mean.den : Nat) : ℚ) / ((2 * mean.den : Nat) : ℚ) := by
    push_cast
    rw [eq_div_iff (by positivity)]
    have scaled : (mean.num.natAbs : ℚ) = mean * mean.den := (div_eq_iff den.ne').mp value
    rw [scaled]
    ring
  rw [share, Nat.floor_div_eq_div]

/-- The fields of the votes count at most all votes. -/
theorem topEntry_le (field : VotedField) (votes : List EnsembleVote) : (topEntry field votes).2 ≤ votes.length := by
  obtain ⟨reached, -⟩ := topEntry_spec field votes
  rw [reached]
  exact (List.count_le_length).trans (by simp [fieldKeys])

/-- The sum of the best counts of the fields. -/
def totalCount (votes : List EnsembleVote) : Nat := (votedFields.map (fun field => (topEntry field votes).2)).sum

theorem totalCount_le (votes : List EnsembleVote) : totalCount votes ≤ 10 * votes.length := by
  have bounded : ∀ count ∈ votedFields.map (fun field => (topEntry field votes).2), count ≤ votes.length := by
    intro count inside
    obtain ⟨field, -, rfl⟩ := List.mem_map.mp inside
    exact topEntry_le field votes
  simpa [totalCount, votedFields] using List.sum_le_card_nsmul _ _ bounded

/-- With three to five votes the exact mean is away from every half of a thousandth. -/
theorem halfUp_mean {total n : Nat} (few : 3 ≤ n) (many : n ≤ 5) {x : ℚ}
    (near : |x - 100 * total / n| ≤ 1 / 100) : halfUp x = (200 * total + n) / (2 * n) := by
  have apart : ∃ r, 200 * total + n = 2 * n * ((200 * total + n) / (2 * n)) + r ∧ n ≤ 6 * r ∧ 6 * r + n ≤ 12 * n := by
    refine ⟨(200 * total + n) % (2 * n), (Nat.div_add_mod _ _).symm, ?_⟩
    interval_cases n <;> omega
  obtain ⟨r, divided, low, high⟩ := apart
  generalize (200 * total + n) / (2 * n) = k at divided ⊢
  have positive : (0 : ℚ) < n := by exact_mod_cast (by omega : 0 < n)
  have exact : (200 * total + n : ℚ) = 2 * n * k + r := by exact_mod_cast divided
  have value : (100 * total / n : ℚ) + 1 / 2 = k + r / (2 * n) := by
    field_simp
    linarith
  have lower : (1 : ℚ) / 12 ≤ r / (2 * n) := by
    rw [le_div_iff₀ (by positivity)]
    have low' : (n : ℚ) ≤ 6 * r := by exact_mod_cast low
    linarith
  have upper : (r : ℚ) / (2 * n) ≤ 11 / 12 := by
    rw [div_le_iff₀ (by positivity)]
    have high' : (6 * r + n : ℚ) ≤ 12 * n := by exact_mod_cast high
    linarith
  refine halfUp_eq_of_near near ?_ ?_ <;> rw [value] <;> linarith

theorem contextError_nonneg : 0 ≤ contextError := by
  unfold contextError
  positivity

theorem contextError_le : contextError ≤ 1 / 1000000 := by
  unfold contextError
  norm_num

theorem meanCount_le {votes : List EnsembleVote} (some : 0 < votes.length) : (totalCount votes : ℚ) / votes.length ≤ 10 := by
  rw [div_le_iff₀ (Nat.cast_pos.mpr some)]
  exact_mod_cast totalCount_le votes

theorem add_near {x y : ℚ} (xLow : 0 ≤ x) (yLow : 0 ≤ y) (high : x + y ≤ 50) :
    0 ≤ add x y ∧ |add x y - (x + y)| ≤ contextError := by
  have below : x + y < 100 := by linarith
  have near := contextRound_rat (add_nonneg xLow yLow) below Nat.one_pos
  simpa [add] using near

/-- The share of a field, and the exact one. -/
theorem share_near {votes : List EnsembleVote} (some : 0 < votes.length) (field : VotedField) :
    0 ≤ divide (topEntry field votes).2 votes.length ∧ 0 ≤ ((topEntry field votes).2 : ℚ) / votes.length ∧
      |divide (topEntry field votes).2 votes.length - ((topEntry field votes).2 : ℚ) / votes.length| ≤ contextError := by
  have most := topEntry_le field votes
  have small : (topEntry field votes).2 < 100 * votes.length := by omega
  obtain ⟨low, close⟩ := contextRound_near some small
  exact ⟨low, by positivity, close⟩

/-- The rounded sum of the rounded shares. -/
theorem shares_near {votes : List EnsembleVote} (some : 0 < votes.length) :
    0 ≤ (votedFields.map (fun field => divide (topEntry field votes).2 votes.length)).foldl add 0 ∧
      |(votedFields.map (fun field => divide (topEntry field votes).2 votes.length)).foldl add 0 -
        totalCount votes / votes.length| ≤ 20 * contextError := by
  have tiny := contextError_le
  have total : (votedFields.map (fun field => ((topEntry field votes).2 : ℚ) / votes.length)).sum =
      totalCount votes / votes.length := by
    simp only [totalCount, votedFields, List.map_cons, List.map_nil, List.sum_cons, List.sum_nil]
    push_cast
    ring
  have bounded := meanCount_le some
  have tens : (votedFields.length : ℚ) = 10 := by norm_num [votedFields]
  obtain ⟨low, close⟩ := foldl_near contextError_nonneg (fun _ _ => add_near) votedFields (fun field _ => share_near some field)
    0 0 0 le_rfl (by simp) (by rw [total, tens]; linarith)
  rw [total, tens] at close
  refine ⟨low, ?_⟩
  calc |(votedFields.map (fun field => divide (topEntry field votes).2 votes.length)).foldl add 0 -
        totalCount votes / votes.length|
      = |(votedFields.map (fun field => divide (topEntry field votes).2 votes.length)).foldl add 0 -
        (0 + totalCount votes / votes.length)| := by rw [zero_add]
    _ ≤ 0 + 2 * 10 * contextError := close
    _ = 20 * contextError := by ring

/-- On the counts of the vote, the rounded arithmetic gives the exact mean rounded half up. -/
theorem perFieldAgreement_eq {votes : List EnsembleVote} (few : 3 ≤ votes.length) (many : votes.length ≤ 5)
    (counts : ∀ field, topCount votes field = (topEntry field votes).2) :
    perFieldAgreement votes = (200 * totalCount votes + votes.length) / (2 * votes.length) := by
  have some : 0 < votes.length := by omega
  have tiny := contextError_le
  have bounded := meanCount_le some
  have tens : (votedFields.length : ℚ) = 10 := by norm_num [votedFields]
  obtain ⟨low, close⟩ := shares_near some
  unfold perFieldAgreement
  rw [if_neg (by omega)]
  simp only [counts]
  generalize (votedFields.map (fun field => divide (topEntry field votes).2 votes.length)).foldl add 0 = sum at low close ⊢
  obtain ⟨below, above⟩ := abs_le.mp close
  have high : sum < 100 := by linarith
  obtain ⟨meanLow, meanClose⟩ := contextRound_rat low high (show 0 < votedFields.length by decide)
  rw [meanThousandths_eq meanLow]
  rw [tens] at meanClose
  obtain ⟨meanBelow, meanAbove⟩ := abs_le.mp meanClose
  refine halfUp_mean few many (abs_le.mpr ⟨?_, ?_⟩)
  · rw [mul_div_assoc]
    linarith
  · rw [mul_div_assoc]
    linarith

/-- The mean over the fields of the share of the votes that agree. -/
def meanAgreement (result : ConsensusResult) : ℚ :=
  (result.agreementPerField.map (fun entry => (entry.2 : ℚ) / result.votes.length)).sum / result.agreementPerField.length

/-- The confidence and the vote see the same agreement: the same counts of the best values, and with a clean
    consensus the confidence is the mean of its agreement, rounded half up to three places. -/
structure SeesSame (votes : List EnsembleVote) : Prop where
  counts : ∀ field, topCount votes field = (topEntry field votes).2
  confidence : ∀ laneId result, majorityConsensus laneId votes = .ok result → result.requiresReview = false →
    ∀ scoredId calibration score, computeConformalScore scoredId votes calibration = .ok score →
      score.confidence = Decimal.thousandths (halfUp (1000 * meanAgreement result))

theorem confidence_of_counts {votes : List EnsembleVote} (counts : ∀ field, topCount votes field = (topEntry field votes).2)
    {laneId : String} {result : ConsensusResult} (returned : majorityConsensus laneId votes = .ok result)
    (clean : result.requiresReview = false) {scoredId : String} {calibration : ConformalCalibration} {score : ConformalScore}
    (scored : computeConformalScore scoredId votes calibration = .ok score) :
    score.confidence = Decimal.thousandths (halfUp (1000 * meanAgreement result)) := by
  obtain ⟨⟨⟨few, many⟩, valid, -⟩, -, votesSame, review, -⟩ := majorityConsensus_spec returned
  rw [votesSame] at few many valid
  obtain ⟨lane, chosen⟩ : ∃ lane, result.consensusLane = some lane := by
    refine Option.ne_none_iff_exists'.mp fun none => ?_
    rw [review.mp none] at clean
    cases clean
  obtain ⟨-, -, ⟨top, isTop, listed⟩, -⟩ := (majorityConsensus_decides laneId few many valid).clean result lane returned chosen
  have tops : top = fun field => (topEntry field votes).2 := funext fun field => (isTop field).unique (topEntry_isTop field votes)
  have mean : meanAgreement result = totalCount votes / votes.length / 10 := by
    unfold meanAgreement
    rw [votesSame, listed, tops]
    simp only [totalCount, votedFields, List.map_cons, List.map_nil, List.sum_cons, List.sum_nil, List.length_cons,
      List.length_nil]
    push_cast
    ring
  have exact : halfUp (1000 * meanAgreement result) = (200 * totalCount votes + votes.length) / (2 * votes.length) := by
    refine halfUp_mean few many ?_
    rw [mean, show (1000 : ℚ) * (totalCount votes / votes.length / 10) - 100 * totalCount votes / votes.length = 0 by ring]
    norm_num
  obtain ⟨-, rfl⟩ := checked_eq_ok.mp scored
  have most := totalCount_le votes
  have atMost : (200 * totalCount votes + votes.length) / (2 * votes.length) ≤ 1000 := by
    rw [Nat.div_le_iff_le_mul_add_pred (by omega)]
    omega
  rw [exact, perFieldAgreement_eq few many counts]
  simp only
  congr 1
  omega

/-- The confidence sees the agreement of the vote exactly when the votes for the best surcharges list them alike. -/
theorem seesSame_iff (votes : List EnsembleVote) (voted : votes ≠ []) : SeesSame votes ↔ ListedAlike votes := by
  constructor
  · intro same
    exact (topCount_surcharges voted).mp (same.counts .surcharges)
  · intro alike
    have counts : ∀ field, topCount votes field = (topEntry field votes).2 := by
      intro field
      by_cases surcharges : field = .surcharges
      · subst surcharges
        exact (topCount_surcharges voted).mpr alike
      · exact topCount_eq surcharges votes
    exact ⟨counts, fun _ _ returned clean _ _ _ scored => confidence_of_counts counts returned clean scored⟩

theorem seesSame_iff_unanimous : unanimous ≠ [] ∧ (SeesSame unanimous ↔ ListedAlike unanimous) :=
  ⟨by decide, seesSame_iff unanimous (by decide)⟩

theorem reordered_not_alike : ¬ ListedAlike reordered := by decide +kernel

/-- Of three votes with the same surcharges, one in another order, the confidence sees two that agree. -/
theorem order_lowers_confidence :
    ¬ ∀ votes : List EnsembleVote, votes ≠ [] → (∀ vote ∈ votes, vote.Valid) → SeesSame votes := by
  intro all
  have same := all reordered (by decide) reordered_valid
  exact reordered_not_alike ((topCount_surcharges (by decide)).mp (same.counts .surcharges))

end Onramp.Agreement
