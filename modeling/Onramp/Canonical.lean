import Mathlib.Data.List.Perm.Basic
import Onramp.Reprs
import Onramp.Consensus

/-!
What the canonical form of a voted field tells apart. A dump is written so that it can be
read back, whatever the texts in it, so two lanes have the same canonical form of a field
exactly when they have the same value there: a decimal with its digits and its exponent,
and the surcharges in any order.
-/
namespace Onramp.Canonical
open Onramp.Library.Codes
open Onramp.Python
open Onramp.Values
open Onramp.Models
open Onramp.Consensus
open Onramp.Reprs

theorem sortStrings_perm (items : List String) : (sortStrings items).Perm items := List.perm_insertionSort _ items

theorem sortStrings_eq_iff {items others : List String} : sortStrings items = sortStrings others ↔ items.Perm others := by
  constructor
  · intro same
    exact (sortStrings_perm items).symm.trans (same ▸ sortStrings_perm others)
  · intro perm
    have total : Std.Total (α := String) (· ≤ ·) := ⟨String.le_total⟩
    have trans : IsTrans String (· ≤ ·) := ⟨fun _ _ _ => String.le_trans⟩
    refine @List.Perm.eq_of_pairwise _ (· ≤ ·) _ _ (fun _ _ _ _ => String.le_antisymm)
      (List.pairwise_insertionSort _ _) (List.pairwise_insertionSort _ _) ?_
    exact (sortStrings_perm items).trans (perm.trans (sortStrings_perm others).symm)

theorem sortPairs_perm (pairs : List (String × String)) : (sortPairs pairs).Perm pairs := List.perm_insertionSort _ pairs

/-- Tables with the same distinct keys in the same order have the same entries when they have the same entries in some
    order. -/
theorem eq_of_perm_of_keys {α β : Type} {pairs others : List (α × β)} (perm : pairs.Perm others)
    (keys : pairs.map Prod.fst = others.map Prod.fst) (distinct : (pairs.map Prod.fst).Nodup) : pairs = others := by
  have length : pairs.length = others.length := perm.length_eq
  refine List.ext_getElem length ?_
  intro i low high
  obtain ⟨j, inside, found⟩ := List.getElem_of_mem (perm.mem_iff.mp (List.getElem_mem low))
  have lowKey : i < (pairs.map Prod.fst).length := by simpa using low
  have insideKey : j < (pairs.map Prod.fst).length := by simpa [length] using inside
  have key : pairs[i].1 = (pairs.map Prod.fst)[i] := by simp
  have keyFound : others[j].1 = (pairs.map Prod.fst)[j] := by simp [keys]
  have position : i = j := (List.Nodup.getElem_inj_iff distinct).mp (by rw [← key, ← keyFound, found])
  subst position
  exact found.symm

theorem listRepr_strings_injective {items others : List String}
    (same : listRepr (items.map strRepr) = listRepr (others.map strRepr)) : items = others :=
  (listRepr_selfDelimiting strRepr_selfDelimiting (strRepr_apart (by decide) (by decide))).injective
    (congrArg String.toList same)

/-- The `repr` of a pair of strings. -/
def pairRepr (pair : String × String) : String := s!"({strRepr pair.1}, {strRepr pair.2})"

theorem toList_pairRepr (pair : String × String) : (pairRepr pair).toList =
    ['('] ++ ((strRepr pair.1).toList ++ ([',', ' '] ++ ((strRepr pair.2).toList ++ [')']))) := by
  have paren : "(".toList = ['('] := rfl
  have comma : ", ".toList = [',', ' '] := rfl
  have close : ")".toList = [')'] := rfl
  simp only [pairRepr, toString, String.toList_append, paren, comma, close, List.append_assoc]

theorem pairRepr_selfDelimiting : SelfDelimiting (fun pair => (pairRepr pair).toList) := by
  simp only [toList_pairRepr]
  have second := (strRepr_selfDelimiting.after [')']).before [',', ' ']
  exact (strRepr_selfDelimiting.pair second).before ['(']

theorem pairRepr_apart : StartsApart ']' (fun pair => (pairRepr pair).toList) := by
  intro pair
  exact ⟨'(', _, toList_pairRepr pair, by decide⟩

theorem map_fst_canonicalMembers (members : List (String × Json)) :
    (canonicalMembers members).map Prod.fst = members.map Prod.fst := by
  induction members with
  | nil => rfl
  | cons member rest ih =>
    obtain ⟨name, value⟩ := member
    simp [canonicalMembers, ih]

/-- Dumps of one model have the same canonical form only if their members have. -/
theorem canonicalMembers_eq {members others : List (String × Json)} (names : members.map Prod.fst = others.map Prod.fst)
    (distinct : (members.map Prod.fst).Nodup) (same : canonicalModel (.obj members) = canonicalModel (.obj others)) :
    canonicalMembers members = canonicalMembers others := by
  have written : canonicalJson (.obj members) = canonicalJson (.obj others) := strRepr_injective same
  unfold canonicalJson at written
  have sorted : sortPairs (canonicalMembers members) = sortPairs (canonicalMembers others) :=
    (listRepr_selfDelimiting pairRepr_selfDelimiting pairRepr_apart).injective (congrArg String.toList written)
  have perm : (canonicalMembers members).Perm (canonicalMembers others) :=
    (sortPairs_perm _).symm.trans (sorted ▸ sortPairs_perm _)
  refine eq_of_perm_of_keys perm ?_ ?_
  · rw [map_fst_canonicalMembers, map_fst_canonicalMembers, names]
  · rw [map_fst_canonicalMembers]
    exact distinct

theorem canonicalJson_str (s : String) : canonicalJson (.str s) = strRepr s := rfl

theorem canonicalJson_int (n : Int) : canonicalJson (.int n) = Int.repr n := rfl

theorem literal_injective {e f : EquipmentType} (same : e.literal = f.literal) : e = f :=
  congrArg EquipmentType.mk same

theorem basis_injective {b c : SurchargeBasis} (same : b.literal = c.literal) : b = c :=
  congrArg SurchargeBasis.mk same

theorem canonicalModel_port {a b : PortCode} (same : canonicalModel a.modelDump = canonicalModel b.modelDump) : a = b := by
  have members := canonicalMembers_eq (by rfl) (by simp) same
  simp only [canonicalMembers, canonicalJson_str, List.cons.injEq, Prod.mk.injEq] at members
  cases a
  cases b
  simpa using strRepr_injective members.1.2

theorem canonicalModel_row {a b : SourceRow} (same : canonicalModel a.modelDump = canonicalModel b.modelDump) : a = b := by
  have members := canonicalMembers_eq (by rfl) (by simp) same
  simp only [canonicalMembers, canonicalJson_str, canonicalJson_int, List.cons.injEq, Prod.mk.injEq] at members
  obtain ⟨⟨-, sheet⟩, ⟨-, row⟩, ⟨-, cell⟩, -⟩ := members
  have number : (a.rowNumber : Int) = b.rowNumber := intRepr_injective row
  cases a
  cases b
  simp only [SourceRow.mk.injEq]
  exact ⟨strRepr_injective sheet, by simpa using number, strRepr_injective cell⟩

theorem canonicalModel_surcharge {a b : SurchargeRecord}
    (same : canonicalModel a.modelDump = canonicalModel b.modelDump) : a = b := by
  have members := canonicalMembers_eq (by rfl) (by simp) same
  simp only [canonicalMembers, canonicalJson_str, List.cons.injEq, Prod.mk.injEq] at members
  obtain ⟨⟨-, code⟩, ⟨-, amount⟩, ⟨-, basis⟩, -⟩ := members
  cases a
  cases b
  simp only [SurchargeRecord.mk.injEq]
  exact ⟨strRepr_injective code, decimalStr_injective (strRepr_injective amount), basis_injective (strRepr_injective basis)⟩

/-- The lanes have the same value in the field, the surcharges in any order. -/
def SameField (field : VotedField) (a b : LaneRecord) : Prop :=
  match field with
  | .originPort => a.originPort = b.originPort
  | .destinationPort => a.destinationPort = b.destinationPort
  | .equipmentType => a.equipmentType = b.equipmentType
  | .commodityCode => a.commodityCode = b.commodityCode
  | .baseRateUsd => a.baseRateUsd = b.baseRateUsd
  | .transitTimeDays => a.transitTimeDays = b.transitTimeDays
  | .validityStart => a.validityStart = b.validityStart
  | .validityEnd => a.validityEnd = b.validityEnd
  | .surcharges => a.surcharges.Perm b.surcharges
  | .sourceRowReference => a.sourceRowReference = b.sourceRowReference

instance (field : VotedField) (a b : LaneRecord) : Decidable (SameField field a b) :=
  match field with
  | .originPort => inferInstanceAs (Decidable (a.originPort = b.originPort))
  | .destinationPort => inferInstanceAs (Decidable (a.destinationPort = b.destinationPort))
  | .equipmentType => inferInstanceAs (Decidable (a.equipmentType = b.equipmentType))
  | .commodityCode => inferInstanceAs (Decidable (a.commodityCode = b.commodityCode))
  | .baseRateUsd => inferInstanceAs (Decidable (a.baseRateUsd = b.baseRateUsd))
  | .transitTimeDays => inferInstanceAs (Decidable (a.transitTimeDays = b.transitTimeDays))
  | .validityStart => inferInstanceAs (Decidable (a.validityStart = b.validityStart))
  | .validityEnd => inferInstanceAs (Decidable (a.validityEnd = b.validityEnd))
  | .surcharges => inferInstanceAs (Decidable (a.surcharges.Perm b.surcharges))
  | .sourceRowReference => inferInstanceAs (Decidable (a.sourceRowReference = b.sourceRowReference))

/-- A surcharge with its amount as a number. -/
def meaning (surcharge : SurchargeRecord) : String × ℚ × SurchargeBasis :=
  (surcharge.code, surcharge.amountUsd.toRat, surcharge.appliesPer)

/-- The lanes have equal values in the field: decimals are compared as numbers, the surcharges
    as a multiset. -/
def EqualField (field : VotedField) (a b : LaneRecord) : Prop :=
  match field with
  | .baseRateUsd => a.baseRateUsd.toRat = b.baseRateUsd.toRat
  | .surcharges => (a.surcharges.map meaning).Perm (b.surcharges.map meaning)
  | other => SameField other a b

theorem EqualField.of_same {field : VotedField} {a b : LaneRecord} (same : SameField field a b) : EqualField field a b := by
  cases field with
  | baseRateUsd => exact congrArg Decimal.toRat same
  | surcharges => exact List.Perm.map meaning same
  | _ => exact same

/-- `None` is no `repr` of a string and no number. -/
theorem canonical_optional {α : Type} {render : α → String} (injective : ∀ a b, render a = render b → a = b)
    (written : ∀ a, render a ≠ "None") {a b : Option α}
    (same : (a.map render).getD "None" = (b.map render).getD "None") : a = b := by
  cases a with
  | none =>
    cases b with
    | none => rfl
    | some b => exact absurd same.symm (written b)
  | some a =>
    cases b with
    | none => exact absurd same (written a)
    | some b => exact congrArg some (injective a b same)

theorem strRepr_ne_none (s : String) : strRepr s ≠ "None" := by
  intro same
  have first := congrArg String.toList same
  rw [toList_strRepr] at first
  have quote : reprQuote s = 'N' := (List.cons.inj first).1
  rcases reprQuote_quotes s with single | double
  · rw [single] at quote
    exact absurd quote (by decide)
  · rw [double] at quote
    exact absurd quote (by decide)

theorem intRepr_ne_none (n : Int) : Int.repr n ≠ "None" := by
  intro same
  have first := congrArg String.toList same
  rw [toList_intRepr] at first
  have none : "None".toList = ['N', 'o', 'n', 'e'] := rfl
  obtain ⟨c, rest, digits, digit⟩ := head_toDigits n.natAbs
  rw [digits, none] at first
  split_ifs at first
  · exact absurd (List.cons.inj first).1 (by decide)
  · rw [(List.cons.inj first).1] at digit
    exact absurd digit (by decide)

/-- The surcharges have the same canonical form exactly when they are the same in some order. -/
theorem canonical_surcharges {items others : List SurchargeRecord} :
    canonical (.surcharges items) = canonical (.surcharges others) ↔ items.Perm others := by
  have injective : Function.Injective (fun item : SurchargeRecord => canonicalModel item.modelDump) :=
    fun _ _ => canonicalModel_surcharge
  constructor
  · intro same
    have sorted := sortStrings_eq_iff.mp (listRepr_strings_injective same)
    exact (List.map_perm_map_iff injective).mp sorted
  · intro perm
    have sorted := sortStrings_eq_iff.mpr (perm.map (fun item => canonicalModel item.modelDump))
    simp only [canonical, sorted]

/-- The canonical forms of a field are the same exactly when the values are. -/
theorem canonical_eq_iff (field : VotedField) (a b : LaneRecord) :
    canonical (getField a field) = canonical (getField b field) ↔ SameField field a b := by
  cases field with
  | originPort => exact ⟨canonicalModel_port, fun same => by simp only [getField, show a.originPort = b.originPort from same]⟩
  | destinationPort =>
    exact ⟨canonicalModel_port, fun same => by simp only [getField, show a.destinationPort = b.destinationPort from same]⟩
  | equipmentType =>
    constructor
    · intro same
      exact literal_injective (strRepr_injective same)
    · intro same
      simp only [getField, show a.equipmentType = b.equipmentType from same]
  | commodityCode =>
    constructor
    · exact canonical_optional (fun _ _ => strRepr_injective) strRepr_ne_none
    · intro same
      simp only [getField, show a.commodityCode = b.commodityCode from same]
  | baseRateUsd => exact ⟨decimalStr_injective, fun same => by simp only [getField, show a.baseRateUsd = b.baseRateUsd from same]⟩
  | transitTimeDays =>
    constructor
    · exact canonical_optional (fun _ _ => intRepr_injective) intRepr_ne_none
    · intro same
      simp only [getField, show a.transitTimeDays = b.transitTimeDays from same]
  | validityStart => exact ⟨dateRepr_injective, fun same => by simp only [getField, show a.validityStart = b.validityStart from same]⟩
  | validityEnd => exact ⟨dateRepr_injective, fun same => by simp only [getField, show a.validityEnd = b.validityEnd from same]⟩
  | surcharges => exact canonical_surcharges
  | sourceRowReference =>
    exact ⟨canonicalModel_row, fun same => by simp only [getField, show a.sourceRowReference = b.sourceRowReference from same]⟩

/-- Votes are counted together exactly when their values are the same, written alike: values that are not equal
    never collide, and outside of the decimals all equal values are counted together. -/
theorem canonical_iff_same (field : VotedField) (a b : LaneRecord) :
    (canonical (getField a field) = canonical (getField b field) ↔ SameField field a b) ∧
      (canonical (getField a field) = canonical (getField b field) → EqualField field a b) ∧
      (field ≠ .baseRateUsd → field ≠ .surcharges →
        (canonical (getField a field) = canonical (getField b field) ↔ EqualField field a b)) := by
  refine ⟨canonical_eq_iff field a b, fun same => EqualField.of_same ((canonical_eq_iff field a b).mp same), ?_⟩
  intro notRate notSurcharges
  rw [canonical_eq_iff]
  refine ⟨EqualField.of_same, fun equal => ?_⟩
  cases field with
  | baseRateUsd => exact absurd rfl notRate
  | surcharges => exact absurd rfl notSurcharges
  | _ => exact equal

/-- A lane from Shanghai to Rotterdam at this rate. -/
def pricedLane (rate : Decimal) (surcharges : List SurchargeRecord) : LaneRecord where
  laneId := "L1"
  originPort := ⟨"CNSHA"⟩
  destinationPort := ⟨"NLRTM"⟩
  equipmentType := .hc40
  commodityCode := none
  baseRateUsd := rate
  surcharges := surcharges
  transitTimeDays := some 30
  validityStart := ⟨2026, 6, 1⟩
  validityEnd := ⟨2026, 6, 30⟩
  sourceRowReference := ⟨"Rates", 2, "A2"⟩

/-- 2100 and 2100.00 are one rate with two canonical forms. -/
theorem equal_rates_apart : ¬ ∀ (field : VotedField) (a b : LaneRecord), a.Valid → b.Valid →
    (canonical (getField a field) = canonical (getField b field) ↔ EqualField field a b) := by
  intro all
  have whole := all .baseRateUsd (pricedLane ⟨false, 2100, 0⟩ []) (pricedLane ⟨false, 210000, -2⟩ []) (by decide) (by decide)
  have equal : EqualField .baseRateUsd (pricedLane ⟨false, 2100, 0⟩ []) (pricedLane ⟨false, 210000, -2⟩ []) :=
    show (Decimal.mk false 2100 0).toRat = (Decimal.mk false 210000 (-2)).toRat by decide
  have same := (canonical_eq_iff _ _ _).mp (whole.mpr equal)
  exact absurd same (by decide)

end Onramp.Canonical
