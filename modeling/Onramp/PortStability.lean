import Mathlib.Data.List.TakeWhile
import Onramp.Placement

/-!
Port resolution under repetition, letter case and padding. What a string is resolved to
depends on its trimmed upper-case form only, every code that is found is a row of the
reference table, and such a row is always a direct hit.
-/
namespace Onramp.PortStability
open Onramp.Python
open Onramp.Values
open Onramp.Models
open Onramp.Ports
open Onramp.Placement
open Onramp.Library.Keyed (Table find mem_of_find)

/-- `str.upper` takes a text character by character. -/
def UpperAppends (platform : Platform) : Prop := ∀ s t, platform.upper (s ++ t) = platform.upper s ++ platform.upper t

/-- The codes of the reference table have the shape of a UN/LOCODE in upper case. -/
def Shaped (reference : Reference) : Prop := ∀ code ∈ reference.unLocodeReference, unlocodeExact code = true

instance : DecidablePred Shaped := fun reference =>
  inferInstanceAs (Decidable (∀ code ∈ reference.unLocodeReference, unlocodeExact code = true))

/-- Two texts that differ in ASCII letter case and in surrounding whitespace only. -/
inductive Variant : String → String → Prop
  | intro {front core back front' core' back' : List Char} (cased : core.map Char.toUpper = core'.map Char.toUpper)
    (blank : ∀ c ∈ front ++ back, isSpace c = true) (blank' : ∀ c ∈ front' ++ back', isSpace c = true) :
    Variant (String.ofList (front ++ core ++ back)) (String.ofList (front' ++ core' ++ back'))

/-- A resolved code is resolved to itself, the variants of the text are resolved as it is, and
    a code of the reference table goes nowhere else. -/
structure Stable (platform : Platform) (reference : Reference) (raw : String) (resolved : ResolvedPortCode) : Prop where
  again : ∀ port, resolved.canonical = some port →
    resolvePortCode platform reference port.code = .ok ⟨some port, port.code, .directUnlocode⟩
  variants : ∀ variant, lengthWithin 2 16 variant → Variant raw variant →
    resolvePortCode platform reference variant = .ok { resolved with sourceAlias := variant }
  listed : platform.upper (strip raw) ∈ reference.unLocodeReference →
    resolved = ⟨some ⟨platform.upper (strip raw)⟩, raw, .directUnlocode⟩

variable {platform : Platform} {reference : Reference}

theorem toUpper_ascii {c : Char} (small : c.toNat < 128) :
    c.toUpper.toNat < 128 ∧ c.toUpper.toUpper = c.toUpper ∧ isSpace c.toUpper = isSpace c := by
  have each : ∀ n : Fin 128, (Char.ofNat n).toUpper.toNat < 128 ∧ (Char.ofNat n).toUpper.toUpper = (Char.ofNat n).toUpper ∧
      isSpace (Char.ofNat n).toUpper = isSpace (Char.ofNat n) := by decide
  simpa using each ⟨c.toNat, small⟩

theorem toUpper_other {c : Char} (large : ¬ c.toNat < 128) : c.toUpper = c := by
  unfold Char.toUpper
  rw [dif_neg]
  rintro ⟨-, high⟩
  have small : c.toNat ≤ 122 := UInt32.le_iff_toNat_le.mp high
  omega

theorem isSpace_toUpper (c : Char) : isSpace c.toUpper = isSpace c := by
  by_cases small : c.toNat < 128
  · exact (toUpper_ascii small).2.2
  · rw [toUpper_other small]

theorem upper_char (c : Char) : platform.upper (String.ofList [c]) = platform.upper (String.ofList [c.toUpper]) := by
  by_cases small : c.toNat < 128
  · obtain ⟨small', twice, _⟩ := toUpper_ascii small
    rw [platform.upper_ascii _ (by simpa [Ascii] using small), platform.upper_ascii _ (by simpa [Ascii] using small')]
    simp [twice]
  · rw [toUpper_other small]

/-- The ASCII letters of a text count for the same in either case. -/
theorem upper_map_toUpper (appends : UpperAppends platform) (chars : List Char) :
    platform.upper (String.ofList (chars.map Char.toUpper)) = platform.upper (String.ofList chars) := by
  induction chars with
  | nil => rfl
  | cons c rest ih =>
    have split : ∀ (c : Char) (rest : List Char), String.ofList (c :: rest) = String.ofList [c] ++ String.ofList rest :=
      fun c rest => by rw [← String.ofList_append]; rfl
    rw [List.map_cons, split, split c, appends, appends, ih, ← upper_char]

/-- `strip` on characters. -/
def trim (chars : List Char) : List Char := ((chars.dropWhile isSpace).reverse.dropWhile isSpace).reverse

theorem strip_ofList (chars : List Char) : strip (String.ofList chars) = String.ofList (trim chars) := by
  rw [strip, String.toList_ofList, trim]

theorem trim_padded {front core back : List Char} (blank : ∀ c ∈ front ++ back, isSpace c = true) :
    trim (front ++ core ++ back) = trim core := by
  have before : ∀ c ∈ front, isSpace c = true := fun c inside => blank c (List.mem_append_left _ inside)
  have behind : ∀ c ∈ back.reverse, isSpace c = true :=
    fun c inside => blank c (List.mem_append_right _ (List.mem_reverse.mp inside))
  have only : back.dropWhile isSpace = [] :=
    List.dropWhile_eq_nil_iff.mpr (fun c inside => behind c (List.mem_reverse.mpr inside))
  rw [trim, trim, List.append_assoc, List.dropWhile_append_of_pos before, List.dropWhile_append]
  by_cases empty : (core.dropWhile isSpace).isEmpty = true
  · rw [if_pos empty, only, List.isEmpty_iff.mp empty]
  · rw [if_neg empty, List.reverse_append, List.dropWhile_append_of_pos behind]

theorem trim_map_toUpper (chars : List Char) : trim (chars.map Char.toUpper) = (trim chars).map Char.toUpper := by
  have same : isSpace ∘ Char.toUpper = isSpace := funext isSpace_toUpper
  rw [trim, List.dropWhile_map, same, ← List.map_reverse, List.dropWhile_map, same, ← List.map_reverse, trim]

/-- Variants have one candidate. -/
theorem upper_strip_variant (appends : UpperAppends platform) {raw variant : String} (differs : Variant raw variant) :
    platform.upper (strip variant) = platform.upper (strip raw) := by
  obtain ⟨cased, blank, blank'⟩ := differs
  rw [strip_ofList, strip_ofList, trim_padded blank, trim_padded blank', ← upper_map_toUpper appends,
    ← upper_map_toUpper appends (trim _), ← trim_map_toUpper, ← trim_map_toUpper, cased]

/-- The canonical code of a candidate, and the branch that finds it. -/
def branchOf (platform : Platform) (reference : Reference) (candidate : String) : Option PortCode × ResolutionMethod :=
  match directHit platform reference candidate with
  | some code => (some ⟨code⟩, .directUnlocode)
  | none =>
    match lookupAlias platform reference candidate with
    | some canonical => (some ⟨canonical⟩, .carrierAliasTable)
    | none =>
      match iataHit platform reference candidate with
      | some code => (some ⟨code⟩, .iataFallback)
      | none => (none, .unresolved)

theorem listed_of_directHit {candidate code : String} (hit : directHit platform reference candidate = some code) :
    code ∈ reference.unLocodeReference := by
  unfold directHit at hit
  split at hit
  · exact (lookupCanonicalCode_eq_some hit).1
  · cases hit

theorem listed_of_lookupAlias (foreignKey : ForeignKey reference) {candidate code : String}
    (hit : lookupAlias platform reference candidate = some code) : code ∈ reference.unLocodeReference :=
  foreignKey _ (mem_of_find hit)

theorem listed_of_iataHit {candidate code : String} (hit : iataHit platform reference candidate = some code) :
    code ∈ reference.unLocodeReference := by
  unfold iataHit at hit
  split at hit
  · obtain ⟨target, -, found⟩ := Option.bind_eq_some_iff.mp hit
    exact (lookupCanonicalCode_eq_some found).1
  · cases hit

theorem branchOf_code (foreignKey : ForeignKey reference) {candidate : String} {port : PortCode}
    (found : (branchOf platform reference candidate).1 = some port) : port.code ∈ reference.unLocodeReference := by
  unfold branchOf at found
  split at found
  · next code direct =>
    cases found
    exact listed_of_directHit direct
  · split at found
    · next code aliased =>
      cases found
      exact listed_of_lookupAlias foreignKey aliased
    · split at found
      · next code fallback =>
        cases found
        exact listed_of_iataHit fallback
      · cases found

/-- A row of the reference table is a direct hit. -/
theorem branchOf_listed (shaped : Shaped reference) {code : String} (listed : code ∈ reference.unLocodeReference) :
    branchOf platform reference code = (some ⟨code⟩, .directUnlocode) := by
  have exact := shaped code listed
  have hit : directHit platform reference code = some code := by
    rw [directHit, if_pos (unlocodeMatch_of_exact exact), lookupCanonicalCode, upper_of_exact platform exact]
    cases found : reference.unLocodeReference.find? (fun row => row = code) with
    | none => simpa using List.find?_eq_none.mp found code listed
    | some row =>
      have same : row = code := by simpa using List.find?_some found
      rw [same]
  rw [branchOf, hit]

/-- The resolution is the branch of the candidate. -/
theorem resolvePortCode_eq (foreignKey : ForeignKey reference) (shaped : Shaped reference) {raw : String}
    (bounded : lengthWithin 2 16 raw) :
    resolvePortCode platform reference raw =
      .ok ⟨(branchOf platform reference (platform.upper (strip raw))).1, raw,
        (branchOf platform reference (platform.upper (strip raw))).2⟩ := by
  have built : ∀ code method, code ∈ reference.unLocodeReference →
      resolvedTo code raw method = .ok ⟨some ⟨code⟩, raw, method⟩ :=
    fun code method listed => resolvedTo_eq_ok.mpr ⟨shaped code listed, bounded, rfl⟩
  unfold resolvePortCode branchOf
  simp only
  cases direct : directHit platform reference (platform.upper (strip raw)) with
  | some code => exact built _ _ (listed_of_directHit direct)
  | none =>
    cases aliased : lookupAlias platform reference (platform.upper (strip raw)) with
    | some code => exact built _ _ (listed_of_lookupAlias foreignKey aliased)
    | none =>
      cases fallback : iataHit platform reference (platform.upper (strip raw)) with
      | some code => exact built _ _ (listed_of_iataHit fallback)
      | none => exact checked_of_valid bounded

/-- Every string of 2 to 16 characters is resolved, and stably. -/
theorem resolvePortCode_stable (platform : Platform) (appends : UpperAppends platform) (reference : Reference)
    (shaped : Shaped reference) (foreignKey : ForeignKey reference) (raw : String) (bounded : lengthWithin 2 16 raw) :
    ∃ resolved, resolvePortCode platform reference raw = .ok resolved ∧ Stable platform reference raw resolved := by
  refine ⟨_, resolvePortCode_eq foreignKey shaped bounded, ?_, ?_, ?_⟩
  · intro port found
    have listed := branchOf_code foreignKey found
    have exact := shaped port.code listed
    have length := length_of_exact exact
    rw [resolvePortCode_eq foreignKey shaped (by rw [lengthWithin, length]; omega), strip_of_exact exact,
      upper_of_exact platform exact, branchOf_listed shaped listed]
  · intro variant bounded' differs
    rw [resolvePortCode_eq foreignKey shaped bounded', upper_strip_variant appends differs]
  · intro listed
    rw [branchOf_listed shaped listed]

/-- A reference table with a port and an alias of it. -/
def newYork : Reference := ⟨["NLRTM", "USNYC"], [("NEW YORK", "USNYC")]⟩

/-- An alias in mixed case with a space in front. -/
theorem resolvePortCode_stable_newYork :
    ∃ resolved, resolvePortCode (asciiPlatform [] sampleDigest sampleDigest_length) newYork " New York" = .ok resolved ∧
      Stable (asciiPlatform [] sampleDigest sampleDigest_length) newYork " New York" resolved :=
  resolvePortCode_stable _ (by intro s t; simp [asciiPlatform, String.ofList_append]) newYork (by decide)
    (by simp [ForeignKey, newYork]) " New York" (by decide)

end Onramp.PortStability
