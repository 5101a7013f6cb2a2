import Onramp.Models

/-!
Port-code resolution against the reference tables: a direct UN/LOCODE hit, a
carrier alias, the IATA fallback, or unresolved.
-/
namespace Onramp.Ports
open Onramp.Python
open Onramp.Values
open Onramp.Models
open Onramp.Library.Keyed (Table find)

/-- The codes of `un_locode_reference`, and the targets of `carrier_port_aliases`. -/
structure Reference where
  unLocodeReference : List String
  carrierPortAliases : Table String String

/-- `ResolvedPortCode.resolution_method`. -/
inductive ResolutionMethod
  | directUnlocode | carrierAliasTable | iataFallback | unresolved
  deriving DecidableEq

structure ResolvedPortCode where
  canonical : Option PortCode
  sourceAlias : String
  resolutionMethod : ResolutionMethod
  deriving DecidableEq

def ResolvedPortCode.Valid (resolved : ResolvedPortCode) : Prop := lengthWithin 2 16 resolved.sourceAlias

instance : DecidablePred ResolvedPortCode.Valid := fun _ => inferInstanceAs (Decidable (lengthWithin ..))

def iataFallback : Table String String :=
  [("JFK", "USNYC"), ("LAX", "USLAX"), ("LHR", "GBLON"), ("FRA", "DEFRA"), ("AMS", "NLAMS"), ("HKG", "HKHKG"),
    ("SHA", "CNSHA"), ("SIN", "SGSIN")]

variable (platform : Platform) (reference : Reference)

/-- `lookup_canonical_code`: the code of the row found. -/
def lookupCanonicalCode (code : String) : Option String :=
  reference.unLocodeReference.find? (fun row => row = platform.upper code)

/-- `lookup_alias`: the target of the row found. -/
def lookupAlias (portAlias : String) : Option String := find (platform.upper portAlias) reference.carrierPortAliases

/-- `ResolvedPortCode(canonical=PortCode(code=code), ...)`. -/
def resolvedTo (code raw : String) (resolutionMethod : ResolutionMethod) : Raises ResolvedPortCode := do
  let canonical ← checked "PortCode" PortCode.Valid ⟨code⟩
  checked "ResolvedPortCode" ResolvedPortCode.Valid ⟨some canonical, raw, resolutionMethod⟩

/-- The direct branch: a candidate of UN/LOCODE shape that the table has. -/
def directHit (candidate : String) : Option String :=
  if unlocodeMatch candidate then lookupCanonicalCode platform reference candidate else none

/-- The IATA branch: a key of the fallback whose target the table has. -/
def iataHit (candidate : String) : Option String :=
  if candidate.length = 3 then
    (find candidate iataFallback).bind (fun canonicalCode => lookupCanonicalCode platform reference canonicalCode)
  else none

def resolvePortCode (raw : String) : Raises ResolvedPortCode :=
  let candidate := platform.upper (strip raw)
  match directHit platform reference candidate with
  | some code => resolvedTo code raw .directUnlocode
  | none =>
    match lookupAlias platform reference candidate with
    | some canonical => resolvedTo canonical raw .carrierAliasTable
    | none =>
      match iataHit platform reference candidate with
      | some code => resolvedTo code raw .iataFallback
      | none => checked "ResolvedPortCode" ResolvedPortCode.Valid ⟨none, raw, .unresolved⟩

theorem resolvedTo_eq_ok {code raw : String} {resolutionMethod : ResolutionMethod} {resolved : ResolvedPortCode} :
    resolvedTo code raw resolutionMethod = .ok resolved ↔
      PortCode.Valid ⟨code⟩ ∧ ResolvedPortCode.Valid ⟨some ⟨code⟩, raw, resolutionMethod⟩ ∧
        resolved = ⟨some ⟨code⟩, raw, resolutionMethod⟩ := by
  unfold resolvedTo
  by_cases shaped : PortCode.Valid ⟨code⟩
  · simp only [checked_of_valid shaped, bind, Except.bind, checked_eq_ok, shaped, true_and]
    exact and_congr_right (fun _ => eq_comm)
  · simp [checked, shaped, bind, Except.bind]

theorem resolvePortCode_valid {raw : String} {resolved : ResolvedPortCode} {port : PortCode}
    (returned : resolvePortCode platform reference raw = .ok resolved) (found : resolved.canonical = some port) :
    port.Valid := by
  unfold resolvePortCode at returned
  simp only at returned
  split at returned
  · obtain ⟨shaped, _, rfl⟩ := resolvedTo_eq_ok.mp returned
    exact Option.some.inj found ▸ shaped
  · split at returned
    · obtain ⟨shaped, _, rfl⟩ := resolvedTo_eq_ok.mp returned
      exact Option.some.inj found ▸ shaped
    · split at returned
      · obtain ⟨shaped, _, rfl⟩ := resolvedTo_eq_ok.mp returned
        exact Option.some.inj found ▸ shaped
      · obtain ⟨_, rfl⟩ := checked_eq_ok.mp returned
        cases found

/-- The code of the branch that finds one: a direct hit, else an alias, else the IATA
    fallback. -/
def canonicalOf (raw : String) : Option String :=
  let candidate := platform.upper (strip raw)
  (directHit platform reference candidate).or
    ((lookupAlias platform reference candidate).or (iataHit platform reference candidate))

/-- A port string with a canonical code of UN/LOCODE shape is resolved to it. -/
theorem resolvePortCode_known {raw code : String} (known : canonicalOf platform reference raw = some code)
    (shaped : PortCode.Valid ⟨code⟩) (bounded : lengthWithin 2 16 raw) :
    ∃ resolved, resolvePortCode platform reference raw = .ok resolved ∧ resolved.canonical = some ⟨code⟩ := by
  have built : ∀ method, resolvedTo code raw method = .ok ⟨some ⟨code⟩, raw, method⟩ :=
    fun method => resolvedTo_eq_ok.mpr ⟨shaped, bounded, rfl⟩
  unfold canonicalOf at known
  unfold resolvePortCode
  simp only at known ⊢
  cases direct : directHit platform reference (platform.upper (strip raw)) with
  | some found =>
    rw [direct, Option.some_or] at known
    cases known
    exact ⟨_, built _, rfl⟩
  | none =>
    rw [direct, Option.none_or] at known
    cases listed : lookupAlias platform reference (platform.upper (strip raw)) with
    | some found =>
      rw [listed, Option.some_or] at known
      cases known
      exact ⟨_, built _, rfl⟩
    | none =>
      rw [listed, Option.none_or] at known
      rw [known]
      exact ⟨_, built _, rfl⟩

end Onramp.Ports
