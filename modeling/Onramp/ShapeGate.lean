import Onramp.Excel
import Onramp.Screening

/-!
The one pattern of a port code in two engines. `$` in Python's `re` also holds before a newline
at the end of the string, in the engine of the schema only at the very end. So the scan of a
reply and R1 agree with `PortCode` on every pair of codes but those that a trailing newline
alone keeps out of the schema.
-/
namespace Onramp.ShapeGate
open Onramp.Python
open Onramp.Values
open Onramp.Models
open Onramp.Schema
open Onramp.Excel
open Onramp.Screening
open Onramp.Library.Keyed (find)

/-- `PortCode` accepts the code: five characters, two of `A-Z` and three of `A-Z0-9`. -/
def Accepted (code : String) : Prop := PortCode.Valid ⟨code⟩

instance : DecidablePred Accepted := fun code => inferInstanceAs (Decidable (PortCode.Valid ⟨code⟩))

/-- Both codes are accepted. -/
def BothAccepted (origin destination : String) : Prop := Accepted origin ∧ Accepted destination

/-- A lane of a reply with these codes. -/
structure Carrying (origin destination : String) (lane : Json) : Prop where
  origin : portText lane "origin_port" = .ok (.str origin)
  destination : portText lane "destination_port" = .ok (.str destination)

/-- A lane with these codes survives the scan of a reply exactly when the schema accepts both,
    so a lane that survives does not fail the schema by its ports, and R1 passes exactly the
    same lanes. -/
structure Agrees (origin destination : String) : Prop where
  survives : ∀ platform sheetName idx lane, Carrying origin destination lane →
    (preScanLane platform sheetName idx lane = .ok none ↔ BothAccepted origin destination)
  gate : ∀ platform sheetName idx lane, Carrying origin destination lane →
    preScanLane platform sheetName idx lane = .ok none →
      (portCode (.obj [("code", .str origin)])).isSome ∧ (portCode (.obj [("code", .str destination)])).isSome
  rule : ∀ today lane, lane.originPort.code = origin → lane.destinationPort.code = destination →
    (Keeps today lane .portUnknownUnlocode ↔ BothAccepted origin destination)

/-- An accepted code with one newline after it. -/
def Trailing (code : String) : Prop := ∃ stem, Accepted stem ∧ code = stem ++ "\n"

/-- One of the codes ends in a newline, and without it both would be accepted. -/
def OnlyNewline (origin destination : String) : Prop :=
  (Accepted origin ∨ Trailing origin) ∧ (Accepted destination ∨ Trailing destination) ∧
    (Trailing origin ∨ Trailing destination)

/-- What `re` matches, and the schema does not, is an accepted code before a newline. -/
theorem unlocodeMatch_iff (code : String) : unlocodeMatch code = true ↔ Accepted code ∨ Trailing code := by
  constructor
  · intro shaped
    unfold unlocodeMatch at shaped
    split at shaped
    · next five => exact .inl (by simpa [Accepted, PortCode.Valid, unlocodeExact, five] using shaped)
    · next a b c d e six =>
      refine .inr ⟨String.ofList [a, b, c, d, e], ?_, ?_⟩
      · simpa [Accepted, PortCode.Valid, unlocodeExact] using shaped
      · rw [← String.toList_inj, six, String.toList_append, String.toList_ofList]
        rfl
    · cases shaped
  · rintro (accepted | ⟨stem, accepted, rfl⟩)
    · exact unlocodeMatch_of_exact accepted
    · unfold Accepted PortCode.Valid unlocodeExact at accepted
      split at accepted
      · next five => simpa [unlocodeMatch, String.toList_append, five] using accepted
      · cases accepted

/-- No code is both. -/
theorem Trailing.rejected {code : String} (trailing : Trailing code) : ¬ Accepted code := by
  obtain ⟨stem, accepted, rfl⟩ := trailing
  intro exact
  have short := length_of_exact accepted
  have long := length_of_exact exact
  rw [String.length_append, short] at long
  revert long
  decide

/-- The engines differ on a pair of codes when a newline alone keeps one out. -/
theorem onlyNewline_iff (origin destination : String) : OnlyNewline origin destination ↔
    unlocodeMatch origin = true ∧ unlocodeMatch destination = true ∧ ¬ BothAccepted origin destination := by
  rw [unlocodeMatch_iff, unlocodeMatch_iff]
  constructor
  · rintro ⟨first, second, late | late⟩
    · exact ⟨first, second, fun both => late.rejected both.1⟩
    · exact ⟨first, second, fun both => late.rejected both.2⟩
  · rintro ⟨first, second, apart⟩
    refine ⟨first, second, ?_⟩
    rcases first with origin' | late
    · rcases second with destination' | late
      · exact absurd ⟨origin', destination'⟩ apart
      · exact .inr late
    · exact .inl late

theorem survives_iff {platform : Platform} {sheetName : String} {idx : Nat} {origin destination : String} {lane : Json}
    (carrying : Carrying origin destination lane) : preScanLane platform sheetName idx lane = .ok none ↔
      unlocodeMatch origin = true ∧ unlocodeMatch destination = true := by
  rw [preScanLane_none]
  constructor
  · rintro ⟨_, _, first, second, shaped⟩
    rw [carrying.origin] at first
    rw [carrying.destination] at second
    cases first
    cases second
    exact shaped
  · exact fun shaped => ⟨_, _, carrying.origin, carrying.destination, shaped⟩

theorem portCode_accepted {code : String} (accepted : Accepted code) : (portCode (.obj [("code", .str code)])).isSome := by
  have valid : PortCode.Valid ⟨code⟩ := accepted
  simp [portCode, objectOf, find, textOf, guarded, valid]

/-- The scan of a reply and R1 agree with the schema on a pair of codes if and only if no newline
    alone keeps the pair out of the schema. -/
theorem scan_agrees_with_schema_iff (origin destination : String) :
    Agrees origin destination ↔ ¬ OnlyNewline origin destination := by
  rw [onlyNewline_iff]
  constructor
  · rintro agrees ⟨first, second, apart⟩
    exact apart ((agrees.rule ⟨2026, 6, 1⟩
      { ruledLane "L1" (Decimal.ofNat 2100) ⟨2026, 12, 31⟩ with originPort := ⟨origin⟩, destinationPort := ⟨destination⟩ }
      rfl rfl).mp ⟨first, second⟩)
  · intro apart
    have same : unlocodeMatch origin = true ∧ unlocodeMatch destination = true ↔ BothAccepted origin destination :=
      ⟨fun shaped => by_contra fun rejected => apart ⟨shaped.1, shaped.2, rejected⟩,
        fun both => ⟨unlocodeMatch_of_exact both.1, unlocodeMatch_of_exact both.2⟩⟩
    refine ⟨fun _ _ _ _ carrying => (survives_iff carrying).trans same, ?_, ?_⟩
    · intro platform sheetName idx lane carrying survived
      have both := same.mp ((survives_iff carrying).mp survived)
      exact ⟨portCode_accepted both.1, portCode_accepted both.2⟩
    · rintro today lane rfl rfl
      exact same

/-- A sound lane, and one whose origin was copied with its line end. -/
def newlineReply : Json :=
  .obj [("lanes", .arr [
    .obj [("lane_id", .str "L1"), ("origin_port", .obj [("code", .str "DEHAM")]),
      ("destination_port", .obj [("code", .str "USLAX")]), ("equipment_type", .str "40HC"), ("base_rate_usd", .int 2450),
      ("validity_start", .str "2026-01-01"), ("validity_end", .str "2026-12-31"), ("source_row_reference",
        .obj [("sheet_name", .str "Rates"), ("row_number", .int 2), ("cell_reference", .str "A2")])],
    .obj [("lane_id", .str "L2"), ("origin_port", .obj [("code", .str "USNYC\n")]),
      ("destination_port", .obj [("code", .str "CNSHA")]), ("equipment_type", .str "40HC"), ("base_rate_usd", .int 2100),
      ("validity_start", .str "2026-01-01"), ("validity_end", .str "2026-12-31"), ("source_row_reference",
        .obj [("sheet_name", .str "Rates"), ("row_number", .int 3), ("cell_reference", .str "A3")])]])]

/-- R1 passes the lane and the scan keeps it, the schema does not accept it, and the payload is
    rejected with the sound lane in it. -/
theorem newline_rejects_payload :
    ¬ Agrees "USNYC\n" "CNSHA" ∧
      ∃ message, payloadOf (asciiPlatform [] sampleDigest sampleDigest_length) "j1" "acme"
        ⟨"gemini-3.1-flash-lite", ⟨⟨2026, 6, 1⟩, 0⟩, promptVersion, 14⟩ [] newlineReply =
          .error (extractionError message) := by
  refine ⟨fun agrees => ?_, _, rfl⟩
  have both := (agrees.rule ⟨2026, 6, 1⟩ { ruledLane "L2" (Decimal.ofNat 2100) ⟨2026, 12, 31⟩ with originPort := ⟨"USNYC\n"⟩ }
    rfl rfl).mp (by decide)
  exact absurd both.1 (by decide)

end Onramp.ShapeGate
