import Mathlib.Data.List.Infix
import Onramp.Classifier

/-!
The windows of the classifier. A ZIP archive is a workbook for Stage 1 when the name of its
content types stands in the first 64 KiB; what the later checks see of an archive never
makes it one.
-/
namespace Onramp.MagicWindow
open Onramp.Python
open Onramp.Models
open Onramp.Classifier
open Onramp.Library.Keyed (find)

variable {lower : String → String} {csv : CsvLibrary} {payload : Bytes} {filename : String}

/-- The search finds a needle exactly where it stands in one piece. -/
theorem contains_iff (needle haystack : Bytes) : contains needle haystack = true ↔ needle <:+: haystack := by
  induction haystack with
  | nil =>
    rw [contains, List.isEmpty_iff, List.infix_nil]
  | cons byte rest ih =>
    rw [contains, Bool.or_eq_true, List.isPrefixOf_iff_prefix, ih, List.infix_cons_iff]

/-- What the extended window covers. -/
def extendedWindow (payload : Bytes) : Bytes := payload.take (magicWindow * 16)

/-- The magic bytes of an archive are decided by the extended window. -/
theorem detectViaMagic_archive (archive : xlsxHeader <+: payload) :
    detectViaMagic payload =
      if contains xlsxOpcMarker (extendedWindow payload) = true then
        some (.excel, 99, "xlsx_magic_bytes_and_opc_marker")
      else none := by
  have headed : xlsxHeader.isPrefixOf (payload.take magicWindow) = true :=
    List.isPrefixOf_iff_prefix.mpr (List.prefix_take_iff.mpr ⟨archive, by decide⟩)
  unfold detectViaMagic
  simp only [headed, Bool.true_and, if_true]
  rfl

/-- No extension is enough for a format. -/
theorem extension_below (lower : String → String) (filename : String) :
    (detectViaExtension lower filename).filter (fun ext => 90 ≤ ext.2.1) = none := by
  unfold detectViaExtension
  simp only
  cases find (lower (pathSuffix filename)) extensionFormats <;> rfl

theorem detectViaCsvSniff_csv {detection : Detection} (sniffed : detectViaCsvSniff csv payload = .ok (some detection)) :
    detection.1 = .csv := by
  unfold detectViaCsvSniff at sniffed
  split at sniffed
  · cases sniffed
  · split at sniffed
    · cases sniffed
    · next text delimiter _ _ =>
      obtain ⟨rows, -, sniffed⟩ := bind_eq_ok.mp sniffed
      split at sniffed <;> cases sniffed
      rfl

/-- The checks behind the magic bytes never find a workbook. -/
theorem not_excel_without_magic (missed : detectViaMagic payload = none) {result : ClassifiedFormat}
    (returned : classifyFormat lower csv payload filename = .ok result) : result.detectedFormat ≠ .excel := by
  unfold classifyFormat at returned
  rw [missed] at returned
  simp only [extension_below] at returned
  obtain ⟨found, sniffed, returned⟩ := bind_eq_ok.mp returned
  cases found with
  | some detection =>
    cases returned
    rw [classifiedAs, detectViaCsvSniff_csv sniffed]
    exact DetectedFormat.noConfusion
  | none =>
    simp only at returned
    split at returned <;> cases returned <;> exact DetectedFormat.noConfusion

/-- Stage 1 returns the format of a workbook. -/
def IsExcel (returned : Raises ClassifiedFormat) : Prop := ∃ result, returned = .ok result ∧ result.detectedFormat = .excel

theorem isExcel_of_magic {confidence : Nat} {reason : String}
    (magic : detectViaMagic payload = some (.excel, confidence, reason)) :
    IsExcel (classifyFormat lower csv payload filename) := by
  refine ⟨⟨.excel, confidence, reason⟩, ?_, rfl⟩
  rw [classifyFormat, magic]
  rfl

/-- An archive of any size, under any name, is a workbook for Stage 1 exactly when its first
    64 KiB hold the name of the content types. -/
theorem classifyFormat_excel_iff (lower : String → String) (csv : CsvLibrary) (payload : Bytes) (filename : String)
    (archive : xlsxHeader <+: payload) :
    IsExcel (classifyFormat lower csv payload filename) ↔ xlsxOpcMarker <:+: extendedWindow payload := by
  rw [← contains_iff]
  have magic := detectViaMagic_archive archive
  constructor
  · rintro ⟨result, returned, excel⟩
    by_contra missing
    rw [if_neg missing] at magic
    exact not_excel_without_magic magic returned excel
  · intro found
    rw [if_pos found] at magic
    exact isExcel_of_magic magic

/-- The content types come first in the archive. -/
theorem classifyFormat_excel_iff_small :
    IsExcel (classifyFormat id ⟨fun _ => none, fun _ _ => .ok 0⟩ (xlsxHeader ++ xlsxOpcMarker) "rates.xlsx") ↔
      xlsxOpcMarker <:+: extendedWindow (xlsxHeader ++ xlsxOpcMarker) :=
  classifyFormat_excel_iff id ⟨fun _ => none, fun _ _ => .ok 0⟩ (xlsxHeader ++ xlsxOpcMarker) "rates.xlsx" (by decide)

/-- A workbook with 64 KiB of other members before its content types. -/
def largeWorkbook : Bytes := xlsxHeader ++ (List.replicate 65536 0 ++ xlsxOpcMarker)

theorem largeWorkbook_window : ¬ xlsxOpcMarker <:+: extendedWindow largeWorkbook := by
  intro found
  have bracket : (91 : UInt8) ∈ extendedWindow largeWorkbook := found.subset (by decide)
  have filled : magicWindow * 16 - xlsxHeader.length ≤ (List.replicate 65536 (0 : UInt8)).length := by
    rw [List.length_replicate]
    decide
  rw [extendedWindow, largeWorkbook, List.take_append, List.take_append_of_le_length filled] at bracket
  rcases List.mem_append.mp bracket with header | zero
  · exact absurd (List.mem_of_mem_take header) (by decide)
  · exact absurd (List.eq_of_mem_replicate (List.mem_of_mem_take zero)) (by decide)

theorem largeWorkbook_not_excel :
    ¬ ∀ (lower : String → String) (csv : CsvLibrary) (payload : Bytes) (filename : String), payload.length ≤ 26214400 →
      xlsxHeader <+: payload → xlsxOpcMarker <:+: payload → IsExcel (classifyFormat lower csv payload filename) := by
  intro always
  obtain ⟨result, returned, excel⟩ := always id ⟨fun _ => none, fun _ _ => .ok 0⟩ largeWorkbook "rates.xlsx"
    (by rw [largeWorkbook, List.length_append, List.length_append, List.length_replicate]; decide) (List.prefix_append _ _)
    ((List.suffix_append _ _).trans (List.suffix_append _ _)).isInfix
  have archive : xlsxHeader <+: largeWorkbook := List.prefix_append _ _
  have missed : detectViaMagic largeWorkbook = none := by
    rw [detectViaMagic_archive archive, if_neg]
    rw [contains_iff]
    exact largeWorkbook_window
  exact not_excel_without_magic missed returned excel

end Onramp.MagicWindow
