import Onramp.Models

/-!
Stage 1: the format of an upload, from its leading bytes, its name and, last, a sniff
for a delimiter. No model is asked.
-/
namespace Onramp.Classifier
open Onramp.Python
open Onramp.Models
open Onramp.Library.Keyed (find)

abbrev Bytes : Type := List UInt8

/-- The bytes of an ASCII text. -/
def ascii (text : String) : Bytes := text.toList.map (fun c => UInt8.ofNat c.toNat)

/-- `needle in haystack`. -/
def contains (needle : Bytes) : Bytes → Bool
  | [] => needle.isEmpty
  | byte :: rest => needle.isPrefixOf (byte :: rest) || contains needle rest

def magicWindow : Nat := 4096

def xlsxHeader : Bytes := ascii "PK" ++ [3, 4]

def xlsxOpcMarker : Bytes := ascii "[Content_Types].xml"

def edifactPrefixes : List String := ["UNA", "UNB", "UNH"]

/-- The lines of a window, after each newline, as `re.MULTILINE` sees them. -/
def lines (window : Bytes) : List Bytes := window.splitOn 10

/-- `_EML_RE.search(window)`. -/
def emlHeader (window : Bytes) : Bool :=
  (lines window).any (fun line =>
    ["Return-Path", "Received", "From", "To", "Subject", "Message-ID"].any (fun header =>
      (ascii header ++ ascii ":").isPrefixOf line))

/-- A detection: format, confidence in hundredths and reason. -/
abbrev Detection : Type := DetectedFormat × Nat × String

def detectViaMagic (payload : Bytes) : Option Detection :=
  let window := payload.take magicWindow
  if xlsxHeader.isPrefixOf window && contains xlsxOpcMarker (payload.take (magicWindow * 16)) then
    some (.excel, 99, "xlsx_magic_bytes_and_opc_marker")
  else if xlsxHeader.isPrefixOf window then none
  else
    let stripped := window.dropWhile (fun byte => byte = 0xef || byte = 0xbb || byte = 0xbf)
    match edifactPrefixes.find? (fun start => (ascii start).isPrefixOf stripped) with
    | some start => some (.edifact, 99, s!"edifact_segment_{start}_at_offset_zero")
    | none => if emlHeader window then some (.email, 95, "rfc822_header_in_first_window") else none

/-- The formats of the known extensions. -/
def extensionFormats : List (String × DetectedFormat) :=
  [(".xlsx", .excel), (".xls", .excel), (".csv", .csv), (".edi", .edifact), (".eml", .email)]

def detectViaExtension (lower : String → String) (filename : String) : Option Detection :=
  let suffix := lower (pathSuffix filename)
  (find suffix extensionFormats).map (fun format => (format, 85, s!"extension_{suffix}"))

/-- The delimiter sniffer and the CSV reader: the delimiter of a text, if one is found, and
    the number of its rows. -/
structure CsvLibrary where
  sniff : String → Option Char
  countRows : String → Char → Raises Nat

/-- `window.decode("utf-8", errors="strict")`. -/
def decodeUtf8 (window : Bytes) : Option String := String.fromUTF8? ⟨window.toArray⟩

def detectViaCsvSniff (csv : CsvLibrary) (payload : Bytes) : Raises (Option Detection) :=
  match (decodeUtf8 (payload.take (magicWindow * 2))).bind (fun text => (csv.sniff text).map (fun d => (text, d))) with
  | none => .ok none
  | some (text, delimiter) =>
    if delimiter ∉ [',', ';', '|', '\t'] then .ok none
    else do
      let rows ← csv.countRows text delimiter
      if rows < 2 then return none
      else return some (.csv, 92, s!"csv_sniffer_delim_{strRepr (String.ofList [delimiter])}_rows_{rows}")

/-- The record of a detection. -/
def classifiedAs (detection : Detection) : ClassifiedFormat := ⟨detection.1, detection.2.1, detection.2.2⟩

/-- `classify_format`; the hint only changes what is logged. -/
def classifyFormat (lower : String → String) (csv : CsvLibrary) (payload : Bytes) (filename : String) :
    Raises ClassifiedFormat :=
  match detectViaMagic payload with
  | some magic => .ok (classifiedAs magic)
  | none =>
    match (detectViaExtension lower filename).filter (fun ext => 90 ≤ ext.2.1) with
    | some ext => .ok (classifiedAs ext)
    | none => do
      match ← detectViaCsvSniff csv payload with
      | some sniffed => return classifiedAs sniffed
      | none =>
        match detectViaExtension lower filename with
        | some ext =>
          return { detectedFormat := .uncertain, confidenceHundredths := ext.2.1,
                   reason := s!"extension_{ext.1.literal}_below_threshold" }
        | none =>
          return { detectedFormat := .uncertain, confidenceHundredths := 0,
                   reason := "no_magic_bytes_no_extension_no_sniff" }

end Onramp.Classifier
