import Mathlib.Data.List.ProdSigma
import Onramp.Library.Csv
import Onramp.Library.Transactions
import Onramp.Placement
import Onramp.StoredFormat

/-!
The reference tables: the files that the generator writes, and the two loaders that replace the
tables with the records of a file. A load is one transaction, so that it replaces everything or
nothing, and the aliases always name codes of the table next to them.
-/
namespace Onramp.ReferenceData
open Onramp.Python
open Onramp.Values
open Onramp.Ports
open Onramp.Library.Csv (Row Field read write read_write)
open Onramp.Library.Keyed (Table find mem_of_find)
open Onramp.Library.Texts (ofDigitChars_padded)
open Onramp.Models (lengthWithin)
open Onramp.Library.Transactions
open Onramp.StoredFormat (padded)
open Onramp.Placement (ForeignKey strip_of_exact upper_of_exact)
open Onramp.LaneAccounting (samplePlatform)

/-- `d.get(name)` on the dictionary that `csv.DictReader` makes of a row: the last field under the
    name, and nothing behind the end of a short row. -/
def dictField (fieldnames row : Row) (name : Field) : Option Field :=
  ((fieldnames.zip (row.map some ++ List.replicate (fieldnames.length - row.length) none)).reverse.find?
    (fun entry => entry.1 = name)).bind Prod.snd

/-- `value or None`. -/
def orNone : Option Field → Option String
  | some (c :: rest) => some (String.ofList (c :: rest))
  | _ => none

/-- `_stream_csv_rows` of a file with this name and text. -/
def streamCsvRows (name : String) (text : List Char) (columns : List String) : Raises (List (List (Option String))) :=
  match read text with
  | none => .error (PyExc.mk' (.other "Error") "new-line character seen in unquoted field")
  | some rows =>
    let fieldnames := rows.headD []
    let missing := columns.filter (fun c => c.toList ∉ fieldnames)
    if missing ≠ [] then
      .error (PyExc.mk' .valueError
        s!"CSV {name} missing required columns: {listRepr ((sortStrings missing).map strRepr)}")
    else .ok ((rows.tail.filter (fun row => row ≠ [])).map fun row =>
      columns.map fun c => orNone (dictField fieldnames row c.toList))

structure UnLocodeReference where
  code : String
  countryCode : String
  placeName : String
  subdivision : Option String
  function : String
  latitude : Option Decimal
  longitude : Option Decimal

structure CarrierPortAlias where
  portAlias : String
  canonical : String
  source : String
  deriving DecidableEq

structure WcoHs6Reference where
  hs6 : String
  chapter : String
  heading : String
  description : String

structure Tables where
  unLocodeReference : List UnLocodeReference
  carrierPortAliases : List CarrierPortAlias
  wcoHs6Reference : List WcoHs6Reference

/-- What the resolver asks of the tables. -/
def Tables.reference (tables : Tables) : Reference where
  unLocodeReference := tables.unLocodeReference.map UnLocodeReference.code
  carrierPortAliases := tables.carrierPortAliases.map fun row => (row.portAlias, row.canonical)

def notNullViolation : PyExc :=
  PyExc.mk' (.other "NotNullViolationError") "null value violates not-null constraint"

def uniqueViolation : PyExc :=
  PyExc.mk' (.other "UniqueViolationError") "duplicate key value violates unique constraint"

def foreignKeyViolation : PyExc :=
  PyExc.mk' (.other "ForeignKeyViolationError") "insert or update violates foreign key constraint"

/-- The value of a `NUMERIC(precision, scale)` column for a text, nothing when it does not fit. -/
abbrev Numeric : Type := Nat → Nat → String → Option Decimal

def numericColumn (numeric : Numeric) (precision scale : Nat) : Option String → Raises (Option Decimal)
  | none => .ok none
  | some text =>
    match numeric precision scale text with
    | some value => .ok (some value)
    | none => .error (PyExc.mk' (.other "DataError") "invalid input for numeric column")

/-- A record of `un_locode_reference`. -/
def unLocodeRecord (numeric : Numeric) : List (Option String) → Raises UnLocodeReference
  | [some code, some countryCode, some placeName, subdivision, some function, latitude, longitude] => do
    let latitude ← numericColumn numeric 6 4 latitude
    let longitude ← numericColumn numeric 7 4 longitude
    return { code, countryCode, placeName, subdivision, function, latitude, longitude }
  | _ => .error notNullViolation

/-- A record of `wco_hs6_reference`. -/
def wcoHs6Record : List (Option String) → Raises WcoHs6Reference
  | [some hs6, some chapter, some heading, some description] => .ok { hs6, chapter, heading, description }
  | _ => .error notNullViolation

/-- `copy_records_to_table` behind the rows of a table with a primary key. -/
def copyRecords {ρ α : Type} (record : ρ → Raises α) (key : α → String) : List ρ → List α → Raises (List α)
  | [], table => .ok table
  | values :: rest, table => do
    let row ← record values
    if table.any (fun other => key other = key row) then .error uniqueViolation
    else copyRecords record key rest (table ++ [row])

/-- A record of `carrier_port_aliases`, whose target is a code of the table. -/
def aliasRecord (tables : Tables) (row : CarrierPortAlias) : Raises CarrierPortAlias :=
  if row.canonical ∈ tables.unLocodeReference.map UnLocodeReference.code then .ok row else .error foreignKeyViolation

abbrev Loader (α : Type) : Type := Prog Tables PyExc α

def unLocodeColumns : List String :=
  ["code", "country_code", "place_name", "subdivision", "function", "latitude", "longitude"]

def wcoHs6Columns : List String := ["hs6", "chapter", "heading", "description"]

def aliasFixture : List CarrierPortAlias :=
  [⟨"BSAS", "ARBUE", "carrier_alias_fixture"⟩, ⟨"NYC", "USNYC", "carrier_alias_fixture"⟩,
    ⟨"LA", "USLAX", "carrier_alias_fixture"⟩, ⟨"HKG", "HKHKG", "carrier_alias_fixture"⟩,
    ⟨"SHA", "CNSHA", "carrier_alias_fixture"⟩]

def alreadyBegun : PyExc := PyExc.mk' (.other "InterfaceError") "cannot start a transaction inside a transaction"

/-- `TRUNCATE TABLE un_locode_reference CASCADE`: the aliases refer to it. -/
def truncateUnLocode (tables : Tables) : Raises Tables := .ok { tables with unLocodeReference := [], carrierPortAliases := [] }

def copyUnLocode (numeric : Numeric) (rows : List (List (Option String))) (tables : Tables) : Raises Tables := do
  let unLocodeReference ← copyRecords (unLocodeRecord numeric) UnLocodeReference.code rows tables.unLocodeReference
  return { tables with unLocodeReference }

def truncateAliases (tables : Tables) : Raises Tables := .ok { tables with carrierPortAliases := [] }

def copyAliases (aliases : List CarrierPortAlias) (tables : Tables) : Raises Tables := do
  let carrierPortAliases ← copyRecords (aliasRecord tables) CarrierPortAlias.portAlias aliases tables.carrierPortAliases
  return { tables with carrierPortAliases }

def truncateWcoHs6 (tables : Tables) : Raises Tables := .ok { tables with wcoHs6Reference := [] }

def copyWcoHs6 (rows : List (List (Option String))) (tables : Tables) : Raises Tables := do
  let wcoHs6Reference ← copyRecords wcoHs6Record WcoHs6Reference.hs6 rows tables.wcoHs6Reference
  return { tables with wcoHs6Reference }

/-- `bulk_load_un_locode` of a file. -/
def bulkLoadUnLocode (numeric : Numeric) (name : String) (text : List Char) : Loader Nat := do
  let rows ← lift (streamCsvRows name text unLocodeColumns)
  beginning alreadyBegun do
    execute truncateUnLocode
    execute (copyUnLocode numeric rows)
    execute truncateAliases
    execute (copyAliases aliasFixture)
  return rows.length

/-- `bulk_load_wco_hs6` of a file. -/
def bulkLoadWcoHs6 (name : String) (text : List Char) : Loader Nat := do
  let rows ← lift (streamCsvRows name text wcoHs6Columns)
  beginning alreadyBegun do
    execute truncateWcoHs6
    execute (copyWcoHs6 rows)
  return rows.length

/-- A call of one of the loaders. -/
inductive Load
  | unLocode (name : String) (text : List Char)
  | wcoHs6 (name : String) (text : List Char)

def Load.prog (numeric : Numeric) : Load → Loader Nat
  | .unLocode name text => bulkLoadUnLocode numeric name text
  | .wcoHs6 name text => bulkLoadWcoHs6 name text

/-- The tables after the loads, each of which returns or raises. -/
def loadAll (numeric : Numeric) (loads : List Load) (tables : Tables) : Tables :=
  loads.foldl (fun tables load => (run (load.prog numeric) tables).2) tables

def pinnedRealCodes : List (String × String × String × String × String) :=
  [("ARBUE", "AR", "Buenos Aires", "C", "12345-78-"), ("USNYC", "US", "New York", "NY", "12345-78-"),
    ("USLAX", "US", "Los Angeles", "CA", "12345-78-"), ("HKHKG", "HK", "Hong Kong", "", "12345-78-"),
    ("CNSHA", "CN", "Shanghai", "", "12345-78-"), ("NLRTM", "NL", "Rotterdam", "", "12345-78-"),
    ("DEHAM", "DE", "Hamburg", "", "12345-78-"), ("BEANR", "BE", "Antwerp", "", "12345-78-"),
    ("SGSIN", "SG", "Singapore", "", "12345-78-"), ("DEFRA", "DE", "Frankfurt", "", "12345-78-"),
    ("NLAMS", "NL", "Amsterdam", "", "12345-78-"), ("GBLON", "GB", "London", "", "12345-78-"),
    ("GBFXT", "GB", "Felixstowe", "", "12345-78-"), ("MSP", "US", "Minneapolis-Saint Paul", "MN", "12345-78-")]

def letters : List Char := "ABCDEFGHIJKLMNOPQRSTUVWXYZ".toList

def alnum : List Char := letters ++ "0123456789".toList

/-- `product(letters, letters, alnum, alnum, alnum)`. -/
def candidates : List (Char × Char × Char × Char × Char) := letters ×ˢ letters ×ˢ alnum ×ˢ alnum ×ˢ alnum

/-- A row that the generator makes up. -/
def syntheticRow (entry : (Char × Char × Char × Char × Char) × Nat) : Row :=
  let (c1, c2, l1, l2, l3) := entry.1
  [[c1, c2, l1, l2, l3], [c1, c2], "Synthetic Locality ".toList ++ padded 6 entry.2, [], "1-------".toList, [], []]

/-- `_synthetic_un_locode_rows`. -/
def syntheticUnLocodeRows (count : Nat) : List Row := (candidates.zipIdx.take count).map syntheticRow

def pinnedRow (row : String × String × String × String × String) : Row :=
  let (code, country, place, sub, func) := row
  [code.toList, country.toList, place.toList, sub.toList, func.toList, [], []]

def unLocodeRows (totalUnLocodeRows : Nat) : List Row :=
  let pinned := pinnedRealCodes.map fun row => row.1.toList
  pinnedRealCodes.map pinnedRow ++
    ((syntheticUnLocodeRows (totalUnLocodeRows + pinned.length)).filter fun row => row.headD [] ∉ pinned).take
      (totalUnLocodeRows - pinnedRealCodes.length)

/-- The text that `_generate_un_locode` writes, with a total of this many rows. -/
def generateUnLocode (totalUnLocodeRows : Nat) : List Char :=
  write (unLocodeColumns.map String.toList :: unLocodeRows totalUnLocodeRows)

def wcoHs6Row (idx : Nat) : Row :=
  let hs6 := padded 6 idx
  [hs6, hs6.take 2, hs6.take 4, "Synthetic commodity ".toList ++ hs6]

/-- The text that `_generate_wco_hs6` writes, with this many rows. -/
def generateWcoHs6 (wcoHs6Rows : Nat) : List Char :=
  write (wcoHs6Columns.map String.toList :: (List.range wcoHs6Rows).map wcoHs6Row)

/-! ### Reading a file -/

/-- Under each of the distinct names of the header stands the field of its column. -/
theorem dictField_eq {fieldnames row : Row} (distinct : fieldnames.Nodup) (full : row.length = fieldnames.length) (i : Nat)
    (inside : i < fieldnames.length) : dictField fieldnames row fieldnames[i] = row[i]? := by
  have short : fieldnames.length - row.length = 0 := by omega
  have here : i < row.length := by omega
  rw [dictField, short, List.replicate_zero, List.append_nil, List.getElem?_eq_getElem here]
  have listed : (fieldnames[i], some row[i]) ∈ (fieldnames.zip (row.map some)).reverse := by
    rw [List.mem_reverse, List.mem_iff_getElem]
    exact ⟨i, by simp [inside, here], by simp⟩
  cases found : (fieldnames.zip (row.map some)).reverse.find? (fun entry => entry.1 = fieldnames[i]) with
  | none => exact absurd rfl (of_decide_eq_false (Bool.eq_false_iff.mpr (List.find?_eq_none.mp found _ listed)))
  | some entry =>
    have name : entry.1 = fieldnames[i] := by simpa using List.find?_some found
    obtain ⟨j, bound, same⟩ := List.mem_iff_getElem.mp (List.mem_reverse.mp (List.mem_of_find?_eq_some found))
    have there : j < fieldnames.length := by
      rw [List.length_zip] at bound
      omega
    subst same
    have names : fieldnames[j] = fieldnames[i] := by simpa using name
    obtain rfl : j = i := distinct.getElem_inj_iff.mp names
    simp

/-- The record of a row under the columns of its file. -/
def recordOf (row : Row) : List (Option String) := row.map fun field => orNone (some field)

theorem columns_record {fieldnames row : Row} (distinct : fieldnames.Nodup) (full : row.length = fieldnames.length) :
    fieldnames.map (fun name => orNone (dictField fieldnames row name)) = recordOf row := by
  refine List.ext_getElem (by simp [recordOf, full]) fun i inside there => ?_
  have bound : i < fieldnames.length := by simpa using inside
  have here : i < row.length := by omega
  simp [recordOf, dictField_eq distinct full i bound, List.getElem?_eq_getElem here]

/-- A file with the columns that are asked for is read as its records. -/
theorem streamCsvRows_write (name : String) {columns : List String} (nonempty : columns ≠ [])
    (distinct : (columns.map String.toList).Nodup) {rows : List Row} (full : ∀ row ∈ rows, row.length = columns.length) :
    streamCsvRows name (write (columns.map String.toList :: rows)) columns = .ok (rows.map recordOf) := by
  have positive : columns.length ≠ 0 := fun empty => nonempty (List.length_eq_zero_iff.mp empty)
  have proper : ∀ row ∈ rows, row ≠ [] := by
    rintro row inside rfl
    exact positive (full [] inside).symm
  have readBack : read (write (columns.map String.toList :: rows)) = some (columns.map String.toList :: rows) := by
    refine read_write (List.forall_mem_cons.mpr ⟨?_, proper⟩)
    simpa using nonempty
  have missing : columns.filter (fun c => c.toList ∉ columns.map String.toList) = [] := by
    refine List.filter_eq_nil_iff.mpr fun c inside => ?_
    simpa using List.mem_map_of_mem (f := String.toList) inside
  have kept : rows.filter (fun row => row ≠ []) = rows := List.filter_eq_self.mpr fun row inside => by simpa using proper row inside
  unfold streamCsvRows
  rw [readBack]
  refine (if_neg (not_not.mpr missing)).trans (congrArg Except.ok ?_)
  rw [List.tail_cons, kept]
  refine List.map_congr_left fun row inside => ?_
  have record := columns_record distinct ((full row inside).trans (List.length_map _).symm)
  rwa [List.map_map] at record

section
variable {ρ α : Type} {record : ρ → Raises α} {key : α → String}

/-- A copy adds the rows of all records, which have new keys. -/
theorem copyRecords_eq_ok {values : List ρ} {table result : List α} : copyRecords record key values table = .ok result ↔
    ∃ rows, List.Forall₂ (fun v row => record v = .ok row) values rows ∧ result = table ++ rows ∧
      (rows.map key).Nodup ∧ ∀ row ∈ rows, key row ∉ table.map key := by
  induction values generalizing table with
  | nil =>
    simp only [copyRecords, Except.ok.injEq, List.forall₂_nil_left_iff]
    constructor
    · rintro rfl
      exact ⟨[], rfl, by simp, by simp, by simp⟩
    · rintro ⟨rows, rfl, rfl, -, -⟩
      simp
  | cons v rest ih =>
    have taken : ∀ row : α, table.any (fun other => key other = key row) = true ↔ key row ∈ table.map key := by
      intro row
      simp [List.any_eq_true]
    simp only [copyRecords, bind_eq_ok]
    constructor
    · rintro ⟨row, here, copied⟩
      split_ifs at copied with used
      obtain ⟨rows, later, rfl, distinct, fresh⟩ := ih.mp copied
      refine ⟨row :: rows, .cons here later, by simp, ?_, ?_⟩
      · refine List.nodup_cons.mpr ⟨?_, distinct⟩
        rintro inside
        obtain ⟨other, among, same⟩ := List.mem_map.mp inside
        exact fresh other among (by simp [same])
      · refine List.forall_mem_cons.mpr ⟨fun inside => used ((taken row).mpr inside), fun other among inside => ?_⟩
        exact fresh other among (by simp at inside ⊢; exact .inl inside)
    · rintro ⟨rows, all, rfl, distinct, fresh⟩
      cases all with
      | @cons _ row _ rows here later =>
        obtain ⟨alone, distinct⟩ := List.nodup_cons.mp distinct
        obtain ⟨unused, fresh⟩ := List.forall_mem_cons.mp fresh
        refine ⟨row, here, ?_⟩
        rw [if_neg fun used => unused ((taken row).mp used)]
        refine ih.mpr ⟨rows, later, by simp, distinct, fun other among inside => ?_⟩
        rw [List.map_append, List.mem_append] at inside
        rcases inside with old | new
        · exact fresh other among old
        · exact alone (List.mem_map.mpr ⟨other, among, by simpa using new⟩)

end

/-- The keys of the tables are keys, and every alias names a code. -/
structure Sound (tables : Tables) : Prop where
  codes : (tables.unLocodeReference.map UnLocodeReference.code).Nodup
  aliases : (tables.carrierPortAliases.map CarrierPortAlias.portAlias).Nodup
  canonical : ∀ row ∈ tables.carrierPortAliases, row.canonical ∈ tables.unLocodeReference.map UnLocodeReference.code
  hs6 : (tables.wcoHs6Reference.map WcoHs6Reference.hs6).Nodup

variable (numeric : Numeric)

/-- What a load makes of the tables when it returns: a table has exactly the records of the file, the aliases
    next to it are those of the loader, and the other table is as it was. -/
inductive Replaces : Load → Nat → (Tables → Tables) → Prop
  | unLocode {name : String} {text : List Char} {rows : List (List (Option String))} {records : List UnLocodeReference}
      (streamed : streamCsvRows name text unLocodeColumns = .ok rows)
      (copied : List.Forall₂ (fun values row => unLocodeRecord numeric values = .ok row) rows records)
      (distinct : (records.map UnLocodeReference.code).Nodup)
      (canonical : ∀ row ∈ aliasFixture, row.canonical ∈ records.map UnLocodeReference.code) :
      Replaces (.unLocode name text) records.length
        (fun tables => { tables with unLocodeReference := records, carrierPortAliases := aliasFixture })
  | wcoHs6 {name : String} {text : List Char} {rows : List (List (Option String))} {records : List WcoHs6Reference}
      (streamed : streamCsvRows name text wcoHs6Columns = .ok rows)
      (copied : List.Forall₂ (fun values row => wcoHs6Record values = .ok row) rows records)
      (distinct : (records.map WcoHs6Reference.hs6).Nodup) :
      Replaces (.wcoHs6 name text) records.length (fun tables => { tables with wcoHs6Reference := records })

variable {numeric}

theorem copyUnLocode_empty {rows : List (List (Option String))} {tables after : Tables} (empty : tables.unLocodeReference = []) :
    copyUnLocode numeric rows tables = .ok after ↔ ∃ records,
      List.Forall₂ (fun values row => unLocodeRecord numeric values = .ok row) rows records ∧
        (records.map UnLocodeReference.code).Nodup ∧ after = { tables with unLocodeReference := records } := by
  simp only [copyUnLocode, bind_eq_ok, pure_eq_ok, copyRecords_eq_ok, empty, List.nil_append]
  constructor
  · rintro ⟨records, ⟨_, copied, rfl, distinct, -⟩, rfl⟩
    exact ⟨records, copied, distinct, rfl⟩
  · rintro ⟨records, copied, distinct, rfl⟩
    exact ⟨records, ⟨records, copied, rfl, distinct, by simp⟩, rfl⟩

theorem copyWcoHs6_empty {rows : List (List (Option String))} {tables after : Tables} (empty : tables.wcoHs6Reference = []) :
    copyWcoHs6 rows tables = .ok after ↔ ∃ records,
      List.Forall₂ (fun values row => wcoHs6Record values = .ok row) rows records ∧
        (records.map WcoHs6Reference.hs6).Nodup ∧ after = { tables with wcoHs6Reference := records } := by
  simp only [copyWcoHs6, bind_eq_ok, pure_eq_ok, copyRecords_eq_ok, empty, List.nil_append]
  constructor
  · rintro ⟨records, ⟨_, copied, rfl, distinct, -⟩, rfl⟩
    exact ⟨records, copied, distinct, rfl⟩
  · rintro ⟨records, copied, distinct, rfl⟩
    exact ⟨records, ⟨records, copied, rfl, distinct, by simp⟩, rfl⟩

theorem aliasFixture_distinct : (aliasFixture.map CarrierPortAlias.portAlias).Nodup := by decide

/-- The aliases of the loader are copied exactly where all their codes are. -/
theorem copyAliases_fixture {tables after : Tables} (empty : tables.carrierPortAliases = []) :
    copyAliases aliasFixture tables = .ok after ↔
      (∀ row ∈ aliasFixture, row.canonical ∈ tables.unLocodeReference.map UnLocodeReference.code) ∧
        after = { tables with carrierPortAliases := aliasFixture } := by
  have record : ∀ row result, aliasRecord tables row = .ok result ↔
      row.canonical ∈ tables.unLocodeReference.map UnLocodeReference.code ∧ result = row := by
    intro row result
    unfold aliasRecord
    split_ifs with known
    · simp [known, eq_comm]
    · simp [known]
  have copies : ∀ rows aliases, List.Forall₂ (fun values row => aliasRecord tables values = .ok row) rows aliases ↔
      (∀ row ∈ rows, row.canonical ∈ tables.unLocodeReference.map UnLocodeReference.code) ∧ aliases = rows := by
    intro rows
    induction rows with
    | nil => intro aliases; simp
    | cons row rest ih =>
      intro aliases
      rw [List.forall₂_cons_left_iff, List.forall_mem_cons]
      constructor
      · rintro ⟨_, _, here, later, rfl⟩
        obtain ⟨known, rfl⟩ := (record _ _).mp here
        obtain ⟨others, rfl⟩ := (ih _).mp later
        exact ⟨⟨known, others⟩, rfl⟩
      · rintro ⟨⟨known, others⟩, rfl⟩
        exact ⟨row, rest, (record _ _).mpr ⟨known, rfl⟩, (ih _).mpr ⟨others, rfl⟩, rfl⟩
  simp only [copyAliases, bind_eq_ok, pure_eq_ok, copyRecords_eq_ok, empty, List.nil_append, copies]
  constructor
  · rintro ⟨_, ⟨_, ⟨known, rfl⟩, rfl, -, -⟩, rfl⟩
    exact ⟨known, rfl⟩
  · rintro ⟨known, rfl⟩
    exact ⟨_, ⟨_, ⟨known, rfl⟩, rfl, aliasFixture_distinct, by simp⟩, rfl⟩

theorem Replaces.ran {load : Load} {n : Nat} {replace : Tables → Tables} (replaces : Replaces numeric load n replace)
    (tables : Tables) : run (load.prog numeric) tables = (.ok n, replace tables) := by
  cases replaces with
  | @unLocode name text rows records streamed copied distinct canonical =>
    let truncated : Tables := { tables with unLocodeReference := [], carrierPortAliases := [] }
    let filled : Tables := { tables with unLocodeReference := records, carrierPortAliases := [] }
    have first : copyUnLocode numeric rows truncated = .ok filled :=
      (copyUnLocode_empty rfl).mpr ⟨records, copied, distinct, rfl⟩
    have second : copyAliases aliasFixture filled = .ok { filled with carrierPortAliases := aliasFixture } :=
      (copyAliases_fixture rfl).mpr ⟨canonical, rfl⟩
    have length := copied.length_eq
    simp [run, Load.prog, bulkLoadUnLocode, streamed, lift, bind, pure, beginning, execute, Session.view, truncateUnLocode,
      truncated, filled, first, truncateAliases, second, length]
  | @wcoHs6 name text rows records streamed copied distinct =>
    let truncated : Tables := { tables with wcoHs6Reference := [] }
    have first : copyWcoHs6 rows truncated = .ok { truncated with wcoHs6Reference := records } :=
      (copyWcoHs6_empty rfl).mpr ⟨records, copied, distinct, rfl⟩
    have length := copied.length_eq
    simp [run, Load.prog, bulkLoadWcoHs6, streamed, lift, bind, pure, beginning, execute, Session.view, truncateWcoHs6,
      truncated, first, length]

/-- A load replaces the same on all tables, or raises on all and leaves them. -/
theorem load_cases (load : Load) : (∀ tables, ∃ error, run (load.prog numeric) tables = (.error error, tables)) ∨
    ∃ n replace, Replaces numeric load n replace ∧ ∀ tables, run (load.prog numeric) tables = (.ok n, replace tables) := by
  cases load with
  | unLocode name text =>
    cases streamed : streamCsvRows name text unLocodeColumns with
    | error error =>
      left
      refine fun tables => ⟨error, ?_⟩
      simp [run, Load.prog, bulkLoadUnLocode, streamed, lift, bind]
    | ok rows =>
      by_cases all : ∃ records, List.Forall₂ (fun values row => unLocodeRecord numeric values = .ok row) rows records ∧
          (records.map UnLocodeReference.code).Nodup ∧ ∀ row ∈ aliasFixture, row.canonical ∈ records.map UnLocodeReference.code
      · obtain ⟨records, copied, distinct, canonical⟩ := all
        have replaces : Replaces numeric _ _ _ := .unLocode streamed copied distinct canonical
        exact .inr ⟨_, _, replaces, replaces.ran⟩
      · left
        intro tables
        let truncated : Tables := { tables with unLocodeReference := [], carrierPortAliases := [] }
        cases first : copyUnLocode numeric rows truncated with
        | error error =>
          refine ⟨error, ?_⟩
          simp [run, Load.prog, bulkLoadUnLocode, streamed, lift, bind, beginning, execute, Session.view, Session.opened,
            truncateUnLocode, truncated, first]
        | ok filled =>
          obtain ⟨records, copied, distinct, rfl⟩ := (copyUnLocode_empty rfl).mp first
          let emptied : Tables := { truncated with unLocodeReference := records, carrierPortAliases := [] }
          cases second : copyAliases aliasFixture emptied with
          | error error =>
            refine ⟨error, ?_⟩
            simp [run, Load.prog, bulkLoadUnLocode, streamed, lift, bind, beginning, execute, Session.view, Session.opened,
              truncateUnLocode, truncated, first, truncateAliases, emptied, second]
          | ok after => exact absurd ⟨records, copied, distinct, ((copyAliases_fixture rfl).mp second).1⟩ all
  | wcoHs6 name text =>
    cases streamed : streamCsvRows name text wcoHs6Columns with
    | error error =>
      left
      refine fun tables => ⟨error, ?_⟩
      simp [run, Load.prog, bulkLoadWcoHs6, streamed, lift, bind]
    | ok rows =>
      by_cases all : ∃ records, List.Forall₂ (fun values row => wcoHs6Record values = .ok row) rows records ∧
          (records.map WcoHs6Reference.hs6).Nodup
      · obtain ⟨records, copied, distinct⟩ := all
        have replaces : Replaces numeric _ _ _ := .wcoHs6 streamed copied distinct
        exact .inr ⟨_, _, replaces, replaces.ran⟩
      · left
        intro tables
        let truncated : Tables := { tables with wcoHs6Reference := [] }
        cases first : copyWcoHs6 rows truncated with
        | error error =>
          refine ⟨error, ?_⟩
          simp [run, Load.prog, bulkLoadWcoHs6, streamed, lift, bind, beginning, execute, Session.view, Session.opened,
            truncateWcoHs6, truncated, first]
        | ok filled =>
          obtain ⟨records, copied, distinct, -⟩ := (copyWcoHs6_empty rfl).mp first
          exact absurd ⟨records, copied, distinct⟩ all

theorem Replaces.sound {load : Load} {n : Nat} {replace : Tables → Tables} (replaces : Replaces numeric load n replace)
    {tables : Tables} (sound : Sound tables) : Sound (replace tables) := by
  cases replaces with
  | unLocode _ _ distinct canonical => exact ⟨distinct, aliasFixture_distinct, canonical, sound.hs6⟩
  | wcoHs6 _ _ distinct => exact ⟨sound.codes, sound.aliases, sound.canonical, distinct⟩

theorem Replaces.twice {load : Load} {n : Nat} {replace : Tables → Tables} (replaces : Replaces numeric load n replace)
    (tables : Tables) : replace (replace tables) = replace tables := by
  cases replaces <;> rfl

theorem loadAll_sound {loads : List Load} {tables : Tables} (sound : Sound tables) : Sound (loadAll numeric loads tables) := by
  induction loads generalizing tables with
  | nil => exact sound
  | cons load rest ih =>
    refine ih ?_
    dsimp only
    rcases @load_cases numeric load with raises | ⟨n, replace, replaces, returns⟩
    · obtain ⟨error, ran⟩ := raises tables
      rw [ran]
      exact sound
    · rw [returns]
      exact replaces.sound sound

/-! ### The generated files -/

theorem orNone_cons {field : Field} (some : field ≠ []) : orNone (.some field) = .some (String.ofList field) := by
  cases field with
  | nil => exact absurd rfl some
  | cons c rest => rfl

/-- A row as the generator writes it, with the columns that may not be empty. -/
structure Generated (row : Row) (code country place sub function : Field) : Prop where
  row : row = [code, country, place, sub, function, [], []]
  code : code ≠ []
  country : country ≠ []
  place : place ≠ []
  function : function ≠ []

/-- The record that a generated row becomes. -/
def referenceOf (code country place sub function : Field) : UnLocodeReference where
  code := String.ofList code
  countryCode := String.ofList country
  placeName := String.ofList place
  subdivision := orNone (some sub)
  function := String.ofList function
  latitude := none
  longitude := none

theorem unLocodeRecord_generated {row : Row} {code country place sub function : Field}
    (generated : Generated row code country place sub function) :
    unLocodeRecord numeric (recordOf row) = .ok (referenceOf code country place sub function) := by
  obtain ⟨rfl, someCode, someCountry, somePlace, someFunction⟩ := generated
  simp only [recordOf, List.map_cons, List.map_nil, orNone_cons someCode, orNone_cons someCountry, orNone_cons somePlace,
    orNone_cons someFunction]
  rfl

theorem pinned_nonempty : ∀ row ∈ pinnedRealCodes,
    row.1.toList ≠ [] ∧ row.2.1.toList ≠ [] ∧ row.2.2.1.toList ≠ [] ∧ row.2.2.2.2.toList ≠ [] := by decide

/-- Every row of the file of codes is a generated one. -/
theorem generated_unLocodeRows (total : Nat) : ∀ row ∈ unLocodeRows total, ∃ code country place sub function,
    Generated row code country place sub function := by
  intro row inside
  rcases List.mem_append.mp inside with pinned | synthetic
  · obtain ⟨⟨code, country, place, sub, function⟩, among, rfl⟩ := List.mem_map.mp pinned
    obtain ⟨someCode, someCountry, somePlace, someFunction⟩ := pinned_nonempty _ among
    exact ⟨_, _, _, _, _, rfl, someCode, someCountry, somePlace, someFunction⟩
  · obtain ⟨⟨⟨c1, c2, l1, l2, l3⟩, idx⟩, -, rfl⟩ := List.mem_map.mp (List.mem_of_mem_filter (List.mem_of_mem_take synthetic))
    exact ⟨_, _, _, _, _, rfl, by simp, by simp, by simp, by simp⟩

/-- The code of a row of the file. -/
def codeOf (row : Row) : Field := row.headD []

def charsOf (entry : Char × Char × Char × Char × Char) : Field :=
  let (c1, c2, l1, l2, l3) := entry
  [c1, c2, l1, l2, l3]

theorem letters_distinct : letters.Nodup := by decide

theorem alnum_distinct : alnum.Nodup := by decide

theorem candidates_distinct : candidates.Nodup :=
  letters_distinct.product (letters_distinct.product (alnum_distinct.product (alnum_distinct.product alnum_distinct)))

theorem candidates_length : candidates.length = 26 * (26 * (36 * (36 * 36))) := by
  have l : letters.length = 26 := by decide
  have a : alnum.length = 36 := by decide
  simp only [candidates, List.length_product, l, a]

theorem synthetic_codes (count : Nat) : (syntheticUnLocodeRows count).map codeOf = (candidates.take count).map charsOf := by
  have code : codeOf ∘ syntheticRow = charsOf ∘ Prod.fst := by
    funext ⟨⟨c1, c2, l1, l2, l3⟩, idx⟩
    rfl
  rw [syntheticUnLocodeRows, List.map_map, code, ← List.map_map, List.map_take, List.zipIdx_map_fst]

theorem synthetic_distinct (count : Nat) : ((syntheticUnLocodeRows count).map codeOf).Nodup := by
  rw [synthetic_codes]
  refine (candidates_distinct.sublist (List.take_sublist _ _)).map ?_
  rintro ⟨a1, a2, a3, a4, a5⟩ ⟨b1, b2, b3, b4, b5⟩ same
  simp only [charsOf, List.cons.injEq, and_true] at same
  obtain ⟨rfl, rfl, rfl, rfl, rfl⟩ := same
  rfl

theorem synthetic_length {count : Nat} (available : count ≤ 26 * (26 * (36 * (36 * 36)))) :
    (syntheticUnLocodeRows count).length = count := by
  have codes := congrArg List.length (synthetic_codes count)
  simp only [List.length_map, List.length_take, candidates_length] at codes
  omega

/-- At most so many items of a list without repetitions are among others as there are of those. -/
theorem length_le_filter {α : Type} {key : α → Field} {items : List α} (distinct : (items.map key).Nodup)
    (others : List Field) : items.length ≤ (items.filter fun item => key item ∉ others).length + others.length := by
  have inside : ((items.filter fun item => key item ∈ others).map key).length ≤ others.length := by
    refine (List.Nodup.subperm (distinct.sublist (List.Sublist.map key List.filter_sublist)) ?_).length_le
    intro name listed
    obtain ⟨item, among, rfl⟩ := List.mem_map.mp listed
    simpa using (List.mem_filter.mp among).2
  have split := List.length_eq_length_filter_add (l := items) (fun item => decide (key item ∈ others))
  have same : (items.filter fun item => !decide (key item ∈ others)) = items.filter fun item => key item ∉ others := by
    refine List.filter_congr fun item _ => ?_
    simp
  rw [List.length_map] at inside
  rw [same] at split
  omega

def pinnedCodes : List Field := pinnedRealCodes.map fun row => row.1.toList

theorem pinnedCodes_distinct : pinnedCodes.Nodup := by decide

theorem pinned_codes : (pinnedRealCodes.map pinnedRow).map codeOf = pinnedCodes := by decide

theorem unLocodeRows_eq (total : Nat) : unLocodeRows total = pinnedRealCodes.map pinnedRow ++
    ((syntheticUnLocodeRows (total + 14)).filter fun row => codeOf row ∉ pinnedCodes).take (total - 14) := rfl

/-- There are as many rows in the file as are asked for, and their codes are distinct. -/
theorem unLocodeRows_spec {total : Nat} (enough : 14 ≤ total) (available : total + 14 ≤ 26 * (26 * (36 * (36 * 36)))) :
    (unLocodeRows total).length = total ∧ ((unLocodeRows total).map codeOf).Nodup := by
  have made := synthetic_length available
  have fourteen : pinnedCodes.length = 14 := by decide
  have left : (syntheticUnLocodeRows (total + 14)).length ≤
      ((syntheticUnLocodeRows (total + 14)).filter fun row => codeOf row ∉ pinnedCodes).length + pinnedCodes.length :=
    length_le_filter (synthetic_distinct (total + 14)) pinnedCodes
  rw [unLocodeRows_eq]
  constructor
  · simp only [List.length_append, List.length_map, List.length_take]
    have pinned : pinnedRealCodes.length = 14 := by decide
    omega
  · rw [List.map_append, pinned_codes]
    refine List.nodup_append'.mpr ⟨pinnedCodes_distinct, ?_, ?_⟩
    · refine (synthetic_distinct (total + 14)).sublist ?_
      exact ((List.take_sublist _ _).trans List.filter_sublist).map codeOf
    · intro code pinned other
      obtain ⟨row, inside, rfl⟩ := List.mem_map.mp other
      have apart := (List.mem_filter.mp (List.mem_of_mem_take inside)).2
      exact absurd pinned (by simpa using apart)

theorem padded_injective : Function.Injective (padded 6) := by
  intro a b same
  have left := ofDigitChars_padded (6 - (Nat.toDigits 10 a).length) a
  have right := ofDigitChars_padded (6 - (Nat.toDigits 10 b).length) b
  exact left.symm.trans ((congrArg (Nat.ofDigitChars 10 · 0) same).trans right)

theorem padded_nonempty (idx : Nat) : padded 6 idx ≠ [] := by
  simp [padded]

theorem pinned_mem (total : Nat) {code : String} (pinned : code.toList ∈ pinnedCodes) :
    code ∈ (unLocodeRows total).map fun row => String.ofList (codeOf row) := by
  rw [← pinned_codes] at pinned
  obtain ⟨row, inside, same⟩ := List.mem_map.mp pinned
  exact List.mem_map.mpr ⟨row, List.mem_append_left _ inside, by rw [same, String.ofList_toList]⟩

/-- The names of ports that are known besides the codes. -/
def seeded : Table String String := aliasFixture.map (fun row => (row.portAlias, row.canonical)) ++ iataFallback

theorem seeded_pinned : ∀ entry ∈ seeded, entry.2.toList ∈ pinnedCodes := by decide

/-- The records of rows that each give one, with the keys of the rows. -/
theorem exists_records {α : Type} {record : List (Option String) → Raises α} {key : α → String} {rows : List Row}
    (each : ∀ row ∈ rows, ∃ made, record (recordOf row) = .ok made ∧ key made = String.ofList (codeOf row)) :
    ∃ records, List.Forall₂ (fun values made => record values = .ok made) (rows.map recordOf) records ∧
      records.map key = rows.map fun row => String.ofList (codeOf row) := by
  induction rows with
  | nil => exact ⟨[], .nil, rfl⟩
  | cons row rest ih =>
    obtain ⟨⟨made, here, named⟩, later⟩ := List.forall_mem_cons.mp each
    obtain ⟨records, all, keys⟩ := ih later
    exact ⟨made :: records, .cons here all, by simp [named, keys]⟩

theorem ofList_distinct {rows : List Row} (distinct : (rows.map codeOf).Nodup) :
    (rows.map fun row => String.ofList (codeOf row)).Nodup := by
  have texts := distinct.map (f := String.ofList) fun _ _ same => String.ofList_injective same
  rwa [List.map_map] at texts

/-- The file of codes, loaded. -/
theorem generated_unLocode (numeric : Numeric) (name : String) {total : Nat} (enough : 14 ≤ total)
    (available : total + 14 ≤ 26 * (26 * (36 * (36 * 36)))) :
    ∃ records : List UnLocodeReference, records.length = total ∧
      records.map UnLocodeReference.code = (unLocodeRows total).map (fun row => String.ofList (codeOf row)) ∧
      Replaces numeric (.unLocode name (generateUnLocode total)) total
        (fun tables => { tables with unLocodeReference := records, carrierPortAliases := aliasFixture }) := by
  obtain ⟨length, distinct⟩ := unLocodeRows_spec enough available
  have full : ∀ row ∈ unLocodeRows total, row.length = unLocodeColumns.length := by
    intro row inside
    obtain ⟨_, _, _, _, _, rfl, -⟩ := generated_unLocodeRows total row inside
    rfl
  have each : ∀ row ∈ unLocodeRows total, ∃ made, unLocodeRecord numeric (recordOf row) = .ok made ∧
      made.code = String.ofList (codeOf row) := by
    intro row inside
    obtain ⟨code, country, place, sub, function, generated⟩ := generated_unLocodeRows total row inside
    refine ⟨_, unLocodeRecord_generated generated, ?_⟩
    rw [generated.row]
    rfl
  obtain ⟨records, copied, codes⟩ := exists_records each
  have count : records.length = total := by
    have lengths := copied.length_eq
    rw [List.length_map] at lengths
    omega
  have canonical : ∀ row ∈ aliasFixture, row.canonical ∈ records.map UnLocodeReference.code := by
    intro row inside
    rw [codes]
    have among : (row.portAlias, row.canonical) ∈ seeded := List.mem_append_left _ (List.mem_map_of_mem inside)
    exact pinned_mem total (seeded_pinned _ among)
  refine ⟨records, count, codes, ?_⟩
  have replaces : Replaces numeric _ _ _ := .unLocode (streamCsvRows_write name (by decide) (by decide) full) copied
    (codes ▸ ofList_distinct distinct) canonical
  rwa [count] at replaces

/-- The file of commodities, loaded. -/
theorem generated_wcoHs6 (numeric : Numeric) (name : String) (total : Nat) :
    ∃ records : List WcoHs6Reference, records.length = total ∧
      Replaces numeric (.wcoHs6 name (generateWcoHs6 total)) total
        (fun tables => { tables with wcoHs6Reference := records }) := by
  have each : ∀ row ∈ (List.range total).map wcoHs6Row, ∃ made, wcoHs6Record (recordOf row) = .ok made ∧
      made.hs6 = String.ofList (codeOf row) := by
    intro row inside
    obtain ⟨idx, -, rfl⟩ := List.mem_map.mp inside
    have hs6 : padded 6 idx ≠ [] := padded_nonempty idx
    have chapter : (padded 6 idx).take 2 ≠ [] := by simpa using hs6
    have heading : (padded 6 idx).take 4 ≠ [] := by simpa using hs6
    have description : "Synthetic commodity ".toList ++ padded 6 idx ≠ [] := by simp
    simp only [wcoHs6Row, recordOf, List.map_cons, List.map_nil, orNone_cons hs6, orNone_cons chapter, orNone_cons heading,
      orNone_cons description]
    exact ⟨_, rfl, rfl⟩
  obtain ⟨records, copied, keys⟩ := exists_records each
  have full : ∀ row ∈ (List.range total).map wcoHs6Row, row.length = wcoHs6Columns.length := by
    intro row inside
    obtain ⟨idx, -, rfl⟩ := List.mem_map.mp inside
    rfl
  have distinct : (((List.range total).map wcoHs6Row).map codeOf).Nodup := by
    rw [List.map_map]
    exact List.nodup_range.map padded_injective
  have count : records.length = total := by
    have lengths := copied.length_eq
    simp only [List.length_map, List.length_range] at lengths
    omega
  refine ⟨records, count, ?_⟩
  have replaces : Replaces numeric _ _ _ := .wcoHs6 (streamCsvRows_write name (by decide) (by decide) full) copied
    (keys ▸ ofList_distinct distinct)
  rwa [count] at replaces

/-! ### Ports of the loaded tables -/

theorem seeded_plain : ∀ entry ∈ seeded, lengthWithin 2 16 entry.1 ∧ strip entry.1 = entry.1 ∧ unlocodeMatch entry.1 = false ∧
    entry.1.toList.all (fun c => c.toNat < 128 && c.toUpper = c) = true ∧ unlocodeExact entry.2 = true := by decide

/-- The aliases and the fallback agree on the names that both have. -/
theorem seeded_find : ∀ entry ∈ seeded, (find entry.1 (aliasFixture.map fun row => (row.portAlias, row.canonical))).or
    (if entry.1.length = 3 then find entry.1 iataFallback else none) = some entry.2 := by decide

theorem lookupCanonicalCode_listed (platform : Platform) {reference : Reference} {code : String}
    (listed : code ∈ reference.unLocodeReference) (exact : unlocodeExact code = true) :
    lookupCanonicalCode platform reference code = some code := by
  rw [lookupCanonicalCode, upper_of_exact platform exact]
  cases found : reference.unLocodeReference.find? (fun row => row = code) with
  | none => exact absurd rfl (of_decide_eq_false (Bool.eq_false_iff.mpr (List.find?_eq_none.mp found _ listed)))
  | some row => simpa using List.find?_some found

/-- A code of the table that has the shape is resolved to itself. -/
theorem resolvePortCode_code (platform : Platform) {reference : Reference} {code : String}
    (listed : code ∈ reference.unLocodeReference) (exact : unlocodeExact code = true) :
    resolvePortCode platform reference code = .ok ⟨some ⟨code⟩, code, .directUnlocode⟩ := by
  have candidate : platform.upper (strip code) = code := by rw [strip_of_exact exact, upper_of_exact platform exact]
  have hit : directHit platform reference code = some code := by
    rw [directHit, if_pos (unlocodeMatch_of_exact exact), lookupCanonicalCode_listed platform listed exact]
  have five := length_of_exact exact
  unfold resolvePortCode
  simp only [candidate, hit]
  have bounded : lengthWithin 2 16 code := ⟨by omega, by omega⟩
  exact resolvedTo_eq_ok.mpr ⟨exact, bounded, rfl⟩

/-- Next to the aliases of the loader and with their codes, every name is resolved to its code. -/
theorem resolvePortCode_seeded (platform : Platform) {reference : Reference}
    (aliases : reference.carrierPortAliases = aliasFixture.map fun row => (row.portAlias, row.canonical))
    (listed : ∀ entry ∈ seeded, entry.2 ∈ reference.unLocodeReference) :
    ∀ entry ∈ seeded, ∃ resolved, resolvePortCode platform reference entry.1 = .ok resolved ∧
      resolved.canonical = some ⟨entry.2⟩ := by
  intro entry inside
  obtain ⟨bounded, stripped, shapeless, plain, exact⟩ := seeded_plain entry inside
  have upper : platform.upper entry.1 = entry.1 := by
    have each : ∀ c ∈ entry.1.toList, c.toNat < 128 ∧ c.toUpper = c := fun c among => by
      simpa using List.all_eq_true.mp plain c among
    rw [platform.upper_ascii entry.1 fun c among => (each c among).1]
    rw [List.map_congr_left (g := id) fun c among => (each c among).2, List.map_id, String.ofList_toList]
  have fallback : iataHit platform reference entry.1 =
      if entry.1.length = 3 then find entry.1 iataFallback else none := by
    unfold iataHit
    split_ifs with three
    · cases known : find entry.1 iataFallback with
      | none => rfl
      | some code =>
        have among : (entry.1, code) ∈ seeded := List.mem_append_right _ (mem_of_find known)
        exact lookupCanonicalCode_listed platform (listed _ among) (seeded_plain _ among).2.2.2.2
    · rfl
  refine resolvePortCode_known platform reference ?_ exact bounded
  have direct : directHit platform reference entry.1 = none := by
    rw [directHit, if_neg (by simp [shapeless])]
  simp only [canonicalOf, stripped, upper, direct, lookupAlias, aliases, fallback, Option.none_or]
  exact seeded_find entry inside

/-- The tables as the migration leaves them. -/
def migrated : Tables := ⟨[], [], []⟩

theorem migrated_sound : Sound migrated := ⟨by simp [migrated], by simp [migrated], by simp [migrated], by simp [migrated]⟩

/-- The two files that the generator writes, with any number of rows, are loaded with as many rows. The tables are then
    sound, every code of the shape is resolved to itself and every alias and fallback to its code. -/
theorem generated_data_seeds (numeric : Numeric) (platform : Platform) (unLocode wcoHs6 : String) (total hs6Total : Nat)
    (enough : 14 ≤ total) (available : total + 14 ≤ 26 * (26 * (36 * (36 * 36)))) (tables : Tables) :
    ∃ loaded final, run (bulkLoadUnLocode numeric unLocode (generateUnLocode total)) tables = (.ok total, loaded) ∧
      run (bulkLoadWcoHs6 wcoHs6 (generateWcoHs6 hs6Total)) loaded = (.ok hs6Total, final) ∧
      Sound final ∧ final.unLocodeReference.length = total ∧ final.wcoHs6Reference.length = hs6Total ∧
      (∀ code ∈ final.reference.unLocodeReference, unlocodeExact code = true →
        resolvePortCode platform final.reference code = .ok ⟨some ⟨code⟩, code, .directUnlocode⟩) ∧
      ∀ entry ∈ seeded, ∃ resolved, resolvePortCode platform final.reference entry.1 = .ok resolved ∧
        resolved.canonical = some ⟨entry.2⟩ := by
  obtain ⟨codes, count, keys, first⟩ := generated_unLocode numeric unLocode enough available
  obtain ⟨commodities, many, second⟩ := generated_wcoHs6 numeric wcoHs6 hs6Total
  refine ⟨_, _, first.ran tables, second.ran _, ?_, count, many, fun code listed exact => ?_, ?_⟩
  · have ports := first.sound migrated_sound
    have goods := second.sound migrated_sound
    exact ⟨ports.codes, ports.aliases, ports.canonical, goods.hs6⟩
  · exact resolvePortCode_code platform listed exact
  · refine resolvePortCode_seeded platform rfl fun entry inside => ?_
    change entry.2 ∈ codes.map UnLocodeReference.code
    rw [keys]
    exact pinned_mem total (seeded_pinned entry inside)

theorem generated_data_seeds_demo : 14 ≤ 110000 ∧ 110000 + 14 ≤ 26 * (26 * (36 * (36 * 36))) ∧
    ∃ loaded final, run (bulkLoadUnLocode (fun _ _ _ => none) "un_locode_2024_2.csv" (generateUnLocode 110000)) migrated =
        (.ok 110000, loaded) ∧
      run (bulkLoadWcoHs6 "wco_hs6_2022.csv" (generateWcoHs6 5000)) loaded = (.ok 5000, final) ∧ Sound final := by
  refine ⟨by decide, by decide, ?_⟩
  obtain ⟨loaded, final, first, second, sound, -⟩ := generated_data_seeds (fun _ _ _ => none) samplePlatform
    "un_locode_2024_2.csv" "wco_hs6_2022.csv" 110000 5000 (by decide) (by decide) migrated
  exact ⟨loaded, final, first, second, sound⟩

theorem Sound.foreignKey {tables : Tables} (sound : Sound tables) : ForeignKey tables.reference := by
  intro entry inside
  obtain ⟨row, among, rfl⟩ := List.mem_map.mp inside
  exact sound.canonical row among

/-- After any loads, of any files and whether they return or raise, the keys are keys and every alias names a code. The
    next load either raises and leaves the tables, or it makes its table the records of its file; to repeat it changes
    nothing. -/
theorem loads_replace (numeric : Numeric) (loads : List Load) (tables : Tables) (sound : Sound tables) :
    (Sound (loadAll numeric loads tables) ∧ ForeignKey (loadAll numeric loads tables).reference) ∧ ∀ load : Load,
      (∃ error, run (load.prog numeric) (loadAll numeric loads tables) = (.error error, loadAll numeric loads tables)) ∨
        ∃ n replace, Replaces numeric load n replace ∧
          run (load.prog numeric) (loadAll numeric loads tables) = (.ok n, replace (loadAll numeric loads tables)) ∧
            run (load.prog numeric) (replace (loadAll numeric loads tables)) =
              (.ok n, replace (loadAll numeric loads tables)) := by
  have after : Sound (loadAll numeric loads tables) := loadAll_sound sound
  refine ⟨⟨after, after.foreignKey⟩, fun load => ?_⟩
  rcases @load_cases numeric load with raises | ⟨n, replace, replaces, returns⟩
  · exact .inl (raises _)
  · refine .inr ⟨n, replace, replaces, returns _, ?_⟩
    rw [returns, replaces.twice]

/-- The generated files, one after the other. -/
def seedLoads : List Load :=
  [.unLocode "un_locode_2024_2.csv" (generateUnLocode 110000), .wcoHs6 "wco_hs6_2022.csv" (generateWcoHs6 5000)]

theorem loads_replace_migrated : Sound migrated ∧
    (Sound (loadAll (fun _ _ _ => none) seedLoads migrated) ∧
      ForeignKey (loadAll (fun _ _ _ => none) seedLoads migrated).reference) ∧ ∀ load : Load,
      (∃ error, run (load.prog fun _ _ _ => none) (loadAll (fun _ _ _ => none) seedLoads migrated) =
        (.error error, loadAll (fun _ _ _ => none) seedLoads migrated)) ∨
        ∃ n replace, Replaces (fun _ _ _ => none) load n replace ∧
          run (load.prog fun _ _ _ => none) (loadAll (fun _ _ _ => none) seedLoads migrated) =
            (.ok n, replace (loadAll (fun _ _ _ => none) seedLoads migrated)) ∧
            run (load.prog fun _ _ _ => none) (replace (loadAll (fun _ _ _ => none) seedLoads migrated)) =
              (.ok n, replace (loadAll (fun _ _ _ => none) seedLoads migrated)) :=
  ⟨migrated_sound, loads_replace (fun _ _ _ => none) seedLoads migrated migrated_sound⟩

end Onramp.ReferenceData
