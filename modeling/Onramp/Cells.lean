import Onramp.Models

/-!
The cell list of a workbook and the deterministic scan that runs before the model
sees it: the port columns are found by their header labels, and the rows with a
port cell outside the UN/LOCODE shape are lifted out.
-/
namespace Onramp.Cells
open Onramp.Python
open Onramp.Values
open Onramp.Models
open Onramp.Library.Keyed (Table find alter keys)

/-- The serialized value of a cell. A float carries its `repr`. -/
inductive CellValue
  | none
  | text (s : String)
  | int (n : Int)
  | float (shown : String)
  | bool (b : Bool)
  deriving DecidableEq

/-- `str(value)`. -/
def CellValue.toStr : CellValue → String
  | .none => "None"
  | .text s => s
  | .int n => Int.repr n
  | .float shown => shown
  | .bool b => if b then "True" else "False"

/-- `str(value) if value is not None else ""`. -/
def CellValue.scanText : CellValue → String
  | .none => ""
  | value => value.toStr

structure Cell where
  sheet : String
  row : Nat
  col : Nat
  coord : String
  value : CellValue
  deriving DecidableEq

/-- The sheet and the row of a cell. -/
def Cell.place (cell : Cell) : String × Nat := (cell.sheet, cell.row)

def originLabels : List String :=
  ["origin", "origin_port", "origin port", "pol", "load_port", "load port", "port_of_loading", "port of loading"]

def destinationLabels : List String :=
  ["destination", "destination_port", "destination port", "pod", "discharge_port", "discharge port",
    "port_of_discharge", "port of discharge"]

/-- The port columns of a sheet and the row of their labels. -/
structure ColumnSlots where
  originCol : Nat
  destinationCol : Nat
  headerRow : Nat
  deriving DecidableEq

abbrev ColumnMap : Type := Table String ColumnSlots

/-- `value.strip().lower()`, of a text cell. -/
def normalised (platform : Platform) (cell : Cell) : Option String :=
  match cell.value with
  | .text s => some (platform.lower (strip s))
  | _ => none

/-- The columns of the first origin label and of the first destination label in the
    cells of a row. -/
def labelColumns (platform : Platform) (cells : List Cell) : Option Nat × Option Nat :=
  cells.foldl (fun found cell =>
    match normalised platform cell with
    | none => found
    | some label =>
      if found.1 = none ∧ label ∈ originLabels then (some cell.col, found.2)
      else if found.2 = none ∧ label ∈ destinationLabels then (found.1, some cell.col)
      else found) (none, none)

/-- The first of the rows that has both labels. -/
def identifyRow (platform : Platform) (sheetCells : List Cell) : List Nat → Option ColumnSlots
  | [] => none
  | rowNum :: rest =>
    match labelColumns platform (sheetCells.filter (fun cell => cell.row = rowNum)) with
    | (some originCol, some destinationCol) => some { originCol, destinationCol, headerRow := rowNum }
    | _ => identifyRow platform sheetCells rest

/-- The titles of the sheets, in the order of their first cells. -/
def sheetTitles (cells : List Cell) : List String := (cells.map Cell.sheet).reverse.dedup.reverse

/-- The rows of some cells in ascending order. -/
def sortedRows (cells : List Cell) : List Nat := (cells.map Cell.row).dedup.insertionSort (· ≤ ·)

/-- The slots of every sheet, when every sheet has them. -/
def identifySheets (platform : Platform) (cells : List Cell) : List String → Option ColumnMap
  | [] => some []
  | title :: rest => do
    let sheetCells := cells.filter (fun cell => cell.sheet = title)
    let slots ← identifyRow platform sheetCells (sortedRows sheetCells)
    let others ← identifySheets platform cells rest
    return (title, slots) :: others

def identifyPortColumns (platform : Platform) (cells : List Cell) : Option ColumnMap :=
  if cells = [] then none else identifySheets platform cells (sheetTitles cells)

/-- The role of a port column. -/
inductive Role
  | origin | destination
  deriving DecidableEq

/-- The role of a cell: in a port column of its sheet and below the header. -/
def roleOf (columnMap : ColumnMap) (cell : Cell) : Option Role :=
  match find cell.sheet columnMap with
  | none => none
  | some slots =>
    if cell.row ≤ slots.headerRow then none
    else if cell.col = slots.originCol then some .origin
    else if cell.col = slots.destinationCol then some .destination
    else none

/-- The port cell is outside the UN/LOCODE shape. -/
def violates (columnMap : ColumnMap) (cell : Cell) : Bool :=
  (roleOf columnMap cell).isSome && !unlocodeMatch cell.value.scanText

/-- The violating cells of a row, by role. -/
structure RoleCells where
  origin : Option Cell
  destination : Option Cell

/-- `slot[role] = cell`. -/
def RoleCells.assign (slot : RoleCells) (role : Role) (cell : Cell) : RoleCells :=
  match role with
  | .origin => { slot with origin := some cell }
  | .destination => { slot with destination := some cell }

/-- The body of the loop over the cells. -/
def collect (columnMap : ColumnMap) (rows : Table (String × Nat) RoleCells) (cell : Cell) :
    Table (String × Nat) RoleCells :=
  match roleOf columnMap cell with
  | none => rows
  | some role =>
    if unlocodeMatch cell.value.scanText then rows
    else alter cell.place (fun slot => (slot.getD ⟨none, none⟩).assign role cell) rows

/-- `violating_rows`: under the sheet and the row, the violating cells by role. -/
def violatingRows (columnMap : ColumnMap) (cells : List Cell) : Table (String × Nat) RoleCells :=
  cells.foldl (collect columnMap) []

/-- The order of the rows: by sheet, then by row. -/
def rowOrder (a b : (String × Nat) × RoleCells) : Prop :=
  a.1.1 < b.1.1 ∨ (a.1.1 = b.1.1 ∧ a.1.2 ≤ b.1.2)

instance : DecidableRel rowOrder := fun a b =>
  inferInstanceAs (Decidable (a.1.1 < b.1.1 ∨ (a.1.1 = b.1.1 ∧ a.1.2 ≤ b.1.2)))

/-- The recovery loop: the side that did not violate, from the cells of the row. A cell
    in both columns counts for the origin while that is missing. -/
def recover (slots : ColumnSlots) (rowCells : List Cell) (found : RoleCells) : RoleCells :=
  rowCells.foldl (fun found cell =>
    if found.origin.isNone ∧ cell.col = slots.originCol then { found with origin := some cell }
    else if found.destination.isNone ∧ cell.col = slots.destinationCol then { found with destination := some cell }
    else found) found

/-- `(text or " ")[:64]`. -/
def boundedCode (text : String) : String := sliceTo 64 (if text = "" then " " else text)

/-- The violator of a row. -/
def liftRow (columnMap : ColumnMap) (cells : List Cell) (entry : (String × Nat) × RoleCells) :
    Raises ShapeViolatingLane :=
  let sheet := entry.1.1
  let row := entry.1.2
  match entry.2.origin.or entry.2.destination, find sheet columnMap with
  | some anchor, some slots => do
    let found := recover slots (cells.filter (fun cell => cell.place = (sheet, row))) entry.2
    let valueOf (cell : Option Cell) : String := (cell.map (fun cell => cell.value.toStr)).getD ""
    let sheetName := if sliceTo 64 sheet = "" then "Rates" else sliceTo 64 sheet
    let cellReference := if anchor.coord = "" then s!"A{row}" else anchor.coord
    let sourceRowReference ← checked "SourceRow" SourceRow.Valid { sheetName, rowNumber := row, cellReference }
    checked "ShapeViolatingLane" ShapeViolatingLane.Valid
      { laneId := sliceTo 64 s!"shape_violator_{sheet}_{row}",
        rawOriginCode := boundedCode (valueOf found.origin),
        rawDestinationCode := boundedCode (valueOf found.destination),
        sourceRowReference }
  | _, _ => .error (PyExc.mk' .assertionError "")

/-- The violators of the rows, in order. -/
def liftRows (columnMap : ColumnMap) (cells : List Cell) :
    List ((String × Nat) × RoleCells) → Raises (List ShapeViolatingLane)
  | [] => .ok []
  | entry :: rest => do
    let violator ← liftRow columnMap cells entry
    let others ← liftRows columnMap cells rest
    return violator :: others

/-- `_scan_cells_for_shape_violators`: the surviving cells and the violators. -/
def scanCellsForShapeViolators (cells : List Cell) (columnMap : ColumnMap) :
    Raises (List Cell × List ShapeViolatingLane) :=
  let rows := violatingRows columnMap cells
  if rows.isEmpty then .ok (cells, [])
  else do
    let violators ← liftRows columnMap cells (rows.insertionSort rowOrder)
    return (cells.filter (fun cell => cell.place ∉ keys rows), violators)

end Onramp.Cells
