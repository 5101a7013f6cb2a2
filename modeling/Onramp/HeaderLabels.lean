import Mathlib.Data.List.Dedup
import Mathlib.Data.List.Induction
import Onramp.Cells

/-!
The port columns of a workbook by its header labels. Every sheet is given the first of its
rows with a label for each port and, in that row, the first label of each kind; one sheet
without such a row leaves the whole workbook to the fallback.
-/
namespace Onramp.HeaderLabels
open Onramp.Python
open Onramp.Values
open Onramp.Cells
open Onramp.Library.Keyed (Table find keys mem_keys_iff_find)

variable (platform : Platform)

/-- The trimmed text of the cell in lower case is one of the labels. -/
def labelled (labels : List String) (cell : Cell) : Bool :=
  (normalised platform cell).any (fun label => label ∈ labels)

/-- A row of a sheet with a label for each port. -/
def HeaderRow (cells : List Cell) (place : String × Nat) : Prop :=
  (∃ cell ∈ cells, cell.place = place ∧ labelled platform originLabels cell = true) ∧
    ∃ cell ∈ cells, cell.place = place ∧ labelled platform destinationLabels cell = true

instance (cells : List Cell) : DecidablePred (HeaderRow platform cells) := fun _ =>
  inferInstanceAs (Decidable (_ ∧ _))

/-- The first cell of a row with one of the labels. -/
def firstLabelled (labels : List String) (cells : List Cell) (place : String × Nat) : Option Cell :=
  cells.find? (fun cell => cell.place = place && labelled platform labels cell)

/-- The slots are those of the first header row of the sheet, from the first label of each
    kind in it. -/
structure Describes (cells : List Cell) (title : String) (slots : ColumnSlots) : Prop where
  header : HeaderRow platform cells (title, slots.headerRow)
  smallest : ∀ row, HeaderRow platform cells (title, row) → slots.headerRow ≤ row
  columns : ∃ origin destination, origin ≠ destination ∧
    firstLabelled platform originLabels cells (title, slots.headerRow) = some origin ∧
    firstLabelled platform destinationLabels cells (title, slots.headerRow) = some destination ∧
    slots.originCol = origin.col ∧ slots.destinationCol = destination.col

/-- The same sheets, and the same cells in the header rows. -/
structure SameHeaders (cells others : List Cell) : Prop where
  sheets : ∀ title, title ∈ cells.map Cell.sheet ↔ title ∈ others.map Cell.sheet
  headers : cells.filter (fun cell => HeaderRow platform cells cell.place) =
    others.filter (fun cell => HeaderRow platform others cell.place)

variable {platform}
variable {cells others sheetCells : List Cell} {title : String} {place : String × Nat}

theorem labels_disjoint : ∀ label ∈ originLabels, label ∉ destinationLabels := by decide

theorem not_both_labelled {cell : Cell} (origin : labelled platform originLabels cell = true) :
    labelled platform destinationLabels cell = false := by
  cases text : normalised platform cell with
  | none => simp [labelled, text]
  | some label =>
    have member : label ∈ originLabels := by simpa [labelled, text] using origin
    simpa [labelled, text] using labels_disjoint label member

/-- The fold keeps what it has found and takes the first label of what it has not. -/
theorem labelColumns_eq (cells : List Cell) :
    labelColumns platform cells =
      ((cells.find? (labelled platform originLabels)).map Cell.col,
        (cells.find? (labelled platform destinationLabels)).map Cell.col) := by
  induction cells using List.reverseRecOn with
  | nil => rfl
  | append_singleton rest cell ih =>
    unfold labelColumns at ih ⊢
    rw [List.foldl_append, ih, List.find?_append, List.find?_append]
    cases text : normalised platform cell with
    | none => simp [labelled, text]
    | some label =>
      generalize rest.find? (labelled platform originLabels) = origin
      generalize rest.find? (labelled platform destinationLabels) = destination
      by_cases first : label ∈ originLabels
      · have second : label ∉ destinationLabels := labels_disjoint label first
        cases origin <;> simp [labelled, text, first, second]
      · by_cases second : label ∈ destinationLabels
        · cases destination <;> simp [labelled, text, first, second]
        · simp [labelled, text, first, second]

/-- The cells of one row, taken sheet by sheet and row by row. -/
theorem find_row (labels : List String) (title : String) (row : Nat) :
    ((cells.filter (fun cell => cell.sheet = title)).filter (fun cell => cell.row = row)).find?
      (labelled platform labels) = firstLabelled platform labels cells (title, row) := by
  rw [List.filter_filter, List.find?_filter, firstLabelled]
  congr 1
  funext cell
  by_cases sheet : cell.sheet = title <;> by_cases here : cell.row = row <;> simp [Cell.place, sheet, here]

theorem firstLabelled_isSome {labels : List String} :
    (firstLabelled platform labels cells place).isSome = true ↔
      ∃ cell ∈ cells, cell.place = place ∧ labelled platform labels cell = true := by
  simp [firstLabelled, List.find?_isSome]

theorem labelled_of_first {labels : List String} {cell : Cell}
    (first : firstLabelled platform labels cells place = some cell) : labelled platform labels cell = true := by
  have picked := List.find?_some first
  simp only [Bool.and_eq_true] at picked
  exact picked.2

theorem headerRow_iff : HeaderRow platform cells place ↔
    (firstLabelled platform originLabels cells place).isSome = true ∧
      (firstLabelled platform destinationLabels cells place).isSome = true :=
  and_congr firstLabelled_isSome.symm firstLabelled_isSome.symm

/-- The slots of a row, where it has both labels. -/
def slotsOf (platform : Platform) (cells : List Cell) (place : String × Nat) : Option ColumnSlots :=
  match firstLabelled platform originLabels cells place, firstLabelled platform destinationLabels cells place with
  | some origin, some destination => some ⟨origin.col, destination.col, place.2⟩
  | _, _ => none

theorem slotsOf_isSome : (slotsOf platform cells place).isSome = true ↔ HeaderRow platform cells place := by
  rw [headerRow_iff, slotsOf]
  cases firstLabelled platform originLabels cells place <;>
    cases firstLabelled platform destinationLabels cells place <;> simp

/-- A sheet is searched row by row. -/
theorem identifyRow_eq (rows : List Nat) :
    identifyRow platform (cells.filter (fun cell => cell.sheet = title)) rows =
      rows.findSome? (fun row => slotsOf platform cells (title, row)) := by
  induction rows with
  | nil => rfl
  | cons row rest ih =>
    rw [identifyRow, labelColumns_eq, find_row, find_row, ih, List.findSome?_cons, slotsOf]
    cases firstLabelled platform originLabels cells (title, row) <;>
      cases firstLabelled platform destinationLabels cells (title, row) <;> rfl

/-- What a sheet is given. -/
def sheetSlots (platform : Platform) (cells : List Cell) (title : String) : Option ColumnSlots :=
  identifyRow platform (cells.filter (fun cell => cell.sheet = title))
    (sortedRows (cells.filter (fun cell => cell.sheet = title)))

theorem mem_sortedRows {row : Nat} :
    row ∈ sortedRows (cells.filter (fun cell => cell.sheet = title)) ↔ ∃ cell ∈ cells, cell.place = (title, row) := by
  simp only [sortedRows, List.mem_insertionSort, List.mem_dedup, List.mem_map, List.mem_filter, decide_eq_true_eq,
    Cell.place, Prod.mk.injEq, and_assoc]

theorem sortedRows_sorted (cells : List Cell) : (sortedRows cells).Pairwise (· ≤ ·) :=
  List.pairwise_insertionSort (· ≤ ·) _

theorem row_of_headerRow {row : Nat} (header : HeaderRow platform cells (title, row)) :
    row ∈ sortedRows (cells.filter (fun cell => cell.sheet = title)) := by
  obtain ⟨⟨cell, inside, here, _⟩, _⟩ := header
  exact mem_sortedRows.mpr ⟨cell, inside, here⟩

theorem sheetSlots_eq_none :
    sheetSlots platform cells title = none ↔ ∀ row, ¬ HeaderRow platform cells (title, row) := by
  rw [sheetSlots, identifyRow_eq, List.findSome?_eq_none_iff]
  constructor
  · intro missing row header
    have found := slotsOf_isSome.mpr header
    rw [missing row (row_of_headerRow header)] at found
    cases found
  · intro missing row _
    cases found : slotsOf platform cells (title, row) with
    | none => rfl
    | some slots => exact absurd (slotsOf_isSome.mp (by simp [found])) (missing row)

theorem columns_of_slotsOf {slots : ColumnSlots} (found : slotsOf platform cells place = some slots) :
    slots.headerRow = place.2 ∧ ∃ origin destination, origin ≠ destination ∧
      firstLabelled platform originLabels cells place = some origin ∧
      firstLabelled platform destinationLabels cells place = some destination ∧
      slots.originCol = origin.col ∧ slots.destinationCol = destination.col := by
  unfold slotsOf at found
  split at found
  · next origin destination first second =>
    cases found
    refine ⟨rfl, origin, destination, ?_, first, second, rfl, rfl⟩
    rintro rfl
    have asOrigin : labelled platform originLabels origin = true := labelled_of_first first
    have asDestination : labelled platform destinationLabels origin = true := labelled_of_first second
    rw [not_both_labelled asOrigin] at asDestination
    cases asDestination
  · cases found

/-- In ascending rows the first that yields something is the least that does. -/
theorem least_of_sorted {α : Type} {f : Nat → Option α} {rows : List Nat} {result : α}
    (sorted : rows.Pairwise (· ≤ ·)) (found : rows.findSome? f = some result) :
    ∃ row, f row = some result ∧ ∀ other ∈ rows, (f other).isSome = true → row ≤ other := by
  induction rows with
  | nil => cases found
  | cons row rest ih =>
    obtain ⟨least, ascending⟩ := List.pairwise_cons.mp sorted
    rw [List.findSome?_cons] at found
    cases here : f row with
    | some value =>
      rw [here] at found
      cases found
      refine ⟨row, here, ?_⟩
      intro other inside _
      rcases List.mem_cons.mp inside with rfl | later
      · exact le_rfl
      · exact least other later
    | none =>
      rw [here] at found
      obtain ⟨row', yields, below⟩ := ih ascending found
      refine ⟨row', yields, ?_⟩
      intro other inside some
      rcases List.mem_cons.mp inside with rfl | later
      · rw [here] at some
        cases some
      · exact below other later some

theorem describes_of_sheetSlots {slots : ColumnSlots} (found : sheetSlots platform cells title = some slots) :
    Describes platform cells title slots := by
  rw [sheetSlots, identifyRow_eq] at found
  obtain ⟨row, yields, least⟩ := least_of_sorted (sortedRows_sorted _) found
  obtain ⟨here, columns⟩ := columns_of_slotsOf yields
  replace here : slots.headerRow = row := here
  subst here
  refine ⟨slotsOf_isSome.mp (by rw [yields]; rfl), ?_, columns⟩
  intro other header
  exact least other (row_of_headerRow header) (slotsOf_isSome.mpr header)

/-- A sheet is described by one value only. -/
theorem Describes.unique {slots slots' : ColumnSlots} (described : Describes platform cells title slots)
    (described' : Describes platform cells title slots') : slots = slots' := by
  have same : slots.headerRow = slots'.headerRow :=
    le_antisymm (described.smallest _ described'.header) (described'.smallest _ described.header)
  obtain ⟨origin, destination, _, first, second, originCol, destinationCol⟩ := described.columns
  obtain ⟨origin', destination', _, first', second', originCol', destinationCol'⟩ := described'.columns
  rw [← same, first] at first'
  rw [← same, second] at second'
  cases first'
  cases second'
  cases slots
  cases slots'
  simp_all

theorem mem_sheetTitles : title ∈ sheetTitles cells ↔ title ∈ cells.map Cell.sheet := by
  rw [sheetTitles, List.mem_reverse, List.mem_dedup, List.mem_reverse]

theorem sheetTitles_nodup (cells : List Cell) : (sheetTitles cells).Nodup :=
  List.nodup_reverse.mpr (List.nodup_dedup _)

theorem identifySheets_cons (first : String) (titles : List String) :
    identifySheets platform cells (first :: titles) =
      (sheetSlots platform cells first).bind (fun slots =>
        (identifySheets platform cells titles).map (fun others => (first, slots) :: others)) := by
  rw [identifySheets, sheetSlots]
  cases identifyRow platform (cells.filter (fun cell => cell.sheet = first))
    (sortedRows (cells.filter (fun cell => cell.sheet = first))) with
  | none => rfl
  | some slots => cases identifySheets platform cells titles <;> rfl

theorem identifySheets_eq_none {titles : List String} :
    identifySheets platform cells titles = none ↔ ∃ title ∈ titles, sheetSlots platform cells title = none := by
  induction titles with
  | nil => simp [identifySheets]
  | cons first rest ih =>
    rw [identifySheets_cons]
    cases here : sheetSlots platform cells first with
    | none => simp [here]
    | some slots => simp [here, ih]

theorem identifySheets_eq_some {titles : List String} {columnMap : ColumnMap}
    (identified : identifySheets platform cells titles = some columnMap) :
    keys columnMap = titles ∧
      ∀ title slots, find title columnMap = some slots → sheetSlots platform cells title = some slots := by
  induction titles generalizing columnMap with
  | nil =>
    cases identified
    exact ⟨rfl, by simp⟩
  | cons first rest ih =>
    rw [identifySheets_cons] at identified
    obtain ⟨slots, here, continued⟩ := Option.bind_eq_some_iff.mp identified
    obtain ⟨others, others_eq, rfl⟩ := Option.map_eq_some_iff.mp continued
    obtain ⟨listed, given⟩ := ih others_eq
    refine ⟨by rw [← listed]; rfl, ?_⟩
    intro title slots' found
    by_cases same : first = title
    · subst same
      rw [find, if_pos rfl] at found
      cases found
      exact here
    · rw [find, if_neg same] at found
      exact given title slots' found

theorem identifyPortColumns_eq_none : identifyPortColumns platform cells = none ↔
    cells = [] ∨ ∃ title ∈ cells.map Cell.sheet, ∀ row, ¬ HeaderRow platform cells (title, row) := by
  unfold identifyPortColumns
  by_cases empty : cells = []
  · simp [empty]
  · rw [if_neg empty, identifySheets_eq_none]
    simp only [empty, false_or, mem_sheetTitles, sheetSlots_eq_none]

/-- The map has every sheet of the workbook, with the slots that describe it. -/
theorem describes_of_identified {columnMap : ColumnMap}
    (identified : identifyPortColumns platform cells = some columnMap) :
    keys columnMap = sheetTitles cells ∧
      ∀ title slots, find title columnMap = some slots → Describes platform cells title slots := by
  unfold identifyPortColumns at identified
  split at identified
  · cases identified
  · obtain ⟨listed, given⟩ := identifySheets_eq_some identified
    exact ⟨listed, fun title slots found => describes_of_sheetSlots (given title slots found)⟩

theorem SameHeaders.symm (same : SameHeaders platform cells others) : SameHeaders platform others cells :=
  ⟨fun title => (same.sheets title).symm, same.headers.symm⟩

/-- A cell of a header row stands in the other list too. -/
theorem SameHeaders.mem (same : SameHeaders platform cells others) {cell : Cell}
    (header : HeaderRow platform cells cell.place) (inside : cell ∈ cells) : cell ∈ others := by
  have kept : cell ∈ cells.filter (fun cell => HeaderRow platform cells cell.place) :=
    List.mem_filter.mpr ⟨inside, decide_eq_true header⟩
  rw [same.headers] at kept
  exact List.mem_of_mem_filter kept

theorem SameHeaders.header (same : SameHeaders platform cells others) (header : HeaderRow platform cells place) :
    HeaderRow platform others place := by
  obtain ⟨origin, inside, here, isOrigin⟩ := header.1
  obtain ⟨destination, inside', here', isDestination⟩ := header.2
  exact ⟨⟨origin, same.mem (here ▸ header) inside, here, isOrigin⟩,
    destination, same.mem (here' ▸ header) inside', here', isDestination⟩

/-- The search in a header row sees the cells of the header rows only. -/
theorem firstLabelled_headers (labels : List String) (header : HeaderRow platform cells place) :
    firstLabelled platform labels cells place =
      firstLabelled platform labels (cells.filter (fun cell => HeaderRow platform cells cell.place)) place := by
  rw [firstLabelled, firstLabelled, List.find?_filter]
  congr 1
  funext cell
  by_cases here : cell.place = place
  · simp [here, header]
  · simp [here]

theorem SameHeaders.describes (same : SameHeaders platform cells others) {slots : ColumnSlots}
    (described : Describes platform cells title slots) : Describes platform others title slots := by
  have header := same.header described.header
  have first : ∀ labels, firstLabelled platform labels others (title, slots.headerRow) =
      firstLabelled platform labels cells (title, slots.headerRow) := by
    intro labels
    rw [firstLabelled_headers labels header, firstLabelled_headers labels described.header, same.headers]
  refine ⟨header, fun row other => described.smallest row (same.symm.header other), ?_⟩
  rw [first, first]
  exact described.columns

theorem SameHeaders.identified (same : SameHeaders platform cells others)
    (missing : identifyPortColumns platform cells = none) : identifyPortColumns platform others = none := by
  rcases identifyPortColumns_eq_none.mp missing with rfl | ⟨title, sheet, headerless⟩
  · refine identifyPortColumns_eq_none.mpr (.inl (List.eq_nil_iff_forall_not_mem.mpr ?_))
    intro cell inside
    have sheet := (same.sheets cell.sheet).mpr (List.mem_map_of_mem inside)
    cases sheet
  · exact identifyPortColumns_eq_none.mpr
      (.inr ⟨title, (same.sheets title).mp sheet, fun row header => headerless row (same.symm.header header)⟩)

/-- The map as a dictionary. -/
def slotsByTitle (columnMap : ColumnMap) (title : String) : Option ColumnSlots := find title columnMap

theorem SameHeaders.slotsByTitle (same : SameHeaders platform cells others) :
    (identifyPortColumns platform cells).map slotsByTitle = (identifyPortColumns platform others).map slotsByTitle := by
  cases identified : identifyPortColumns platform cells with
  | none => rw [same.identified identified]
  | some columnMap =>
    cases identified' : identifyPortColumns platform others with
    | none =>
      rw [same.symm.identified identified'] at identified
      cases identified
    | some columnMap' =>
      obtain ⟨listed, described⟩ := describes_of_identified identified
      obtain ⟨listed', described'⟩ := describes_of_identified identified'
      have present : ∀ title, (find title columnMap).isSome ↔ (find title columnMap').isSome := by
        intro title
        rw [← mem_keys_iff_find, ← mem_keys_iff_find, listed, listed', mem_sheetTitles, mem_sheetTitles]
        exact same.sheets title
      refine congrArg some (funext (fun title => ?_))
      simp only [HeaderLabels.slotsByTitle]
      cases found : find title columnMap with
      | none =>
        have absent := (not_congr (present title)).mp (by simp [found])
        exact (Option.not_isSome_iff_eq_none.mp absent).symm
      | some slots =>
        obtain ⟨slots', found'⟩ := Option.isSome_iff_exists.mp ((present title).mp (by simp [found]))
        rw [found', (same.describes (described title slots found)).unique (described' title slots' found')]

/-- The identification fails exactly where a sheet has no header row; else it describes every
    sheet, and the cells of the other rows do not matter. -/
structure Identifies (platform : Platform) (cells : List Cell) : Prop where
  fails : identifyPortColumns platform cells = none ↔
    cells = [] ∨ ∃ title ∈ cells.map Cell.sheet, ∀ row, ¬ HeaderRow platform cells (title, row)
  describes : ∀ columnMap, identifyPortColumns platform cells = some columnMap →
    (keys columnMap).Nodup ∧ (∀ title, title ∈ keys columnMap ↔ title ∈ cells.map Cell.sheet) ∧
      ∀ title slots, find title columnMap = some slots → Describes platform cells title slots
  headersOnly : ∀ others, SameHeaders platform cells others →
    (identifyPortColumns platform cells).map slotsByTitle = (identifyPortColumns platform others).map slotsByTitle

/-- For every list of cells, in any order, the port columns are identified soundly and
    completely. -/
theorem identifyPortColumns_sound_and_complete (platform : Platform) (cells : List Cell) : Identifies platform cells where
  fails := identifyPortColumns_eq_none
  describes := by
    intro columnMap identified
    obtain ⟨listed, described⟩ := describes_of_identified identified
    refine ⟨listed ▸ sheetTitles_nodup cells, ?_, described⟩
    intro title
    rw [listed, mem_sheetTitles]
  headersOnly := fun _ same => same.slotsByTitle

/-- A banner above the labels and an origin label in a row of its own are passed over. -/
example : identifyPortColumns (asciiPlatform [] sampleDigest sampleDigest_length)
    [⟨"Rates", 1, 1, "A1", .text "Spot rates"⟩, ⟨"Rates", 2, 4, "D2", .text "POL"⟩, ⟨"Rates", 3, 2, "B3", .text " Pod "⟩,
      ⟨"Rates", 3, 1, "A3", .text "Origin"⟩] = some [("Rates", ⟨1, 2, 3⟩)] := by decide +kernel

end Onramp.HeaderLabels
