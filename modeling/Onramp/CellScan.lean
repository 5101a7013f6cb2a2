import Onramp.ShapeScan

/-!
The scan of the cells as a partition of the cell list: the cells of the rows without a
violation in their order, and for each other row one violator with the codes of that row.
-/
namespace Onramp.CellScan
open Onramp.Python
open Onramp.Models
open Onramp.Cells
open Onramp.ShapeScan
open Onramp.Library.Keyed (Table find keys find_of_mem find_alter)

/-- No two cells have one sheet, row and column. -/
def Distinct (cells : List Cell) : Prop := (cells.map (fun cell => (cell.place, cell.col))).Nodup

instance : DecidablePred Distinct := fun _ => inferInstanceAs (Decidable (List.Nodup _))

/-- The cell of a row in a column. -/
def cellAt (cells : List Cell) (place : String × Nat) (col : Nat) : Option Cell :=
  cells.find? (fun cell => cell.place = place ∧ cell.col = col)

/-- Its text, which is empty when there is no such cell. -/
def textAt (cells : List Cell) (place : String × Nat) (col : Nat) : String :=
  ((cellAt cells place col).map (fun cell => cell.value.toStr)).getD ""

/-- The order of the rows: by sheet, then by row. -/
def Before (a b : String × Nat) : Prop := a.1 < b.1 ∨ (a.1 = b.1 ∧ a.2 < b.2)

/-- The violator of a row: its coordinate is that of a port cell outside the shape, and its codes
    are the texts of the two port cells. -/
structure Describes (columnMap : ColumnMap) (cells : List Cell) (place : String × Nat) (violator : ShapeViolatingLane) :
    Prop where
  row : violator.sourceRowReference.rowNumber = place.2 ∧
    violator.sourceRowReference.sheetName = if sliceTo 64 place.1 = "" then "Rates" else sliceTo 64 place.1
  anchor : ∃ cell ∈ cells, cell.place = place ∧ violates columnMap cell = true ∧
    violator.sourceRowReference.cellReference = if cell.coord = "" then s!"A{place.2}" else cell.coord
  codes : ∃ slots, find place.1 columnMap = some slots ∧
    violator.rawOriginCode = boundedCode (textAt cells place slots.originCol) ∧
    violator.rawDestinationCode = boundedCode (textAt cells place slots.destinationCol)

instance (columnMap : ColumnMap) (cells : List Cell) : DecidablePred (ViolatingRow columnMap cells) := fun place =>
  inferInstanceAs (Decidable (∃ cell ∈ cells, violates columnMap cell = true ∧ cell.place = place))

/-- The cells are parted into those of the rows without a violation and the violators of the
    others. -/
structure Partition (columnMap : ColumnMap) (cells shown : List Cell) (violators : List ShapeViolatingLane) : Prop where
  surviving : shown = cells.filter (fun cell => ¬ ViolatingRow columnMap cells cell.place)
  lifted : ∃ places, places.Pairwise Before ∧ (∀ place, place ∈ places ↔ ViolatingRow columnMap cells place) ∧
    List.Forall₂ (Describes columnMap cells) places violators
  untouched : ∀ cell ∈ cells, (∀ slots, find cell.sheet columnMap = some slots → cell.row ≤ slots.headerRow) → cell ∈ shown

/-- The coordinates that a workbook has: rows from 1 on, and a name such as `A1`. -/
def Placed (cell : Cell) : Prop := 1 ≤ cell.row ∧ lengthWithin 2 32 cell.coord

instance : DecidablePred Placed := fun _ => inferInstanceAs (Decidable (_ ∧ _))

variable {columnMap : ColumnMap} {cells : List Cell}

/-- What every assignment to a slot keeps holds of the slots in the end. -/
theorem violatingRows_forall (P : String × Nat → RoleCells → Prop)
    (assign : ∀ cell role slot, roleOf columnMap cell = some role → (∀ held, slot = some held → P cell.place held) →
      P cell.place ((slot.getD ⟨none, none⟩).assign role cell)) :
    ∀ place slot, find place (violatingRows columnMap cells) = some slot → P place slot := by
  have run : ∀ (later : List Cell) (rows : Table (String × Nat) RoleCells),
      (∀ place slot, find place rows = some slot → P place slot) →
      ∀ place slot, find place (later.foldl (collect columnMap) rows) = some slot → P place slot := by
    intro later
    induction later with
    | nil => exact fun _ before => before
    | cons cell rest ih =>
      intro rows before
      refine ih _ ?_
      intro place slot found
      unfold collect at found
      split at found
      · exact before place slot found
      next role known =>
      split at found
      · exact before place slot found
      rw [find_alter] at found
      split at found
      · next same =>
        subst same
        cases found
        exact assign cell role _ known (fun held found => before _ held found)
      · exact before place slot found
  exact run cells [] (fun _ _ none => by cases none)

/-- The cells in a slot have its roles. -/
def InRole (columnMap : ColumnMap) (slot : RoleCells) : Prop :=
  (∀ cell, slot.origin = some cell → roleOf columnMap cell = some .origin) ∧
    ∀ cell, slot.destination = some cell → roleOf columnMap cell = some .destination

theorem violatingRows_inRole {place : String × Nat} {slot : RoleCells}
    (found : find place (violatingRows columnMap cells) = some slot) : InRole columnMap slot := by
  refine violatingRows_forall (fun _ slot => InRole columnMap slot) ?_ place slot found
  intro cell role slot known before
  have own : InRole columnMap (slot.getD ⟨none, none⟩) := by
    cases slot with
    | none => exact ⟨by simp, by simp⟩
    | some held => exact before held rfl
  cases role with
  | origin => exact ⟨fun other same => by cases same; exact known, own.2⟩
  | destination => exact ⟨own.1, fun other same => by cases same; exact known⟩

/-- The recovery takes the first cell of the origin column. -/
theorem recover_origin (slots : ColumnSlots) (rowCells : List Cell) (found : RoleCells) :
    (recover slots rowCells found).origin = found.origin.or (rowCells.find? (fun cell => cell.col = slots.originCol)) := by
  induction rowCells generalizing found with
  | nil => simp [recover]
  | cons cell rest ih =>
    have step : recover slots (cell :: rest) found = recover slots rest
      (if found.origin.isNone ∧ cell.col = slots.originCol then { found with origin := some cell }
       else if found.destination.isNone ∧ cell.col = slots.destinationCol then { found with destination := some cell }
       else found) := rfl
    rw [step, ih]
    cases origin : found.origin with
    | some first => split_ifs <;> simp_all
    | none =>
      by_cases here : cell.col = slots.originCol
      · simp [here]
      · simp only [here, and_false, if_false, List.find?_cons, decide_false]
        split_ifs <;> simp [origin]

/-- It takes the first cell of the destination column, unless that has to be the origin. -/
theorem recover_destination (slots : ColumnSlots) (rowCells : List Cell) (found : RoleCells)
    (apart : slots.originCol ≠ slots.destinationCol ∨ found.origin.isSome) :
    (recover slots rowCells found).destination =
      found.destination.or (rowCells.find? (fun cell => cell.col = slots.destinationCol)) := by
  induction rowCells generalizing found with
  | nil => simp [recover]
  | cons cell rest ih =>
    have step : recover slots (cell :: rest) found = recover slots rest
      (if found.origin.isNone ∧ cell.col = slots.originCol then { found with origin := some cell }
       else if found.destination.isNone ∧ cell.col = slots.destinationCol then { found with destination := some cell }
       else found) := rfl
    rw [step]
    by_cases first : found.origin.isNone ∧ cell.col = slots.originCol
    · have elsewhere : cell.col ≠ slots.destinationCol := by
        rcases apart with columns | some
        · exact fun same => columns (first.2.symm.trans same)
        · simp [Option.isNone_iff_eq_none.mp first.1] at some
      rw [if_pos first, ih _ (.inr rfl), List.find?_cons]
      simp [elsewhere]
    · rw [if_neg first]
      by_cases here : found.destination.isNone ∧ cell.col = slots.destinationCol
      · rw [if_pos here, ih { found with destination := some cell } apart, List.find?_cons]
        simp [here.2, Option.isNone_iff_eq_none.mp here.1]
      · rw [if_neg here, ih _ apart, List.find?_cons]
        cases held : found.destination with
        | some other => simp
        | none =>
          have elsewhere : cell.col ≠ slots.destinationCol := fun same => here ⟨by simp [held], same⟩
          simp [elsewhere]

theorem cellAt_of_mem (distinct : Distinct cells) {cell : Cell} (inside : cell ∈ cells) :
    cellAt cells cell.place cell.col = some cell := by
  have some : (cellAt cells cell.place cell.col).isSome :=
    List.find?_isSome.mpr ⟨cell, inside, by simp⟩
  obtain ⟨other, found⟩ := Option.isSome_iff_exists.mp some
  have same : other.place = cell.place ∧ other.col = cell.col := by simpa using List.find?_some found
  have key : (other.place, other.col) = (cell.place, cell.col) := by rw [same.1, same.2]
  rw [found, List.inj_on_of_nodup_map distinct (List.mem_of_find?_eq_some found) inside key]

theorem roleOf_spec {cell : Cell} {role : Role} (known : roleOf columnMap cell = some role) :
    ∃ slots, find cell.sheet columnMap = some slots ∧ slots.headerRow < cell.row ∧
      (role = .origin → cell.col = slots.originCol) ∧
      (role = .destination → cell.col = slots.destinationCol ∧ cell.col ≠ slots.originCol) := by
  unfold roleOf at known
  split at known
  · cases known
  next slots found =>
  split at known
  · cases known
  next below =>
  refine ⟨slots, found, Nat.lt_of_not_le below, ?_⟩
  split at known
  · next origin =>
    cases known
    exact ⟨fun _ => origin, fun impossible => by cases impossible⟩
  next other =>
  split at known
  · next destination =>
    cases known
    exact ⟨fun impossible => (by cases impossible), fun _ => ⟨destination, other⟩⟩
  · cases known

/-- The recovery ends with the two port cells of the row. -/
theorem recover_cellAt (distinct : Distinct cells) {place : String × Nat} {slot : RoleCells} {slots : ColumnSlots}
    (held : SlotOf columnMap cells place slot) (roles : InRole columnMap slot) (found : find place.1 columnMap = some slots) :
    recover slots (cells.filter (fun cell => cell.place = place)) slot =
      ⟨cellAt cells place slots.originCol, cellAt cells place slots.destinationCol⟩ := by
  have inRow : ∀ col, (cells.filter (fun cell => cell.place = place)).find? (fun cell => cell.col = col) =
      cellAt cells place col := by
    intro col
    simp [cellAt, List.find?_filter]
  have origin : ∀ cell, slot.origin = some cell → cellAt cells place slots.originCol = some cell := by
    intro cell same
    obtain ⟨inside, -, rfl⟩ := held.fromRow cell (.inl same)
    obtain ⟨slots', found', -, col, -⟩ := roleOf_spec (roles.1 cell same)
    obtain rfl : slots' = slots := Option.some.inj (found'.symm.trans found)
    rw [← col rfl]
    exact cellAt_of_mem distinct inside
  have destination : ∀ cell, slot.destination = some cell →
      cellAt cells place slots.destinationCol = some cell ∧ slots.destinationCol ≠ slots.originCol := by
    intro cell same
    obtain ⟨inside, -, rfl⟩ := held.fromRow cell (.inr same)
    obtain ⟨slots', found', -, -, col⟩ := roleOf_spec (roles.2 cell same)
    obtain rfl : slots' = slots := Option.some.inj (found'.symm.trans found)
    obtain ⟨here, other⟩ := col rfl
    rw [← here]
    exact ⟨cellAt_of_mem distinct inside, other⟩
  have apart : slots.originCol ≠ slots.destinationCol ∨ slot.origin.isSome := by
    cases first : slot.origin with
    | some cell => exact .inr rfl
    | none =>
      have anchored := held.anchored
      rw [first, Option.none_or] at anchored
      obtain ⟨cell, same⟩ := Option.isSome_iff_exists.mp anchored
      exact .inl (Ne.symm (destination cell same).2)
  have left := recover_origin slots (cells.filter (fun cell => cell.place = place)) slot
  have right := recover_destination slots (cells.filter (fun cell => cell.place = place)) slot apart
  rw [inRow] at left right
  have left' : slot.origin.or (cellAt cells place slots.originCol) = cellAt cells place slots.originCol := by
    cases first : slot.origin with
    | none => rfl
    | some cell => rw [origin cell first, Option.some_or]
  have right' : slot.destination.or (cellAt cells place slots.destinationCol) = cellAt cells place slots.destinationCol := by
    cases first : slot.destination with
    | none => rfl
    | some cell => rw [(destination cell first).1, Option.some_or]
  rw [left'] at left
  rw [right'] at right
  cases recovered : recover slots (cells.filter (fun cell => cell.place = place)) slot
  rw [recovered] at left right
  simp only at left right
  rw [left, right]

/-- What is made of the cells of a row. -/
def violatorOf (place : String × Nat) (anchor : Cell) (found : RoleCells) : ShapeViolatingLane where
  laneId := sliceTo 64 s!"shape_violator_{place.1}_{place.2}"
  rawOriginCode := boundedCode ((found.origin.map (fun cell => cell.value.toStr)).getD "")
  rawDestinationCode := boundedCode ((found.destination.map (fun cell => cell.value.toStr)).getD "")
  sourceRowReference :=
    { sheetName := if sliceTo 64 place.1 = "" then "Rates" else sliceTo 64 place.1
      rowNumber := place.2
      cellReference := if anchor.coord = "" then s!"A{place.2}" else anchor.coord }

/-- A text that is cut to 64 characters is not empty, and not too long. -/
theorem sliceTo_within {text : String} (some : text ≠ "") : lengthWithin 1 64 (sliceTo 64 text) := by
  have least : 0 < text.length := by
    rw [Nat.pos_iff_ne_zero]
    exact fun none => some (String.length_eq_zero_iff.mp none)
  simp only [lengthWithin, sliceTo, String.length_ofList, List.length_take, String.length_toList]
  omega

theorem boundedCode_within (text : String) : lengthWithin 1 64 (boundedCode text) := by
  unfold boundedCode
  split
  · decide
  · next some => exact sliceTo_within some

theorem violatorOf_valid {place : String × Nat} {anchor : Cell} {found : RoleCells}
    (row : (violatorOf place anchor found).sourceRowReference.Valid) : (violatorOf place anchor found).Valid := by
  refine ⟨sliceTo_within ?_, boundedCode_within _, boundedCode_within _, row⟩
  intro none
  have first := congrArg (fun text => text.length) none
  simp [String.length_append] at first

/-- Only the row and the coordinate of the anchor can fail the schema. -/
theorem liftRow_eq {place : String × Nat} {slot : RoleCells} (held : SlotOf columnMap cells place slot) :
    ∃ anchor slots, (anchor ∈ cells ∧ violates columnMap anchor = true ∧ anchor.place = place) ∧
      find place.1 columnMap = some slots ∧
      let row := recover slots (cells.filter (fun cell => cell.place = place)) slot
      (Placed anchor → (violatorOf place anchor row).sourceRowReference.Valid) ∧
        liftRow columnMap cells (place, slot) =
          if (violatorOf place anchor row).sourceRowReference.Valid then .ok (violatorOf place anchor row)
          else .error (validationError "SourceRow") := by
  obtain ⟨anchor, anchored⟩ := Option.isSome_iff_exists.mp held.anchored
  obtain ⟨inside, bad, same⟩ := held.fromRow anchor (Option.or_eq_some_iff.mp anchored |>.imp_right And.right)
  obtain ⟨role, known⟩ := Option.isSome_iff_exists.mp (Bool.and_eq_true_iff.mp bad).1
  obtain ⟨slots, found, -⟩ := roleOf_spec known
  have sheet : anchor.sheet = place.1 := congrArg Prod.fst same
  have number : anchor.row = place.2 := congrArg Prod.snd same
  rw [sheet] at found
  refine ⟨anchor, slots, ⟨inside, bad, same⟩, found, ?_⟩
  intro row
  constructor
  · rintro ⟨first, coord⟩
    have named : anchor.coord ≠ "" := by
      intro none
      rw [none] at coord
      exact absurd coord.1 (by decide)
    refine ⟨?_, le_of_le_of_eq first number, by rw [violatorOf]; simpa only [named, if_false] using coord⟩
    show lengthWithin 1 64 (if sliceTo 64 place.1 = "" then "Rates" else sliceTo 64 place.1)
    split
    · decide
    · next some => exact sliceTo_within (fun none => some (by rw [none]; rfl))
  · have steps : liftRow columnMap cells (place, slot) =
        (checked "SourceRow" SourceRow.Valid (violatorOf place anchor row).sourceRowReference >>= fun reference =>
          checked "ShapeViolatingLane" ShapeViolatingLane.Valid
            { violatorOf place anchor row with sourceRowReference := reference }) := by
      unfold liftRow
      simp only [anchored, found]
      rfl
    have whole := @violatorOf_valid place anchor row
    rw [steps]
    generalize violatorOf place anchor row = violator at whole ⊢
    by_cases valid : violator.sourceRowReference.Valid
    · rw [if_pos valid, checked_of_valid valid]
      exact checked_of_valid (whole valid)
    · rw [if_neg valid, checked, if_neg valid]
      rfl

theorem liftRow_describes (distinct : Distinct cells) {place : String × Nat} {slot : RoleCells}
    (held : SlotOf columnMap cells place slot) (roles : InRole columnMap slot) {violator : ShapeViolatingLane}
    (lifted : liftRow columnMap cells (place, slot) = .ok violator) : Describes columnMap cells place violator := by
  obtain ⟨anchor, slots, ⟨inside, bad, same⟩, found, -, result⟩ := liftRow_eq held
  rw [result] at lifted
  split at lifted
  · cases lifted
    refine ⟨⟨rfl, rfl⟩, ⟨anchor, inside, same, bad, rfl⟩, slots, found, ?_⟩
    rw [recover_cellAt distinct held roles found]
    exact ⟨rfl, rfl⟩
  · cases lifted

theorem liftRow_raises {place : String × Nat} {slot : RoleCells} (held : SlotOf columnMap cells place slot) {exc : PyExc}
    (raised : liftRow columnMap cells (place, slot) = .error exc) :
    exc = validationError "SourceRow" ∧ ∃ cell ∈ cells, violates columnMap cell = true ∧ ¬ Placed cell := by
  obtain ⟨anchor, slots, ⟨inside, bad, -⟩, -, fits, result⟩ := liftRow_eq held
  rw [result] at raised
  split at raised
  · cases raised
  · next invalid =>
    cases raised
    exact ⟨rfl, anchor, inside, bad, fun placed => invalid (fits placed)⟩

theorem liftRows_raises {entries : List ((String × Nat) × RoleCells)} {exc : PyExc}
    (raised : liftRows columnMap cells entries = .error exc) :
    ∃ entry ∈ entries, liftRow columnMap cells entry = .error exc := by
  induction entries with
  | nil => cases raised
  | cons entry rest ih =>
    unfold liftRows at raised
    simp only [bind, Except.bind, pure, Except.pure] at raised
    split at raised
    · next exc' here =>
      cases raised
      exact ⟨entry, List.mem_cons_self, here⟩
    split at raised
    · next exc' later =>
      cases raised
      obtain ⟨other, inside, error⟩ := ih later
      exact ⟨other, List.mem_cons_of_mem _ inside, error⟩
    · cases raised

theorem before_of_rowOrder {a b : (String × Nat) × RoleCells} (ordered : rowOrder a b) (apart : a.1 ≠ b.1) :
    Before a.1 b.1 := by
  rcases ordered with sheet | ⟨same, row⟩
  · exact .inl sheet
  · refine .inr ⟨same, lt_of_le_of_ne row ?_⟩
    exact fun number => apart (Prod.ext same number)

theorem sorted_before {rows : Table (String × Nat) RoleCells} (distinct : (keys rows).Nodup) :
    ((rows.insertionSort rowOrder).map Prod.fst).Pairwise Before := by
  have total : Std.Total rowOrder := ⟨by
    intro a b
    by_cases sheet : a.1.1 < b.1.1
    · exact .inl (.inl sheet)
    by_cases sheet' : b.1.1 < a.1.1
    · exact .inr (.inl sheet')
    have same : a.1.1 = b.1.1 := String.le_antisymm (String.not_lt.mp sheet') (String.not_lt.mp sheet)
    rcases Nat.le_total a.1.2 b.1.2 with row | row
    · exact .inl (.inr ⟨same, row⟩)
    · exact .inr (.inr ⟨same.symm, row⟩)⟩
  have trans : IsTrans _ rowOrder := ⟨by
    rintro a b c (first | ⟨first, row⟩) (second | ⟨second, row'⟩)
    · exact .inl (String.lt_trans first second)
    · exact .inl (second ▸ first)
    · exact .inl (first ▸ second)
    · exact .inr ⟨first.trans second, Nat.le_trans row row'⟩⟩
  have apart : ((rows.insertionSort rowOrder).map Prod.fst).Nodup :=
    ((List.perm_insertionSort rowOrder rows).map Prod.fst).nodup_iff.mpr distinct
  rw [List.pairwise_map]
  have different : (rows.insertionSort rowOrder).Pairwise (fun a b => a.1 ≠ b.1) := List.pairwise_map.mp apart
  exact (List.pairwise_insertionSort rowOrder rows).imp₂ (fun _ _ => before_of_rowOrder) different

theorem sorted_held : ∀ entry ∈ (violatingRows columnMap cells).insertionSort rowOrder,
    SlotOf columnMap cells entry.1 entry.2 ∧ InRole columnMap entry.2 := by
  intro entry inside
  have collected := violatingRows_collected columnMap cells
  have stored := (List.perm_insertionSort rowOrder (violatingRows columnMap cells)).subset inside
  have found := find_of_mem collected.distinct stored
  exact ⟨collected.sound entry.1 entry.2 found, violatingRows_inRole found⟩

/-- The scan raises only when a violating cell does not have the coordinates of a workbook. -/
theorem scan_raises {exc : PyExc} (raised : scanCellsForShapeViolators cells columnMap = .error exc) :
    exc = validationError "SourceRow" ∧ ∃ cell ∈ cells, violates columnMap cell = true ∧ ¬ Placed cell := by
  rw [scan_eq] at raised
  cases lifted : liftRows columnMap cells ((violatingRows columnMap cells).insertionSort rowOrder) with
  | error exc' =>
    rw [lifted] at raised
    cases raised
    obtain ⟨entry, inside, here⟩ := liftRows_raises lifted
    exact liftRow_raises (sorted_held entry inside).1 here
  | ok violators =>
    rw [lifted] at raised
    cases raised

theorem scan_partition (distinct : Distinct cells) {shown : List Cell} {violators : List ShapeViolatingLane}
    (scanned : scanCellsForShapeViolators cells columnMap = .ok (shown, violators)) :
    Partition columnMap cells shown violators := by
  obtain ⟨lifted, surviving⟩ := scan_eq_ok scanned
  refine ⟨?_, ⟨_, sorted_before (violatingRows_collected columnMap cells).distinct, ?_, ?_⟩, ?_⟩
  · rw [surviving]
    refine List.filter_congr (fun cell _ => ?_)
    rw [decide_eq_decide, mem_keys_violatingRows]
  · intro place
    rw [((List.perm_insertionSort rowOrder (violatingRows columnMap cells)).map Prod.fst).mem_iff]
    exact mem_keys_violatingRows
  · rw [List.forall₂_map_left_iff]
    have each := List.forall₂_and_left _ _ |>.mpr ⟨sorted_held, liftRows_forall lifted⟩
    exact each.imp (fun entry violator ⟨slot, here⟩ => liftRow_describes distinct slot.1 slot.2 here)
  · intro cell inside above
    refine (scan_shown scanned cell).mpr ⟨inside, ?_⟩
    rintro ⟨other, -, bad, same⟩
    obtain ⟨role, known⟩ := Option.isSome_iff_exists.mp (Bool.and_eq_true_iff.mp bad).1
    obtain ⟨slots, found, below, -⟩ := roleOf_spec known
    have sheet : other.sheet = cell.sheet := congrArg Prod.fst same
    have number : other.row = cell.row := congrArg Prod.snd same
    have header := above slots (sheet ▸ found)
    omega

/-- What the scan returns is the partition of the cells. It raises on no other account than a
    violating cell that has no coordinates of a workbook. -/
theorem scan_is_partition (cells : List Cell) (columnMap : ColumnMap) (distinct : Distinct cells) :
    (∀ shown violators, scanCellsForShapeViolators cells columnMap = .ok (shown, violators) →
      Partition columnMap cells shown violators) ∧
    ∀ exc, scanCellsForShapeViolators cells columnMap = .error exc →
      exc.cls ≠ .assertionError ∧ ∃ cell ∈ cells, violates columnMap cell = true ∧ ¬ Placed cell := by
  refine ⟨fun _ _ scanned => scan_partition distinct scanned, fun exc raised => ?_⟩
  obtain ⟨rfl, cause⟩ := scan_raises raised
  exact ⟨by decide, cause⟩

/-- A row whose destination is a port name, below a row of codes. -/
theorem scan_is_partition_sample :
    ∃ shown violators, scanCellsForShapeViolators scannedCells [("Rates", ⟨1, 2, 1⟩)] = .ok (shown, violators) ∧
      Partition [("Rates", ⟨1, 2, 1⟩)] scannedCells shown violators :=
  ⟨_, _, rfl, (scan_is_partition scannedCells [("Rates", ⟨1, 2, 1⟩)] (by decide)).1 _ _ rfl⟩

end Onramp.CellScan
