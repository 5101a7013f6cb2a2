import Mathlib.Tactic.SplitIfs

/-!
Tables as texts with commas, in the dialect of spreadsheets. The writer quotes a field where it has
to. The reader takes the text line by line and keeps its place in a record from one character to
the next, so that a quoted field runs over the end of a line. What is written is read back.
-/
namespace Onramp.Library.Csv

abbrev Field : Type := List Char

abbrev Row : Type := List Field

/-- The character makes its field a quoted one. -/
def special (c : Char) : Bool := c = ',' || c = '"' || c = '\r' || c = '\n'

/-- The field with its quotes doubled. -/
def doubled : Field → List Char
  | [] => []
  | c :: rest => if c = '"' then '"' :: '"' :: doubled rest else c :: doubled rest

def fieldText (field : Field) : List Char := if field.any special then '"' :: (doubled field ++ ['"']) else field

/-- The texts of the fields with commas between them. -/
def fieldsText : Row → List Char
  | [] => []
  | [field] => fieldText field
  | field :: other :: rest => fieldText field ++ ',' :: fieldsText (other :: rest)

/-- One record. A field that is alone and empty is quoted. -/
def rowText (row : Row) : List Char := (if row = [[]] then ['"', '"'] else fieldsText row) ++ ['\r', '\n']

def write (rows : List Row) : List Char := rows.flatMap rowText

/-- The characters of the text with a mark behind each line. A line ends behind `\n`, `\r` or
    both, and the text may end in a line that is not ended. -/
def marked (pending : Bool) : List Char → List (Option Char)
  | [] => if pending then [none] else []
  | '\r' :: '\n' :: rest => some '\r' :: some '\n' :: none :: marked false rest
  | c :: rest => if c = '\r' || c = '\n' then some c :: none :: marked false rest else some c :: marked true rest

inductive Phase
  | startRecord | startField | inField | inQuotedField | quoteInQuotedField | eatCrnl
  deriving DecidableEq

/-- The place in a record: the field so far, and the fields before it. -/
structure Parser where
  phase : Phase
  field : Field
  row : Row

def start : Parser := ⟨.startRecord, [], []⟩

def Parser.save (p : Parser) (phase : Phase) : Parser := ⟨phase, [], p.row ++ [p.field]⟩

def Parser.add (p : Parser) (c : Char) (phase : Phase) : Parser := ⟨phase, p.field ++ [c], p.row⟩

/-- The field ends at the end of a line, or at a character of it. -/
def Parser.endLine (p : Parser) : Option Char → Parser
  | none => p.save .startRecord
  | some _ => p.save .eatCrnl

def newline : Option Char → Bool
  | none => true
  | some c => c = '\r' || c = '\n'

/-- The parser behind a character or a mark, nothing when it raises. -/
def Parser.feed (p : Parser) (c : Option Char) : Option Parser :=
  match p.phase, c with
  | .startRecord, none => some p
  | .startRecord, some c | .startField, some c =>
    if newline (some c) then
      if p.phase = .startRecord then some { p with phase := .eatCrnl } else some (p.endLine (some c))
    else if c = '"' then some { p with phase := .inQuotedField }
    else if c = ',' then some (p.save .startField)
    else some (p.add c .inField)
  | .startField, none => some (p.endLine none)
  | .inField, none => some (p.endLine none)
  | .inField, some c =>
    if newline (some c) then some (p.endLine (some c))
    else if c = ',' then some (p.save .startField)
    else some (p.add c .inField)
  | .inQuotedField, none => some p
  | .inQuotedField, some c => if c = '"' then some { p with phase := .quoteInQuotedField } else some (p.add c .inQuotedField)
  | .quoteInQuotedField, none => some (p.endLine none)
  | .quoteInQuotedField, some c =>
    if c = '"' then some (p.add c .inQuotedField)
    else if c = ',' then some (p.save .startField)
    else if newline (some c) then some (p.endLine (some c))
    else some (p.add c .inField)
  | .eatCrnl, none => some { p with phase := .startRecord }
  | .eatCrnl, some c => if newline (some c) then some p else none

/-- The records, each of which ends at a mark. At the end of the text an open quote is closed. -/
def records (p : Parser) : List (Option Char) → Option (List Row)
  | [] => if p.phase = .inQuotedField then some [p.row ++ [p.field]] else some []
  | c :: rest =>
    match p.feed c with
    | none => none
    | some next =>
      if c = none ∧ next.phase = .startRecord then (records start rest).map (next.row :: ·) else records next rest

/-- The rows of the text, nothing when the reader raises. -/
def read (text : List Char) : Option (List Row) := records start (marked false text)

theorem special_eq_false {c : Char} : special c = false ↔ c ≠ ',' ∧ c ≠ '"' ∧ c ≠ '\r' ∧ c ≠ '\n' := by
  simp [special, and_assoc]

/-- A character that ends no line is marked alone. -/
theorem marked_plain {c : Char} (pending : Bool) (plain : c ≠ '\r' ∧ c ≠ '\n') (text : List Char) :
    marked pending (c :: text) = some c :: marked true text := by
  rw [marked]
  · simp [plain]
  · rintro rest rfl
    exact absurd rfl plain.1

theorem marked_crlf (pending : Bool) (text : List Char) :
    marked pending ('\r' :: '\n' :: text) = some '\r' :: some '\n' :: none :: marked false text := by
  rw [marked]

/-- Only the end of the text asks whether a line is open. -/
theorem marked_pending {text : List Char} (nonempty : text ≠ []) (pending : Bool) : marked pending text = marked true text := by
  cases text with
  | nil => exact absurd rfl nonempty
  | cons c rest =>
    by_cases crlf : ∃ later, c = '\r' ∧ rest = '\n' :: later
    · obtain ⟨later, rfl, rfl⟩ := crlf
      rw [marked_crlf, marked_crlf]
    · have alone : ∀ later, c = '\r' → rest = '\n' :: later → False := fun later first second => crlf ⟨later, first, second⟩
      rw [marked.eq_3 _ _ _ alone, marked.eq_3 _ _ _ alone]

variable {p : Parser} {text : List Char}

theorem records_some {next : Parser} {c : Char} {rest : List (Option Char)} (fed : p.feed (some c) = some next) :
    records p (some c :: rest) = records next rest := by
  simp [records, fed]

/-- In quotes a character is taken as it is, and the marks are passed over. -/
theorem records_quoted {c : Char} (other : c ≠ '"') (quoted : p.phase = .inQuotedField) (nonempty : text ≠ []) (pending : Bool) :
    records p (marked pending (c :: text)) = records (p.add c .inQuotedField) (marked true text) := by
  obtain ⟨phase, field, row⟩ := p
  cases quoted
  have fed : ∀ (d : Char) (field : Field), d ≠ '"' →
      Parser.feed ⟨.inQuotedField, field, row⟩ (some d) = some ⟨.inQuotedField, field ++ [d], row⟩ := by
    intro d field other
    simp [Parser.feed, other, Parser.add]
  have mark : ∀ (field : Field) (rest : List (Option Char)),
      records ⟨.inQuotedField, field, row⟩ (none :: rest) = records ⟨.inQuotedField, field, row⟩ rest := by
    intro field rest
    simp [records, Parser.feed]
  by_cases crlf : ∃ later, c = '\r' ∧ text = '\n' :: later
  · obtain ⟨later, rfl, rfl⟩ := crlf
    have newlineAlone : marked true ('\n' :: later) = some '\n' :: none :: marked false later := by
      rw [marked.eq_3 _ _ _ (by rintro _ ⟨⟩)]
      rfl
    rw [marked_crlf, newlineAlone, records_some (fed _ _ other)]
    rfl
  · have alone : ∀ later, c = '\r' → text = '\n' :: later → False := fun later first second => crlf ⟨later, first, second⟩
    rw [marked.eq_3 _ _ _ alone]
    split_ifs with ends
    · rw [records_some (fed _ _ other), mark, marked_pending nonempty]
      rfl
    · rw [records_some (fed _ _ other)]
      rfl

theorem records_doubled (field before : Field) (row : Row) (pending : Bool) :
    records ⟨.inQuotedField, before, row⟩ (marked pending (doubled field ++ '"' :: text)) =
      records ⟨.quoteInQuotedField, before ++ field, row⟩ (marked true text) := by
  induction field generalizing before pending with
  | nil =>
    rw [doubled, List.nil_append, marked_plain pending (by decide), records_some rfl]
    simp
  | cons c rest ih =>
    by_cases quote : c = '"'
    · subst quote
      rw [doubled, if_pos rfl, List.cons_append, List.cons_append, marked_plain pending (by decide),
        marked_plain true (by decide), records_some rfl, records_some rfl]
      refine (ih (before ++ ['"']) true).trans ?_
      simp
    · rw [doubled, if_neg quote, List.cons_append, records_quoted quote rfl (by simp) pending]
      refine (ih (before ++ [c]) true).trans ?_
      simp

theorem records_plain {field : Field} (plain : ∀ c ∈ field, special c = false) (before : Field) (row : Row) (pending : Bool)
    (nonempty : text ≠ []) :
    records ⟨.inField, before, row⟩ (marked pending (field ++ text)) =
      records ⟨.inField, before ++ field, row⟩ (marked true text) := by
  induction field generalizing before pending with
  | nil => rw [List.nil_append, List.append_nil, marked_pending nonempty]
  | cons c rest ih =>
    obtain ⟨here, later⟩ := List.forall_mem_cons.mp plain
    obtain ⟨comma, quote, cr, lf⟩ := special_eq_false.mp here
    have fed : Parser.feed ⟨.inField, before, row⟩ (some c) = some ⟨.inField, before ++ [c], row⟩ := by
      simp [Parser.feed, newline, comma, cr, lf, Parser.add]
    rw [List.cons_append, marked_plain pending ⟨cr, lf⟩, records_some fed]
    refine (ih later (before ++ [c]) true).trans ?_
    simp

/-- Behind a field: in it, behind its closing quote, or where none has begun. -/
def Behind (field : Field) (phase : Phase) : Prop :=
  phase = .inField ∨ phase = .quoteInQuotedField ∨ (phase = .startField ∧ field = [])

/-- From where a field begins, its text leads behind it. -/
theorem records_field (field : Field) (row : Row) (pending : Bool) (nonempty : text ≠ []) : ∃ phase, Behind field phase ∧
    records ⟨.startField, [], row⟩ (marked pending (fieldText field ++ text)) =
      records ⟨phase, field, row⟩ (marked true text) := by
  unfold fieldText
  split_ifs with some
  · refine ⟨.quoteInQuotedField, .inr (.inl rfl), ?_⟩
    rw [List.cons_append, List.append_assoc, List.singleton_append, marked_plain pending (by decide), records_some rfl]
    exact records_doubled field [] row true
  · have plain : ∀ c ∈ field, special c = false := by simpa using some
    cases field with
    | nil =>
      refine ⟨.startField, .inr (.inr ⟨rfl, rfl⟩), ?_⟩
      rw [List.nil_append, marked_pending nonempty]
    | cons c rest =>
      obtain ⟨here, later⟩ := List.forall_mem_cons.mp plain
      obtain ⟨comma, quote, cr, lf⟩ := special_eq_false.mp here
      have fed : Parser.feed ⟨.startField, [], row⟩ (Option.some c) = Option.some ⟨.inField, [c], row⟩ := by
        simp [Parser.feed, newline, comma, quote, cr, lf, Parser.add]
      refine ⟨.inField, .inl rfl, ?_⟩
      rw [List.cons_append, marked_plain pending ⟨cr, lf⟩, records_some fed]
      exact records_plain later [c] row true nonempty

theorem records_comma {field : Field} {phase : Phase} (behind : Behind field phase) (row : Row) (pending : Bool) :
    records ⟨phase, field, row⟩ (marked pending (',' :: text)) = records ⟨.startField, [], row ++ [field]⟩ (marked true text) := by
  rw [marked_plain pending (by decide)]
  rcases behind with rfl | rfl | ⟨rfl, rfl⟩ <;> exact records_some rfl

theorem records_crlf {field : Field} {phase : Phase} (behind : Behind field phase) (row : Row) (pending : Bool) :
    records ⟨phase, field, row⟩ (marked pending ('\r' :: '\n' :: text)) =
      (records start (marked false text)).map ((row ++ [field]) :: ·) := by
  rw [marked_crlf]
  rcases behind with rfl | rfl | ⟨rfl, rfl⟩ <;> rfl

theorem records_fields (fields : Row) (some : fields ≠ []) (row : Row) (pending : Bool) :
    records ⟨.startField, [], row⟩ (marked pending (fieldsText fields ++ '\r' :: '\n' :: text)) =
      (records start (marked false text)).map ((row ++ fields) :: ·) := by
  induction fields generalizing row pending with
  | nil => exact absurd rfl some
  | cons field rest ih =>
    cases rest with
    | nil =>
      obtain ⟨phase, behind, led⟩ := records_field field row pending (List.cons_ne_nil '\r' ('\n' :: text))
      rw [fieldsText, led, records_crlf behind]
    | cons other rest =>
      obtain ⟨phase, behind, led⟩ := records_field field row pending
        (List.cons_ne_nil ',' (fieldsText (other :: rest) ++ '\r' :: '\n' :: text))
      rw [fieldsText, List.append_assoc, List.cons_append, led, records_comma behind]
      refine (ih (by simp) (row ++ [field]) true).trans ?_
      simp

/-- A record begins as its first field does, unless its line is empty. -/
theorem records_start {c : Char} (plain : c ≠ '\r' ∧ c ≠ '\n') (pending : Bool) :
    records start (marked pending (c :: text)) = records ⟨.startField, [], []⟩ (marked pending (c :: text)) := by
  rw [marked_plain pending plain]
  have same : start.feed (some c) = Parser.feed ⟨.startField, [], []⟩ (some c) := by
    simp [Parser.feed, start, newline, plain, Parser.save, Parser.add]
  simp only [records, same]

/-- The text of a row begins with no end of a line. -/
theorem fieldsText_head {row : Row} (some : row ≠ []) (proper : row ≠ [[]]) :
    ∃ c rest, fieldsText row = c :: rest ∧ c ≠ '\r' ∧ c ≠ '\n' := by
  have head : ∀ field : Field, field ≠ [] → ∃ c rest, fieldText field = c :: rest ∧ c ≠ '\r' ∧ c ≠ '\n' := by
    intro field nonempty
    unfold fieldText
    split_ifs with quoted
    · exact ⟨_, _, rfl, by decide⟩
    · cases field with
      | nil => exact absurd rfl nonempty
      | cons c rest =>
        have plain : special c = false := by simp_all
        obtain ⟨-, -, cr, lf⟩ := special_eq_false.mp plain
        exact ⟨c, rest, rfl, cr, lf⟩
  cases row with
  | nil => exact absurd rfl some
  | cons field rest =>
    by_cases empty : field = []
    · subst empty
      cases rest with
      | nil => exact absurd rfl proper
      | cons other rest => exact ⟨',', _, rfl, by decide⟩
    · obtain ⟨c, later, text, plain⟩ := head field empty
      cases rest with
      | nil => exact ⟨c, later, text, plain⟩
      | cons other rest => exact ⟨c, later ++ ',' :: fieldsText (other :: rest), by rw [fieldsText, text]; rfl, plain⟩

theorem records_row {row : Row} (some : row ≠ []) (pending : Bool) :
    records start (marked pending (rowText row ++ text)) = (records start (marked false text)).map (row :: ·) := by
  unfold rowText
  split_ifs with single
  · subst single
    have quotes : ['"', '"'] ++ ['\r', '\n'] ++ text = '"' :: '"' :: '\r' :: '\n' :: text := rfl
    rw [quotes, marked_plain pending (by decide), marked_plain true (by decide), records_some rfl, records_some rfl]
    exact records_crlf (.inr (.inl rfl)) [] true
  · obtain ⟨c, rest, head, plain⟩ := fieldsText_head some single
    have begins : fieldsText row ++ ['\r', '\n'] ++ text = c :: (rest ++ '\r' :: '\n' :: text) := by
      rw [head, List.append_assoc]
      rfl
    have same : c :: (rest ++ '\r' :: '\n' :: text) = fieldsText row ++ '\r' :: '\n' :: text := by
      rw [head]
      rfl
    rw [begins, records_start plain pending, same]
    simpa using records_fields row some [] pending

/-- Rows with at least one field are read back as they were written. -/
theorem read_write {rows : List Row} (nonempty : ∀ row ∈ rows, row ≠ []) : read (write rows) = some rows := by
  unfold read write
  induction rows with
  | nil => rfl
  | cons row rest ih =>
    obtain ⟨here, later⟩ := List.forall_mem_cons.mp nonempty
    rw [List.flatMap_cons, records_row here false, ih later]
    rfl

end Onramp.Library.Csv
