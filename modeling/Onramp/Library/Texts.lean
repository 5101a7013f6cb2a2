import Mathlib.Data.List.TakeWhile
import Mathlib.Data.List.Basic

/-!
Readers of texts. A reader takes a value off the front of a text and gives what follows it. It
takes a printed text for its value when it does so before everything that may follow: this is
what composes, over digits, over quoted strings with escapes, and over sequences between commas.
-/
namespace Onramp.Library.Texts

abbrev Reader (α : Type) : Type := List Char → Option (α × List Char)

variable {α β : Type}

/-- Before what may follow, the reader takes the text for the value. -/
def Takes (read : Reader α) (follow : List Char → Prop) (text : List Char) (value : α) : Prop :=
  ∀ rest, follow rest → read (text ++ rest) = some (value, rest)

/-- Everything may follow. -/
def Anything : List Char → Prop := fun _ => True

theorem Takes.whole {read : Reader α} {follow : List Char → Prop} {text : List Char} {value : α}
    (takes : Takes read follow text value) (last : follow []) : read text = some (value, []) := by
  have read' := takes [] last
  rwa [List.append_nil] at read'

/-- No digit comes first. -/
def NoDigit (rest : List Char) : Prop := ∀ c ∈ rest.head?, c.isDigit = false

/-- The digits that come first, at least one. -/
def digits : Reader (List Char) := fun text =>
  let run := text.takeWhile Char.isDigit
  if run = [] then none else some (run, text.dropWhile Char.isDigit)

theorem takeWhile_run {run rest : List Char} (all : ∀ c ∈ run, c.isDigit = true) (ends : NoDigit rest) :
    (run ++ rest).takeWhile Char.isDigit = run ∧ (run ++ rest).dropWhile Char.isDigit = rest := by
  have stops : rest.takeWhile Char.isDigit = [] ∧ rest.dropWhile Char.isDigit = rest := by
    cases rest with
    | nil => exact ⟨rfl, rfl⟩
    | cons c later =>
      have other : ¬ c.isDigit = true := by simp [ends c rfl]
      exact ⟨List.takeWhile_cons_of_neg other, List.dropWhile_cons_of_neg other⟩
  rw [List.takeWhile_append_of_pos all, List.dropWhile_append_of_pos all, stops.1, stops.2, List.append_nil]
  exact ⟨rfl, rfl⟩

theorem digits_takes {run : List Char} (some : run ≠ []) (all : ∀ c ∈ run, c.isDigit = true) :
    Takes digits NoDigit run run := by
  intro rest ends
  obtain ⟨taken, left⟩ := takeWhile_run all ends
  simp [digits, taken, left, some]

theorem toDigits_isDigit (n : Nat) : ∀ c ∈ Nat.toDigits 10 n, c.isDigit = true := fun _ inside =>
  Nat.isDigit_of_mem_toDigits (by decide) (by decide) inside

theorem digits_toDigits (n : Nat) : Takes digits NoDigit (Nat.toDigits 10 n) (Nat.toDigits 10 n) :=
  digits_takes Nat.toDigits_ne_nil (toDigits_isDigit n)

/-- Zeros in front change nothing. -/
theorem ofDigitChars_padded (zeros n : Nat) :
    Nat.ofDigitChars 10 (List.replicate zeros '0' ++ Nat.toDigits 10 n) 0 = n := by
  rw [Nat.ofDigitChars_append, Nat.ofDigitChars_replicate_zero, Nat.mul_zero, Nat.ofDigitChars_ten_toDigits]

/-- A number other than zero starts with another digit than zero. -/
theorem toDigits_head {n : Nat} (positive : 0 < n) : ∀ c ∈ (Nat.toDigits 10 n).head?, c ≠ '0' := by
  induction n using Nat.strongRecOn with
  | ind n ih =>
    rw [Nat.toDigits_eq_if (by decide)]
    split
    · next small =>
      have digit : ∀ d : Nat, d < 10 → 0 < d → d.digitChar ≠ '0' := by decide
      simpa using digit n small positive
    · next large =>
      have shorter := ih (n / 10) (by omega) (by omega)
      intro c first
      refine shorter c ?_
      rwa [List.head?_append_of_ne_nil _ Nat.toDigits_ne_nil] at first

/-- The value of a hexadecimal digit. -/
def hexValue (c : Char) : Option Nat :=
  if '0' ≤ c ∧ c ≤ '9' then some (c.toNat - 48)
  else if 'a' ≤ c ∧ c ≤ 'f' then some (c.toNat - 87)
  else if 'A' ≤ c ∧ c ≤ 'F' then some (c.toNat - 55)
  else none

/-- Four hexadecimal digits. -/
def hex4 : Reader Nat
  | a :: b :: c :: d :: rest =>
    match hexValue a, hexValue b, hexValue c, hexValue d with
    | some a, some b, some c, some d => some (((a * 16 + b) * 16 + c) * 16 + d, rest)
    | _, _, _, _ => none
  | _ => none

/-- The second half of a pair of surrogates, with its escape. -/
def lowSurrogate : Reader Nat
  | '\\' :: 'u' :: rest => (hex4 rest).bind fun low =>
    if 0xdc00 ≤ low.1 ∧ low.1 ≤ 0xdfff then some low else none
  | _ => none

/-- What follows a backslash. A surrogate is read with its other half only. -/
def escaped : Reader Char
  | '"' :: rest => some ('"', rest)
  | '\\' :: rest => some ('\\', rest)
  | '/' :: rest => some ('/', rest)
  | 'b' :: rest => some ('\x08', rest)
  | 'f' :: rest => some ('\x0c', rest)
  | 'n' :: rest => some ('\n', rest)
  | 'r' :: rest => some ('\r', rest)
  | 't' :: rest => some ('\t', rest)
  | 'u' :: rest => (hex4 rest).bind fun high =>
    if 0xd800 ≤ high.1 ∧ high.1 ≤ 0xdbff then
      (lowSurrogate high.2).map fun low =>
        (Char.ofNat (0x10000 + ((high.1 - 0xd800) * 0x400 + (low.1 - 0xdc00))), low.2)
    else if 0xdc00 ≤ high.1 ∧ high.1 ≤ 0xdfff then none
    else some (Char.ofNat high.1, high.2)
  | _ => none

/-- The characters up to the closing quote, among this many at most. A control character has to be
    escaped. -/
def quotedBody : Nat → Reader (List Char)
  | 0, _ => none
  | _ + 1, [] => none
  | n + 1, c :: rest =>
    if c = '"' then some ([], rest)
    else if c = '\\' then (escaped rest).bind fun next => (quotedBody n next.2).map fun body => (next.1 :: body.1, body.2)
    else if c.toNat < 0x20 then none
    else (quotedBody n rest).map fun body => (c :: body.1, body.2)

/-- The hexadecimal digit, in lower case. -/
def hexDigit (n : Nat) : Char := if n < 10 then Char.ofNat (48 + n) else Char.ofNat (87 + n)

/-- A character in quotes. -/
def escape (c : Char) : List Char :=
  if c = '"' then ['\\', '"']
  else if c = '\\' then ['\\', '\\']
  else if c = '\n' then ['\\', 'n']
  else if c = '\r' then ['\\', 'r']
  else if c = '\t' then ['\\', 't']
  else if c = '\x0c' then ['\\', 'f']
  else if c = '\x08' then ['\\', 'b']
  else if c.toNat < 0x20 then ['\\', 'u', '0', '0', hexDigit (c.toNat / 16), hexDigit (c.toNat % 16)]
  else [c]

def quoted (body : List Char) : List Char := '"' :: body.flatMap escape ++ ['"']

theorem hexValue_hexDigit : ∀ n, n < 16 → hexValue (hexDigit n) = some n := by decide

/-- An escape is shorter than any text that it starts. -/
theorem escape_length (c : Char) : 1 ≤ (escape c).length := by
  unfold escape
  split_ifs <;> simp

/-- A control character is read from its escape. -/
theorem escaped_control {c : Char} (control : c.toNat < 0x20) (rest : List Char) :
    escaped ('u' :: '0' :: '0' :: hexDigit (c.toNat / 16) :: hexDigit (c.toNat % 16) :: rest) = some (c, rest) := by
  have zero : hexValue '0' = some 0 := by decide
  have high := hexValue_hexDigit (c.toNat / 16) (by omega)
  have low := hexValue_hexDigit (c.toNat % 16) (by omega)
  have code : c.toNat / 16 * 16 + c.toNat % 16 = c.toNat := by omega
  have small : ¬ (0xd800 ≤ c.toNat ∧ c.toNat ≤ 0xdbff) := by omega
  have small' : ¬ (0xdc00 ≤ c.toNat ∧ c.toNat ≤ 0xdfff) := by omega
  simp [escaped, hex4, zero, high, low, code, small, small', Char.ofNat_toNat]

/-- One character: its escape is taken for it. -/
theorem quotedBody_escape (c : Char) (n : Nat) (rest : List Char) :
    quotedBody (n + 1) (escape c ++ rest) = (quotedBody n rest).map fun body => (c :: body.1, body.2) := by
  unfold escape
  split_ifs with quote slash newline carriage tab feed backspace control
  · subst quote
    simp [quotedBody, escaped]
  · subst slash
    simp [quotedBody, escaped]
  · subst newline
    simp [quotedBody, escaped]
  · subst carriage
    simp [quotedBody, escaped]
  · subst tab
    simp [quotedBody, escaped]
  · subst feed
    simp [quotedBody, escaped]
  · subst backspace
    simp [quotedBody, escaped]
  · have read := escaped_control control rest
    simp only [List.cons_append, List.nil_append, quotedBody, read]
    simp
  · simp [quotedBody, quote, slash, control]

theorem quotedBody_takes (body : List Char) {n : Nat} (room : (body.flatMap escape).length < n) :
    Takes (quotedBody n) Anything (body.flatMap escape ++ ['"']) body := by
  intro rest _
  induction body generalizing n with
  | nil =>
    obtain ⟨m, rfl⟩ := Nat.exists_eq_add_of_lt room
    simp [quotedBody]
  | cons c later ih =>
    have one := escape_length c
    rw [List.flatMap_cons, List.length_append] at room
    obtain ⟨m, rfl⟩ : ∃ m, n = m + 1 := ⟨n - 1, by omega⟩
    have shorter := @ih m (by omega)
    rw [List.flatMap_cons, List.append_assoc, List.append_assoc, quotedBody_escape, ← List.append_assoc, shorter]
    rfl

/-- The white space between tokens. -/
def isBlank (c : Char) : Bool := c = ' ' || c = '\t' || c = '\n' || c = '\r'

def skip (text : List Char) : List Char := text.dropWhile isBlank

/-- The text starts with something else than white space. -/
def Solid (text : List Char) : Prop := ∃ c later, text = c :: later ∧ isBlank c = false

theorem skip_solid {text : List Char} (solid : Solid text) (rest : List Char) : skip (text ++ rest) = text ++ rest := by
  obtain ⟨c, later, rfl, other⟩ := solid
  exact List.dropWhile_cons_of_neg (by simp [other])

theorem skip_solid' {text : List Char} (solid : Solid text) : skip text = text := by
  have skipped := skip_solid solid []
  rwa [List.append_nil] at skipped

/-- Items between commas up to the closing character, at least one and this many at most. -/
def sequence (item : Reader α) (close : Char) : Nat → Reader (List α)
  | 0, _ => none
  | n + 1, text => (item text).bind fun first =>
    match skip first.2 with
    | [] => none
    | c :: rest =>
      if c = close then some ([first.1], rest)
      else if c = ',' then (sequence item close n (skip rest)).map fun others => (first.1 :: others.1, others.2)
      else none

/-- The items of a sequence, or nothing at all before the closing character. -/
def sequenceOrNone (item : Reader α) (close : Char) (n : Nat) : Reader (List α) := fun text =>
  match skip text with
  | [] => none
  | c :: rest => if c = close then some ([], rest) else sequence item close n (c :: rest)

/-- The texts with a comma and a space between them. -/
def joined : List (List Char) → List Char
  | [] => []
  | [text] => text
  | text :: next :: rest => text ++ ',' :: ' ' :: joined (next :: rest)

theorem joined_solid {texts : List (List Char)} (some : texts ≠ []) (solid : ∀ text ∈ texts, Solid text) :
    Solid (joined texts) := by
  cases texts with
  | nil => exact absurd rfl some
  | cons text rest =>
    obtain ⟨c, later, rfl, other⟩ := solid text List.mem_cons_self
    cases rest with
    | nil => exact ⟨c, later, rfl, other⟩
    | cons next rest => exact ⟨c, later ++ ',' :: ' ' :: joined (next :: rest), rfl, other⟩

/-- The sequence is as long as its texts are many, and as each of them is. -/
theorem joined_room {texts : List (List Char)} (solid : ∀ text ∈ texts, Solid text) :
    texts.length ≤ (joined texts).length ∧ ∀ text ∈ texts, text.length ≤ (joined texts).length := by
  induction texts with
  | nil => simp
  | cons text rest ih =>
    obtain ⟨solidHere, solidLater⟩ := List.forall_mem_cons.mp solid
    obtain ⟨many, each⟩ := ih solidLater
    have one : 1 ≤ text.length := by
      obtain ⟨c, later, rfl, -⟩ := solidHere
      simp
    cases rest with
    | nil => simp [joined, one]
    | cons next rest =>
      have longer : (joined (text :: next :: rest)).length = text.length + (joined (next :: rest)).length + 2 := by
        simp only [joined, List.length_append, List.length_cons]
        omega
      rw [longer]
      refine ⟨by simp only [List.length_cons] at many ⊢; omega, List.forall_mem_cons.mpr ⟨by omega, fun text inside => ?_⟩⟩
      have shorter := each text inside
      omega

variable {item : Reader α} {follow : List Char → Prop} {close : Char}

/-- A comma or the closing character may follow an item. -/
structure Closes (follow : List Char → Prop) (close : Char) : Prop where
  comma : ∀ rest, follow (',' :: rest)
  closing : ∀ rest, follow (close :: rest)
  other : close ≠ ','
  solid : isBlank close = false

theorem sequence_takes (closes : Closes follow close) {texts : List (List Char)} {values : List α} {n : Nat}
    (some : texts ≠ []) (room : texts.length ≤ n) (solid : ∀ text ∈ texts, Solid text)
    (takes : List.Forall₂ (Takes item follow) texts values) :
    Takes (sequence item close n) Anything (joined texts ++ [close]) values := by
  intro rest _
  induction takes generalizing n with
  | nil => exact absurd rfl some
  | @cons text value texts values here later ih =>
    obtain ⟨m, rfl⟩ : ∃ m, n = m + 1 := ⟨n - 1, by simp only [List.length_cons] at room; omega⟩
    cases later with
    | nil =>
      have first := here (close :: rest) (closes.closing rest)
      have stops : skip (close :: rest) = close :: rest := skip_solid' ⟨close, rest, rfl, closes.solid⟩
      rw [joined, List.append_assoc, List.singleton_append, sequence, first]
      simp [stops]
    | @cons next value' texts values there later =>
      obtain ⟨solidHere, solidLater⟩ := List.forall_mem_cons.mp solid
      have first := here (',' :: ' ' :: (joined (next :: texts) ++ [close] ++ rest)) (closes.comma _)
      have others := @ih m (by simp) (by simp only [List.length_cons] at room ⊢; omega) solidLater
      have stops : ∀ text, skip (',' :: text) = ',' :: text := fun text => skip_solid' ⟨',', text, rfl, by decide⟩
      have solidOthers : Solid (joined (next :: texts)) := joined_solid (by simp) solidLater
      have skipped : skip (' ' :: (joined (next :: texts) ++ [close] ++ rest)) = joined (next :: texts) ++ [close] ++ rest := by
        rw [List.append_assoc]
        exact (List.dropWhile_cons_of_pos (by decide)).trans (skip_solid solidOthers _)
      have text' : joined (text :: next :: texts) ++ [close] ++ rest =
          text ++ ',' :: ' ' :: (joined (next :: texts) ++ [close] ++ rest) := by simp [joined]
      rw [text', sequence, first]
      simp only [Option.bind_some, stops, skipped, others]
      simp [closes.other.symm]

theorem sequenceOrNone_takes (closes : Closes follow close) {texts : List (List Char)} {values : List α} {n : Nat}
    (room : texts.length ≤ n) (solid : ∀ text ∈ texts, Solid text) (apart : ∀ text ∈ texts, text.head? ≠ some close)
    (takes : List.Forall₂ (Takes item follow) texts values) :
    Takes (sequenceOrNone item close n) Anything (joined texts ++ [close]) values := by
  intro rest anything
  cases texts with
  | nil =>
    cases takes
    have stops : skip (close :: rest) = close :: rest := skip_solid' ⟨close, rest, rfl, closes.solid⟩
    simp [sequenceOrNone, joined, stops]
  | cons text texts =>
    obtain ⟨c, later, front, other⟩ : Solid (joined (text :: texts)) := joined_solid (by simp) solid
    have first : c ≠ close := by
      rintro rfl
      obtain ⟨d, inner, rfl, -⟩ := solid text List.mem_cons_self
      refine apart _ List.mem_cons_self ?_
      cases texts <;> cases front <;> rfl
    have taken := sequence_takes closes (by simp) room solid takes rest anything
    rw [front] at taken ⊢
    have stops : skip (c :: later ++ [close] ++ rest) = c :: (later ++ [close] ++ rest) :=
      skip_solid' ⟨c, later ++ [close] ++ rest, rfl, other⟩
    simp only [sequenceOrNone, stops, if_neg first]
    exact taken

end Onramp.Library.Texts
