import Onramp.Library.Texts
import Onramp.Values

/-!
The text of a JSON value, as `json.dumps(value, ensure_ascii=False)` writes it and as `json.loads`
reads it, and the order of the members that `sort_keys=True` puts them in.
-/
namespace Onramp.JsonText
open Onramp.Values
open Onramp.Library.Keyed (keys find find_map find_of_mem find_perm upsertAll upsertAll_distinct)
open Onramp.Library.Texts

/-- The text of a float with this `repr`. -/
def floatText (shown : String) : List Char :=
  if shown = "nan" then "NaN".toList
  else if shown = "inf" then "Infinity".toList
  else if shown = "-inf" then "-Infinity".toList
  else shown.toList

mutual
/-- `json.dumps(value, ensure_ascii=False)`. -/
def dumps : Json → List Char
  | .null => "null".toList
  | .bool b => (if b then "true" else "false").toList
  | .int n => (Int.repr n).toList
  | .float shown => floatText shown
  | .str s => quoted s.toList
  | .arr items => '[' :: joined (dumpsItems items) ++ [']']
  | .obj members => '\x7b' :: joined (dumpsMembers members) ++ ['\x7d']

def dumpsItems : List Json → List (List Char)
  | [] => []
  | item :: rest => dumps item :: dumpsItems rest

def dumpsMembers : List (String × Json) → List (List Char)
  | [] => []
  | (name, value) :: rest => (quoted name.toList ++ ':' :: ' ' :: dumps value) :: dumpsMembers rest
end

/-- The digits in front of a fraction: no zero in front of others. -/
def wholePart : Reader (List Char)
  | '0' :: rest => some (['0'], rest)
  | text => digits text

def fractionPart : List Char → List Char × List Char
  | '.' :: rest =>
    match digits rest with
    | some (run, rest') => ('.' :: run, rest')
    | none => ([], '.' :: rest)
  | text => ([], text)

def exponentPart : List Char → List Char × List Char
  | e :: rest =>
    if e = 'e' ∨ e = 'E' then
      let sign := rest.take 1 |>.filter (fun c => c = '+' ∨ c = '-')
      match digits (rest.drop sign.length) with
      | some (run, rest') => (e :: sign ++ run, rest')
      | none => ([], e :: rest)
    else ([], e :: rest)
  | [] => ([], [])

/-- A number: an integer, or a float, of which the reader takes the `repr`. -/
def number (floatRepr : String → String) : Reader Json := fun text =>
  let sign := text.take 1 |>.filter (fun c => c = '-')
  (wholePart (text.drop sign.length)).bind fun whole =>
    let fraction := fractionPart whole.2
    let exponent := exponentPart fraction.2
    if fraction.1 = [] ∧ exponent.1 = [] then
      let magnitude := Int.ofNat (Nat.ofDigitChars 10 whole.1 0)
      some (.int (if sign = [] then magnitude else -magnitude), exponent.2)
    else some (.float (floatRepr (String.ofList (sign ++ whole.1 ++ fraction.1 ++ exponent.1))), exponent.2)

/-- The words that stand for a value. -/
def words : List (List Char × Json) :=
  [("null".toList, .null), ("true".toList, .bool true), ("false".toList, .bool false), ("NaN".toList, .float "nan"),
    ("Infinity".toList, .float "inf"), ("-Infinity".toList, .float "-inf")]

def word : Reader Json := fun text =>
  (words.find? (fun entry => entry.1.isPrefixOf text)).map fun entry => (entry.2, text.drop entry.1.length)

/-- A name in quotes, a colon, and what is read behind it. -/
def member (read : Reader Json) : Reader (String × Json)
  | '"' :: rest => (quotedBody (rest.length + 1) rest).bind fun name =>
    match skip name.2 with
    | ':' :: rest => (read (skip rest)).map fun value => ((String.ofList name.1, value.1), value.2)
    | _ => none
  | _ => none

/-- A value, whose nesting and whose sequences are within the bound. Of equal names in an object
    the last one counts. -/
def value (floatRepr : String → String) : Nat → Reader Json
  | 0, _ => none
  | _ + 1, [] => none
  | n + 1, c :: rest =>
    if c = '"' then (quotedBody (rest.length + 1) rest).map fun body => (.str (String.ofList body.1), body.2)
    else if c = '[' then (sequenceOrNone (value floatRepr n) ']' n rest).map fun items => (.arr items.1, items.2)
    else if c = '\x7b' then
      (sequenceOrNone (member (value floatRepr n)) '\x7d' n rest).map fun members =>
        (.obj (upsertAll members.1 []), members.2)
    else (word (c :: rest)).or (number floatRepr (c :: rest))

/-- `json.loads(text)`, nothing when it raises. -/
def loads (floatRepr : String → String) (text : List Char) : Option Json :=
  (value floatRepr (text.length + 1) (skip text)).bind fun read => if skip read.2 = [] then some read.1 else none

mutual
/-- The value has no floats, and its objects have distinct names. -/
def Plain : Json → Prop
  | .float _ => False
  | .arr items => PlainItems items
  | .obj members => (keys members).Nodup ∧ PlainMembers members
  | _ => True

def PlainItems : List Json → Prop
  | [] => True
  | item :: rest => Plain item ∧ PlainItems rest

def PlainMembers : List (String × Json) → Prop
  | [] => True
  | (_, value) :: rest => Plain value ∧ PlainMembers rest
end

/-- What follows does not continue a number. -/
def Ends (rest : List Char) : Prop := NoDigit rest ∧ ∀ c ∈ rest.head?, c ≠ '.' ∧ c ≠ 'e' ∧ c ≠ 'E'

theorem ends_of_head {c : Char} (other : c.isDigit = false ∧ c ≠ '.' ∧ c ≠ 'e' ∧ c ≠ 'E') (rest : List Char) :
    Ends (c :: rest) := by
  constructor
  · rintro _ ⟨⟩
    exact other.1
  · rintro _ ⟨⟩
    exact other.2

theorem ends_nil : Ends [] := ⟨by rintro _ ⟨⟩, by rintro _ ⟨⟩⟩

theorem closes_bracket : Closes Ends ']' :=
  ⟨ends_of_head (by decide), ends_of_head (by decide), by decide, by decide⟩

theorem closes_brace : Closes Ends '\x7d' :=
  ⟨ends_of_head (by decide), ends_of_head (by decide), by decide, by decide⟩

theorem no_fraction {rest : List Char} (ends : Ends rest) : fractionPart rest = ([], rest) ∧ exponentPart rest = ([], rest) := by
  cases rest with
  | nil => exact ⟨rfl, rfl⟩
  | cons c rest =>
    obtain ⟨dot, lower, upper⟩ := ends.2 c rfl
    refine ⟨?_, by simp [exponentPart, lower, upper]⟩
    unfold fractionPart
    split
    · next same =>
      cases same
      exact absurd rfl dot
    · rfl

theorem wholePart_toDigits (n : Nat) : Takes wholePart NoDigit (Nat.toDigits 10 n) (Nat.toDigits 10 n) := by
  intro rest ends
  by_cases zero : n = 0
  · subst zero
    rfl
  · have taken := digits_toDigits n rest ends
    have first := toDigits_head (Nat.pos_of_ne_zero zero)
    unfold wholePart
    split
    · next rest' same =>
      cases listed : Nat.toDigits 10 n with
      | nil => exact absurd listed Nat.toDigits_ne_nil
      | cons c later =>
        rw [listed] at same first
        cases same
        exact absurd rfl (first '0' rfl)
    · exact taken

/-- What an integer starts with. -/
theorem repr_head (n : Int) : ∃ c later, (Int.repr n).toList = c :: later ∧
    (c.isDigit = true ∨ (c = '-' ∧ ∃ d rest, later = d :: rest ∧ d.isDigit = true)) := by
  have natural : ∀ m : Nat, ∃ c later, (Nat.repr m).toList = c :: later ∧ c.isDigit = true := by
    intro m
    cases listed : Nat.toDigits 10 m with
    | nil => exact absurd listed Nat.toDigits_ne_nil
    | cons c later => exact ⟨c, later, by rw [Nat.toList_repr, listed], toDigits_isDigit m c (by simp [listed])⟩
  cases n with
  | ofNat m =>
    obtain ⟨c, later, shown, digit⟩ := natural m
    exact ⟨c, later, shown, .inl digit⟩
  | negSucc m =>
    obtain ⟨c, later, shown, digit⟩ := natural (m + 1)
    refine ⟨'-', c :: later, ?_, .inr ⟨rfl, c, later, rfl, digit⟩⟩
    rw [← shown]
    exact String.toList_append

theorem number_takes (floatRepr : String → String) (n : Int) :
    Takes (number floatRepr) Ends (Int.repr n).toList (.int n) := by
  intro rest ends
  obtain ⟨noFraction, noExponent⟩ := no_fraction ends
  cases n with
  | ofNat m =>
    have whole := wholePart_toDigits m rest ends.1
    have shown : (Int.repr (Int.ofNat m)).toList = Nat.toDigits 10 m := Nat.toList_repr
    have unsigned : ((Nat.toDigits 10 m ++ rest).take 1).filter (fun c => decide (c = '-')) = [] := by
      cases listed : Nat.toDigits 10 m with
      | nil => exact absurd listed Nat.toDigits_ne_nil
      | cons c later =>
        have digit := toDigits_isDigit m c (by simp [listed])
        have other : c ≠ '-' := by
          rintro rfl
          cases digit
        simp [other]
    rw [shown, number]
    simp only [unsigned, List.length_nil, List.drop_zero, whole, Option.bind_some, noFraction, noExponent, and_self,
      if_true, Nat.ofDigitChars_ten_toDigits]
  | negSucc m =>
    have whole := wholePart_toDigits (m + 1) rest ends.1
    have shown : (Int.repr (Int.negSucc m)).toList = '-' :: Nat.toDigits 10 (m + 1) := by
      rw [← Nat.toList_repr]
      exact String.toList_append
    rw [shown, number]
    simp [whole, noFraction, noExponent, Nat.ofDigitChars_ten_toDigits]
    omega

theorem word_none {text : List Char} (other : ∀ entry ∈ words, entry.1.isPrefixOf text = false) : word text = none := by
  have nothing : words.find? (fun entry => entry.1.isPrefixOf text) = none := by
    refine List.find?_eq_none.mpr ?_
    intro entry inside
    simp [other entry inside]
  rw [word, nothing]
  rfl

theorem word_digit {c : Char} (digit : c.isDigit = true) (rest : List Char) : word (c :: rest) = none := by
  have apart : ∀ d : Char, d.isDigit = false → d ≠ c := by
    rintro d other rfl
    rw [digit] at other
    cases other
  refine word_none ?_
  simp [words, List.isPrefixOf, apart 'n' (by decide), apart 't' (by decide), apart 'f' (by decide), apart 'N' (by decide),
    apart 'I' (by decide), apart '-' (by decide)]

theorem word_minus {d : Char} (digit : d.isDigit = true) (rest : List Char) : word ('-' :: d :: rest) = none := by
  have apart : 'I' ≠ d := by
    rintro rfl
    cases digit
  refine word_none ?_
  simp [words, List.isPrefixOf, apart]

theorem value_int (floatRepr : String → String) (n : Int) (depth : Nat) :
    Takes (value floatRepr (depth + 1)) Ends (Int.repr n).toList (.int n) := by
  intro rest ends
  have read := number_takes floatRepr n rest ends
  obtain ⟨c, later, shown, head⟩ := repr_head n
  rw [shown] at read ⊢
  have apart : ∀ d : Char, d.isDigit = false → d ≠ '-' → c ≠ d := by
    rintro d other minus rfl
    rcases head with digit | ⟨same, -⟩
    · rw [digit] at other
      cases other
    · exact minus same
  have none : word (c :: (later ++ rest)) = none := by
    rcases head with digit | ⟨rfl, d, later', rfl, digit⟩
    · exact word_digit digit _
    · exact word_minus digit _
  rw [List.cons_append] at read ⊢
  simp only [value, if_neg (apart '"' (by decide) (by decide)), if_neg (apart '[' (by decide) (by decide)),
    if_neg (apart '\x7b' (by decide) (by decide)), none, Option.none_or, read]

theorem quoted_solid (body rest : List Char) : Solid (quoted body ++ rest) :=
  ⟨'"', body.flatMap escape ++ ['"'] ++ rest, rfl, by decide⟩

theorem quotedBody_whole (body rest : List Char) :
    quotedBody ((body.flatMap escape ++ ['"'] ++ rest).length + 1) (body.flatMap escape ++ ['"'] ++ rest) = some (body, rest) :=
  quotedBody_takes body (by simp only [List.length_append]; omega) rest trivial

theorem member_takes {read : Reader Json} {name : String} {text : List Char} {inner : Json} (solid : Solid text)
    (takes : Takes read Ends text inner) :
    Takes (member read) Ends (quoted name.toList ++ ':' :: ' ' :: text) (name, inner) := by
  intro rest ends
  have front : quoted name.toList ++ ':' :: ' ' :: text ++ rest =
      '"' :: (name.toList.flatMap escape ++ ['"'] ++ (':' :: ' ' :: (text ++ rest))) := by simp [quoted]
  have colon : skip (':' :: ' ' :: (text ++ rest)) = ':' :: ' ' :: (text ++ rest) := skip_solid' ⟨':', _, rfl, by decide⟩
  have space : skip (' ' :: (text ++ rest)) = text ++ rest :=
    (List.dropWhile_cons_of_pos (by decide)).trans (skip_solid solid rest)
  rw [front]
  simp only [member, quotedBody_whole, Option.bind_some, colon, space, takes rest ends, Option.map_some, String.ofList_toList]

/-- The text of a value starts with none of the characters that end a sequence. -/
theorem dumps_head {v : Json} (plain : Plain v) :
    Solid (dumps v) ∧ (dumps v).head? ≠ some ']' ∧ (dumps v).head? ≠ some '\x7d' := by
  cases v with
  | int n =>
    obtain ⟨c, later, shown, head⟩ := repr_head n
    have other : isBlank c = false ∧ c ≠ ']' ∧ c ≠ '\x7d' := by
      rcases head with digit | ⟨rfl, -⟩
      · refine ⟨?_, ?_, ?_⟩
        · simp only [Char.isDigit, Bool.and_eq_true, decide_eq_true_eq] at digit
          simp only [isBlank, Bool.or_eq_false_iff, decide_eq_false_iff_not]
          refine ⟨⟨⟨?_, ?_⟩, ?_⟩, ?_⟩ <;> rintro rfl <;> revert digit <;> decide
        · rintro rfl
          cases digit
        · rintro rfl
          cases digit
      · decide
    simp only [dumps, shown]
    exact ⟨⟨c, later, rfl, other.1⟩, by simpa using other.2.1, by simpa using other.2.2⟩
  | float shown => exact plain.elim
  | null => exact ⟨⟨'n', _, rfl, by decide⟩, by decide, by decide⟩
  | bool b => cases b <;> exact ⟨⟨_, _, rfl, by decide⟩, by decide, by decide⟩
  | str s => exact ⟨⟨'"', _, rfl, by decide⟩, by simp [dumps, quoted], by simp [dumps, quoted]⟩
  | arr items => exact ⟨⟨'[', _, rfl, by decide⟩, by simp [dumps], by simp [dumps]⟩
  | obj members => exact ⟨⟨'\x7b', _, rfl, by decide⟩, by simp [dumps], by simp [dumps]⟩

theorem items_head : ∀ (items : List Json), PlainItems items →
    ∀ text ∈ dumpsItems items, Solid text ∧ text.head? ≠ some ']'
  | [], _ => by simp [dumpsItems]
  | item :: rest, plain => by
    refine List.forall_mem_cons.mpr ⟨?_, items_head rest plain.2⟩
    exact ⟨(dumps_head plain.1).1, (dumps_head plain.1).2.1⟩

theorem members_head : ∀ (members : List (String × Json)),
    ∀ text ∈ dumpsMembers members, Solid text ∧ text.head? ≠ some '\x7d'
  | [] => by simp [dumpsMembers]
  | (name, inner) :: rest =>
    List.forall_mem_cons.mpr ⟨⟨quoted_solid _ _, by simp [quoted]⟩, members_head rest⟩

variable (floatRepr : String → String)

mutual
/-- On a value: its text is taken for it. -/
theorem value_takes : ∀ (v : Json) (depth : Nat), Plain v → (dumps v).length ≤ depth →
    Takes (value floatRepr depth) Ends (dumps v) v
  | v, 0, plain, fits => by
    obtain ⟨c, later, shown, -⟩ := (dumps_head plain).1
    simp [shown] at fits
  | .null, depth + 1, _, _ => fun rest _ => by simp [dumps, value, word, words]
  | .bool true, depth + 1, _, _ => fun rest _ => by simp [dumps, value, word, words]
  | .bool false, depth + 1, _, _ => fun rest _ => by simp [dumps, value, word, words]
  | .int n, depth + 1, _, _ => value_int floatRepr n depth
  | .float _, _, plain, _ => plain.elim
  | .str s, depth + 1, _, _ => fun rest _ => by
    have read := quotedBody_whole s.toList rest
    simp only [dumps, quoted, List.cons_append, value, if_true, read, Option.map_some, String.ofList_toList]
  | .arr items, depth + 1, plain, fits => fun rest _ => by
    have solid : ∀ text ∈ dumpsItems items, Solid text ∧ text.head? ≠ some ']' := items_head items plain
    have room : (joined (dumpsItems items)).length ≤ depth := by
      simp only [dumps, List.length_append, List.length_cons] at fits
      omega
    have within := joined_room fun text inside => (solid text inside).1
    have read := sequenceOrNone_takes closes_bracket (within.1.trans room) (fun text inside => (solid text inside).1)
      (fun text inside => (solid text inside).2) (items_take items depth plain fun text inside => (within.2 text inside).trans room) rest trivial
    simp [dumps, value, List.append_assoc] at read ⊢
    simp [read]
  | .obj members, depth + 1, plain, fits => fun rest _ => by
    have solid : ∀ text ∈ dumpsMembers members, Solid text ∧ text.head? ≠ some '\x7d' := members_head members
    have room : (joined (dumpsMembers members)).length ≤ depth := by
      simp only [dumps, List.length_append, List.length_cons] at fits
      omega
    have within := joined_room fun text inside => (solid text inside).1
    have read := sequenceOrNone_takes closes_brace (within.1.trans room) (fun text inside => (solid text inside).1)
      (fun text inside => (solid text inside).2) (members_take members depth plain.2 fun text inside => (within.2 text inside).trans room) rest trivial
    have distinct : upsertAll members [] = members := upsertAll_distinct plain.1
    simp [dumps, value, List.append_assoc] at read ⊢
    simp [read, distinct]

theorem items_take : ∀ (items : List Json) (depth : Nat), PlainItems items →
    (∀ text ∈ dumpsItems items, text.length ≤ depth) →
      List.Forall₂ (Takes (value floatRepr depth) Ends) (dumpsItems items) items
  | [], _, _, _ => .nil
  | item :: rest, depth, plain, fits =>
    .cons (value_takes item depth plain.1 (fits _ List.mem_cons_self))
      (items_take rest depth plain.2 fun text inside => fits text (List.mem_cons_of_mem _ inside))

theorem members_take : ∀ (members : List (String × Json)) (depth : Nat), PlainMembers members →
    (∀ text ∈ dumpsMembers members, text.length ≤ depth) →
      List.Forall₂ (Takes (member (value floatRepr depth)) Ends) (dumpsMembers members) members
  | [], _, _, _ => .nil
  | (name, inner) :: rest, depth, plain, fits => by
    refine .cons (member_takes (dumps_head plain.1).1 (value_takes inner depth plain.1 ?_))
      (members_take rest depth plain.2 fun text inside => fits text (List.mem_cons_of_mem _ inside))
    have room := fits _ List.mem_cons_self
    simp only [List.length_append, List.length_cons] at room
    omega
end

/-- `json.loads` gives back what `json.dumps` wrote. -/
theorem loads_dumps {v : Json} (plain : Plain v) : loads floatRepr (dumps v) = some v := by
  have solid := (dumps_head plain).1
  have read := (value_takes floatRepr v ((dumps v).length + 1) plain (by omega)).whole ends_nil
  rw [loads, skip_solid' solid, read]
  rfl

/-! ### The order of the members -/

mutual
/-- The value with the members of its objects, whose names are distinct, in this order. -/
def arrange (before : String → String → Bool) : Json → Json
  | .arr items => .arr (arrangeItems before items)
  | .obj members => .obj ((arrangeMembers before members).insertionSort fun a b => before a.1 b.1)
  | v => v

def arrangeItems (before : String → String → Bool) : List Json → List Json
  | [] => []
  | item :: rest => arrange before item :: arrangeItems before rest

def arrangeMembers (before : String → String → Bool) : List (String × Json) → List (String × Json)
  | [] => []
  | (name, v) :: rest => (name, arrange before v) :: arrangeMembers before rest
end

/-- What `sort_keys=True` writes. -/
def sortKeys : Json → Json := arrange fun a b => a ≤ b

/-- What a JSONB column makes of a value: shorter names come first. -/
def jsonb : Json → Json :=
  arrange fun a b => a.utf8ByteSize < b.utf8ByteSize || (a.utf8ByteSize == b.utf8ByteSize && a ≤ b)

/-- The function keeps a value but for the order of the members of its objects. -/
structure Reorders (f : Json → Json) : Prop where
  null : f .null = .null
  bool : ∀ b, f (.bool b) = .bool b
  int : ∀ n, f (.int n) = .int n
  str : ∀ s, f (.str s) = .str s
  arr : ∀ items, f (.arr items) = .arr (items.map f)
  obj : ∀ members, (keys members).Nodup →
    ∃ members', f (.obj members) = .obj members' ∧ members'.Perm (members.map fun entry => (entry.1, f entry.2))

theorem keys_map (f : Json → Json) (members : List (String × Json)) :
    keys (members.map fun entry => (entry.1, f entry.2)) = keys members := by
  simp [keys, Function.comp_def]

/-- The members of an object are found as before. -/
theorem Reorders.find {f : Json → Json} (reorders : Reorders f) {members : List (String × Json)}
    (distinct : (keys members).Nodup) : ∃ members', f (.obj members) = .obj members' ∧ (keys members').Perm (keys members) ∧
      ∀ name, find name members' = (find name members).map f := by
  obtain ⟨members', same, perm⟩ := reorders.obj members distinct
  have names := perm.map Prod.fst
  change (keys members').Perm (keys _) at names
  rw [keys_map] at names
  refine ⟨members', same, names, fun name => ?_⟩
  rw [find_perm (names.nodup_iff.mpr distinct) perm, find_map]

theorem Reorders.comp {f g : Json → Json} (reorders : Reorders f) (again : Reorders g) : Reorders (g ∘ f) where
  null := by simp [reorders.null, again.null]
  bool b := by simp [reorders.bool, again.bool]
  int n := by simp [reorders.int, again.int]
  str s := by simp [reorders.str, again.str]
  arr items := by simp [reorders.arr, again.arr]
  obj members distinct := by
    obtain ⟨members', same, perm⟩ := reorders.obj members distinct
    have names := perm.map Prod.fst
    change (keys members').Perm (keys _) at names
    rw [keys_map] at names
    obtain ⟨members'', same', perm'⟩ := again.obj members' (names.nodup_iff.mpr distinct)
    refine ⟨members'', by simp [same, same'], perm'.trans ?_⟩
    simpa [Function.comp_def] using perm.map fun entry => (entry.1, g entry.2)

section
variable (before : String → String → Bool)

theorem arrangeItems_eq (items : List Json) : arrangeItems before items = items.map (arrange before) := by
  induction items with
  | nil => rfl
  | cons item rest ih => simp [arrangeItems, ih]

theorem arrangeMembers_eq (members : List (String × Json)) :
    arrangeMembers before members = members.map fun entry => (entry.1, arrange before entry.2) := by
  induction members with
  | nil => rfl
  | cons entry rest ih => simp [arrangeMembers, ih]

theorem arrange_reorders : Reorders (arrange before) where
  null := rfl
  bool _ := rfl
  int _ := rfl
  str _ := rfl
  arr items := by rw [arrange, arrangeItems_eq]
  obj members _ := ⟨(arrangeMembers before members).insertionSort _, rfl, by
    rw [← arrangeMembers_eq]
    exact List.perm_insertionSort _ _⟩

end

theorem sortKeys_reorders : Reorders sortKeys := arrange_reorders _

theorem jsonb_reorders : Reorders jsonb := arrange_reorders _

theorem sortKeys_arr (items : List Json) : sortKeys (.arr items) = .arr (items.map sortKeys) :=
  sortKeys_reorders.arr items

theorem sortKeys_obj (members : List (String × Json)) : sortKeys (.obj members) =
    .obj ((members.map fun entry => (entry.1, sortKeys entry.2)).insertionSort fun a b => a.1 ≤ b.1) := by
  have same := arrangeMembers_eq (fun a b => decide (a ≤ b)) members
  simp only [sortKeys, arrange, same, decide_eq_true_eq]

/-- There is one order of members with distinct names. -/
theorem byName_perm {members members' : List (String × Json)} (distinct : (keys members).Nodup)
    (same : members.Perm members') : members.insertionSort (fun a b => a.1 ≤ b.1) = members'.insertionSort (fun a b => a.1 ≤ b.1) := by
  have perm : (members.insertionSort fun a b => a.1 ≤ b.1).Perm (members'.insertionSort fun a b => a.1 ≤ b.1) :=
    (List.perm_insertionSort _ _).trans (same.trans (List.perm_insertionSort _ _).symm)
  have sorted : ∀ entries : List (String × Json), (entries.insertionSort fun a b => a.1 ≤ b.1).Pairwise fun a b => a.1 ≤ b.1 :=
    fun entries => List.pairwise_insertionSort (fun a b : String × Json => a.1 ≤ b.1) entries
  refine perm.eq_of_pairwise ?_ (sorted members) (sorted members')
  intro a b first second below above
  have inside : a ∈ members := (List.perm_insertionSort _ _).mem_iff.mp first
  have inside' : b ∈ members := same.mem_iff.mpr ((List.perm_insertionSort _ _).mem_iff.mp second)
  have name : a.1 = b.1 := String.le_antisymm below above
  have found : find a.1 members = some a.2 := find_of_mem distinct inside
  have found' : find b.1 members = some b.2 := find_of_mem distinct inside'
  rw [name, found'] at found
  exact Prod.ext name (Option.some.inj found).symm

theorem plainMembers_of_forall {members : List (String × Json)} (plain : ∀ entry ∈ members, Plain entry.2) :
    PlainMembers members := by
  induction members with
  | nil => trivial
  | cons entry rest ih =>
    obtain ⟨here, others⟩ := List.forall_mem_cons.mp plain
    exact ⟨here, ih others⟩

mutual
/-- However the members are ordered, sorted they are the same. -/
theorem sortKeys_canonical {f : Json → Json} (reorders : Reorders f) : ∀ v : Json, Plain v →
    sortKeys (f v) = sortKeys v ∧ Plain (f v)
  | .null, _ => by simp [reorders.null, Plain]
  | .bool b, _ => by simp [reorders.bool, Plain]
  | .int n, _ => by simp [reorders.int, Plain]
  | .str s, _ => by simp [reorders.str, Plain]
  | .float _, plain => plain.elim
  | .arr items, plain => by
    obtain ⟨sorted, kept⟩ := items_canonical reorders items plain
    rw [reorders.arr, sortKeys_arr, sortKeys_arr, sorted]
    exact ⟨rfl, kept⟩
  | .obj members, plain => by
    obtain ⟨members', same, perm⟩ := reorders.obj members plain.1
    obtain ⟨sorted, kept⟩ := members_canonical reorders members plain.2
    have names := perm.map Prod.fst
    change (keys members').Perm (keys _) at names
    rw [keys_map] at names
    have distinct : (keys members').Nodup := names.nodup_iff.mpr plain.1
    rw [same]
    refine ⟨?_, distinct, ?_⟩
    · rw [sortKeys_obj, sortKeys_obj, ← sorted]
      refine congrArg Json.obj (byName_perm ?_ ?_)
      · rwa [keys_map]
      · simpa [Function.comp_def] using perm.map fun entry => (entry.1, sortKeys entry.2)
    · refine plainMembers_of_forall fun entry inside => ?_
      exact kept entry (perm.mem_iff.mp inside)

theorem items_canonical {f : Json → Json} (reorders : Reorders f) : ∀ items : List Json, PlainItems items →
    (items.map f).map sortKeys = items.map sortKeys ∧ PlainItems (items.map f)
  | [], _ => ⟨rfl, trivial⟩
  | item :: rest, plain => by
    obtain ⟨here, kept⟩ := sortKeys_canonical reorders item plain.1
    obtain ⟨others, keptOthers⟩ := items_canonical reorders rest plain.2
    exact ⟨by simp only [List.map_cons, here, others], kept, keptOthers⟩

theorem members_canonical {f : Json → Json} (reorders : Reorders f) : ∀ members : List (String × Json), PlainMembers members →
    (members.map fun entry => (entry.1, sortKeys (f entry.2))) = (members.map fun entry => (entry.1, sortKeys entry.2)) ∧
      ∀ entry ∈ members.map (fun entry => (entry.1, f entry.2)), Plain entry.2
  | [], _ => ⟨rfl, by simp⟩
  | (name, inner) :: rest, plain => by
    obtain ⟨here, kept⟩ := sortKeys_canonical reorders inner plain.1
    obtain ⟨others, keptOthers⟩ := members_canonical reorders rest plain.2
    exact ⟨by simp only [List.map_cons, here, others], List.forall_mem_cons.mpr ⟨kept, keptOthers⟩⟩
end

end Onramp.JsonText
