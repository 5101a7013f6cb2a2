import Onramp.Library.Codes
import Onramp.Python

/-!
What `repr` and `str` write can be read back: the `repr` of a string inside a longer text,
the digits of a number up to the next character, and the text of a decimal. Values with
the same text are the same, and the digits of a decimal stay as they were written.
-/
namespace Onramp.Reprs
open Onramp.Python
open Onramp.Library.Codes

/-- The number that a hexadecimal digit stands for. -/
def hexValue (c : Char) : Nat := if c.isDigit then c.toNat - 48 else c.toNat - 87

/-- The number that hexadecimal digits denote. -/
def unhex (digits : List Char) : Nat := digits.foldl (fun n c => 16 * n + hexValue c) 0

theorem hexValue_digit (d : Nat) (small : d < 16) : hexValue ("0123456789abcdef".toList.getD d '0') = d := by
  have each : ∀ d : Fin 16, hexValue ("0123456789abcdef".toList.getD d '0') = d := by decide
  exact each ⟨d, small⟩

theorem length_hex (width n : Nat) : (hex width n).length = width := by
  induction width generalizing n with
  | zero => rfl
  | succ width ih => simp [hex, ih]

theorem unhex_hex (width n : Nat) : unhex (hex width n) = n % 16 ^ width := by
  induction width generalizing n with
  | zero => simp [hex, unhex, Nat.mod_one]
  | succ width ih =>
    have front : (hex width (n / 16)).foldl (fun n c => 16 * n + hexValue c) 0 = n / 16 % 16 ^ width := ih (n / 16)
    rw [unhex, hex, List.foldl_append, front, List.foldl_cons, List.foldl_nil,
      hexValue_digit _ (Nat.mod_lt _ (by decide)), Nat.pow_succ', Nat.mod_mul]
    omega

/-- The first character of the text inside a `repr`, and what follows it. -/
def readChar : List Char → Option (Char × List Char)
  | '\\' :: 't' :: rest => some ('\t', rest)
  | '\\' :: 'n' :: rest => some ('\n', rest)
  | '\\' :: 'r' :: rest => some ('\r', rest)
  | '\\' :: 'x' :: rest => some (Char.ofNat (unhex (rest.take 2)), rest.drop 2)
  | '\\' :: 'u' :: rest => some (Char.ofNat (unhex (rest.take 4)), rest.drop 4)
  | '\\' :: 'U' :: rest => some (Char.ofNat (unhex (rest.take 8)), rest.drop 8)
  | '\\' :: c :: rest => some (c, rest)
  | c :: rest => some (c, rest)
  | [] => none

theorem readChar_plain {c : Char} (plain : c ≠ '\\') (rest : List Char) : readChar (c :: rest) = some (c, rest) := by
  unfold readChar
  split <;> simp_all

/-- A character that is written by its number. -/
theorem ofNat_unhex_hex {c : Char} (width : Nat) (small : c.toNat < 16 ^ width) (rest : List Char) :
    (Char.ofNat (unhex ((hex width c.toNat ++ rest).take width)), (hex width c.toNat ++ rest).drop width) = (c, rest) := by
  have front : (hex width c.toNat ++ rest).take width = hex width c.toNat :=
    List.take_left' (length_hex width c.toNat)
  have back : (hex width c.toNat ++ rest).drop width = rest := List.drop_left' (length_hex width c.toNat)
  rw [front, back, unhex_hex, Nat.mod_eq_of_lt small, Char.ofNat_toNat]

theorem readChar_reprChar {quote : Char} (quotes : quote = '\'' ∨ quote = '"') (c : Char) (rest : List Char) :
    readChar (reprChar quote c ++ rest) = some (c, rest) := by
  unfold reprChar
  by_cases escaped : c = quote ∨ c = '\\'
  · have literal : c = '\'' ∨ c = '"' ∨ c = '\\' := by
      rcases escaped with rfl | rfl
      · exact quotes.imp_right .inl
      · exact .inr (.inr rfl)
    rw [if_pos (by simpa using escaped)]
    rcases literal with rfl | rfl | rfl <;> rfl
  · have plain : c ≠ '\\' := fun same => escaped (.inr same)
    rw [if_neg (by simpa using escaped)]
    by_cases tab : c = '\t'
    · subst tab
      rfl
    by_cases newline : c = '\n'
    · subst newline
      rfl
    by_cases carriage : c = '\r'
    · subst carriage
      rfl
    rw [if_neg tab, if_neg newline, if_neg carriage]
    by_cases printable : isPrintable c = true
    · rw [if_pos printable]
      exact readChar_plain plain rest
    rw [if_neg printable]
    by_cases byte : c.toNat < 0x100
    · rw [if_pos byte]
      exact congrArg some (ofNat_unhex_hex 2 byte rest)
    by_cases short : c.toNat < 0x10000
    · rw [if_neg byte, if_pos short]
      exact congrArg some (ofNat_unhex_hex 4 short rest)
    · have bounded : c.toNat < 16 ^ 8 := by
        have valid := c.valid
        have number : c.toNat = c.val.toNat := rfl
        rcases valid with low | high
        · omega
        · omega
      rw [if_neg byte, if_neg short]
      exact congrArg some (ofNat_unhex_hex 8 bounded rest)

theorem reprChar_apart {quote : Char} (quotes : quote = '\'' ∨ quote = '"') : StartsApart quote (reprChar quote) := by
  have backslash : '\\' ≠ quote := by rcases quotes with rfl | rfl <;> decide
  intro c
  by_cases escaped : c = quote ∨ c = '\\'
  · exact ⟨'\\', [c], by simp [reprChar, escaped], backslash⟩
  · have differs : c ≠ quote := fun same => escaped (.inl same)
    unfold reprChar
    rw [if_neg (by simpa using escaped)]
    split_ifs <;> first | exact ⟨_, _, rfl, backslash⟩ | exact ⟨_, _, rfl, differs⟩

/-- The delimiter that `repr` chooses. -/
def reprQuote (s : String) : Char := if '\'' ∈ s.toList ∧ '"' ∉ s.toList then '"' else '\''

theorem reprQuote_quotes (s : String) : reprQuote s = '\'' ∨ reprQuote s = '"' := by
  unfold reprQuote
  split_ifs <;> simp

theorem toList_strRepr (s : String) :
    (strRepr s).toList = reprQuote s :: (s.toList.flatMap (reprChar (reprQuote s)) ++ [reprQuote s]) := by
  simp [strRepr, reprQuote]

/-- The `repr` of a string ends where its delimiter comes again. -/
theorem strRepr_selfDelimiting : SelfDelimiting (fun s : String => (strRepr s).toList) := by
  intro s t x y same
  simp only [toList_strRepr, List.cons_append] at same
  obtain ⟨quote, texts⟩ := List.cons.inj same
  rw [← quote] at texts
  have chars : SelfDelimiting (reprChar (reprQuote s)) :=
    selfDelimiting_of_reader readChar (readChar_reprChar (reprQuote_quotes s))
  obtain ⟨characters, rest⟩ := chars.flatMap (reprChar_apart (reprQuote_quotes s)) s.toList t.toList x y texts
  exact ⟨String.toList_inj.mp characters, rest⟩

theorem strRepr_injective {s t : String} (same : strRepr s = strRepr t) : s = t :=
  strRepr_selfDelimiting.injective (congrArg String.toList same)

/-- A `repr` of a string starts with a delimiter. -/
theorem strRepr_apart {stop : Char} (single : stop ≠ '\'') (double : stop ≠ '"') :
    StartsApart stop (fun s : String => (strRepr s).toList) := by
  intro s
  refine ⟨_, _, toList_strRepr s, ?_⟩
  rcases reprQuote_quotes s with quote | quote
  · rw [quote]
    exact single.symm
  · rw [quote]
    exact double.symm

/-- The `repr` of a list of strings. -/
theorem listRepr_selfDelimiting {α : Type} {render : α → String}
    (delimited : SelfDelimiting (fun item => (render item).toList)) (apart : StartsApart ']' (fun item => (render item).toList)) :
    SelfDelimiting (fun items : List α => (listRepr (items.map render)).toList) := by
  have written : ∀ items : List α, (listRepr (items.map render)).toList =
      ['['] ++ ((',' :: [' ']).intercalate (items.map (fun item => (render item).toList)) ++ [']']) := by
    intro items
    simp [listRepr, String.toList_intercalate, Function.comp_def]
  simp only [written]
  exact (delimited.intercalate apart (by decide)).before ['[']

theorem isDigit_toDigits {n : Nat} {c : Char} (inside : c ∈ Nat.toDigits 10 n) : c.isDigit = true :=
  Nat.isDigit_of_mem_toDigits (by decide) (by decide) inside

theorem toDigits_injective {n m : Nat} (same : Nat.toDigits 10 n = Nat.toDigits 10 m) : n = m := by
  rw [← Nat.ofDigitChars_ten_toDigits (n := n), same, Nat.ofDigitChars_ten_toDigits]

/-- The digits of a number end at a character that is none. -/
theorem digits_selfDelimiting (stop : Char) (outside : stop.isDigit = false) :
    SelfDelimiting (fun n : Nat => Nat.toDigits 10 n ++ [stop]) :=
  selfDelimiting_of_class (fun c => c.isDigit = true) (by simp [outside]) (fun _ _ => toDigits_injective)
    (fun _ _ => isDigit_toDigits)

theorem toList_intRepr (n : Int) :
    (Int.repr n).toList = if n < 0 then '-' :: Nat.toDigits 10 n.natAbs else Nat.toDigits 10 n.natAbs := by
  cases n with
  | ofNat n => simp [Int.repr]
  | negSucc n => simp [Int.repr, Int.negSucc_lt_zero]

theorem head_toDigits (n : Nat) : ∃ c rest, Nat.toDigits 10 n = c :: rest ∧ c.isDigit = true := by
  obtain ⟨c, rest, digits⟩ := List.exists_cons_of_ne_nil (Nat.toDigits_ne_nil (n := n) (b := 10))
  exact ⟨c, rest, digits, isDigit_toDigits (by rw [digits]; exact List.mem_cons_self)⟩

theorem intRepr_injective {n m : Int} (same : Int.repr n = Int.repr m) : n = m := by
  have texts := congrArg String.toList same
  rw [toList_intRepr, toList_intRepr] at texts
  obtain ⟨c, rest, digits, digit⟩ := head_toDigits n.natAbs
  obtain ⟨d, rest', digits', digit'⟩ := head_toDigits m.natAbs
  split_ifs at texts with negative negative' negative'
  · have magnitudes := toDigits_injective (List.cons.inj texts).2
    omega
  · rw [digits'] at texts
    rw [← (List.cons.inj texts).1] at digit'
    cases digit'
  · rw [digits] at texts
    rw [(List.cons.inj texts).1] at digit
    cases digit
  · have magnitudes := toDigits_injective texts
    omega

/-- The number behind the `E` of a decimal, where there is one. -/
def readScale : List Char → Int
  | 'E' :: '+' :: digits => Nat.ofDigitChars 10 digits 0
  | 'E' :: '-' :: digits => -(Nat.ofDigitChars 10 digits 0 : Int)
  | _ => 0

/-- The decimal that a text of `str` shows: the digits without the point are the
    coefficient, and each place behind the point lowers the exponent. -/
def readDecimal (text : List Char) : Decimal :=
  let unsigned := text.dropWhile (· = '-')
  let mantissa := unsigned.takeWhile (· ≠ 'E')
  { negative := text.head? = some '-'
    coefficient := Nat.ofDigitChars 10 (mantissa.filter (· ≠ '.')) 0
    exponent := readScale (unsigned.dropWhile (· ≠ 'E')) - ((mantissa.dropWhile (· ≠ '.')).length - 1 : Nat) }

/-- The point with the digits behind it, where there are some. -/
def pointed (fraction : List Char) : List Char := if fraction = [] then [] else '.' :: fraction

/-- The scale in scientific notation, where it is not zero. -/
def scaled (scale : Int) : List Char :=
  if scale = 0 then [] else if 0 ≤ scale then 'E' :: '+' :: Nat.toDigits 10 scale.toNat
  else 'E' :: '-' :: Nat.toDigits 10 (-scale).toNat

/-- The text of a decimal is made of these digits and this scale. -/
structure Shows (d : Decimal) (whole fraction : List Char) (scale : Int) : Prop where
  text : d.str.toList = (if d.negative then ['-'] else []) ++ whole ++ pointed fraction ++ scaled scale
  nonempty : whole ≠ []
  digits : ∀ c ∈ whole ++ fraction, c.isDigit = true
  coefficient : Nat.ofDigitChars 10 (whole ++ fraction) 0 = d.coefficient
  exponent : d.exponent = scale - fraction.length

theorem readScale_scaled (scale : Int) : readScale (scaled scale) = scale := by
  unfold scaled
  split_ifs with zero positive
  · exact zero.symm
  · simp only [readScale, Nat.ofDigitChars_ten_toDigits]
    omega
  · simp only [readScale, Nat.ofDigitChars_ten_toDigits]
    omega

theorem digit_ne {c : Char} (digit : c.isDigit = true) : c ≠ '-' ∧ c ≠ '.' ∧ c ≠ 'E' := by
  refine ⟨?_, ?_, ?_⟩ <;> (rintro rfl; cases digit)

theorem Shows.read {d : Decimal} {whole fraction : List Char} {scale : Int} (shown : Shows d whole fraction scale) :
    readDecimal d.str.toList = d := by
  obtain ⟨text, nonempty, digits, coefficient, exponent⟩ := shown
  obtain ⟨first, others, rfl⟩ := List.exists_cons_of_ne_nil nonempty
  have firstDigit := digit_ne (digits first (by simp))
  have unsigned : d.str.toList.dropWhile (· = '-') = (first :: others) ++ pointed fraction ++ scaled scale := by
    rw [text]
    by_cases negative : d.negative = true <;> simp [negative, firstDigit.1]
  have sign : d.str.toList.head? = some '-' ↔ d.negative = true := by
    rw [text]
    by_cases negative : d.negative = true <;> simp [negative, firstDigit.1]
  have mantissaChars : ∀ c ∈ (first :: others) ++ pointed fraction, c ≠ 'E' := by
    intro c inside
    rcases List.mem_append.mp inside with front | back
    · exact (digit_ne (digits c (List.mem_append_left _ front))).2.2
    · unfold pointed at back
      split_ifs at back
      · cases back
      · rcases List.mem_cons.mp back with rfl | behind
        · decide
        · exact (digit_ne (digits c (List.mem_append_right _ behind))).2.2
  have scaleStarts : (scaled scale).takeWhile (· ≠ 'E') = [] ∧ (scaled scale).dropWhile (· ≠ 'E') = scaled scale := by
    unfold scaled
    split_ifs <;> simp
  have mantissa : ((first :: others) ++ pointed fraction ++ scaled scale).takeWhile (· ≠ 'E') =
      (first :: others) ++ pointed fraction := by
    rw [List.takeWhile_append_of_pos (by simpa using mantissaChars), scaleStarts.1, List.append_nil]
  have behind : ((first :: others) ++ pointed fraction ++ scaled scale).dropWhile (· ≠ 'E') = scaled scale := by
    rw [List.dropWhile_append_of_pos (by simpa using mantissaChars), scaleStarts.2]
  have wholeChars : ∀ c ∈ first :: others, c ≠ '.' := fun c inside =>
    (digit_ne (digits c (List.mem_append_left _ inside))).2.1
  have fractionChars : ∀ c ∈ fraction, c ≠ '.' := fun c inside =>
    (digit_ne (digits c (List.mem_append_right _ inside))).2.1
  have kept : ((first :: others) ++ pointed fraction).filter (· ≠ '.') = (first :: others) ++ fraction := by
    rw [List.filter_append, List.filter_eq_self.mpr (by simpa using wholeChars)]
    unfold pointed
    split_ifs with none
    · simp [none]
    · simpa using fractionChars
  have places : (((first :: others) ++ pointed fraction).dropWhile (· ≠ '.')).length - 1 = fraction.length := by
    rw [List.dropWhile_append_of_pos (by simpa using wholeChars)]
    unfold pointed
    split_ifs with none <;> simp [none]
  unfold readDecimal
  simp only [unsigned, mantissa, behind, kept, places, coefficient, readScale_scaled, ← exponent]
  cases d
  simp_all

/-- The places in front of the point: all of them while the notation is positional, else one. -/
def dotPlaceOf (d : Decimal) : Int :=
  if d.exponent ≤ 0 ∧ -6 < d.exponent + ((Nat.toDigits 10 d.coefficient).length : Int) then
    d.exponent + ((Nat.toDigits 10 d.coefficient).length : Int)
  else 1

/-- The digits with the point. -/
def bodyOf (digits : List Char) (dotPlace : Int) : List Char :=
  if dotPlace ≤ 0 then '0' :: '.' :: List.replicate (-dotPlace).toNat '0' ++ digits
  else if digits.length ≤ dotPlace.toNat then digits ++ List.replicate (dotPlace.toNat - digits.length) '0'
  else digits.take dotPlace.toNat ++ '.' :: digits.drop dotPlace.toNat

theorem toList_str (d : Decimal) : d.str.toList = (if d.negative then ['-'] else []) ++
    bodyOf (Nat.toDigits 10 d.coefficient) (dotPlaceOf d) ++
    scaled (d.exponent + ((Nat.toDigits 10 d.coefficient).length : Int) - dotPlaceOf d) := by
  have scientific : ∀ left dot : Int, (if left = dot then "" else if 0 ≤ left - dot then "E+" ++ Nat.repr (left - dot).toNat
      else "E-" ++ Nat.repr (dot - left).toNat : String).toList = scaled (left - dot) := by
    intro left dot
    unfold scaled
    by_cases same : left = dot
    · simp [same]
    · rw [if_neg same, if_neg (show ¬ left - dot = 0 by omega)]
      by_cases above : 0 ≤ left - dot
      · rw [if_pos above, if_pos above]
        simp [String.toList_append]
      · rw [if_neg above, if_neg above, show -(left - dot) = dot - left by omega]
        simp [String.toList_append]
  unfold Decimal.str bodyOf dotPlaceOf
  simp only [Nat.toList_repr, String.toList_append, String.toList_ofList, scientific]
  by_cases negative : d.negative = true <;> simp [negative]

/-- When the point is not behind the digits, the body has them on both of its sides, with zeros in front at most. -/
theorem exists_bodyOf {digits : List Char} {dotPlace : Int} (anyDigit : 0 < digits.length) (within : dotPlace ≤ digits.length)
    (digit : ∀ c ∈ digits, c.isDigit = true) :
    ∃ whole fraction, bodyOf digits dotPlace = whole ++ pointed fraction ∧ whole ≠ [] ∧
      (∀ c ∈ whole ++ fraction, c.isDigit = true) ∧
      Nat.ofDigitChars 10 (whole ++ fraction) 0 = Nat.ofDigitChars 10 digits 0 ∧
      (fraction.length : Int) = digits.length - dotPlace := by
  unfold bodyOf
  by_cases low : dotPlace ≤ 0
  · have filled : List.replicate (-dotPlace).toNat '0' ++ digits ≠ [] := by
      intro nothing
      rw [(List.append_eq_nil_iff.mp nothing).2] at anyDigit
      cases anyDigit
    refine ⟨['0'], List.replicate (-dotPlace).toNat '0' ++ digits, ?_, by simp, ?_, ?_, ?_⟩
    · rw [if_pos low, pointed, if_neg filled]
      simp
    · intro c inside
      simp only [List.mem_append, List.mem_singleton, List.mem_replicate] at inside
      rcases inside with rfl | ⟨-, rfl⟩ | inside
      · rfl
      · rfl
      · exact digit c inside
    · simp [Nat.ofDigitChars_append, Nat.ofDigitChars_cons, Nat.ofDigitChars_replicate_zero]
    · simp only [List.length_append, List.length_replicate]
      omega
  rw [if_neg low]
  by_cases long : digits.length ≤ dotPlace.toNat
  · have noPadding : dotPlace.toNat - digits.length = 0 := by omega
    refine ⟨digits, [], ?_, List.ne_nil_of_length_pos anyDigit, by simpa using digit, by simp, ?_⟩
    · rw [if_pos long, noPadding]
      simp [pointed]
    · simp only [List.length_nil]
      omega
  · have filled : digits.drop dotPlace.toNat ≠ [] := by
      rw [ne_eq, List.drop_eq_nil_iff]
      omega
    refine ⟨digits.take dotPlace.toNat, digits.drop dotPlace.toNat, ?_, ?_, by simpa using digit, by simp, ?_⟩
    · rw [if_neg long, pointed, if_neg filled]
    · rw [ne_eq, List.take_eq_nil_iff]
      rintro (none | nothing)
      · omega
      · rw [nothing] at anyDigit
        cases anyDigit
    · rw [List.length_drop]
      omega

/-- Every decimal shows some digits. -/
theorem exists_shows (d : Decimal) : ∃ whole fraction scale, Shows d whole fraction scale := by
  have anyDigit : 0 < (Nat.toDigits 10 d.coefficient).length := Nat.length_toDigits_pos
  have within : dotPlaceOf d ≤ ((Nat.toDigits 10 d.coefficient).length : Int) := by
    unfold dotPlaceOf
    split_ifs <;> omega
  obtain ⟨whole, fraction, body, nonempty, digits, value, places⟩ := exists_bodyOf anyDigit within (fun _ => isDigit_toDigits)
  refine ⟨whole, fraction, d.exponent + ((Nat.toDigits 10 d.coefficient).length : Int) - dotPlaceOf d,
    ⟨?_, nonempty, digits, ?_, by omega⟩⟩
  · rw [toList_str, body]
    simp
  · rw [value]
    exact Nat.ofDigitChars_ten_toDigits

/-- The text of a decimal shows its sign, its digits and its exponent. -/
theorem decimalStr_injective {d e : Decimal} (same : d.str = e.str) : d = e := by
  obtain ⟨_, _, _, first⟩ := exists_shows d
  obtain ⟨_, _, _, second⟩ := exists_shows e
  rw [← first.read, same, second.read]

/-- The digits of a date, as `repr` writes them after the name of the class. -/
def dateDigits (d : Date) : List Char :=
  (Nat.toDigits 10 d.year ++ [',']) ++ ([' '] ++ ((Nat.toDigits 10 d.month ++ [',']) ++
    ([' '] ++ (Nat.toDigits 10 d.day ++ [')']))))

theorem dateDigits_injective {d e : Date} (same : dateDigits d = dateDigits e) : d = e := by
  have comma := digits_selfDelimiting ',' (by decide)
  have paren := digits_selfDelimiting ')' (by decide)
  unfold dateDigits at same
  obtain ⟨year, later⟩ := comma d.year e.year _ _ same
  obtain ⟨month, last⟩ := comma d.month e.month _ _ (List.append_cancel_left later)
  have day := paren.injective (List.append_cancel_left last)
  cases d
  cases e
  simp_all

theorem toList_dateRepr (d : Date) : d.repr.toList = "datetime.date(".toList ++ dateDigits d := by
  have comma : ", ".toList = [',', ' '] := rfl
  have paren : ")".toList = [')'] := rfl
  unfold Date.repr dateDigits
  simp only [String.toList_append, Nat.toList_repr, comma, paren, List.append_assoc, List.cons_append, List.nil_append]

theorem dateRepr_injective {d e : Date} (same : d.repr = e.repr) : d = e := by
  have texts := congrArg String.toList same
  rw [toList_dateRepr, toList_dateRepr] at texts
  exact dateDigits_injective (List.append_cancel_left texts)

end Onramp.Reprs
