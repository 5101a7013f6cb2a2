import Onramp.JsonText
import Onramp.Schema

/-!
The texts of the scalars that a stored ratesheet carries: the `str` of a decimal, the ISO format
of a date, and the UTC time of a dump. Each is read back as the value that wrote it.
-/
namespace Onramp.StoredFormat
open Onramp.Python
open Onramp.Values
open Onramp.Library.Texts

/-- The exponent at the end of a decimal: `E`, and an integer with or without a sign. -/
def exponentOf : List Char → Option Int
  | [] => some 0
  | e :: rest =>
    if e = 'e' ∨ e = 'E' then
      let sign := rest.take 1 |>.filter (fun c => c = '+' ∨ c = '-')
      match digits (rest.drop sign.length) with
      | some (run, []) =>
        let magnitude := Int.ofNat (Nat.ofDigitChars 10 run 0)
        some (if sign = ['-'] then -magnitude else magnitude)
      | _ => none
    else none

/-- The digits behind a point, where there is one. -/
def pointPart : Reader (List Char)
  | '.' :: rest => some (rest.takeWhile Char.isDigit, rest.dropWhile Char.isDigit)
  | text => some ([], text)

/-- `Decimal(text)`, of an ASCII text for a finite number: its digits are the coefficient. -/
def decimalOf (text : List Char) : Option Decimal :=
  let sign := text.take 1 |>.filter (fun c => c = '+' ∨ c = '-')
  let unsigned := text.drop sign.length
  let whole := unsigned.takeWhile Char.isDigit
  (pointPart (unsigned.dropWhile Char.isDigit)).bind fun point =>
    if whole = [] ∧ point.1 = [] then none
    else (exponentOf point.2).map fun exponent =>
      { negative := sign = ['-'], coefficient := Nat.ofDigitChars 10 (whole ++ point.1) 0,
        exponent := exponent - point.1.length }

/-- The text of an exponent, when it is not left out. -/
def exponentText (exponent : Int) : List Char :=
  if 0 ≤ exponent then 'E' :: '+' :: Nat.toDigits 10 exponent.toNat else 'E' :: '-' :: Nat.toDigits 10 (-exponent).toNat

theorem exponentOf_text (exponent : Int) : exponentOf (exponentText exponent) = some exponent := by
  have run : ∀ n, digits (Nat.toDigits 10 n) = some (Nat.toDigits 10 n, []) := fun n =>
    (digits_toDigits n).whole (by rintro _ ⟨⟩)
  unfold exponentText
  split
  · simp [exponentOf, run, Nat.ofDigitChars_ten_toDigits]
    omega
  · simp [exponentOf, run, Nat.ofDigitChars_ten_toDigits]
    omega

/-- What may follow the digits of a decimal. -/
def Tail (text : List Char) (exponent : Int) : Prop := exponentOf text = some exponent ∧ NoDigit text ∧ text.head? ≠ some '.'

theorem tail_nil : Tail [] 0 := ⟨rfl, by rintro _ ⟨⟩, by simp⟩

theorem tail_text (exponent : Int) : Tail (exponentText exponent) exponent := by
  refine ⟨exponentOf_text exponent, ?_⟩
  unfold exponentText
  split
  · exact ⟨by rintro _ ⟨⟩; rfl, by simp⟩
  · exact ⟨by rintro _ ⟨⟩; rfl, by simp⟩

/-- A point and the digits behind it, where there are some. -/
def pointText (point : List Char) : List Char := if point = [] then [] else '.' :: point

theorem pointPart_text {point tail : List Char} {exponent : Int} (all : ∀ c ∈ point, c.isDigit = true)
    (ends : Tail tail exponent) : pointPart (pointText point ++ tail) = some (point, tail) := by
  obtain ⟨-, noDigit, noPoint⟩ := ends
  unfold pointText
  split
  · next none =>
    subst none
    rw [List.nil_append]
    unfold pointPart
    split
    · exact absurd rfl noPoint
    · rfl
  · obtain ⟨taken, left⟩ := takeWhile_run all noDigit
    simp [pointPart, taken, left]

/-- Digits with a point among them or without one, behind a sign and before an exponent. -/
theorem decimalOf_parts (negative : Bool) {whole point tail : List Char} {exponent : Int} (nonempty : whole ≠ [])
    (wholeDigits : ∀ c ∈ whole, c.isDigit = true) (pointDigits : ∀ c ∈ point, c.isDigit = true)
    (ends : Tail tail exponent) :
    decimalOf ((if negative then ['-'] else []) ++ (whole ++ (pointText point ++ tail))) =
      some ⟨negative, Nat.ofDigitChars 10 (whole ++ point) 0, exponent - point.length⟩ := by
  have stops : NoDigit (pointText point ++ tail) := by
    unfold pointText
    split
    · exact ends.2.1
    · rintro _ ⟨⟩
      rfl
  have unsigned : ((whole ++ (pointText point ++ tail)).take 1).filter (fun c => decide (c = '+' ∨ c = '-')) = [] := by
    cases whole with
    | nil => exact absurd rfl nonempty
    | cons c rest =>
      have digit := wholeDigits c List.mem_cons_self
      have plus : c ≠ '+' := by
        rintro rfl
        cases digit
      have minus : c ≠ '-' := by
        rintro rfl
        cases digit
      simp [plus, minus]
  obtain ⟨taken, left⟩ := takeWhile_run wholeDigits stops
  have point' := pointPart_text pointDigits ends
  cases negative with
  | true => simp [decimalOf, taken, left, point', nonempty, ends.1]
  | false =>
    simp only [Bool.false_eq_true, if_false, List.nil_append]
    unfold decimalOf
    simp only [unsigned, List.length_nil, List.drop_zero, taken, left, point', Option.bind_some, nonempty, false_and,
      if_false, ends.1, Option.map_some]
    rfl

/-- The digits of the coefficient with the point at a place, as `str` writes them. -/
theorem body_parts (coefficient : Nat) {exponent dotPlace : Int} {body : List Char}
    (place : (exponent ≤ 0 ∧ dotPlace = exponent + (Nat.toDigits 10 coefficient).length) ∨ dotPlace = 1)
    (written : body =
      if dotPlace ≤ 0 then '0' :: '.' :: List.replicate (-dotPlace).toNat '0' ++ Nat.toDigits 10 coefficient
      else if (Nat.toDigits 10 coefficient).length ≤ dotPlace.toNat then
        Nat.toDigits 10 coefficient ++ List.replicate (dotPlace.toNat - (Nat.toDigits 10 coefficient).length) '0'
      else (Nat.toDigits 10 coefficient).take dotPlace.toNat ++ '.' :: (Nat.toDigits 10 coefficient).drop dotPlace.toNat) :
    ∃ whole point, body = whole ++ pointText point ∧ whole ≠ [] ∧ (∀ c ∈ whole, c.isDigit = true) ∧
      (∀ c ∈ point, c.isDigit = true) ∧ Nat.ofDigitChars 10 (whole ++ point) 0 = coefficient ∧
      (point.length : Int) = (Nat.toDigits 10 coefficient).length - dotPlace := by
  have all := toDigits_isDigit coefficient
  have many : 1 ≤ (Nat.toDigits 10 coefficient).length := Nat.length_toDigits_pos
  have value := Nat.ofDigitChars_ten_toDigits (n := coefficient)
  generalize listed : Nat.toDigits 10 coefficient = run at *
  have nonempty : run ≠ [] := by
    rintro rfl
    simp at many
  split_ifs at written with low short
  · -- The point is in front of the digits.
    refine ⟨['0'], List.replicate (-dotPlace).toNat '0' ++ run, ?_, by simp, by simp, ?_, ?_, ?_⟩
    · simp [written, pointText, nonempty]
    · intro c inside
      rcases List.mem_append.mp inside with zero | digit
      · rw [List.eq_of_mem_replicate zero]
        rfl
      · exact all c digit
    · have padded := ofDigitChars_padded ((-dotPlace).toNat + 1) coefficient
      rw [listed] at padded
      simpa [List.replicate_succ] using padded
    · simp only [List.length_append, List.length_replicate]
      omega
  · -- It is behind them, so there is none.
    have full : dotPlace.toNat = run.length := by omega
    refine ⟨run, [], ?_, nonempty, all, by simp, by simpa using value, ?_⟩
    · simp [written, full, pointText]
    · simp only [List.length_nil]
      omega
  · refine ⟨run.take dotPlace.toNat, run.drop dotPlace.toNat, ?_, ?_, ?_, ?_, ?_, ?_⟩
    · have some : run.drop dotPlace.toNat ≠ [] := by
        rw [Ne, List.drop_eq_nil_iff]
        omega
      rw [written, pointText, if_neg some]
    · rw [Ne, List.take_eq_nil_iff]
      push Not
      exact ⟨by omega, nonempty⟩
    · exact fun c inside => all c (List.mem_of_mem_take inside)
    · exact fun c inside => all c (List.mem_of_mem_drop inside)
    · rw [List.take_append_drop]
      exact value
    · rw [List.length_drop]
      omega

/-- A decimal is read back from its `str`. -/
theorem decimalOf_str (d : Decimal) : decimalOf d.str.toList = some d := by
  obtain ⟨negative, coefficient, exponent⟩ := d
  have sign : (if negative then "-" else "").toList = if negative then ['-'] else [] := by cases negative <;> rfl
  have tail : ∀ places : Int, Tail (if places = 0 then "" else if 0 ≤ places then "E+" ++ Nat.repr places.toNat
      else "E-" ++ Nat.repr (-places).toNat).toList places := by
    intro places
    split_ifs with none positive
    · subst none
      exact tail_nil
    · have shown := tail_text places
      rw [exponentText, if_pos positive] at shown
      simpa [String.toList_append, Nat.toList_repr] using shown
    · have shown := tail_text places
      rw [exponentText, if_neg positive] at shown
      simpa [String.toList_append, Nat.toList_repr] using shown
  unfold Decimal.str
  simp only [Nat.toList_repr, String.toList_append, String.toList_ofList, sign]
  set left : Int := exponent + ((Nat.toDigits 10 coefficient).length : Int) with leftDigits
  set place : Int := if exponent ≤ 0 ∧ -6 < left then left else 1 with dotPlace
  have apart : (exponent ≤ 0 ∧ place = left) ∨ place = 1 := by
    rw [dotPlace]
    split_ifs with positional
    · exact .inl ⟨positional.1, rfl⟩
    · exact .inr rfl
  obtain ⟨whole, point, body, nonempty, wholeDigits, pointDigits, value, length⟩ := body_parts coefficient apart rfl
  have ends := tail (left - place)
  simp only [sub_eq_zero, neg_sub] at ends
  have read := decimalOf_parts negative nonempty wholeDigits pointDigits ends
  rw [body, List.append_assoc, List.append_assoc, read, value, length]
  have same : left - place - ((Nat.toDigits 10 coefficient).length - place) = exponent := by omega
  rw [same]

/-- A day of the calendar, as `datetime.date` takes it. -/
structure OnCalendar (d : Date) : Prop where
  year : 1 ≤ d.year ∧ d.year ≤ 9999
  month : 1 ≤ d.month ∧ d.month ≤ 12
  day : 1 ≤ d.day ∧ d.day ≤ daysInMonth d.year d.month

theorem OnCalendar.iff (d : Date) : OnCalendar d ↔ (1 ≤ d.year ∧ d.year ≤ 9999) ∧ (1 ≤ d.month ∧ d.month ≤ 12) ∧
    1 ≤ d.day ∧ d.day ≤ daysInMonth d.year d.month :=
  ⟨fun h => ⟨h.1, h.2, h.3⟩, fun ⟨a, b, c⟩ => ⟨a, b, c⟩⟩

instance : DecidablePred OnCalendar := fun d => decidable_of_iff' _ (OnCalendar.iff d)

/-- The digits of a number behind zeros, up to this width. -/
def padded (width n : Nat) : List Char :=
  List.replicate (width - (Nat.toDigits 10 n).length) '0' ++ Nat.toDigits 10 n

theorem padded_length (width n : Nat) (some : 0 < width) (fits : n < 10 ^ width) : (padded width n).length = width := by
  have short := (Nat.length_toDigits_le_iff (b := 10) (by decide) some).mpr fits
  rw [padded, List.length_append, List.length_replicate]
  omega

theorem padded_digits (width n : Nat) : ∀ c ∈ padded width n, c.isDigit = true := by
  intro c inside
  rcases List.mem_append.mp inside with zero | digit
  · rw [List.eq_of_mem_replicate zero]
    rfl
  · exact toDigits_isDigit n c digit

/-- The digits denote the number. -/
theorem digitsValue_padded (width n : Nat) (some : 0 < width) (fits : n < 10 ^ width) :
    digitsValue (padded width n) = Option.some n := by
  have nonempty : padded width n ≠ [] := by
    rw [← List.length_pos_iff, padded_length width n some fits]
    exact some
  have value := ofDigitChars_padded (width - (Nat.toDigits 10 n).length) n
  rw [Nat.ofDigitChars_eq_foldl] at value
  have all : (padded width n).all Char.isDigit = true := List.all_eq_true.mpr (padded_digits width n)
  unfold digitsValue
  rw [if_pos ⟨nonempty, all⟩]
  exact congrArg Option.some value

theorem isoformat_toList (d : Date) :
    d.isoformat.toList = padded 4 d.year ++ '-' :: (padded 2 d.month ++ '-' :: padded 2 d.day) := by
  have width : ∀ n : Nat, (Nat.repr n).length = (Nat.toDigits 10 n).length := fun n => by
    rw [← String.length_toList, Nat.toList_repr]
  have shown : d.isoformat =
      String.ofList (List.replicate (4 - (Nat.repr d.year).length) '0') ++ Nat.repr d.year ++ "-" ++
        (String.ofList (List.replicate (2 - (Nat.repr d.month).length) '0') ++ Nat.repr d.month) ++ "-" ++
        (String.ofList (List.replicate (2 - (Nat.repr d.day).length) '0') ++ Nat.repr d.day) := rfl
  rw [shown]
  simp [String.toList_append, padded, width, Nat.toList_repr]

theorem two_chars {run : List Char} (two : run.length = 2) : ∃ a b, run = [a, b] := by
  match run, two with
  | [a, b], _ => exact ⟨a, b, rfl⟩

theorem four_chars {run : List Char} (four : run.length = 4) : ∃ a b c d, run = [a, b, c, d] := by
  match run, four with
  | [a, b, c, d], _ => exact ⟨a, b, c, d, rfl⟩

theorem daysInMonth_le (year month : Nat) : daysInMonth year month ≤ 31 := by
  unfold daysInMonth
  split_ifs <;> omega

/-- A date is read back from its ISO format. -/
theorem isoDate_isoformat {d : Date} (real : OnCalendar d) : isoDate d.isoformat = some d := by
  have days := daysInMonth_le d.year d.month
  have year := digitsValue_padded 4 d.year (by decide) (by have := real.year; omega)
  have month := digitsValue_padded 2 d.month (by decide) (by have := real.month; omega)
  have day := digitsValue_padded 2 d.day (by decide) (by have := real.day; omega)
  obtain ⟨y1, y2, y3, y4, yearText⟩ := four_chars (padded_length 4 d.year (by decide) (by have := real.year; omega))
  obtain ⟨m1, m2, monthText⟩ := two_chars (padded_length 2 d.month (by decide) (by have := real.month; omega))
  obtain ⟨d1, d2, dayText⟩ := two_chars (padded_length 2 d.day (by decide) (by have := real.day; omega))
  rw [yearText] at year
  rw [monthText] at month
  rw [dayText] at day
  have shown := isoformat_toList d
  rw [yearText, monthText, dayText] at shown
  unfold isoDate
  simp only [shown, List.cons_append, List.nil_append]
  simp [year, month, day, real.year.1, real.month, real.day]

/-- The text of a UTC time in a dump. -/
def zulu (t : DateTime) : List Char :=
  let seconds := t.micros / 1000000
  let fraction := t.micros % 1000000
  t.date.isoformat.toList ++ 'T' :: (padded 2 (seconds / 3600) ++ ':' :: (padded 2 (seconds / 60 % 60) ++
    ':' :: (padded 2 (seconds % 60) ++ ((if fraction = 0 then [] else '.' :: padded 6 fraction) ++ ['Z']))))

/-- The microseconds behind the seconds. -/
def fractionOf : List Char → Option Nat
  | ['Z'] => some 0
  | ['.', a, b, c, d, e, f, 'Z'] => digitsValue [a, b, c, d, e, f]
  | _ => none

/-- The microseconds of the day. -/
def clockOf : List Char → Option Nat
  | 'T' :: h1 :: h2 :: ':' :: m1 :: m2 :: ':' :: s1 :: s2 :: rest => do
    let hour ← digitsValue [h1, h2]
    let minute ← digitsValue [m1, m2]
    let second ← digitsValue [s1, s2]
    let fraction ← fractionOf rest
    if hour < 24 ∧ minute < 60 ∧ second < 60 then some (((hour * 60 + minute) * 60 + second) * 1000000 + fraction)
    else none
  | _ => none

/-- The UTC time that a text of a dump stands for. -/
def zuluTime (text : List Char) : Option DateTime :=
  (isoDate (String.ofList (text.take 10))).bind fun date => (clockOf (text.drop 10)).map fun micros => ⟨date, micros⟩

/-- A time of a calendar day. -/
def OnClock (t : DateTime) : Prop := OnCalendar t.date ∧ t.micros < 86400000000

instance : DecidablePred OnClock := fun _ => inferInstanceAs (Decidable (_ ∧ _))

theorem fractionOf_text (fraction : Nat) (small : fraction < 1000000) :
    fractionOf ((if fraction = 0 then [] else '.' :: padded 6 fraction) ++ ['Z']) = some fraction := by
  split_ifs with none
  · simp [fractionOf, none]
  · have value := digitsValue_padded 6 fraction (by decide) (by omega)
    have six := padded_length 6 fraction (by decide) (by omega)
    match listed : padded 6 fraction, six with
    | [a, b, c, d, e, f], _ =>
      rw [listed] at value
      simpa [fractionOf] using value

/-- A time is read back from its text. -/
theorem zuluTime_zulu {t : DateTime} (real : OnClock t) : zuluTime (zulu t) = some t := by
  obtain ⟨day, early⟩ := real
  have days := daysInMonth_le t.date.year t.date.month
  have ten : t.date.isoformat.toList.length = 10 := by
    rw [String.length_toList]
    exact Date.isoformat_length day.year.2 day.month.2 (day.day.2.trans days)
  have hour := digitsValue_padded 2 (t.micros / 1000000 / 3600) (by decide) (by omega)
  have minute := digitsValue_padded 2 (t.micros / 1000000 / 60 % 60) (by decide) (by omega)
  have second := digitsValue_padded 2 (t.micros / 1000000 % 60) (by decide) (by omega)
  have fraction := fractionOf_text (t.micros % 1000000) (Nat.mod_lt _ (by decide))
  obtain ⟨h1, h2, hourText⟩ := two_chars (padded_length 2 (t.micros / 1000000 / 3600) (by decide) (by omega))
  obtain ⟨m1, m2, minuteText⟩ :=
    two_chars (padded_length 2 (t.micros / 1000000 / 60 % 60) (by decide) (by omega))
  obtain ⟨s1, s2, secondText⟩ := two_chars (padded_length 2 (t.micros / 1000000 % 60) (by decide) (by omega))
  rw [hourText] at hour
  rw [minuteText] at minute
  rw [secondText] at second
  have clock : clockOf ('T' :: ([h1, h2] ++ ':' :: ([m1, m2] ++ ':' :: ([s1, s2] ++
      ((if t.micros % 1000000 = 0 then [] else '.' :: padded 6 (t.micros % 1000000)) ++ ['Z']))))) = some t.micros := by
    have range : t.micros / 1000000 / 3600 < 24 ∧ t.micros / 1000000 / 60 % 60 < 60 ∧ t.micros / 1000000 % 60 < 60 := by omega
    have whole : ((t.micros / 1000000 / 3600 * 60 + t.micros / 1000000 / 60 % 60) * 60 + t.micros / 1000000 % 60) * 1000000 +
        t.micros % 1000000 = t.micros := by omega
    simp only [List.cons_append, List.nil_append, clockOf, hour, minute, second, fraction, bind, Option.bind_some,
      if_pos range, whole]
  unfold zuluTime zulu
  simp only [hourText, minuteText, secondText]
  rw [List.take_left' ten, List.drop_left' ten, String.ofList_toList, isoDate_isoformat day, clock]
  rfl

end Onramp.StoredFormat
