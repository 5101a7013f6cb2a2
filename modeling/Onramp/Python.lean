import Mathlib.Data.List.Sort
import Mathlib.Data.Rat.Defs
import Mathlib.Algebra.Order.Ring.Rat
import Onramp.Unicode

/-!
The parts of the Python runtime and its standard library that the pipeline
rests on: raised exceptions, `str` operations (`strip`, slices, `repr`), the one
regular expression of the port codes, decimal numbers, dates and times of day.
-/
namespace Onramp.Python

/-- The exception classes that the pipeline raises or distinguishes; every other
    class is `other` with its name. -/
inductive ExcClass
  | extractionError
  | excelTooLargeError
  | edifactExtractionError
  | ensembleError
  | correctionError
  | validationError
  | timeoutError
  | jsonDecodeError
  | valueError
  | typeError
  | attributeError
  | assertionError
  | integrityError
  | cancelledError
  | other (name : String)
  deriving DecidableEq

/-- `type(exc).__name__`. -/
def ExcClass.name : ExcClass → String
  | .extractionError => "ExtractionError"
  | .excelTooLargeError => "ExcelTooLargeError"
  | .edifactExtractionError => "EdifactExtractionError"
  | .ensembleError => "EnsembleError"
  | .correctionError => "CorrectionError"
  | .validationError => "ValidationError"
  | .timeoutError => "TimeoutError"
  | .jsonDecodeError => "JSONDecodeError"
  | .valueError => "ValueError"
  | .typeError => "TypeError"
  | .attributeError => "AttributeError"
  | .assertionError => "AssertionError"
  | .integrityError => "IntegrityError"
  | .cancelledError => "CancelledError"
  | .other name => name

/-- A raised exception: its class, `str(exc)`, and its `code` or `status_code`
    attribute when that is an integer. -/
structure PyExc where
  cls : ExcClass
  message : String
  status : Option Int
  deriving DecidableEq

/-- An exception raised by the program itself, which carries no status. -/
def PyExc.mk' (cls : ExcClass) (message : String) : PyExc := ⟨cls, message, none⟩

/-- What `except Exception` catches: everything but the cancellation of the task. -/
def PyExc.isException (exc : PyExc) : Bool := exc.cls ≠ .cancelledError

/-- A Python call: it returns a value or raises. -/
abbrev Raises (α : Type) : Type := Except PyExc α

/-- A sequence of calls returns when each of them does. -/
theorem bind_eq_ok {α β : Type} {result : Raises α} {next : α → Raises β} {b : β} :
    result >>= next = .ok b ↔ ∃ a, result = .ok a ∧ next a = .ok b := by
  cases result with
  | error exc => simp [bind, Except.bind]
  | ok a => simp [bind, Except.bind]

theorem pure_eq_ok {α : Type} {a b : α} : (pure a : Raises α) = .ok b ↔ a = b := by
  simp [pure, Except.pure]

/-- A call that is seen to return, by a value of its result. -/
theorem eq_ok_of_toOption_map {α β : Type} {result : Raises α} {f : α → β} {b : β} (mapped : result.toOption.map f = some b) :
    ∃ a, result = .ok a ∧ f a = b := by
  cases result with
  | error exc => cases mapped
  | ok a => exact ⟨a, rfl, Option.some.inj mapped⟩

/-- `isinstance(status, int) and 500 <= status < 600`. -/
def PyExc.transient (exc : PyExc) : Bool :=
  match exc.status with
  | some status => decide (500 ≤ status ∧ status < 600)
  | none => false

/-- The characters that `str.strip` removes. -/
def isSpace (c : Char) : Bool :=
  let n := c.toNat
  (9 ≤ n && n ≤ 13) || (28 ≤ n && n ≤ 32) || n = 0x85 || n = 0xa0 || n = 0x1680 ||
    (0x2000 ≤ n && n ≤ 0x200a) || n = 0x2028 || n = 0x2029 || n = 0x202f || n = 0x205f || n = 0x3000

/-- `s.strip()`. -/
def strip (s : String) : String :=
  String.ofList ((s.toList.dropWhile isSpace).reverse.dropWhile isSpace).reverse

/-- `s[:n]`. -/
def sliceTo (n : Nat) (s : String) : String := String.ofList (s.toList.take n)

theorem sliceTo_of_length_le {n : Nat} {s : String} (short : s.length ≤ n) : sliceTo n s = s := by
  have whole : s.toList.take n = s.toList := List.take_of_length_le (by simpa [String.length_toList] using short)
  simp [sliceTo, whole]

/-- The upper-case ASCII letters. -/
def isUpper (c : Char) : Bool := 65 ≤ c.toNat && c.toNat ≤ 90

/-- `[A-Z0-9]`. -/
def isUpperOrDigit (c : Char) : Bool := isUpper c || (48 ≤ c.toNat && c.toNat ≤ 57)

/-- Two of `[A-Z]` and three of `[A-Z0-9]`. -/
def unlocodeChars (a b c d e : Char) : Bool :=
  isUpper a && isUpper b && isUpperOrDigit c && isUpperOrDigit d && isUpperOrDigit e

/-- `re.compile(r"^[A-Z]{2}[A-Z0-9]{3}$").match(s)`: the `$` of Python's `re` also
    holds before a newline that ends the string. -/
def unlocodeMatch (s : String) : Bool :=
  match s.toList with
  | [a, b, c, d, e] => unlocodeChars a b c d e
  | [a, b, c, d, e, '\n'] => unlocodeChars a b c d e
  | _ => false

/-- The pattern of `PortCode.code` with its length bounds: exactly five characters. -/
def unlocodeExact (s : String) : Bool :=
  match s.toList with
  | [a, b, c, d, e] => unlocodeChars a b c d e
  | _ => false

theorem unlocodeMatch_of_exact {s : String} (exact : unlocodeExact s = true) : unlocodeMatch s = true := by
  unfold unlocodeExact at exact
  split at exact
  · next five => simpa [unlocodeMatch, five] using exact
  · exact absurd exact (by simp)

theorem length_of_exact {s : String} (exact : unlocodeExact s = true) : s.length = 5 := by
  unfold unlocodeExact at exact
  split at exact
  · next five => rw [← String.length_toList, five]; rfl
  · exact absurd exact (by simp)

/-- What `repr` keeps of the characters of a string. -/
def isPrintable (c : Char) : Bool := Unicode.printable c.toNat

/-- The last `width` hexadecimal digits of `n`, in lower case. -/
def hex : Nat → Nat → List Char
  | 0, _ => []
  | width + 1, n => hex width (n / 16) ++ ["0123456789abcdef".toList.getD (n % 16) '0']

/-- One character of a string inside `repr`, whose delimiter is `quote`. -/
def reprChar (quote c : Char) : List Char :=
  if c = quote || c = '\\' then ['\\', c]
  else if c = '\t' then ['\\', 't']
  else if c = '\n' then ['\\', 'n']
  else if c = '\r' then ['\\', 'r']
  else if isPrintable c then [c]
  else if c.toNat < 0x100 then '\\' :: 'x' :: hex 2 c.toNat
  else if c.toNat < 0x10000 then '\\' :: 'u' :: hex 4 c.toNat
  else '\\' :: 'U' :: hex 8 c.toNat

/-- `repr(s)`. -/
def strRepr (s : String) : String :=
  let quote := if '\'' ∈ s.toList ∧ '"' ∉ s.toList then '"' else '\''
  String.ofList (quote :: s.toList.flatMap (reprChar quote) ++ [quote])

/-- `"[" + ", ".join(items) + "]"`, the `repr` of a list of items already rendered. -/
def listRepr (items : List String) : String := "[" ++ ", ".intercalate items ++ "]"

/-- `sorted` on strings: by code points, as Python compares them. -/
def sortStrings (items : List String) : List String := items.insertionSort (· ≤ ·)

/-- `PurePosixPath(path).name`. -/
def pathName (path : String) : String :=
  String.ofList (((path.toList.splitOn '/').filter (fun part => part ≠ [] ∧ part ≠ ['.'])).getLast?.getD [])

/-- The place of the dot that starts the suffix of a name. -/
def suffixDot (name : String) : Option Nat :=
  let last := (name.toList.zipIdx.filter (fun entry => entry.1 = '.')).getLast?
  (last.map Prod.snd).filter (fun i => 0 < i ∧ i < name.length - 1)

/-- `PurePosixPath(path).suffix`. -/
def pathSuffix (path : String) : String :=
  let name := pathName path
  (suffixDot name).elim "" (fun i => String.ofList (name.toList.drop i))

/-- `PurePosixPath(path).stem`. -/
def pathStem (path : String) : String :=
  let name := pathName path
  (suffixDot name).elim name (fun i => sliceTo i name)

/-- A finite `decimal.Decimal`: sign, coefficient and exponent. -/
structure Decimal where
  negative : Bool
  coefficient : Nat
  exponent : Int
  deriving DecidableEq

/-- The number that a decimal denotes. -/
def Decimal.toRat (d : Decimal) : ℚ :=
  let magnitude : ℚ :=
    if 0 ≤ d.exponent then ((d.coefficient * 10 ^ d.exponent.toNat : Nat) : ℚ)
    else mkRat d.coefficient (10 ^ (-d.exponent).toNat)
  if d.negative then -magnitude else magnitude

/-- `Decimal(n)`. -/
def Decimal.ofNat (n : Nat) : Decimal := ⟨false, n, 0⟩

/-- The decimal `n / 1000`, written with three places. -/
def Decimal.thousandths (n : Nat) : Decimal := ⟨false, n, -3⟩

/-- `str(d)`: positional notation while the exponent is at most zero and the
    adjusted exponent at least -6, scientific notation otherwise. -/
def Decimal.str (d : Decimal) : String :=
  let digits := (Nat.repr d.coefficient).toList
  let leftDigits : Int := d.exponent + digits.length
  let dotPlace : Int := if d.exponent ≤ 0 ∧ -6 < leftDigits then leftDigits else 1
  let body : List Char :=
    if dotPlace ≤ 0 then '0' :: '.' :: List.replicate (-dotPlace).toNat '0' ++ digits
    else if digits.length ≤ dotPlace.toNat then digits ++ List.replicate (dotPlace.toNat - digits.length) '0'
    else digits.take dotPlace.toNat ++ '.' :: digits.drop dotPlace.toNat
  let scientific : String :=
    if leftDigits = dotPlace then ""
    else if 0 ≤ leftDigits - dotPlace then "E+" ++ Nat.repr (leftDigits - dotPlace).toNat
    else "E-" ++ Nat.repr (dotPlace - leftDigits).toNat
  (if d.negative then "-" else "") ++ String.ofList body ++ scientific

/-- A `datetime.date`. -/
structure Date where
  year : Nat
  month : Nat
  day : Nat
  deriving DecidableEq

/-- `a < b` on dates. -/
def Date.before (a b : Date) : Bool :=
  a.year < b.year || (a.year = b.year && (a.month < b.month || (a.month = b.month && a.day < b.day)))

private def pad (width : Nat) (n : Nat) : String :=
  let digits := Nat.repr n
  String.ofList (List.replicate (width - digits.length) '0') ++ digits

/-- `d.isoformat()`. -/
def Date.isoformat (d : Date) : String := pad 4 d.year ++ "-" ++ pad 2 d.month ++ "-" ++ pad 2 d.day

private theorem pad_length {width n : Nat} (some : 0 < width) (fits : n < 10 ^ width) : (pad width n).length = width := by
  have short : (Nat.repr n).length ≤ width := by
    rw [← String.length_toList, Nat.toList_repr]
    exact (Nat.length_toDigits_le_iff (by decide) some).mpr fits
  unfold pad
  rw [String.length_append, String.length_ofList, List.length_replicate]
  omega

/-- A year of at most four digits, a month and a day of at most two. -/
theorem Date.isoformat_length {d : Date} (year : d.year ≤ 9999) (month : d.month ≤ 12) (day : d.day ≤ 31) :
    d.isoformat.length = 10 := by
  have y : (pad 4 d.year).length = 4 := pad_length (by decide) (by omega)
  have m : (pad 2 d.month).length = 2 := pad_length (by decide) (by omega)
  have d : (pad 2 d.day).length = 2 := pad_length (by decide) (by omega)
  unfold Date.isoformat
  simp only [String.length_append, y, m, d]
  rfl

/-- `repr(d)`. -/
def Date.repr (d : Date) : String :=
  "datetime.date(" ++ Nat.repr d.year ++ ", " ++ Nat.repr d.month ++ ", " ++ Nat.repr d.day ++ ")"

/-- The number of days of a month. -/
def daysInMonth (year month : Nat) : Nat :=
  if month = 2 then
    if year % 4 = 0 ∧ (year % 100 ≠ 0 ∨ year % 400 = 0) then 29 else 28
  else if month = 4 ∨ month = 6 ∨ month = 9 ∨ month = 11 then 30
  else 31

/-- `d + timedelta(days=1)`. -/
def Date.tomorrow (d : Date) : Date :=
  if d.day < daysInMonth d.year d.month then { d with day := d.day + 1 }
  else if d.month < 12 then ⟨d.year, d.month + 1, 1⟩
  else ⟨d.year + 1, 1, 1⟩

/-- `d - timedelta(days=1)`. -/
def Date.yesterday (d : Date) : Date :=
  if 1 < d.day then { d with day := d.day - 1 }
  else if 1 < d.month then ⟨d.year, d.month - 1, daysInMonth d.year (d.month - 1)⟩
  else ⟨d.year - 1, 12, 31⟩

/-- A `datetime` in UTC: its date, and the microseconds of the day. -/
structure DateTime where
  date : Date
  micros : Nat
  deriving DecidableEq

/-- `t < u`. -/
def DateTime.before (t u : DateTime) : Bool := t.date.before u.date || (t.date = u.date && t.micros < u.micros)

/-- `t - timedelta(days=days)`, unless it leaves the years of a `datetime`. -/
def DateTime.minusDays (t : DateTime) (days : Int) : Option DateTime :=
  let date := match days with
    | .ofNat n => Date.yesterday^[n] t.date
    | .negSucc n => Date.tomorrow^[n + 1] t.date
  if 1 ≤ date.year ∧ date.year ≤ 9999 then some ⟨date, t.micros⟩ else none

/-- `t.isoformat()`, of a time in UTC. -/
def DateTime.isoformat (t : DateTime) : String :=
  let seconds := t.micros / 1000000
  let fraction := t.micros % 1000000
  t.date.isoformat ++ "T" ++ pad 2 (seconds / 3600) ++ ":" ++ pad 2 (seconds / 60 % 60) ++ ":" ++
    pad 2 (seconds % 60) ++ (if fraction = 0 then "" else "." ++ pad 6 fraction) ++ "+00:00"

end Onramp.Python
