import Onramp.Python
import Onramp.Library.Keyed

/-!
JSON values as Python sees them after `json.loads`, with the operations that the
code applies to values it has not validated yet, and the parts of the platform
that are not under the code: Unicode case mapping, the JSON text format, SHA-256 and
the coercions of the schema library.
-/
namespace Onramp.Values
open Onramp.Python
open Onramp.Library.Keyed (find)

/-- A value that `json.loads` returns. A float carries its `repr`; the members of an
    object have distinct names. -/
inductive Json
  | null
  | bool (b : Bool)
  | int (n : Int)
  | float (text : String)
  | str (s : String)
  | arr (items : List Json)
  | obj (members : List (String × Json))

/-- `bool(value)`. -/
def Json.truthy : Json → Bool
  | .null => false
  | .bool b => b
  | .int n => n ≠ 0
  | .float text => text ≠ "0.0" && text ≠ "-0.0"
  | .str s => s ≠ ""
  | .arr items => !items.isEmpty
  | .obj members => !members.isEmpty

/-- `type(value).__name__`. -/
def Json.typeName : Json → String
  | .null => "NoneType"
  | .bool _ => "bool"
  | .int _ => "int"
  | .float _ => "float"
  | .str _ => "str"
  | .arr _ => "list"
  | .obj _ => "dict"

mutual
/-- `repr(value)`. -/
def Json.repr : Json → String
  | .null => "None"
  | .bool b => if b then "True" else "False"
  | .int n => Int.repr n
  | .float text => text
  | .str s => strRepr s
  | .arr items => listRepr (Json.reprItems items)
  | .obj members => "\x7b" ++ ", ".intercalate (Json.reprMembers members) ++ "\x7d"

/-- `repr` of each item. -/
def Json.reprItems : List Json → List String
  | [] => []
  | item :: rest => item.repr :: Json.reprItems rest

/-- `key: value` of each member. -/
def Json.reprMembers : List (String × Json) → List String
  | [] => []
  | (name, value) :: rest => (strRepr name ++ ": " ++ value.repr) :: Json.reprMembers rest
end

/-- `str(value)`. -/
def Json.toStr : Json → String
  | .str s => s
  | value => value.repr

/-- `value.get(name)`, with `None` for a missing member. -/
def Json.get (value : Json) (name : String) : Raises Json :=
  match value with
  | .obj members => .ok ((find name members).getD .null)
  | other => .error (PyExc.mk' .attributeError s!"'{other.typeName}' object has no attribute 'get'")

/-- `value.get(name, "")`. -/
def Json.getOrEmpty (value : Json) (name : String) : Raises Json :=
  match value with
  | .obj members => .ok ((find name members).getD (.str ""))
  | other => .error (PyExc.mk' .attributeError s!"'{other.typeName}' object has no attribute 'get'")

/-- `for item in value`: the items of a list, the names of an object, the characters of
    a string. -/
def Json.iterate : Json → Raises (List Json)
  | .arr items => .ok items
  | .obj members => .ok (members.map (fun member => .str member.1))
  | .str s => .ok (s.toList.map (fun c => .str (String.ofList [c])))
  | other => .error (PyExc.mk' .typeError s!"'{other.typeName}' object is not iterable")

/-- `value.setdefault(name, default)`. -/
def Json.setdefault (value : Json) (name : String) (default : Json) : Raises Json :=
  match value with
  | .obj members =>
    .ok (.obj (if (find name members).isSome then members else members ++ [(name, default)]))
  | other => .error (PyExc.mk' .attributeError s!"'{other.typeName}' object has no attribute 'setdefault'")

@[simp] theorem Json.get_obj (members : List (String × Json)) (name : String) :
    (Json.obj members).get name = .ok ((find name members).getD .null) := rfl

/-- The characters of the string are ASCII. -/
def Ascii (s : String) : Prop := ∀ c ∈ s.toList, c.toNat < 128

/-- What the code takes from the platform and its libraries, with what it relies on. -/
structure Platform where
  /-- `s.upper()` -/
  upper : String → String
  upper_ascii : ∀ s, Ascii s → upper s = String.ofList (s.toList.map Char.toUpper)
  /-- `s.lower()` -/
  lower : String → String
  lower_ascii : ∀ s, Ascii s → lower s = String.ofList (s.toList.map Char.toLower)
  /-- `c.isdecimal()`, the characters that `\d` matches -/
  isDigit : Char → Bool
  isDigit_ascii : ∀ c : Char, c.toNat < 128 → isDigit c = c.isDigit
  /-- `json.loads(text)` -/
  jsonLoads : String → Raises Json
  /-- `json.dumps(value)` -/
  jsonDumps : Json → String
  /-- compact JSON text, as `orjson.dumps` and `model_dump_json` write it -/
  compactJson : Json → String
  /-- `hashlib.sha256(text.encode("utf-8")).hexdigest()` -/
  sha256 : String → String
  sha256_length : ∀ text, (sha256 text).length = 64
  /-- the number a `Decimal` field takes a value for -/
  asDecimal : Json → Option Decimal
  /-- the number an `int` field takes a value for -/
  asInt : Json → Option Int
  asInt_int : ∀ n, asInt (.int n) = some n
  /-- the date a `date` field takes a value for -/
  asDate : Json → Option Date
  /-- `Decimal(text)`: nothing when it raises, and no number for NaN and the infinities -/
  decimalOfText : String → Option (Option Decimal)
  /-- `date.fromisoformat(text)`, nothing when it raises -/
  dateFromIsoformat : String → Option Date
  /-- `datetime.strptime(text, "%Y%m%d").date()`, nothing when it raises -/
  strptimeYmd : String → Option Date
  /-- `exc.error_count()` of the validation of a response body -/
  errorCount : Json → Nat

mutual
/-- The JSON text of a value whose strings need no escapes, with this separator after a
    comma and a colon. -/
def Json.render (gap : String) : Json → String
  | .null => "null"
  | .bool b => if b then "true" else "false"
  | .int n => Int.repr n
  | .float text => text
  | .str s => "\"" ++ s ++ "\""
  | .arr items => "[" ++ ("," ++ gap).intercalate (Json.renderItems gap items) ++ "]"
  | .obj members => "\x7b" ++ ("," ++ gap).intercalate (Json.renderMembers gap members) ++ "\x7d"

def Json.renderItems (gap : String) : List Json → List String
  | [] => []
  | item :: rest => item.render gap :: Json.renderItems gap rest

def Json.renderMembers (gap : String) : List (String × Json) → List String
  | [] => []
  | (name, value) :: rest => ("\"" ++ name ++ "\":" ++ gap ++ value.render gap) :: Json.renderMembers gap rest
end

/-- The number that decimal digits denote. -/
def digitsValue (digits : List Char) : Option Nat :=
  if digits ≠ [] ∧ digits.all Char.isDigit then some (digits.foldl (fun n c => 10 * n + (c.toNat - 48)) 0) else none

/-- The date in a text of the form `YYYY-MM-DD`. -/
def isoDate (s : String) : Option Date :=
  match s.toList with
  | [y1, y2, y3, y4, '-', m1, m2, '-', d1, d2] => do
    let year ← digitsValue [y1, y2, y3, y4]
    let month ← digitsValue [m1, m2]
    let day ← digitsValue [d1, d2]
    if 1 ≤ year ∧ 1 ≤ month ∧ month ≤ 12 ∧ 1 ≤ day ∧ day ≤ daysInMonth year month then some ⟨year, month, day⟩ else none
  | _ => none

/-- The date in a text of the form `YYYYMMDD`. -/
def compactDate (s : String) : Option Date :=
  match s.toList with
  | [y1, y2, y3, y4, m1, m2, d1, d2] => isoDate (String.ofList [y1, y2, y3, y4, '-', m1, m2, '-', d1, d2])
  | _ => none

/-- The whole number that a text of digits denotes. -/
def wholeDecimal (s : String) : Option Decimal := (digitsValue s.toList).map Decimal.ofNat

/-- A digest of SHA-256. -/
def sampleDigest : String := "edd67da588ba5a76420ad4828fea3de7100a969d9f1a4b8089d9ddeae33e74cf"

theorem sampleDigest_length : sampleDigest.length = 64 := by decide

/-- A platform on which every text is ASCII, every decimal is whole, and exactly the given
    JSON texts are read. The digest of a text is given too. -/
def asciiPlatform (texts : List (String × Json)) (digest : String) (long : digest.length = 64) : Platform where
  upper s := String.ofList (s.toList.map Char.toUpper)
  upper_ascii _ _ := rfl
  lower s := String.ofList (s.toList.map Char.toLower)
  lower_ascii _ _ := rfl
  isDigit := Char.isDigit
  isDigit_ascii _ _ := rfl
  jsonLoads text :=
    match find text texts with
    | some value => .ok value
    | none => .error (PyExc.mk' .jsonDecodeError "Expecting value: line 1 column 1 (char 0)")
  jsonDumps := Json.render " "
  compactJson := Json.render ""
  sha256 _ := digest
  sha256_length _ := long
  asDecimal
    | .int n => if 0 ≤ n then some (Decimal.ofNat n.toNat) else some { Decimal.ofNat n.natAbs with negative := true }
    | .str s => wholeDecimal s
    | _ => none
  asInt
    | .int n => some n
    | _ => none
  asInt_int _ := rfl
  asDate
    | .str s => isoDate s
    | _ => none
  decimalOfText s := (wholeDecimal s).map some
  dateFromIsoformat := isoDate
  strptimeYmd := compactDate
  errorCount _ := 1

end Onramp.Values
