import TableFlow.Decimal.Arithmetic
import TableFlow.Series.Basic

namespace TableFlow

attribute [local instance (10000)] instPowNat

namespace Date

-- Days from the first of March of year zero to the first day of a month, where the year is taken
-- to start in March.
def daysBefore (year : Int) (month : Nat) : Int :=
  365 * year + year / 4 - year / 100 + year / 400 + ((153 * month + 2) / 5 : Nat)

-- Days from the first of January 1970.
def ofCivil (year : Int) (month day : Nat) : Int :=
  let (y, m) := if month ≤ 2 then (year - 1, month + 9) else (year, month - 3)
  daysBefore y m + day - 1 - 719468

-- Year, month and day of a day count.
def toCivil (days : Int) : Int × Nat × Nat :=
  let z := days + 719468
  let era := z / 146097
  let doe := (z % 146097).toNat
  let yoe := (doe - doe / 1460 + doe / 36524 - doe / 146096) / 365
  let doy := doe - (365 * yoe + yoe / 4 - yoe / 100)
  let m := (5 * doy + 2) / 153
  let day := doy - (153 * m + 2) / 5 + 1
  let month := if m < 10 then m + 3 else m - 9
  (yoe + era * 400 + (if month ≤ 2 then 1 else 0), month, day)

def padded (width n : Nat) : String :=
  let digits := toString n
  "".pushn '0' (width - digits.length) ++ digits

def text (days : Int) : String :=
  let (year, month, day) := toCivil days
  let year := if 0 ≤ year ∧ year ≤ 9999 then padded 4 year.toNat
    else (if year < 0 then "-" else "+") ++ padded 4 year.natAbs
  year ++ "-" ++ padded 2 month ++ "-" ++ padded 2 day

def ofDigits? (year month day : List Char) : Option Int :=
  let all := year ++ month ++ day
  let y : Int := Integer.ofDigits year
  let m := Integer.ofDigits month
  let d := Integer.ofDigits day
  let days := ofCivil y m d
  if year.length = 4 ∧ all.all Char.isDigit ∧ 1 ≤ m ∧ m ≤ 12 ∧ toCivil days = (y, m, d) then
    some days
  else none

-- Reads year, month and day, with hyphens between them or eight digits without.
def ofText? (text : String) : Option Int :=
  match (text.splitOn "-").map String.toList with
  | [year, month, day] =>
    if 1 ≤ month.length ∧ month.length ≤ 2 ∧ 1 ≤ day.length ∧ day.length ≤ 2 then
      ofDigits? year month day
    else none
  | [digits] =>
    if digits.length = 8 then
      ofDigits? (digits.take 4) ((digits.drop 4).take 2) (digits.drop 6)
    else none
  | _ => none

end Date

namespace Decimal

-- The number of single precision nearest to an integer.
def singleOfInt (n : Int) : Decimal :=
  if n = 0 then zero false
  else
    let (m, e) := nearest single n.natAbs 1
    ofScaled (n < 0) m e

end Decimal

namespace DataType

-- The least and the greatest number of an integer type.
def range? : DataType → Option (Int × Int)
  | .int8 => some (-2 ^ (7 : Nat), 2 ^ (7 : Nat) - 1)
  | .int16 => some (-2 ^ (15 : Nat), 2 ^ (15 : Nat) - 1)
  | .int32 => some (-2 ^ (31 : Nat), 2 ^ (31 : Nat) - 1)
  | .int64 => some (-2 ^ (63 : Nat), 2 ^ (63 : Nat) - 1)
  | .uint8 => some (0, 2 ^ (8 : Nat) - 1)
  | .uint16 => some (0, 2 ^ (16 : Nat) - 1)
  | .uint32 => some (0, 2 ^ (32 : Nat) - 1)
  | .uint64 => some (0, 2 ^ (64 : Nat) - 1)
  | _ => none

-- The number of bytes of an integer type.
def width? : DataType → Option Nat
  | .int8 | .uint8 => some 1
  | .int16 | .uint16 => some 2
  | .int32 | .uint32 => some 4
  | .int64 | .uint64 => some 8
  | _ => none

-- A number on its way from one numeric type to another.
inductive Number where
  | whole (n : Int)
  | decimal (d : Decimal)

-- How the cells of a numeric type are read.
def number? : (t : DataType) → Option (t.Cell → Number)
  | .int64 => some fun n => .whole n.toInt
  | .int8 | .int16 | .int32 | .uint8 | .uint16 | .uint32 | .uint64 => some fun (n : Int) => .whole n
  | .float32 | .float64 => some fun (d : Decimal) => .decimal d
  | _ => none

-- The whole number that is left when a fraction is cut off, if it lies in a range.
def Number.toInt? (n : Number) (range : Int × Int) : Option Int :=
  let whole := match n with
    | .whole n => some n
    | .decimal d => d.truncate?
  whole.filter fun n => decide (range.1 ≤ n ∧ n ≤ range.2)

-- How the cells of a numeric type are made.
def ofNumber? : (t : DataType) → Option (Number → Option t.Cell)
  | .int64 => some fun n => (n.toInt? (-2 ^ (63 : Nat), 2 ^ (63 : Nat) - 1)).bind Integer.ofInt?
  | .int8 => some fun n => n.toInt? (-2 ^ (7 : Nat), 2 ^ (7 : Nat) - 1)
  | .int16 => some fun n => n.toInt? (-2 ^ (15 : Nat), 2 ^ (15 : Nat) - 1)
  | .int32 => some fun n => n.toInt? (-2 ^ (31 : Nat), 2 ^ (31 : Nat) - 1)
  | .uint8 => some fun n => n.toInt? (0, 2 ^ (8 : Nat) - 1)
  | .uint16 => some fun n => n.toInt? (0, 2 ^ (16 : Nat) - 1)
  | .uint32 => some fun n => n.toInt? (0, 2 ^ (32 : Nat) - 1)
  | .uint64 => some fun n => n.toInt? (0, 2 ^ (64 : Nat) - 1)
  | .float32 => some fun
    | .whole n => some (Decimal.singleOfInt n)
    | .decimal d => some d.toSingle
  | .float64 => some fun
    | .whole n => some (Decimal.ofInt n)
    | .decimal d => some d
  | _ => none

def Number.isZero : Number → Bool
  | .whole n => n = 0
  | .decimal d => d.isZero

-- The text of a number in a column of text.
def numberText : DataType → Number → String
  | _, .whole n => toString n
  | .float32, .decimal d => d.render Decimal.single .column
  | _, .decimal d => d.render Decimal.double .column

-- Reads a number of the type from a column of text. An integer takes an optional sign.
def readNumber? (t : DataType) (text : String) : Option Number :=
  match t with
  | .float32 | .float64 => (Decimal.parse? text.toList).map .decimal
  | _ =>
    let (negative, digits) := Integer.takeSign text.toList
    if digits ≠ [] ∧ digits.all Char.isDigit then
      some (.whole (Decimal.signed negative (Integer.ofDigits digits)))
    else none

-- Reads one of the words for true and false, without regard to case.
def readTruth? (text : String) : Option Bool :=
  let word := String.ofList (Text.trim (text.toList.map Char.toLower))
  if word ∈ ["t", "tr", "tru", "true", "y", "ye", "yes", "on", "1"] then some true
  else if word ∈ ["f", "fa", "fal", "fals", "false", "n", "no", "of", "off", "0"] then some false
  else none

-- The bytes of a word, least significant first.
def bytes : Nat → Int → List UInt8
  | 0, _ => []
  | width + 1, n => UInt8.ofNat (n % 256).toNat :: bytes width (n / 256)

-- How the cells of a type are read as text.
def text? : (t : DataType) → Option (t.Cell → Option String)
  | .boolean => some fun b => some (toString b)
  | .utf8 | .largeUtf8 => some fun (s : String) => some s
  | .binary => some fun bytes => String.fromUTF8? bytes.toByteArray
  | .date32 => some fun days => some (Date.text days)
  | .null | .other _ => none
  | t => (number? t).map fun read cell => some (numberText t (read cell))

-- How the cells of a type are made from text.
def ofText? : (t : DataType) → Option (String → Option t.Cell)
  | .boolean => some readTruth?
  | .utf8 | .largeUtf8 => some fun (s : String) => some s
  | .binary => some fun s => some s.toUTF8.toList
  | .date32 => some Date.ofText?
  | .null | .other _ => none
  | t => (ofNumber? t).map fun make s => (readNumber? t s).bind make

-- How a cell of the first type becomes a cell of the second, for different types. A cell whose
-- content does not fit becomes null; a pair of types between which there is no conversion is refused.
def convert? (source target : DataType) : Option (source.Cell → Option target.Cell) :=
  match source, target with
  | .other _, _ => none
  | .null, .null => none
  | .null, _ => some nofun
  | _, .other _ => none
  | .boolean, .utf8 => text? .boolean
  | .boolean, .largeUtf8 => text? .boolean
  | .boolean, .binary | .boolean, .date32 | .boolean, .null => none
  | .boolean, t => (ofNumber? t).map fun make b => make (.whole (if b then 1 else 0))
  | .utf8, t => (ofText? t).map fun make (s : String) => make s
  | .largeUtf8, t => (ofText? t).map fun make (s : String) => make s
  | s, .utf8 => text? s
  | s, .largeUtf8 => text? s
  | .date32, .int32 => some fun days => some days
  | .date32, .int64 => some fun days => Integer.ofInt? days
  | .int32, .date32 => some fun n => some n
  | .int64, .date32 => some fun n =>
    Number.toInt? (.whole n.toInt) (-2 ^ (31 : Nat), 2 ^ (31 : Nat) - 1)
  | s, .boolean => (number? s).map fun read cell => some (!(read cell).isZero)
  | s, .binary =>
    match number? s, width? s with
    | some read, some width => some fun cell =>
      match read cell with
      | .whole n => some (bytes width n)
      | .decimal _ => none
    | _, _ => none
  | s, t =>
    match number? s, ofNumber? t with
    | some read, some make => some fun cell => make (read cell)
    | _, _ => none

-- How a cell of one type becomes a cell of another.
def cast? (source target : DataType) : Option (source.Cell → Option target.Cell) :=
  if h : source = target then some fun cell => some (h ▸ cell) else convert? source target

end DataType

-- Converts every cell of a series, or nothing if there is no conversion between the types.
def Series.cast? (s : Series) (target : DataType) : Option Series :=
  (DataType.cast? s.type target).map fun convert => ⟨target, s.cells.map (·.bind convert)⟩

-- A cell as a value; cells of other machine types are converted to the one that holds the values
-- of their value type.
def DataType.cellValue? : (t : DataType) → t.Cell → Option Value
  | .boolean, b => some (.boolean b)
  | .int64, n => some (.integer n)
  | .float64, d => some (.decimal d)
  | .utf8, s => some (.text s)
  | .float32, d => some (.decimal d)
  | .largeUtf8, s => some (.text s)
  | .int8, n | .int16, n | .int32, n | .uint8, n | .uint16, n | .uint32, n =>
    (Integer.ofInt? n).map .integer
  | .uint64, _ | .binary, _ | .date32, _ | .other _, _ => none

-- The value in a place of a series: none behind its end, for a null and for a cell whose machine
-- type has no value type.
def Series.value? (s : Series) (index : Nat) : Option Value :=
  (s.cells[index]?.join).bind s.type.cellValue?

def Series.values (s : Series) : List (Option Value) := s.cells.map (·.bind s.type.cellValue?)

end TableFlow
