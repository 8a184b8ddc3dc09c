import TableFlow.Integer
import TableFlow.Text.Case
import TableFlow.Violation

namespace TableFlow

attribute [local instance (10000)] instPowNat

-- A column and a row, counted from zero. Where a coordinate is missing the last one is meant.
structure CellIndex where
  column : Option UInt64
  row : Option UInt64
deriving DecidableEq

namespace CellIndex

-- The letters of a positive number in base 26 with the digits `A` to `Z` worth 1 to 26.
def letters (n : Nat) : List Char :=
  if _h : n = 0 then [] else letters ((n - 1) / 26) ++ [Char.ofNat ('A'.toNat + (n - 1) % 26)]
termination_by n
decreasing_by omega

-- The word that an operation gives, if its result is one.
def checked (op : WordOp) (n : Nat) : Except Violation UInt64 :=
  if n < 2 ^ (64 : Nat) then .ok (UInt64.ofNat n) else .error (.overflow op)

-- The number of some letters and one more, given the number of those in front.
def addLetter (n : UInt64) (c : Char) : Except Violation UInt64 := do
  let shifted ← checked .multiply (n.toNat * 26)
  checked .add (shifted.toNat + (c.toNat - 'A'.toNat + 1))

-- The column with the given letters. Their number starts at one and has to be a word in every step.
def columnOfLetters (letters : List Char) : Except Violation UInt64 := do
  let n ← letters.foldlM addLetter 0
  if n = 0 then .error (.overflow .subtract) else return n - 1

-- The row with the given number, which starts at one and has to be a word.
def rowOfDigits? (digits : List Char) : Option UInt64 :=
  let n := Integer.ofDigits digits
  if 0 < n ∧ n < 2 ^ (64 : Nat) then some (UInt64.ofNat (n - 1)) else none

def isLetter (c : Char) : Bool := decide ('A' ≤ c ∧ c ≤ 'Z')

-- Why a text is not read as a cell.
inductive Fault where
  | malformed (text : String)
  | violation (violation : Violation)
deriving DecidableEq

-- The asterisk or the letters that a text starts with, and the rest of it.
def splitColumn : List Char → List Char × List Char
  | '*' :: rest => (['*'], rest)
  | text => (text.takeWhile isLetter, text.dropWhile isLetter)

def isRow (text : List Char) : Bool := text = ['*'] || (text ≠ [] && text.all Char.isDigit)

def readColumn (text : List Char) : Except Violation (Option UInt64) :=
  if text = ['*'] then return none else some <$> columnOfLetters text

def readRow? (text : List Char) : Option (Option UInt64) :=
  if text = ['*'] then some none else (rowOfDigits? text).map some

-- Reads a column and a row. The number of the column is computed before the one of the row, and
-- neither unless the whole text has the form of a cell.
def ofChars (text : List Char) : Except Fault CellIndex :=
  let (column, row) := splitColumn text
  if column ≠ [] ∧ isRow row then
    match readColumn column, readRow? row with
    | .error violation, _ => .error (.violation violation)
    | .ok column, some row => .ok ⟨column, row⟩
    | .ok _, none => .error (.malformed (String.ofList text))
  else .error (.malformed (String.ofList text))

def columnText : Option UInt64 → String
  | some column => String.ofList (letters (column + 1).toNat)
  | none => "*"

def rowText : Option UInt64 → String
  | some row => toString (row + 1).toNat
  | none => "*"

def text (i : CellIndex) : String := columnText i.column ++ rowText i.row

-- The column and the row meant in a sheet with the given last ones.
def bind (i : CellIndex) (lastColumn lastRow : Nat) : Nat × Nat :=
  (i.column.elim lastColumn UInt64.toNat, i.row.elim lastRow UInt64.toNat)

end CellIndex

-- All cells between two corners, which belong to it.
structure CellRange where
  start : CellIndex
  stop : CellIndex
deriving DecidableEq

namespace CellRange

-- The part of a text in front of the first colon and the part behind it.
def splitColon (text : List Char) : List Char × Option (List Char) :=
  match text.dropWhile (· != ':') with
  | _ :: rest => (text.takeWhile (· != ':'), some rest)
  | [] => (text, none)

-- Reads one or two corners with white space around them.
def parse (text : String) : Except CellIndex.Fault CellRange := do
  match splitColon (Text.trim text.toList) with
  | (start, some stop) => return ⟨← CellIndex.ofChars start, ← CellIndex.ofChars stop⟩
  | (cell, none) =>
    let cell ← CellIndex.ofChars cell
    return ⟨cell, cell⟩

-- Writes the corners; a range of one cell is written as that cell.
def text (r : CellRange) : String :=
  if r.start = r.stop then r.start.text else r.start.text ++ ":" ++ r.stop.text

-- Whether a cell belongs to the range in a sheet with the given last column and row.
def contains (r : CellRange) (column row lastColumn lastRow : Nat) : Bool :=
  let (startColumn, startRow) := r.start.bind lastColumn lastRow
  let (stopColumn, stopRow) := r.stop.bind lastColumn lastRow
  decide (startColumn ≤ column ∧ column ≤ stopColumn) && decide (startRow ≤ row ∧ row ≤ stopRow)

end CellRange

end TableFlow
