import TableFlow.Formula.Eval
import TableFlow.Table.ValueTable

namespace TableFlow

structure FrameColumn where
  name : String
  series : Series

namespace FrameColumn

def ofValues (name : String) (type : ValueType) (values : List (Option Value)) : FrameColumn :=
  ⟨name, .ofValues type values⟩

def length (c : FrameColumn) : Nat := c.series.length

def type (c : FrameColumn) : ValueType := c.series.type.valueType

end FrameColumn

structure Frame where
  columns : List FrameColumn
  rowCount : Nat

namespace Frame

def empty : Frame := ⟨[], 0⟩

-- All columns need the length of the first one.
def ofColumns : List FrameColumn → Except TableError Frame
  | [] => .ok empty
  | first :: others =>
    match others.find? (·.length != first.length) with
    | some c => .error (.columnLength c.name first.length c.length)
    | none => .ok ⟨first :: others, first.length⟩

def ofValueColumns (columns : List ValueColumn) : Except TableError Frame :=
  ofColumns (columns.map fun c => .ofValues c.name c.type (c.values.map some))

-- The first column of that name.
def column? (f : Frame) (name : String) : Option FrameColumn :=
  f.columns.find? (·.name == name)

def series? (f : Frame) (name : String) : Option Series := (f.column? name).map (·.series)

-- Adds a column in the place of the first one of its name, or as the last one. It needs one cell
-- for every row, unless it is the only column.
def addColumn (f : Frame) (c : FrameColumn) : Except TableError Frame :=
  if !isSole FrameColumn.name c f.columns && c.length != f.rowCount then
    .error (.columnLength c.name f.rowCount c.length)
  else ofColumns (place FrameColumn.name c f.columns)

-- Keeps the rows that are marked. Without columns the number of marks that are set becomes the
-- number of rows.
def filter (f : Frame) (marks : List Bool) : Except TableError Frame :=
  if f.columns ≠ [] ∧ f.rowCount < marks.length then
    .error (.maskLength marks.length f.rowCount)
  else
    .ok ⟨f.columns.map fun c => { c with series := c.series.filter marks }, marks.count true⟩

-- Keeps the rows whose mark is true, and not those whose mark is missing.
def filterMarked (f : Frame) (marks : List (Option Bool)) : Except TableError Frame :=
  f.filter (marks.map (· == some true))

-- Drops all rows listed, or none if one of them does not exist.
def dropRows (f : Frame) (rows : List Nat) : Except TableError Frame :=
  match rows.find? (f.rowCount ≤ ·) with
  | some row => .error (.rowOutOfBounds row f.rowCount)
  | none => f.filter ((List.range f.rowCount).map fun row => decide (row ∉ rows))

def cell? (f : Frame) (row column : Nat) : Option Value :=
  f.columns[column]?.bind (·.series.value? row)

-- Evaluates a formula over the columns.
def evaluate (f : Frame) (formula : Formula) : Except FormulaError Formula.Operand :=
  formula.evaluate f.series?

-- A formula as a series with a cell for every row.
def evaluateSeries (f : Frame) (formula : Formula) : Except FormulaError Series := do
  return (← f.evaluate formula).toSeries f.rowCount

end Frame

end TableFlow
