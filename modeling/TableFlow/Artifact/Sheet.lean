import TableFlow.CellRange

namespace TableFlow

structure Sheet where
  rows : List (List String)
deriving DecidableEq

namespace Sheet

def rowCount (s : Sheet) : Nat := s.rows.length

-- The length of the longest row.
def columnCount (s : Sheet) : Nat := (s.rows.map List.length).foldl max 0

def header? (s : Sheet) : Option (List String) := s.rows.head?

def cell? (s : Sheet) (column row : Nat) : Option String := s.rows[row]?.bind (·[column]?)

-- The cells of a row whose columns pass a test.
def selectCells (inside : Nat → Bool) (row : List String) : List String :=
  (row.zipIdx.filter fun cell => inside cell.2).map (·.1)

-- The cells inside a range. Rows of which nothing is left are left out.
def select (s : Sheet) (range : CellRange) : Sheet :=
  let inside (row column : Nat) :=
    range.contains column row (s.columnCount - 1) (s.rowCount - 1)
  ⟨(s.rows.zipIdx.map fun row => selectCells (inside row.2) row.1).filter (· ≠ [])⟩

end Sheet

end TableFlow
