import TableFlow.Table.Error

namespace TableFlow

structure ValueColumn where
  name : String
  type : ValueType
  values : List Value

namespace ValueColumn

def empty (name : String) (type : ValueType) : ValueColumn := ⟨name, type, []⟩

def length (c : ValueColumn) : Nat := c.values.length

def value? (c : ValueColumn) (index : Nat) : Option Value := c.values[index]?

-- The form in which a column holds a value.
def accept (c : ValueColumn) (value : Value) : Except TableError Value :=
  let value := c.type.normalize value
  if c.type.represents value then .ok value
  else .error (.invalidValue c.name c.type.name value.render)

-- Adds a value at the end.
def push (c : ValueColumn) (value : Value) : Except TableError ValueColumn := do
  return { c with values := c.values ++ [← c.accept value] }

def ofValues (name : String) (type : ValueType) (values : List Value) :
    Except TableError ValueColumn := do
  return ⟨name, type, ← values.mapM (empty name type).accept⟩

def erase (c : ValueColumn) (index : Nat) : ValueColumn :=
  { c with values := c.values.eraseIdx index }

-- Takes out a value; there is none to take out behind the end.
def remove? (c : ValueColumn) (index : Nat) : Option (Value × ValueColumn) :=
  (c.value? index).map fun value => (value, c.erase index)

end ValueColumn

-- Values by column name.
structure Row where
  cells : List (String × Value)

namespace Row

-- The last value given for a name counts.
def ofList (cells : List (String × Value)) : Row :=
  ⟨cells.foldl (fun row cell => place Prod.fst cell row) []⟩

def size (r : Row) : Nat := r.cells.length

def value? (r : Row) (name : String) : Option Value :=
  (r.cells.find? (·.1 == name)).map (·.2)

end Row

structure ValueTable where
  columns : List ValueColumn
  rowCount : Nat

namespace ValueTable

def empty : ValueTable := ⟨[], 0⟩

def column? (t : ValueTable) (name : String) : Option ValueColumn :=
  t.columns.find? (·.name == name)

-- Adds a column in the place of one of its name, or as the last one. It needs one value for every
-- row, unless it is the only column.
def addColumn (t : ValueTable) (c : ValueColumn) : Except TableError ValueTable :=
  if isSole ValueColumn.name c t.columns then
    .ok ⟨place ValueColumn.name c t.columns, c.length⟩
  else if c.length = t.rowCount then
    .ok { t with columns := place ValueColumn.name c t.columns }
  else .error (.columnLength c.name t.rowCount c.length)

def ofColumns (columns : List ValueColumn) : Except TableError ValueTable :=
  columns.foldlM addColumn empty

-- The value of a row for a column, in the form in which the column holds it.
def cellFor (row : Row) (c : ValueColumn) : Except TableError Value :=
  match row.value? c.name with
  | some value => c.accept value
  | none => .error (.missingCell c.name)

-- Adds a row at the end. A table without columns takes no rows and ignores them.
def addRow (t : ValueTable) (row : Row) : Except TableError ValueTable :=
  if t.columns = [] then .ok t
  else if row.size ≠ t.columns.length then
    .error (.rowDimension t.columns.length row.size)
  else do
    let values ← t.columns.mapM (cellFor row)
    return ⟨List.zipWith (fun c v => { c with values := c.values ++ [v] }) t.columns values,
      t.rowCount + 1⟩

def dropRow (t : ValueTable) (row : Nat) : Except TableError ValueTable :=
  if row < t.rowCount then .ok ⟨t.columns.map (·.erase row), t.rowCount - 1⟩
  else .error (.rowOutOfBounds row t.rowCount)

-- Distinct rows, the last one first, so that dropping one does not move those still to be
-- dropped.
def descending (rows : List Nat) : List Nat :=
  (rows.mergeSort fun a b => decide (b ≤ a)).eraseReps

-- Drops all rows listed, or none if one of them does not exist.
def dropRows (t : ValueTable) (rows : List Nat) : Except TableError ValueTable :=
  match descending rows with
  | [] => .ok t
  | highest :: others =>
    if highest < t.rowCount then (highest :: others).foldlM dropRow t
    else .error (.rowOutOfBounds highest t.rowCount)

def row (t : ValueTable) (row : Nat) : Except TableError Row :=
  if row < t.rowCount then
    .ok (.ofList (t.columns.filterMap fun c => (c.value? row).map fun v => (c.name, v)))
  else .error (.rowOutOfBounds row t.rowCount)

def cell? (t : ValueTable) (row column : Nat) : Option Value :=
  t.columns[column]?.bind (·.value? row)

end ValueTable

end TableFlow
