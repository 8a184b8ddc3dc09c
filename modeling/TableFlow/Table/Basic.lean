import TableFlow.Table.Frame

namespace TableFlow

inductive Table where
  | array (table : ValueTable)
  | columnar (frame : Frame)

inductive Column where
  | array (column : ValueColumn)
  | columnar (column : FrameColumn)

namespace Column

def backend : Column → Backend
  | .array _ => .array
  | .columnar _ => .columnar

def name : Column → String
  | .array c => c.name
  | .columnar c => c.name

def type : Column → ValueType
  | .array c => c.type
  | .columnar c => c.type

def values : Column → List (Option Value)
  | .array c => c.values.map some
  | .columnar c => c.series.values

end Column

namespace Table

def empty : Backend → Table
  | .array => .array .empty
  | .columnar => .columnar .empty

-- A table of the backend with the given columns.
def ofColumns (backend : Backend) (columns : List ValueColumn) : Except TableError Table :=
  match backend with
  | .array => (ValueTable.ofColumns columns).map .array
  | .columnar => (Frame.ofValueColumns columns).map .columnar

def backend : Table → Backend
  | .array _ => .array
  | .columnar _ => .columnar

def rowCount : Table → Nat
  | .array t => t.rowCount
  | .columnar f => f.rowCount

def columnCount : Table → Nat
  | .array t => t.columns.length
  | .columnar f => f.columns.length

def columnNames : Table → List String
  | .array t => t.columns.map (·.name)
  | .columnar f => f.columns.map (·.name)

def column? (t : Table) (name : String) : Option Column :=
  match t with
  | .array t => (t.column? name).map .array
  | .columnar f => (f.column? name).map .columnar

def hasColumn (t : Table) (name : String) : Bool := (t.column? name).isSome

-- The type of the first column of that name.
def columnType? (t : Table) (name : String) : Option ValueType := (t.column? name).map (·.type)

-- The columns with their types.
def columnTypes (t : Table) : List (String × ValueType) :=
  t.columnNames.filterMap fun name => (t.columnType? name).map fun type => (name, type)

-- The value in a place, if there is one.
def cell? (t : Table) (row column : Nat) : Option Value :=
  match t with
  | .array t => t.cell? row column
  | .columnar f => f.cell? row column

def row (t : Table) (row : Nat) : List (Option Value) :=
  (List.range t.columnCount).map (t.cell? row)

-- Adds a column of the table's backend.
def addColumn (t : Table) (c : Column) : Except TableError Table :=
  match t, c with
  | .array t, .array c => (t.addColumn c).map .array
  | .columnar f, .columnar c => (f.addColumn c).map .columnar
  | t, c => .error (.backendMismatch t.backend c.backend)

def dropRows (t : Table) (rows : List Nat) : Except TableError Table :=
  match t with
  | .array t => (t.dropRows rows).map .array
  | .columnar f => (f.dropRows rows).map .columnar

end Table

end TableFlow
