import TableFlow.Execution.Constraint

namespace TableFlow.TableInterpreter

-- A column of the table and the column of the sheet that it is read from.
structure Entry where
  source : Nat
  name : String
  type : ValueType

def Entry.ofAssignment (source : Nat) (a : Assignment) : Entry := ⟨source, a.name, a.type⟩

def assignments : ValueType := .collection (.primitive .assignment)

def spec : BlockSpec where
  kind := "TableInterpreter"
  input := .sheet
  output := .table
  properties := [⟨"header", some (.boolean true)⟩, ⟨"columns", none⟩]

-- Without a header the columns of the sheet are taken in order.
def entriesInOrder (definitions : List Assignment) : List Entry :=
  definitions.zipIdx.map fun (definition, index) => .ofAssignment index definition

-- The column of the sheet that has the name of a definition in the header.
def matchHeader (header : List String) (definition : Assignment) : Option Entry :=
  (header.findIdx? (· == definition.name)).map fun index => .ofAssignment index definition

-- Finds columns by their names in the header and leaves out those that it does not have.
def entriesByHeader (header : List String) (c : Context) (definitions : List Assignment) :
    Execution (List Entry) := do
  Execution.write [c.logger.debug "Matching header with provided column names"]
  Execution.write ((definitions.filter fun definition => (matchHeader header definition).isNone).map
    fun definition => c.logger.debug ("Omitting column \"" ++ definition.name ++
      "\" as the name was not found in the header"))
  return definitions.filterMap (matchHeader header)

-- Reads a text as a valid value of a type.
def read (c : Context) (type : ValueType) (text : String) : Execution (Option Value) := do
  match type.ofText? text with
  | .error violation => Execution.violate violation
  | .ok none => return none
  | .ok (some value) => if ← c.isValid value type then return some value else return none

-- The text of a row for an entry; a row that is too short has empty cells behind its end.
def cellText (row : List String) (entry : Entry) : String := (row[entry.source]?).getD ""

-- Reads one cell of a row and logs it if it is not valid.
def readCell (c : Context) (row : List String) (index : Nat) (entry : Entry) :
    Execution (Option Value) := do
  let text := cellText row entry
  match ← read c entry.type text with
  | some value => return some value
  | none =>
    let cell : CellIndex := ⟨some (UInt64.ofNat entry.source), some (UInt64.ofNat index)⟩
    Execution.write [c.logger.debug ("Invalid value at cell " ++ cell.text ++ ": \"" ++ text ++
      "\" does not match the type " ++ entry.type.name)]
    return none

-- The values of a row, if all of them are valid. Every cell is read in any case.
def readRow (c : Context) (entries : List Entry) (row : List String) (index : Nat) :
    Execution (Option (List Value)) := do
  let cells ← entries.mapM (readCell c row index)
  match cells.mapM id with
  | some values => return some values
  | none =>
    Execution.write [c.logger.debug ("Omitting row " ++ toString (index + 1))]
    return none

-- Adds one value to each column.
def pushRow (columns : List ValueColumn) (values : List Value) :
    Except TableError (List ValueColumn) :=
  (columns.zip values).mapM fun (column, value) => column.push value

-- The rows of a sheet below its header, with their positions in the sheet.
def dataRows (sheet : Sheet) (header : Bool) : List (List String × Nat) :=
  if header then sheet.rows.zipIdx.tail else sheet.rows.zipIdx

def readTable (c : Context) (sheet : Sheet) (header : Bool) (entries : List Entry) :
    Execution Table := do
  let rows ← (dataRows sheet header).mapM fun (row, index) => readRow c entries row index
  let columns := entries.map fun entry => ValueColumn.empty entry.name entry.type
  let columns ← Execution.ofTable ((rows.filterMap id).foldlM pushRow columns)
  Execution.ofTable (Table.ofColumns c.settings.backend columns)

-- The entries for the definitions, by the header or in order.
def entries (c : Context) (sheet : Sheet) (header : Bool) (definitions : List Assignment) :
    Execution (List Entry) :=
  if header then
    match sheet.header? with
    | some names => entriesByHeader names c definitions
    | none => Execution.fail (.block .noHeader (c.propertyAnchor "header"))
  else if sheet.columnCount < definitions.length then
    Execution.fail (.block (.tooFewColumns definitions.length sheet.columnCount)
      (c.propertyAnchor "columns"))
  else return entriesInOrder definitions

def execute (input : Artifact) (c : Context) : Execution Artifact := do
  match input with
  | .sheet sheet =>
    let header := ((← c.property "header" .boolean).boolean?).getD true
    let definitions := (← c.property "columns" assignments).collection?.getD []
    let entries ← entries c sheet header (definitions.filterMap Value.assignment?)
    let rows := sheet.rowCount - (if header then 1 else 0)
    Execution.write [c.logger.debug ("Validating " ++ toString rows ++
      " row(s) according to the column types")]
    let table ← readTable c sheet header entries
    Execution.write [c.logger.debug ("Validation completed, the resulting table has " ++
      toString table.rowCount ++ " row(s) and " ++ toString table.columnCount ++ " column(s)")]
    return .table table
  | input => Execution.fail (.block (.noSheet input.kind) c.anchor)

end TableFlow.TableInterpreter
