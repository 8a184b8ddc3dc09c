import TableFlow.Table.Basic

namespace TableFlow

inductive SqlType where
  | boolean
  | integer
  | real
  | text
deriving DecidableEq

def SqlType.name : SqlType → String
  | .boolean => "boolean"
  | .integer => "integer"
  | .real => "real"
  | .text => "text"

-- The type of a column, which an atomic type has from its supertype.
def ValueType.sqlType? : ValueType → Option SqlType
  | .primitive .boolean => some .boolean
  | .primitive .integer => some .integer
  | .primitive .decimal => some .real
  | .primitive .text => some .text
  | .primitive _ => none
  | .atomic _ _ supertype _ => supertype.sqlType?
  | .collection _ => none
  | .emptyCollection => none

namespace Sql

def identifier (name : String) : String := "\"" ++ name ++ "\""

-- Text between single quotes, with the quotes in it written twice.
def quoted (text : String) : String :=
  "'" ++ String.ofList (text.toList.flatMap fun c => if c = '\'' then [c, c] else [c]) ++ "'"

-- A value in a column of the type; none if it does not fit.
def literal? : SqlType → Value → Option String
  | .boolean, value => value.boolean?.map fun b => "'" ++ toString b ++ "'"
  | .integer, value | .real, value => if value.isNumeric then some value.render else none
  | .text, value => value.text?.map quoted

def cell (column : String) (type : ValueType) : Option Value → Except TableError String
  | none => .ok "NULL"
  | some value =>
    match type.sqlType?.bind (literal? · value) with
    | some text => .ok text
    | none => .error (.invalidValue column type.name value.render)

def dropTable (name : String) : String := "DROP TABLE IF EXISTS " ++ identifier name ++ ";"

def columnDefinition (column : String × ValueType) : Except TableError String :=
  match column.2.sqlType? with
  | some type => .ok (identifier column.1 ++ " " ++ type.name)
  | none => .error (.noSqlRepresentation column.1 column.2.name)

def createTable (t : Table) (name : String) : Except TableError String := do
  let columns ← t.columnTypes.mapM columnDefinition
  return "CREATE TABLE IF NOT EXISTS " ++ identifier name ++ " (" ++ ",".intercalate columns ++ ");"

-- The cells of a row between parentheses.
def tuple (t : Table) (row : Nat) : Except TableError String := do
  let cells ← t.columnTypes.zipIdx.mapM fun ((column, type), index) =>
    cell column type (t.cell? row index)
  return "(" ++ ",".intercalate cells ++ ")"

def insertValues (t : Table) (name : String) : Except TableError String := do
  let columns := t.columnTypes.map fun column => identifier column.1
  let rows ← (List.range t.rowCount).mapM (tuple t)
  return "INSERT INTO " ++ identifier name ++ " (" ++ ",".intercalate columns ++ ") VALUES " ++
    ", ".intercalate rows

end Sql

end TableFlow
