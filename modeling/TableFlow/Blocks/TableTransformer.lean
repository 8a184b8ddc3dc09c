import TableFlow.Execution.Transform

namespace TableFlow.TableTransformer

def spec : BlockSpec where
  kind := "TableTransformer"
  input := .table
  output := .table
  properties := [⟨"inputColumns", none⟩, ⟨"outputColumn", none⟩, ⟨"use", none⟩]

-- Every input column has to exist.
def checkInputs (c : Context) (table : Table) (names : List String) : Execution Unit :=
  match names.zipIdx.find? fun name => !table.hasColumn name.1 with
  | none => pure ()
  | some (name, index) =>
    Execution.fail (.block (.unknownInput name)
      { c.propertyAnchor "inputColumns" with index := some index })

-- The type of a column, its name and the type of a port that it cannot be given to.
def misfit? (table : Table) : String × Port → Option (ValueType × String × ValueType)
  | (name, port) =>
    match table.columnType? name with
    | some type => if type.isConvertibleTo port.type then none else some (type, name, port.type)
    | none => none

-- There has to be one input column for each port, of a type that the port takes.
def checkTypes (c : Context) (table : Table) (names : List String) (ports : List Port) :
    Execution Unit :=
  if ports.length ≠ names.length then
    Execution.fail (.block (.inputCount ports.length names.length)
      (c.propertyAnchor "inputColumns"))
  else
    match (names.zip ports).findSome? (misfit? table) with
    | none => pure ()
    | some (type, name, target) =>
      Execution.fail (.block (.notConvertible type.name name target.name) (c.propertyAnchor "use"))

-- What is logged about a column that gets overwritten.
def overwriteLog (c : Context) (table : Table) (name : String) (type : ValueType) :
    List LogEntry :=
  match table.columnType? name with
  | none => []
  | some current =>
    c.logger.info ("Column \"" ++ name ++ "\" will be overwritten") ::
      (if current.same type then []
        else [c.logger.info ("Column \"" ++ name ++ "\" will change its type from " ++
          current.name ++ " to " ++ type.name)])

-- Drops the rows without a value and adds the values of the others as a column.
def assemble (table : Table) (name : String) (type : ValueType) :
    TransformOutput → Except TableError Table
  | .rows results => do
    let table ← table.dropRows (TransformOutput.dropped results)
    let column ← ValueColumn.ofValues name type (TransformOutput.values results)
    table.addColumn (.array column)
  | .columns series keep =>
    match table with
    | .columnar frame => do
      let frame ← frame.filter keep
      Table.addColumn (.columnar frame) (.columnar ⟨name, series.filter keep⟩)
    | table => .error (.backendMismatch table.backend .columnar)

def execute (input : Artifact) (c : Context) : Execution Artifact := do
  match input with
  | .table table =>
    let inputs := (← c.property "inputColumns" (.collection .text)).collection?.getD []
    let names := inputs.filterMap Value.text?
    let name := ((← c.property "outputColumn" .text).text?).getD ""
    checkInputs c table names
    match ← c.property "use" (.primitive .transform) with
    | .transform transform =>
      checkTypes c table names transform.inputs
      let type := (← transform.output).type
      Execution.write (overwriteLog c table name type)
      let output ← transform.execute table names c
      return .table (← Execution.ofTable (assemble table name type output))
    | value => Execution.violate (.invalidResult value.render "use" Primitive.transform.name)
  | input => Execution.fail (.block (.noTable input.kind) c.anchor)

end TableFlow.TableTransformer
