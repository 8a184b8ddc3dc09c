import TableFlow.Execution.Constraint

namespace TableFlow

inductive TransformOutput where
  -- The value of each row that has a valid one.
  | rows (results : List (Option Value))
  -- A cell for each row, and which rows to keep.
  | columns (series : Series) (keep : List Bool)

namespace TransformOutput

-- The values of the rows that have one.
def values (results : List (Option Value)) : List Value := results.filterMap id

-- The rows that have none.
def dropped (results : List (Option Value)) : List Nat :=
  (results.zipIdx.filter (·.1.isNone)).map (·.2)

end TransformOutput

namespace Transform

variable (t : Transform)

def anchor : Anchor := (Node.transform t).anchor

def output : Execution Port :=
  match t.output? with
  | some port => pure port
  | none => .fail (.block (.noOutput t.name) t.anchor)

-- Finds one column for each name.
def inputColumns {α : Type} (column? : String → Option α) (names : List String) :
    Execution (List α) :=
  names.mapM fun name =>
    match column? name with
    | some column => pure column
    | none => .fail (.table (.unknownColumn name))

-- What the ports stand for in a row.
def rowBindings (ports : List Port) (columns : List ValueColumn) (row : Nat) :
    List (String × Symbolic) :=
  (ports.zip columns).filterMap fun (port, column) =>
    (column.value? row).map fun value => (port.name, .scalar (port.type.normalize value))

-- Evaluates the transform in one row; without a valid value the reason is logged.
def runRow (columns : List ValueColumn) (type : ValueType) (c : Context) (row : Nat) :
    Execution (Option Value) := do
  let scope := Scope.empty.insertAll (rowBindings t.inputs columns row)
  match ← Execution.ofOutcome c.logger (t.value.evaluate .lazy scope) with
  | none =>
    Execution.write [c.logger.debug ("Dropping row " ++ toString (row + 1) ++
      ": Could not evaluate transform expression")]
    return none
  | some value =>
    let value := type.normalize value
    if ← c.isValid value type then return some value
    else
      Execution.write [c.logger.debug ("Invalid value in row " ++ toString (row + 1) ++ ": \"" ++
        value.render ++ "\" does not match the type " ++ type.name)]
      return none

def runRows (table : ValueTable) (names : List String) (type : ValueType) (c : Context) :
    Execution TransformOutput := do
  let columns ← inputColumns table.column? names
  let results ← (List.range table.rowCount).mapM (t.runRow columns type c)
  return .rows results

-- The column that a port stands for, converted if it is not of the port's type.
def columnBinding (port : Port) (column : FrameColumn) : String × Symbolic :=
  let formula := Formula.column column.name
  let type := port.type.dataType
  (port.name, .column (if column.series.type = type then formula else .cast formula type))

-- Evaluates the transform to a series, before it is converted to the type of the output.
def runFormula (frame : Frame) (bindings : List (String × Symbolic)) (target : DataType)
    (c : Context) : Execution Series := do
  let outcome := t.value.evaluateSymbolic .lazy (Scope.empty.insertAll bindings)
  match ← Execution.ofOutcome c.logger outcome with
  | some result =>
    Execution.write [c.logger.debug ("Evaluating " ++ result.formula.render)]
    Execution.ofFormula (frame.evaluateSeries result.formula)
  | none =>
    if Diagnostic.hasCode outcome.diagnostics .unsupported then
      Execution.fail (.block (.evaluation (outcome.diagnostics.map (·.message))) t.anchor)
    else
      Execution.write [c.logger.debug ("Dropping all " ++ toString frame.rowCount ++
        " row(s): Could not evaluate transform expression")]
      return .nulls target frame.rowCount

-- The cells of a series of decimals; other series have none to look at.
def decimals (s : Series) : List (Option Decimal) :=
  match s with
  | ⟨.float64, cells⟩ => cells
  | ⟨_, cells⟩ => cells.map fun _ => none

-- Whether a decimal can stand in a column of the type without loss.
def isExact (target : DataType) (d : Decimal) : Bool :=
  d.isFinite && (target ≠ .int64 || d.toInt?.isSome)

-- Whether a row is kept, given its result before and after the conversion.
def keepsRow (target : DataType) (type : ValueType) (c : Context) :
    Option Decimal × Option Value → Execution Bool
  | (_, none) => return false
  | (d, some value) =>
    if (d.map (isExact target)).getD true then
      if type.constraints.isEmpty then return true else c.isValid value type
    else return false

def runColumns (frame : Frame) (names : List String) (type : ValueType) (c : Context) :
    Execution TransformOutput := do
  let columns ← inputColumns frame.column? names
  let bindings := List.zipWith columnBinding t.inputs columns
  let target := type.dataType
  let raw ← t.runFormula frame bindings target c
  match raw.cast? target with
  | none => Execution.fail (.table (.noConversion raw.type target))
  | some series =>
    let keep ← ((decimals raw).zip series.values).mapM (keepsRow target type c)
    return .columns series keep

-- Evaluates the transform over a table, where the ports stand for the columns named.
def execute (table : Table) (names : List String) (c : Context) : Execution TransformOutput := do
  let c := c.enter (.transform t)
  if t.inputs.length ≠ names.length then
    Execution.violate (.portCount t.name t.inputs.length names.length)
  else
    let output ← t.output
    match table with
    | .array table => t.runRows table names output.type c
    | .columnar frame => t.runColumns frame names output.type c

end Transform

end TableFlow
