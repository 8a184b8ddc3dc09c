import TableFlow.Artifact
import TableFlow.Diagnostic
import TableFlow.Violation

namespace TableFlow

-- What can be wrong at a place in the program.
inductive BlockError where
  -- A runtime parameter that is missing or cannot be read.
  | parameter (name type : String)
  -- The diagnostics of an expression that has no value.
  | evaluation (messages : List String)
  | inputMismatch (block : String) (expected received : Artifact.Kind)
  | noSheet (received : Artifact.Kind)
  | noTable (received : Artifact.Kind)
  | noHeader
  | tooFewColumns (definitions columns : Nat)
  | unknownInput (column : String)
  | inputCount (ports columns : Nat)
  | notConvertible (type column target : String)
  | noOutput (transform : String)

def BlockError.message : BlockError → String
  | .parameter name type =>
    "Runtime parameter `" ++ name ++ "` is missing or is not a valid " ++ type
  | .evaluation messages => "; ".intercalate messages
  | .inputMismatch block expected received =>
    "Block `" ++ block ++ "` expects " ++ expected.name ++ " input but received " ++ received.name
  | .noSheet received => "Expected a sheet as input but received " ++ received.name
  | .noTable received => "Expected a table as input but received " ++ received.name
  | .noHeader => "The input sheet is empty and thus has no header"
  | .tooFewColumns definitions columns =>
    "There are " ++ toString definitions ++ " column definitions but the input sheet only has " ++
      toString columns ++ " columns"
  | .unknownInput column =>
    "The specified input column \"" ++ column ++ "\" does not exist in the given table"
  | .inputCount ports columns =>
    "Expected " ++ toString ports ++ " input column(s) for the transform but " ++
      toString columns ++ " were given"
  | .notConvertible type column target =>
    "Type " ++ type ++ " of column \"" ++ column ++ "\" is not convertible to type " ++ target
  | .noOutput transform => "Transform `" ++ transform ++ "` has no output port"

inductive ExecutionError where
  | block (error : BlockError) (anchor : Anchor)
  | unknownBlockType (block type : String)
  | unknownBlock (name : String)
  | multipleInputs (block : String) (count : Nat)
  | cycle (pipeline : String)
  -- A pipe between blocks that do not agree on what it carries.
  | pipeMismatch (source target : String) (expected actual : Artifact.Kind)
  | table (error : TableError)
  | formula (error : FormulaError)

namespace ExecutionError

def message : ExecutionError → String
  | .block error anchor => error.message ++ " (" ++ anchor.text ++ ")"
  | .unknownBlockType name type =>
    "Unknown block type `" ++ type ++ "` used by block `" ++ name ++ "`"
  | .unknownBlock name => "Pipe references unknown block `" ++ name ++ "`"
  | .multipleInputs name count =>
    "Block `" ++ name ++ "` has " ++ toString count ++ " inputs, at most one is allowed"
  | .cycle pipeline => "Pipeline `" ++ pipeline ++ "` contains a cycle"
  | .pipeMismatch source target expected actual =>
    "Block `" ++ target ++ "` expects " ++ expected.name ++ " input but `" ++ source ++
      "` produces " ++ actual.name
  | .table error => "Table error: " ++ error.message
  | .formula error => "Column expression error: " ++ error.message

-- The place in the program, if the error has one.
def anchor? : ExecutionError → Option Anchor
  | .block _ anchor => some anchor
  | _ => none

end ExecutionError

-- What ends an execution before it has a result.
inductive Failure where
  | error (error : ExecutionError)
  | violation (violation : Violation)

end TableFlow
