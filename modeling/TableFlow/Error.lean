import TableFlow.Execution.Error

namespace TableFlow

inductive Error where
  | type (error : TypeError)
  | table (error : TableError)
  | formula (error : FormulaError)
  | execution (error : ExecutionError)
  -- Something that should not have happened.
  | internal (message : String)

def Error.message : Error → String
  | .type error => "Value type error: " ++ error.message
  | .table error => "Table error: " ++ error.message
  | .formula error => "Column expression error: " ++ error.message
  | .execution error => "Execution error: " ++ error.message
  | .internal message => "Internal error: " ++ message

end TableFlow
