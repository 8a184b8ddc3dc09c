namespace TableFlow

inductive TypeError where
  | unknownType (name : String)
  | unknownSupertype (name supertype : String)
  | supertypeCycle (name : String)
  | duplicateType (name : String)
  | notReferenceable (name : String)
  | invalidCellRange (text : String)
  | noColumnarForm (name : String)
  | unsupportedDataType (name : String)
deriving DecidableEq

def TypeError.message : TypeError → String
  | .unknownType name => "Unknown value type: " ++ name
  | .unknownSupertype name supertype =>
    "Value type " ++ name ++ " extends unknown supertype " ++ supertype
  | .supertypeCycle name => "Cycle in supertype chain of " ++ name
  | .duplicateType name => "Value type " ++ name ++ " is already defined"
  | .notReferenceable name => "Value type " ++ name ++ " cannot be referenced by users"
  | .invalidCellRange text => "Invalid cell range: " ++ text
  | .noColumnarForm name => "Value type " ++ name ++ " has no columnar representation"
  | .unsupportedDataType name => "Unsupported columnar data type: " ++ name

end TableFlow
