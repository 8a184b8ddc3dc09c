namespace TableFlow

-- An operation on words.
inductive WordOp where
  | add
  | subtract
  | multiply
deriving DecidableEq

def WordOp.name : WordOp → String
  | .add => "add"
  | .subtract => "subtract"
  | .multiply => "multiply"

inductive Violation where
  -- The result of an operation on words is none.
  | overflow (op : WordOp)
  -- The value of a property is not of the type that is asked for.
  | invalidResult (value property type : String)
  -- The default of a property is not of the type that is asked for.
  | invalidDefault (value property type : String)
  | noNode (property : String)
  | noDefault (property node : String)
  -- A transform does not get one column for each of its input ports.
  | portCount (transform : String) (ports columns : Nat)
deriving DecidableEq

def Violation.message : Violation → String
  | .overflow op => "attempt to " ++ op.name ++ " with overflow"
  | .invalidResult value property type =>
    "Evaluation result " ++ value ++ " of property `" ++ property ++
      "` is not valid: Neither absent, nor of type " ++ type
  | .invalidDefault value property type =>
    "Default value " ++ value ++ " of property `" ++ property ++ "` is not a valid " ++ type
  | .noNode property => "Property `" ++ property ++ "` requested outside of any node"
  | .noDefault property node =>
    "Property `" ++ property ++ "` of " ++ node ++ " has neither a value nor a default"
  | .portCount transform ports columns =>
    "assertion `left == right` failed: Transform `" ++ transform ++
      "` needs one column per input port\n  left: " ++ toString ports ++ "\n right: " ++
      toString columns

end TableFlow
