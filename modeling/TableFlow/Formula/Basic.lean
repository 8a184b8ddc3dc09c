import TableFlow.Series.Basic

namespace TableFlow

namespace Formula

inductive UnaryOp where
  | not
  | negate
  | sqrt
  | floor
  | ceil
  | round
  | lowercase
  | uppercase
deriving DecidableEq

inductive BinaryOp where
  | add
  | subtract
  | multiply
  | divide
  | modulo
  | pow
  | root
  | equal
  | notEqual
  | less
  | lessEqual
  | greater
  | greaterEqual
  | and
  | or
  | xor
deriving DecidableEq

namespace UnaryOp

def symbol : UnaryOp → String
  | .not => "not"
  | .negate => "negate"
  | .sqrt => "sqrt"
  | .floor => "floor"
  | .ceil => "ceil"
  | .round => "round"
  | .lowercase => "lowercase"
  | .uppercase => "uppercase"

def all : List UnaryOp :=
  [.not, .negate, .sqrt, .floor, .ceil, .round, .lowercase, .uppercase]

def ofSymbol? (symbol : String) : Option UnaryOp := all.find? (·.symbol == symbol)

end UnaryOp

namespace BinaryOp

def symbol : BinaryOp → String
  | .add => "+"
  | .subtract => "-"
  | .multiply => "*"
  | .divide => "/"
  | .modulo => "%"
  | .pow => "pow"
  | .root => "root"
  | .equal => "=="
  | .notEqual => "!="
  | .less => "<"
  | .lessEqual => "<="
  | .greater => ">"
  | .greaterEqual => ">="
  | .and => "and"
  | .or => "or"
  | .xor => "xor"

def all : List BinaryOp :=
  [.add, .subtract, .multiply, .divide, .modulo, .pow, .root, .equal, .notEqual, .less, .lessEqual,
    .greater, .greaterEqual, .and, .or, .xor]

def ofSymbol? (symbol : String) : Option BinaryOp := all.find? (·.symbol == symbol)

end BinaryOp

end Formula

inductive Formula where
  | column (name : String)
  | literal (value : Value)
  | unary (op : Formula.UnaryOp) (operand : Formula)
  | binary (op : Formula.BinaryOp) (left right : Formula)
  | cast (operand : Formula) (type : DataType)

namespace Formula

def render : Formula → String
  | .column name => "col(\"" ++ name ++ "\")"
  | .literal value => "lit(" ++ value.render ++ ")"
  | .unary op operand => op.symbol ++ "(" ++ operand.render ++ ")"
  | .binary op left right =>
    "(" ++ left.render ++ " " ++ op.symbol ++ " " ++ right.render ++ ")"
  | .cast operand type => "cast(" ++ operand.render ++ " as " ++ type.name ++ ")"

end Formula

-- Why a formula has no value over a frame.
inductive FormulaError where
  | missingColumn (name : String)
  | unsupportedLiteral (value : String)
  | typeMismatch (operator : String) (found : DataType)
  -- Cells of two types that have no common order.
  | incomparable (left right : DataType)
  -- Two types between which there is no conversion.
  | noConversion (source target : DataType)
deriving DecidableEq

namespace FormulaError

def message : FormulaError → String
  | .missingColumn name => "Column `" ++ name ++ "` does not exist"
  | .unsupportedLiteral value => "Value " ++ value ++ " has no columnar literal representation"
  | .typeMismatch operator found => "Operator `" ++ operator ++ "` cannot be applied to " ++ found.name
  | .incomparable left right =>
    "Arrow error: Invalid comparison operation: " ++ left.name ++ " with " ++ right.name
  | .noConversion source target =>
    "Arrow error: Casting from " ++ source.name ++ " to " ++ target.name ++ " not supported"

end FormulaError

end TableFlow
