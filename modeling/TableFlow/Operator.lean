namespace TableFlow

inductive UnaryOp where
  | not
  | plus
  | minus
  | sqrt
  | floor
  | ceil
  | round
  | lowercase
  | uppercase
  | asText
  | asDecimal
  | asInteger
  | asBoolean
deriving DecidableEq

inductive BinaryOp where
  | pow
  | root
  | multiply
  | divide
  | modulo
  | add
  | subtract
  | matches
  | isIn
  | less
  | lessEqual
  | greater
  | greaterEqual
  | equal
  | notEqual
  | xor
  | and
  | or
deriving DecidableEq

inductive TernaryOp where
  | replace
deriving DecidableEq

namespace UnaryOp

def symbol : UnaryOp → String
  | .not => "not"
  | .plus => "+"
  | .minus => "-"
  | .sqrt => "sqrt"
  | .floor => "floor"
  | .ceil => "ceil"
  | .round => "round"
  | .lowercase => "lowercase"
  | .uppercase => "uppercase"
  | .asText => "asText"
  | .asDecimal => "asDecimal"
  | .asInteger => "asInteger"
  | .asBoolean => "asBoolean"

def all : List UnaryOp :=
  [.not, .plus, .minus, .sqrt, .floor, .ceil, .round, .lowercase, .uppercase, .asText, .asDecimal,
    .asInteger, .asBoolean]

def ofSymbol? (symbol : String) : Option UnaryOp := all.find? (·.symbol == symbol)

theorem ofSymbol?_symbol (op : UnaryOp) : ofSymbol? op.symbol = some op := by cases op <;> decide

end UnaryOp

namespace BinaryOp

def symbol : BinaryOp → String
  | .pow => "pow"
  | .root => "root"
  | .multiply => "*"
  | .divide => "/"
  | .modulo => "%"
  | .add => "+"
  | .subtract => "-"
  | .matches => "matches"
  | .isIn => "in"
  | .less => "<"
  | .lessEqual => "<="
  | .greater => ">"
  | .greaterEqual => ">="
  | .equal => "=="
  | .notEqual => "!="
  | .xor => "xor"
  | .and => "and"
  | .or => "or"

def all : List BinaryOp :=
  [.pow, .root, .multiply, .divide, .modulo, .add, .subtract, .matches, .isIn, .less, .lessEqual,
    .greater, .greaterEqual, .equal, .notEqual, .xor, .and, .or]

def ofSymbol? (symbol : String) : Option BinaryOp := all.find? (·.symbol == symbol)

theorem ofSymbol?_symbol (op : BinaryOp) : ofSymbol? op.symbol = some op := by cases op <;> decide

end BinaryOp

namespace TernaryOp

def symbol : TernaryOp → String
  | .replace => "replace"

def ofSymbol? (symbol : String) : Option TernaryOp :=
  if symbol = "replace" then some .replace else none

theorem ofSymbol?_symbol (op : TernaryOp) : ofSymbol? op.symbol = some op := by cases op; decide

end TernaryOp

end TableFlow
