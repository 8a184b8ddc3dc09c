import TableFlow.Diagnostic
import TableFlow.Program.Basic
import TableFlow.Regex

namespace TableFlow

inductive ArithmeticError where
  | divisionByZero
  | moduloByZero
  | rootOfNegative
  | degreeZero
  | zeroToNegative
  | zeroRootNegative
  | degreeRootOfNegative
  -- The result is no word, or not a finite decimal.
  | unknown
deriving DecidableEq

def ArithmeticError.message : ArithmeticError → String
  | .divisionByZero => "Arithmetic error: division by zero"
  | .moduloByZero => "Arithmetic error: modulo by zero"
  | .rootOfNegative => "Arithmetic error: square root of negative number"
  | .degreeZero => "Arithmetic error: root of degree zero"
  | .zeroToNegative => "Arithmetic error: zero raised to a negative number"
  | .zeroRootNegative => "Arithmetic error: root of zero with negative degree"
  | .degreeRootOfNegative => "Arithmetic error: root of negative number"
  | .unknown => "Unknown arithmetic error"

inductive EvalError where
  | arithmetic (error : ArithmeticError)
  -- The operator has no form for columns.
  | unsupported (operator : String)
  | typeMismatch (operator : String) (kinds : List String)
  | unreadable (text : String) (type : Primitive)
  | invalidRegex (pattern : String) (fault : Regex.Fault)
  | undefined (name : String)
  -- A value is needed where a variable stands for a column.
  | boundToColumn (name : String)

namespace EvalError

def code : EvalError → DiagnosticCode
  | .arithmetic _ => .arithmetic
  | .unsupported _ => .unsupported
  | .typeMismatch .. => .typeMismatch
  | .unreadable .. => .invalidLiteral
  | .invalidRegex .. => .invalidLiteral
  | .undefined _ => .missingVariable
  | .boundToColumn _ => .typeMismatch

-- A primitive type with the indefinite article.
def indefinite (type : Primitive) : String :=
  (if type = .integer then "an " else "a ") ++ type.name

def message : EvalError → String
  | .arithmetic error => error.message
  | .unsupported operator => "`" ++ operator ++ "` is not supported yet."
  | .typeMismatch operator kinds =>
    "Operator `" ++ operator ++ "` cannot be applied to " ++ ", ".intercalate kinds
  | .unreadable text type => "Could not parse \"" ++ text ++ "\" into " ++ indefinite type
  | .invalidRegex pattern fault =>
    "Invalid regular expression /" ++ pattern ++ "/: " ++ fault.message pattern
  | .undefined name => "Variable `" ++ name ++ "` is not defined"
  | .boundToColumn name => "Variable `" ++ name ++ "` is bound to a column"

-- The diagnostic that reports the error at an expression.
def diagnostic (e : EvalError) (expression : Expr) : Diagnostic :=
  .error e.code e.message (.ofNode expression.describe expression.location)

end EvalError

end TableFlow
