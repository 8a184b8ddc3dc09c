import TableFlow.CellRange
import TableFlow.Decimal.Text
import TableFlow.Location
import TableFlow.Operator

namespace TableFlow

inductive Primitive where
  | boolean
  | integer
  | decimal
  | text
  | regex
  | cellRange
  | constraint
  | assignment
  | transform
deriving DecidableEq

namespace Primitive

def name : Primitive → String
  | .boolean => "boolean"
  | .integer => "integer"
  | .decimal => "decimal"
  | .text => "text"
  | .regex => "Regex"
  | .cellRange => "CellRange"
  | .constraint => "Constraint"
  | .assignment => "ValuetypeAssignment"
  | .transform => "Transform"

def all : List Primitive :=
  [.boolean, .integer, .decimal, .text, .regex, .cellRange, .constraint, .assignment, .transform]

def ofName? (name : String) : Option Primitive := all.find? (·.name == name)

theorem ofName?_name (p : Primitive) : ofName? p.name = some p := by cases p <;> decide

-- Whether programs may name the type.
def isReferenceable : Primitive → Bool
  | .boolean | .integer | .decimal | .text => true
  | _ => false

-- Whether a value of the type can be given from outside when a program is run.
def isRuntimeParameter : Primitive → Bool
  | .boolean | .integer | .decimal | .text | .regex => true
  | _ => false

-- Whether values of the first type can stand where the second is asked for.
def isConvertibleTo (p target : Primitive) : Bool :=
  p = target || (p = .integer && target = .decimal)

end Primitive

-- Types carry constraints, constraints and transforms carry expressions, and expressions can mention
-- all three. References by name have been resolved, apart from the names of variables, of blocks in
-- pipes, and of the kinds of blocks and constraints.
mutual

inductive ValueType where
  | primitive (primitive : Primitive)
  -- A refinement of another type. Its identity, and not its name, tells it from other types.
  | atomic (identity : Nat) (name : String) (supertype : ValueType) (constraints : List Constraint)
  | collection (element : ValueType)
  -- The type of the collection without elements.
  | emptyCollection

-- A condition on values: an expression over the variable `value`, or a kind of condition known to
-- the program that runs it, with its properties.
inductive Constraint where
  | expression (name : String) (condition : Expr) (location : Location)
  | typed (name : String) (kind : String) (properties : List Property) (location : Location)

inductive Property where
  | mk (name : String) (value : PropertyValue) (location : Location)

inductive PropertyValue where
  | expression (value : Expr)
  | runtimeParameter (name : String)

-- A computation of one value from others.
inductive Transform where
  | mk (name : String) (ports : List Port) (assigned : String) (value : Expr) (location : Location)

-- A named input or output of a transform.
inductive Port where
  | input (name : String) (type : ValueType)
  | output (name : String) (type : ValueType)

-- A column name together with the type of the column.
inductive Assignment where
  | mk (name : String) (type : ValueType)

inductive Literal where
  | boolean (value : Bool)
  | integer (value : Int64)
  | decimal (value : Decimal)
  | text (value : String)
  | regex (pattern : String)
  | cellRange (value : CellRange)
  | constraint (value : Constraint)
  | assignment (value : Assignment)
  | transform (value : Transform)
  | collection (items : List Expr)

inductive Expr where
  | literal (value : Literal) (location : Location)
  | var (name : String) (location : Location)
  | unary (op : UnaryOp) (operand : Expr) (location : Location)
  | binary (op : BinaryOp) (left right : Expr) (location : Location)
  | ternary (op : TernaryOp) (first second third : Expr) (location : Location)

end

namespace ValueType

def boolean : ValueType := .primitive .boolean

def integer : ValueType := .primitive .integer

def decimal : ValueType := .primitive .decimal

def text : ValueType := .primitive .text

def name : ValueType → String
  | .primitive p => p.name
  | .atomic _ name _ _ => name
  | .collection element => "Collection<" ++ element.name ++ ">"
  | .emptyCollection => "Collection<>"

end ValueType

namespace Property

def name : Property → String
  | .mk name _ _ => name

def value : Property → PropertyValue
  | .mk _ value _ => value

def location : Property → Location
  | .mk _ _ location => location

-- The first property of that name.
def find? (properties : List Property) (name : String) : Option Property :=
  properties.find? fun p => p.name == name

end Property

namespace Constraint

def name : Constraint → String
  | .expression name _ _ => name
  | .typed name _ _ _ => name

def location : Constraint → Location
  | .expression _ _ location => location
  | .typed _ _ _ location => location

-- An expression has no properties.
def property? : Constraint → String → Option Property
  | .expression .., _ => none
  | .typed _ _ properties _, name => Property.find? properties name

end Constraint

namespace Assignment

def name : Assignment → String
  | .mk name _ => name

def type : Assignment → ValueType
  | .mk _ type => type

-- The form in which programs declare a column.
def text (a : Assignment) : String := "\"" ++ a.name ++ "\" oftype " ++ a.type.name

end Assignment

namespace Port

def name : Port → String
  | .input name _ => name
  | .output name _ => name

def type : Port → ValueType
  | .input _ type => type
  | .output _ type => type

def isInput : Port → Bool
  | .input .. => true
  | .output .. => false

end Port

namespace Transform

def name : Transform → String
  | .mk name _ _ _ _ => name

def ports : Transform → List Port
  | .mk _ ports _ _ _ => ports

def value : Transform → Expr
  | .mk _ _ _ value _ => value

def location : Transform → Location
  | .mk _ _ _ _ location => location

def inputs (t : Transform) : List Port := t.ports.filter Port.isInput

-- The first output port.
def output? (t : Transform) : Option Port := t.ports.find? fun p => !p.isInput

end Transform

namespace Expr

def location : Expr → Location
  | .literal _ location => location
  | .var _ location => location
  | .unary _ _ location => location
  | .binary _ _ _ location => location
  | .ternary _ _ _ _ location => location

-- The name of an expression in diagnostics.
def describe : Expr → String
  | .literal .. => "literal"
  | .var name _ => "variable `" ++ name ++ "`"
  | .unary op _ _ => "unary expression `" ++ op.symbol ++ "`"
  | .binary op _ _ _ => "binary expression `" ++ op.symbol ++ "`"
  | .ternary op _ _ _ _ => "ternary expression `" ++ op.symbol ++ "`"

end Expr

-- The items between brackets, separated by commas.
def bracketed (items : List String) : String := "[" ++ ", ".intercalate items ++ "]"

mutual

-- The text of an expression. Operators with two operands are written in parentheses, so the text
-- shows how operands are grouped.
def Expr.render : Expr → String
  | .literal value _ => value.render
  | .var name _ => name
  | .unary op operand _ => op.symbol ++ " " ++ operand.render
  | .binary op left right _ =>
    "(" ++ left.render ++ " " ++ op.symbol ++ " " ++ right.render ++ ")"
  | .ternary op first second third _ =>
    op.symbol ++ "(" ++ first.render ++ ", " ++ second.render ++ ", " ++ third.render ++ ")"

def Literal.render : Literal → String
  | .boolean value => toString value
  | .integer value => Integer.text value
  | .decimal value => value.text
  | .text value => "\"" ++ value ++ "\""
  | .regex pattern => "/" ++ pattern ++ "/"
  | .cellRange value => "range " ++ value.text
  | .constraint value => value.name
  | .assignment value => value.text
  | .transform value => value.name
  | .collection items => bracketed (Expr.renderAll items)

def Expr.renderAll : List Expr → List String
  | [] => []
  | e :: es => e.render :: Expr.renderAll es

end

-- A step of a pipeline.
structure Block where
  name : String
  kind : String
  properties : List Property
  location : Location

def Block.property? (b : Block) (name : String) : Option Property :=
  Property.find? b.properties name

-- Leads the output of one block to the input of another.
structure Pipe where
  source : String
  target : String
deriving DecidableEq

-- The pipes of a chain of blocks.
def Pipe.chain : List String → List Pipe
  | a :: b :: rest => ⟨a, b⟩ :: chain (b :: rest)
  | _ => []

structure Pipeline where
  name : String
  blocks : List Block
  pipes : List Pipe
  location : Location

-- The first block of that name.
def Pipeline.block? (p : Pipeline) (name : String) : Option Block :=
  p.blocks.find? (·.name == name)

end TableFlow
