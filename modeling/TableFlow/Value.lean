import TableFlow.Program.Equality
import TableFlow.Regex

namespace TableFlow

inductive Value where
  | boolean (value : Bool)
  | integer (value : Int64)
  | decimal (value : Decimal)
  | text (value : String)
  | regex (value : Regex)
  | cellRange (value : CellRange)
  | constraint (value : Constraint)
  | assignment (value : Assignment)
  | transform (value : Transform)
  | collection (items : List Value)

namespace Value

instance : Inhabited Value := ⟨.collection []⟩

-- The name of the kind of value in messages.
def kind : Value → String
  | .boolean _ => "boolean"
  | .integer _ => "integer"
  | .decimal _ => "decimal"
  | .text _ => "text"
  | .regex _ => "regex"
  | .cellRange _ => "cell range"
  | .constraint _ => "constraint"
  | .assignment _ => "valuetype assignment"
  | .transform _ => "transform"
  | .collection _ => "collection"

mutual

-- The text of a value: text is shown as it is, other values in their written form.
def render : Value → String
  | .boolean value => toString value
  | .integer value => Integer.text value
  | .decimal value => value.text
  | .text value => value
  | .regex value => "/" ++ value.pattern ++ "/"
  | .cellRange value => value.text
  | .constraint value => value.name
  | .assignment value => value.text
  | .transform value => value.name
  | .collection items => bracketed (renderAll items)

def renderAll : List Value → List String
  | [] => []
  | v :: vs => v.render :: renderAll vs

end

mutual

-- Whether two values are of one kind and equal.
def same : Value → Value → Bool
  | .boolean a, .boolean b => a = b
  | .integer a, .integer b => a = b
  | .decimal a, .decimal b => a.same b
  | .text a, .text b => a = b
  | .regex a, .regex b => a = b
  | .cellRange a, .cellRange b => a = b
  | .constraint a, .constraint b => a.same b
  | .assignment a, .assignment b => a.same b
  | .transform a, .transform b => a.same b
  | .collection a, .collection b => sameAll a b
  | _, _ => false

def sameAll : List Value → List Value → Bool
  | [], [] => true
  | v :: vs, w :: ws => v.same w && sameAll vs ws
  | _, _ => false

end

def isNumeric : Value → Bool
  | .integer _ | .decimal _ => true
  | _ => false

def boolean? : Value → Option Bool
  | .boolean value => some value
  | _ => none

def integer? : Value → Option Int64
  | .integer value => some value
  | _ => none

-- The number that an integer or a decimal stands for, as a decimal.
def number? : Value → Option Decimal
  | .integer value => some (.ofInt64 value)
  | .decimal value => some value
  | _ => none

def text? : Value → Option String
  | .text value => some value
  | _ => none

def assignment? : Value → Option Assignment
  | .assignment value => some value
  | _ => none

def collection? : Value → Option (List Value)
  | .collection items => some items
  | _ => none

end Value

end TableFlow
