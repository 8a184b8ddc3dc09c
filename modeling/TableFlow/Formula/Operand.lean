import TableFlow.Formula.Basic
import TableFlow.Series.Cast

namespace TableFlow.Formula

inductive Datum (α : Type) where
  | constant (cell : Option α)
  | column (cells : List (Option α))

namespace Datum

variable {α β γ : Type}

-- The cells of all rows.
def expand (rows : Nat) : Datum α → List (Option α)
  | .constant cell => List.replicate rows cell
  | .column cells => cells

def isConstant : Datum α → Bool
  | .constant _ => true
  | .column _ => false

-- Applies an operation to the cells that are not null.
def map (f : α → Option β) : Datum α → Datum β
  | .constant cell => .constant (cell.bind f)
  | .column cells => .column (cells.map (·.bind f))

-- Applies an operation to the rows in which neither operand is null.
def lift (f : α → β → Option γ) (a : Option α) (b : Option β) : Option γ :=
  a.bind fun a => b.bind (f a)

def zipWith (f : α → β → Option γ) : Datum α → Datum β → Datum γ
  | .constant a, .constant b => .constant (lift f a b)
  | .constant a, .column bs => .column (bs.map (lift f a))
  | .column as, .constant b => .column (as.map (lift f · b))
  | .column as, .column bs => .column (List.zipWith (lift f) as bs)

-- Whether a constant is written out before or after an operation makes no difference.
theorem expand_map (rows : Nat) (f : α → Option β) (d : Datum α) :
    (d.map f).expand rows = (d.expand rows).map (·.bind f) := by
  cases d <;> simp [map, expand]

theorem expand_zipWith (rows : Nat) (f : α → β → Option γ) (a : Datum α) (b : Datum β)
    (ha : (a.expand rows).length = rows) (hb : (b.expand rows).length = rows) :
    (zipWith f a b).expand rows = List.zipWith (lift f) (a.expand rows) (b.expand rows) := by
  have left (x : Option α) (ys : List (Option β)) :
      List.zipWith (lift f) (List.replicate ys.length x) ys = ys.map (lift f x) := by
    induction ys with
    | nil => rfl
    | cons y ys ih => simpa [List.replicate_succ] using ih
  have right (xs : List (Option α)) (y : Option β) :
      List.zipWith (lift f) xs (List.replicate xs.length y) = xs.map (lift f · y) := by
    induction xs with
    | nil => rfl
    | cons x xs ih => simpa [List.replicate_succ] using ih
  cases a with
  | constant a =>
    cases b with
    | constant b => simp [zipWith, expand]
    | column bs =>
      obtain rfl : bs.length = rows := hb
      simp [zipWith, expand, left]
  | column as =>
    cases b with
    | constant b =>
      obtain rfl : as.length = rows := ha
      simp [zipWith, expand, right]
    | column bs => rfl

end Datum

-- Cells together with their type.
structure Operand where
  type : DataType
  datum : Datum type.Cell

namespace Operand

def toSeries (x : Operand) (rows : Nat) : Series := ⟨x.type, x.datum.expand rows⟩

def ofSeries (s : Series) : Operand := ⟨s.type, .column s.cells⟩

-- The operands that arithmetic takes.
inductive Numbers where
  | integers (datum : Datum Int64)
  | decimals (datum : Datum Decimal)

-- The cells as numbers, if their type is one of the two of numbers.
def numbers? : Operand → Option Numbers
  | ⟨.int64, datum⟩ => some (.integers datum)
  | ⟨.float64, datum⟩ => some (.decimals datum)
  | _ => none

def Numbers.toDecimals : Numbers → Datum Decimal
  | .integers datum => datum.map fun n => some (.ofInt64 n)
  | .decimals datum => datum

-- The cells as numbers; `operator` is named in the error.
def numbers (operator : String) (x : Operand) : Except FormulaError Numbers :=
  match x.numbers? with
  | some numbers => .ok numbers
  | none => .error (.typeMismatch operator x.type)

def truths (operator : String) : Operand → Except FormulaError (Datum Bool)
  | ⟨.boolean, datum⟩ => .ok datum
  | x => .error (.typeMismatch operator x.type)

def texts (operator : String) : Operand → Except FormulaError (Datum String)
  | ⟨.utf8, datum⟩ => .ok datum
  | x => .error (.typeMismatch operator x.type)

def ofLiteral : Value → Except FormulaError Operand
  | .boolean b => .ok ⟨.boolean, .constant (some b)⟩
  | .integer n => .ok ⟨.int64, .constant (some n)⟩
  | .decimal d => .ok ⟨.float64, .constant (some d)⟩
  | .text s => .ok ⟨.utf8, .constant (some s)⟩
  | value => .error (.unsupportedLiteral value.render)

def cast (x : Operand) (target : DataType) : Except FormulaError Operand :=
  match DataType.cast? x.type target with
  | some convert => .ok ⟨target, x.datum.map convert⟩
  | none => .error (.noConversion x.type target)

end Operand

end TableFlow.Formula
