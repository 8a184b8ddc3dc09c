import TableFlow.Series.Basic

namespace TableFlow

inductive Backend where
  -- Columns are lists of values.
  | array
  -- Columns are series.
  | columnar
deriving DecidableEq

def Backend.name : Backend → String
  | .array => "array"
  | .columnar => "columnar"

inductive TableError where
  | columnLength (column : String) (expected actual : Nat)
  | rowDimension (expected actual : Nat)
  | missingCell (column : String)
  | unknownColumn (column : String)
  | rowOutOfBounds (row rows : Nat)
  | invalidValue (column type value : String)
  | noSqlRepresentation (column type : String)
  | backendMismatch (table column : Backend)
  -- More marks than rows.
  | maskLength (marks rows : Nat)
  -- Two types between which there is no conversion.
  | noConversion (source target : DataType)
deriving DecidableEq

def TableError.message : TableError → String
  | .columnLength column expected actual =>
    "Column `" ++ column ++ "` has " ++ toString actual ++ " values, expected " ++ toString expected
  | .rowDimension expected actual =>
    "Row has " ++ toString actual ++ " values, table has " ++ toString expected ++ " columns"
  | .missingCell column => "Row is missing a value for column `" ++ column ++ "`"
  | .unknownColumn column => "Unknown column `" ++ column ++ "`"
  | .rowOutOfBounds row rows =>
    "Row " ++ toString row ++ " is out of bounds for a table with " ++ toString rows ++ " rows"
  | .invalidValue column type value =>
    "Value " ++ value ++ " is not a valid " ++ type ++ " for column `" ++ column ++ "`"
  | .noSqlRepresentation column type =>
    "Column `" ++ column ++ "` of type " ++ type ++ " has no SQL representation"
  | .backendMismatch table column =>
    "Cannot combine a " ++ table.name ++ " table with a " ++ column.name ++ " column"
  | .maskLength marks rows =>
    "Arrow error: Invalid argument error: Filter predicate of length " ++ toString marks ++
      " is larger than target array of length " ++ toString rows
  | .noConversion source target =>
    "Arrow error: Cast error: Casting from " ++ source.name ++ " to " ++ target.name ++
      " not supported"

-- Puts an item in the place of the first one of its name, or behind all others.
def place {α : Type} (name : α → String) (item : α) : List α → List α
  | [] => [item]
  | x :: xs => if name x = name item then item :: xs else x :: place name item xs

-- Whether an item would be the only one once it has been placed.
def isSole {α : Type} (name : α → String) (item : α) : List α → Bool
  | [] => true
  | [x] => name x = name item
  | _ => false

end TableFlow
