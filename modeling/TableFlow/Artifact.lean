import TableFlow.Artifact.File
import TableFlow.Artifact.Sheet
import TableFlow.Table.Basic

namespace TableFlow

inductive Artifact where
  | none
  | file (file : File)
  | sheet (sheet : Sheet)
  | table (table : Table)

inductive Artifact.Kind where
  | none
  | file
  | sheet
  | table
deriving DecidableEq

namespace Artifact

def Kind.name : Kind → String
  | .none => "None"
  | .file => "File"
  | .sheet => "Sheet"
  | .table => "Table"

def kind : Artifact → Kind
  | .none => .none
  | .file _ => .file
  | .sheet _ => .sheet
  | .table _ => .table

-- A summary of the artifact in a few words.
def text : Artifact → String
  | .none => "none"
  | .file f => "file " ++ f.name ++ " (" ++ toString f.content.length ++ " bytes)"
  | .sheet s => "sheet " ++ toString s.rowCount ++ "x" ++ toString s.columnCount
  | .table t =>
    t.backend.name ++ " table " ++ toString t.rowCount ++ "x" ++ toString t.columnCount

end Artifact

end TableFlow
