import TableFlow.Execution.Context

namespace TableFlow

-- The cells of a row.
def Table.rowText (t : Table) (row : Nat) : String :=
  " | ".intercalate ((t.row row).map fun cell => (cell.map Value.render).getD "NULL")

-- A line with the size and the columns of a table, its first rows, and a line with the number of
-- those left out.
def Table.lines (t : Table) (shown : Nat) : List String :=
  let header := " | ".intercalate (t.columnTypes.map fun (name, type) => name ++ ": " ++ type.name)
  let shown := min shown t.rowCount
  ["[" ++ t.backend.name ++ " table, " ++ toString t.rowCount ++ " row(s), " ++
      toString t.columnCount ++ " column(s)] " ++ header] ++
    (List.range shown).map t.rowText ++
    (if shown < t.rowCount then ["... " ++ toString (t.rowCount - shown) ++ " more row(s)"] else [])

namespace Context

-- Whether the results of a block are logged.
def isDebugTarget (c : Context) (block : String) : Bool :=
  c.settings.debug && c.settings.targets.includes block

def debugLines (s : Settings) : Artifact → List String
  | .table t =>
    match s.granularity with
    | .peek => t.lines s.peekRows
    | .exhaustive => t.lines t.rowCount
    | .skip => []
  | output => ["Output: " ++ output.text]

-- Logs the result of a block as the settings ask for.
def debugOutput (c : Context) (block : String) (output : Artifact) : Execution Unit :=
  .write
    (if c.isDebugTarget block then (debugLines c.settings output).map c.logger.debug else [])

end Context

end TableFlow
