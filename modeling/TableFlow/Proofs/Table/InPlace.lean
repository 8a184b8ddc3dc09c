import TableFlow.Proofs.Table.Removal

namespace TableFlow

-- What is left by an operation that either succeeds or changes nothing, and the error if there was
-- one.
def ValueTable.settle (t : ValueTable) :
    Except TableError ValueTable → ValueTable × Option TableError
  | .ok t' => (t', none)
  | .error error => (t, some error)

-- Changes to a table, which an error ends but does not undo.
abbrev InPlace := ExceptT TableError (StateM ValueTable)

namespace InPlace

open ValueTable

-- The table that is left, and the error if there was one.
def execute (operation : InPlace Unit) (t : ValueTable) : ValueTable × Option TableError :=
  match operation.run.run t with
  | (.ok _, t) => (t, none)
  | (.error error, t) => (t, some error)

def addColumn (c : ValueColumn) : InPlace Unit := do
  let t ← get
  if isSole ValueColumn.name c t.columns then
    modify fun t => { t with rowCount := c.length }
  else if c.length ≠ t.rowCount then
    throw (.columnLength c.name t.rowCount c.length)
  modify fun t => { t with columns := place ValueColumn.name c t.columns }

def addRow (row : Row) : InPlace Unit := do
  let t ← get
  if t.columns = [] then return
  if row.size ≠ t.columns.length then
    throw (.rowDimension t.columns.length row.size)
  let values ← t.columns.mapM fun c => (liftExcept (cellFor row c) : InPlace Value)
  modify fun t => { t with
    columns := List.zipWith (fun c v => { c with values := c.values ++ [v] }) t.columns values }
  modify fun t => { t with rowCount := t.rowCount + 1 }

def dropRow (row : Nat) : InPlace Unit := do
  let t ← get
  if t.rowCount ≤ row then
    throw (.rowOutOfBounds row t.rowCount)
  modify fun t => { t with columns := t.columns.map (·.erase row) }
  modify fun t => { t with rowCount := t.rowCount - 1 }

-- The highest row is looked at before any row is dropped.
def dropRows (rows : List Nat) : InPlace Unit := do
  let rows := descending rows
  if let highest :: _ := rows then
    let t ← get
    if t.rowCount ≤ highest then
      throw (.rowOutOfBounds highest t.rowCount)
  forM rows dropRow

variable (t : ValueTable)

theorem execute_get (f : ValueTable → InPlace Unit) : (get >>= f).execute t = (f t).execute t := rfl

-- What comes second finds the table as the first has left it, unless there was an error.
theorem execute_bind (first second : InPlace Unit) :
    (first >>= fun _ => second).execute t =
      match first.execute t with
      | (t, none) => second.execute t
      | (t, some error) => (t, some error) := by
  have hrun : (first >>= fun _ => second).run.run t =
      match first.run.run t with
      | (.ok _, t) => second.run.run t
      | (.error error, t) => (.error error, t) := by
    simp only [ExceptT.run_bind, StateT.run_bind]
    rcases first.run.run t with ⟨_ | _, t'⟩ <;> rfl
  rw [execute, hrun, execute]
  rcases first.run.run t with ⟨_ | _, t'⟩ <;> rfl

theorem execute_addColumn (c : ValueColumn) :
    (addColumn c).execute t = t.settle (t.addColumn c) := by
  rw [addColumn, execute_get, ValueTable.addColumn]
  by_cases hsole : isSole ValueColumn.name c t.columns = true
  · simp only [if_pos hsole]
    rfl
  · by_cases hlength : c.length = t.rowCount
    · simp only [if_neg hsole, hlength, ne_eq, not_true_eq_false, if_true, if_false]
      rfl
    · simp only [if_neg hsole, ne_eq, hlength, not_false_eq_true, if_true, if_false]
      rfl

-- The cells of a row are gathered before the table is changed.
private theorem execute_gather (row : Row) (cs : List ValueColumn)
    (f : List Value → InPlace Unit) :
    (cs.mapM (fun c => (liftExcept (cellFor row c) : InPlace Value)) >>= f).execute t =
      match cs.mapM (cellFor row) with
      | .ok values => (f values).execute t
      | .error error => (t, some error) := by
  induction cs generalizing f with
  | nil => rfl
  | cons c cs ih =>
      rw [List.mapM_cons, List.mapM_cons]
      cases hc : cellFor row c with
      | error error => rfl
      | ok value =>
          refine Eq.trans ?_ ((ih fun values => f (value :: values)).trans ?_)
          · simp [liftExcept]
          · cases cs.mapM (cellFor row) <;> rfl

theorem execute_addRow (row : Row) : (addRow row).execute t = t.settle (t.addRow row) := by
  rw [addRow, execute_get, ValueTable.addRow]
  by_cases hnil : t.columns = []
  · rw [if_pos hnil, if_pos hnil]
    rfl
  · rw [if_neg hnil, if_neg hnil]
    by_cases hsize : row.size = t.columns.length
    · simp only [hsize, ne_eq, not_true_eq_false, if_false]
      refine (execute_gather t row t.columns _).trans ?_
      cases t.columns.mapM (cellFor row) <;> rfl
    · simp only [hsize, ne_eq, not_false_eq_true, if_true]
      rfl

theorem execute_dropRow (row : Nat) : (dropRow row).execute t = t.settle (t.dropRow row) := by
  rw [dropRow, execute_get, ValueTable.dropRow]
  by_cases hrow : row < t.rowCount
  · rw [if_pos hrow, if_neg (Nat.not_le.mpr hrow)]
    rfl
  · rw [if_neg hrow, if_pos (Nat.not_lt.mp hrow)]
    rfl

private theorem execute_dropEach (rows : List Nat) :
    (forM rows dropRow).execute t = t.dropEach rows := by
  induction rows generalizing t with
  | nil => rfl
  | cons row rows ih =>
      rw [dropEach, List.forM_cons, execute_bind, execute_dropRow]
      cases t.dropRow row with
      | ok t' => exact ih t'
      | error error => rfl

-- Rows are dropped one after another, so this needs columns of the right length: then the rows
-- below one that exists exist as well.
theorem execute_dropRows (rows : List Nat) (hlength : ∀ c ∈ t.columns, c.length = t.rowCount) :
    (dropRows rows).execute t = t.settle (t.dropRows rows) := by
  have hsettle : t.dropRowsInPlace rows = t.settle (t.dropRows rows) := by
    rw [t.dropRowsInPlace_eq rows hlength]
    cases t.dropRows rows <;> rfl
  rw [← hsettle, dropRows, ValueTable.dropRowsInPlace]
  cases h : descending rows with
  | nil => rfl
  | cons highest others =>
      simp only []
      rw [execute_get]
      by_cases hlt : highest < t.rowCount
      · rw [if_pos hlt, if_neg (Nat.not_le.mpr hlt)]
        exact execute_dropEach t _
      · rw [if_neg hlt, if_pos (Nat.not_lt.mp hlt)]
        rfl

end InPlace

end TableFlow
