import TableFlow.Proofs.Execution
import TableFlow.Proofs.Formula.Length
import TableFlow.Proofs.Table.Positions
import TableFlow.Execution.Transform

namespace TableFlow

namespace TransformOutput

-- Which rows are kept.
def kept : TransformOutput → List Bool
  | .rows results => results.map Option.isSome
  | .columns _ keep => keep

-- The value for a row.
def value? : TransformOutput → Nat → Option Value
  | .rows results, row => results[row]?.join
  | .columns series _, row => series.value? row

-- The type of a column of the values, where the type of the output has been declared.
def columnType (type : ValueType) : TransformOutput → ValueType
  | .rows _ => type
  | .columns series _ => series.type.valueType

-- There is something for every row of the table, and only values of the type.
def Covers (table : Table) (type : ValueType) : TransformOutput → Prop
  | .rows results => ∃ t, table = .array t ∧ results.length = t.rowCount ∧
      ∀ v, some v ∈ results → type.represents v = true
  | .columns series keep => ∃ f, table = .columnar f ∧ series.length = f.rowCount ∧
      series.type = type.dataType ∧ keep.length = f.rowCount

end TransformOutput

namespace Transform

variable {t : Transform} {type : ValueType} {c : Context} {names : List String}
  {output : TransformOutput}

-- A run gives as many columns as there are ports to an output.
theorem execute_of_output {port : Port} (hnames : t.inputs.length = names.length)
    (hport : t.output? = some port) (table : Table) (c : Context) :
    t.execute table names c =
      match table with
      | .array table => t.runRows table names port.type (c.enter (.transform t))
      | .columnar frame => t.runColumns frame names port.type (c.enter (.transform t)) := by
  rw [execute, if_neg fun h => h hnames, Transform.output, hport]
  exact Execution.pure_bind port _

-- What is left of a row without what it logs: its number only stands there.
theorem runRow_result (columns : List ValueColumn) (row : Nat) :
    (t.runRow columns type c row).result =
      match (t.value.evaluate .lazy
        (Scope.empty.insertAll (rowBindings t.inputs columns row))).value with
      | none => .ok none
      | some v => (fun valid => if valid then some (type.normalize v) else none) <$>
          (c.isValid (type.normalize v) type).result := by
  rw [runRow, Execution.result_bind_ok rfl]
  cases hv : (t.value.evaluate .lazy
      (Scope.empty.insertAll (rowBindings t.inputs columns row))).value with
  | none => rfl
  | some v =>
      refine (Execution.result_bind (c.isValid (type.normalize v) type) _).trans ?_
      simp only [map_eq_pure_bind]
      refine bind_congr fun valid => ?_
      cases valid <;> rfl

theorem runRow_some {columns : List ValueColumn} {row : Nat} {w : Value}
    (h : (t.runRow columns type c row).result = .ok (some w)) :
    ∃ v, (t.value.evaluate .lazy
        (Scope.empty.insertAll (rowBindings t.inputs columns row))).value = some v ∧
      w = type.normalize v ∧ (c.isValid w type).result = .ok true := by
  rw [runRow_result] at h
  split at h
  next => cases h
  next v hv =>
    obtain ⟨valid, hvalid, h⟩ := exists_of_map h
    cases valid with
    | true =>
        cases h
        exact ⟨v, hv, rfl, hvalid⟩
    | false => cases h

-- What is returned for a row is what the run of that row returns.
theorem runRows_result {table : ValueTable}
    (h : (t.runRows table names type c).result = .ok output) :
    ∃ columns results, (inputColumns table.column? names).result = .ok columns ∧
      output = .rows results ∧ results.length = table.rowCount ∧
      ∀ row < table.rowCount, ∃ result, results[row]? = some result ∧
        (t.runRow columns type c row).result = .ok result := by
  obtain ⟨columns, hcolumns, h⟩ := Execution.exists_of_result_bind h
  obtain ⟨results, hresults, h⟩ := Execution.exists_of_result_bind h
  obtain ⟨hlength, hall⟩ := Execution.exists_of_result_mapM hresults
  cases h
  refine ⟨columns, results, hcolumns, rfl, by rw [hlength, List.length_range], ?_⟩
  intro row hrow
  exact hall row row (by rw [List.getElem?_range hrow])

theorem covers_runRows {table : ValueTable}
    (h : (t.runRows table names type c).result = .ok output) :
    output.Covers (.array table) type := by
  obtain ⟨columns, results, -, rfl, hlength, hall⟩ := runRows_result h
  refine ⟨table, rfl, hlength, fun v hv => ?_⟩
  obtain ⟨row, hrow⟩ := List.mem_iff_getElem?.mp hv
  have hlt : row < table.rowCount := hlength ▸ (List.getElem?_eq_some_iff.mp hrow).1
  obtain ⟨result, hresult, hrun⟩ := hall row hlt
  cases hrow.symm.trans hresult
  obtain ⟨-, -, -, hvalid⟩ := runRow_some hrun
  exact Context.represents_of_isValid hvalid

theorem length_runFormula {frame : Frame} {bindings : List (String × Symbolic)} {target : DataType}
    {series : Series} (hframe : ∀ col ∈ frame.columns, col.length = frame.rowCount)
    (h : (t.runFormula frame bindings target c).result = .ok series) :
    series.length = frame.rowCount := by
  obtain ⟨result, -, h⟩ := Execution.exists_of_result_bind h
  cases result with
  | some result =>
      obtain ⟨-, -, h⟩ := Execution.exists_of_result_bind h
      obtain ⟨operand, hoperand, h⟩ := exists_of_bind (Execution.result_ofFormula h)
      cases h
      exact Formula.spans_evaluate (frame.length_of_series? hframe) result.formula hoperand
  | none =>
      dsimp only at h
      split at h
      · cases h
      · cases h
        exact List.length_replicate

theorem length_cast? {series converted : Series} {target : DataType}
    (h : series.cast? target = some converted) :
    converted.length = series.length ∧ converted.type = target := by
  obtain ⟨convert, -, rfl⟩ := Option.map_eq_some_iff.mp h
  exact ⟨List.length_map .., rfl⟩

theorem length_decimals (series : Series) : (decimals series).length = series.length := by
  obtain ⟨type, cells⟩ := series
  cases type <;> first | rfl | exact List.length_map ..

theorem covers_runColumns {frame : Frame}
    (hframe : ∀ col ∈ frame.columns, col.length = frame.rowCount)
    (h : (t.runColumns frame names type c).result = .ok output) :
    output.Covers (.columnar frame) type := by
  obtain ⟨columns, -, h⟩ := Execution.exists_of_result_bind h
  obtain ⟨raw, hraw, h⟩ := Execution.exists_of_result_bind h
  have hlength := length_runFormula hframe hraw
  split at h
  next => cases h
  next series hcast =>
    obtain ⟨hseries, htype⟩ := length_cast? hcast
    have hzip : ((decimals raw).zip series.values).length = frame.rowCount := by
      rw [List.length_zip, length_decimals, Series.values, List.length_map]
      exact (congrArg (min raw.length) hseries).trans ((Nat.min_self _).trans hlength)
    obtain ⟨keep, hkeep, h⟩ := Execution.exists_of_result_bind h
    cases h
    exact ⟨frame, rfl, hseries.trans hlength, htype,
      (Execution.exists_of_result_mapM hkeep).1.trans hzip⟩

-- A transform that is executed on a rectangular table returns something for every row.
theorem covers_execute {table : Table} {port : Port} (htable : table.Rectangular)
    (hport : t.output.result = .ok port) (h : (t.execute table names c).result = .ok output) :
    output.Covers table port.type := by
  rw [execute] at h
  split at h
  next => cases h
  next =>
    rw [Execution.result_bind_ok hport] at h
    cases table with
    | array table => exact covers_runRows h
    | columnar frame => exact covers_runColumns htable h

theorem length_kept {table : Table} (htable : table.Rectangular)
    (h : (t.execute table names c).result = .ok output) : output.kept.length = table.rowCount := by
  have hport : ∃ port, t.output.result = .ok port := by
    rw [execute] at h
    split at h
    next => cases h
    next =>
      obtain ⟨port, hport, -⟩ := Execution.exists_of_result_bind h
      exact ⟨port, hport⟩
  obtain ⟨port, hport⟩ := hport
  have hcovers := covers_execute htable hport h
  cases output with
  | rows results =>
      obtain ⟨vt, rfl, hlength, -⟩ := hcovers
      exact (List.length_map ..).trans hlength
  | columns series kept =>
      obtain ⟨frame, rfl, -, -, hlength⟩ := hcovers
      exact hlength

end Transform

end TableFlow
