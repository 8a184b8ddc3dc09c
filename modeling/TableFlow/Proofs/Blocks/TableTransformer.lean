import TableFlow.Blocks.TableTransformer
import TableFlow.Proofs.Table.Column
import TableFlow.Proofs.Transform.Outputs

namespace TableFlow

namespace Column

def header (c : Column) : String × ValueType := (c.name, c.type)

theorem header_keep (marks : List Bool) (c : Column) : (c.keep marks).header = c.header := by
  cases c <;> rfl

end Column

namespace ValueTable

variable {t : ValueTable} {c : ValueColumn}

theorem addColumn_of_length (h : c.length = t.rowCount) :
    t.addColumn c = .ok ⟨place ValueColumn.name c t.columns, t.rowCount⟩ := by
  rw [addColumn, if_pos h, h]
  exact ite_self _

end ValueTable

namespace TransformOutput

-- The position of a result is dropped exactly if there is no value.
theorem mem_dropped {results : List (Option Value)} {row : Nat} :
    row ∈ dropped results ↔ results[row]? = some none := by
  simp only [dropped, List.mem_map, List.mem_filter, Prod.exists, exists_eq_right]
  constructor
  · rintro ⟨result, hmem, hnone⟩
    rw [List.mem_zipIdx_iff_getElem?] at hmem
    rw [hmem, Option.isNone_iff_eq_none.mp hnone]
  · intro h
    exact ⟨none, List.mem_zipIdx_iff_getElem?.mpr h, rfl⟩

theorem marksWithout_dropped (results : List (Option Value)) :
    Series.marksWithout results.length (dropped results) = results.map Option.isSome := by
  refine List.ext_getElem? fun row => ?_
  rw [Series.marksWithout, List.getElem?_map, List.getElem?_map]
  by_cases hrow : row < results.length
  · rw [List.getElem?_range hrow, List.getElem?_eq_getElem hrow]
    simp only [Option.map_some, mem_dropped, List.getElem?_eq_getElem hrow, Option.some.injEq]
    cases results[row] <;> rfl
  · rw [List.getElem?_eq_none (by simpa using hrow), List.getElem?_eq_none (by simpa using hrow)]
    rfl

-- The values are what is kept of the results.
theorem map_some_values (results : List (Option Value)) :
    (values results).map some = Series.keep (results.map Option.isSome) results := by
  induction results with
  | nil => rfl
  | cons result results ih =>
      cases result with
      | none => exact ih
      | some v => exact congrArg (some v :: ·) ih

theorem getElem?_values (results : List (Option Value)) (index : Nat) :
    (values results)[index]? =
      (Series.marked (results.map Option.isSome))[index]?.bind fun row => results[row]?.join := by
  have hkeep := congrArg (fun cells => cells[index]?.join) (map_some_values results)
  simp only [List.getElem?_map, Series.getElem?_keep] at hkeep
  have hjoin (o : Option Value) : (o.map some).join = o := by cases o <;> rfl
  rw [hjoin] at hkeep
  rw [hkeep]
  cases (Series.marked (results.map Option.isSome))[index]? <;> rfl

theorem length_values (results : List (Option Value)) :
    (values results).length = (results.map Option.isSome).count true := by
  have hlength := congrArg List.length (map_some_values results)
  rwa [List.length_map, Series.length_keep _ _ (Nat.le_of_eq (List.length_map ..))] at hlength

end TransformOutput

namespace TableTransformer

-- The rows that are kept, in their order.
def survivors (table : Table) (output : TransformOutput) : List Nat :=
  (List.range table.rowCount).filter fun row => output.kept[row]? = some true

-- The position of the first column of a name, or the one behind all columns.
def position (table : Table) (name : String) : Nat := table.columnNames.idxOf name

-- A table as it is once a column of a name has been computed.
structure Assembled (table : Table) (name : String) (type : ValueType) (output : TransformOutput)
    (result : Table) : Prop where
  backend : result.backend = table.backend
  rectangular : result.Rectangular
  rowCount : result.rowCount = (survivors table output).length
  header : ∀ j, (result.columnAt? j).map Column.header =
    if j = position table name then some (name, output.columnType type)
    else (table.columnAt? j).map Column.header
  cell : ∀ k j, result.cell? k j = (survivors table output)[k]?.bind fun row =>
    if j = position table name then output.value? row else table.cell? row j

variable {table result : Table} {name : String} {type : ValueType} {output : TransformOutput}

-- It is enough to know the columns as a whole: the kept rows of those there were, and one that has
-- the values of these rows.
private theorem Assembled.of_columns (out : Column) (hbackend : result.backend = table.backend)
    (hrectangular : result.Rectangular) (hrows : result.rowCount = output.kept.count true)
    (hkept : output.kept.length = table.rowCount)
    (hheader : out.header = (name, output.columnType type))
    (hvalue : ∀ k, out.value? k = (Series.marked output.kept)[k]?.bind output.value?)
    (hcolumns : ∀ j, result.columnAt? j =
      if j = position table name then some out
      else (table.columnAt? j).map (Column.keep output.kept)) :
    Assembled table name type output result := by
  have hsurvivors : survivors table output = Series.marked output.kept := by
    rw [survivors, ← hkept]
    rfl
  refine ⟨hbackend, hrectangular, ?_, fun j => ?_, fun k j => ?_⟩
  · rw [hrows, hsurvivors, Series.length_marked]
  · rw [hcolumns]
    split
    · rw [Option.map_some, hheader]
    · rw [Option.map_map]
      exact congrArg (Option.map · _) (funext fun col => col.header_keep _)
  · rw [Table.cell?_eq, hcolumns, hsurvivors]
    split
    · exact hvalue k
    · rw [Option.bind_map]
      simp only [Table.cell?_eq]
      cases table.columnAt? j with
      | none => cases (Series.marked output.kept)[k]? <;> rfl
      | some col => exact col.value?_keep output.kept k

-- A column is placed among what is kept of the others, whichever kind of column they are.
private theorem map_getElem?_place {α : Type} {name : α → String} (wrap : α → Column)
    (keep : α → α) (keepColumn : Column → Column) (hname : ∀ b, name (keep b) = name b)
    (hkeep : ∀ b, wrap (keep b) = keepColumn (wrap b)) (a : α) (as : List α) (j : Nat) :
    ((place name a (as.map keep))[j]?).map wrap =
      if j = (as.map name).idxOf (name a) then some (wrap a)
      else ((as[j]?).map wrap).map keepColumn := by
  have hnames : (as.map keep).map name = as.map name := by
    rw [List.map_map]
    exact List.map_congr_left fun b _ => hname b
  rw [getElem?_place, hnames, List.getElem?_map]
  split
  · rfl
  · cases as[j]? with
    | none => rfl
    | some b => exact congrArg some (hkeep b)

theorem assemble_rows {t : ValueTable} {results : List (Option Value)}
    (htable : ∀ col ∈ t.columns, col.length = t.rowCount) (hlength : results.length = t.rowCount)
    (hvalues : ∀ v, some v ∈ results → type.represents v = true) :
    ∃ result, assemble (.array t) name type (.rows results) = .ok result ∧
      Assembled (.array t) name type (.rows results) result := by
  let marks := results.map Option.isSome
  let c : ValueColumn := ⟨name, type, TransformOutput.values results⟩
  have hdrop : t.dropRows (TransformOutput.dropped results) = .ok (t.keep marks) := by
    rcases t.dropRows_cases (TransformOutput.dropped results) htable with
      ⟨⟨row, hrow, hle⟩, -⟩ | ⟨-, hok⟩
    · have hlt := (List.getElem?_eq_some_iff.mp (TransformOutput.mem_dropped.mp hrow)).1
      omega
    · rw [hok, ← hlength, TransformOutput.marksWithout_dropped]
  have hcolumn : ValueColumn.ofValues name type (TransformOutput.values results) = .ok c := by
    refine ValueColumn.ofValues_of_represents fun v hv => hvalues v ?_
    obtain ⟨result, hresult, rfl⟩ := List.mem_filterMap.mp hv
    exact hresult
  have hc : c.length = (t.keep marks).rowCount := TransformOutput.length_values results
  have hkept (col : ValueColumn) (hcol : col ∈ (t.keep marks).columns) :
      col.length = (t.keep marks).rowCount := by
    obtain ⟨d, hd, rfl⟩ := List.mem_map.mp hcol
    refine Series.length_keep marks d.values ?_
    rw [List.length_map, hlength, ← htable d hd]
    exact Nat.le_refl _
  refine ⟨.array ⟨place ValueColumn.name c (t.keep marks).columns, (t.keep marks).rowCount⟩, ?_,
    .of_columns (.array c) rfl (fun col hcol => ?_) rfl ?_ rfl (fun k => ?_) fun j => ?_⟩
  · rw [assemble, Table.dropRows, hdrop]
    show (do Table.addColumn (.array (t.keep marks)) (.array (← ValueColumn.ofValues ..))) = _
    rw [hcolumn]
    show (ValueTable.addColumn (t.keep marks) c).map Table.array = _
    rw [ValueTable.addColumn_of_length hc]
    rfl
  · rcases mem_place hcol with rfl | hcol
    · exact hc
    · exact hkept col hcol
  · exact (List.length_map ..).trans hlength
  · exact TransformOutput.getElem?_values results k
  · exact map_getElem?_place Column.array
      (fun col => { col with values := Series.keep marks col.values }) (Column.keep marks)
      (fun _ => rfl) (fun _ => rfl) c t.columns j

theorem assemble_columns {f : Frame} {series : Series} {keep : List Bool}
    (htable : ∀ col ∈ f.columns, col.length = f.rowCount) (hseries : series.length = f.rowCount)
    (hkeep : keep.length = f.rowCount) :
    ∃ result, assemble (.columnar f) name type (.columns series keep) = .ok result ∧
      Assembled (.columnar f) name type (.columns series keep) result := by
  let c : FrameColumn := ⟨name, series.filter keep⟩
  let left : Frame :=
    ⟨f.columns.map fun col => { col with series := col.series.filter keep }, keep.count true⟩
  have hfilter : f.filter keep = .ok left := by
    rw [Frame.filter, if_neg fun h => absurd h.2 (by rw [hkeep]; exact Nat.lt_irrefl _)]
  have hleft := Frame.length_filter htable hfilter
  have hc : c.length = left.rowCount :=
    Series.length_keep keep series.cells (Nat.le_of_eq (hkeep.trans hseries.symm))
  refine ⟨.columnar ⟨place FrameColumn.name c left.columns, left.rowCount⟩, ?_,
    .of_columns (.columnar c) rfl (fun col hcol => ?_) rfl hkeep rfl (fun k => ?_) fun j => ?_⟩
  · rw [assemble, hfilter]
    show (Frame.addColumn left c).map Table.columnar = _
    rw [Frame.addColumn_of_length hleft hc]
    rfl
  · rcases mem_place hcol with rfl | hcol
    · exact hc
    · exact hleft col hcol
  · exact series.value?_filter keep k
  · exact map_getElem?_place Column.columnar
      (fun col => { col with series := col.series.filter keep }) (Column.keep keep)
      (fun _ => rfl) (fun _ => rfl) c f.columns j

-- Whatever a transform returns for every row can be put together with the table.
theorem assemble_covers (htable : table.Rectangular) (h : output.Covers table type) :
    ∃ result, assemble table name type output = .ok result ∧
      Assembled table name type output result := by
  cases output with
  | rows results =>
      obtain ⟨t, rfl, hlength, hvalues⟩ := h
      exact assemble_rows htable hlength hvalues
  | columns series keep =>
      obtain ⟨f, rfl, hseries, -, hkeep⟩ := h
      exact assemble_columns htable hseries hkeep

-- What a block does up to the end of the transform: the name and the type of the output column, and
-- what the transform returns.
def evaluation (table : Table) (c : Context) :
    Execution (String × ValueType × TransformOutput) := do
  let inputs := (← c.property "inputColumns" (.collection .text)).collection?.getD []
  let names := inputs.filterMap Value.text?
  let name := ((← c.property "outputColumn" .text).text?).getD ""
  checkInputs c table names
  match ← c.property "use" (.primitive .transform) with
  | .transform transform =>
    checkTypes c table names transform.inputs
    let type := (← transform.output).type
    Execution.write (overwriteLog c table name type)
    let output ← transform.execute table names c
    return (name, type, output)
  | value => Execution.violate (.invalidResult value.render "use" Primitive.transform.name)

theorem execute_eq (table : Table) (c : Context) :
    execute (.table table) c = do
      let (name, type, output) ← evaluation table c
      return .table (← Execution.ofTable (assemble table name type output)) := by
  rw [execute, evaluation]
  simp only [bind_assoc]
  refine bind_congr fun inputs => bind_congr fun name => bind_congr fun _ => ?_
  refine bind_congr fun value => ?_
  cases value with
  | transform transform => simp only [bind_assoc, pure_bind]
  | _ => rfl

theorem covers_evaluation {c : Context} (htable : table.Rectangular)
    (h : (evaluation table c).result = .ok (name, type, output)) : output.Covers table type := by
  obtain ⟨inputs, -, h⟩ := Execution.exists_of_result_bind h
  obtain ⟨outputColumn, -, h⟩ := Execution.exists_of_result_bind h
  obtain ⟨-, -, h⟩ := Execution.exists_of_result_bind h
  obtain ⟨value, -, h⟩ := Execution.exists_of_result_bind h
  cases value with
  | transform transform =>
      obtain ⟨-, -, h⟩ := Execution.exists_of_result_bind h
      obtain ⟨port, hport, h⟩ := Execution.exists_of_result_bind h
      obtain ⟨-, -, h⟩ := Execution.exists_of_result_bind h
      obtain ⟨result, hresult, h⟩ := Execution.exists_of_result_bind h
      cases h
      exact Transform.covers_execute htable hport hresult
  | _ => cases h

-- Once the transform has been evaluated the block does not fail any more.
theorem execute_table (table : Table) (c : Context) (htable : table.Rectangular)
    (h : (evaluation table c).result = .ok (name, type, output)) :
    ∃ result, (execute (.table table) c).result = .ok (.table result) ∧
      Assembled table name type output result := by
  obtain ⟨result, hresult, hassembled⟩ := assemble_covers htable (covers_evaluation htable h)
  refine ⟨result, ?_, hassembled⟩
  rw [execute_eq, Execution.result_bind_ok h]
  simp only [hresult]
  rfl

-- What comes after the numbers of the first column takes the place of the second one. Nothing comes
-- after the greatest number.
def numbers : ValueTable :=
  ⟨[⟨"n", .integer, [.integer 4, .integer Int64.maxValue, .integer 3]⟩,
    ⟨"next", .text, [.text "a", .text "b", .text "c"]⟩], 3⟩

def successor : Transform :=
  .mk "Successor" [.input "x" .integer, .output "y" .integer] "y"
    (.binary .add (.var "x" .unknown) (.literal (.integer 1) .unknown) .unknown) .unknown

def numbersContext : Context :=
  { Context.bare with
    blocks := [spec]
    nodes := [.block ⟨"Next", "TableTransformer",
      [.mk "inputColumns" (.expression (.literal (.collection [.literal (.text "n") .unknown])
          .unknown)) .unknown,
        .mk "outputColumn" (.expression (.literal (.text "next") .unknown)) .unknown,
        .mk "use" (.expression (.literal (.transform successor) .unknown)) .unknown], .unknown⟩] }

theorem execute_table_numbers :
    ∃ result, (execute (.table (.array numbers)) numbersContext).result = .ok (.table result) ∧
      result.rowCount = 2 ∧ (result.columnAt? 1).map Column.header = some ("next", .integer) ∧
      result.cell? 1 0 = some (.integer 3) ∧ result.cell? 1 1 = some (.integer 4) := by
  have hevaluation : (evaluation (.array numbers) numbersContext).result =
      .ok ("next", .integer, .rows [some (.integer 5), none, some (.integer 4)]) := rfl
  have hrectangular : (Table.array numbers).Rectangular := by
    show ∀ c ∈ numbers.columns, c.length = 3
    decide
  obtain ⟨result, hresult, hassembled⟩ := execute_table _ _ hrectangular hevaluation
  refine ⟨result, hresult, ?_, ?_, ?_, ?_⟩
  · rw [hassembled.rowCount]
    rfl
  · rw [hassembled.header]
    rfl
  · rw [hassembled.cell]
    rfl
  · rw [hassembled.cell]
    rfl

end TableTransformer

end TableFlow
