import TableFlow.Proofs.Blocks.TableInterpreter

namespace TableFlow

-- The same run on a backend.
def Context.on (c : Context) (b : Backend) : Context :=
  { c with settings := { c.settings with backend := b } }

namespace TableInterpreter

variable {c : Context} {e : Entry} {entries : List Entry} {rows : List (List String)}

theorem Entry.checked_of_constraints (h : e.type.constraints = []) (row : List String) :
    e.Checked c row := by
  intro v hv
  refine ⟨true, ?_⟩
  rw [Context.isValid_of_constraints (Entry.represents_of_value? hv) h]
  rfl

theorem Entry.fits_of_constraints (h : e.type.constraints = []) (row : List String) :
    e.fits c row = (e.value? row).isSome := by
  rw [Entry.fits, h]
  cases e.value? row <;> rfl

-- Without constraints the same rows fit in every run.
theorem fitting_on (b : Backend) (h : ∀ e ∈ entries, e.type.constraints = []) :
    fitting (c.on b) entries rows = fitting c entries rows := by
  refine List.filter_congr fun row _ => ?_
  rw [Bool.eq_iff_iff, List.all_eq_true, List.all_eq_true]
  refine forall₂_congr fun e he => ?_
  rw [Entry.fits_of_constraints (h e he), Entry.fits_of_constraints (h e he)]

-- Adds entries as columns are added to a table of values: each takes the place of an earlier one of
-- its name.
def mergedInto (entries others : List Entry) : List Entry :=
  others.foldl (fun entries e => place Entry.name e entries) entries

def merged (entries : List Entry) : List Entry := mergedInto [] entries

theorem nodup_mergedInto {others : List Entry} (h : (entries.map (·.name)).Nodup) :
    ((mergedInto entries others).map (·.name)).Nodup := by
  induction others generalizing entries with
  | nil => exact h
  | cons e others ih => exact ih (nodup_place h)

theorem mergedInto_of_nodup {others : List Entry} (h : ((entries ++ others).map (·.name)).Nodup) :
    mergedInto entries others = entries ++ others := by
  induction others generalizing entries with
  | nil => simp [mergedInto]
  | cons e others ih =>
      have hfresh : e.name ∉ entries.map (·.name) := by
        rw [List.map_append, List.map_cons] at h
        exact fun hmem => (List.nodup_append.mp h).2.2 _ hmem _ (List.mem_cons_self ..) rfl
      have hrest : ((entries ++ [e] ++ others).map (·.name)).Nodup := by simpa using h
      have hplace : mergedInto entries (e :: others) = mergedInto (entries ++ [e]) others := by
        rw [mergedInto, List.foldl_cons, place_of_fresh hfresh]
        rfl
      rw [hplace, ih hrest, List.append_assoc, List.singleton_append]

theorem merged_of_nodup (h : (entries.map (·.name)).Nodup) : merged entries = entries :=
  mergedInto_of_nodup h

theorem names_merged_iff : (merged entries).map (·.name) = entries.map (·.name) ↔
    (entries.map (·.name)).Nodup := by
  constructor
  · intro h
    rw [← h]
    exact nodup_mergedInto List.nodup_nil
  · intro h
    rw [merged_of_nodup h]

-- The columns are merged as the entries are.
theorem foldl_place_columns (added others : List Entry) :
    (columns others rows).foldl (fun columns c => place ValueColumn.name c columns)
      (columns added rows) = columns (mergedInto added others) rows := by
  induction others generalizing added with
  | nil => rfl
  | cons e others ih =>
      let column (e : Entry) : ValueColumn := ⟨e.name, e.type, rows.filterMap e.value?⟩
      have hplace : place ValueColumn.name (column e) (columns added rows) =
          columns (place Entry.name e added) rows := map_place column (fun _ => rfl) e added
      show (columns others rows).foldl _ (place ValueColumn.name _ (columns added rows)) = _
      rw [hplace]
      exact ih (place Entry.name e added)

-- The table of values that is read: its columns are merged, but a row has to fit in all entries.
def mergedTable (c : Context) (entries : List Entry) (rows : List (List String)) : ValueTable :=
  { tableOf c entries rows with
    columns := columns (merged entries) (fitting c entries rows) }

theorem ofColumns_array : Table.ofColumns .array (columns entries (fitting c entries rows)) =
    .ok (.array (mergedTable c entries rows)) := by
  have hcolumns := ValueTable.foldlM_addColumn_of_length (t := .empty) (.inl rfl)
    fun _ hcol => length_of_mem_columns c entries rows hcol
  have hmerged : (columns entries (fitting c entries rows)).foldl
      (fun columns c => place ValueColumn.name c columns) ValueTable.empty.columns =
        columns (merged entries) (fitting c entries rows) := foldl_place_columns [] entries
  have hnil : columns entries (fitting c entries rows) = [] ↔ entries = [] := List.map_eq_nil_iff
  rw [Table.ofColumns, ValueTable.ofColumns, hcolumns, hmerged]
  simp only [hnil]
  rfl

theorem ofColumns_columnar : Table.ofColumns .columnar (columns entries (fitting c entries rows)) =
    .ok (.columnar (tableOf c entries rows).toFrame) := by
  by_cases hnil : entries = []
  · simp [hnil, columns, Table.ofColumns, Frame.ofValueColumns, Frame.ofColumns, Frame.empty,
      tableOf, ValueTable.toFrame, Except.map]
  · have hne : (columns entries (fitting c entries rows)).map ValueColumn.toFrameColumn ≠ [] := by
      simpa [columns] using hnil
    have hframe := Frame.ofColumns_of_length hne fun col hcol => by
      obtain ⟨d, hd, rfl⟩ := List.mem_map.mp hcol
      exact d.length_toFrameColumn.trans (length_of_mem_columns c entries rows hd)
    rw [Table.ofColumns, Frame.ofValueColumns]
    refine (congrArg (Except.map Table.columnar) hframe).trans ?_
    rw [tableOf, ValueTable.toFrame, if_neg hnil]
    rfl

theorem same_tables_iff (htypes : ∀ e ∈ entries, e.type.scalarType?.isSome = true) :
    let x : Table := .array (mergedTable c entries rows)
    let y : Table := .columnar (tableOf c entries rows).toFrame
    (x.columnNames = y.columnNames ∧ x.rowCount = y.rowCount ∧
      ∀ row column, x.cell? row column = y.cell? row column) ↔ (entries.map (·.name)).Nodup := by
  intro x y
  have hx : x.columnNames = (merged entries).map (·.name) := by
    simp only [x, Table.columnNames, mergedTable, columns, List.map_map]
    rfl
  have hy : y.columnNames = entries.map (·.name) := by
    have hnames := ValueTable.columnNames_on (t := tableOf c entries rows) .columnar
    rwa [columnNames_tableOf] at hnames
  rw [hx, hy, names_merged_iff]
  refine ⟨fun h => h.1, fun h => ⟨h, rfl, fun row column => ?_⟩⟩
  have hmerged : mergedTable c entries rows = tableOf c entries rows := by
    rw [mergedTable, merged_of_nodup h]
    rfl
  have hcell := ValueTable.cell?_toFrame
    (fun col hcol => holds_of_mem_tableOf c entries rows htypes hcol) row column
  simp only [x, y, hmerged, Table.cell?, hcell]

section Runs

variable {sheet : Sheet} {header : Bool} {definitions : List Assignment}

-- What is read with plain types is read without constraints, and as cells of a frame.
theorem plain_of_mem_sources (htypes : ∀ d ∈ definitions, ∃ σ : ScalarType, d.type = σ.valueType)
    (he : e ∈ sources sheet header definitions) :
    e.type.constraints = [] ∧ e.type.scalarType?.isSome = true := by
  obtain ⟨d, hd, htype⟩ := exists_of_mem_sources he
  obtain ⟨σ, hσ⟩ := htypes d hd
  rw [htype, hσ]
  cases σ <;> exact ⟨rfl, rfl⟩

-- Both backends read the same columns.
theorem result_readTable_on (b : Backend) (htypes : ∀ e ∈ entries, e.type.scalarType?.isSome = true)
    (h : ∀ e ∈ entries, e.type.constraints = []) :
    (readTable (c.on b) sheet header entries).result =
      (Execution.ofTable (Table.ofColumns b
        (columns entries (fitting c entries (bodyRows sheet header))))).result := by
  rw [result_readTable_columns sheet header htypes fun row _ e he =>
    Entry.checked_of_constraints (h e he) row, fitting_on b h]
  rfl

end Runs

-- A sheet is refused on both backends or read on both, and then the tables have the same names, the
-- same number of rows and the same cells exactly if no name is read twice.
theorem execute_on_backends (sheet : Sheet) (c : Context) (header : Bool)
    (definitions : List Assignment)
    (hheader : (c.property "header" .boolean).result = .ok (.boolean header))
    (hcolumns : (c.property "columns" assignments).result =
      .ok (.collection (definitions.map .assignment)))
    (htypes : ∀ d ∈ definitions, ∃ σ : ScalarType, d.type = σ.valueType) :
    (∃ failure, ∀ b, (execute (.sheet sheet) (c.on b)).result = .error failure) ∨
    ∃ x y, (execute (.sheet sheet) (c.on .array)).result = .ok (.table x) ∧
      (execute (.sheet sheet) (c.on .columnar)).result = .ok (.table y) ∧
      ((x.columnNames = y.columnNames ∧ x.rowCount = y.rowCount ∧
          ∀ row column, x.cell? row column = y.cell? row column) ↔
        ((sources sheet header definitions).map (·.name)).Nodup) := by
  let entries := sources sheet header definitions
  let rows := bodyRows sheet header
  have hconstraints : ∀ e ∈ entries, e.type.constraints = [] :=
    fun e he => (plain_of_mem_sources htypes he).1
  have hscalar : ∀ e ∈ entries, e.type.scalarType?.isSome = true :=
    fun e he => (plain_of_mem_sources htypes he).2
  -- The properties are the same on every backend.
  have hresult (b : Backend) : (execute (.sheet sheet) (c.on b)).result = _ :=
    result_execute hheader hcolumns
  rcases entries_cases c sheet header definitions with ⟨-, hentries⟩ | ⟨-, hentries⟩
  · refine .inl ⟨.error (refusal c sheet header definitions), fun b => ?_⟩
    have hfails : (TableInterpreter.entries (c.on b) sheet header definitions).result = _ :=
      hentries
    rw [hresult, Execution.result_bind_error hfails]
  · have htable {b : Backend} {table : Table}
        (h : Table.ofColumns b (columns entries (fitting c entries rows)) = .ok table) :
        (execute (.sheet sheet) (c.on b)).result = .ok (.table table) := by
      have hok : (TableInterpreter.entries (c.on b) sheet header definitions).result = _ := hentries
      have hread : (readTable (c.on b) sheet header entries).result = _ :=
        result_readTable_on b hscalar hconstraints
      rw [h] at hread
      rw [hresult, Execution.result_bind_ok hok, Execution.result_bind_ok hread]
      rfl
    exact .inr ⟨_, _, htable ofColumns_array, htable ofColumns_columnar, same_tables_iff hscalar⟩

-- Two people, and a block that reads some columns of them. A column that is read as a number and
-- again as a text is there once in a table of values and twice in a frame.
def guests : Sheet := ⟨[["id", "name"], ["1", "Ann"], ["2", "Bo"]]⟩

def guestColumns : List Assignment := [.mk "id" .integer, .mk "name" .text]

def renumbered : List Assignment := guestColumns ++ [.mk "id" .text]

def reading (definitions : List Assignment) : Context :=
  { peopleContext with
    nodes := [.block ⟨"People", "TableInterpreter", [.mk "columns" (.expression (.literal
      (.collection (definitions.map fun d => .literal (.assignment d) .unknown)) .unknown))
      .unknown], .unknown⟩] }

theorem execute_on_backends_guests :
    ∃ x y, (execute (.sheet guests) ((reading guestColumns).on .array)).result = .ok (.table x) ∧
      (execute (.sheet guests) ((reading guestColumns).on .columnar)).result = .ok (.table y) ∧
      x.columnNames = y.columnNames ∧ x.rowCount = y.rowCount ∧
      ∀ row column, x.cell? row column = y.cell? row column := by
  have htypes : ∀ d ∈ guestColumns, ∃ σ : ScalarType, d.type = σ.valueType := by
    intro d hd
    simp only [guestColumns, List.mem_cons, List.not_mem_nil, or_false] at hd
    rcases hd with rfl | rfl
    · exact ⟨.integer, rfl⟩
    · exact ⟨.text, rfl⟩
  rcases execute_on_backends guests (reading guestColumns) true guestColumns rfl rfl htypes with
    ⟨failure, hfails⟩ | ⟨x, y, hx, hy, hsame⟩
  · have hfailure := hfails .array
    cases hfailure
  · exact ⟨x, y, hx, hy, hsame.mpr (by decide)⟩

theorem repeated_column_kept_by_one_backend :
    ∃ x y, (execute (.sheet guests) ((reading renumbered).on .array)).result = .ok (.table x) ∧
      (execute (.sheet guests) ((reading renumbered).on .columnar)).result = .ok (.table y) ∧
      x.columnNames = ["id", "name"] ∧ y.columnNames = ["id", "name", "id"] :=
  ⟨_, _, rfl, rfl, rfl, rfl⟩

end TableInterpreter

end TableFlow
