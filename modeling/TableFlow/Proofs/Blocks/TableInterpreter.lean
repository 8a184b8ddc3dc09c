import TableFlow.Blocks.TableInterpreter
import TableFlow.Proofs.Execution
import TableFlow.Proofs.Table.Column
import TableFlow.Proofs.Table.Simulation

namespace TableFlow.TableInterpreter

-- The rows that are not the header.
def bodyRows (sheet : Sheet) (header : Bool) : List (List String) :=
  if header then sheet.rows.tail else sheet.rows

-- With a header the definitions that it names, each read where its name stands first; without one
-- all definitions, each read at its own position.
def sources (sheet : Sheet) (header : Bool) (definitions : List Assignment) : List Entry :=
  if header then
    let names := sheet.rows.head?.getD []
    (definitions.filter (·.name ∈ names)).map fun d => ⟨names.idxOf d.name, d.name, d.type⟩
  else definitions.mapIdx fun index d => ⟨index, d.name, d.type⟩

namespace Entry

-- What a row has for an entry; behind the end of a row the texts are empty.
def value? (e : Entry) (row : List String) : Option Value :=
  (e.type.ofText? (row.getD e.source "")).toOption.join

-- Whether a row has a value that satisfies all constraints.
def fits (c : Context) (e : Entry) (row : List String) : Bool :=
  (e.value? row).any fun v => e.type.constraints.all (c.accepts v)

-- The checks of a value come to an end.
def Checked (c : Context) (e : Entry) (row : List String) : Prop :=
  ∀ v, e.value? row = some v → ∃ valid, (c.isValid v e.type).result = .ok valid

end Entry

-- The rows that fit in every place.
def fitting (c : Context) (entries : List Entry) (rows : List (List String)) :
    List (List String) := rows.filter fun row => entries.all (·.fits c row)

-- The columns with the values of some rows.
def columns (entries : List Entry) (rows : List (List String)) : List ValueColumn :=
  entries.map fun e => ⟨e.name, e.type, rows.filterMap e.value?⟩

variable {c : Context} {e : Entry} {entries : List Entry} {row : List String}

theorem Entry.isSome_value? (h : e.fits c row = true) : (e.value? row).isSome = true := by
  rw [Entry.fits, Option.any_eq_true] at h
  obtain ⟨v, hv, -⟩ := h
  rw [hv]
  rfl

-- Texts are read as scalars without a violation.
theorem Entry.ofText?_eq (ht : e.type.scalarType?.isSome = true) (row : List String) :
    e.type.ofText? (cellText row e) = .ok (e.value? row) := by
  obtain ⟨value?, hvalue⟩ := ValueType.exists_ofText?_of_scalarType? ht (cellText row e)
  have heq : e.value? row = (e.type.ofText? (cellText row e)).toOption.join := rfl
  rw [heq, hvalue]
  rfl

theorem Entry.represents_of_value? {v : Value} (h : e.value? row = some v) :
    e.type.represents v = true := by
  rw [Entry.value?] at h
  cases hread : e.type.ofText? (row.getD e.source "") with
  | error violation =>
      rw [hread] at h
      cases h
  | ok value? =>
      rw [hread] at h
      obtain rfl : value? = some v := h
      exact ValueType.represents_of_ofText? hread

theorem result_read (ht : e.type.scalarType?.isSome = true) (h : e.Checked c row) :
    (read c e.type (cellText row e)).result =
      .ok (if e.fits c row then e.value? row else none) := by
  rw [read, Entry.ofText?_eq ht]
  cases hv : e.value? row with
  | none =>
      rw [ite_self]
      rfl
  | some v =>
      obtain ⟨valid, hvalid⟩ := h v hv
      have hfits : e.fits c row = valid := by
        rw [Entry.fits, hv, Option.any_some,
          Context.result_isValid (Entry.represents_of_value? hv) hvalid]
      dsimp only
      rw [Execution.result_bind_ok hvalid, hfits]
      cases valid <;> rfl

theorem result_readCell (ht : e.type.scalarType?.isSome = true) (h : e.Checked c row)
    (index : Nat) :
    (readCell c row index e).result = .ok (if e.fits c row then e.value? row else none) := by
  rw [readCell, Execution.result_bind_ok (result_read ht h)]
  cases hfits : e.fits c row with
  | false => rfl
  | true =>
      obtain ⟨v, hv⟩ := Option.isSome_iff_exists.mp (Entry.isSome_value? hfits)
      rw [if_pos rfl, hv]
      rfl

-- Values are together what the items have, unless one of them does not fit.
private theorem mapM_id_ite {α β : Type} {f : α → Option β} {p : α → Bool} {as : List α}
    (h : ∀ a ∈ as, p a = true → (f a).isSome = true) :
    (as.map fun a => if p a then f a else none).mapM id =
      if as.all p then some (as.filterMap f) else none := by
  induction as with
  | nil => rfl
  | cons a as ih =>
      have ih := ih fun b hb => h b (List.mem_cons_of_mem a hb)
      rw [List.map_cons, List.mapM_cons, ih, List.all_cons]
      cases ha : p a with
      | false => rfl
      | true =>
          obtain ⟨b, hb⟩ := Option.isSome_iff_exists.mp (h a (List.mem_cons_self ..) ha)
          rw [if_pos rfl, hb, List.filterMap_cons, hb, Bool.true_and]
          cases as.all p <;> rfl

theorem result_readRow (htypes : ∀ e ∈ entries, e.type.scalarType?.isSome = true)
    (h : ∀ e ∈ entries, e.Checked c row) (index : Nat) :
    (readRow c entries row index).result =
      .ok (if entries.all (·.fits c row) then some (entries.filterMap (·.value? row))
        else none) := by
  have hcells : (entries.mapM (readCell c row index)).result =
      .ok (entries.map fun e => if e.fits c row then e.value? row else none) :=
    Execution.result_mapM_of_ok fun e he => result_readCell (htypes e he) (h e he) index
  rw [readRow, Execution.result_bind_ok hcells,
    mapM_id_ite fun e _ => Entry.isSome_value? (c := c)]
  cases entries.all (·.fits c row) <;> rfl

-- A row that has all values adds them to the columns, each to its own.
theorem pushRow_columns (entries : List Entry) (rows : List (List String))
    (h : ∀ e ∈ entries, (e.value? row).isSome = true) :
    pushRow (columns entries rows) (entries.filterMap (·.value? row)) =
      .ok (columns entries (rows ++ [row])) := by
  induction entries with
  | nil => rfl
  | cons e entries ih =>
      obtain ⟨v, hv⟩ := Option.isSome_iff_exists.mp (h e (List.mem_cons_self ..))
      have ih := ih fun e' he' => h e' (List.mem_cons_of_mem e he')
      have hpush : ValueColumn.push ⟨e.name, e.type, rows.filterMap e.value?⟩ v =
          .ok ⟨e.name, e.type, (rows ++ [row]).filterMap e.value?⟩ := by
        have hrepresents : e.type.represents v = true := Entry.represents_of_value? hv
        rw [ValueColumn.push_of_represents hrepresents, List.filterMap_append, List.filterMap_cons,
          hv]
        rfl
      rw [pushRow, columns] at ih ⊢
      rw [List.map_cons, List.filterMap_cons, hv, List.zip_cons_cons, List.mapM_cons]
      simp only [hpush, ih]
      rfl

-- By induction on the rows that are still to be added.
theorem foldlM_pushRow (entries : List Entry) (added rows : List (List String))
    (h : ∀ row ∈ rows, ∀ e ∈ entries, (e.value? row).isSome = true) :
    (rows.map fun row => entries.filterMap (·.value? row)).foldlM pushRow (columns entries added) =
      .ok (columns entries (added ++ rows)) := by
  induction rows generalizing added with
  | nil =>
      rw [List.append_nil]
      rfl
  | cons row rows ih =>
      rw [List.map_cons, List.foldlM_cons,
        pushRow_columns entries added (h row (List.mem_cons_self ..))]
      have hrows : ∀ row' ∈ rows, ∀ e ∈ entries, (e.value? row').isSome = true :=
        fun row' hrow' => h row' (List.mem_cons_of_mem row hrow')
      refine (ih (added ++ [row]) hrows).trans ?_
      rw [List.append_assoc, List.singleton_append]

private theorem map_some_filterMap {α β : Type} {f : α → Option β} {as : List α}
    (h : ∀ a ∈ as, (f a).isSome = true) : (as.filterMap f).map some = as.map f := by
  induction as with
  | nil => rfl
  | cons a as ih =>
      obtain ⟨b, hb⟩ := Option.isSome_iff_exists.mp (h a (List.mem_cons_self ..))
      rw [List.filterMap_cons, hb, List.map_cons, List.map_cons, hb,
        ih fun a' ha' => h a' (List.mem_cons_of_mem a ha')]

private theorem getElem?_filterMap {α β : Type} {f : α → Option β} {as : List α}
    (h : ∀ a ∈ as, (f a).isSome = true) (i : Nat) : (as.filterMap f)[i]? = as[i]?.bind f := by
  have hsome : ((as.filterMap f).map some)[i]? = (as.map f)[i]? :=
    congrArg (·[i]?) (map_some_filterMap h)
  rw [List.getElem?_map, List.getElem?_map] at hsome
  cases ha : as[i]? with
  | none =>
      rw [ha] at hsome
      exact Option.map_eq_none_iff.mp hsome
  | some a =>
      rw [ha] at hsome
      obtain ⟨b, hb, hfb⟩ := Option.map_eq_some_iff.mp hsome
      rw [hb, Option.bind_some, ← hfb]

theorem isSome_value?_of_mem_fitting {rows : List (List String)}
    (hrow : row ∈ fitting c entries rows) (he : e ∈ entries) : (e.value? row).isSome = true := by
  rw [fitting, List.mem_filter, List.all_eq_true] at hrow
  exact Entry.isSome_value? (hrow.2 e he)

-- The table that holds what fits.
def tableOf (c : Context) (entries : List Entry) (rows : List (List String)) : ValueTable :=
  ⟨columns entries (fitting c entries rows),
    if entries = [] then 0 else (fitting c entries rows).length⟩

section

variable (c : Context) (entries : List Entry) (rows : List (List String))

theorem columnNames_tableOf : (tableOf c entries rows).columns.map (·.name) =
    entries.map (·.name) := by
  rw [tableOf, columns, List.map_map]
  rfl

-- Every row that fits has a value in every column.
theorem length_of_mem_columns {col : ValueColumn}
    (hcol : col ∈ columns entries (fitting c entries rows)) :
    col.length = (fitting c entries rows).length := by
  obtain ⟨e, he, rfl⟩ := List.mem_map.mp hcol
  have hsome : ((fitting c entries rows).filterMap e.value?).map some =
      (fitting c entries rows).map e.value? :=
    map_some_filterMap fun row hrow => isSome_value?_of_mem_fitting hrow he
  have hlength := congrArg List.length hsome
  rwa [List.length_map, List.length_map] at hlength

theorem ofColumns_columns (hnames : (entries.map (·.name)).Nodup) :
    ValueTable.ofColumns (columns entries (fitting c entries rows)) =
      .ok (tableOf c entries rows) := by
  have hcolumns := columnNames_tableOf c entries rows
  rw [ValueTable.ofColumns_of_length (hcolumns ▸ hnames) fun col hcol =>
    length_of_mem_columns c entries rows hcol]
  simp only [tableOf, columns, List.map_eq_nil_iff]

theorem cell?_tableOf (row column : Nat) :
    (tableOf c entries rows).cell? row column =
      entries[column]?.bind fun e => (fitting c entries rows)[row]?.bind e.value? := by
  rw [ValueTable.cell?, tableOf, columns, List.getElem?_map]
  cases he : entries[column]? with
  | none => rfl
  | some e =>
      exact getElem?_filterMap
        (fun row hrow => isSome_value?_of_mem_fitting hrow (List.mem_of_getElem? he)) row

theorem holds_of_mem_tableOf (htypes : ∀ e ∈ entries, e.type.scalarType?.isSome = true)
    {col : ValueColumn} (hcol : col ∈ (tableOf c entries rows).columns) : ∃ σ, col.Holds σ := by
  obtain ⟨e, he, rfl⟩ := List.mem_map.mp hcol
  obtain ⟨σ, hσ⟩ := Option.isSome_iff_exists.mp (htypes e he)
  refine ⟨σ, hσ, fun v hv => ?_⟩
  obtain ⟨row, -, hvalue⟩ := List.mem_filterMap.mp hv
  exact Entry.represents_of_value? hvalue

end

-- The run over the rows below the header makes a table of the values of those that fit.
theorem result_readTable_columns (sheet : Sheet) (header : Bool)
    (htypes : ∀ e ∈ entries, e.type.scalarType?.isSome = true)
    (hchecks : ∀ row ∈ bodyRows sheet header, ∀ e ∈ entries, e.Checked c row) :
    (readTable c sheet header entries).result =
      (Execution.ofTable (Table.ofColumns c.settings.backend
        (columns entries (fitting c entries (bodyRows sheet header))))).result := by
  let kept := fitting c entries (bodyRows sheet header)
  let values? (row : List String) : Option (List Value) :=
    if entries.all (·.fits c row) then some (entries.filterMap (·.value? row)) else none
  have hfst : (dataRows sheet header).map Prod.fst = bodyRows sheet header := by
    cases header <;> simp [dataRows, bodyRows, List.zipIdx_map_fst]
  have hrows : ((dataRows sheet header).mapM fun row => readRow c entries row.1 row.2).result =
      .ok ((dataRows sheet header).map fun row => values? row.1) :=
    Execution.result_mapM_of_ok fun row hrow =>
      result_readRow htypes (hchecks row.1 (hfst ▸ List.mem_map_of_mem hrow)) row.2
  have hkept : ((dataRows sheet header).map fun row => values? row.1).filterMap id =
      kept.map fun row => entries.filterMap (·.value? row) := by
    calc ((dataRows sheet header).map fun row => values? row.1).filterMap id
        = (bodyRows sheet header).filterMap values? := by
          rw [← hfst, List.filterMap_map, List.filterMap_map]
          rfl
      _ = kept.map fun row => entries.filterMap (·.value? row) := by
          simp only [kept, fitting, ← List.filterMap_eq_map, List.filterMap_filter]
          rfl
  have hpush : ((kept.map fun row => entries.filterMap (·.value? row)).foldlM pushRow
      (columns entries [])) = .ok (columns entries kept) :=
    foldlM_pushRow entries [] kept fun row hrow e he => isSome_value?_of_mem_fitting hrow he
  have hempty : (entries.map fun e => ValueColumn.empty e.name e.type) = columns entries [] := rfl
  rw [readTable, Execution.result_bind_ok hrows, hkept]
  simp only [hempty, hpush]
  rw [Execution.result_bind_ok rfl]

-- With distinct names this is the table of the rows that fit.
theorem result_readTable (sheet : Sheet) (header : Bool) (hnames : (entries.map (·.name)).Nodup)
    (htypes : ∀ e ∈ entries, e.type.scalarType?.isSome = true)
    (hchecks : ∀ row ∈ bodyRows sheet header, ∀ e ∈ entries, e.Checked c row) :
    (readTable c sheet header entries).result =
      .ok ((tableOf c entries (bodyRows sheet header)).on c.settings.backend) := by
  rw [result_readTable_columns sheet header htypes hchecks,
    ValueTable.ofColumns_on (columnNames_tableOf c entries _ ▸ hnames)
      (ofColumns_columns c entries _ hnames) c.settings.backend]
  rfl

-- There is no header where one is asked for, or no row has as many cells as there are definitions.
def TooSmall (sheet : Sheet) (header : Bool) (definitions : List Assignment) : Prop :=
  (header = true ∧ sheet.rows = []) ∨
    (header = false ∧ definitions ≠ [] ∧ ∀ row ∈ sheet.rows, row.length < definitions.length)

-- What is said about a sheet that is too small.
def refusal (c : Context) (sheet : Sheet) (header : Bool) (definitions : List Assignment) :
    ExecutionError :=
  if header then .block .noHeader (c.propertyAnchor "header")
  else .block (.tooFewColumns definitions.length sheet.columnCount) (c.propertyAnchor "columns")

variable {sheet : Sheet} {header : Bool} {definitions : List Assignment}

private theorem foldl_max_lt {lengths : List Nat} {a n : Nat} :
    lengths.foldl max a < n ↔ a < n ∧ ∀ length ∈ lengths, length < n := by
  induction lengths generalizing a with
  | nil => simp
  | cons length lengths ih =>
      rw [List.foldl_cons, ih, List.forall_mem_cons, Nat.max_lt, and_assoc]

theorem columnCount_lt_iff : sheet.columnCount < definitions.length ↔
    definitions ≠ [] ∧ ∀ row ∈ sheet.rows, row.length < definitions.length := by
  rw [Sheet.columnCount, foldl_max_lt, List.length_pos_iff, List.forall_mem_map]

theorem matchHeader_eq (names : List String) (d : Assignment) :
    matchHeader names d =
      if d.name ∈ names then some ⟨names.idxOf d.name, d.name, d.type⟩ else none := by
  rw [matchHeader]
  split
  next hmem =>
    have hfind : names.findIdx? (· == d.name) = some (names.idxOf d.name) :=
      List.findIdx?_eq_some_of_exists ⟨d.name, hmem, beq_self_eq_true d.name⟩
    rw [hfind]
    rfl
  next hmem =>
    have hfind : names.findIdx? (· == d.name) = none := by
      refine List.findIdx?_eq_none_iff.mpr fun name hname => ?_
      exact beq_false_of_ne fun heq => hmem (heq ▸ hname)
    rw [hfind]
    rfl

theorem filterMap_matchHeader (names : List String) (definitions : List Assignment) :
    definitions.filterMap (matchHeader names) =
      (definitions.filter (·.name ∈ names)).map fun d =>
        ⟨names.idxOf d.name, d.name, d.type⟩ := by
  rw [← List.filterMap_eq_map, List.filterMap_filter]
  refine List.filterMap_congr fun d _ => ?_
  rw [matchHeader_eq]
  simp only [decide_eq_true_eq, Function.comp_apply]

theorem entriesInOrder_eq (definitions : List Assignment) :
    entriesInOrder definitions = definitions.mapIdx fun index d => ⟨index, d.name, d.type⟩ := by
  rw [List.mapIdx_eq_zipIdx_map]
  rfl

-- A sheet is refused if it is too small, and otherwise it is known what is to be read.
theorem entries_cases (c : Context) (sheet : Sheet) (header : Bool)
    (definitions : List Assignment) :
    (TooSmall sheet header definitions ∧
      (TableInterpreter.entries c sheet header definitions).result =
        .error (.error (refusal c sheet header definitions))) ∨
    (¬ TooSmall sheet header definitions ∧
      (TableInterpreter.entries c sheet header definitions).result =
        .ok (sources sheet header definitions)) := by
  cases header with
  | true =>
      cases hrows : sheet.rows with
      | nil =>
          refine .inl ⟨.inl ⟨rfl, hrows⟩, ?_⟩
          simp only [entries, Sheet.header?, hrows]
          rfl
      | cons names rows =>
          refine .inr ⟨fun h => ?_, ?_⟩
          · rcases h with ⟨-, hnil⟩ | ⟨hheader, -⟩
            · rw [hrows] at hnil
              cases hnil
            · cases hheader
          · have hsources : sources sheet true definitions =
                definitions.filterMap (matchHeader names) := by
              rw [filterMap_matchHeader, sources, if_pos rfl, hrows]
              rfl
            rw [hsources]
            simp only [entries, Sheet.header?, hrows]
            rfl
  | false =>
      have hentries : TableInterpreter.entries c sheet false definitions =
          if sheet.columnCount < definitions.length then
            Execution.fail (refusal c sheet false definitions)
          else pure (entriesInOrder definitions) := rfl
      rw [hentries]
      by_cases hlt : sheet.columnCount < definitions.length
      · refine .inl ⟨.inr ⟨rfl, columnCount_lt_iff.mp hlt⟩, ?_⟩
        rw [if_pos hlt]
        rfl
      · refine .inr ⟨fun h => ?_, ?_⟩
        · rcases h with ⟨hheader, -⟩ | ⟨-, hsmall⟩
          · cases hheader
          · exact hlt (columnCount_lt_iff.mpr hsmall)
        · rw [if_neg hlt, entriesInOrder_eq]
          rfl

theorem nodup_sources (sheet : Sheet) (header : Bool) (h : (definitions.map (·.name)).Nodup) :
    ((sources sheet header definitions).map (·.name)).Nodup := by
  cases header with
  | true =>
      simp only [sources, if_true, List.map_map]
      exact h.sublist (List.filter_sublist.map _)
  | false =>
      have hmap : (sources sheet false definitions).map (·.name) = definitions.map (·.name) := by
        refine List.ext_getElem? fun i => ?_
        simp only [sources, Bool.false_eq_true, if_false, List.getElem?_map, List.getElem?_mapIdx,
          Option.map_map, Function.comp_def]
      rwa [hmap]

theorem exists_of_mem_sources (he : e ∈ sources sheet header definitions) :
    ∃ d ∈ definitions, e.type = d.type := by
  cases header with
  | true =>
      obtain ⟨d, hd, rfl⟩ := List.mem_map.mp he
      exact ⟨d, List.mem_of_mem_filter hd, rfl⟩
  | false =>
      obtain ⟨index, hindex, rfl⟩ := List.mem_mapIdx.mp he
      exact ⟨definitions[index], List.getElem_mem hindex, rfl⟩

private theorem filterMap_assignment? (definitions : List Assignment) :
    (definitions.map Value.assignment).filterMap Value.assignment? = definitions := by
  rw [List.filterMap_map]
  exact List.filterMap_some

-- The run of a block over a sheet, once its properties are known.
theorem result_execute (hheader : (c.property "header" .boolean).result = .ok (.boolean header))
    (hcolumns : (c.property "columns" assignments).result =
      .ok (.collection (definitions.map .assignment))) :
    (execute (.sheet sheet) c).result =
      (TableInterpreter.entries c sheet header definitions >>= fun entries =>
        readTable c sheet header entries >>= fun table => pure (Artifact.table table)).result := by
  rw [execute, Execution.result_bind_ok hheader, Execution.result_bind_ok hcolumns]
  simp only [Value.boolean?, Value.collection?, Option.getD_some, filterMap_assignment?]
  refine Execution.result_bind_congr fun entries => ?_
  rw [Execution.result_bind_ok rfl]
  exact Execution.result_bind_congr fun table => rfl

-- A sheet is read as a table exactly if it is not too small. The columns of the table are what is
-- to be read, and its rows are those that fit, in their order, on either backend.
theorem execute_sheet (sheet : Sheet) (c : Context) (header : Bool) (definitions : List Assignment)
    (hheader : (c.property "header" .boolean).result = .ok (.boolean header))
    (hcolumns : (c.property "columns" assignments).result =
      .ok (.collection (definitions.map .assignment)))
    (hnames : (definitions.map (·.name)).Nodup)
    (htypes : ∀ d ∈ definitions, d.type.scalarType?.isSome = true)
    (hchecks : ∀ row ∈ bodyRows sheet header, ∀ e ∈ sources sheet header definitions,
      e.Checked c row) :
    let entries := sources sheet header definitions
    let kept := fitting c entries (bodyRows sheet header)
    let result := (execute (.sheet sheet) c).result
    ((∃ failure, result = .error failure) ↔ TooSmall sheet header definitions) ∧
    (∀ failure, result = .error failure →
      failure = .error (refusal c sheet header definitions)) ∧
    (∀ output, result = .ok output → ∃ table, output = .table table ∧
      table.backend = c.settings.backend ∧
      table.columnNames = entries.map (·.name) ∧
      table.rowCount = (if entries = [] then 0 else kept.length) ∧
      ∀ row column, table.cell? row column =
        entries[column]?.bind fun e => kept[row]?.bind e.value?) := by
  intro entries kept result
  have hresult : result = _ := result_execute hheader hcolumns
  rcases entries_cases c sheet header definitions with ⟨hsmall, hentries⟩ | ⟨hsmall, hentries⟩
  · rw [Execution.result_bind_error hentries] at hresult
    rw [hresult]
    refine ⟨⟨fun _ => hsmall, fun _ => ⟨_, rfl⟩⟩, fun failure h => ?_, fun output h => ?_⟩
    · cases h
      rfl
    · cases h
  · have hscalar : ∀ e ∈ entries, e.type.scalarType?.isSome = true := by
      intro e he
      obtain ⟨d, hd, htype⟩ := exists_of_mem_sources he
      rw [htype]
      exact htypes d hd
    have htable : (readTable c sheet header entries).result = _ :=
      result_readTable sheet header (nodup_sources sheet header hnames) hscalar hchecks
    rw [Execution.result_bind_ok hentries, Execution.result_bind_ok htable] at hresult
    rw [hresult]
    refine ⟨⟨fun ⟨failure, h⟩ => (nomatch h), fun h => absurd h hsmall⟩,
      fun failure h => (nomatch h), fun output h => ?_⟩
    cases h
    refine ⟨_, rfl, ?_, ?_, ?_, fun row column => ?_⟩
    · rw [ValueTable.backend_on]
    · rw [ValueTable.columnNames_on, columnNames_tableOf]
    · rw [ValueTable.rowCount_on]
      rfl
    · rw [ValueTable.cell?_on fun col hcol => holds_of_mem_tableOf c entries _ hscalar hcol,
        cell?_tableOf]

-- A sheet with a header. The age in the third row is not positive, and the fourth row has none.
def people : Sheet :=
  ⟨[["id", "name", "age"], ["1", "Ann", "30"], ["2", "Bo", "-1"], ["3", "Cy"]]⟩

def positive : Constraint :=
  .expression "Positive" (.binary .greater (.var "value" .unknown)
    (.literal (.integer 0) .unknown) .unknown) .unknown

def personColumns : List Assignment :=
  [.mk "age" (.atomic 0 "Age" .integer [positive]), .mk "city" .text, .mk "name" .text]

-- A block that reads these columns, in a run that holds tables as frames.
def peopleContext : Context :=
  { Context.bare with
    settings := { Settings.standard with backend := .columnar }
    blocks := [spec]
    nodes := [.block ⟨"People", "TableInterpreter", [.mk "columns" (.expression (.literal
      (.collection (personColumns.map fun d => .literal (.assignment d) .unknown)) .unknown))
      .unknown], .unknown⟩] }

theorem execute_sheet_people :
    ∃ table, (execute (.sheet people) peopleContext).result = .ok (.table table) ∧
      table.backend = .columnar ∧ table.columnNames = ["age", "name"] ∧ table.rowCount = 1 ∧
      table.cell? 0 0 = some (.integer 30) ∧ table.cell? 0 1 = some (.text "Ann") := by
  have hchecks : ∀ row ∈ bodyRows people true, ∀ e ∈ sources people true personColumns,
      e.Checked peopleContext row := by
    rintro row - e he v -
    refine Context.exists_result_isValid fun k hk => ?_
    have hentries : sources people true personColumns =
        [⟨2, "age", .atomic 0 "Age" .integer [positive]⟩, ⟨1, "name", .text⟩] := rfl
    rw [hentries, List.mem_cons, List.mem_singleton] at he
    rcases he with rfl | rfl
    · obtain rfl : k = positive := List.mem_singleton.mp hk
      exact Context.exists_result_satisfies ..
    · cases hk
  obtain ⟨hfails, -, hok⟩ := execute_sheet people peopleContext true personColumns rfl rfl
    (by decide) (by decide) hchecks
  cases hresult : (execute (.sheet people) peopleContext).result with
  | error failure =>
      have hnot : ¬ TooSmall people true personColumns := by
        rintro (⟨-, h⟩ | ⟨h, -⟩) <;> cases h
      exact absurd (hfails.mp ⟨failure, hresult⟩) hnot
  | ok output =>
      obtain ⟨table, rfl, hbackend, hnames, hrows, hcells⟩ := hok output hresult
      refine ⟨table, rfl, hbackend, hnames, ?_, ?_, ?_⟩
      · rw [hrows]
        decide
      · rw [hcells]
        rfl
      · rw [hcells]
        rfl

end TableFlow.TableInterpreter
