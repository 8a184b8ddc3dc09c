import TableFlow.Table.Sql
import TableFlow.Proofs.Table.Simulation

namespace TableFlow

-- A column of a scalar type itself, with values of that form.
def ValueColumn.IsPlain (c : ValueColumn) : Prop :=
  ∃ σ : ScalarType, c.type = σ.valueType ∧ ∀ v ∈ c.values, c.type.represents v = true

-- A column that is added or put in the place of the one of its name, or rows that are dropped.
inductive TableStep where
  | addColumn (name : String) (type : ScalarType) (values : List Value)
  | dropRows (rows : List Nat)

namespace TableStep

-- The values have the form of the type already.
def IsValid : TableStep → Prop
  | .addColumn _ type values => ∀ v ∈ values, type.valueType.represents v = true
  | .dropRows _ => True

def column (name : String) (type : ScalarType) (values : List Value) : Backend → Column
  | .array => .array ⟨name, type.valueType, values⟩
  | .columnar => .columnar (.ofValues name type.valueType (values.map some))

-- What a table has become, and the error if the step failed. A column is added to a copy, and a
-- frame is replaced as a whole; only the rows of a table of values are dropped in place.
def execute (s : TableStep) (t : Table) : Table × Option TableError :=
  match s, t with
  | .addColumn name type values, t =>
    match t.addColumn (column name type values t.backend) with
    | .ok t' => (t', none)
    | .error error => (t, some error)
  | .dropRows rows, .array t =>
    let (t', error) := t.dropRowsInPlace rows
    (.array t', error)
  | .dropRows rows, .columnar f =>
    match f.dropRows rows with
    | .ok f' => (.columnar f', none)
    | .error error => (.columnar f, some error)

-- The table after all steps, be they successful or not.
def executeAll (steps : List TableStep) (t : Table) : Table :=
  steps.foldl (fun t s => (s.execute t).1) t

end TableStep

structure Table.Agrees (a b : Table) : Prop where
  rowCount : a.rowCount = b.rowCount
  columnCount : a.columnCount = b.columnCount
  columnNames : a.columnNames = b.columnNames
  columnType : ∀ name, a.columnType? name = b.columnType? name
  cell : ∀ row column, a.cell? row column = b.cell? row column
  createTable : ∀ name, Sql.createTable a name = Sql.createTable b name
  insertValues : ∀ name, Sql.insertValues a name = Sql.insertValues b name

-- Statements are made from what can be seen otherwise.
theorem Table.Agrees.of_cells {a b : Table} (hrows : a.rowCount = b.rowCount)
    (hcolumns : a.columnCount = b.columnCount) (hnames : a.columnNames = b.columnNames)
    (htypes : ∀ name, a.columnType? name = b.columnType? name)
    (hcells : ∀ row column, a.cell? row column = b.cell? row column) : a.Agrees b := by
  have hcolumnTypes : a.columnTypes = b.columnTypes := by
    simp only [columnTypes, hnames, htypes]
  have htuple : Sql.tuple a = Sql.tuple b := by
    funext row
    simp only [Sql.tuple, hcolumnTypes, hcells]
  refine ⟨hrows, hcolumns, hnames, htypes, hcells, fun name => ?_, fun name => ?_⟩
  · simp only [Sql.createTable, hcolumnTypes]
  · simp only [Sql.insertValues, hcolumnTypes, htuple, hrows]

-- A table of values beside its frame.
structure Table.Simulates (a b : Table) (t : ValueTable) : Prop where
  array : a = .array t
  columnar : b = .columnar t.toFrame
  valid : t.Valid
  plain : ∀ c ∈ t.columns, c.IsPlain

namespace ValueColumn

theorem IsPlain.scalarType? {c : ValueColumn} (h : c.IsPlain) :
    ∃ σ, c.type.scalarType? = some σ ∧ c.type = σ.valueType := by
  obtain ⟨σ, hσ, -⟩ := h
  refine ⟨σ, ?_, hσ⟩
  rw [hσ]
  cases σ <;> rfl

theorem IsPlain.type_toFrameColumn {c : ValueColumn} (h : c.IsPlain) :
    c.toFrameColumn.type = c.type := by
  obtain ⟨σ, hscalar, hσ⟩ := h.scalarType?
  rw [FrameColumn.type, toFrameColumn, FrameColumn.ofValues, Series.type_ofValues hscalar, hσ]
  cases σ <;> rfl

theorem IsPlain.holds {c : ValueColumn} (h : c.IsPlain) : ∃ σ, c.Holds σ := by
  obtain ⟨σ, hscalar, -⟩ := h.scalarType?
  obtain ⟨-, -, hvalues⟩ := h
  exact ⟨σ, hscalar, hvalues⟩

theorem IsPlain.keep {c : ValueColumn} (h : c.IsPlain) (marks : List Bool) :
    IsPlain { c with values := Series.keep marks c.values } := by
  obtain ⟨σ, hσ, hvalues⟩ := h
  exact ⟨σ, hσ, fun v hv => hvalues v (Series.mem_keep hv)⟩

end ValueColumn

namespace Table

variable {a b : Table} {t : ValueTable}

theorem Simulates.agrees (h : Simulates a b t) : a.Agrees b := by
  obtain ⟨rfl, rfl, -, hplain⟩ := h
  refine .of_cells rfl ?_ ?_ (fun name => ?_) fun row column => ?_
  · simp only [columnCount, ValueTable.toFrame, List.length_map]
  · simp only [columnNames, ValueTable.toFrame, List.map_map]
    rfl
  · simp only [columnType?, column?, Frame.column?, ValueTable.toFrame, List.find?_map,
      Option.map_map]
    have hfind : t.columns.find? ((fun c => c.name == name) ∘ (·.toFrameColumn)) =
        t.column? name := rfl
    rw [hfind]
    cases hc : t.column? name with
    | none => rfl
    | some c =>
        have hmem : c ∈ t.columns := List.mem_of_find?_eq_some hc
        exact congrArg some (hplain c hmem).type_toFrameColumn.symm
  · exact (ValueTable.cell?_toFrame (fun c hc => (hplain c hc).holds) row column).symm

end Table

namespace TableStep

variable {a b : Table} {t : ValueTable}

-- A step fails on both and changes neither, or the results still go together.
theorem execute_simulates (h : Table.Simulates a b t) (s : TableStep) (hs : s.IsValid) :
    (∃ error error', s.execute a = (a, some error) ∧ s.execute b = (b, some error')) ∨
    ∃ a' b' t', s.execute a = (a', none) ∧ s.execute b = (b', none) ∧ Table.Simulates a' b' t' := by
  obtain ⟨rfl, rfl, hvalid, hplain⟩ := h
  cases s with
  | addColumn name type values =>
      let c : ValueColumn := ⟨name, type.valueType, values⟩
      have hframe : t.toFrame.addColumn (.ofValues name type.valueType (values.map some)) =
          (t.addColumn c).map ValueTable.toFrame := t.toFrame_addColumn hvalid c
      cases hadd : t.addColumn c with
      | error error =>
          rw [hadd] at hframe
          refine .inl ⟨error, error, ?_, ?_⟩
          · simp only [execute, column, Table.backend, Table.addColumn]
            rw [hadd]
            rfl
          · simp only [execute, column, Table.backend, Table.addColumn, hframe]
            rfl
      | ok t' =>
          rw [hadd] at hframe
          obtain ⟨hvalid', hcolumns⟩ := hvalid.addColumn hadd
          refine .inr ⟨.array t', .columnar t'.toFrame, t', ?_, ?_, rfl, rfl, hvalid',
            fun d hd => ?_⟩
          · simp only [execute, column, Table.backend, Table.addColumn]
            rw [hadd]
            rfl
          · simp only [execute, column, Table.backend, Table.addColumn, hframe]
            rfl
          · rw [hcolumns] at hd
            rcases mem_place hd with rfl | hd
            · exact ⟨type, rfl, hs⟩
            · exact hplain d hd
  | dropRows rows =>
      have hinplace := t.dropRowsInPlace_eq rows hvalid.length
      rcases ValueTable.toFrame_dropRows hvalid rows with
        ⟨⟨error, herror⟩, error', herror'⟩ | ⟨t', hok, hok', hvalid', rfl⟩
      · refine .inl ⟨error, error', ?_, ?_⟩
        · simp only [execute, hinplace, herror]
        · simp only [execute, herror']
      · refine .inr ⟨.array _, .columnar _, _, ?_, ?_, rfl, rfl, hvalid', fun d hd => ?_⟩
        · simp only [execute, hinplace, hok]
        · simp only [execute, hok']
        · obtain ⟨c, hc, rfl⟩ := List.mem_map.mp hd
          exact (hplain c hc).keep _

-- By induction on the steps: the tables go together after all of them.
theorem executeAll_simulates (h : Table.Simulates a b t) (steps : List TableStep)
    (hsteps : ∀ s ∈ steps, s.IsValid) :
    ∃ t', Table.Simulates (executeAll steps a) (executeAll steps b) t' := by
  induction steps generalizing a b t with
  | nil => exact ⟨t, h⟩
  | cons s steps ih =>
      have hrest (s' : TableStep) (hs' : s' ∈ steps) := hsteps s' (List.mem_cons_of_mem s hs')
      simp only [executeAll, List.foldl_cons]
      rcases execute_simulates h s (hsteps s (List.mem_cons_self ..)) with
        ⟨error, error', ha, hb⟩ | ⟨a', b', t', ha, hb, h'⟩
      · rw [ha, hb]
        exact ih h hrest
      · rw [ha, hb]
        exact ih h' hrest

end TableStep

theorem Table.ofColumns_simulates (cs : List ValueColumn) (hnames : (cs.map (·.name)).Nodup)
    (hplain : ∀ c ∈ cs, c.IsPlain) :
    (∃ error, ofColumns .array cs = .error error ∧ ofColumns .columnar cs = .error error) ∨
    ∃ a b t, ofColumns .array cs = .ok a ∧ ofColumns .columnar cs = .ok b ∧ Simulates a b t := by
  obtain ⟨hframe, htable⟩ := ValueTable.ofColumns_toFrame cs hnames
  simp only [ofColumns, hframe]
  cases ht : ValueTable.ofColumns cs with
  | error error => exact .inl ⟨error, rfl, rfl⟩
  | ok t =>
      obtain ⟨hvalid, hcolumns⟩ := htable t ht
      subst hcolumns
      exact .inr ⟨_, _, t, rfl, rfl, rfl, rfl, hvalid, hplain⟩

-- Tables of both backends, made from the same columns and changed by the same steps.
theorem Table.backends_agree (cs : List ValueColumn) (hnames : (cs.map (·.name)).Nodup)
    (hplain : ∀ c ∈ cs, c.IsPlain) :
    ((∃ a, ofColumns .array cs = .ok a) ↔ ∃ b, ofColumns .columnar cs = .ok b) ∧
    ∀ a b, ofColumns .array cs = .ok a → ofColumns .columnar cs = .ok b →
      ∀ steps : List TableStep, (∀ s ∈ steps, s.IsValid) →
        (TableStep.executeAll steps a).Agrees (TableStep.executeAll steps b) ∧
        ∀ s : TableStep, s.IsValid →
          ((s.execute (TableStep.executeAll steps a)).2 = none ↔
            (s.execute (TableStep.executeAll steps b)).2 = none) ∧
          ((s.execute (TableStep.executeAll steps a)).2 ≠ none →
            (s.execute (TableStep.executeAll steps a)).1 = TableStep.executeAll steps a ∧
            (s.execute (TableStep.executeAll steps b)).1 = TableStep.executeAll steps b) := by
  rcases ofColumns_simulates cs hnames hplain with ⟨error, ha, hb⟩ | ⟨a, b, t, ha, hb, h⟩
  · rw [ha, hb]
    exact ⟨⟨fun ⟨a, ha⟩ => (by cases ha), fun ⟨b, hb⟩ => by cases hb⟩, fun a b ha => by cases ha⟩
  rw [ha, hb]
  refine ⟨⟨fun _ => ⟨b, rfl⟩, fun _ => ⟨a, rfl⟩⟩, fun a' b' ha' hb' steps hsteps => ?_⟩
  cases ha'
  cases hb'
  obtain ⟨t', h'⟩ := TableStep.executeAll_simulates h steps hsteps
  refine ⟨h'.agrees, fun s hs => ?_⟩
  rcases TableStep.execute_simulates h' s hs with
    ⟨error, error', hfail, hfail'⟩ | ⟨a'', b'', t'', hok, hok', -⟩
  · rw [hfail, hfail']
    exact ⟨⟨fun h => (by cases h), fun h => by cases h⟩, fun _ => ⟨rfl, rfl⟩⟩
  · rw [hok, hok']
    exact ⟨⟨fun _ => rfl, fun _ => rfl⟩, fun h => absurd rfl h⟩

namespace TableStep

-- Two columns; the second row is dropped, and then a column that is too long is refused by both.
def exampleColumns : List ValueColumn :=
  [⟨"amount", .integer, [.integer 1, .integer 2, .integer 3]⟩,
    ⟨"paid", .boolean, [.boolean true, .boolean false, .boolean true]⟩]

def tooLong : TableStep := .addColumn "note" .text [.text "a", .text "b", .text "c"]

end TableStep

theorem Table.backends_agree_example :
    ∃ a b, ofColumns .array TableStep.exampleColumns = .ok a ∧
      ofColumns .columnar TableStep.exampleColumns = .ok b ∧
      (TableStep.executeAll [.dropRows [1]] a).Agrees (TableStep.executeAll [.dropRows [1]] b) ∧
      (TableStep.tooLong.execute (TableStep.executeAll [.dropRows [1]] a)).1 =
        TableStep.executeAll [.dropRows [1]] a := by
  have hagree := backends_agree TableStep.exampleColumns (by decide) (by
    intro c hc
    simp only [TableStep.exampleColumns, List.mem_cons, List.not_mem_nil, or_false] at hc
    rcases hc with rfl | rfl
    · exact ⟨.integer, rfl, by decide⟩
    · exact ⟨.boolean, rfl, by decide⟩)
  have hsteps := hagree.2 _ _ rfl rfl [.dropRows [1]] (by simp [TableStep.IsValid])
  refine ⟨_, _, rfl, rfl, hsteps.1, ?_⟩
  refine ((hsteps.2 TableStep.tooLong ?_).2 ?_).1
  · show ∀ v ∈ [Value.text "a", .text "b", .text "c"], ScalarType.text.valueType.represents v = true
    decide
  · decide +kernel

end TableFlow
