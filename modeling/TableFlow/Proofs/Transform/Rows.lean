import TableFlow.Proofs.Formula.Rows
import TableFlow.Proofs.Transform.Backends
import TableFlow.Proofs.Transform.InPlace

namespace TableFlow

variable {α β ε : Type}

-- A run over positions is a run over what stands there.
theorem mapM_range_length {f : Nat → Except ε β} {g : α → Except ε β} {as : List α}
    (h : ∀ k a, as[k]? = some a → f k = g a) : (List.range as.length).mapM f = as.mapM g := by
  induction as generalizing f with
  | nil => rfl
  | cons a as ih =>
      have htail : ((List.range as.length).map Nat.succ).mapM f = as.mapM g := by
        rw [List.mapM_map]
        exact ih fun k a' hk => h (k + 1) a' hk
      rw [List.length_cons, List.range_succ_eq_map, List.mapM_cons, List.mapM_cons, htail,
        h 0 a rfl]

-- Where a run over a list succeeds, a run over some of its items gives their results.
theorem Series.mapM_keep {f : α → Except ε β} {as : List α} {bs : List β}
    (h : as.mapM f = .ok bs) (marks : List Bool) :
    (keep marks as).mapM f = .ok (keep marks bs) := by
  have hall := forall₂_of_mapM h
  clear h
  induction hall generalizing marks with
  | nil => rcases marks with _ | ⟨_ | _, marks⟩ <;> rfl
  | @cons a b as bs hab _ ih =>
      cases marks with
      | nil => rfl
      | cons mark marks =>
          cases mark with
          | false => exact ih marks
          | true =>
              rw [keep, List.mapM_cons, hab, ih marks]
              rfl

-- The second computation gives what is made of what the first one gives, or the first one fails
-- with an error that is left open.
def MapsUnless (isOpen : ε → Prop) (g : α → β) (x : Except ε α) (y : Except ε β) : Prop :=
  (∃ error, isOpen error ∧ x = .error error) ∨ y = g <$> x

namespace MapsUnless

variable {γ δ : Type} {isOpen : ε → Prop} {g : α → β} {h : γ → δ} {x : Except ε α}
  {y : Except ε β}

theorem bind {f : α → Except ε γ} {f' : β → Except ε δ} (hx : MapsUnless isOpen g x y)
    (hf : ∀ a, MapsUnless isOpen h (f a) (f' (g a))) :
    MapsUnless isOpen h (x >>= f) (y >>= f') := by
  rcases hx with ⟨error, herror, rfl⟩ | rfl
  · exact .inl ⟨error, herror, rfl⟩
  · cases x with
    | error error => exact .inr rfl
    | ok a => exact hf a

-- Of the items that are left out only their errors can be missed.
theorem mapM_keep {f : α → Except ε β} (marks : List Bool) (as : List α)
    (hf : ∀ a ∈ as, ∀ error, f a = .error error → isOpen error) :
    MapsUnless isOpen (Series.keep marks) (as.mapM f) ((Series.keep marks as).mapM f) := by
  cases has : as.mapM f with
  | ok bs => exact .inr (Series.mapM_keep has marks)
  | error error =>
      obtain ⟨a, ha, herror⟩ := exists_of_mapM_error has
      exact .inl ⟨error, hf a ha error herror, rfl⟩

end MapsUnless

namespace ValueTable

variable (t : ValueTable) (marks : List Bool)

theorem column?_keep (name : String) :
    (t.keep marks).column? name =
      (t.column? name).map fun c => { c with values := Series.keep marks c.values } := by
  rw [column?, column?, keep, List.find?_map]
  rfl

end ValueTable

namespace TransformOutput

-- What there is for the rows with a mark.
def keep (marks : List Bool) : TransformOutput → TransformOutput
  | .rows results => .rows (Series.keep marks results)
  | .columns series kept => .columns (series.filter marks) (Series.keep marks kept)

variable (marks : List Bool) (output : TransformOutput)

theorem kept_keep : (output.keep marks).kept = Series.keep marks output.kept := by
  cases output with
  | rows results => exact (Series.keep_map Option.isSome marks results).symm
  | columns series kept => rfl

theorem value?_keep (k : Nat) :
    (output.keep marks).value? k = (Series.marked marks)[k]?.bind output.value? := by
  cases output with
  | rows results =>
      rw [keep, value?, Series.getElem?_keep]
      cases (Series.marked marks)[k]? <;> rfl
  | columns series kept => exact series.value?_filter marks k

end TransformOutput

-- The check of some value ends with the failure.
def Context.CanFail (c : Context) (type : ValueType) (failure : Failure) : Prop :=
  ∃ v, (c.isValid v type).result = .error failure

namespace Transform

variable {t : Transform} {type : ValueType} {c : Context} {names : List String} {marks : List Bool}

-- Columns are found by name, so what is done to every column is done to those that are found.
theorem inputColumns_of_map {f : α → β} {column? : String → Option α}
    {column'? : String → Option β} (h : ∀ name, column'? name = (column? name).map f)
    (names : List String) :
    inputColumns column'? names = List.map f <$> inputColumns column? names := by
  induction names with
  | nil => rfl
  | cons name names ih =>
      simp only [inputColumns] at ih ⊢
      rw [List.mapM_cons, List.mapM_cons, ih, h name]
      cases column? name with
      | none => rfl
      | some column => simp

-- A port stands for what its column has in the row, wherever the row stands.
theorem rowBindings_keep {k row : Nat} (h : (Series.marked marks)[k]? = some row)
    (ports : List Port) (columns : List ValueColumn) :
    rowBindings ports (columns.map fun c => { c with values := Series.keep marks c.values }) k =
      rowBindings ports columns row := by
  rw [rowBindings, rowBindings, List.zip_map_right, List.filterMap_map]
  refine List.filterMap_congr fun b _ => ?_
  have hvalue : (Series.keep marks b.2.values)[k]? = b.2.values[row]? := by
    rw [Series.getElem?_keep, h, Option.bind_some]
  simp only [Function.comp_apply, Prod.map, id_eq, ValueColumn.value?, hvalue]

theorem runRow_keep {k row : Nat} (h : (Series.marked marks)[k]? = some row)
    (columns : List ValueColumn) :
    (t.runRow (columns.map fun c => { c with values := Series.keep marks c.values }) type c
      k).result = (t.runRow columns type c row).result := by
  rw [runRow_result, runRow_result, rowBindings_keep h]

-- Nothing but a check can fail in a row.
theorem canFail_of_runRow {columns : List ValueColumn} {row : Nat} {failure : Failure}
    (h : (t.runRow columns type c row).result = .error failure) :
    c.CanFail type failure := by
  rw [runRow_result] at h
  split at h
  next => cases h
  next v _ =>
    refine ⟨type.normalize v, ?_⟩
    cases hvalid : (c.isValid (type.normalize v) type).result with
    | ok valid =>
        rw [hvalid] at h
        cases h
    | error failure' =>
        rw [hvalid] at h
        exact congrArg Except.error (Except.error.inj h)

theorem result_runRows (t : Transform) (table : ValueTable) (names : List String)
    (type : ValueType) (c : Context) :
    (t.runRows table names type c).result = do
      let columns ← (inputColumns table.column? names).result
      let results ← (List.range table.rowCount).mapM fun row =>
        (t.runRow columns type c row).result
      return .rows results := by
  rw [runRows, Execution.result_bind]
  refine bind_congr fun columns => ?_
  rw [Execution.result_bind, Execution.result_mapM_eq]
  rfl

theorem runRows_keep (table : ValueTable) (hmarks : marks.length = table.rowCount) :
    MapsUnless (c.CanFail type) (TransformOutput.keep marks)
      (t.runRows table names type c).result (t.runRows (table.keep marks) names type c).result := by
  rw [result_runRows, result_runRows, inputColumns_of_map (table.column?_keep marks),
    Execution.result_map]
  refine .bind (.inr rfl) fun columns => .bind (g := Series.keep marks) ?_ fun _ => .inr rfl
  have hrows : (List.range (table.keep marks).rowCount).mapM (fun k => (t.runRow
      (columns.map fun c => { c with values := Series.keep marks c.values }) type c k).result) =
        (Series.keep marks (List.range table.rowCount)).mapM fun row =>
          (t.runRow columns type c row).result := by
    rw [← hmarks, ← Series.marked_eq_keep]
    show (List.range (marks.count true)).mapM _ = _
    rw [← Series.length_marked]
    exact mapM_range_length fun k row h => runRow_keep h columns
  rw [hrows]
  exact .mapM_keep marks _ fun row _ failure => canFail_of_runRow

theorem decimals_filter (s : Series) (marks : List Bool) :
    decimals (s.filter marks) = Series.keep marks (decimals s) := by
  obtain ⟨type, cells⟩ := s
  cases type <;> first | rfl | exact (Series.keep_map _ marks cells).symm

theorem values_filter (s : Series) (marks : List Bool) :
    (s.filter marks).values = Series.keep marks s.values :=
  (Series.keep_map _ marks s.cells).symm

theorem cast?_filter (s : Series) (marks : List Bool) (target : DataType) :
    (s.filter marks).cast? target = (s.cast? target).map (·.filter marks) := by
  rw [Series.cast?, Series.cast?, Option.map_map]
  refine congrArg (Option.map · _) (funext fun convert => ?_)
  have hcells := Series.keep_map (fun cell : Option s.type.Cell => cell.bind convert) marks s.cells
  exact congrArg (Series.mk target) hcells.symm

-- Whether there is a formula, and which one, does not depend on the rows.
theorem runFormula_keep {frame : Frame} (hmarks : marks.length = frame.rowCount)
    (bindings : List (String × Symbolic)) (target : DataType) :
    (t.runFormula (frame.keep marks) bindings target c).result =
      (·.filter marks) <$> (t.runFormula frame bindings target c).result := by
  rw [runFormula, runFormula, Execution.result_bind_ok rfl, Execution.result_bind_ok rfl]
  cases hvalue : (t.value.evaluateSymbolic .lazy (Scope.empty.insertAll bindings)).value with
  | some result =>
      simp only []
      rw [Execution.result_bind_ok rfl, Execution.result_bind_ok rfl,
        frame.evaluateSeries_keep marks hmarks]
      cases frame.evaluateSeries result.formula <;> rfl
  | none =>
      simp only []
      split
      · rfl
      · have hnulls : Series.nulls target (marks.count true) =
            (Series.nulls target frame.rowCount).filter marks := by
          rw [← hmarks]
          exact congrArg (Series.mk target) (Series.keep_replicate marks none).symm
        exact congrArg Except.ok hnulls

-- Nothing but a check can fail for a cell.
theorem canFail_of_keepsRow {target : DataType} {cell : Option Decimal × Option Value}
    {failure : Failure} (h : (keepsRow target type c cell).result = .error failure) :
    c.CanFail type failure := by
  obtain ⟨d, _ | v⟩ := cell
  · cases h
  · rw [keepsRow] at h
    split at h
    · split at h
      · cases h
      · exact ⟨v, h⟩
    · cases h

theorem result_runColumns (t : Transform) (frame : Frame) (names : List String)
    (type : ValueType) (c : Context) :
    (t.runColumns frame names type c).result = do
      let columns ← (inputColumns frame.column? names).result
      let raw ← (t.runFormula frame (List.zipWith columnBinding t.inputs columns) type.dataType
        c).result
      match raw.cast? type.dataType with
      | none => .error (.error (.table (.noConversion raw.type type.dataType)))
      | some series =>
        let keep ← ((decimals raw).zip series.values).mapM fun cell =>
          (keepsRow type.dataType type c cell).result
        return .columns series keep := by
  rw [runColumns, Execution.result_bind]
  refine bind_congr fun columns => ?_
  refine (Execution.result_bind (t.runFormula ..) _).trans (bind_congr fun raw => ?_)
  cases raw.cast? type.dataType with
  | none => rfl
  | some series =>
      simp only []
      rw [Execution.result_bind, Execution.result_mapM_eq]
      rfl

theorem runColumns_keep (frame : Frame) (hmarks : marks.length = frame.rowCount) :
    MapsUnless (c.CanFail type) (TransformOutput.keep marks)
      (t.runColumns frame names type c).result
      (t.runColumns (frame.keep marks) names type c).result := by
  rw [result_runColumns, result_runColumns, inputColumns_of_map (frame.column?_keep marks),
    Execution.result_map]
  refine .bind (.inr rfl) fun columns => ?_
  have hbindings : List.zipWith columnBinding t.inputs
      (columns.map fun column => { column with series := column.series.filter marks }) =
        List.zipWith columnBinding t.inputs columns := by
    rw [List.zipWith_map_right]
    rfl
  rw [hbindings]
  refine .bind (.inr (runFormula_keep hmarks _ type.dataType)) fun raw => ?_
  rw [cast?_filter]
  cases raw.cast? type.dataType with
  | none => exact .inr rfl
  | some series =>
      have hcells : (decimals (raw.filter marks)).zip (series.filter marks).values =
          Series.keep marks ((decimals raw).zip series.values) := by
        rw [decimals_filter, values_filter]
        exact (Series.keep_zipWith Prod.mk marks _ _).symm
      simp only [Option.map_some, hcells]
      refine .bind (.mapM_keep marks _ fun cell _ failure => canFail_of_keepsRow) fun _ => ?_
      exact .inr rfl

-- A run ends with the failure of a check of a value for the output.
def FailsInCheck (t : Transform) (table : Table) (names : List String) (c : Context) : Prop :=
  ∃ port failure, t.output? = some port ∧
    (c.enter (.transform t)).CanFail port.type failure ∧
    (t.execute table names c).result = .error failure

theorem execute_keep {table : Table} (hmarks : marks.length = table.rowCount)
    (hchecks : ¬ t.FailsInCheck table names c) :
    (t.execute (table.keep marks) names c).result =
      TransformOutput.keep marks <$> (t.execute table names c).result := by
  by_cases hnames : t.inputs.length = names.length
  · cases hport : t.output? with
    | none =>
        have hfails (table : Table) : (t.execute table names c).result =
            .error (.error (.block (.noOutput t.name) t.anchor)) := by
          rw [execute, if_neg fun h => h hnames, Transform.output, hport]
          rfl
        rw [hfails, hfails]
        rfl
    | some port =>
        have hruns : MapsUnless ((c.enter (.transform t)).CanFail port.type)
            (TransformOutput.keep marks) (t.execute table names c).result
            (t.execute (table.keep marks) names c).result := by
          rw [execute_of_output hnames hport, execute_of_output hnames hport]
          cases table with
          | array vt => exact runRows_keep vt hmarks
          | columnar frame => exact runColumns_keep frame hmarks
        refine hruns.resolve_left fun hfails => hchecks ?_
        obtain ⟨failure, hcheck, hrun⟩ := hfails
        exact ⟨port, failure, hport, hcheck, hrun⟩
  · have hfails (table : Table) : (t.execute table names c).result =
        .error (.violation (.portCount t.name t.inputs.length names.length)) := by
      rw [execute, if_pos hnames]
      rfl
    rw [hfails, hfails]
    rfl

-- Transforms are local to rows. Once rows have been dropped, a run fails as it has failed before,
-- and otherwise every row that remains is kept or dropped as it was, with the value that it had.
-- Whether all rows share one scope does not matter either.
theorem execute_of_dropRows {table : Table} {rows : List Nat} (htable : table.Rectangular)
    (hrows : ∀ row ∈ rows, row < table.rowCount) (hchecks : ¬ t.FailsInCheck table names c) :
    ∃ table', table.dropRows rows = .ok table' ∧
      table'.rowCount = (table.remaining rows).length ∧
      (∀ failure, (t.execute table' names c).result = .error failure ↔
        (t.execute table names c).result = .error failure) ∧
      (∀ output, (t.execute table names c).result = .ok output →
        ∃ output', (t.execute table' names c).result = .ok output' ∧
          output'.kept.length = table'.rowCount ∧
          ∀ k row, (table.remaining rows)[k]? = some row →
            output'.kept[k]? = output.kept[row]? ∧ output'.value? k = output.value? row) ∧
      (t.executeInPlace table names c).run .empty =
        (·, Scope.empty) <$> t.execute table names c ∧
      (t.executeInPlace table' names c).run .empty =
        (·, Scope.empty) <$> t.execute table' names c := by
  have hdrop := Table.dropRows_eq_keep htable hrows
  have hmarks := ValueTable.length_marksWithout table.rowCount rows
  have hrun := execute_keep hmarks hchecks
  have hremaining : Series.marked (Series.marksWithout table.rowCount rows) =
      table.remaining rows := Series.marked_marksWithout table.rowCount rows
  generalize Series.marksWithout table.rowCount rows = marks at *
  refine ⟨_, hdrop, ?_, fun failure => ?_, fun output houtput => ?_,
    run_executeInPlace table names c, run_executeInPlace _ names c⟩
  · rw [Table.rowCount_keep, ← hremaining, Series.length_marked]
  · rw [hrun]
    cases (t.execute table names c).result with
    | ok output => exact ⟨fun h => (by cases h), fun h => (by cases h)⟩
    | error failure' =>
        exact ⟨fun h => congrArg _ (Except.error.inj h), fun h => congrArg _ (Except.error.inj h)⟩
  · rw [houtput] at hrun
    refine ⟨_, hrun, length_kept (htable.dropRows hdrop) hrun, fun k row hrow => ?_⟩
    rw [TransformOutput.kept_keep, TransformOutput.value?_keep, Series.getElem?_keep, hremaining,
      hrow]
    exact ⟨rfl, rfl⟩

-- The expression `7 % n`.
def remainderOfSeven : Transform :=
  .mk "remainderOfSeven" [.input "n" .integer, .output "r" .integer] "r"
    (.binary .modulo (.literal (.integer 7) .unknown) (.var "n" .unknown) .unknown) .unknown

def fiveZeroFour : Frame := ⟨[⟨"n", .int64, [some 5, some 0, some 4]⟩], 3⟩

-- Without the first row the second one is still dropped, and the third one kept.
theorem execute_of_dropRows_remainderOfSeven :
    ∃ table' output, (Table.columnar fiveZeroFour).dropRows [0] = .ok table' ∧
      (remainderOfSeven.execute table' ["n"] .bare).result = .ok output ∧
      output.kept[0]? = some false ∧ output.kept[1]? = some true ∧
      output.value? 1 = some (.integer 3) := by
  have hrun : (remainderOfSeven.execute (.columnar fiveZeroFour) ["n"] .bare).result =
    .ok (.columns ⟨.int64, [some 2, none, some 3]⟩ [true, false, true]) := rfl
  have htable : (Table.columnar fiveZeroFour).Rectangular := by
    show ∀ c ∈ fiveZeroFour.columns, c.length = 3
    decide
  have hchecks : ¬ remainderOfSeven.FailsInCheck (.columnar fiveZeroFour) ["n"] .bare := by
    rintro ⟨port, failure, -, -, hfailure⟩
    cases hrun.symm.trans hfailure
  have hrows : ∀ row ∈ [0], row < (Table.columnar fiveZeroFour).rowCount := by decide
  obtain ⟨table', hdrop, -, -, houtput, -⟩ := execute_of_dropRows htable hrows hchecks
  obtain ⟨output, hrun', -, hlocal⟩ := houtput _ hrun
  obtain ⟨hsecond, -⟩ := hlocal 0 1 rfl
  obtain ⟨hthird, hvalue⟩ := hlocal 1 2 rfl
  exact ⟨table', output, hdrop, hrun', hsecond, hthird, hvalue⟩

end Transform

end TableFlow
