import TableFlow.Proofs.Expression.Integers
import TableFlow.Proofs.Table.Positions
import TableFlow.Proofs.Transform.Backends

namespace TableFlow

-- Cells that are read as integers become words without a change of what is read.
theorem DataType.exists_cast?_int64 {s : DataType} (h : s.valueType.scalarType? = some .integer) :
    ∃ convert, cast? s .int64 = some convert ∧
      ∀ cell, (convert cell).bind int64.cellValue? = s.cellValue? cell := by
  have hword (n : Int) : (((Number.whole n).toInt? (-2 ^ 63, 2 ^ 63 - 1)).bind
      Integer.ofInt?).bind int64.cellValue? = (Integer.ofInt? n).map .integer := by
    simp only [Number.toInt?, Option.filter_some]
    split
    · rw [Option.map_eq_bind]
      rfl
    next hrange =>
      have hnone : Integer.ofInt? n = none := by
        rw [Integer.ofInt?_eq_none_iff]
        simp only [decide_eq_true_eq] at hrange
        omega
      rw [hnone]
      rfl
  cases s <;> first
    | exact ⟨_, rfl, hword⟩
    | exact ⟨_, rfl, fun cell => rfl⟩
    | cases h

-- Columns of integers without nulls: in the row `row` the column `name` holds the word
-- `x row name`.
structure Table.HoldsIntegers (table : Table) (names : List String) (x : Nat → String → Int64) :
    Prop where
  rectangular : table.Rectangular
  columns : ∀ name ∈ names, ∃ column, table.column? name = some column ∧
    column.type.scalarType? = some .integer ∧
    ∀ row < table.rowCount, column.value? row = some (.integer (x row name))

namespace TransformOutput

-- A row is kept exactly where no part of the expression overruns, and its value is the exact one.
structure Computes (output : TransformOutput) (rows : Nat) (e : Expr) (x : Nat → String → Int) :
    Prop where
  length : output.kept.length = rows
  kept : ∀ row < rows, output.kept[row]? = some true ↔ ¬ e.HasPart (Expr.Overruns (x row))
  value : ∀ row < rows, output.kept[row]? = some true →
    ∃ n : Int64, n.toInt = e.integer (x row) ∧ output.value? row = some (.integer n)

variable {output output' : TransformOutput} {rows : Nat} {e : Expr} {x : Nat → String → Int}

theorem Computes.of_isExact {value : Nat → Option Value} (hlength : output.kept.length = rows)
    (hexact : ∀ row < rows, e.IsExact (x row) (value row))
    (hkept : ∀ row < rows, output.kept[row]? = some (value row).isSome)
    (hvalue : ∀ row < rows, ∀ v, value row = some v → output.value? row = some v) :
    output.Computes rows e x := by
  have hiff (row : Nat) (hrow : row < rows) :
      output.kept[row]? = some true ↔ ¬ e.HasPart (Expr.Overruns (x row)) := by
    rw [hkept row hrow]
    constructor
    · intro hsome hpart
      rw [(hexact row hrow).lost hpart] at hsome
      cases hsome
    · intro hpart
      obtain ⟨n, -, hn⟩ := (hexact row hrow).kept hpart
      rw [hn]
      rfl
  refine ⟨hlength, hiff, fun row hrow hrowKept => ?_⟩
  obtain ⟨n, hn, hv⟩ := (hexact row hrow).kept ((hiff row hrow).mp hrowKept)
  exact ⟨n, hn, hvalue row hrow _ hv⟩

-- Two outputs that compute the same expression are the same.
theorem Computes.kept_eq (h : output.Computes rows e x) (h' : output'.Computes rows e x) :
    output.kept = output'.kept := by
  refine List.ext_getElem? fun row => ?_
  by_cases hrow : row < rows
  · have hiff := (h.kept row hrow).trans (h'.kept row hrow).symm
    rw [List.getElem?_eq_getElem (h.length ▸ hrow), List.getElem?_eq_getElem (h'.length ▸ hrow)]
      at hiff ⊢
    simp only [Option.some.injEq] at hiff ⊢
    exact Bool.eq_iff_iff.mpr hiff
  · have hlength := h.length
    have hlength' := h'.length
    rw [List.getElem?_eq_none (by omega), List.getElem?_eq_none (by omega)]

theorem Computes.value?_eq (h : output.Computes rows e x) (h' : output'.Computes rows e x)
    {row : Nat} (hrowKept : output.kept[row]? = some true) :
    output.value? row = output'.value? row := by
  have hrow : row < rows := h.length ▸ (List.getElem?_eq_some_iff.mp hrowKept).1
  obtain ⟨n, hn, hvalue⟩ := h.value row hrow hrowKept
  obtain ⟨n', hn', hvalue'⟩ := h'.value row hrow (by rwa [← h.kept_eq h'])
  rw [hvalue, hvalue', Int64.toInt_inj.mp (hn.trans hn'.symm)]

end TransformOutput

namespace Transform

variable (t : Transform) (names : List String)

-- The scalar type of the port that a variable stands for. The last port of a name counts.
def portType? (name : String) : Option ScalarType :=
  (t.inputs.reverse.find? (·.name == name)).bind (·.type.scalarType?)

-- The column that a variable stands for, where the ports stand for the columns named.
def columnFor? (name : String) : Option String :=
  ((t.inputs.zip names).reverse.find? (·.1.name == name)).map (·.2)

-- The word that a variable stands for in a row, given the words in the columns.
def word (x : Nat → String → Int64) (row : Nat) (name : String) : Int64 :=
  ((t.columnFor? names name).map (x row)).getD 0

-- A transform that takes integers to integers: so does its expression, over ports of integers, and
-- the type of its output asks for no more than an integer.
structure IsIntegral : Prop where
  value : t.value.Integral fun name => t.portType? name = some .integer
  output : ∃ port, t.output? = some port ∧ port.type.scalarType? = some .integer ∧
    port.type.constraints = []

variable {t names} {x : Nat → String → Int64} {name : String}

-- A port of integers stands for one of the columns.
theorem exists_wire (hnames : t.inputs.length = names.length)
    (hport : t.portType? name = some .integer) :
    ∃ w ∈ t.inputs.zip names, (t.inputs.zip names).reverse.find? (·.1.name == name) = some w ∧
      w.1.type.scalarType? = some .integer ∧ ∀ row, t.word names x row name = x row w.2 := by
  have hinputs : (t.inputs.zip names).map (·.1) = t.inputs :=
    List.map_fst_zip (Nat.le_of_eq hnames)
  rw [portType?, ← hinputs, ← List.map_reverse, List.find?_map] at hport
  obtain ⟨port, hfound, htype⟩ := Option.bind_eq_some_iff.mp hport
  obtain ⟨w, hw, rfl⟩ := Option.map_eq_some_iff.mp hfound
  refine ⟨w, List.mem_reverse.mp (List.mem_of_find?_eq_some hw), hw, htype, fun row => ?_⟩
  have hlast : (t.inputs.zip names).reverse.find? (·.1.name == name) = some w := hw
  rw [word, columnFor?, hlast]
  rfl

theorem value_rowBindings (hnames : t.inputs.length = names.length)
    {column : String → ValueColumn} {row : Nat}
    (hvalues : ∀ n ∈ names, (column n).value? row = some (.integer (x row n)))
    (hport : t.portType? name = some .integer) :
    (Scope.empty.insertAll (rowBindings t.inputs (names.map column) row)).value name =
      .ok (.integer (t.word names x row name)) := by
  obtain ⟨w, hw, hfound, htype, hword⟩ := exists_wire (x := x) hnames hport
  have hbindings : rowBindings t.inputs (names.map column) row =
      (t.inputs.zip names).map fun w =>
        (w.1.name, .scalar (w.1.type.normalize (.integer (x row w.2)))) := by
    have hcells : ∀ w ∈ t.inputs.zip names,
        (column w.2).value? row = some (.integer (x row w.2)) :=
      fun w hw => hvalues w.2 (List.of_mem_zip hw).2
    have hrow := rowBindings_map Prod.fst hcells
    rwa [List.map_fst_zip (Nat.le_of_eq hnames), ← Function.comp_def column, ← List.map_map,
      List.map_snd_zip (Nat.le_of_eq hnames.symm)] at hrow
  rw [hbindings, Scope.value, Scope.lookup?_insertAll_map (t.inputs.zip names) (·.1.name), hfound,
    hword]
  exact congrArg Except.ok (ValueType.normalize_same htype rfl)

-- A word is valid for a type that asks for no more than an integer.
theorem runRow_result_of_isExact {columns : List ValueColumn} {type : ValueType} {row : Nat}
    {word : String → Int} (htype : type.scalarType? = some .integer)
    (hconstraints : type.constraints = [])
    (hexact : t.value.IsExact word (t.value.evaluate .lazy
      (Scope.empty.insertAll (rowBindings t.inputs columns row))).value) (c : Context) :
    (t.runRow columns type c row).result = .ok (t.value.evaluate .lazy
      (Scope.empty.insertAll (rowBindings t.inputs columns row))).value := by
  rw [runRow_result]
  cases hv : (t.value.evaluate .lazy
      (Scope.empty.insertAll (rowBindings t.inputs columns row))).value with
  | none => rfl
  | some v =>
      rw [hv] at hexact
      obtain ⟨n, rfl⟩ := hexact.exists_integer
      have hnormal : type.normalize (.integer n) = .integer n :=
        ValueType.normalize_same htype rfl
      have hvalid : c.isValid (.integer n) type = pure true :=
        Context.isValid_of_constraints ((type.represents_of_scalarType? htype _).mpr ⟨rfl, rfl⟩)
          hconstraints
      simp only [hnormal, hvalid]
      rfl

theorem computes_array {vt : ValueTable} (ht : t.IsIntegral)
    (hnames : t.inputs.length = names.length) (h : (Table.array vt).HoldsIntegers names x)
    (c : Context) :
    ∃ output, (t.execute (.array vt) names c).result = .ok output ∧
      output.Computes vt.rowCount t.value fun row name => (t.word names x row name).toInt := by
  obtain ⟨port, houtput, htype, hconstraints⟩ := ht.output
  have hcolumns (name : String) (hname : name ∈ names) : ∃ column, vt.column? name = some column ∧
      ∀ row < vt.rowCount, column.value? row = some (.integer (x row name)) := by
    obtain ⟨_, hfound, -, hvalues⟩ := h.columns name hname
    obtain ⟨column, hcolumn, rfl⟩ := Option.map_eq_some_iff.mp hfound
    exact ⟨column, hcolumn, hvalues⟩
  obtain ⟨column, hinputs, hcolumn⟩ := exists_inputColumns (.empty "" .integer) hcolumns
  have hexact (row : Nat) (hrow : row < vt.rowCount) :
      t.value.IsExact (fun name => (t.word names x row name).toInt) (t.value.evaluate .lazy
        (Scope.empty.insertAll (rowBindings t.inputs (names.map column) row))).value :=
    ht.value.evaluate_isExact fun name hport =>
      value_rowBindings hnames (fun name hname => (hcolumn name hname).2 row hrow) hport
  have hrun : ∀ row ∈ List.range vt.rowCount,
      (t.runRow (names.map column) port.type (c.enter (.transform t)) row).result =
        .ok (t.value.evaluate .lazy
          (Scope.empty.insertAll (rowBindings t.inputs (names.map column) row))).value :=
    fun row hrow =>
      runRow_result_of_isExact htype hconstraints (hexact row (List.mem_range.mp hrow)) _
  have hrows := Execution.result_mapM_of_ok hrun
  rw [execute_of_output hnames houtput]
  show ∃ output, (t.runRows vt names port.type (c.enter (.transform t))).result = .ok output ∧ _
  rw [runRows, hinputs, Execution.pure_bind, Execution.result_bind_ok hrows]
  refine ⟨_, rfl, .of_isExact ?_ hexact (fun row hrow => ?_) fun row hrow v hv => ?_⟩
  · rw [TransformOutput.kept, List.length_map, List.length_map, List.length_range]
  · rw [TransformOutput.kept, List.getElem?_map, List.getElem?_map, List.getElem?_range hrow]
    rfl
  · rw [TransformOutput.value?, List.getElem?_map, List.getElem?_range hrow]
    exact hv

open Formula Operand in
-- A column of integers, converted to words if it is of another machine type.
theorem exists_integers {series? : String → Option Series} {col : FrameColumn} {rows : Nat}
    (hseries : series? col.name = some col.series) (hlength : col.length = rows)
    (htype : col.type.scalarType? = some .integer) {port : Port}
    (hport : port.type.scalarType? = some .integer) :
    ∃ formula z, (columnBinding port col).2 = .column formula ∧
      formula.evaluate series? = .ok z ∧ z.Fits rows .integer ∧
      ∀ row, z.value? row = col.series.value? row := by
  obtain ⟨name, s, cells⟩ := col
  have hcolumn : Formula.evaluate series? (.column name) = .ok ⟨s, .column cells⟩ := by
    rw [Formula.evaluate, hseries]
    rfl
  have htarget : port.type.dataType = .int64 := ValueType.dataType_of_scalarType? hport
  by_cases hword : s = .int64
  · refine ⟨_, _, ?_, hcolumn, ⟨hword, hlength⟩, fun row => rfl⟩
    rw [columnBinding, htarget, if_pos hword]
  · obtain ⟨convert, hconvert, hcells⟩ := DataType.exists_cast?_int64 htype
    refine ⟨.cast (.column name) .int64, ⟨.int64, (Datum.column cells).map convert⟩, ?_, ?_,
      ⟨rfl, ?_⟩, fun row => ?_⟩
    · rw [columnBinding, htarget, if_neg hword]
    · rw [Formula.evaluate, hcolumn]
      show Operand.cast ⟨s, .column cells⟩ .int64 = _
      rw [Operand.cast, hconvert]
    · rw [Datum.expand_map, List.length_map]
      exact hlength
    · simp only [value?, Datum.cell?_map, Option.bind_assoc, hcells]
      rfl

theorem columnBindings_cover (hnames : t.inputs.length = names.length) {frame : Frame}
    {column : String → FrameColumn}
    (hcolumns : ∀ n ∈ names, frame.column? n = some (column n) ∧
      (column n).length = frame.rowCount ∧ (column n).type.scalarType? = some .integer ∧
      ∀ row < frame.rowCount, (column n).series.value? row = some (.integer (x row n))) :
    (Scope.empty.insertAll (List.zipWith columnBinding t.inputs (names.map column))).Covers
      frame.series? frame.rowCount (fun name => (t.portType? name).filter (· = .integer))
      fun row name => some (.integer (t.word names x row name)) := by
  intro name σ hname
  obtain ⟨hport, hσ⟩ := Option.filter_eq_some_iff.mp hname
  obtain rfl : σ = .integer := by simpa using hσ
  obtain ⟨w, hw, hfound, htype, hword⟩ := exists_wire (x := x) hnames hport
  obtain ⟨hcolumn, hlength, hinteger, hvalues⟩ := hcolumns w.2 (List.of_mem_zip hw).2
  have hseries : frame.series? (column w.2).name = some (column w.2).series := by
    have hsame : (column w.2).name = w.2 := by
      simpa using List.find?_some hcolumn
    rw [Frame.series?, hsame, hcolumn]
    rfl
  obtain ⟨formula, z, hmeaning, hz, hfits, hz'⟩ :=
    exists_integers hseries hlength hinteger htype
  refine ⟨formula, z, ?_, hz, hfits, fun row hrow => ?_⟩
  · have hbindings : List.zipWith columnBinding t.inputs (names.map column) =
        (t.inputs.zip names).map fun w => (w.1.name, (columnBinding w.1 (column w.2)).2) := by
      rw [List.zipWith_map_right, List.zip, List.map_zipWith]
      rfl
    rw [hbindings, Scope.lookup?_insertAll_map (t.inputs.zip names) (·.1.name), hfound,
      ← hmeaning]
    rfl
  · rw [hz', hvalues row hrow, ← hword]

theorem computes_columnar {frame : Frame} (ht : t.IsIntegral)
    (hnames : t.inputs.length = names.length) (h : (Table.columnar frame).HoldsIntegers names x)
    (c : Context) :
    ∃ output, (t.execute (.columnar frame) names c).result = .ok output ∧
      output.Computes frame.rowCount t.value fun row name => (t.word names x row name).toInt := by
  obtain ⟨port, houtput, htype, hconstraints⟩ := ht.output
  have hcolumns (name : String) (hname : name ∈ names) :
      ∃ column, frame.column? name = some column ∧ column.length = frame.rowCount ∧
        column.type.scalarType? = some .integer ∧
        ∀ row < frame.rowCount, column.series.value? row = some (.integer (x row name)) := by
    obtain ⟨_, hfound, hinteger, hvalues⟩ := h.columns name hname
    obtain ⟨column, hcolumn, rfl⟩ := Option.map_eq_some_iff.mp hfound
    exact ⟨column, hcolumn, h.rectangular column (List.mem_of_find?_eq_some hcolumn), hinteger,
      hvalues⟩
  obtain ⟨column, hinputs, hcolumn⟩ := exists_inputColumns ⟨"", .nulls .int64 0⟩ hcolumns
  have htyped : t.value.Typed (fun name => (t.portType? name).filter (· = .integer)) .integer :=
    ht.value.typed fun name hport => by rw [hport]; rfl
  let cells (row : Nat) (name : String) := some (Value.integer (t.word names x row name))
  have hexact (row : Nat) : t.value.IsExact (fun name => (t.word names x row name).toInt)
      (t.value.carried (cells row)).content :=
    ht.value.carried_isExact fun name _ => rfl
  have hstored (row : Nat) : (t.value.carried (cells row)).content.bind ScalarType.integer.store? =
      (t.value.carried (cells row)).content := by
    cases hcontent : (t.value.carried (cells row)).content with
    | none => rfl
    | some v =>
        obtain ⟨n, rfl⟩ := (hcontent ▸ hexact row).exists_integer
        rfl
  rw [execute_of_output hnames houtput]
  rcases runColumns_carries hinputs (columnBindings_cover hnames hcolumn) htyped htype (.inl rfl)
    (c.enter (.transform t)) with ⟨v, failure, hfailure, -⟩ | ⟨series, keep, hrun, hlength, hrows⟩
  · have hconstraint : ∃ valid,
        ((c.enter (.transform t)).isValid v port.type).result = .ok valid :=
      Context.exists_result_isValid fun k hk => by rw [hconstraints] at hk; cases hk
    obtain ⟨valid, hvalid⟩ := hconstraint
    cases hvalid.symm.trans hfailure
  · refine ⟨_, hrun, .of_isExact hlength (fun row _ => hexact row) (fun row hrow => ?_)
      fun row hrow v hv => ?_⟩
    · obtain ⟨k, hk, hverdict, -⟩ := hrows row hrow
      rw [hstored] at hverdict
      rw [TransformOutput.kept, hk]
      cases hcontent : (t.value.carried (cells row)).content with
      | none =>
          rw [hcontent] at hverdict
          cases hverdict
          rfl
      | some v =>
          rw [hcontent, verdict, hconstraints] at hverdict
          cases hverdict
          rfl
    · obtain ⟨-, -, -, hvalue⟩ := hrows row hrow
      rw [hstored] at hvalue
      exact hvalue v hv

-- A transform over integers keeps a row exactly where exact arithmetic never leaves the words, with
-- the exact value; so runs over tables of either backend that hold the same integers keep the same
-- rows with the same values.
theorem execute_integers {a b : Table} (ht : t.IsIntegral)
    (hnames : t.inputs.length = names.length) (ha : a.HoldsIntegers names x)
    (hb : b.HoldsIntegers names x) (hrows : b.rowCount = a.rowCount) (c : Context) :
    ∃ output output', (t.execute a names c).result = .ok output ∧
      (t.execute b names c).result = .ok output' ∧
      (output.Computes a.rowCount t.value fun row name => (t.word names x row name).toInt) ∧
      output'.kept = output.kept ∧
      ∀ row, output.kept[row]? = some true → output'.value? row = output.value? row := by
  have hcomputes {table : Table} (h : table.HoldsIntegers names x) :
      ∃ output, (t.execute table names c).result = .ok output ∧
        output.Computes table.rowCount t.value fun row name =>
          (t.word names x row name).toInt := by
    cases table with
    | array vt => exact computes_array ht hnames h c
    | columnar frame => exact computes_columnar ht hnames h c
  obtain ⟨output, hrun, houtput⟩ := hcomputes ha
  obtain ⟨output', hrun', houtput'⟩ := hcomputes hb
  rw [hrows] at houtput'
  exact ⟨output, output', hrun, hrun', houtput, houtput'.kept_eq houtput, fun row hkept =>
    (houtput.value?_eq houtput' hkept).symm⟩

-- The expression `a % b + - a`.
def remainders : Transform :=
  let a : Expr := .var "a" .unknown
  .mk "remainders" [.input "a" .integer, .input "b" .integer, .output "r" .integer] "r"
    (.binary .add (.binary .modulo a (.var "b" .unknown) .unknown) (.unary .minus a .unknown)
      .unknown) .unknown

def dividends : List Int64 := [7, Int64.minValue, 5]

def divisors : List Int64 := [-2, -1, 0]

def operandOf (row : Nat) (name : String) : Int64 :=
  ((if name = "a" then dividends else divisors)[row]?).getD 0

def operandTable : ValueTable :=
  ⟨[⟨"a", .integer, dividends.map .integer⟩, ⟨"b", .integer, divisors.map .integer⟩], 3⟩

-- The divisors are held in single bytes.
def operandFrame : Frame :=
  ⟨[⟨"a", .int64, dividends.map some⟩, ⟨"b", .int8, divisors.map fun n => some n.toInt⟩], 3⟩

-- The last two rows are dropped: there is no remainder by zero, and none of the least word by `-1`.
theorem execute_integers_remainders :
    ∃ output, (remainders.execute (.columnar operandFrame) ["a", "b"] .bare).result =
        .ok output ∧
      output.kept = [true, false, false] ∧ output.value? 0 = some (.integer (-6)) := by
  have hintegral : remainders.IsIntegral :=
    ⟨.binary rfl (.binary rfl (.var rfl) (.var rfl)) (.unary rfl (.var rfl)), _, rfl, rfl, rfl⟩
  have harray : (Table.array operandTable).HoldsIntegers ["a", "b"] operandOf := by
    refine ⟨?_, fun name hname => ?_⟩
    · show ∀ c ∈ operandTable.columns, c.length = 3
      decide
    · simp only [List.mem_cons, List.not_mem_nil, or_false] at hname
      rcases hname with rfl | rfl <;> refine ⟨_, rfl, rfl, fun row hrow => ?_⟩ <;>
        match row, hrow with
        | 0, _ | 1, _ | 2, _ => rfl
  have hcolumnar : (Table.columnar operandFrame).HoldsIntegers ["a", "b"] operandOf := by
    refine ⟨?_, fun name hname => ?_⟩
    · show ∀ c ∈ operandFrame.columns, c.length = 3
      decide
    · simp only [List.mem_cons, List.not_mem_nil, or_false] at hname
      rcases hname with rfl | rfl <;> refine ⟨_, rfl, rfl, fun row hrow => ?_⟩ <;>
        match row, hrow with
        | 0, _ | 1, _ | 2, _ => rfl
  have hmarks : (remainders.execute (.array operandTable) ["a", "b"]
      .bare).result.toOption.map (·.kept) = some [true, false, false] := by decide +kernel
  obtain ⟨output, output', hrun, hrun', hcomputes, hkept, hvalue⟩ :=
    execute_integers hintegral rfl harray hcolumnar rfl .bare
  rw [hrun] at hmarks
  have hkept' : output.kept = [true, false, false] := Option.some.inj hmarks
  have hfirst : output.kept[0]? = some true := by
    rw [hkept']
    rfl
  obtain ⟨n, hn, hn'⟩ := hcomputes.value 0 (by decide) hfirst
  obtain rfl : n = -6 := Int64.toInt_inj.mp hn
  exact ⟨output', hrun', hkept.trans hkept', (hvalue 0 hfirst).trans hn'⟩

end Transform

end TableFlow
