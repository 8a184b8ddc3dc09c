import TableFlow.Proofs.Transform.Bindings
import TableFlow.Proofs.Execution

namespace TableFlow

-- The form in which a column of the type holds a value, if it holds it without loss.
def ScalarType.store? : ScalarType → Value → Option Value
  | .boolean, .boolean b => some (.boolean b)
  | .integer, .integer n => some (.integer n)
  | .integer, .decimal d => (d.toInt?.bind Integer.ofInt?).map .integer
  | .decimal, .integer n => some (.decimal (.ofInt64 n))
  | .decimal, .decimal d => if d.isFinite then some (.decimal d) else none
  | .text, .text s => some (.text s)
  | _, _ => none

namespace Transform

-- Whether a row is kept whose value has been stored.
def verdict (type : ValueType) (c : Context) : Option Value → Execution Bool
  | none => pure false
  | some v => if type.constraints.isEmpty then pure true else c.isValid v type

-- Types between which the result of a transform is converted.
def Convertible (σ τ : ScalarType) : Prop := σ = τ ∨ (σ.isNumeric = true ∧ τ.isNumeric = true)

-- The cell of a decimal that is looked at before the conversion.
private def decimal? : (ρ : ScalarType) → Option ρ.dataType.Cell → Option Decimal
  | .decimal, cell => cell
  | _, _ => none

private theorem truncate?_of_toInt? {d : Decimal} {n : Int} (h : d.toInt? = some n) :
    d.isFinite = true ∧ d.truncate? = some n := by
  unfold Decimal.toInt? at h
  split at h
  next a b ha hb =>
    obtain ⟨heq, hn⟩ := Option.ite_none_right_eq_some.mp h
    subst heq
    cases hn
    refine ⟨?_, ?_⟩
    · cases hfinite : d.isFinite with
      | true => rfl
      | false => cases (d.floor?_eq_none hfinite).symm.trans ha
    · unfold Decimal.truncate?
      split
      · exact hb
      · exact ha
  next => cases h

-- A whole decimal is converted to the word that it denotes.
private theorem word_of_toInt? {d : Decimal} {n : Int} (h : d.toInt? = some n) :
    ((DataType.Number.decimal d).toInt? (-2 ^ 63, 2 ^ 63 - 1)).bind Integer.ofInt? =
      Integer.ofInt? n := by
  simp only [DataType.Number.toInt?, (truncate?_of_toInt? h).2, Option.filter_some]
  split
  · rfl
  next hrange =>
    refine (Integer.ofInt?_eq_none_iff.mpr ?_).symm
    simp only [decide_eq_true_eq] at hrange
    omega

-- Every other decimal is refused.
private theorem keepsRow_integer (type : ValueType) (c : Context) (d : Decimal) :
    keepsRow .int64 type c (some d, (((DataType.Number.decimal d).toInt? (-2 ^ 63, 2 ^ 63 - 1)).bind
        Integer.ofInt?).map .integer) =
      verdict type c ((d.toInt?.bind Integer.ofInt?).map .integer) := by
  cases hd : d.toInt? with
  | none =>
      have hexact : isExact .int64 d = false := by simp [isExact, hd]
      cases ((DataType.Number.decimal d).toInt? (-2 ^ 63, 2 ^ 63 - 1)).bind Integer.ofInt? with
      | none => rfl
      | some n => simp [keepsRow, hexact, verdict]
  | some n =>
      have hexact : isExact .int64 d = true := by
        simp [isExact, hd, (truncate?_of_toInt? hd).1]
      rw [word_of_toInt? hd, Option.bind_some]
      cases Integer.ofInt? n with
      | none => rfl
      | some a => simp [keepsRow, hexact, verdict]

-- A cell is kept as its value is, and where it is stored it holds the value.
private theorem keepsRow_cell {ρ τ : ScalarType} (h : Convertible ρ τ) (type : ValueType)
    (c : Context) :
    ∃ convert, DataType.cast? ρ.dataType τ.dataType = some convert ∧
      ∀ cell : Option ρ.dataType.Cell,
        keepsRow τ.dataType type c
            (decimal? ρ cell, (cell.bind convert).bind τ.dataType.cellValue?) =
          verdict type c ((cell.bind ρ.dataType.cellValue?).bind τ.store?) ∧
        ∀ v, (cell.bind ρ.dataType.cellValue?).bind τ.store? = some v →
          (cell.bind convert).bind τ.dataType.cellValue? = some v := by
  cases ρ <;> cases τ <;> simp [Convertible, ScalarType.isNumeric] at h <;>
    refine ⟨_, rfl, fun cell => ?_⟩ <;> cases cell
  all_goals try exact ⟨rfl, fun v hv => hv⟩
  case decimal.integer.some d =>
    constructor
    · refine Eq.trans ?_ (keepsRow_integer type c d)
      rw [Option.map_eq_bind]
      rfl
    · intro v hv
      obtain ⟨a, ha, rfl⟩ := Option.map_eq_some_iff.mp hv
      obtain ⟨n, hn, ha⟩ := Option.bind_eq_some_iff.mp ha
      show (((DataType.Number.decimal d).toInt? (-2 ^ 63, 2 ^ 63 - 1)).bind Integer.ofInt?).bind
        DataType.int64.cellValue? = some (.integer a)
      rw [word_of_toInt? hn, ha]
      rfl
  case decimal.decimal.some d =>
    constructor
    · show keepsRow .float64 type c (some d, some (.decimal d)) =
        verdict type c (if d.isFinite then some (.decimal d) else none)
      cases hfinite : d.isFinite <;> simp [keepsRow, isExact, hfinite, verdict]
    · exact fun v hv => (Option.ite_none_right_eq_some.mp hv).2

-- A transform whose ports stand for columns with as many rows, with the types of its expression and
-- of its output.
structure Applies (t : Transform) (bound : Bound) (rows : Nat) (type : ValueType)
    (σ τ : ScalarType) : Prop where
  inputs : t.inputs = bound.map (·.1)
  fits : bound.Fits rows
  output : t.output?.map (·.type) = some type
  stored : type.scalarType? = some τ
  typed : t.value.Typed bound.portType? σ
  convertible : Convertible σ τ

-- The columns of a frame that the ports stand for.
def Bound.In (bound : Bound) (frame : Frame) : Prop :=
  ∀ b ∈ bound, frame.column? b.2.name = some b.2.toFrameColumn

variable {t : Transform} {bound : Bound} {frame : Frame} {type : ValueType} {σ τ : ScalarType}

theorem inputColumns_map {α β : Type} {column? : String → Option α} {name : β → String}
    {column : β → α} {bs : List β} (h : ∀ b ∈ bs, column? (name b) = some (column b)) :
    inputColumns column? (bs.map name) = pure (bs.map column) := by
  induction bs with
  | nil => rfl
  | cons b bs ih =>
      have htail : inputColumns column? (bs.map name) = pure (bs.map column) :=
        ih fun b' hb' => h b' (List.mem_cons_of_mem b hb')
      rw [inputColumns] at htail ⊢
      rw [List.map_cons, List.mapM_cons, h b (List.mem_cons_self ..), htail]
      rfl

-- Where all columns named are there, a function gives them; `other` stands for what is not named.
theorem exists_inputColumns {α : Type} (other : α) {column? : String → Option α}
    {P : String → α → Prop} {names : List String}
    (h : ∀ name ∈ names, ∃ column, column? name = some column ∧ P name column) :
    ∃ column : String → α, inputColumns column? names = pure (names.map column) ∧
      ∀ name ∈ names, column? name = some (column name) ∧ P name (column name) := by
  have hcolumn (name : String) (hname : name ∈ names) :
      column? name = some ((column? name).getD other) ∧ P name ((column? name).getD other) := by
    obtain ⟨column, hfound, hcolumn⟩ := h name hname
    rw [hfound]
    exact ⟨rfl, hcolumn⟩
  have hinputs : inputColumns column? (names.map id) =
      pure (names.map fun name => (column? name).getD other) :=
    inputColumns_map fun name hname => (hcolumn name hname).1
  rw [List.map_id] at hinputs
  exact ⟨_, hinputs, hcolumn⟩

private theorem expand_getElem? {α : Type} (datum : Formula.Datum α) {rows row : Nat}
    (hrow : row < rows) : (datum.expand rows)[row]?.join = datum.cell? row := by
  cases datum with
  | constant cell =>
      rw [Formula.Datum.expand, List.getElem?_replicate_of_lt hrow]
      rfl
  | column cells => rfl

private theorem hasCode_unsupported {α : Type} {outcome : Outcome α} (h : outcome.IsArithmetic) :
    Diagnostic.hasCode outcome.diagnostics .unsupported = false := by
  rw [Diagnostic.hasCode, List.any_eq_false]
  intro d hd
  rw [h d hd]
  decide

variable {Γ : String → Option ScalarType} {cells : Nat → String → Option Value}

-- The cells before the conversion are what is carried.
theorem runFormula_carries {bindings : List (String × Symbolic)}
    (hcovers : (Scope.empty.insertAll bindings).Covers frame.series? frame.rowCount Γ cells)
    (htyped : t.value.Typed Γ σ) (hconvertible : Convertible σ τ) (c : Context) :
    ∃ (ρ : ScalarType) (raw : List (Option ρ.dataType.Cell)),
      (t.runFormula frame bindings τ.dataType c).result = .ok ⟨ρ.dataType, raw⟩ ∧
      Convertible ρ τ ∧ raw.length = frame.rowCount ∧
      ∀ row < frame.rowCount, raw[row]?.join.bind ρ.dataType.cellValue? =
        (t.value.carried (cells row)).content := by
  obtain ⟨harithmetic, hcarries⟩ := htyped.evaluateSymbolic_carries hcovers
  rw [runFormula, Execution.result_bind_ok rfl]
  cases hvalue : (t.value.evaluateSymbolic .lazy (Scope.empty.insertAll bindings)).value with
  | none =>
      rw [hvalue] at hcarries
      cases hcarries with
      | failed hfailed =>
        refine ⟨τ, List.replicate frame.rowCount none, ?_, .inl rfl, List.length_replicate,
          fun row hrow => ?_⟩
        · simp only [hasCode_unsupported harithmetic]
          rfl
        · rw [List.getElem?_replicate_of_lt hrow, hfailed row hrow]
          rfl
  | some a =>
      rw [hvalue] at hcarries
      obtain ⟨⟨s, datum⟩, hz, ⟨rfl, hlength⟩, hcells⟩ := hcarries.exists_formula
      refine ⟨σ, datum.expand frame.rowCount, ?_, hconvertible, hlength, fun row hrow => ?_⟩
      · simp only []
        rw [Execution.result_bind_ok rfl, Frame.evaluateSeries, Frame.evaluate, hz]
        rfl
      · rw [expand_getElem? datum hrow, ← hcells row hrow]
        rfl

private theorem decimals_eq (ρ : ScalarType) (cells : List (Option ρ.dataType.Cell)) :
    decimals ⟨ρ.dataType, cells⟩ = cells.map (decimal? ρ) := by
  cases ρ with
  | decimal => exact (List.map_id' cells).symm
  | boolean => rfl
  | integer => rfl
  | text => rfl

private theorem verdict_error {c : Context} {v : Option Value} {failure : Failure}
    (h : (verdict type c v).result = .error failure) :
    ∃ w, (c.isValid w type).result = .error failure := by
  cases v with
  | none => cases h
  | some w =>
      rw [verdict] at h
      split at h
      · cases h
      · exact ⟨w, h⟩

-- What a run over a frame makes of the cells before the conversion: a mark for each row, and where
-- it is set the value that is stored, unless the test of a constraint fails.
theorem runColumns_of_runFormula {names : List String} {columns : List FrameColumn}
    (hcolumns : inputColumns frame.column? names = pure columns) {ρ : ScalarType}
    {raw : List (Option ρ.dataType.Cell)} {c : Context}
    (hraw : (t.runFormula frame (List.zipWith columnBinding t.inputs columns) τ.dataType c).result =
      .ok ⟨ρ.dataType, raw⟩)
    (hstored : type.scalarType? = some τ) (hconvertible : Convertible ρ τ) :
    (∃ v failure, (c.isValid v type).result = .error failure ∧
      (t.runColumns frame names type c).result = .error failure) ∨
    ∃ series keep, (t.runColumns frame names type c).result = .ok (.columns series keep) ∧
      keep.length = raw.length ∧ ∀ (row : Nat) (cell : Option ρ.dataType.Cell),
        raw[row]? = some cell → ∃ k, keep[row]? = some k ∧
          (verdict type c ((cell.bind ρ.dataType.cellValue?).bind τ.store?)).result = .ok k ∧
          ∀ v, (cell.bind ρ.dataType.cellValue?).bind τ.store? = some v →
            series.value? row = some v := by
  obtain ⟨convert, hconvert, hkeeps⟩ := keepsRow_cell hconvertible type c
  have hcast : (⟨ρ.dataType, raw⟩ : Series).cast? τ.dataType =
      some ⟨τ.dataType, raw.map (·.bind convert)⟩ := by
    rw [Series.cast?, hconvert]
    rfl
  have hmarks : ((decimals ⟨ρ.dataType, raw⟩).zip
      (Series.values ⟨τ.dataType, raw.map (·.bind convert)⟩)).mapM
        (keepsRow τ.dataType type c) =
      raw.mapM fun cell =>
        verdict type c ((cell.bind ρ.dataType.cellValue?).bind τ.store?) := by
    rw [decimals_eq, Series.values, List.map_map, List.zip_map', List.mapM_map]
    exact congrArg (raw.mapM ·) (funext fun cell => (hkeeps cell).1)
  rw [runColumns, hcolumns, Execution.pure_bind, ValueType.dataType_of_scalarType? hstored,
    Execution.result_bind_ok hraw, hcast]
  simp only [hmarks]
  rcases Execution.result_mapM (fun cell : Option ρ.dataType.Cell =>
    verdict type c ((cell.bind ρ.dataType.cellValue?).bind τ.store?)) raw with
    ⟨keep, hkeep, hkept, hall⟩ | ⟨cell, -, failure, hfailure, hkeep⟩
  · refine .inr ⟨_, keep, by rw [Execution.result_bind_ok hkeep]; rfl, hkept,
      fun row cell hcell => ?_⟩
    obtain ⟨k, hk, hverdict⟩ := hall row cell hcell
    refine ⟨k, hk, hverdict, fun v hv => ?_⟩
    rw [Series.value?, List.getElem?_map, hcell]
    exact (hkeeps cell).2 v hv
  · obtain ⟨v, hv⟩ := verdict_error hfailure
    exact .inl ⟨v, failure, hv, Execution.result_bind_error hkeep _⟩

-- What a run over a frame returns: a mark for each row, and where it is set the value that is
-- stored, unless the test of a constraint fails.
theorem runColumns_carries {names : List String} {columns : List FrameColumn}
    (hcolumns : inputColumns frame.column? names = pure columns)
    (hcovers : (Scope.empty.insertAll (List.zipWith columnBinding t.inputs columns)).Covers
      frame.series? frame.rowCount Γ cells)
    (htyped : t.value.Typed Γ σ) (hstored : type.scalarType? = some τ)
    (hconvertible : Convertible σ τ) (c : Context) :
    (∃ v failure, (c.isValid v type).result = .error failure ∧
      (t.runColumns frame names type c).result = .error failure) ∨
    ∃ series keep, (t.runColumns frame names type c).result = .ok (.columns series keep) ∧
      keep.length = frame.rowCount ∧ ∀ row < frame.rowCount, ∃ k, keep[row]? = some k ∧
        (verdict type c ((t.value.carried (cells row)).content.bind τ.store?)).result = .ok k ∧
        ∀ v, (t.value.carried (cells row)).content.bind τ.store? = some v →
          series.value? row = some v := by
  obtain ⟨ρ, raw, hraw, hconvertible, hlength, hcells⟩ :=
    runFormula_carries hcovers htyped hconvertible c
  rcases runColumns_of_runFormula hcolumns hraw hstored hconvertible with
    hfailure | ⟨series, keep, hrun, hkept, hrows⟩
  · exact .inl hfailure
  · refine .inr ⟨series, keep, hrun, hkept.trans hlength, fun row hrow => ?_⟩
    have hcell : raw[row]? = some raw[row] := List.getElem?_eq_getElem (hlength ▸ hrow)
    rw [← hcells row hrow, hcell]
    exact hrows row _ hcell

-- What is carried for a row decides whether it is kept.
theorem runColumns_result (h : t.Applies bound frame.rowCount type σ τ) (hin : bound.In frame)
    (c : Context) :
    (∃ v failure, (c.isValid v type).result = .error failure ∧
      (t.runColumns frame (bound.map (·.2.name)) type c).result = .error failure) ∨
    ∃ series keep,
      (t.runColumns frame (bound.map (·.2.name)) type c).result = .ok (.columns series keep) ∧
      keep.length = frame.rowCount ∧ ∀ row < frame.rowCount, ∃ k, keep[row]? = some k ∧
        (verdict type c ((t.value.carried (bound.cells row)).content.bind τ.store?)).result =
          .ok k := by
  have hcovers : (Scope.empty.insertAll
      (List.zipWith columnBinding t.inputs (bound.map (·.2.toFrameColumn)))).Covers
        frame.series? frame.rowCount bound.portType? bound.cells := by
    rw [h.inputs]
    exact Bound.columnScope_covers h.fits fun b hb => by rw [Frame.series?, hin b hb]; rfl
  rcases runColumns_carries (inputColumns_map hin) hcovers h.typed h.stored h.convertible c with
    hfailure | ⟨series, keep, hrun, hlength, hrows⟩
  · exact .inl hfailure
  · refine .inr ⟨series, keep, hrun, hlength, fun row hrow => ?_⟩
    obtain ⟨k, hk, hverdict, -⟩ := hrows row hrow
    exact ⟨k, hk, hverdict⟩

end Transform

end TableFlow
