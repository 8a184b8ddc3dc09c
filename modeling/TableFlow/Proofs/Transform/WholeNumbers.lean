import TableFlow.Proofs.Expression.Rounding
import TableFlow.Proofs.Transform.Backends
import TableFlow.Proofs.Transform.Rows
import TableFlow.Proofs.ValueType.Widening

namespace TableFlow

-- The word that a run over a table of the backend takes for a decimal.
def Backend.word? (d : Decimal) : Backend → Option Int64
  | .array => Primitive.wholeNumber? d
  | .columnar => d.toInt?.bind Integer.ofInt?

theorem Backend.word?_eq_some_iff {b : Backend} {d : Decimal} (hd : d.isFinite = true) {n : Int64} :
    b.word? d = some n ↔ d.value = n.toInt ∧ (b = .array → n ≠ Int64.minValue) := by
  cases b with
  | array => simp [word?, Primitive.wholeNumber?_eq_some_iff, hd]
  | columnar =>
      simp only [word?, Option.bind_eq_some_iff, Decimal.toInt?_eq_some_iff, hd, true_and,
        Integer.ofInt?_eq_some_iff, reduceCtorEq, false_imp_iff, and_true]
      constructor
      · rintro ⟨k, hk, rfl⟩
        exact hk
      · intro hn
        exact ⟨_, hn, rfl⟩

-- The row is kept exactly if there is such a word, and then it holds it.
def TransformOutput.KeepsWord (output : TransformOutput) (row : Nat) (p : Int64 → Prop) : Prop :=
  ∃ k, output.kept[row]? = some k ∧ (k = true ↔ ∃ n, p n) ∧
    ∀ n, p n → output.value? row = some (.integer n)

theorem TransformOutput.KeepsWord.holds {output : TransformOutput} {row : Nat} {p : Int64 → Prop}
    (h : output.KeepsWord row p) {n : Int64} (hn : p n) :
    output.kept[row]? = some true ∧ output.value? row = some (.integer n) := by
  obtain ⟨k, hk, hiff, hvalue⟩ := h
  rw [hk, hiff.mpr ⟨n, hn⟩]
  exact ⟨rfl, hvalue n hn⟩

namespace Transform

variable {t : Transform} {names : List String} {type : ValueType} {c : Context} {row : Nat}
  {d : Decimal}

theorem verdict_eq_isValid {v : Value} (hv : type.represents v = true) (c : Context) :
    verdict type c (some v) = c.isValid v type := by
  rw [verdict]
  split
  next h => exact (Context.isValid_of_constraints hv (List.isEmpty_iff.mp h)).symm
  next => rfl

-- A mark is set exactly for a word that is valid.
theorem verdict_word (ht : type.scalarType? = some .integer) {word? : Option Int64} {k : Bool}
    (h : (verdict type c (word?.map .integer)).result = .ok k) :
    k = true ↔ ∃ n, word? = some n ∧ (c.isValid (.integer n) type).result = .ok true := by
  cases word? with
  | none =>
      cases h
      simp
  | some n =>
      rw [Option.map_some,
        verdict_eq_isValid ((type.represents_of_scalarType? ht _).mpr ⟨rfl, rfl⟩)] at h
      simp [h]

-- Over a table of values the decimal is brought into the form of an integer first.
theorem runRow_decimal {columns : List ValueColumn} (ht : type.scalarType? = some .integer)
    (hvalue : (t.value.evaluate .lazy
      (Scope.empty.insertAll (rowBindings t.inputs columns row))).value = some (.decimal d)) :
    (t.runRow columns type c row).result =
      (fun k => if k then (Backend.array.word? d).map .integer else none) <$>
        (verdict type c ((Backend.array.word? d).map .integer)).result := by
  rw [runRow_result, hvalue]
  simp only [type.normalize_of_scalarType? ht, ScalarType.primitive, Primitive.normalize,
    Backend.word?]
  cases Primitive.wholeNumber? d with
  | some n =>
      simp only [Option.map_some]
      rw [verdict_eq_isValid ((type.represents_of_scalarType? ht _).mpr ⟨rfl, rfl⟩)]
  | none =>
      have hform : type.represents (.decimal d) = false := by
        rw [Bool.eq_false_iff]
        intro h
        cases ((type.represents_of_scalarType? ht _).mp h).1
      simp only [Context.isValid, hform]
      rfl

theorem runRows_decimal {vt : ValueTable} {columns : List ValueColumn}
    (ht : type.scalarType? = some .integer)
    (hcolumns : inputColumns vt.column? names = pure columns) (hrow : row < vt.rowCount)
    (hvalue : (t.value.evaluate .lazy
      (Scope.empty.insertAll (rowBindings t.inputs columns row))).value = some (.decimal d)) :
    (∃ failure, c.CanFail type failure ∧ (t.runRows vt names type c).result = .error failure) ∨
    ∃ output, (t.runRows vt names type c).result = .ok output ∧
      output.KeepsWord row fun n =>
        Backend.array.word? d = some n ∧ (c.isValid (.integer n) type).result = .ok true := by
  rw [runRows, hcolumns, Execution.pure_bind]
  rcases Execution.result_mapM (t.runRow columns type c) (List.range vt.rowCount) with
    ⟨results, hresults, -, hall⟩ | ⟨other, -, failure, hfailure, hresults⟩
  · obtain ⟨result, hresult, hrun⟩ := hall row row (by rw [List.getElem?_range hrow])
    rw [runRow_decimal ht hvalue] at hrun
    obtain ⟨k, hverdict, rfl⟩ := exists_of_map hrun
    have hkeeps := verdict_word ht hverdict
    refine .inr ⟨_, Execution.result_bind_ok hresults _, k, ?_, hkeeps, ?_⟩
    · rw [TransformOutput.kept, List.getElem?_map, hresult]
      cases k with
      | false => rfl
      | true =>
          obtain ⟨n, hn, -⟩ := hkeeps.mp rfl
          simp [hn]
    · rintro n ⟨hn, hvalid⟩
      rw [TransformOutput.value?, hresult, if_pos (hkeeps.mpr ⟨n, hn, hvalid⟩), hn]
      rfl
  · exact .inl ⟨failure, canFail_of_runRow hfailure, Execution.result_bind_error hresults _⟩

-- Over a frame the cell is converted, and the row kept if the decimal was whole.
theorem runColumns_decimal {frame : Frame} {columns : List FrameColumn}
    {cells : List (Option Decimal)} (ht : type.scalarType? = some .integer)
    (hcolumns : inputColumns frame.column? names = pure columns)
    (hraw : (t.runFormula frame (List.zipWith columnBinding t.inputs columns) type.dataType
      c).result = .ok ⟨.float64, cells⟩) (hcell : cells[row]? = some (some d)) :
    (∃ failure, c.CanFail type failure ∧
      (t.runColumns frame names type c).result = .error failure) ∨
    ∃ output, (t.runColumns frame names type c).result = .ok output ∧
      output.KeepsWord row fun n =>
        Backend.columnar.word? d = some n ∧ (c.isValid (.integer n) type).result = .ok true := by
  rw [type.dataType_of_scalarType? ht] at hraw
  rcases runColumns_of_runFormula (ρ := .decimal) hcolumns hraw ht (.inr ⟨rfl, rfl⟩) with
    ⟨v, failure, hfailure, hrun⟩ | ⟨series, keep, hrun, -, hrows⟩
  · exact .inl ⟨failure, ⟨v, hfailure⟩, hrun⟩
  · obtain ⟨k, hk, hverdict, hvalue⟩ := hrows row _ hcell
    refine .inr ⟨_, hrun, k, hk, verdict_word ht hverdict, fun n hn => hvalue _ ?_⟩
    show (Backend.columnar.word? d).map Value.integer = _
    rw [hn.1]
    rfl

-- A row in which the result of a transform is a decimal, before it is brought into the form of the
-- output, which is an integer.
structure HasDecimal (t : Transform) (table : Table) (names : List String) (type : ValueType)
    (c : Context) (row : Nat) (d : Decimal) : Prop where
  inputs : t.inputs.length = names.length
  output : t.output?.map (·.type) = some type
  integer : type.scalarType? = some .integer
  result : match table with
    | .array vt => row < vt.rowCount ∧ ∃ columns,
        inputColumns vt.column? names = pure columns ∧
        (t.value.evaluate .lazy
          (Scope.empty.insertAll (rowBindings t.inputs columns row))).value = some (.decimal d)
    | .columnar frame => ∃ columns cells, inputColumns frame.column? names = pure columns ∧
        (t.runFormula frame (List.zipWith columnBinding t.inputs columns) type.dataType
          (c.enter (.transform t))).result = .ok ⟨.float64, cells⟩ ∧
        cells[row]? = some (some d)

theorem execute_decimal {table : Table} (h : t.HasDecimal table names type c row d)
    (hd : d.isFinite = true) :
    (∃ failure, (c.enter (.transform t)).CanFail type failure ∧
      (t.execute table names c).result = .error failure) ∨
    ∃ output, (t.execute table names c).result = .ok output ∧ output.KeepsWord row fun n =>
      (d.value = n.toInt ∧ (table.backend = .array → n ≠ Int64.minValue)) ∧
        ((c.enter (.transform t)).isValid (.integer n) type).result = .ok true := by
  obtain ⟨port, hport, rfl⟩ := Option.map_eq_some_iff.mp h.output
  have hresult := h.result
  rw [execute_of_output h.inputs hport]
  simp only [← Backend.word?_eq_some_iff hd]
  cases table with
  | array vt =>
      obtain ⟨hrow, columns, hcolumns, hvalue⟩ := hresult
      exact runRows_decimal h.integer hcolumns hrow hvalue
  | columnar frame =>
      obtain ⟨columns, cells, hcolumns, hraw, hcell⟩ := hresult
      exact runColumns_decimal h.integer hcolumns hraw hcell

end Transform

-- Every path from decimals to words takes a decimal for the word that it denotes and for no other.
-- All of them but the conversion of columns miss the least word, and rounding misses more.
theorem Decimal.integer_paths {d : Decimal} (hd : d.isFinite = true) :
    (∀ (type : ValueType) (n : Int64), type.scalarType? = some .integer →
      (type.normalize (.decimal d) = .integer n ↔
        d.value = n.toInt ∧ n ≠ Int64.minValue)) ∧
    (∀ (op : UnaryOp) (n : Int64), op.whole?.isSome = true → d.value = n.toInt →
      (op.apply (.decimal d) = .ok (.integer n) ↔ ¬ op.Misses n) ∧
      ∀ (f : Frame) (formula : Formula) (cells : List (Option Decimal)) (row : Nat),
        f.evaluateSeries formula = .ok ⟨.float64, cells⟩ → cells[row]? = some (some d) →
        ∃ result series, op.applySymbolic (.column formula) = .ok (.column result) ∧
          f.evaluateSeries result = .ok series ∧
          (series.value? row = some (.integer n) ↔ ¬ op.Misses n)) ∧
    ∀ (t : Transform) (table : Table) (names : List String) (type : ValueType) (c : Context)
      (row : Nat), t.HasDecimal table names type c row d →
      (∃ failure, (c.enter (.transform t)).CanFail type failure ∧
        (t.execute table names c).result = .error failure) ∨
      ∃ output, (t.execute table names c).result = .ok output ∧ output.KeepsWord row fun n =>
        (d.value = n.toInt ∧ (table.backend = .array → n ≠ Int64.minValue)) ∧
          ((c.enter (.transform t)).isValid (.integer n) type).result = .ok true := by
  refine ⟨fun type n htype => ?_, fun op n hop hn => ?_, fun t table names type c row h =>
    Transform.execute_decimal h hd⟩
  · rw [type.normalize_decimal_eq_iff htype]
    simp only [hd, true_and]
  · obtain ⟨whole, hwhole⟩ := Option.isSome_iff_exists.mp hop
    have hmisses := UnaryOp.whole_eq_iff hwhole hd hn
    refine ⟨(UnaryOp.apply_eq_ok_iff hwhole).trans hmisses, ?_⟩
    intro f formula cells row hcells hrow
    obtain ⟨result, series, hresult, hseries, hcell⟩ :=
      UnaryOp.exists_series_whole hwhole hcells hrow
    exact ⟨result, series, hresult, hseries, (hcell n).trans hmisses⟩

namespace Transform

def asCount : Transform :=
  .mk "asCount" [.input "length" .decimal, .output "count" .integer] "count"
    (.var "length" .unknown) .unknown

def lengthTable (d : Decimal) : Backend → Table
  | .array => .array ⟨[⟨"length", .decimal, [.decimal d]⟩], 1⟩
  | .columnar => .columnar ⟨[⟨"length", .float64, [some d]⟩], 1⟩

theorem hasDecimal_asCount (b : Backend) (c : Context) :
    asCount.HasDecimal (lengthTable UnaryOp.oddWhole b) ["length"] .integer c 0
      UnaryOp.oddWhole where
  inputs := rfl
  output := rfl
  integer := rfl
  result := by
    cases b with
    | array => exact ⟨by decide, _, rfl, rfl⟩
    | columnar => exact ⟨_, _, rfl, rfl, rfl⟩

end Transform

namespace Decimal

open Transform UnaryOp

-- An odd word of 53 bits: both backends keep its row, and rounding takes it for the next one.
theorem integer_paths_oddWhole :
    ValueType.integer.normalize (.decimal oddWhole) = .integer 4503599627370497 ∧
    UnaryOp.floor.apply (.decimal oddWhole) = .ok (.integer 4503599627370497) ∧
    UnaryOp.round.apply (.decimal oddWhole) ≠ .ok (.integer 4503599627370497) ∧
    ∀ b, ∃ output, (asCount.execute (lengthTable oddWhole b) ["length"] .bare).result =
        .ok output ∧ output.kept[0]? = some true ∧
      output.value? 0 = some (.integer 4503599627370497) := by
  have hvalue : oddWhole.value = (4503599627370497 : Int64).toInt := by
    have hword : (4503599627370497 : Int64).toInt = 2 ^ 52 + 1 := rfl
    rw [oddWhole, value_finite, hword]
    norm_num
  have hnotLeast : (4503599627370497 : Int64) ≠ Int64.minValue := by decide
  have hmisses : UnaryOp.round.Misses 4503599627370497 :=
    .inr ⟨rfl, .inr ⟨_, rfl, by decide, by decide, by decide⟩⟩
  obtain ⟨hnormalize, hround, htransform⟩ := integer_paths (d := oddWhole) rfl
  refine ⟨(hnormalize _ _ rfl).mpr ⟨hvalue, hnotLeast⟩, (hround .floor _ rfl hvalue).1.mpr ?_,
    mt (hround .round _ rfl hvalue).1.mp (not_not.mpr hmisses), fun b => ?_⟩
  · rintro (h | ⟨h, -⟩)
    · exact hnotLeast h
    · cases h
  · have hvalid (v : Value) : ((Context.bare.enter (.transform asCount)).isValid v
        .integer).result = .ok (ValueType.integer.represents v) := by
      cases v <;> rfl
    rcases htransform _ _ _ _ _ _ (hasDecimal_asCount b .bare) with
      ⟨failure, ⟨v, hfailure⟩, -⟩ | ⟨output, houtput, hkeeps⟩
    · rw [hvalid v] at hfailure
      cases hfailure
    · exact ⟨output, houtput, hkeeps.holds ⟨⟨hvalue, fun _ => hnotLeast⟩, hvalid _⟩⟩

-- The least word is whole, but only the conversion of columns takes its decimal for it.
theorem least_word_missed :
    (ofInt (-2 ^ 63)).value = Int64.minValue.toInt ∧
    ValueType.integer.normalize (.decimal (.ofInt (-2 ^ 63))) = .decimal (.ofInt (-2 ^ 63)) ∧
    UnaryOp.floor.apply (.decimal (.ofInt (-2 ^ 63))) ≠ .ok (.integer Int64.minValue) ∧
    (asCount.execute (lengthTable (.ofInt (-2 ^ 63)) .array) ["length"]
      .bare).result.toOption.map (·.kept) = some [false] ∧
    (asCount.execute (lengthTable (.ofInt (-2 ^ 63)) .columnar) ["length"]
      .bare).result.toOption.map (·.kept) = some [true] ∧
    (asCount.execute (lengthTable (.ofInt (-2 ^ 63)) .columnar) ["length"]
      .bare).result.toOption.bind (·.value? 0) = some (.integer Int64.minValue) := by
  refine ⟨?_, rfl, ?_, ?_, ?_, rfl⟩
  · rw [value_ofInt_of_fitsMantissa (by decide) ⟨63, by decide, by decide⟩]
    rfl
  · rintro h
    cases h
  · decide +kernel
  · decide +kernel

end Decimal

end TableFlow
