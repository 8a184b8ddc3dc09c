import TableFlow.Proofs.Table.Simulation
import TableFlow.Proofs.Transform.Columns
import TableFlow.Proofs.Transform.Outputs

namespace TableFlow

namespace ScalarType

-- Infinities and NaNs are not stored.
theorem store?_of_not_isFinite {v : Value} (h : v.isFinite = false) (τ : ScalarType) :
    τ.store? v = none := by
  cases v with
  | decimal d =>
      have hd : d.isFinite = false := h
      cases τ with
      | boolean => rfl
      | integer =>
          simp only [store?, Decimal.toInt?, d.floor?_eq_none hd, Option.bind_none, Option.map_none]
      | decimal => simp only [store?, hd, Bool.false_eq_true, if_false]
      | text => rfl
  | _ => cases h

-- A whole decimal is stored as the integer that it denotes.
private theorem store?_wholeNumber {d : Decimal} {n : Int64}
    (h : Primitive.wholeNumber? d = some n) :
    ScalarType.integer.store? (.decimal d) = some (.integer n) := by
  obtain ⟨m, hm, hn⟩ := Option.bind_eq_some_iff.mp h
  obtain ⟨-, hn⟩ := Option.ite_none_right_eq_some.mp hn
  simp only [store?, hm, Option.bind_some, hn, Option.map_some]

-- A value is stored in the form in which the type represents it.
theorem store?_eq_normalize {type : ValueType} {σ τ : ScalarType}
    (htype : type.scalarType? = some τ) (hconvertible : Transform.Convertible σ τ) {v : Value}
    (hv : v.scalarType? = some σ)
    (h : type.represents (type.normalize v) = true) : τ.store? v = some (type.normalize v) := by
  rw [type.represents_of_scalarType? htype, type.normalize_of_scalarType? htype] at h
  rw [type.normalize_of_scalarType? htype]
  cases v with
  | boolean b =>
      cases hv
      cases τ <;> simp [Transform.Convertible, ScalarType.isNumeric] at hconvertible
      rfl
  | text s =>
      cases hv
      cases τ <;> simp [Transform.Convertible, ScalarType.isNumeric] at hconvertible
      rfl
  | integer n =>
      cases hv
      cases τ <;> simp [Transform.Convertible, ScalarType.isNumeric] at hconvertible <;> rfl
  | decimal d =>
      cases hv
      cases τ <;> simp [Transform.Convertible, ScalarType.isNumeric] at hconvertible
      · simp only [ScalarType.primitive, Primitive.normalize] at h ⊢
        split at h
        next n hn => exact store?_wholeNumber hn
        next => cases h.1
      · exact if_pos h.2
  | _ => cases hv

end ScalarType

namespace ValueTable

variable {t : ValueTable}

theorem Valid.column?_of_mem {c : ValueColumn} (h : t.Valid) (hc : c ∈ t.columns) :
    t.column? c.name = some c := find?_of_mem h.names hc

theorem Valid.column?_toFrame {c : ValueColumn} (h : t.Valid) (hc : c ∈ t.columns) :
    t.toFrame.column? c.name = some c.toFrameColumn := by
  rw [Frame.column?, toFrame, List.find?_map]
  exact congrArg (Option.map _) (find?_of_mem h.names hc)

end ValueTable

namespace Transform

variable {t : Transform} {bound : Bound} {type : ValueType} {σ τ : ScalarType} {rows : Nat}

-- The two tables hold the same columns.
theorem exists_tables {cs : List ValueColumn} {a b : Table} (hnames : (cs.map (·.name)).Nodup)
    (ha : Table.ofColumns .array cs = .ok a) (hb : Table.ofColumns .columnar cs = .ok b) :
    ∃ vt, a = .array vt ∧ b = .columnar vt.toFrame ∧ vt.Valid ∧ cs = vt.columns := by
  obtain ⟨hframe, htable⟩ := ValueTable.ofColumns_toFrame cs hnames
  simp only [Table.ofColumns, hframe] at ha hb
  obtain ⟨vt, ht, rfl⟩ := exists_of_map ha
  rw [ht] at hb
  cases hb
  exact ⟨vt, rfl, rfl, (htable vt ht).1, (htable vt ht).2.symm⟩

theorem execute_eq (h : t.Applies bound rows type σ τ) (table : Table) (c : Context) :
    t.execute table (bound.map (·.2.name)) c =
      match table with
      | .array table => t.runRows table (bound.map (·.2.name)) type (c.enter (.transform t))
      | .columnar frame =>
        t.runColumns frame (bound.map (·.2.name)) type (c.enter (.transform t)) := by
  obtain ⟨port, hport, rfl⟩ := Option.map_eq_some_iff.mp h.output
  exact execute_of_output (by rw [h.inputs, List.length_map, List.length_map]) hport table c

-- A row of a table of values is kept if its value is valid in the form of the output.
theorem value_of_kept {vt : ValueTable} {c : Context} {output : TransformOutput} {row : Nat}
    (hvalid : vt.Valid) (h : t.Applies bound rows type σ τ)
    (hcolumns : ∀ b ∈ bound, b.2 ∈ vt.columns)
    (hrun : (t.execute (.array vt) (bound.map (·.2.name)) c).result = .ok output)
    (hkept : output.kept[row]? = some true) :
    ∃ v, (t.value.evaluate .lazy (bound.rowScope row)).value = some v ∧
      ((c.enter (.transform t)).isValid (type.normalize v) type).result = .ok true := by
  have hinputs : inputColumns vt.column? (bound.map (·.2.name)) = pure (bound.map (·.2)) :=
    inputColumns_map fun b hb => hvalid.column?_of_mem (hcolumns b hb)
  rw [execute_eq h] at hrun
  obtain ⟨columns, results, hcolumns', rfl, hlength, hall⟩ := runRows_result hrun
  rw [hinputs] at hcolumns'
  cases hcolumns'
  simp only [TransformOutput.kept, List.getElem?_map, Option.map_eq_some_iff] at hkept
  obtain ⟨result, hresult, hsome⟩ := hkept
  have hrow : row < vt.rowCount := hlength ▸ (List.getElem?_eq_some_iff.mp hresult).1
  obtain ⟨result', hresult', hrunRow⟩ := hall row hrow
  cases hresult.symm.trans hresult'
  obtain ⟨w, rfl⟩ := Option.isSome_iff_exists.mp hsome
  rw [Bound.rowScope, ← h.inputs]
  obtain ⟨v, hv, rfl, hvalid'⟩ := runRow_some hrunRow
  exact ⟨v, hv, hvalid'⟩

-- What is carried through the expression decides which rows of a frame are kept.
theorem kept_columnar {cs : List ValueColumn} {a b : Table} (hnames : (cs.map (·.name)).Nodup)
    (ha : Table.ofColumns .array cs = .ok a) (hb : Table.ofColumns .columnar cs = .ok b)
    (hcolumns : ∀ p ∈ bound, p.2 ∈ cs) (h : t.Applies bound a.rowCount type σ τ) (c : Context) :
    (∃ v failure, ((c.enter (.transform t)).isValid v type).result = .error failure ∧
      (t.execute b (bound.map (·.2.name)) c).result = .error failure) ∨
    ∃ output, (t.execute b (bound.map (·.2.name)) c).result = .ok output ∧
      output.kept.length = a.rowCount ∧ ∀ row < a.rowCount, ∃ k, output.kept[row]? = some k ∧
        (verdict type (c.enter (.transform t))
          ((t.value.carried (bound.cells row)).content.bind τ.store?)).result = .ok k := by
  obtain ⟨vt, rfl, rfl, hvalid, rfl⟩ := exists_tables hnames ha hb
  have hin : bound.In vt.toFrame := fun p hp => hvalid.column?_toFrame (hcolumns p hp)
  rw [execute_eq h]
  have happlies : t.Applies bound vt.toFrame.rowCount type σ τ := h
  rcases runColumns_result happlies hin (c.enter (.transform t)) with
    hfailure | ⟨series, keep, hrun, hkeep⟩
  · exact .inl hfailure
  · exact .inr ⟨_, hrun, hkeep⟩

-- An operator has made something finite of an infinity or a NaN, and what it became is valid.
def Revives (t : Transform) (cells : String → Option Value) (type : ValueType) (τ : ScalarType)
    (c : Context) : Prop :=
  t.value.HasPart (Expr.Absorbs cells) ∧
    (verdict type c ((t.value.carried cells).content.bind τ.store?)).result = .ok true

-- A constant without a value, a null that lazy evaluation never sees or a zero of the other sign
-- has left nothing that is valid.
def Forgets (t : Transform) (scope : Scope) (cells : String → Option Value) (type : ValueType)
    (τ : ScalarType) (c : Context) : Prop :=
  (t.value.carried cells = .failed ∨ t.value.HasPart (Expr.SkipsNull scope cells) ∨
      t.value.HasPart (Expr.ComparesZeros cells)) ∧
    (verdict type c ((t.value.carried cells).content.bind τ.store?)).result = .ok false

theorem verdict_of_isLost {cell : Option Value} (h : isLost cell = true) (τ : ScalarType)
    (type : ValueType) (c : Context) : verdict type c (cell.bind τ.store?) = pure false := by
  cases cell with
  | none => rfl
  | some v =>
      have hv : v.isFinite = false := by simpa [isLost] using h
      rw [Option.bind_some, τ.store?_of_not_isFinite hv]
      rfl

theorem verdict_of_isValid {c : Context} {v : Value} (h : (c.isValid v type).result = .ok true) :
    (verdict type c (some v)).result = .ok true := by
  rw [verdict]
  split
  · rfl
  · exact h

-- A row in which lazy evaluation finds no value is dropped over a frame, unless it is revived.
theorem lost_row_dropped_iff {cs : List ValueColumn} {a b : Table}
    (hnames : (cs.map (·.name)).Nodup) (ha : Table.ofColumns .array cs = .ok a)
    (hb : Table.ofColumns .columnar cs = .ok b) (hcolumns : ∀ p ∈ bound, p.2 ∈ cs)
    (h : t.Applies bound a.rowCount type σ τ) (c : Context) {row : Nat} (hrow : row < a.rowCount)
    (hlost : (t.value.evaluate .lazy (bound.rowScope row)).value = none) :
    (∃ v failure, ((c.enter (.transform t)).isValid v type).result = .error failure ∧
      (t.execute b (bound.map (·.2.name)) c).result = .error failure) ∨
    ∃ output, (t.execute b (bound.map (·.2.name)) c).result = .ok output ∧
      output.kept.length = a.rowCount ∧
      (output.kept[row]? = some false ↔
        ¬ t.Revives (bound.cells row) type τ (c.enter (.transform t))) := by
  rcases kept_columnar hnames ha hb hcolumns h c with hfailure | ⟨output, hrun, hlength, hkept⟩
  · exact .inl hfailure
  refine .inr ⟨output, hrun, hlength, ?_⟩
  obtain ⟨k, hk, hverdict⟩ := hkept row hrow
  have hfollows := h.typed.follows (Bound.rowScope_holds h.fits hrow)
  rw [hk]
  cases k with
  | false =>
      refine ⟨fun _ hrevives => ?_, fun _ => rfl⟩
      cases hverdict.symm.trans hrevives.2
  | true =>
      refine ⟨fun hfalse => (by cases hfalse), fun hnot => absurd ⟨?_, hverdict⟩ hnot⟩
      refine (hfollows.lost hlost).resolve_left fun hisLost => ?_
      rw [verdict_of_isLost hisLost] at hverdict
      cases hverdict

-- The expression `1 / (1 / x)`.
def twiceInverted : Transform :=
  let one := Expr.literal (.decimal (.ofInt 1)) .unknown
  .mk "twiceInverted" [.input "x" .decimal, .output "y" .decimal] "y"
    (.binary .divide one (.binary .divide one (.var "x" .unknown) .unknown) .unknown) .unknown

def zeroAndTwo : ValueColumn := ⟨"x", .decimal, [.decimal (.zero false), .decimal (.ofInt 2)]⟩

def invertedInput : Bound := [(.input "x" .decimal, zeroAndTwo)]

theorem applies_twiceInverted :
    twiceInverted.Applies invertedInput 2 .decimal .decimal .decimal where
  inputs := rfl
  fits := by
    refine ⟨fun b hb => ?_, fun b hb => ?_⟩ <;> obtain rfl := List.mem_singleton.mp hb
    · exact ⟨.decimal, .decimal, ⟨rfl, by decide +kernel⟩, rfl, .inl rfl⟩
    · rfl
  output := rfl
  stored := rfl
  typed := by
    have hone :
        (Expr.literal (.decimal (.ofInt 1)) .unknown).Typed invertedInput.portType? .decimal :=
      .literal rfl rfl (Decimal.ofInt_isFinite 1 (by decide))
    exact .binary hone (.binary hone (.var rfl) rfl rfl) rfl rfl
  convertible := .inl rfl

-- The zero becomes an infinity and then a zero again.
theorem lost_row_dropped_iff_twiceInverted :
    twiceInverted.Revives (invertedInput.cells 0) .decimal .decimal
      (Context.bare.enter (.transform twiceInverted)) := by
  have hmarks : (twiceInverted.execute (.columnar (ValueTable.mk [zeroAndTwo] 2).toFrame)
      (invertedInput.map (·.2.name)) .bare).result.toOption.map (·.kept) =
        some [true, true] := by decide +kernel
  have harray : Table.ofColumns .array [zeroAndTwo] = .ok (.array ⟨[zeroAndTwo], 2⟩) := rfl
  have hcolumnar : Table.ofColumns .columnar [zeroAndTwo] =
    .ok (.columnar (ValueTable.mk [zeroAndTwo] 2).toFrame) := rfl
  have hrow : 0 < (Table.array ⟨[zeroAndTwo], 2⟩).rowCount := by decide
  rcases lost_row_dropped_iff (by decide) harray hcolumnar (by simp [invertedInput])
    applies_twiceInverted .bare hrow rfl with
    ⟨v, failure, -, hfailure⟩ | ⟨output, houtput, -, hiff⟩
  · rw [hfailure] at hmarks
    cases hmarks
  · rw [houtput] at hmarks
    have hkept : output.kept = [true, true] := Option.some.inj hmarks
    by_contra hrevives
    have hdropped := hiff.mpr hrevives
    rw [hkept] at hdropped
    cases hdropped

theorem lost_row_kept :
    (twiceInverted.value.evaluate .lazy (invertedInput.rowScope 0)).value = none ∧
    ((Table.ofColumns .array [zeroAndTwo]).toOption.bind fun table =>
      (twiceInverted.execute table ["x"] .bare).result.toOption.map (·.kept)) =
        some [false, true] ∧
    ((Table.ofColumns .columnar [zeroAndTwo]).toOption.bind fun table =>
      (twiceInverted.execute table ["x"] .bare).result.toOption.map (·.kept)) =
        some [true, true] := by
  refine ⟨rfl, ?_, ?_⟩ <;> decide +kernel

-- A row that is kept over a table of values is kept over a frame, unless it is forgotten.
theorem kept_row_kept_iff {cs : List ValueColumn} {a b : Table} (hnames : (cs.map (·.name)).Nodup)
    (ha : Table.ofColumns .array cs = .ok a) (hb : Table.ofColumns .columnar cs = .ok b)
    (hcolumns : ∀ p ∈ bound, p.2 ∈ cs) (h : t.Applies bound a.rowCount type σ τ) (c : Context)
    {row : Nat} (hrow : row < a.rowCount) {results : TransformOutput}
    (hresults : (t.execute a (bound.map (·.2.name)) c).result = .ok results)
    (hrowKept : results.kept[row]? = some true) :
    (∃ v failure, ((c.enter (.transform t)).isValid v type).result = .error failure ∧
      (t.execute b (bound.map (·.2.name)) c).result = .error failure) ∨
    ∃ output, (t.execute b (bound.map (·.2.name)) c).result = .ok output ∧
      output.kept.length = a.rowCount ∧
      (output.kept[row]? = some true ↔
        ¬ t.Forgets (bound.rowScope row) (bound.cells row) type τ (c.enter (.transform t))) := by
  rcases kept_columnar hnames ha hb hcolumns h c with hfailure | ⟨output, hrun, hlength, hkept⟩
  · exact .inl hfailure
  refine .inr ⟨output, hrun, hlength, ?_⟩
  obtain ⟨k, hk, hverdict⟩ := hkept row hrow
  obtain ⟨vt, rfl, rfl, hvalid, rfl⟩ := exists_tables hnames ha hb
  obtain ⟨v, hv, htest⟩ := value_of_kept hvalid h hcolumns hresults hrowKept
  have hfollows := h.typed.follows (Bound.rowScope_holds h.fits hrow)
  rw [hk]
  cases k with
  | true =>
      refine ⟨fun _ hforgets => ?_, fun _ => rfl⟩
      cases hverdict.symm.trans hforgets.2
  | false =>
      refine ⟨fun htrue => (by cases htrue), fun hnot => absurd ⟨?_, hverdict⟩ hnot⟩
      rcases hfollows.kept v hv with hfailed | ⟨-, hskips⟩ | ⟨w, hw, rfl | ⟨-, hzeros⟩⟩
      · exact .inl hfailed
      · exact .inr (.inl hskips)
      · rw [hw, Option.bind_some, ScalarType.store?_eq_normalize h.stored h.convertible
          (hfollows.content w hw) (Context.represents_of_isValid htest)] at hverdict
        cases (verdict_of_isValid htest).symm.trans hverdict
      · exact .inr (.inr hzeros)

-- The expression `b and 1 % n > 0`.
def guarded : Transform :=
  let one := Expr.literal (.integer 1) .unknown
  let zero := Expr.literal (.integer 0) .unknown
  .mk "guarded" [.input "b" .boolean, .input "n" .integer, .output "y" .boolean] "y"
    (.binary .and (.var "b" .unknown)
      (.binary .greater (.binary .modulo one (.var "n" .unknown) .unknown) zero .unknown)
      .unknown) .unknown

def falseAndZero : List ValueColumn :=
  [⟨"b", .boolean, [.boolean false]⟩, ⟨"n", .integer, [.integer 0]⟩]

def guardedInputs : Bound :=
  [(.input "b" .boolean, ⟨"b", .boolean, [.boolean false]⟩),
    (.input "n" .integer, ⟨"n", .integer, [.integer 0]⟩)]

theorem applies_guarded : guarded.Applies guardedInputs 1 .boolean .boolean .boolean where
  inputs := rfl
  fits := by
    refine ⟨fun b hb => ?_, fun b hb => ?_⟩ <;>
      simp only [guardedInputs, List.mem_cons, List.not_mem_nil, or_false] at hb
    · rcases hb with rfl | rfl
      · exact ⟨.boolean, .boolean, ⟨rfl, by decide⟩, rfl, .inl rfl⟩
      · exact ⟨.integer, .integer, ⟨rfl, by decide⟩, rfl, .inl rfl⟩
    · rcases hb with rfl | rfl <;> rfl
  output := rfl
  stored := rfl
  typed := by
    have hinteger (n : Int64) :
        (Expr.literal (.integer n) .unknown).Typed guardedInputs.portType? .integer :=
      .literal rfl rfl rfl
    have hremainder : (Expr.binary .modulo (.literal (.integer 1) .unknown) (.var "n" .unknown)
        .unknown).Typed guardedInputs.portType? .integer :=
      .binary (hinteger 1) (.var rfl) rfl rfl
    exact .binary (.var rfl) (.binary hremainder (hinteger 0) rfl rfl) rfl rfl
  convertible := .inl rfl

-- The remainder is null, and with it the conjunction.
theorem kept_row_kept_iff_guarded :
    guarded.Forgets (guardedInputs.rowScope 0) (guardedInputs.cells 0) .boolean .boolean
      (Context.bare.enter (.transform guarded)) := by
  have hmarks : (guarded.execute (.columnar (ValueTable.mk falseAndZero 1).toFrame)
      (guardedInputs.map (·.2.name)) .bare).result.toOption.map (·.kept) =
        some [false] := by decide +kernel
  have harray : Table.ofColumns .array falseAndZero = .ok (.array ⟨falseAndZero, 1⟩) := rfl
  have hcolumnar : Table.ofColumns .columnar falseAndZero =
    .ok (.columnar (ValueTable.mk falseAndZero 1).toFrame) := rfl
  have hrow : 0 < (Table.array ⟨falseAndZero, 1⟩).rowCount := by decide
  have hresults : (guarded.execute (.array ⟨falseAndZero, 1⟩) (guardedInputs.map (·.2.name))
    .bare).result = .ok (.rows [some (.boolean false)]) := rfl
  rcases kept_row_kept_iff (by decide) harray hcolumnar (by simp [guardedInputs, falseAndZero])
    applies_guarded .bare hrow hresults rfl with
    ⟨v, failure, -, hfailure⟩ | ⟨output, houtput, -, hiff⟩
  · rw [hfailure] at hmarks
    cases hmarks
  · rw [houtput] at hmarks
    have hkept : output.kept = [false] := Option.some.inj hmarks
    by_contra hforgets
    have hrow := hiff.mpr hforgets
    rw [hkept] at hrow
    cases hrow

theorem kept_row_dropped :
    ((Table.ofColumns .array falseAndZero).toOption.bind fun table =>
      (guarded.execute table ["b", "n"] .bare).result.toOption.map (·.kept)) =
        some [true] ∧
    ((Table.ofColumns .columnar falseAndZero).toOption.bind fun table =>
      (guarded.execute table ["b", "n"] .bare).result.toOption.map (·.kept)) =
        some [false] := by
  refine ⟨?_, ?_⟩ <;> decide +kernel

end Transform

end TableFlow
