import TableFlow.Proofs.Formula.Length
import TableFlow.Proofs.Table.Simulation

namespace TableFlow

-- A column with one value in every row.
def FrameColumn.filled (rows : Nat) (name : String) (value : Value) : FrameColumn :=
  .ofValues name ((value.scalarType?.map ScalarType.valueType).getD .text)
    (List.replicate rows (some value))

theorem FrameColumn.length_filled (rows : Nat) (name : String) (value : Value) :
    (filled rows name value).length = rows := by
  rw [filled, length, ofValues, Series.length_ofValues, List.length_replicate]

namespace Formula

-- The literals, from left to right.
def literals : Formula → List Value
  | .column _ => []
  | .literal value => [value]
  | .unary _ operand => operand.literals
  | .binary _ left right => left.literals ++ right.literals
  | .cast operand _ => operand.literals

-- The names of the columns that are referred to.
def columnNames : Formula → List String
  | .column name => [name]
  | .literal _ => []
  | .unary _ operand => operand.columnNames
  | .binary _ left right => left.columnNames ++ right.columnNames
  | .cast operand _ => operand.columnNames

-- The formula with references to columns in the places of its literals, from left to right.
def withColumns : Formula → List String → Formula
  | .column name, _ => .column name
  | .literal value, names => names.head?.elim (.literal value) .column
  | .unary op operand, names => .unary op (operand.withColumns names)
  | .binary op left right, names =>
    .binary op (left.withColumns (names.take left.literals.length))
      (right.withColumns (names.drop left.literals.length))
  | .cast operand type, names => .cast (operand.withColumns names) type

namespace Datum

variable {α : Type} {rows : Nat} {d d' : Datum α}

-- One cell for every row, and the same ones.
structure SameCells (rows : Nat) (d d' : Datum α) : Prop where
  left : d.Spans rows
  right : d'.Spans rows
  expand : d'.expand rows = d.expand rows

theorem SameCells.refl (h : d.Spans rows) : d.SameCells rows d := ⟨h, h, rfl⟩

theorem sameCells_replicate (cell : Option α) :
    (constant cell).SameCells rows (column (List.replicate rows cell)) :=
  ⟨spans_constant cell, List.length_replicate, rfl⟩

end Datum

theorem uniform_sameCells (rows : Nat) : Uniform fun _ d d' => d.SameCells rows d' where
  map f d d' h := ⟨h.left.map f, h.right.map f, by
    rw [Datum.expand_map, Datum.expand_map, h.expand]⟩
  zipWith f a a' b b' ha hb := ⟨ha.left.zipWith hb.left f, ha.right.zipWith hb.right f, by
    rw [Datum.expand_zipWith rows f a' b' ha.right hb.right,
      Datum.expand_zipWith rows f a b ha.left hb.left, ha.expand, hb.expand]⟩

open Operand

variable {rows : Nat}

theorem related_replicate {type : DataType} (cell : Option type.Cell) {series : Series}
    (h : series = ⟨type, List.replicate rows cell⟩) :
    Related (fun _ d d' => d.SameCells rows d') ⟨type, .constant cell⟩ (ofSeries series) := by
  rw [h]
  exact ⟨Datum.sameCells_replicate cell⟩

-- The column of a literal holds the cell of the literal in every row.
theorem agree_ofLiteral {value : Value} (hvalue : value.scalarType?.isSome) (name : String) :
    Agree (Related fun _ d d' => d.SameCells rows d') (ofLiteral value)
      (.ok (ofSeries (FrameColumn.filled rows name value).series)) := by
  cases value with
  | boolean _ | integer _ | decimal _ | text _ =>
      exact .ok (related_replicate _ (congrArg (Series.mk _) List.map_replicate))
  | _ => cases hvalue

-- By induction on the formula, which takes the names of the columns apart with its literals.
theorem agree_withColumns {column? column'? : String → Option Series}
    (hlength : ∀ name series, column? name = some series → series.length = rows)
    (formula : Formula) (names : List String)
    (hkept : ∀ name ∈ formula.columnNames, column'? name = column? name)
    (hliterals : ∀ value ∈ formula.literals, value.scalarType?.isSome)
    (hfilled : List.Forall₂
      (fun name value => column'? name = some (FrameColumn.filled rows name value).series)
      names formula.literals) :
    Agree (Related fun _ d d' => d.SameCells rows d') (formula.evaluate column?)
      ((formula.withColumns names).evaluate column'?) := by
  have hR := uniform_sameCells rows
  induction formula generalizing names with
  | column name =>
      rw [withColumns, evaluate, evaluate, hkept name (List.mem_singleton_self name)]
      cases hname : column? name with
      | none => exact .error _
      | some series => exact .ok ⟨.refl (hlength name series hname)⟩
  | literal value =>
      obtain ⟨name, _, hname, -, rfl⟩ := List.forall₂_cons_right_iff.mp hfilled
      have hvalue : Agree (Related fun _ d d' => d.SameCells rows d') (ofLiteral value)
          (.ok (ofSeries (FrameColumn.filled rows name value).series)) :=
        agree_ofLiteral (hliterals value (List.mem_singleton_self value)) name
      rw [withColumns, evaluate, List.head?_cons, Option.elim_some, evaluate, hname]
      exact hvalue
  | unary op operand ih =>
      exact (ih names hkept hliterals hfilled).bind fun _ _ hx => agree_evaluateUnary hR op hx
  | binary op left right ihl ihr =>
      simp only [columnNames, literals, List.forall_mem_append] at hkept hliterals
      have hleft := ihl (names.take left.literals.length) hkept.1 hliterals.1
        (List.forall₂_take_append names _ _ hfilled)
      have hright := ihr (names.drop left.literals.length) hkept.2 hliterals.2
        (List.forall₂_drop_append names _ _ hfilled)
      exact hleft.bind fun _ _ hx => hright.bind fun _ _ hy => agree_evaluateBinary hR op hx hy
  | cast operand type ih =>
      exact (ih names hkept hliterals hfilled).bind fun _ _ hx => hx.cast hR type

end Formula

namespace Frame

variable {f : Frame}

-- Columns whose names are new come last.
theorem foldlM_addColumn_of_fresh {cs : List FrameColumn}
    (hf : ∀ c ∈ f.columns, c.length = f.rowCount) (hcs : ∀ c ∈ cs, c.length = f.rowCount)
    (hnames : (cs.map (·.name)).Nodup)
    (hfresh : ∀ c ∈ cs, c.name ∉ f.columns.map (·.name)) :
    cs.foldlM addColumn f = .ok ⟨f.columns ++ cs, f.rowCount⟩ := by
  induction cs generalizing f with
  | nil =>
      rw [List.append_nil]
      rfl
  | cons c cs ih =>
      rw [List.forall_mem_cons] at hcs hfresh
      obtain ⟨hc, hnames⟩ := List.nodup_cons.mp hnames
      have hadd : f.addColumn c = .ok ⟨f.columns ++ [c], f.rowCount⟩ := by
        rw [addColumn_of_length hf hcs.1, place_of_fresh hfresh.1]
      rw [List.foldlM_cons, hadd]
      have hrest := ih (f := ⟨f.columns ++ [c], f.rowCount⟩) ?_ hcs.2 hnames ?_
      · rw [List.append_assoc, List.singleton_append] at hrest
        exact hrest
      · exact List.forall_mem_append.mpr ⟨hf, List.forall_mem_singleton.mpr hcs.1⟩
      · intro d hd
        rw [List.map_append, List.mem_append, not_or]
        refine ⟨hfresh.2 d hd, fun hname => hc ?_⟩
        rw [List.map_singleton, List.mem_singleton] at hname
        exact List.mem_map.mpr ⟨d, hd, hname⟩

-- A new column is found by its name, and other columns are found as before.
theorem series?_append_of_mem {cs : List FrameColumn} {c : FrameColumn}
    (hnames : (cs.map (·.name)).Nodup) (hfresh : ∀ c ∈ cs, c.name ∉ f.columns.map (·.name))
    (hc : c ∈ cs) : series? ⟨f.columns ++ cs, f.rowCount⟩ c.name = some c.series := by
  have hnone : f.columns.find? (·.name == c.name) = none := by
    refine List.find?_eq_none.mpr fun d hd hname => hfresh c hc ?_
    exact List.mem_map.mpr ⟨d, hd, beq_iff_eq.mp hname⟩
  rw [series?, column?, List.find?_append, hnone, Option.none_or,
    find?_of_mem hnames hc, Option.map_some]

theorem series?_append_of_not_mem {cs : List FrameColumn} {name : String}
    (hname : name ∉ cs.map (·.name)) :
    series? ⟨f.columns ++ cs, f.rowCount⟩ name = f.series? name := by
  have hnone : cs.find? (·.name == name) = none := by
    refine List.find?_eq_none.mpr fun d hd h => hname ?_
    exact List.mem_map.mpr ⟨d, hd, beq_iff_eq.mp h⟩
  rw [series?, column?, List.find?_append, hnone, Option.or_none, series?, column?]

theorem evaluateSeries_withColumns (hf : ∀ c ∈ f.columns, c.length = f.rowCount)
    (formula : Formula) (hliterals : ∀ value ∈ formula.literals, value.scalarType?.isSome)
    (names : List String) (hlength : names.length = formula.literals.length)
    (hnames : names.Nodup)
    (hfresh : ∀ name ∈ names, name ∉ f.columns.map (·.name) ∧ name ∉ formula.columnNames) :
    ∃ f', (List.zipWith (FrameColumn.filled f.rowCount) names formula.literals).foldlM addColumn f =
        .ok f' ∧
      f'.evaluateSeries (formula.withColumns names) = f.evaluateSeries formula := by
  have hcolumns : List.zipWith (FrameColumn.filled f.rowCount) names formula.literals =
      (names.zip formula.literals).map fun p => FrameColumn.filled f.rowCount p.1 p.2 :=
    List.map_uncurry_zip_eq_zipWith.symm
  generalize List.zipWith (FrameColumn.filled f.rowCount) names formula.literals = cs at hcolumns ⊢
  have hcs : cs.map (·.name) = names := by
    rw [hcolumns, List.map_map]
    exact List.map_fst_zip (Nat.le_of_eq hlength)
  have hfreshColumns : ∀ c ∈ cs, c.name ∉ f.columns.map (·.name) := fun c hc =>
    (hfresh c.name (hcs ▸ List.mem_map_of_mem hc)).1
  have hrows : ∀ c ∈ cs, c.length = f.rowCount := by
    intro c hc
    rw [hcolumns] at hc
    obtain ⟨p, -, rfl⟩ := List.mem_map.mp hc
    exact FrameColumn.length_filled f.rowCount p.1 p.2
  refine ⟨_, foldlM_addColumn_of_fresh hf hrows (hcs ▸ hnames) hfreshColumns, ?_⟩
  have hfilled : List.Forall₂ (fun name value => series? ⟨f.columns ++ cs, f.rowCount⟩ name =
      some (FrameColumn.filled f.rowCount name value).series) names formula.literals := by
    refine List.forall₂_iff_zip.mpr ⟨hlength, fun {name value} hmem => ?_⟩
    refine series?_append_of_mem (c := FrameColumn.filled f.rowCount name value) (hcs ▸ hnames)
      hfreshColumns ?_
    rw [hcolumns]
    exact List.mem_map.mpr ⟨(name, value), hmem, rfl⟩
  have hkept : ∀ name ∈ formula.columnNames,
      series? ⟨f.columns ++ cs, f.rowCount⟩ name = f.series? name := fun name hname =>
    series?_append_of_not_mem fun hmem => (hfresh name (hcs ▸ hmem)).2 hname
  have hagree := Formula.agree_withColumns (f.length_of_series? hf) formula names hkept hliterals
    hfilled
  refine (hagree.bind_eq ?_).symm
  rintro x x' ⟨h⟩
  exact congrArg (fun cells => Except.ok (Series.mk _ cells)) h.expand.symm

-- Two rows of counts, the second of which is unknown.
def counts : Frame := ⟨[⟨"n", ⟨.int64, [some 1, none]⟩⟩], 2⟩

-- Two literals that are added to one another, and one that the sum is compared with.
def fewCounts : Formula :=
  .binary .less (.binary .add (.column "n") (.binary .add (.literal (.integer 1))
    (.literal (.integer 2)))) (.literal (.integer 5))

theorem evaluateSeries_withColumns_counts :
    ∃ f', (List.zipWith (FrameColumn.filled counts.rowCount) ["one", "two", "limit"]
        fewCounts.literals).foldlM addColumn counts = .ok f' ∧
      f'.evaluateSeries (.binary .less (.binary .add (.column "n") (.binary .add (.column "one")
        (.column "two"))) (.column "limit")) = .ok ⟨.boolean, [some true, none]⟩ := by
  obtain ⟨f', hadd, hseries⟩ := evaluateSeries_withColumns (f := counts) (by decide) fewCounts
    (by decide) ["one", "two", "limit"] (by decide) (by decide) (by decide)
  exact ⟨f', hadd, hseries.trans rfl⟩

end Frame

end TableFlow
