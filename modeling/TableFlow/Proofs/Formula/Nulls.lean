import TableFlow.Proofs.Formula.Cells
import TableFlow.Proofs.Formula.Constants

namespace TableFlow

namespace Formula

namespace Datum

variable {α : Type}

theorem map_some (d : Datum α) : d.map some = d := by
  cases d <;> simp [map]

end Datum

open Operand

variable {x y z : Operand} {m n : Numbers}

theorem numbers?_of_numbers {operator : String} (h : numbers operator x = .ok n) :
    x.numbers? = some n := by
  rw [numbers] at h
  split at h
  next numbers hnumbers => rw [hnumbers, Except.ok.inj h]
  next => cases h

theorem exists_map_toDecimals (h : x.numbers? = some n) : ∃ f, n.toDecimals = x.datum.map f := by
  obtain ⟨type, datum⟩ := x
  cases type <;> cases h
  · exact ⟨_, rfl⟩
  · exact ⟨some, (Datum.map_some datum).symm⟩

theorem exists_map_rounded (round : Decimal → Option Int) (h : x.numbers? = some n) :
    ∃ f, (rounded round n).datum = x.datum.map f := by
  obtain ⟨type, datum⟩ := x
  cases type <;> cases h
  · exact ⟨some, (Datum.map_some datum).symm⟩
  · exact ⟨_, rfl⟩

theorem exists_map_negated (h : x.numbers? = some n) : ∃ f, (negated n).datum = x.datum.map f := by
  obtain ⟨type, datum⟩ := x
  cases type <;> cases h <;> exact ⟨_, rfl⟩

theorem exists_map_of_evaluateUnary {op : UnaryOp} (h : evaluateUnary op x = .ok z) :
    ∃ f, z.datum = x.datum.map f := by
  have hround {round : Decimal → Option Int}
      (h : (do return rounded round (← numbers op.symbol x)) = Except.ok z) :
      ∃ f, z.datum = x.datum.map f := by
    obtain ⟨n, hn, hz⟩ := exists_of_bind h
    cases hz
    exact exists_map_rounded round (numbers?_of_numbers hn)
  have htext {f : String → String}
      (h : (do return ⟨.utf8, (← texts op.symbol x).map fun s => some (f s)⟩) = Except.ok z) :
      ∃ f, z.datum = x.datum.map f := by
    obtain ⟨d, hd, hz⟩ := exists_of_bind h
    cases hz
    obtain ⟨type, datum⟩ := x
    cases type <;> cases hd
    exact ⟨_, rfl⟩
  cases op with
  | not =>
      obtain ⟨d, hd, hz⟩ := exists_of_bind h
      cases hz
      obtain ⟨type, datum⟩ := x
      cases type <;> cases hd
      exact ⟨_, rfl⟩
  | negate =>
      obtain ⟨n, hn, hz⟩ := exists_of_bind h
      cases hz
      exact exists_map_negated (numbers?_of_numbers hn)
  | sqrt =>
      obtain ⟨n, hn, hz⟩ := exists_of_bind h
      cases hz
      obtain ⟨f, hf⟩ := exists_map_toDecimals (numbers?_of_numbers hn)
      exact ⟨_, (congrArg _ hf).trans (Datum.map_map f _ x.datum)⟩
  | floor | ceil | round => exact hround h
  | lowercase | uppercase => exact htext h

theorem exists_zipWith_onDecimals (g : Decimal → Decimal → Decimal) (hm : x.numbers? = some m)
    (hn : y.numbers? = some n) :
    ∃ f, (onDecimals g m n).datum = Datum.zipWith f x.datum y.datum := by
  obtain ⟨f, hf⟩ := exists_map_toDecimals hm
  obtain ⟨f', hf'⟩ := exists_map_toDecimals hn
  simp only [onDecimals, hf, hf', Datum.zipWith_map_left, Datum.zipWith_map_right]
  exact ⟨_, rfl⟩

theorem exists_zipWith_onNumbers (f : Int64 → Int64 → Option Int64)
    (g : Decimal → Decimal → Decimal) (hm : x.numbers? = some m) (hn : y.numbers? = some n) :
    ∃ f', (onNumbers f g m n).datum = Datum.zipWith f' x.datum y.datum := by
  have hdecimals := exists_zipWith_onDecimals g hm hn
  cases m with
  | integers a =>
      cases n with
      | integers b =>
          obtain ⟨s, a⟩ := x
          obtain ⟨t, b⟩ := y
          cases s <;> cases hm
          cases t <;> cases hn
          exact ⟨_, rfl⟩
      | decimals b => exact hdecimals
  | decimals a => exact hdecimals

theorem exists_zipWith_compareAlike {test : Ordering → Bool} (h : compareAlike test x y = .ok z) :
    ∃ f, z.datum = Datum.zipWith f x.datum y.datum := by
  unfold compareAlike at h
  split at h
  next compare hcompare =>
    split at h
    next htype =>
      cases h
      obtain ⟨s, d⟩ := x
      obtain ⟨t, e⟩ := y
      obtain rfl : t = s := htype
      exact ⟨_, rfl⟩
    next => cases h
  next => cases h

-- Numbers are compared as integers or as decimals, other cells in the order of their type.
theorem exists_zipWith_compareOperands {test : Ordering → Bool}
    (h : compareOperands test x y = .ok z) :
    ∃ f, z.datum = Datum.zipWith f x.datum y.datum := by
  unfold compareOperands at h
  split at h
  next a b hm hn =>
    cases h
    obtain ⟨s, d⟩ := x
    obtain ⟨t, e⟩ := y
    cases s <;> cases hm
    cases t <;> cases hn
    exact ⟨_, rfl⟩
  next m n _ hm hn =>
    cases h
    obtain ⟨f, hf⟩ := exists_map_toDecimals hm
    obtain ⟨f', hf'⟩ := exists_map_toDecimals hn
    simp only [hf, hf', Datum.zipWith_map_left, Datum.zipWith_map_right]
    exact ⟨_, rfl⟩
  next => exact exists_zipWith_compareAlike h

theorem exists_zipWith_of_evaluateBinary {op : BinaryOp} (h : evaluateBinary op x y = .ok z) :
    ∃ f, z.datum = Datum.zipWith f x.datum y.datum := by
  have hboth {f : Numbers → Numbers → Operand}
      (hf : ∀ {m n}, x.numbers? = some m → y.numbers? = some n →
        ∃ g, (f m n).datum = Datum.zipWith g x.datum y.datum)
      (h : (do return f (← numbers op.symbol x) (← numbers op.symbol y)) = Except.ok z) :
      ∃ g, z.datum = Datum.zipWith g x.datum y.datum := by
    obtain ⟨m, hm, h⟩ := exists_of_bind h
    obtain ⟨n, hn, h⟩ := exists_of_bind h
    cases h
    exact hf (numbers?_of_numbers hm) (numbers?_of_numbers hn)
  have htruths {f : Bool → Bool → Bool}
      (h : (do return onTruths f (← truths op.symbol x) (← truths op.symbol y)) = Except.ok z) :
      ∃ g, z.datum = Datum.zipWith g x.datum y.datum := by
    obtain ⟨a, ha, h⟩ := exists_of_bind h
    obtain ⟨b, hb, h⟩ := exists_of_bind h
    cases h
    obtain ⟨s, d⟩ := x
    obtain ⟨t, e⟩ := y
    cases s <;> cases ha
    cases t <;> cases hb
    exact ⟨_, rfl⟩
  cases op with
  | add | subtract | multiply | modulo => exact hboth (exists_zipWith_onNumbers _ _) h
  | divide | pow | root => exact hboth (exists_zipWith_onDecimals _) h
  | equal | notEqual | less | lessEqual | greater | greaterEqual =>
      exact exists_zipWith_compareOperands h
  | and | or | xor => exact htruths h

theorem exists_map_of_cast {target : DataType} (h : x.cast target = .ok z) :
    ∃ f, z.datum = x.datum.map f := by
  rw [Operand.cast] at h
  split at h
  next convert _ =>
    cases h
    exact ⟨convert, rfl⟩
  next => cases h

-- The operand has no cell in a row.
def Operand.IsNull (row : Nat) (x : Operand) : Prop := x.datum.cell? row = none

variable {row : Nat}

theorem Operand.IsNull.of_map (hx : x.IsNull row) (h : ∃ f, z.datum = x.datum.map f) :
    z.IsNull row := by
  obtain ⟨f, hf⟩ := h
  rw [IsNull, hf, Datum.cell?_map, hx, Option.bind_none]

theorem Operand.IsNull.of_zipWith (hnull : x.IsNull row ∨ y.IsNull row)
    (h : ∃ f, z.datum = Datum.zipWith f x.datum y.datum) : z.IsNull row := by
  obtain ⟨f, hf⟩ := h
  rw [IsNull, hf, Datum.cell?_zipWith]
  rcases hnull with hx | hy
  · rw [hx]
    rfl
  · rw [hy, Datum.lift_none_right]

-- By induction on the formula. Every column that is mentioned exists, since all operands are
-- evaluated, and a null of it is handed on by every operator above.
theorem isNull_evaluate {column? : String → Option Series} (formula : Formula)
    (h : formula.evaluate column? = .ok z) {name : String} (hname : name ∈ formula.columnNames) :
    ∃ series, column? name = some series ∧
      ∀ row, series.cells[row]? = some none → z.IsNull row := by
  induction formula generalizing z with
  | column other =>
      obtain rfl := List.mem_singleton.mp hname
      rw [evaluate] at h
      split at h
      next series hseries =>
        cases h
        exact ⟨series, hseries, fun row hnull => congrArg Option.join hnull⟩
      next => cases h
  | literal value => cases hname
  | unary op operand ih =>
      obtain ⟨x, hx, h⟩ := exists_of_bind h
      obtain ⟨series, hseries, hnull⟩ := ih hx hname
      exact ⟨series, hseries, fun row hrow =>
        (hnull row hrow).of_map (exists_map_of_evaluateUnary h)⟩
  | binary op left right ihl ihr =>
      obtain ⟨x, hx, h⟩ := exists_of_bind h
      obtain ⟨y, hy, h⟩ := exists_of_bind h
      have hresult := exists_zipWith_of_evaluateBinary h
      rcases List.mem_append.mp hname with hleft | hright
      · obtain ⟨series, hseries, hnull⟩ := ihl hx hleft
        exact ⟨series, hseries, fun row hrow => .of_zipWith (.inl (hnull row hrow)) hresult⟩
      · obtain ⟨series, hseries, hnull⟩ := ihr hy hright
        exact ⟨series, hseries, fun row hrow => .of_zipWith (.inr (hnull row hrow)) hresult⟩
  | cast operand type ih =>
      obtain ⟨x, hx, h⟩ := exists_of_bind h
      obtain ⟨series, hseries, hnull⟩ := ih hx hname
      exact ⟨series, hseries, fun row hrow => (hnull row hrow).of_map (exists_map_of_cast h)⟩

-- A row without a cell is a null of the series, if there is such a row at all.
theorem Operand.IsNull.getElem?_toSeries {rows : Nat} (hspans : x.Spans rows) (hnull : x.IsNull row)
    (hrow : row < rows) : (x.toSeries rows).cells[row]? = some none := by
  obtain ⟨type, datum⟩ := x
  cases datum with
  | constant cell =>
      obtain rfl : cell = none := hnull
      exact List.getElem?_replicate_of_lt hrow
  | column cells =>
      have hlength : cells.length = rows := hspans
      have hcell : cells[row]?.join = none := hnull
      obtain ⟨cell, hcells⟩ : ∃ cell, cells[row]? = some cell :=
        ⟨_, List.getElem?_eq_getElem (hlength ▸ hrow)⟩
      rw [hcells] at hcell
      exact hcells.trans (congrArg some hcell)

end Formula

namespace Frame

-- Every column that a formula mentions exists, and its nulls are nulls of the result.
theorem evaluateSeries_null {f : Frame} (hf : ∀ c ∈ f.columns, c.length = f.rowCount)
    {formula : Formula} {result : Series} (h : f.evaluateSeries formula = .ok result) {name : String}
    (hname : name ∈ formula.columnNames) :
    ∃ series, f.series? name = some series ∧
      ∀ row : Nat, series.cells[row]? = some none → result.cells[row]? = some none := by
  obtain ⟨x, hx, hresult⟩ := exists_of_bind h
  cases hresult
  have hspans := Formula.spans_evaluate (f.length_of_series? hf) formula hx
  obtain ⟨series, hseries, hnull⟩ := Formula.isNull_evaluate formula hx hname
  refine ⟨series, hseries, fun row hrow => ?_⟩
  have hlength : series.length = f.rowCount := f.length_of_series? hf name series hseries
  have hlt : row < f.rowCount := hlength ▸ (List.getElem?_eq_some_iff.mp hrow).1
  exact (hnull row hrow).getElem?_toSeries hspans hlt

-- Orders of which one has no count and one no price.
def orders : Frame :=
  ⟨[⟨"count", ⟨.int64, [some 3, none, some 5]⟩⟩,
    ⟨"price", ⟨.float64, [some .half, some .half, none]⟩⟩], 3⟩

-- Whether the count is not below the price, rounded.
def undercut : Formula :=
  .unary .not (.binary .less (.column "count") (.unary .round (.column "price")))

theorem evaluateSeries_null_orders :
    orders.evaluateSeries undercut = .ok ⟨.boolean, [some true, none, none]⟩ ∧
    ∀ name ∈ ["count", "price"], ∃ series, orders.series? name = some series ∧
      ∀ row : Nat, series.cells[row]? = some none →
        [some true, none, none][row]? = some none := by
  have h : orders.evaluateSeries undercut = .ok ⟨.boolean, [some true, none, none]⟩ := by rfl
  exact ⟨h, fun name hname => evaluateSeries_null (by decide) h hname⟩

end Frame

end TableFlow
