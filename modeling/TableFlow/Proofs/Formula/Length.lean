import TableFlow.Proofs.Formula.Uniform
import TableFlow.Table.Frame

namespace TableFlow

theorem Frame.length_of_series? (f : Frame) (hf : ∀ c ∈ f.columns, c.length = f.rowCount)
    (name : String) (series : Series) (h : f.series? name = some series) :
    series.length = f.rowCount := by
  obtain ⟨c, hc, rfl⟩ := Option.map_eq_some_iff.mp h
  exact hf c (List.mem_of_find?_eq_some hc)

namespace Formula

namespace Datum

variable {α β γ : Type} {rows : Nat}

-- There is a cell for every row.
def Spans (rows : Nat) (d : Datum α) : Prop := (d.expand rows).length = rows

theorem spans_constant (cell : Option α) : Spans rows (.constant cell) := List.length_replicate

theorem Spans.map {d : Datum α} (h : d.Spans rows) (f : α → Option β) : (d.map f).Spans rows := by
  rw [Spans, expand_map, List.length_map]
  exact h

theorem Spans.zipWith {a : Datum α} {b : Datum β} (ha : a.Spans rows) (hb : b.Spans rows)
    (f : α → β → Option γ) : (zipWith f a b).Spans rows := by
  rw [Spans, expand_zipWith rows f a b ha hb, List.length_zipWith, ha, hb, Nat.min_self]

end Datum

-- That there is a cell for every row is kept, whatever else the data are related to.
theorem uniform_spans (rows : Nat) : Uniform fun _ d _ => d.Spans rows where
  map f _ _ h := Datum.Spans.map h f
  zipWith f _ _ _ _ ha hb := Datum.Spans.zipWith ha hb f

def Operand.Spans (rows : Nat) (x : Operand) : Prop := x.datum.Spans rows

theorem spans_evaluate {rows : Nat} {z : Operand} {column? : String → Option Series}
    (hcolumns : ∀ name series, column? name = some series → series.length = rows)
    (formula : Formula) (h : formula.evaluate column? = .ok z) : z.Spans rows := by
  have hrelated (name : String) : Option.Rel
      (fun s s' => (Operand.ofSeries s).Related (fun _ d _ => d.Spans rows) (Operand.ofSeries s'))
      (column? name) (column? name) := by
    cases hname : column? name with
    | none => exact .none
    | some series => exact .some ⟨hcolumns name series hname⟩
  have hagree := agree_evaluate (uniform_spans rows) Datum.spans_constant hrelated formula
  rw [h] at hagree
  cases hagree with
  | ok hz =>
      obtain ⟨hspans⟩ := hz
      exact hspans

end Formula

end TableFlow
