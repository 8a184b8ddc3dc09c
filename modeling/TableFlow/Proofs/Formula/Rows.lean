import TableFlow.Proofs.Formula.Uniform
import TableFlow.Proofs.Table.Positions

namespace TableFlow

namespace Series

variable {α β γ : Type}

-- What is kept of two lists side by side is what is kept of each, whatever their lengths are.
theorem keep_zipWith (f : α → β → γ) (marks : List Bool) (as : List α) (bs : List β) :
    keep marks (List.zipWith f as bs) = List.zipWith f (keep marks as) (keep marks bs) := by
  have hnil (marks : List Bool) (α : Type) : keep marks ([] : List α) = [] := by
    rcases marks with _ | ⟨_ | _, marks⟩ <;> rfl
  induction marks generalizing as bs with
  | nil => cases as <;> cases bs <;> rfl
  | cons mark marks ih =>
      cases as with
      | nil => simp [hnil]
      | cons a as =>
          cases bs with
          | nil => simp [hnil]
          | cons b bs => cases mark <;> simp [keep, ih]

theorem keep_replicate (marks : List Bool) (a : α) :
    keep marks (List.replicate marks.length a) = List.replicate (marks.count true) a := by
  induction marks with
  | nil => rfl
  | cons mark marks ih => cases mark <;> simp [keep, List.replicate_succ, ih]

end Series

namespace Formula

namespace Datum

variable {α β γ : Type}

-- A cell that stands for all rows stands for those that are kept.
def keep (marks : List Bool) : Datum α → Datum α
  | .constant cell => .constant cell
  | .column cells => .column (Series.keep marks cells)

variable (marks : List Bool)

@[simp]
theorem keep_map (f : α → Option β) (d : Datum α) :
    (d.map f).keep marks = (d.keep marks).map f := by
  cases d with
  | constant cell => rfl
  | column cells => simp [map, keep, Series.keep_map]

@[simp]
theorem keep_zipWith (f : α → β → Option γ) (a : Datum α) (b : Datum β) :
    (zipWith f a b).keep marks = zipWith f (a.keep marks) (b.keep marks) := by
  cases a <;> cases b <;> simp [zipWith, keep, Series.keep_map, Series.keep_zipWith]

theorem expand_keep (d : Datum α) :
    (d.keep marks).expand (marks.count true) = Series.keep marks (d.expand marks.length) := by
  cases d with
  | constant cell => exact (Series.keep_replicate marks cell).symm
  | column cells => rfl

end Datum

-- What is kept of operands is kept of what operators make of them.
theorem uniform_keep (marks : List Bool) : Uniform fun _ d d' => d' = d.keep marks where
  map f d d' h := by rw [h, Datum.keep_map]
  zipWith f a a' b b' ha hb := by rw [ha, hb, Datum.keep_zipWith]

def Operand.keep (marks : List Bool) (x : Operand) : Operand := ⟨x.type, x.datum.keep marks⟩

theorem Operand.toSeries_keep (marks : List Bool) (x : Operand) :
    (x.keep marks).toSeries (marks.count true) = (x.toSeries marks.length).filter marks :=
  congrArg (Series.mk x.type) (Datum.expand_keep marks x.datum)

theorem evaluate_keep (marks : List Bool) {column? column'? : String → Option Series}
    (hcolumns : ∀ name, column'? name = (column? name).map (·.filter marks)) (formula : Formula) :
    formula.evaluate column'? = Operand.keep marks <$> formula.evaluate column? := by
  refine (agree_evaluate (uniform_keep marks) (fun _ => rfl) (fun name => ?_) formula).eq_map ?_
  · rw [hcolumns]
    cases column? name with
    | none => exact .none
    | some series => exact .some ⟨rfl⟩
  · rintro x x' ⟨rfl⟩
    rfl

end Formula

namespace Frame

variable (f : Frame) (marks : List Bool)

theorem column?_keep (name : String) :
    (f.keep marks).column? name =
      (f.column? name).map fun c => { c with series := c.series.filter marks } := by
  rw [column?, column?, keep, List.find?_map]
  rfl

theorem series?_keep (name : String) :
    (f.keep marks).series? name = (f.series? name).map (·.filter marks) := by
  rw [series?, series?, column?_keep, Option.map_map, Option.map_map]
  rfl

theorem evaluateSeries_keep (hmarks : marks.length = f.rowCount) (formula : Formula) :
    (f.keep marks).evaluateSeries formula = (·.filter marks) <$> f.evaluateSeries formula := by
  have hformula : (f.keep marks).evaluate formula =
      Formula.Operand.keep marks <$> f.evaluate formula :=
    Formula.evaluate_keep marks (f.series?_keep marks) formula
  rw [evaluateSeries, evaluateSeries, hformula, bind_map_left, map_bind]
  refine bind_congr fun x => ?_
  have hseries := Formula.Operand.toSeries_keep marks x
  rw [hmarks] at hseries
  exact congrArg Except.ok hseries

end Frame

end TableFlow
