import TableFlow.Proofs.Table.Backends
import TableFlow.Proofs.Table.Positions

namespace TableFlow

-- What is kept by marks, gathered position by position, by induction on the marks.
theorem Series.keep_eq_filterMap {α : Type} (marks : List Bool) (as : List α) :
    keep marks as = (marked marks).filterMap (as[·]?) := by
  induction marks generalizing as with
  | nil => cases as <;> rfl
  | cons mark marks ih =>
      rw [marked_cons, List.filterMap_append, List.filterMap_map]
      cases as with
      | nil => cases mark <;> simp [keep]
      | cons a as =>
          have hshift : (fun position => (a :: as)[position]?) ∘ Nat.succ =
              fun position => as[position]? := rfl
          rw [hshift, ← ih]
          cases mark <;> simp [keep]

-- The column with what it has in the rows, one after another.
def Column.atRows (rows : List Nat) : Column → Column
  | .array c => .array { c with values := rows.filterMap (c.values[·]?) }
  | .columnar c =>
    .columnar { c with series := { c.series with cells := rows.filterMap (c.series.cells[·]?) } }

theorem Column.keep_eq_atRows (marks : List Bool) (c : Column) :
    c.keep marks = c.atRows (Series.marked marks) := by
  cases c with
  | array c => rw [keep, atRows, Series.keep_eq_filterMap]
  | columnar c => rw [keep, atRows, Series.filter, Series.keep_eq_filterMap]

namespace Table

variable {t : Table} {rows : List Nat}

theorem columnAt?_keep (t : Table) (marks : List Bool) (position : Nat) :
    (t.keep marks).columnAt? position = (t.columnAt? position).map (Column.keep marks) := by
  cases t with
  | array t =>
      simp only [keep, columnAt?, ValueTable.keep, List.getElem?_map, Option.map_map]
      rfl
  | columnar f =>
      simp only [keep, columnAt?, Frame.keep, List.getElem?_map, Option.map_map]
      rfl

-- Rows are dropped from a table of values where it stands.
theorem execute_dropRows (h : t.Rectangular) (rows : List Nat) :
    (TableStep.dropRows rows).execute t =
      match t.dropRows rows with
      | .ok t' => (t', none)
      | .error error => (t, some error) := by
  cases t with
  | array t =>
      simp only [TableStep.execute, t.dropRowsInPlace_eq rows h, dropRows]
      cases t.dropRows rows <;> rfl
  | columnar f =>
      simp only [TableStep.execute, dropRows]
      cases f.dropRows rows <;> rfl

theorem dropRows_of_le {row : Nat} (hrow : row ∈ rows) (hle : t.rowCount ≤ row) :
    ∃ row ∈ rows, t.rowCount ≤ row ∧ t.dropRows rows = .error (.rowOutOfBounds row t.rowCount) := by
  cases t with
  | array t =>
      obtain ⟨highest, hmem, hhighest, herror⟩ := ValueTable.dropRows_of_le hrow hle
      exact ⟨highest, hmem, hhighest, by rw [dropRows, herror]; rfl⟩
  | columnar f =>
      obtain ⟨first, hmem, hfirst, herror⟩ := Frame.dropRows_of_le hrow hle
      exact ⟨first, hmem, hfirst, by rw [dropRows, herror]; rfl⟩

-- Rows are dropped exactly if all that are listed exist. Then every column holds what it has held
-- in the rows that are not listed, and otherwise nothing has changed.
theorem dropRows_remaining (h : t.Rectangular) (rows : List Nat) :
    ∃ left error?, (TableStep.dropRows rows).execute t = (left, error?) ∧
    (error? = none ↔ ∀ row ∈ rows, row < t.rowCount) ∧
    (error? = none →
      left.backend = t.backend ∧ left.Rectangular ∧
      left.rowCount = (t.remaining rows).length ∧
      ∀ position, left.columnAt? position =
        (t.columnAt? position).map (Column.atRows (t.remaining rows))) ∧
    (error? ≠ none → left = t ∧ ∃ row ∈ rows, t.rowCount ≤ row ∧
      error? = some (.rowOutOfBounds row t.rowCount)) := by
  rw [execute_dropRows h rows]
  by_cases hrows : ∀ row ∈ rows, row < t.rowCount
  · have hdrop := dropRows_eq_keep h hrows
    have hremaining : Series.marked (Series.marksWithout t.rowCount rows) = t.remaining rows :=
      Series.marked_marksWithout t.rowCount rows
    have hrectangular := h.dropRows hdrop
    rw [hdrop]
    refine ⟨_, _, rfl, ⟨fun _ => hrows, fun _ => rfl⟩, fun _ => ⟨?_, hrectangular, ?_, ?_⟩,
      fun hsome => absurd rfl hsome⟩
    · cases t <;> rfl
    · rw [rowCount_keep, ← hremaining, Series.length_marked]
    · intro position
      rw [columnAt?_keep, ← hremaining]
      exact congrArg (Option.map · _) (funext fun c => c.keep_eq_atRows _)
  · obtain ⟨row, hrow, hlt⟩ : ∃ row ∈ rows, ¬ row < t.rowCount := by simpa using hrows
    obtain ⟨other, hother, hle, herror⟩ := dropRows_of_le hrow (Nat.not_lt.mp hlt)
    rw [herror]
    refine ⟨_, _, rfl, ⟨fun hnone => (by cases hnone), fun hall => absurd hall hrows⟩,
      fun hnone => (by cases hnone), fun _ => ⟨rfl, other, hother, hle, rfl⟩⟩

-- Of three rows the first and the last are dropped, the last one being listed twice. A list that
-- goes beyond the last row changes nothing.
theorem dropRows_remaining_unordered :
    ∃ a b, ofColumns .array TableStep.exampleColumns = .ok a ∧
      ofColumns .columnar TableStep.exampleColumns = .ok b ∧
      ∀ t ∈ [a, b], t.Rectangular ∧
        (∃ left, (TableStep.dropRows [2, 0, 2]).execute t = (left, none) ∧ left.rowCount = 1 ∧
          (left.columnAt? 0).bind (·.value? 0) = some (.integer 2)) ∧
        ∃ error, (TableStep.dropRows [1, 3]).execute t = (t, some error) := by
  have hmade (b : Backend) : ∃ t, ofColumns b TableStep.exampleColumns = .ok t ∧ t.rowCount = 3 ∧
      (t.columnAt? 0).bind (fun c => (c.atRows [1]).value? 0) = some (.integer 2) := by
    cases b <;> exact ⟨_, rfl, rfl, rfl⟩
  obtain ⟨a, ha, hacount, havalue⟩ := hmade .array
  obtain ⟨b, hb, hbcount, hbvalue⟩ := hmade .columnar
  refine ⟨a, b, ha, hb, fun t ht => ?_⟩
  obtain ⟨hrectangular, hcount, hvalue⟩ : t.Rectangular ∧ t.rowCount = 3 ∧
      (t.columnAt? 0).bind (fun c => (c.atRows [1]).value? 0) = some (.integer 2) := by
    simp only [List.mem_cons, List.not_mem_nil, or_false] at ht
    rcases ht with rfl | rfl
    · exact ⟨rectangular_ofColumns ha, hacount, havalue⟩
    · exact ⟨rectangular_ofColumns hb, hbcount, hbvalue⟩
  refine ⟨hrectangular, ?_, ?_⟩
  · obtain ⟨left, error?, hdrop, hiff, hleft, -⟩ := dropRows_remaining hrectangular [2, 0, 2]
    obtain rfl := hiff.mpr (by rw [hcount]; decide)
    obtain ⟨-, -, hrows, hcolumns⟩ := hleft rfl
    have hremaining : t.remaining [2, 0, 2] = [1] := by
      rw [remaining, hcount]
      decide
    rw [hremaining] at hrows hcolumns
    refine ⟨left, hdrop, hrows, ?_⟩
    rw [hcolumns, Option.bind_map]
    exact hvalue
  · obtain ⟨left, error?, hdrop, hiff, -, hsame⟩ := dropRows_remaining hrectangular [1, 3]
    have hfails : error? ≠ none := mt hiff.mp (by rw [hcount]; decide)
    obtain ⟨rfl, row, -, -, rfl⟩ := hsame hfails
    exact ⟨_, hdrop⟩

end Table

end TableFlow
