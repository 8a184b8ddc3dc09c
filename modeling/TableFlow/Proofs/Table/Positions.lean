import TableFlow.Proofs.Except
import TableFlow.Proofs.Table.Simulation

namespace TableFlow

namespace Series

variable {α : Type}

-- The positions of the marks that are set, in ascending order.
def marked (marks : List Bool) : List Nat :=
  (List.range marks.length).filter fun position => marks[position]? = some true

theorem marked_cons (mark : Bool) (marks : List Bool) :
    marked (mark :: marks) = (if mark then [0] else []) ++ (marked marks).map Nat.succ := by
  rw [marked, List.length_cons, List.range_succ_eq_map, List.filter_cons, List.filter_map]
  cases mark <;> rfl

-- What is kept stands at the positions that are marked, by induction on the marks.
theorem getElem?_keep (marks : List Bool) (as : List α) (index : Nat) :
    (keep marks as)[index]? = (marked marks)[index]?.bind (as[·]?) := by
  induction marks generalizing as index with
  | nil => cases as <;> rfl
  | cons mark marks ih =>
      cases as with
      | nil =>
          have hnone : (keep (mark :: marks) ([] : List α))[index]? = none := by cases mark <;> rfl
          rw [hnone]
          cases (marked (mark :: marks))[index]? <;> rfl
      | cons a as =>
          have hshift (index : Nat) : ((marked marks).map Nat.succ)[index]?.bind ((a :: as)[·]?) =
              (marked marks)[index]?.bind (as[·]?) := by
            rw [List.getElem?_map]
            cases (marked marks)[index]? <;> rfl
          rw [marked_cons]
          cases mark with
          | false => exact (ih as index).trans (hshift index).symm
          | true =>
              cases index with
              | zero => rfl
              | succ index => exact (ih as index).trans (hshift index).symm

theorem value?_filter (s : Series) (marks : List Bool) (index : Nat) :
    (s.filter marks).value? index = (marked marks)[index]?.bind s.value? := by
  rw [value?, filter, getElem?_keep]
  cases (marked marks)[index]? <;> rfl

theorem length_marked (marks : List Bool) : (marked marks).length = marks.count true := by
  induction marks with
  | nil => rfl
  | cons mark marks ih =>
      rw [marked_cons, List.length_append, List.length_map, ih, List.count_cons]
      cases mark <;> simp [Nat.add_comm]

theorem marked_eq_keep (marks : List Bool) :
    marked marks = keep marks (List.range marks.length) := by
  refine List.ext_getElem? fun index => ?_
  rw [getElem?_keep]
  cases h : (marked marks)[index]? with
  | none => rfl
  | some position =>
      have hmem := List.mem_filter.mp (List.mem_of_getElem? h)
      exact (List.getElem?_range (List.mem_range.mp hmem.1)).symm

-- The positions that are not listed are marked.
theorem marked_marksWithout (count : Nat) (positions : List Nat) :
    marked (marksWithout count positions) = (List.range count).filter (· ∉ positions) := by
  have hlength : (marksWithout count positions).length = count := by
    rw [marksWithout, List.length_map, List.length_range]
  rw [marked, hlength]
  refine List.filter_congr fun position hposition => ?_
  rw [marksWithout, List.getElem?_map, List.getElem?_range (List.mem_range.mp hposition)]
  simp

end Series

-- A column is placed where the first of its name stands, or behind all others.
theorem getElem?_place {α : Type} {name : α → String} (a : α) (as : List α) (index : Nat) :
    (place name a as)[index]? =
      if index = (as.map name).idxOf (name a) then some a else as[index]? := by
  induction as generalizing index with
  | nil => cases index <;> rfl
  | cons b as ih =>
      rw [place, List.map_cons, List.idxOf_cons]
      by_cases hb : name b = name a
      · rw [if_pos hb, hb]
        cases index <;> simp
      · have hbeq : (name b == name a) = false := beq_false_of_ne hb
        rw [if_neg hb, hbeq, cond_false]
        cases index with
        | zero => simp
        | succ index => simp [ih]

-- What a column has in a row.
def Column.value? : Column → Nat → Option Value
  | .array c, row => c.value? row
  | .columnar c, row => c.series.value? row

namespace Table

def columnAt? (t : Table) (position : Nat) : Option Column :=
  match t with
  | .array t => t.columns[position]?.map .array
  | .columnar f => f.columns[position]?.map .columnar

theorem cell?_eq (t : Table) (row position : Nat) :
    t.cell? row position = (t.columnAt? position).bind (·.value? row) := by
  cases t with
  | array t =>
      rw [cell?, ValueTable.cell?, columnAt?]
      cases t.columns[position]? <;> rfl
  | columnar f =>
      rw [cell?, Frame.cell?, columnAt?]
      cases f.columns[position]? <;> rfl

theorem lt_of_cell? {t : Table} {row column : Nat} {value : Value}
    (h : t.cell? row column = some value) : column < t.columnNames.length := by
  rw [cell?_eq] at h
  obtain ⟨c, hc, -⟩ := Option.bind_eq_some_iff.mp h
  cases t <;> obtain ⟨c, hc, -⟩ := Option.map_eq_some_iff.mp hc <;>
    simpa [columnNames] using (List.getElem?_eq_some_iff.mp hc).1

-- Every column has a type.
theorem map_fst_columnTypes (t : Table) : t.columnTypes.map Prod.fst = t.columnNames := by
  have htype (name : String) (hname : name ∈ t.columnNames) :
      ∃ type, t.columnType? name = some type := by
    have hcolumn : (t.column? name).isSome = true := by
      cases t with
      | array t =>
          obtain ⟨c, hc, rfl⟩ := List.mem_map.mp hname
          rw [column?, Option.isSome_map, ValueTable.column?, List.find?_isSome]
          exact ⟨c, hc, by simp⟩
      | columnar f =>
          obtain ⟨c, hc, rfl⟩ := List.mem_map.mp hname
          rw [column?, Option.isSome_map, Frame.column?, List.find?_isSome]
          exact ⟨c, hc, by simp⟩
    obtain ⟨column, hcolumn⟩ := Option.isSome_iff_exists.mp hcolumn
    exact ⟨column.type, by rw [columnType?, hcolumn, Option.map_some]⟩
  calc t.columnTypes.map Prod.fst
      = t.columnNames.filterMap some := by
        rw [columnTypes, List.map_filterMap]
        refine List.filterMap_congr fun name hname => ?_
        obtain ⟨type, htype⟩ := htype name hname
        rw [htype]
        rfl
    _ = t.columnNames := List.filterMap_some

-- Every column has a place for every row.
def Rectangular : Table → Prop
  | .array t => ∀ c ∈ t.columns, c.length = t.rowCount
  | .columnar f => ∀ c ∈ f.columns, c.length = f.rowCount

end Table

theorem Frame.length_ofColumns {cs : List FrameColumn} {f : Frame} (h : ofColumns cs = .ok f) :
    ∀ c ∈ f.columns, c.length = f.rowCount := by
  cases cs with
  | nil =>
      cases h
      exact fun c hc => nomatch hc
  | cons first others =>
      rw [ofColumns] at h
      split at h
      next => cases h
      next hfind =>
        cases h
        intro c hc
        rcases List.mem_cons.mp hc with rfl | hc
        · rfl
        · simpa using List.find?_eq_none.mp hfind c hc

theorem Frame.length_filter {f f' : Frame} {marks : List Bool}
    (h : ∀ c ∈ f.columns, c.length = f.rowCount) (hfilter : f.filter marks = .ok f') :
    ∀ c ∈ f'.columns, c.length = f'.rowCount := by
  rw [filter] at hfilter
  split at hfilter
  next => cases hfilter
  next hmarks =>
    cases hfilter
    intro c hc
    obtain ⟨d, hd, rfl⟩ := List.mem_map.mp hc
    have hle : marks.length ≤ d.series.cells.length := by
      have hlength : d.series.cells.length = f.rowCount := h d hd
      rw [hlength]
      exact Nat.le_of_not_lt fun hlt => hmarks ⟨List.ne_nil_of_mem hd, hlt⟩
    exact Series.length_keep marks d.series.cells hle

namespace Table

variable {t t' : Table}

theorem rectangular_ofColumns {b : Backend} {cs : List ValueColumn} (h : ofColumns b cs = .ok t) :
    t.Rectangular := by
  cases b with
  | array =>
      obtain ⟨vt, hvt, rfl⟩ := exists_of_map h
      exact foldlM_invariant (motive := fun t => ∀ c ∈ t.columns, c.length = t.rowCount) hvt
        (fun c hc => nomatch hc) fun t ht c _ t' hadd => ValueTable.length_addColumn ht hadd
  | columnar =>
      obtain ⟨f, hf, rfl⟩ := exists_of_map h
      exact Frame.length_ofColumns hf

theorem Rectangular.addColumn (h : t.Rectangular) {c : Column} (hadd : t.addColumn c = .ok t') :
    t'.Rectangular := by
  cases t with
  | array t =>
      cases c with
      | array c =>
          obtain ⟨vt, hvt, rfl⟩ := exists_of_map hadd
          exact ValueTable.length_addColumn h hvt
      | columnar c => cases hadd
  | columnar f =>
      cases c with
      | array c => cases hadd
      | columnar c =>
          obtain ⟨f', hf, rfl⟩ := exists_of_map hadd
          rw [Frame.addColumn] at hf
          split at hf
          · cases hf
          · exact Frame.length_ofColumns hf

theorem Rectangular.dropRows (h : t.Rectangular) {rows : List Nat}
    (hdrop : t.dropRows rows = .ok t') : t'.Rectangular := by
  cases t with
  | array t =>
      obtain ⟨vt, hvt, rfl⟩ := exists_of_map hdrop
      rcases t.dropRows_cases rows h with ⟨-, error, herror⟩ | ⟨-, hok⟩
      · rw [herror] at hvt
        cases hvt
      · rw [hok] at hvt
        cases hvt
        intro c hc
        obtain ⟨d, hd, rfl⟩ := List.mem_map.mp hc
        have hmarks := ValueTable.length_marksWithout t.rowCount rows
        exact Series.length_keep _ d.values (Nat.le_of_eq (hmarks.trans (h d hd).symm))
  | columnar f =>
      obtain ⟨f', hf, rfl⟩ := exists_of_map hdrop
      rw [Frame.dropRows] at hf
      split at hf
      · cases hf
      · exact Frame.length_filter h hf

end Table

namespace Frame

variable (f : Frame) (marks : List Bool)

-- The rows that are marked, where there is a mark for every row.
def keep : Frame :=
  ⟨f.columns.map fun c => { c with series := c.series.filter marks }, marks.count true⟩

theorem filter_eq_keep (hmarks : marks.length = f.rowCount) :
    f.filter marks = .ok (f.keep marks) := by
  rw [filter, if_neg fun h => by omega]
  rfl

-- The rows that are not listed are kept, if those that are listed exist.
theorem dropRows_eq_keep {rows : List Nat} (hrows : ∀ row ∈ rows, row < f.rowCount) :
    f.dropRows rows = .ok (f.keep (Series.marksWithout f.rowCount rows)) := by
  rw [dropRows_eq_filter hrows]
  exact f.filter_eq_keep _ (ValueTable.length_marksWithout f.rowCount rows)

end Frame

namespace Column

-- The rows of a column with a mark.
def keep (marks : List Bool) : Column → Column
  | .array c => .array { c with values := Series.keep marks c.values }
  | .columnar c => .columnar { c with series := c.series.filter marks }

theorem value?_keep (marks : List Bool) (c : Column) (index : Nat) :
    (c.keep marks).value? index = (Series.marked marks)[index]?.bind c.value? := by
  cases c with
  | array c => exact Series.getElem?_keep marks c.values index
  | columnar c => exact c.series.value?_filter marks index

end Column

namespace Table

def keep (marks : List Bool) : Table → Table
  | .array t => .array (t.keep marks)
  | .columnar f => .columnar (f.keep marks)

-- The rows that are not listed, in their order.
def remaining (table : Table) (rows : List Nat) : List Nat :=
  (List.range table.rowCount).filter (· ∉ rows)

theorem dropRows_eq_keep {table : Table} {rows : List Nat} (htable : table.Rectangular)
    (hrows : ∀ row ∈ rows, row < table.rowCount) :
    table.dropRows rows = .ok (table.keep (Series.marksWithout table.rowCount rows)) := by
  cases table with
  | array t =>
      rcases t.dropRows_cases rows htable with ⟨⟨row, hrow, hle⟩, -⟩ | ⟨-, hok⟩
      · have hlt : row < t.rowCount := hrows row hrow
        omega
      · rw [dropRows, hok]
        rfl
  | columnar f =>
      rw [dropRows, f.dropRows_eq_keep hrows]
      rfl

theorem rowCount_keep (marks : List Bool) (table : Table) :
    (table.keep marks).rowCount = marks.count true := by
  cases table <;> rfl

end Table

end TableFlow
