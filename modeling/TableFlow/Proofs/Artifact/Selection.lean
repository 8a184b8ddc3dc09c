import TableFlow.Artifact.Sheet

namespace TableFlow.Sheet

-- The columns and the rows between two corners, which belong to it.
structure Window where
  left : Nat
  top : Nat
  right : Nat
  bottom : Nat
  columns : left ≤ right
  rows : top ≤ bottom

-- The corners of a range in a sheet that has rows and columns that far.
structure Binds (s : Sheet) (range : CellRange) (w : Window) : Prop where
  start : range.start.bind (s.columnCount - 1) (s.rowCount - 1) = (w.left, w.top)
  stop : range.stop.bind (s.columnCount - 1) (s.rowCount - 1) = (w.right, w.bottom)
  column : w.right < s.columnCount
  row : w.bottom < s.rowCount

-- The selection has a row for every row of the window, and every cell in its place.
structure KeepsPositions (s selection : Sheet) (w : Window) : Prop where
  rowCount : selection.rowCount = w.bottom - w.top + 1
  cell : ∀ column row, w.left ≤ column → column ≤ w.right → w.top ≤ row → row ≤ w.bottom →
    selection.cell? (column - w.left) (row - w.top) = s.cell? column row

-- The members of a list from one position to another, both included.
def between {α : Type} (first last : Nat) (as : List α) : List α := (as.take (last + 1)).drop first

def rowsIn (s : Sheet) (w : Window) : List (List String) := between w.top w.bottom s.rows

-- Whether a row has a cell in the first column.
def Window.reaches (w : Window) (row : List String) : Bool := w.left < row.length

section Lists

variable {α β : Type} {first last : Nat}

theorem getElem?_between {index : Nat} (as : List α) (hfirst : first ≤ index)
    (hlast : index ≤ last) : (between first last as)[index - first]? = as[index]? := by
  rw [between, List.getElem?_drop, Nat.add_sub_cancel' hfirst,
    List.getElem?_take_of_lt (Nat.lt_succ_of_le hlast)]

theorem length_between {as : List α} (hlast : last < as.length) :
    (between first last as).length = last + 1 - first := by
  rw [between, List.length_drop, List.length_take, Nat.min_eq_left hlast]

theorem between_eq_nil_iff {as : List α} (h : first ≤ last) :
    between first last as = [] ↔ as.length ≤ first := by
  rw [between, List.drop_eq_nil_iff, List.length_take]
  omega

-- Members are chosen by their positions, by induction on those that are still to be looked at.
theorem filter_zipIdx_eq (as : List α) (start : Nat) :
    ((as.zipIdx start).filter fun a => first ≤ a.2 ∧ a.2 ≤ last).map (·.1) =
      (as.take (last + 1 - start)).drop (first - start) := by
  induction as generalizing start with
  | nil => simp
  | cons a as ih =>
      rw [List.zipIdx_cons, List.filter_cons]
      by_cases hlast : last < start
      · have hnone : last + 1 - start = 0 := by omega
        have hnone' : last + 1 - (start + 1) = 0 := by omega
        rw [if_neg (by simp; omega), ih, hnone, hnone', List.take_zero, List.take_zero,
          List.drop_nil, List.drop_nil]
      obtain ⟨count, hcount⟩ : ∃ count, last + 1 - start = count + 1 := ⟨last - start, by omega⟩
      have hrest : last + 1 - (start + 1) = count := by omega
      by_cases hfirst : start < first
      · obtain ⟨skip, hskip⟩ : ∃ skip, first - start = skip + 1 := ⟨first - start - 1, by omega⟩
        have hskip' : first - (start + 1) = skip := by omega
        rw [if_neg (by simp; omega), ih, hcount, hskip, hrest, hskip', List.take_succ_cons,
          List.drop_succ_cons]
      · have hskip : first - start = 0 := by omega
        have hskip' : first - (start + 1) = 0 := by omega
        rw [if_pos (by simp; omega), List.map_cons, ih, hcount, hskip, hrest, hskip',
          List.take_succ_cons]
        rfl

-- What is mapped to nothing need not be looked at.
theorem filter_map_of_nil {f : α → List β} {chosen : α → Bool} {as : List α}
    (h : ∀ a ∈ as, chosen a = false → f a = []) :
    (as.map f).filter (· ≠ []) = ((as.filter chosen).map f).filter (· ≠ []) := by
  rw [List.filter_map, List.filter_map, List.filter_filter]
  congr 1
  refine List.filter_congr fun a ha => ?_
  cases hchosen : chosen a with
  | true => simp
  | false => simp [h a ha hchosen]

-- What passes a filter stands behind all others that pass it and stood before.
theorem getElem?_filter_countP {passes : α → Bool} {as : List α} {index : Nat} {a : α}
    (h : as[index]? = some a) (ha : passes a = true) :
    (as.filter passes)[(as.take index).countP passes]? = some a := by
  induction as generalizing index with
  | nil => cases h
  | cons b as ih =>
      cases index with
      | zero =>
          cases h
          rw [List.filter_cons_of_pos ha]
          rfl
      | succ index =>
          have hrest := ih h
          rw [List.take_succ_cons, List.countP_cons, List.filter_cons]
          split
          · exact hrest
          · exact hrest

end Lists

variable {s : Sheet} {range : CellRange} {w : Window}

theorem contains_of_binds (h : s.Binds range w) (column row : Nat) :
    range.contains column row (s.columnCount - 1) (s.rowCount - 1) =
      (decide (w.left ≤ column ∧ column ≤ w.right) && decide (w.top ≤ row ∧ row ≤ w.bottom)) := by
  rw [CellRange.contains, h.start, h.stop]

-- What is selected from a row.
theorem selectCells_eq (h : s.Binds range w) (row : List String) (index : Nat) :
    selectCells (fun column => range.contains column index (s.columnCount - 1) (s.rowCount - 1))
      row = if w.top ≤ index ∧ index ≤ w.bottom then between w.left w.right row else [] := by
  rw [selectCells]
  simp only [contains_of_binds h]
  split
  next hindex =>
    simp only [hindex, and_self, decide_true, Bool.and_true]
    exact filter_zipIdx_eq row 0
  next hindex =>
    simp only [hindex, decide_false, Bool.and_false]
    exact List.map_eq_nil_iff.mpr (List.filter_eq_nil_iff.mpr fun _ _ => Bool.false_ne_true)

theorem rows_select (h : s.Binds range w) :
    (s.select range).rows = ((s.rowsIn w).filter w.reaches).map (between w.left w.right) := by
  let cells (row : List String × Nat) : List String :=
    if w.top ≤ row.2 ∧ row.2 ≤ w.bottom then between w.left w.right row.1 else []
  have hrows : (s.select range).rows = (s.rows.zipIdx.map cells).filter (· ≠ []) := by
    simp only [select, selectCells_eq h, cells]
  have hinside : (s.rows.zipIdx.filter fun row => w.top ≤ row.2 ∧ row.2 ≤ w.bottom).map cells =
      (s.rowsIn w).map (between w.left w.right) := by
    have hrowsIn : s.rowsIn w = _ := (filter_zipIdx_eq s.rows 0).symm
    rw [hrowsIn, List.map_map]
    refine List.map_congr_left fun row hrow => if_pos ?_
    simpa using (List.mem_filter.mp hrow).2
  calc (s.select range).rows
      = ((s.rows.zipIdx.filter fun row => w.top ≤ row.2 ∧ row.2 ≤ w.bottom).map cells).filter
          (· ≠ []) := by
        rw [hrows]
        exact filter_map_of_nil fun row _ hrow => if_neg (by simpa using hrow)
    _ = ((s.rowsIn w).filter w.reaches).map (between w.left w.right) := by
        rw [hinside, List.filter_map]
        congr 1
        refine List.filter_congr fun row _ => ?_
        exact decide_eq_decide.mpr ((not_congr (between_eq_nil_iff w.columns)).trans Nat.not_le)

-- A selection has the rows of the window that have a cell in its first column, each of them behind
-- all others of these that stand before it. So every cell keeps its place exactly if all have one.
theorem keepsPositions_iff (h : s.Binds range w) :
    (s.select range).rows = ((s.rowsIn w).filter w.reaches).map (between w.left w.right) ∧
    (∀ row cells, w.top ≤ row → row ≤ w.bottom → s.rows[row]? = some cells →
      w.reaches cells = true → ∀ column, w.left ≤ column → column ≤ w.right →
        (s.select range).cell? (column - w.left)
          (((s.rowsIn w).take (row - w.top)).countP w.reaches) = s.cell? column row) ∧
    (KeepsPositions s (s.select range) w ↔ ∀ cells ∈ s.rowsIn w, w.reaches cells = true) := by
  have hselect := rows_select h
  have hlength : (s.rowsIn w).length = w.bottom - w.top + 1 := by
    have hrows := w.rows
    rw [rowsIn, length_between h.row]
    omega
  have hrow (row : Nat) (htop : w.top ≤ row) (hbottom : row ≤ w.bottom) :
      (s.rowsIn w)[row - w.top]? = s.rows[row]? := getElem?_between s.rows htop hbottom
  refine ⟨hselect, ?_, ?_, ?_⟩
  · intro row cells htop hbottom hcells hreaches column hleft hright
    rw [← hrow row htop hbottom] at hcells
    rw [cell?, hselect, List.getElem?_map, getElem?_filter_countP hcells hreaches, cell?,
      ← hrow row htop hbottom, hcells]
    exact getElem?_between cells hleft hright
  · intro hkeeps
    have hcount := hkeeps.rowCount
    rw [rowCount, hselect, List.length_map, ← hlength] at hcount
    exact List.length_filter_eq_length_iff.mp hcount
  · intro hreaches
    rw [List.filter_eq_self.mpr hreaches] at hselect
    refine ⟨?_, fun column row hleft hright htop hbottom => ?_⟩
    · rw [rowCount, hselect, List.length_map, hlength]
    · rw [cell?, hselect, List.getElem?_map, hrow row htop hbottom, cell?]
      cases s.rows[row]? with
      | none => rfl
      | some cells => exact getElem?_between cells hleft hright

-- A name and an age for every identifier but the last, which has a name alone.
def guests : Sheet := ⟨[["id", "name", "age"], ["1", "Ann", "30"], ["2", "Bo"]]⟩

-- The range `B2:**`.
def guestRange : CellRange := ⟨⟨some 1, some 1⟩, ⟨none, none⟩⟩

def guestWindow : Window := ⟨1, 1, 2, 2, by decide, by decide⟩

theorem keepsPositions_iff_guests :
    guests.Binds guestRange guestWindow ∧
      KeepsPositions guests (guests.select guestRange) guestWindow ∧
      guests.select guestRange = ⟨[["Ann", "30"], ["Bo"]]⟩ ∧
      (guests.select guestRange).cell? 0 1 = guests.cell? 1 2 := by
  have hbinds : guests.Binds guestRange guestWindow := ⟨rfl, rfl, by decide, by decide⟩
  obtain ⟨-, hcell, hiff⟩ := keepsPositions_iff hbinds
  exact ⟨hbinds, hiff.mpr (by decide), by decide,
    hcell 2 _ (by decide) (by decide) rfl rfl 1 (by decide) (by decide)⟩

-- A row that ends in front of the window makes the next one move up.
theorem short_row_vanishes :
    let s : Sheet := ⟨[["id", "name"], ["1"], ["2", "Bo"]]⟩
    let range : CellRange := ⟨⟨some 1, some 0⟩, ⟨some 1, some 2⟩⟩
    let w : Window := ⟨1, 0, 1, 2, by decide, by decide⟩
    s.Binds range w ∧ s.select range = ⟨[["name"], ["Bo"]]⟩ ∧ (s.select range).rowCount = 2 ∧
      s.cell? 1 1 = none ∧ (s.select range).cell? 0 1 = some "Bo" ∧
      ¬ KeepsPositions s (s.select range) w := by
  intro s range w
  refine ⟨⟨rfl, rfl, by decide, by decide⟩, by decide, by decide, by decide, by decide, ?_⟩
  intro h
  exact absurd h.rowCount (by decide)

end TableFlow.Sheet
