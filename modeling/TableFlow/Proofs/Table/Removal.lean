import TableFlow.Table.Frame
import Mathlib.Data.List.Basic
import TableFlow.Proofs.Except

namespace TableFlow

private theorem loop_eq_append {α : Type} (r : α → α → Bool) (a : α) (as acc : List α) :
    List.eraseRepsBy.loop r a as acc = acc.reverse ++ List.eraseRepsBy.loop r a as [] := by
  induction as generalizing a acc with
  | nil => simp [List.eraseRepsBy.loop]
  | cons b as ih =>
      simp only [List.eraseRepsBy.loop]
      cases r a b with
      | true => exact ih a acc
      | false =>
          simp only []
          rw [ih b (a :: acc), ih b [a]]
          simp

theorem eraseReps_cons_cons (a b : Nat) (l : List Nat) :
    (a :: b :: l).eraseReps = if a = b then (a :: l).eraseReps else a :: (b :: l).eraseReps := by
  simp only [List.eraseReps, List.eraseRepsBy, List.eraseRepsBy.loop]
  by_cases h : a = b
  · simp [h]
  · have hb : (a == b) = false := by simpa using h
    simp only [hb, if_neg h]
    exact loop_eq_append _ b l [a]

theorem mem_eraseReps (x a : Nat) (l : List Nat) : x ∈ (a :: l).eraseReps ↔ x ∈ a :: l := by
  induction l generalizing a with
  | nil => rfl
  | cons b l ih =>
      rw [eraseReps_cons_cons]
      split
      next h => simp [ih, h]
      next h => rw [List.mem_cons, ih, List.mem_cons (b := a)]

theorem pairwise_eraseReps (a : Nat) (l : List Nat) (h : (a :: l).Pairwise (· ≥ ·)) :
    (a :: l).eraseReps.Pairwise (· > ·) := by
  induction l generalizing a with
  | nil => exact List.pairwise_singleton _ a
  | cons b l ih =>
      obtain ⟨hab, hl⟩ := List.pairwise_cons.mp h
      rw [eraseReps_cons_cons]
      split
      next heq => exact ih a (heq ▸ hl)
      next hne =>
        refine List.pairwise_cons.mpr ⟨fun x hx => ?_, ih b hl⟩
        have hbx : b ≥ x := by
          rcases List.mem_cons.mp ((mem_eraseReps x b l).mp hx) with rfl | hx
          · exact Nat.le_refl x
          · exact (List.pairwise_cons.mp hl).1 x hx
        have hab' := hab b (List.mem_cons_self ..)
        omega

namespace ValueTable

theorem mem_descending (x : Nat) (rows : List Nat) : x ∈ descending rows ↔ x ∈ rows := by
  have hmem : x ∈ rows.mergeSort (fun a b => decide (b ≤ a)) ↔ x ∈ rows := List.mem_mergeSort
  rw [← hmem, descending]
  cases rows.mergeSort fun a b => decide (b ≤ a) with
  | nil => rfl
  | cons a l => exact mem_eraseReps x a l

theorem pairwise_descending (rows : List Nat) : (descending rows).Pairwise (· > ·) := by
  have hsorted : (rows.mergeSort fun a b => decide (b ≤ a)).Pairwise (· ≥ ·) := by
    refine (List.pairwise_mergeSort (fun a b c hab hbc => ?_) (fun a b => ?_) rows).imp ?_
    · simp only [decide_eq_true_eq] at *
      omega
    · simp only [Bool.or_eq_true, decide_eq_true_eq]
      omega
    · intro a b hab
      simpa using hab
  unfold descending
  cases hl : rows.mergeSort fun a b => decide (b ≤ a) with
  | nil => exact .nil
  | cons a l => exact pairwise_eraseReps a l (hl ▸ hsorted)

end ValueTable

namespace Series

variable {α β : Type}

-- The marks of the positions that are not listed.
def marksWithout (count : Nat) (positions : List Nat) : List Bool :=
  (List.range count).map fun index => decide (index ∉ positions)

theorem length_keep (marks : List Bool) (as : List α) (h : marks.length ≤ as.length) :
    (keep marks as).length = marks.count true := by
  induction marks generalizing as with
  | nil => cases as <;> rfl
  | cons mark marks ih =>
      cases as with
      | nil => cases h
      | cons a as =>
          have ih := ih as (Nat.le_of_succ_le_succ h)
          cases mark <;> simp [keep, ih]

theorem mem_keep {a : α} {marks : List Bool} {as : List α} (h : a ∈ keep marks as) : a ∈ as := by
  induction marks generalizing as with
  | nil => cases as <;> cases h
  | cons mark marks ih =>
      cases as with
      | nil => cases mark <;> cases h
      | cons b as =>
          cases mark with
          | false => exact List.mem_cons_of_mem b (ih h)
          | true => exact List.mem_cons.mpr ((List.mem_cons.mp h).imp_right ih)

theorem keep_map (f : α → β) (marks : List Bool) (as : List α) :
    keep marks (as.map f) = (keep marks as).map f := by
  induction marks generalizing as with
  | nil => cases as <;> rfl
  | cons mark marks ih =>
      cases as with
      | nil => cases mark <;> rfl
      | cons a as => cases mark <;> simp [keep, ih]

private theorem map_range_succ (p : Nat → β) (n : Nat) :
    (List.range (n + 1)).map p = p 0 :: (List.range n).map (p ∘ Nat.succ) := by
  rw [List.range_succ_eq_map, List.map_cons, List.map_map]

-- Taking out a position that is not marked, by induction on the list that it is taken from.
private theorem keep_eraseIdx (as : List α) (index : Nat) (p q : Nat → Bool)
    (hindex : index < as.length) (hp : p index = false) (hbelow : ∀ i < index, q i = p i)
    (habove : ∀ i ≥ index, q i = p (i + 1)) :
    keep ((List.range (as.length - 1)).map q) (as.eraseIdx index) =
      keep ((List.range as.length).map p) as := by
  induction as generalizing index p q with
  | nil => cases hindex
  | cons a as ih =>
      rw [List.length_cons, map_range_succ, Nat.add_sub_cancel]
      cases index with
      | zero =>
          have hq : q = p ∘ Nat.succ := funext fun i => habove i (Nat.zero_le i)
          rw [hp, hq]
          rfl
      | succ index =>
          have hpos : as.length = as.length - 1 + 1 := by
            simp only [List.length_cons] at hindex
            omega
          have hq : (List.range as.length).map q =
              q 0 :: (List.range (as.length - 1)).map (q ∘ Nat.succ) := by
            rw [← map_range_succ, ← hpos]
          have ih := ih index (p ∘ Nat.succ) (q ∘ Nat.succ) (Nat.lt_of_succ_lt_succ hindex) hp
            (fun i hi => hbelow (i + 1) (by omega)) (fun i hi => habove (i + 1) (by omega))
          rw [hq, List.eraseIdx_cons_succ, hbelow 0 (by omega)]
          cases p 0 <;> simp [keep, ih]

theorem length_foldl_eraseIdx (positions : List Nat) (as : List α)
    (hsorted : positions.Pairwise (· > ·)) (hbound : ∀ i ∈ positions, i < as.length) :
    (positions.foldl List.eraseIdx as).length = as.length - positions.length := by
  induction positions generalizing as with
  | nil => rfl
  | cons index positions ih =>
      obtain ⟨hfirst, hsorted⟩ := List.pairwise_cons.mp hsorted
      have hindex := hbound index (List.mem_cons_self ..)
      have hlength := List.length_eraseIdx_of_lt hindex
      rw [List.foldl_cons, ih (as.eraseIdx index) hsorted fun i hi => ?_, hlength]
      · simp only [List.length_cons]
        omega
      · have := hfirst i hi
        omega

-- Taking out positions in descending order leaves those that are not listed.
theorem foldl_eraseIdx (positions : List Nat) (as : List α) (hsorted : positions.Pairwise (· > ·))
    (hbound : ∀ i ∈ positions, i < as.length) :
    positions.foldl List.eraseIdx as = keep (marksWithout as.length positions) as := by
  induction positions generalizing as with
  | nil =>
      simp only [marksWithout, List.not_mem_nil, not_false_eq_true, decide_true, List.foldl_nil]
      induction as with
      | nil => rfl
      | cons a as ih =>
          rw [List.length_cons, map_range_succ]
          simp only [keep]
          exact congrArg (a :: ·) (ih (by simp))
  | cons index positions ih =>
      obtain ⟨hfirst, hsorted⟩ := List.pairwise_cons.mp hsorted
      have hindex := hbound index (List.mem_cons_self ..)
      have hlength := List.length_eraseIdx_of_lt hindex
      rw [List.foldl_cons, ih (as.eraseIdx index) hsorted fun i hi => ?_, hlength]
      · refine keep_eraseIdx as index _ _ hindex (by simp) (fun i hi => ?_) fun i hi => ?_
        · have hne : i ≠ index := by omega
          simp [hne]
        · have hne : i + 1 ≠ index := by omega
          have hmem : i ∉ positions := fun h => absurd (hfirst i h) (by omega)
          have hmem' : i + 1 ∉ positions := fun h => absurd (hfirst (i + 1) h) (by omega)
          simp [hne, hmem, hmem']
      · have := hfirst i hi
        omega

end Series

namespace ValueTable

-- The rows with a mark.
def keep (t : ValueTable) (marks : List Bool) : ValueTable :=
  ⟨t.columns.map fun c => { c with values := Series.keep marks c.values }, marks.count true⟩

-- As many rows are left as positions are not listed.
private theorem count_marksWithout (count : Nat) (positions : List Nat)
    (hsorted : positions.Pairwise (· > ·)) (hbound : ∀ i ∈ positions, i < count) :
    (Series.marksWithout count positions).count true = count - positions.length := by
  have hbound' : ∀ i ∈ positions, i < (List.range count).length := by simpa using hbound
  have hmarks : (Series.marksWithout count positions).length = (List.range count).length := by
    simp [Series.marksWithout]
  rw [← Series.length_keep _ (List.range count) (Nat.le_of_eq hmarks)]
  have herase := Series.foldl_eraseIdx positions (List.range count) hsorted hbound'
  rw [List.length_range] at herase
  rw [← herase, Series.length_foldl_eraseIdx positions _ hsorted hbound', List.length_range]

-- Rows that exist, the last one first, are dropped without an error.
private theorem foldlM_dropRow_eq (t : ValueTable) (positions : List Nat)
    (hsorted : positions.Pairwise (· > ·)) (hbound : ∀ i ∈ positions, i < t.rowCount) :
    positions.foldlM dropRow t =
      .ok ⟨t.columns.map fun c => { c with values := positions.foldl List.eraseIdx c.values },
        t.rowCount - positions.length⟩ := by
  induction positions generalizing t with
  | nil => simp [pure, Except.pure]
  | cons index positions ih =>
      obtain ⟨hfirst, hsorted⟩ := List.pairwise_cons.mp hsorted
      have hindex := hbound index (List.mem_cons_self ..)
      rw [List.foldlM_cons, dropRow, if_pos hindex]
      refine (ih ⟨t.columns.map (·.erase index), t.rowCount - 1⟩ hsorted fun i hi => ?_).trans ?_
      · have := hfirst i hi
        show i < t.rowCount - 1
        omega
      · simp only [List.map_map, List.foldl_cons, List.length_cons]
        congr 2
        omega

theorem foldlM_dropRow (t : ValueTable) (positions : List Nat)
    (hsorted : positions.Pairwise (· > ·)) (hbound : ∀ i ∈ positions, i < t.rowCount)
    (hlength : ∀ c ∈ t.columns, c.length = t.rowCount) :
    positions.foldlM dropRow t = .ok (t.keep (Series.marksWithout t.rowCount positions)) := by
  rw [foldlM_dropRow_eq t positions hsorted hbound, keep,
    count_marksWithout t.rowCount positions hsorted hbound]
  congr 2
  refine List.map_congr_left fun c hc => ?_
  have hc : c.values.length = t.rowCount := hlength c hc
  rw [Series.foldl_eraseIdx positions c.values hsorted (by rw [hc]; exact hbound), hc]

-- What is dropped once the highest row has been found to exist.
private theorem foldlM_descending (t : ValueTable) (rows : List Nat)
    (hbound : ∀ row ∈ rows, row < t.rowCount)
    (hlength : ∀ c ∈ t.columns, c.length = t.rowCount) :
    (descending rows).foldlM dropRow t = .ok (t.keep (Series.marksWithout t.rowCount rows)) := by
  have hmarks : Series.marksWithout t.rowCount (descending rows) =
      Series.marksWithout t.rowCount rows := by
    simp only [Series.marksWithout, mem_descending]
  rw [← hmarks]
  exact foldlM_dropRow t _ (pairwise_descending rows)
    (fun row hrow => hbound row ((mem_descending row rows).mp hrow)) hlength

private theorem lt_of_highest {rows others : List Nat} {highest count : Nat}
    (h : descending rows = highest :: others) (hlt : highest < count) :
    ∀ row ∈ rows, row < count := by
  intro row hrow
  have hsorted := pairwise_descending rows
  rw [← mem_descending, h] at hrow
  rw [h] at hsorted
  rcases List.mem_cons.mp hrow with rfl | hrow
  · exact hlt
  · exact Nat.lt_trans ((List.pairwise_cons.mp hsorted).1 row hrow) hlt

-- The highest row that is listed is looked at first.
theorem dropRows_of_le {t : ValueTable} {rows : List Nat} {row : Nat} (hrow : row ∈ rows)
    (hle : t.rowCount ≤ row) :
    ∃ highest ∈ rows, t.rowCount ≤ highest ∧
      t.dropRows rows = .error (.rowOutOfBounds highest t.rowCount) := by
  unfold dropRows
  cases hrows : descending rows with
  | nil =>
      rw [← mem_descending, hrows] at hrow
      cases hrow
  | cons highest others =>
      have hmem : highest ∈ rows := (mem_descending highest rows).mp (hrows ▸ List.mem_cons_self ..)
      have hhighest : ¬ highest < t.rowCount := by
        intro hlt
        have hrow := lt_of_highest hrows hlt row hrow
        omega
      exact ⟨highest, hmem, Nat.le_of_not_lt hhighest, if_neg hhighest⟩

-- Either a row that is listed does not exist, or all that are listed are dropped.
theorem dropRows_cases (t : ValueTable) (rows : List Nat)
    (hlength : ∀ c ∈ t.columns, c.length = t.rowCount) :
    ((∃ row ∈ rows, t.rowCount ≤ row) ∧ ∃ error, t.dropRows rows = .error error) ∨
    ((∀ row ∈ rows, row < t.rowCount) ∧
      t.dropRows rows = .ok (t.keep (Series.marksWithout t.rowCount rows))) := by
  by_cases hbound : ∀ row ∈ rows, row < t.rowCount
  · have hok := foldlM_descending t rows hbound hlength
    refine .inr ⟨hbound, ?_⟩
    unfold dropRows
    cases hrows : descending rows with
    | nil =>
        rw [hrows] at hok
        exact hok
    | cons highest others =>
        have hmem : highest ∈ rows :=
          (mem_descending highest rows).mp (hrows ▸ List.mem_cons_self ..)
        rw [hrows] at hok
        exact (if_pos (hbound highest hmem)).trans hok
  · obtain ⟨row, hrow, hlt⟩ : ∃ row ∈ rows, ¬ row < t.rowCount := by simpa using hbound
    obtain ⟨highest, -, -, herror⟩ := dropRows_of_le hrow (Nat.le_of_not_lt hlt)
    exact .inl ⟨⟨row, hrow, Nat.le_of_not_lt hlt⟩, _, herror⟩

-- Drops one row after another, and leaves what there is when a row does not exist.
def dropEach : ValueTable → List Nat → ValueTable × Option TableError
  | t, [] => (t, none)
  | t, row :: rows =>
    match t.dropRow row with
    | .ok t => dropEach t rows
    | .error error => (t, some error)

def dropRowsInPlace (t : ValueTable) (rows : List Nat) : ValueTable × Option TableError :=
  match descending rows with
  | [] => (t, none)
  | highest :: others =>
    if highest < t.rowCount then t.dropEach (highest :: others)
    else (t, some (.rowOutOfBounds highest t.rowCount))

theorem dropEach_of_ok {t t' : ValueTable} {rows : List Nat} (h : rows.foldlM dropRow t = .ok t') :
    t.dropEach rows = (t', none) := by
  induction rows generalizing t with
  | nil =>
      cases h
      rfl
  | cons row rows ih =>
      rw [List.foldlM_cons] at h
      obtain ⟨s, hrow, h⟩ := exists_of_bind h
      rw [dropEach, hrow]
      exact ih h

-- A removal that fails has not dropped a row before.
theorem dropRowsInPlace_eq (t : ValueTable) (rows : List Nat)
    (hlength : ∀ c ∈ t.columns, c.length = t.rowCount) :
    t.dropRowsInPlace rows =
      match t.dropRows rows with
      | .ok t' => (t', none)
      | .error error => (t, some error) := by
  have hok := foldlM_descending t rows
  unfold dropRowsInPlace dropRows
  cases h : descending rows with
  | nil => rfl
  | cons highest others =>
      dsimp only
      split
      next hlt =>
        rw [h] at hok
        have hfold := hok (lt_of_highest h hlt) hlength
        rw [dropEach_of_ok hfold, hfold]
      next => rfl

end ValueTable

namespace Frame

variable {f : Frame} {rows : List Nat}

-- The rows that are listed are looked at in the order in which they are listed.
theorem dropRows_of_le {row : Nat} (hrow : row ∈ rows) (hle : f.rowCount ≤ row) :
    ∃ first ∈ rows, f.rowCount ≤ first ∧
      f.dropRows rows = .error (.rowOutOfBounds first f.rowCount) := by
  cases hfind : rows.find? (f.rowCount ≤ ·) with
  | none =>
      have hnot := List.find?_eq_none.mp hfind row hrow
      rw [decide_eq_true_eq] at hnot
      exact absurd hle hnot
  | some first =>
      have hfirst := List.find?_some hfind
      rw [decide_eq_true_eq] at hfirst
      exact ⟨first, List.mem_of_find?_eq_some hfind, hfirst, by rw [dropRows, hfind]⟩

theorem dropRows_eq_filter (hrows : ∀ row ∈ rows, row < f.rowCount) :
    f.dropRows rows = f.filter (Series.marksWithout f.rowCount rows) := by
  have hfind : rows.find? (f.rowCount ≤ ·) = none := by
    rw [List.find?_eq_none]
    intro row hrow
    have hlt := hrows row hrow
    simpa using hlt
  rw [dropRows, hfind]
  rfl

end Frame

end TableFlow
