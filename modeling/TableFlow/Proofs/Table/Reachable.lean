import TableFlow.Proofs.Table.Column
import TableFlow.Proofs.Table.InPlace
import TableFlow.Proofs.Table.Simulation

namespace TableFlow

namespace ValueTable

-- What every operation relies on and preserves.
structure WellFormed (t : ValueTable) : Prop where
  valid : t.Valid
  represented : ∀ c ∈ t.columns, c.Represented

theorem wellFormed_empty : empty.WellFormed where
  valid := ⟨.nil, fun _ hc => (nomatch hc), fun _ => rfl⟩
  represented := fun _ hc => nomatch hc

namespace WellFormed

variable {t t' : ValueTable}

theorem addColumn (h : t.WellFormed) {c : ValueColumn} (hc : c.Represented)
    (hadd : t.addColumn c = .ok t') : t'.WellFormed := by
  obtain ⟨hvalid, hcolumns⟩ := h.valid.addColumn hadd
  refine ⟨hvalid, fun x hx => ?_⟩
  rw [hcolumns] at hx
  rcases mem_place hx with rfl | hx
  · exact hc
  · exact h.represented x hx

theorem keep (h : t.WellFormed) {marks : List Bool} (hmarks : marks.length = t.rowCount) :
    (t.keep marks).WellFormed := by
  refine ⟨h.valid.keep hmarks, fun x hx => ?_⟩
  obtain ⟨c, hc, rfl⟩ := List.mem_map.mp hx
  exact fun v hv => h.represented c hc v (Series.mem_keep hv)

theorem dropRows (h : t.WellFormed) {rows : List Nat} (hdrop : t.dropRows rows = .ok t') :
    t'.WellFormed := by
  rcases t.dropRows_cases rows h.valid.length with ⟨-, error, herror⟩ | ⟨-, hok⟩
  · rw [herror] at hdrop
    cases hdrop
  · rw [hok] at hdrop
    cases hdrop
    exact h.keep (length_marksWithout t.rowCount rows)

-- One row that exists is a list of rows that exist.
theorem dropRow (h : t.WellFormed) {row : Nat} (hdrop : t.dropRow row = .ok t') :
    t'.WellFormed := by
  have hrow : row < t.rowCount := by
    by_contra hle
    rw [ValueTable.dropRow, if_neg hle] at hdrop
    cases hdrop
  have hfold := foldlM_dropRow t [row] (List.pairwise_singleton _ row)
    (fun i hi => List.mem_singleton.mp hi ▸ hrow) h.valid.length
  rw [List.foldlM_cons, hdrop] at hfold
  cases hfold
  exact h.keep (length_marksWithout t.rowCount [row])

-- Each column takes the value that the row has for it, and keeps its name.
private theorem zipWith_append {row : Row} {cs : List ValueColumn} {values : List Value}
    (h : List.Forall₂ (fun c v => cellFor row c = .ok v) cs values) :
    let added := List.zipWith (fun c v => { c with values := c.values ++ [v] }) cs values
    added.map (·.name) = cs.map (·.name) ∧
      ∀ x ∈ added, ∃ c ∈ cs, ∃ v, c.type.represents v = true ∧
        x = { c with values := c.values ++ [v] } := by
  induction h with
  | nil => exact ⟨rfl, fun x hx => nomatch hx⟩
  | @cons c v cs values hcell _ ih =>
      obtain ⟨hnames, hmem⟩ := ih
      refine ⟨congrArg (c.name :: ·) hnames, fun x hx => ?_⟩
      rcases List.mem_cons.mp hx with rfl | hx
      · refine ⟨c, List.mem_cons_self .., v, ?_, rfl⟩
        rw [cellFor] at hcell
        split at hcell
        next => exact ValueColumn.represents_of_accept hcell
        next => cases hcell
      · obtain ⟨d, hd, w, hw, rfl⟩ := hmem x hx
        exact ⟨d, List.mem_cons_of_mem c hd, w, hw, rfl⟩

theorem addRow (h : t.WellFormed) {row : Row} (hadd : t.addRow row = .ok t') :
    t'.WellFormed := by
  rw [ValueTable.addRow] at hadd
  split at hadd
  next =>
    cases hadd
    exact h
  next hne =>
    split at hadd
    next => cases hadd
    next =>
      obtain ⟨values, hvalues, hadd⟩ := exists_of_bind hadd
      cases hadd
      obtain ⟨hnames, hmem⟩ := zipWith_append (forall₂_of_mapM hvalues)
      refine ⟨⟨?_, fun x hx => ?_, fun hnil => ?_⟩, fun x hx => ?_⟩
      · rw [hnames]
        exact h.valid.names
      · obtain ⟨c, hc, v, -, rfl⟩ := hmem x hx
        have hlength : c.values.length = t.rowCount := h.valid.length c hc
        rw [ValueColumn.length, List.length_append, hlength, List.length_singleton]
      · rw [show List.zipWith _ t.columns values = [] from hnil] at hnames
        exact absurd (List.map_eq_nil_iff.mp hnames.symm) hne
      · obtain ⟨c, hc, v, hv, rfl⟩ := hmem x hx
        intro w hw
        rcases List.mem_append.mp hw with hw | hw
        · exact h.represented c hc w hw
        · rw [List.mem_singleton.mp hw]
          exact hv

theorem ofColumns {cs : List ValueColumn} (hcs : ∀ c ∈ cs, c.Represented)
    (hok : ValueTable.ofColumns cs = .ok t) : t.WellFormed :=
  foldlM_invariant hok wellFormed_empty fun _ h c hc _ hadd => h.addColumn (hcs c hc) hadd

end WellFormed

-- What can be asked of a table: a column is added to the table itself or to a copy of it, a row is
-- added, one row is dropped, or several are.
inductive Update where
  | addColumn (c : ValueColumn) (built : c.Built)
  | withColumn (c : ValueColumn) (built : c.Built)
  | addRow (row : Row)
  | dropRow (row : Nat)
  | dropRows (rows : List Nat)

namespace Update

-- The table that is left, and the error if there was one.
def execute (u : Update) (t : ValueTable) : ValueTable × Option TableError :=
  match u with
  | .addColumn c _ => (InPlace.addColumn c).execute t
  | .withColumn c _ =>
    match (InPlace.addColumn c).execute t with
    | (copy, none) => (copy, none)
    | (_, some error) => (t, some error)
  | .addRow row => (InPlace.addRow row).execute t
  | .dropRow row => (InPlace.dropRow row).execute t
  | .dropRows rows => (InPlace.dropRows rows).execute t

-- The table that an update leads to.
def apply (u : Update) (t : ValueTable) : Except TableError ValueTable :=
  match u with
  | .addColumn c _ => t.addColumn c
  | .withColumn c _ => t.addColumn c
  | .addRow row => t.addRow row
  | .dropRow row => t.dropRow row
  | .dropRows rows => t.dropRows rows

theorem execute_eq (u : Update) {t : ValueTable} (h : t.WellFormed) :
    u.execute t = t.settle (u.apply t) := by
  cases u with
  | addColumn c built => exact InPlace.execute_addColumn t c
  | withColumn c built =>
      rw [execute, InPlace.execute_addColumn, apply]
      cases t.addColumn c <;> rfl
  | addRow row => exact InPlace.execute_addRow t row
  | dropRow row => exact InPlace.execute_dropRow t row
  | dropRows rows => exact InPlace.execute_dropRows t rows h.valid.length

-- The step: what an update leads to is well-formed again.
theorem apply_wellFormed (u : Update) {t t' : ValueTable} (h : t.WellFormed)
    (hok : u.apply t = .ok t') : t'.WellFormed := by
  cases u with
  | addColumn c built => exact h.addColumn built.represented hok
  | withColumn c built => exact h.addColumn built.represented hok
  | addRow row => exact h.addRow hok
  | dropRow row => exact h.dropRow hok
  | dropRows rows => exact h.dropRows hok

-- An update that fails leaves the table, and one that succeeds leaves what it leads to.
theorem execute_cases (u : Update) {t : ValueTable} (h : t.WellFormed) :
    (∃ error, u.execute t = (t, some error)) ∨
      ∃ t', u.execute t = (t', none) ∧ t'.WellFormed := by
  rw [u.execute_eq h]
  cases hok : u.apply t with
  | error error => exact .inl ⟨error, rfl⟩
  | ok t' => exact .inr ⟨t', rfl, u.apply_wellFormed h hok⟩

end Update

-- The tables that can be made: without columns or from columns, and by updates, be they successful
-- or not.
inductive Reachable : ValueTable → Prop where
  | empty : Reachable .empty
  | ofColumns {cs : List ValueColumn} {t : ValueTable} (built : ∀ c ∈ cs, c.Built)
      (h : ofColumns cs = .ok t) : Reachable t
  | update {t : ValueTable} (u : Update) (reachable : Reachable t) : Reachable (u.execute t).1

-- By induction on how the table has been made.
theorem Reachable.wellFormed {t : ValueTable} (h : t.Reachable) : t.WellFormed := by
  induction h with
  | empty => exact wellFormed_empty
  | ofColumns built h => exact .ofColumns (fun c hc => (built c hc).represented) h
  | update u _ ih =>
      rcases u.execute_cases ih with ⟨error, herror⟩ | ⟨t', hok, ht'⟩
      · rw [herror]
        exact ih
      · rw [hok]
        exact ht'

-- Every table that can be made holds together, and no operation that fails on it changes it.
theorem reachable_invariant {t : ValueTable} (h : t.Reachable) :
    (t.columns.map (·.name)).Nodup ∧
    (∀ c ∈ t.columns, c.values.length = t.rowCount) ∧
    (t.columns = [] → t.rowCount = 0) ∧
    (∀ c ∈ t.columns, ∀ v ∈ c.values, c.type.represents v = true) ∧
    ∀ u : Update, (u.execute t).2 ≠ none → (u.execute t).1 = t := by
  have hwell := h.wellFormed
  refine ⟨hwell.valid.names, hwell.valid.length, hwell.valid.empty, hwell.represented,
    fun u hu => ?_⟩
  rcases u.execute_cases hwell with ⟨error, herror⟩ | ⟨t', hok, -⟩
  · rw [herror]
  · rw [hok] at hu
    exact absurd rfl hu

-- Two rows, of which the second is dropped. Then a row is to be added whose second value is not a
-- text.
def invoices : ValueTable :=
  ⟨[⟨"amount", .integer, [.integer 1, .integer 2]⟩, ⟨"note", .text, [.text "a", .text "b"]⟩], 2⟩

def unpaid : Update := .addRow ⟨[("amount", .integer 3), ("note", .boolean false)]⟩

theorem reachable_invariant_invoices :
    let t := ((Update.dropRow 1).execute invoices).1
    t.Reachable ∧ t.rowCount = 1 ∧ (∀ c ∈ t.columns, c.values.length = t.rowCount) ∧
      (unpaid.execute t).2 ≠ none ∧ (unpaid.execute t).1 = t := by
  intro t
  have hbuilt : ∀ c ∈ invoices.columns, c.Built := by
    intro c hc
    simp only [invoices, List.mem_cons, List.not_mem_nil, or_false] at hc
    rcases hc with rfl | rfl
    · exact .ofValues (ValueColumn.ofValues_of_represents (by decide))
    · exact .ofValues (ValueColumn.ofValues_of_represents (by decide))
  have hreachable : t.Reachable := .update (.dropRow 1) (.ofColumns hbuilt rfl)
  have hfails : (unpaid.execute t).2 ≠ none := by
    show (some _ : Option TableError) ≠ none
    exact Option.some_ne_none _
  obtain ⟨-, hlength, -, -, hsame⟩ := reachable_invariant hreachable
  exact ⟨hreachable, rfl, hlength, hfails, hsame unpaid hfails⟩

end ValueTable

end TableFlow
