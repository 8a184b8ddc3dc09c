import TableFlow.Table.Basic
import TableFlow.Proofs.Scalar
import TableFlow.Proofs.Table.Removal

namespace TableFlow

namespace ValueColumn

-- A column of a scalar type whose values have the form of that type.
def Holds (c : ValueColumn) (σ : ScalarType) : Prop :=
  c.type.scalarType? = some σ ∧ ∀ v ∈ c.values, c.type.represents v = true

-- The column as a series.
def toFrameColumn (c : ValueColumn) : FrameColumn := .ofValues c.name c.type (c.values.map some)

end ValueColumn

namespace Series

theorem length_ofValues (type : ValueType) (values : List (Option Value)) :
    (ofValues type values).length = values.length := by
  unfold ofValues length
  cases type.dataType <;> exact List.length_map ..

theorem filter_ofValues (type : ValueType) (marks : List Bool) (values : List (Option Value)) :
    (ofValues type values).filter marks = ofValues type (keep marks values) := by
  unfold ofValues filter
  cases type.dataType <;> simp only [keep_map]

theorem type_ofValues {type : ValueType} {σ : ScalarType} (h : type.scalarType? = some σ)
    (values : List (Option Value)) : (ofValues type values).type = σ.dataType := by
  unfold ofValues
  rw [ValueType.dataType_of_scalarType? h]
  cases σ <;> rfl

-- Values of the type of a series are the values that it holds.
theorem values_ofValues {type : ValueType} {σ : ScalarType} (htype : type.scalarType? = some σ)
    {values : List Value} (hvalues : ∀ v ∈ values, type.represents v = true) :
    (ofValues type (values.map some)).values = values.map some := by
  have hmap {α : Type} {read : Option Value → α} {make : α → Option Value}
      (h : ∀ v, v.scalarType? = some σ → make (read (some v)) = some v) :
      ((values.map some).map read).map make = values.map some := by
    rw [List.map_map, List.map_map]
    refine List.map_congr_left fun v hv => ?_
    exact h v ((type.represents_of_scalarType? htype v).mp (hvalues v hv)).1
  unfold ofValues Series.values
  rw [ValueType.dataType_of_scalarType? htype]
  cases σ with
  | boolean => exact hmap fun v hv => by cases v <;> cases hv; rfl
  | integer => exact hmap fun v hv => by cases v <;> cases hv; rfl
  | decimal => exact hmap fun v hv => by cases v <;> cases hv; rfl
  | text => exact hmap fun v hv => by cases v <;> cases hv; rfl

theorem value?_eq (s : Series) (index : Nat) : s.value? index = s.values[index]?.join := by
  rw [value?, values, List.getElem?_map]
  cases s.cells[index]? <;> rfl

end Series

namespace ValueColumn

theorem length_toFrameColumn (c : ValueColumn) : c.toFrameColumn.length = c.length := by
  rw [FrameColumn.length, toFrameColumn, FrameColumn.ofValues, Series.length_ofValues]
  exact List.length_map ..

theorem value?_toFrameColumn {c : ValueColumn} {σ : ScalarType} (h : c.Holds σ) (row : Nat) :
    c.toFrameColumn.series.value? row = c.value? row := by
  rw [Series.value?_eq, toFrameColumn, FrameColumn.ofValues, Series.values_ofValues h.1 h.2,
    List.getElem?_map, value?]
  cases c.values[row]? <;> rfl

end ValueColumn

section Place

variable {α β : Type} {name : α → String}

theorem map_place {name' : β → String} (f : α → β) (hname : ∀ a, name' (f a) = name a) (a : α)
    (as : List α) : place name' (f a) (as.map f) = (place name a as).map f := by
  induction as with
  | nil => rfl
  | cons b as ih =>
      simp only [List.map_cons, place, hname, ih]
      split <;> rfl

theorem isSole_map {name' : β → String} (f : α → β) (hname : ∀ a, name' (f a) = name a) (a : α)
    (as : List α) : isSole name' (f a) (as.map f) = isSole name a as := by
  match as with
  | [] => rfl
  | [b] => simp only [List.map_cons, List.map_nil, isSole, hname]
  | b :: c :: as => rfl

theorem mem_place {a b : α} {as : List α} (h : b ∈ place name a as) : b = a ∨ b ∈ as := by
  induction as with
  | nil => exact .inl (List.mem_singleton.mp h)
  | cons c as ih =>
      rw [place] at h
      split at h
      · exact (List.mem_cons.mp h).imp_right (List.mem_cons_of_mem c)
      · rcases List.mem_cons.mp h with rfl | h
        · exact .inr (List.mem_cons_self ..)
        · exact (ih h).imp_right (List.mem_cons_of_mem c)

theorem place_of_fresh {a : α} {as : List α} (h : name a ∉ as.map name) :
    place name a as = as ++ [a] := by
  induction as with
  | nil => rfl
  | cons b as ih =>
      simp only [List.map_cons, List.mem_cons, not_or] at h
      rw [place, if_neg (Ne.symm h.1), ih h.2]
      rfl

theorem map_name_place (a : α) (as : List α) :
    (place name a as).map name = if name a ∈ as.map name then as.map name
      else as.map name ++ [name a] := by
  induction as with
  | nil => rfl
  | cons b as ih =>
      rw [place]
      by_cases hb : name b = name a
      · simp [hb]
      · simp only [if_neg hb, List.map_cons, ih, List.mem_cons, Ne.symm hb, false_or]
        split <;> rfl

theorem nodup_place {a : α} {as : List α} (h : (as.map name).Nodup) :
    ((place name a as).map name).Nodup := by
  rw [map_name_place]
  split
  next => exact h
  next hfresh =>
    refine List.nodup_append.mpr ⟨h, by simp, fun x hx y hy hxy => hfresh ?_⟩
    rw [List.mem_singleton] at hy
    rwa [← hy, ← hxy]

theorem place_of_isSole {a : α} {as : List α} (h : isSole name a as = true) :
    place name a as = [a] := by
  match as with
  | [] => rfl
  | [b] =>
      have hb : name b = name a := by simpa [isSole] using h
      rw [place, if_pos hb]
  | b :: c :: as => cases h

theorem place_ne_nil (a : α) (as : List α) : place name a as ≠ [] := by
  cases as with
  | nil => simp [place]
  | cons b as =>
      rw [place]
      split <;> simp

-- Where names are distinct, the first item of a name is the only one.
theorem find?_of_mem {a : α} {as : List α} (hnames : (as.map name).Nodup) (ha : a ∈ as) :
    as.find? (name · == name a) = some a := by
  induction as with
  | nil => cases ha
  | cons b bs ih =>
      obtain ⟨hb, hbs⟩ := List.nodup_cons.mp hnames
      rcases List.mem_cons.mp ha with rfl | ha
      · simp
      · have hne : name b ≠ name a := fun h => hb (List.mem_map.mpr ⟨a, ha, h.symm⟩)
        rw [List.find?_cons_of_neg (by simpa using hne)]
        exact ih hbs ha

end Place

namespace ValueTable

-- The table as a frame.
def toFrame (t : ValueTable) : Frame := ⟨t.columns.map (·.toFrameColumn), t.rowCount⟩

-- Names are distinct and all columns have a value for every row.
structure Valid (t : ValueTable) : Prop where
  names : (t.columns.map (·.name)).Nodup
  length : ∀ c ∈ t.columns, c.length = t.rowCount
  empty : t.columns = [] → t.rowCount = 0

end ValueTable

theorem Frame.ofColumns_of_length {columns : List FrameColumn} {rows : Nat} (hne : columns ≠ [])
    (hlength : ∀ c ∈ columns, c.length = rows) : ofColumns columns = .ok ⟨columns, rows⟩ := by
  cases columns with
  | nil => exact absurd rfl hne
  | cons first others =>
      have hfirst := hlength first (List.mem_cons_self ..)
      have hfind : others.find? (·.length != first.length) = none := by
        refine List.find?_eq_none.mpr fun c hc => ?_
        simp [hfirst, hlength c (List.mem_cons_of_mem first hc)]
      rw [ofColumns, hfind, hfirst]

theorem Frame.addColumn_of_length {f : Frame} {c : FrameColumn}
    (hframe : ∀ col ∈ f.columns, col.length = f.rowCount) (h : c.length = f.rowCount) :
    f.addColumn c = .ok ⟨place FrameColumn.name c f.columns, f.rowCount⟩ := by
  rw [addColumn, if_neg (by simp [h])]
  refine ofColumns_of_length (place_ne_nil c _) fun col hcol => ?_
  rcases mem_place hcol with rfl | hcol
  · exact h
  · exact hframe col hcol

namespace ValueTable

variable {t t' : ValueTable}

theorem columns_addColumn {c : ValueColumn} (hadd : t.addColumn c = .ok t') :
    t'.columns = place ValueColumn.name c t.columns := by
  rw [ValueTable.addColumn] at hadd
  split at hadd
  next =>
    cases hadd
    rfl
  next =>
    split at hadd
    next =>
      cases hadd
      rfl
    next => cases hadd

theorem length_addColumn (h : ∀ x ∈ t.columns, x.length = t.rowCount) {c : ValueColumn}
    (hadd : t.addColumn c = .ok t') : ∀ x ∈ t'.columns, x.length = t'.rowCount := by
  intro x hx
  rw [columns_addColumn hadd] at hx
  rw [ValueTable.addColumn] at hadd
  split at hadd
  next hsole =>
    cases hadd
    rw [place_of_isSole hsole] at hx
    rw [List.mem_singleton.mp hx]
  next =>
    split at hadd
    next hlength =>
      cases hadd
      rcases mem_place hx with rfl | hx
      · exact hlength
      · exact h x hx
    next => cases hadd

theorem Valid.addColumn (h : t.Valid) {c : ValueColumn} (hadd : t.addColumn c = .ok t') :
    t'.Valid ∧ t'.columns = place ValueColumn.name c t.columns := by
  have hcolumns := columns_addColumn hadd
  refine ⟨⟨?_, length_addColumn h.length hadd, fun hnil => ?_⟩, hcolumns⟩
  · rw [hcolumns]
    exact nodup_place h.names
  · rw [hcolumns] at hnil
    exact absurd hnil (place_ne_nil c _)

-- A column is added to the frame as it is to the table, and refused for the same reason.
theorem toFrame_addColumn (h : t.Valid) (c : ValueColumn) :
    t.toFrame.addColumn c.toFrameColumn = (t.addColumn c).map toFrame := by
  have hplace : place FrameColumn.name c.toFrameColumn (t.columns.map (·.toFrameColumn)) =
      (place ValueColumn.name c t.columns).map (·.toFrameColumn) :=
    map_place _ (fun _ => rfl) c t.columns
  have hsole : isSole FrameColumn.name c.toFrameColumn (t.columns.map (·.toFrameColumn)) =
      isSole ValueColumn.name c t.columns := isSole_map _ (fun _ => rfl) c t.columns
  -- What has been added has the right number of cells in every column.
  have hcolumns (hadded : ∃ t', t.addColumn c = .ok t') :
      Frame.ofColumns ((place ValueColumn.name c t.columns).map (·.toFrameColumn)) =
        (t.addColumn c).map toFrame := by
    obtain ⟨t', ht'⟩ := hadded
    obtain ⟨hvalid, hcolumns⟩ := h.addColumn ht'
    rw [ht', ← hcolumns]
    refine Frame.ofColumns_of_length (fun hnil => ?_) fun x hx => ?_
    · rw [List.map_eq_nil_iff, hcolumns] at hnil
      exact place_ne_nil c _ hnil
    · obtain ⟨y, hy, rfl⟩ := List.mem_map.mp hx
      rw [y.length_toFrameColumn]
      exact hvalid.length y hy
  rw [Frame.addColumn]
  simp only [toFrame, hplace, hsole, c.length_toFrameColumn]
  cases hs : isSole ValueColumn.name c t.columns with
  | true =>
      rw [Bool.not_true, Bool.false_and, if_neg Bool.false_ne_true]
      exact hcolumns ⟨_, by rw [ValueTable.addColumn, if_pos hs]⟩
  | false =>
      by_cases hlength : c.length = t.rowCount
      · rw [if_neg (by simp [hlength])]
        refine hcolumns ⟨_, by rw [ValueTable.addColumn, if_neg (by simp [hs]), if_pos hlength]⟩
      · rw [if_pos (by simp [hlength]), ValueTable.addColumn, if_neg (by simp [hs]), if_neg hlength]
        rfl

theorem length_marksWithout (count : Nat) (positions : List Nat) :
    (Series.marksWithout count positions).length = count := by
  rw [Series.marksWithout, List.length_map, List.length_range]

theorem Valid.keep (h : t.Valid) {marks : List Bool} (hmarks : marks.length = t.rowCount) :
    (t.keep marks).Valid := by
  refine ⟨?_, fun c hc => ?_, fun hnil => ?_⟩
  · simp only [ValueTable.keep, List.map_map]
    exact h.names
  · obtain ⟨x, hx, rfl⟩ := List.mem_map.mp hc
    exact Series.length_keep marks x.values (Nat.le_of_eq (hmarks.trans (h.length x hx).symm))
  · have hrows := h.empty (List.map_eq_nil_iff.mp hnil)
    obtain rfl : marks = [] := List.length_eq_zero_iff.mp (hmarks.trans hrows)
    rfl

-- Marks leave the same rows in both.
theorem toFrame_filter (t : ValueTable) {marks : List Bool} (hmarks : marks.length = t.rowCount) :
    t.toFrame.filter marks = .ok (t.keep marks).toFrame := by
  have hlength : ¬ (t.toFrame.columns ≠ [] ∧ t.toFrame.rowCount < marks.length) := fun h =>
    absurd h.2 (by rw [hmarks]; exact Nat.lt_irrefl _)
  rw [Frame.filter, if_neg hlength]
  simp only [toFrame, keep, List.map_map]
  congr 2
  refine List.map_congr_left fun c _ => ?_
  simp only [Function.comp_apply, ValueColumn.toFrameColumn, FrameColumn.ofValues,
    Series.filter_ofValues, Series.keep_map]

-- Rows are dropped from the frame as they are from the table.
theorem toFrame_dropRows (h : t.Valid) (rows : List Nat) :
    ((∃ error, t.dropRows rows = .error error) ∧ ∃ error, t.toFrame.dropRows rows = .error error) ∨
    ∃ t', t.dropRows rows = .ok t' ∧ t.toFrame.dropRows rows = .ok t'.toFrame ∧ t'.Valid ∧
      t' = t.keep (Series.marksWithout t.rowCount rows) := by
  rcases t.dropRows_cases rows h.length with ⟨⟨row, hrow, hle⟩, herror⟩ | ⟨hbound, hok⟩
  · have hle' : t.toFrame.rowCount ≤ row := hle
    obtain ⟨first, -, -, herror'⟩ := Frame.dropRows_of_le hrow hle'
    exact .inl ⟨herror, _, herror'⟩
  · have hmarks := length_marksWithout t.rowCount rows
    refine .inr ⟨_, hok, ?_, h.keep hmarks, rfl⟩
    have hbound' : ∀ row ∈ rows, row < t.toFrame.rowCount := hbound
    rw [Frame.dropRows_eq_filter hbound']
    exact t.toFrame_filter hmarks

-- The cells of scalar columns are those of the table.
theorem cell?_toFrame (h : ∀ c ∈ t.columns, ∃ σ, c.Holds σ) (row column : Nat) :
    t.toFrame.cell? row column = t.cell? row column := by
  simp only [cell?, Frame.cell?, toFrame, List.getElem?_map]
  cases hc : t.columns[column]? with
  | none => rfl
  | some c =>
      obtain ⟨σ, hholds⟩ := h c (List.mem_of_getElem? hc)
      exact c.value?_toFrameColumn hholds row

theorem isSole_of_fresh {name : ValueColumn → String} {c : ValueColumn} {cs : List ValueColumn}
    (hne : cs ≠ []) (hfresh : name c ∉ cs.map name) : isSole name c cs = false := by
  match cs with
  | [] => exact absurd rfl hne
  | [b] =>
      have hb : name b ≠ name c := fun h => hfresh (by simp [h])
      simp [isSole, hb]
  | b :: d :: cs => rfl

-- Columns with fresh names are added one after another as long as their lengths fit.
theorem foldlM_addColumn (t : ValueTable) (cs : List ValueColumn) (hne : t.columns ≠ [])
    (hnames : ((t.columns ++ cs).map (·.name)).Nodup) :
    cs.foldlM ValueTable.addColumn t =
      match cs.find? (·.length != t.rowCount) with
      | some c => .error (.columnLength c.name t.rowCount c.length)
      | none => .ok ⟨t.columns ++ cs, t.rowCount⟩ := by
  induction cs generalizing t with
  | nil => simp [pure, Except.pure]
  | cons c cs ih =>
      have hfresh : c.name ∉ t.columns.map (·.name) := by
        rw [List.map_append, List.map_cons] at hnames
        exact fun h => (List.nodup_append.mp hnames).2.2 _ h _ (List.mem_cons_self ..) rfl
      rw [List.foldlM_cons, ValueTable.addColumn, isSole_of_fresh hne hfresh,
        if_neg Bool.false_ne_true]
      by_cases hlength : c.length = t.rowCount
      · rw [if_pos hlength, place_of_fresh hfresh, List.find?_cons_of_neg (by simp [hlength])]
        refine (ih ⟨t.columns ++ [c], t.rowCount⟩ (by simp) (by simpa using hnames)).trans ?_
        simp only [List.append_assoc, List.singleton_append]
      · rw [if_neg hlength, List.find?_cons_of_pos (by simpa using hlength)]
        rfl

-- Columns with distinct names make a table exactly if they make a frame.
theorem ofColumns_toFrame (cs : List ValueColumn) (hnames : (cs.map (·.name)).Nodup) :
    Frame.ofValueColumns cs = (ofColumns cs).map toFrame ∧
      ∀ t, ofColumns cs = .ok t → t.Valid ∧ t.columns = cs := by
  cases cs with
  | nil =>
      refine ⟨rfl, fun t ht => ?_⟩
      cases ht
      exact ⟨⟨.nil, fun c hc => (by cases hc), fun _ => rfl⟩, rfl⟩
  | cons c cs =>
      have hfold := foldlM_addColumn ⟨[c], c.length⟩ cs (by simp) hnames
      have hofColumns : ofColumns (c :: cs) = cs.foldlM ValueTable.addColumn ⟨[c], c.length⟩ := rfl
      have hfind : (cs.map (·.toFrameColumn)).find? (·.length != c.toFrameColumn.length) =
          (cs.find? (·.length != c.length)).map (·.toFrameColumn) := by
        rw [List.find?_map, c.length_toFrameColumn]
        simp only [Function.comp_def, ValueColumn.length_toFrameColumn]
      have hframe : Frame.ofValueColumns (c :: cs) =
          Frame.ofColumns (c.toFrameColumn :: cs.map (·.toFrameColumn)) := rfl
      rw [hofColumns, hfold, hframe, Frame.ofColumns, hfind, c.length_toFrameColumn]
      cases hd : cs.find? (·.length != c.length) with
      | some d =>
          refine ⟨?_, fun t ht => by cases ht⟩
          simp only [Option.map_some, d.length_toFrameColumn]
          rfl
      | none =>
          refine ⟨rfl, fun t ht => ?_⟩
          cases ht
          refine ⟨⟨hnames, fun x hx => ?_, fun hnil => by cases hnil⟩, rfl⟩
          rcases List.mem_cons.mp hx with rfl | hx
          · rfl
          · simpa using List.find?_eq_none.mp hd x hx

-- Columns of one length, with distinct names, make a table.
theorem ofColumns_of_length {cs : List ValueColumn} {rows : Nat} (hnames : (cs.map (·.name)).Nodup)
    (hlength : ∀ c ∈ cs, c.length = rows) :
    ofColumns cs = .ok ⟨cs, if cs = [] then 0 else rows⟩ := by
  cases cs with
  | nil => rfl
  | cons c cs =>
      have hfirst := hlength c (List.mem_cons_self ..)
      have hfold := foldlM_addColumn ⟨[c], c.length⟩ cs (by simp) hnames
      have hfind : cs.find? (·.length != c.length) = none := by
        refine List.find?_eq_none.mpr fun d hd => ?_
        simp [hfirst, hlength d (List.mem_cons_of_mem c hd)]
      rw [hfind] at hfold
      rw [if_neg (List.cons_ne_nil c cs), ← hfirst]
      exact hfold

-- Columns of one length always make a table. Each takes the place of an earlier one of its name.
theorem foldlM_addColumn_of_length {t : ValueTable} {cs : List ValueColumn} {rows : Nat}
    (ht : t.columns = [] ∨ t.rowCount = rows) (hlength : ∀ c ∈ cs, c.length = rows) :
    cs.foldlM ValueTable.addColumn t =
      .ok ⟨cs.foldl (fun columns c => place ValueColumn.name c columns) t.columns,
        if cs = [] then t.rowCount else rows⟩ := by
  induction cs generalizing t with
  | nil => simp [pure, Except.pure]
  | cons c cs ih =>
      have hc := hlength c (List.mem_cons_self ..)
      have hadd : t.addColumn c = .ok ⟨place ValueColumn.name c t.columns, rows⟩ := by
        rw [ValueTable.addColumn, hc]
        by_cases hsole : isSole ValueColumn.name c t.columns = true
        · rw [if_pos hsole]
        · have hrows : t.rowCount = rows := by
            refine ht.resolve_left fun hnil => hsole ?_
            rw [hnil, isSole]
          rw [if_neg hsole, if_pos hrows.symm, hrows]
      rw [List.foldlM_cons, hadd]
      refine (ih (.inr rfl) fun d hd => hlength d (List.mem_cons_of_mem c hd)).trans ?_
      simp only [ite_self, List.foldl_cons, reduceCtorEq, if_false]

-- The table as a table of the backend.
def on (t : ValueTable) : Backend → Table
  | .array => .array t
  | .columnar => .columnar t.toFrame

@[simp] theorem backend_on (b : Backend) : (t.on b).backend = b := by
  cases b <;> rfl

@[simp] theorem rowCount_on (b : Backend) : (t.on b).rowCount = t.rowCount := by
  cases b <;> rfl

@[simp] theorem columnNames_on (b : Backend) :
    (t.on b).columnNames = t.columns.map (·.name) := by
  cases b with
  | array => rfl
  | columnar =>
      simp only [on, Table.columnNames, toFrame, List.map_map]
      rfl

theorem cell?_on (h : ∀ c ∈ t.columns, ∃ σ, c.Holds σ) (b : Backend) (row column : Nat) :
    (t.on b).cell? row column = t.cell? row column := by
  cases b with
  | array => rfl
  | columnar => exact cell?_toFrame h row column

theorem ofColumns_on {cs : List ValueColumn} (hnames : (cs.map (·.name)).Nodup)
    (hok : ofColumns cs = .ok t) (b : Backend) : Table.ofColumns b cs = .ok (t.on b) := by
  cases b with
  | array => rw [Table.ofColumns, hok]; rfl
  | columnar => rw [Table.ofColumns, (ofColumns_toFrame cs hnames).1, hok]; rfl

end ValueTable

end TableFlow
