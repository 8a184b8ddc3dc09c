import TableFlow.Proofs.Decimal.Text
import TableFlow.Proofs.Series.Reading
import TableFlow.Proofs.Sql.Statements

namespace TableFlow

-- The values in a column are finite and of a scalar type, which is the type of the column.
def Column.Holds (c : Column) (σ : ScalarType) : Prop :=
  c.type.scalarType? = some σ ∧
    ∀ row v, c.value? row = some v → v.scalarType? = some σ ∧ v.isFinite = true

theorem Column.holds_array {c : ValueColumn} {σ : ScalarType} (h : c.Holds σ) :
    (Column.array c).Holds σ :=
  ⟨h.1, fun _ v hv =>
    (c.type.represents_of_scalarType? h.1 v).mp (h.2 v (List.mem_of_getElem? hv))⟩

-- A series has values of one type only.
theorem Column.holds_columnar {c : FrameColumn} {σ : ScalarType} (htype : c.type.scalarType? = some σ)
    (hfinite : ∀ row v, c.series.value? row = some v → v.isFinite = true) :
    (Column.columnar c).Holds σ := by
  refine ⟨htype, fun row v hv => ⟨?_, hfinite row v hv⟩⟩
  obtain ⟨cell, -, hcell⟩ := Option.bind_eq_some_iff.mp hv
  exact (DataType.scalarType?_of_cellValue? hcell).trans htype

namespace Table

def columns : Table → List Column
  | .array t => t.columns.map .array
  | .columnar f => f.columns.map .columnar

-- The columns have these types.
def Holds (t : Table) (types : List ScalarType) : Prop :=
  List.Forall₂ Column.Holds t.columns types

variable {t t' : Table} {types : List ScalarType}

theorem getElem?_columns (t : Table) (position : Nat) : t.columns[position]? = t.columnAt? position := by
  cases t <;> exact List.getElem?_map

theorem Holds.cell? (h : t.Holds types) {row column : Nat} {v : Value}
    (hv : t.cell? row column = some v) :
    ∃ σ, types[column]? = some σ ∧ v.scalarType? = some σ ∧ v.isFinite = true := by
  rw [cell?_eq, ← getElem?_columns] at hv
  obtain ⟨c, hc, hv⟩ := Option.bind_eq_some_iff.mp hv
  obtain ⟨hlt, rfl⟩ := List.getElem?_eq_some_iff.mp hc
  have hlength := List.Forall₂.length_eq h
  refine ⟨types[column], List.getElem?_eq_getElem (hlength ▸ hlt), ?_⟩
  exact (h.get hlt (hlength ▸ hlt)).2 row v hv

end Table

namespace Sql

theorem not_isNumeral_null : ¬ IsNumeral "NULL".toList := by
  have hdigit : ('N').isDigit = false := by decide
  rintro (h | ⟨rest, -, h⟩)
  · obtain ⟨c, rest, h, hc⟩ := h.exists_digit
    obtain rfl : 'N' = c := (List.cons.inj h).1
    simp [hdigit] at hc
  · exact absurd (List.cons.inj h).1 (by decide)

theorem cellToken_ne_null {σ : ScalarType} {v : Value} (htype : v.scalarType? = some σ)
    (hfinite : v.isFinite = true) : cellToken (some v) ≠ cellToken none := by
  have hnull {text : List Char} (h : IsNumeral text) : Token.word text ≠ .word "NULL".toList :=
    fun heq => not_isNumeral_null (Token.word.inj heq ▸ h)
  cases v with
  | boolean | text => exact Token.noConfusion
  | integer n => exact hnull (Integer.isNumeral_text n)
  | decimal d => exact hnull ((Decimal.isNumeral_text_iff d).mpr hfinite)
  | _ => cases htype

-- Among the values of one type, the token says which one it is.
theorem eq_of_cellToken {σ : ScalarType} {v v' : Value} (htype : v.scalarType? = some σ)
    (htype' : v'.scalarType? = some σ) (hfinite : v.isFinite = true) (hfinite' : v'.isFinite = true)
    (h : cellToken (some v) = cellToken (some v')) : v = v' := by
  have hword {text text' : String} (h : Token.word text.toList = .word text'.toList) :
      text = text' := String.toList_inj.mp (Token.word.inj h)
  cases v with
  | boolean b =>
      cases htype
      cases v' <;> cases htype'
      rename_i b'
      cases b <;> cases b' <;> first | rfl | cases h
  | text s =>
      cases htype
      cases v' <;> cases htype'
      rw [String.toList_inj.mp (Token.literal.inj h)]
  | integer n =>
      cases htype
      cases v' <;> cases htype'
      rw [Integer.text_inj.mp (hword h)]
  | decimal d =>
      cases htype
      cases v' <;> cases htype'
      rw [(Decimal.text_inj hfinite hfinite').mp (hword h)]
  | _ => cases htype

theorem length_separated {k : Nat} {parts : List (List Token)}
    (h : ∀ part ∈ parts, part.length = k) :
    (separated parts).length = parts.length * (k + 1) - 1 := by
  induction parts with
  | nil => simp [separated]
  | cons part parts ih =>
      rw [List.forall_mem_cons] at h
      rw [separated_cons, List.length_append, h.1, List.length_cons, Nat.succ_mul]
      split
      next hnil =>
        subst hnil
        simp
      next hne =>
        have hpos : 0 < parts.length * (k + 1) :=
          Nat.mul_pos (List.length_pos_iff.mpr hne) (Nat.succ_pos k)
        rw [List.length_cons, ih h.2]
        omega

-- Parts of one length are told apart.
theorem separated_inj {k : Nat} (hk : 0 < k) {parts parts' : List (List Token)}
    (h : ∀ part ∈ parts, part.length = k) (h' : ∀ part ∈ parts', part.length = k)
    (heq : separated parts = separated parts') : parts = parts' := by
  have hlength := congrArg List.length heq
  rw [length_separated h, length_separated h'] at hlength
  induction parts generalizing parts' with
  | nil =>
      cases parts' with
      | nil => rfl
      | cons part' parts' =>
          rw [List.length_nil, List.length_cons, Nat.succ_mul] at hlength
          omega
  | cons part parts ih =>
      cases parts' with
      | nil =>
          rw [List.length_nil, List.length_cons, Nat.succ_mul] at hlength
          omega
      | cons part' parts' =>
          rw [List.forall_mem_cons] at h h'
          rw [separated_cons, separated_cons] at heq
          obtain ⟨rfl, htail⟩ := List.append_inj heq (h.1.trans h'.1.symm)
          split at htail <;> split at htail
          next hnil hnil' => rw [hnil, hnil']
          next => cases htail
          next => cases htail
          next =>
            have hparts := (List.cons.inj htail).2
            have hlengths := congrArg List.length hparts
            rw [length_separated h.2, length_separated h'.2] at hlengths
            rw [ih h.2 h'.2 hparts hlengths]

theorem rowTokens_inj {row row' : List Token} (h : rowTokens row = rowTokens row') : row = row' := by
  have hcells {row : List Token} : ∀ part ∈ row.map (fun cell => [cell]), part.length = 1 := by
    simp
  have hseparated := List.append_cancel_right (List.cons.inj h).2
  exact List.map_injective_iff.mpr List.singleton_injective
    (separated_inj Nat.one_pos hcells hcells hseparated)

theorem length_rowTokens (row : List Token) : (rowTokens row).length = row.length * 2 - 1 + 2 := by
  have hcells : ∀ part ∈ row.map (fun cell => [cell]), part.length = 1 := by simp
  rw [rowTokens, parenthesized, List.length_cons, List.length_append, length_separated hcells,
    List.length_map]
  rfl

variable {t t' : Table} {types : List ScalarType} {name text : String}

theorem length_cells (t : Table) (row : Nat) : (cells t row).length = t.columnNames.length := by
  rw [cells, List.length_map, List.length_range]

-- Statements with the same text have the same tokens in their rows.
theorem cells_of_insertValues (hnames : t.columnNames = t'.columnNames)
    (h : insertValues t name = .ok text) (h' : insertValues t' name = .ok text) :
    t.rowCount = t'.rowCount ∧ ∀ row < t.rowCount, cells t row = cells t' row := by
  obtain ⟨rows, htext, hrows⟩ := exists_rows_of_insertValues h
  obtain ⟨rows', htext', hrows'⟩ := exists_rows_of_insertValues h'
  obtain rfl : rows = rows' := by
    rw [htext, hnames] at htext'
    exact (String.append_right_inj _).mp htext'
  have htokens := hrows.lex_eq.mp (hrows'.lex_iff.mpr trivial)
  have hlength (t : Table) : ∀ part ∈ ((List.range t.rowCount).map (cells t)).map rowTokens,
      part.length = t.columnNames.length * 2 - 1 + 2 := by
    intro part hpart
    obtain ⟨row, hrow, rfl⟩ := List.mem_map.mp hpart
    obtain ⟨index, -, rfl⟩ := List.mem_map.mp hrow
    rw [length_rowTokens, length_cells]
  have hrowTokens := separated_inj (Nat.succ_pos _) (hlength t) (hnames ▸ hlength t') htokens
  have hcells : (List.range t.rowCount).map (cells t) = (List.range t'.rowCount).map (cells t') :=
    List.map_injective_iff.mpr (fun _ _ => rowTokens_inj) hrowTokens
  have hcount : t.rowCount = t'.rowCount := by simpa using congrArg List.length hcells
  refine ⟨hcount, fun row hrow => ?_⟩
  rw [← hcount] at hcells
  exact List.map_inj_left.mp hcells row (List.mem_range.mpr hrow)

-- The texts of the cells say what is in them: tables with columns of the same names and types have
-- the same rows if the statements that insert them are the same.
theorem insertValues_inj (ht : t.Holds types) (ht' : t'.Holds types)
    (hnames : t.columnNames = t'.columnNames) (h : insertValues t name = .ok text)
    (h' : insertValues t' name = .ok text) :
    t.rowCount = t'.rowCount ∧
      ∀ row < t.rowCount, ∀ column, t.cell? row column = t'.cell? row column := by
  obtain ⟨hcount, hcells⟩ := cells_of_insertValues hnames h h'
  refine ⟨hcount, fun row hrow column => ?_⟩
  have htoken (hcolumn : column < t.columnNames.length) :
      cellToken (t.cell? row column) = cellToken (t'.cell? row column) := by
    have hrow := hcells row hrow
    rw [cells, cells, ← hnames] at hrow
    exact List.map_inj_left.mp hrow column (List.mem_range.mpr hcolumn)
  cases hv : t.cell? row column with
  | none =>
      cases hv' : t'.cell? row column with
      | none => rfl
      | some v' =>
          obtain ⟨σ, -, htype, hfinite⟩ := ht'.cell? hv'
          rw [hv, hv'] at htoken
          exact absurd (htoken (hnames ▸ Table.lt_of_cell? hv')).symm
            (cellToken_ne_null htype hfinite)
  | some v =>
      obtain ⟨σ, hσ, htype, hfinite⟩ := ht.cell? hv
      have htoken := htoken (Table.lt_of_cell? hv)
      rw [hv] at htoken
      cases hv' : t'.cell? row column with
      | none =>
          rw [hv'] at htoken
          exact absurd htoken (cellToken_ne_null htype hfinite)
      | some v' =>
          obtain ⟨σ', hσ', htype', hfinite'⟩ := ht'.cell? hv'
          obtain rfl : σ = σ' := Option.some.inj (hσ.symm.trans hσ')
          rw [hv'] at htoken
          rw [eq_of_cellToken htype htype' hfinite hfinite' htoken]

-- A text with quotes, marks and the word for an empty cell.
def remarks : ValueTable :=
  ⟨[⟨"n", .integer, [.integer 1]⟩, ⟨"a \"remark\"", .text, [.text "it's (NULL), '1'"]⟩], 1⟩

theorem insertValues_inj_remarks :
    insertValues (.array remarks) "t" = .ok
        "INSERT INTO \"t\" (\"n\",\"a \"remark\"\") VALUES (1,'it''s (NULL), ''1''')" ∧
      ∀ row < 1, ∀ column, (Table.array remarks).cell? row column =
        (Table.columnar remarks.toFrame).cell? row column := by
  have harray : (Table.array remarks).Holds [.integer, .text] :=
    .cons (Column.holds_array ⟨rfl, by decide⟩) (.cons (Column.holds_array ⟨rfl, by decide⟩) .nil)
  have hframe : (Table.columnar remarks.toFrame).Holds [.integer, .text] := by
    refine .cons (Column.holds_columnar rfl fun row v hv => ?_)
      (.cons (Column.holds_columnar rfl fun row v hv => ?_) .nil)
    all_goals
      obtain ⟨cell, -, hcell⟩ := Option.bind_eq_some_iff.mp hv
      cases hcell
      rfl
  have hinsert : insertValues (.array remarks) "t" = .ok
      "INSERT INTO \"t\" (\"n\",\"a \"remark\"\") VALUES (1,'it''s (NULL), ''1''')" := rfl
  exact ⟨hinsert, (insertValues_inj harray hframe rfl hinsert rfl).2⟩

end Sql

end TableFlow
