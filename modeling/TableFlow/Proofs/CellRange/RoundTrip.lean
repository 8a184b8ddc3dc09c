import TableFlow.Proofs.CellRange.Overflow

namespace TableFlow

namespace CellIndex

variable {i : CellIndex}

-- The coordinates that are given come before the last word.
def BelowLast (i : CellIndex) : Prop :=
  (∀ column ∈ i.column, column.toNat < 2 ^ 64 - 1) ∧ ∀ row ∈ i.row, row.toNat < 2 ^ 64 - 1

theorem toNat_add_one {word : UInt64} (h : word.toNat < 2 ^ 64 - 1) :
    (word + 1).toNat = word.toNat + 1 := by
  rw [UInt64.toNat_add, UInt64.toNat_one, Nat.mod_eq_of_lt (by omega)]

theorem columnText_written (h : i.BelowLast) :
    (columnText i.column).toList = ['*'] ∨ IsLetters (columnText i.column).toList := by
  cases hcolumn : i.column with
  | none => exact .inl rfl
  | some column =>
      rw [columnText, String.toList_ofList, toNat_add_one (h.1 column hcolumn)]
      exact .inr (isLetters_letters (Nat.succ_ne_zero _))

theorem rowText_written (i : CellIndex) :
    (rowText i.row).toList = ['*'] ∨ IsDigits (rowText i.row).toList := by
  cases i.row with
  | none => exact .inl rfl
  | some row => exact .inr (isDigits_repr _)

-- The text of a cell, as a corner.
def reference (i : CellIndex) (h : i.BelowLast) : CellReference :=
  ⟨(columnText i.column).toList, (rowText i.row).toList, columnText_written h, rowText_written i⟩

theorem chars_reference (h : i.BelowLast) : (i.reference h).chars = i.text.toList :=
  String.toList_append.symm

theorem denotes_reference (h : i.BelowLast) : (i.reference h).Denotes i := by
  constructor
  · rcases hcolumn : i.column with _ | column
    · simp [CellReference.columnNumber?, reference, hcolumn, columnText]
    · have hadd := toNat_add_one (h.1 column hcolumn)
      have hstar : letters (column.toNat + 1) ≠ ['*'] := by
        intro hstar
        have hletter := isLetter_of_mem_letters (column.toNat + 1) '*' (by rw [hstar]; simp)
        exact absurd hletter (by decide)
      simp [CellReference.columnNumber?, reference, hcolumn, columnText, hadd, hstar,
        ofLetters_letters]
  · rcases hrow : i.row with _ | row
    · simp [CellReference.rowNumber?, reference, hrow, rowText]
    · have hadd := toNat_add_one (h.2 row hrow)
      have hstar : (toString (row.toNat + 1)).toList ≠ ['*'] := by
        intro hstar
        have hdigit := (isDigits_repr (row.toNat + 1)).2 '*' (by rw [hstar]; simp)
        exact absurd hdigit (by decide)
      simp only [CellReference.rowNumber?, reference, hrow, rowText, hadd, if_neg hstar,
        Decimal.ofDigits_repr, Option.map_some]

end CellIndex

namespace CellReference

variable {r r' : CellReference} {i : CellIndex}

-- Numbers that fit are those of coordinates below the last word.
theorem Denotes.fits_iff (h : r.Denotes i) : r.Fits ↔ i.BelowLast := by
  obtain ⟨hcolumn, hrow⟩ := h
  rw [Fits, ColumnFits, RowFits, CellIndex.BelowLast, hcolumn, hrow]
  simp only [Option.mem_def, Option.map_eq_some_iff, forall_exists_index, and_imp,
    forall_apply_eq_imp_iff₂]
  refine and_congr (forall₂_congr fun _ _ => by omega) (forall₂_congr fun _ _ => by omega)

theorem column_eq_of_columnNumber? (h : r.columnNumber? = r'.columnNumber?) :
    r.column = r'.column := by
  rw [columnNumber?, columnNumber?] at h
  split at h <;> split at h
  next hstar hstar' => rw [hstar, hstar']
  next => cases h
  next => cases h
  next hstar hstar' =>
    exact (CellIndex.ofLetters_inj (r.column_written.resolve_left hstar)
      (r'.column_written.resolve_left hstar')).mp (Option.some.inj h)

end CellReference

namespace CellRange

def BelowLast (r : CellRange) : Prop := r.start.BelowLast ∧ r.stop.BelowLast

variable {r : CellRange}

theorem spells_text (h : r.BelowLast) :
    Spells r.text (r.start.reference h.1) (r.stop.reference h.2) := by
  refine ⟨[], r.text.toList, [], by simp, by simp, ?_⟩
  rw [CellIndex.chars_reference, CellIndex.chars_reference, text]
  split
  next hcell => simp only [hcell, and_self, or_true]
  next => exact .inl (by simp [String.toList_append])

theorem parse_text (h : r.BelowLast) : parse r.text = .ok r := by
  have hstart := CellIndex.denotes_reference h.1
  have hstop := CellIndex.denotes_reference h.2
  have hfits := hstart.fits_iff.mpr h.1
  have hfits' := hstop.fits_iff.mpr h.2
  refine (parse_of_spells (spells_text h)).mpr ⟨⟨hfits, hfits'⟩, ?_⟩
  rw [← hfits.denotes_iff.mp hstart, ← hfits'.denotes_iff.mp hstop]

-- A range is read back from its text. What is read from a text is read again from its own text, in
-- which the columns are spelled as they were.
theorem parse_text_round_trip :
    (∀ r : CellRange, r.BelowLast → parse r.text = .ok r) ∧
    ∀ (text : String) (r : CellRange), parse text = .ok r → ∃ a b, Spells text a b ∧
      parse r.text = .ok r ∧
        ∃ a' b', Spells r.text a' b' ∧ a'.column = a.column ∧ b'.column = b.column := by
  refine ⟨fun r h => parse_text h, fun text r hparse => ?_⟩
  obtain ⟨a, b, hspells, ⟨hfits, hfits'⟩, rfl⟩ := parse_eq_ok_iff.mp hparse
  have hstart : a.Denotes a.index := hfits.denotes_iff.mpr rfl
  have hstop : b.Denotes b.index := hfits'.denotes_iff.mpr rfl
  have hbelow : BelowLast ⟨a.index, b.index⟩ :=
    ⟨hstart.fits_iff.mp hfits, hstop.fits_iff.mp hfits'⟩
  refine ⟨a, b, hspells, parse_text hbelow, _, _, spells_text hbelow, ?_, ?_⟩
  · exact CellReference.column_eq_of_columnNumber?
      ((CellIndex.denotes_reference hbelow.1).1.trans hstart.1.symm)
  · exact CellReference.column_eq_of_columnNumber?
      ((CellIndex.denotes_reference hbelow.2).1.trans hstop.1.symm)

-- The cells in the last columns from AA10 on, up to the twelfth row.
def wide : CellRange := ⟨⟨some 26, some 9⟩, ⟨none, some 11⟩⟩

-- A text with white space and a zero before a number of a row: the letters are written again.
theorem parse_text_round_trip_wide :
    (wide.BelowLast ∧ parse wide.text = .ok wide) ∧
    parse " AA010:*12" = .ok wide ∧
    ∃ a b, Spells wide.text a b ∧ a.column = ['A', 'A'] ∧ b.column = ['*'] := by
  have hbelow : wide.BelowLast := by
    refine ⟨⟨?_, ?_⟩, ?_, ?_⟩ <;> rintro n hn <;> cases hn <;> decide
  have hparse : parse " AA010:*12" = .ok wide := by decide
  refine ⟨⟨hbelow, parse_text_round_trip.1 wide hbelow⟩, hparse, ?_⟩
  obtain ⟨a, b, hspells, -, h⟩ := parse_text_round_trip.2 _ _ hparse
  let start : CellReference :=
    ⟨['A', 'A'], ['0', '1', '0'], .inr ⟨by decide, List.all_eq_true.mp rfl⟩,
      .inr ⟨by decide, List.all_eq_true.mp rfl⟩⟩
  let stop : CellReference :=
    ⟨['*'], ['1', '2'], .inl rfl, .inr ⟨by decide, List.all_eq_true.mp rfl⟩⟩
  have hwritten : Spells " AA010:*12" start stop :=
    ⟨[' '], start.chars ++ ':' :: stop.chars, [], by decide, List.all_eq_true.mp rfl, .inl rfl⟩
  obtain ⟨rfl, rfl⟩ := hspells.unique hwritten
  exact h

end CellRange

end TableFlow
