import TableFlow.Proofs.CellRange.Reading

namespace TableFlow

namespace CellReference

variable {r : CellReference} {i : CellIndex}

theorem map_ofNat_eq_iff {number : Option Nat} {word : Option UInt64}
    (h : ∀ n ∈ number, 0 < n ∧ n ≤ 2 ^ 64) :
    word = number.map (fun n => UInt64.ofNat (n - 1)) ↔ number = word.map (·.toNat + 1) := by
  cases number with
  | none => cases word <;> simp
  | some n =>
      obtain ⟨hpos, hle⟩ := h n rfl
      cases word with
      | none => simp
      | some w =>
          simp only [Option.map_some, Option.some_inj, ← UInt64.toNat_inj, UInt64.toNat_ofNat']
          rw [Nat.mod_eq_of_lt (by omega)]
          omega

theorem columnNumber?_pos (r : CellReference) : ∀ n ∈ r.columnNumber?, 0 < n := by
  intro n hn
  rw [columnNumber?] at hn
  split at hn <;> cases hn
  exact CellIndex.ofLetters_pos (r.column_written.resolve_left ‹_›)

-- The words for coordinates that fit are the coordinates.
theorem Fits.denotes_iff (h : r.Fits) : r.Denotes i ↔ i = r.index := by
  have hcolumn : i.column = r.columnNumber?.map (fun n => UInt64.ofNat (n - 1)) ↔
      r.columnNumber? = i.column.map (·.toNat + 1) :=
    map_ofNat_eq_iff fun n hn => ⟨r.columnNumber?_pos n hn, (h.1 n hn).le⟩
  have hrow : i.row = r.rowNumber?.map (fun n => UInt64.ofNat (n - 1)) ↔
      r.rowNumber? = i.row.map (·.toNat + 1) :=
    map_ofNat_eq_iff fun n hn => ⟨(h.2 n hn).1, (h.2 n hn).2.le⟩
  rw [Denotes, ← hcolumn, ← hrow, index]
  cases i
  rw [CellIndex.mk.injEq]

end CellReference

namespace CellIndex

-- A text is read as exactly the coordinates that it denotes, or refused if there are none.
def ReadsExactly (text : List Char) : Prop :=
  (∃ i, ofChars text = .ok i ∧ ∃ r : CellReference, text = r.chars ∧ r.Fits ∧ r.Denotes i) ∨
    (ofChars text = .error (.malformed (String.ofList text)) ∧
      ¬ ∃ r : CellReference, text = r.chars ∧ r.Fits)

theorem readsExactly_iff {text : List Char} :
    ReadsExactly text ↔ ∀ r : CellReference, text = r.chars → r.ColumnFits := by
  have hviolation : (¬ ∃ violation, ofChars text = .error (.violation violation)) ↔
      ∀ r : CellReference, text = r.chars → r.ColumnFits := by
    rw [ofChars_eq_violation_iff]
    simp only [not_exists, not_and, not_not]
  rw [← hviolation]
  constructor
  · rintro (⟨i, hread, -⟩ | ⟨hread, -⟩) ⟨violation, h⟩
    · cases hread.symm.trans h
    · cases hread.symm.trans h
  · intro h
    cases hread : ofChars text with
    | ok i =>
        obtain ⟨r, hchars, hfits, rfl⟩ := ofChars_eq_ok_iff.mp hread
        exact .inl ⟨_, hread, r, hchars, hfits, hfits.denotes_iff.mpr rfl⟩
    | error fault =>
        have hnone : ¬ ∃ r : CellReference, text = r.chars ∧ r.Fits := by
          rintro ⟨r, hchars, hfits⟩
          rw [ofChars_eq_ok_iff.mpr ⟨r, hchars, hfits, rfl⟩] at hread
          cases hread
        cases fault with
        | malformed part => exact .inr ⟨eq_of_ofChars_eq_malformed hread ▸ hread, hnone⟩
        | violation violation => exact absurd ⟨violation, hread⟩ h

end CellIndex

namespace CellRange

def ReadsExactly (text : String) : Prop :=
  (∃ r, parse text = .ok r ∧ ∃ a b, Spells text a b ∧ (a.Fits ∧ b.Fits) ∧
      a.Denotes r.start ∧ b.Denotes r.stop) ∨
    ((∃ corner, parse text = .error (.malformed corner)) ∧
      ¬ ∃ a b, Spells text a b ∧ a.Fits ∧ b.Fits)

theorem readsExactly_iff {text : String} :
    ReadsExactly text ↔ ∀ r, ReadsCorner text r → r.ColumnFits := by
  have hviolation : (¬ ∃ violation, parse text = .error (.violation violation)) ↔
      ∀ r, ReadsCorner text r → r.ColumnFits := by
    rw [parse_eq_violation_iff]
    simp only [not_exists, not_and, not_not]
  rw [← hviolation]
  constructor
  · rintro (⟨r, hread, -⟩ | ⟨⟨corner, hread⟩, -⟩) ⟨violation, h⟩
    · cases hread.symm.trans h
    · cases hread.symm.trans h
  · intro h
    cases hread : parse text with
    | ok r =>
        obtain ⟨a, b, hspells, hfits, rfl⟩ := parse_eq_ok_iff.mp hread
        exact .inl ⟨_, hread, a, b, hspells, hfits, hfits.1.denotes_iff.mpr rfl,
          hfits.2.denotes_iff.mpr rfl⟩
    | error fault =>
        have hnone : ¬ ∃ a b, Spells text a b ∧ a.Fits ∧ b.Fits := by
          rintro ⟨a, b, hspells, hfits⟩
          rw [parse_eq_ok_iff.mpr ⟨a, b, hspells, hfits, rfl⟩] at hread
          cases hread
        cases fault with
        | malformed corner => exact .inr ⟨⟨corner, hread⟩, hnone⟩
        | violation violation => exact absurd ⟨violation, hread⟩ h

open CellIndex

-- Which texts are read as what they denote, or refused: all but those with letters that are read and
-- have no word for their number. Such letters are a violation, whatever else is written; no two
-- letters are read as one column.
theorem exact_iff_columns_fit (text : String) (corner : List Char) :
    (CellIndex.ReadsExactly corner ↔ ∀ r : CellReference, corner = r.chars → r.ColumnFits) ∧
    (ReadsExactly text ↔ ∀ r, ReadsCorner text r → r.ColumnFits) ∧
    (∀ letters, IsLetters letters →
      ((∃ violation, columnOfLetters letters = .error violation) ↔ 2 ^ 64 ≤ ofLetters letters)) ∧
    ∀ letters other column, IsLetters letters → IsLetters other →
      columnOfLetters letters = .ok column → columnOfLetters other = .ok column →
        letters = other :=
  ⟨CellIndex.readsExactly_iff, readsExactly_iff, fun _ => columnOfLetters_eq_error_iff,
    fun _ _ _ => eq_of_columnOfLetters⟩

-- The letters whose number is the first one after `2 ^ 64`.
def wideLetters : List Char := "GKGWBYLWRXTLPQ".toList

theorem isLetters_wideLetters : IsLetters wideLetters := ⟨by decide, List.all_eq_true.mp rfl⟩

-- Two letters are read as their column, and the letters beyond the words as none.
theorem exact_iff_columns_fit_wide :
    CellIndex.ReadsExactly ['A', 'B', '1'] ∧
    (∃ violation, columnOfLetters wideLetters = .error violation) ∧
    columnOfLetters ['A', 'B'] ≠ columnOfLetters ['B', 'A'] := by
  obtain ⟨hcorner, -, hwide, hinj⟩ := exact_iff_columns_fit "AB1" ['A', 'B', '1']
  refine ⟨hcorner.mpr fun r hr => ?_, (hwide _ isLetters_wideLetters).mpr (by decide), fun h => ?_⟩
  · let cell : CellReference := ⟨['A', 'B'], ['1'], .inr ⟨by decide, List.all_eq_true.mp rfl⟩,
      .inr ⟨by decide, List.all_eq_true.mp rfl⟩⟩
    obtain rfl : cell = r := CellReference.chars_inj.mp hr
    rintro n hn
    cases hn
    decide
  · have hread : columnOfLetters ['A', 'B'] = .ok 27 := by decide
    have heq := hinj ['A', 'B'] ['B', 'A'] 27 ⟨by decide, List.all_eq_true.mp rfl⟩
      ⟨by decide, List.all_eq_true.mp rfl⟩ hread (h ▸ hread)
    cases heq

-- A cell beyond the words is a violation, although one with such a row is refused.
theorem wide_letters_overflow :
    parse "GKGWBYLWRXTLPQ1" = .error (.violation (.overflow .add)) ∧
    parse "A18446744073709551617" = .error (.malformed "A18446744073709551617") ∧
    ¬ ReadsExactly "GKGWBYLWRXTLPQ1" := by
  have hread : parse "GKGWBYLWRXTLPQ1" = .error (.violation (.overflow .add)) := by decide
  refine ⟨hread, by decide, ?_⟩
  rintro (⟨r, h, -⟩ | ⟨⟨corner, h⟩, -⟩)
  · cases hread.symm.trans h
  · cases hread.symm.trans h

end CellRange

end TableFlow
