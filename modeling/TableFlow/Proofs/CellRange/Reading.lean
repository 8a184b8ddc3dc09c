import TableFlow.Proofs.CellRange.Letters
import TableFlow.Proofs.Decimal.Notation
import TableFlow.Proofs.Except
import TableFlow.Proofs.Text.Runs

namespace TableFlow

-- A corner of a range as it is written: letters for the column and digits for the row, or an
-- asterisk for the last one.
structure CellReference where
  column : List Char
  row : List Char
  column_written : column = ['*'] ∨ CellIndex.IsLetters column
  row_written : row = ['*'] ∨ IsDigits row

namespace CellReference

variable (r : CellReference)

def chars : List Char := r.column ++ r.row

def columnNumber? : Option Nat :=
  if r.column = ['*'] then none else some (CellIndex.ofLetters r.column)

def rowNumber? : Option Nat := if r.row = ['*'] then none else some (Integer.ofDigits r.row)

-- The number of the row is a word, and there is a row of that number.
def RowFits : Prop := ∀ n ∈ r.rowNumber?, 0 < n ∧ n < 2 ^ 64

-- The number of the column is a word.
def ColumnFits : Prop := ∀ n ∈ r.columnNumber?, n < 2 ^ 64

def Fits : Prop := r.ColumnFits ∧ r.RowFits

-- The coordinates are the numbers that are written, counted from zero.
def Denotes (i : CellIndex) : Prop :=
  r.columnNumber? = i.column.map (·.toNat + 1) ∧ r.rowNumber? = i.row.map (·.toNat + 1)

-- The words for the coordinates.
def index : CellIndex :=
  ⟨r.columnNumber?.map fun n => UInt64.ofNat (n - 1), r.rowNumber?.map fun n => UInt64.ofNat (n - 1)⟩

end CellReference

-- Whether a text is one corner or two with a colon between them, with white space around.
def CellRange.Spells (text : String) (a b : CellReference) : Prop :=
  ∃ before body after, text.toList = before ++ body ++ after ∧
    (∀ c ∈ before ++ after, Text.isBlank c = true) ∧
    (body = a.chars ++ ':' :: b.chars ∨ (body = a.chars ∧ b = a))

theorem CellIndex.not_isDigit_of_isLetter {c : Char} (h : isLetter c = true) : c.isDigit = false := by
  have hbounds := toNat_bounds h
  refine Bool.eq_false_iff.mpr fun hdigit => ?_
  have hle := (Text.isDigit_bounds hdigit).2
  omega

namespace CellReference

variable {r r' : CellReference} {c : Char}

-- Corners are written with letters, digits and asterisks.
theorem mem_chars (h : c ∈ r.chars) : c = '*' ∨ CellIndex.isLetter c = true ∨ c.isDigit = true := by
  rcases List.mem_append.mp h with h | h
  · rcases r.column_written with hcolumn | hcolumn
    · rw [hcolumn] at h
      exact .inl (List.mem_singleton.mp h)
    · exact .inr (.inl (hcolumn.2 c h))
  · rcases r.row_written with hrow | hrow
    · rw [hrow] at h
      exact .inl (List.mem_singleton.mp h)
    · exact .inr (.inr (hrow.2 c h))

theorem chars_ne_nil (r : CellReference) : r.chars ≠ [] := by
  intro h
  obtain ⟨hcolumn, -⟩ := List.append_eq_nil_iff.mp h
  rcases r.column_written with hwritten | hwritten
  · simp [hcolumn] at hwritten
  · exact hwritten.1 hcolumn

theorem head?_row (r : CellReference) : ∀ c ∈ r.row.head?, CellIndex.isLetter c = false := by
  intro c hc
  rcases r.row_written with hrow | hrow
  · rw [hrow] at hc
    cases hc
    decide
  · refine Bool.eq_false_iff.mpr fun hletter => ?_
    have hdigit := hrow.2 c (List.mem_of_mem_head? hc)
    rw [CellIndex.not_isDigit_of_isLetter hletter] at hdigit
    cases hdigit

end CellReference

namespace CellIndex

variable {text : List Char} {i : CellIndex} {r : CellReference}

theorem isRow_iff : isRow text = true ↔ text = ['*'] ∨ IsDigits text := by
  simp [isRow, IsDigits]

theorem ne_star_of_isLetters (h : IsLetters text) : text ≠ ['*'] := by
  rintro rfl
  exact absurd (h.2 '*' (List.mem_singleton.mpr rfl)) (by decide)

theorem ne_star_of_isDigits (h : IsDigits text) : text ≠ ['*'] := by
  rintro rfl
  exact absurd (h.2 '*' (List.mem_singleton.mpr rfl)) (by decide)

theorem splitColumn_chars (r : CellReference) : splitColumn r.chars = (r.column, r.row) := by
  rcases r.column_written with hcolumn | hcolumn
  · rw [CellReference.chars, hcolumn]
    rfl
  · have htake := Text.takeWhile_append_of_head? hcolumn.2 r.head?_row
    have hdrop := Text.dropWhile_append_of_head? hcolumn.2 r.head?_row
    obtain ⟨c, rest, hcons⟩ := List.exists_cons_of_ne_nil hcolumn.1
    have hletter := hcolumn.2 c (by rw [hcons]; exact List.mem_cons_self ..)
    unfold splitColumn
    split
    next hstar =>
      rw [CellReference.chars, hcons] at hstar
      rw [(List.cons.inj hstar).1] at hletter
      exact absurd hletter (by decide)
    next => rw [CellReference.chars, htake, hdrop]

-- What has the form of a cell is the text of a corner.
theorem exists_chars_of_splitColumn (hcolumn : (splitColumn text).1 ≠ [])
    (hrow : isRow (splitColumn text).2 = true) : ∃ r : CellReference, text = r.chars := by
  have hwritten := isRow_iff.mp hrow
  revert hcolumn hwritten
  unfold splitColumn
  split
  next rest => exact fun _ hwritten => ⟨⟨['*'], rest, .inl rfl, hwritten⟩, rfl⟩
  next =>
    intro hcolumn hwritten
    have hletters : IsLetters (text.takeWhile isLetter) :=
      ⟨hcolumn, fun c hc => List.mem_takeWhile_imp hc⟩
    exact ⟨⟨_, _, .inr hletters, hwritten⟩, List.takeWhile_append_dropWhile.symm⟩

theorem readColumn_eq_ok_iff {column : Option UInt64} : readColumn r.column = .ok column ↔
    r.ColumnFits ∧ column = r.index.column := by
  rcases r.column_written with hstar | hletters
  · simp [CellReference.ColumnFits, CellReference.index, CellReference.columnNumber?, hstar,
      readColumn, eq_comm, pure, Except.pure]
  · have hstar := ne_star_of_isLetters hletters
    have hread : readColumn r.column = some <$> columnOfLetters r.column := if_neg hstar
    have hindex : r.index.column = some (UInt64.ofNat (ofLetters r.column - 1)) := by
      simp [CellReference.index, CellReference.columnNumber?, hstar]
    have hfits : r.ColumnFits ↔ ofLetters r.column < 2 ^ 64 := by
      simp [CellReference.ColumnFits, CellReference.columnNumber?, hstar]
    have hpos := ofLetters_pos hletters
    rw [hread, hindex, hfits]
    rcases columnOfLetters_cases hletters with ⟨found, hfound, hnumber, hlt⟩ | ⟨hle, op, hfound⟩
    · have hword : UInt64.ofNat (ofLetters r.column - 1) = found := by
        rw [hnumber, Nat.add_sub_cancel, UInt64.ofNat_toNat]
      rw [hfound, hword]
      exact ⟨fun h => ⟨hlt, (Except.ok.inj h).symm⟩, fun h => congrArg Except.ok h.2.symm⟩
    · rw [hfound]
      exact iff_of_false nofun fun h => by omega

theorem readColumn_eq_error_iff :
    (∃ violation, readColumn r.column = .error violation) ↔ ¬ r.ColumnFits := by
  cases hread : readColumn r.column with
  | ok column =>
      have hfits := (readColumn_eq_ok_iff.mp hread).1
      exact iff_of_false (fun ⟨_, h⟩ => nomatch h) fun h => h hfits
  | error violation =>
      refine iff_of_true ⟨violation, rfl⟩ fun hfits => ?_
      rw [readColumn_eq_ok_iff.mpr ⟨hfits, rfl⟩] at hread
      cases hread

theorem readRow?_eq_some_iff {row : Option UInt64} : readRow? r.row = some row ↔
    r.RowFits ∧ row = r.index.row := by
  rcases r.row_written with hstar | hdigits
  · simp [CellReference.RowFits, CellReference.index, CellReference.rowNumber?, hstar, readRow?,
      eq_comm]
  · have hstar := ne_star_of_isDigits hdigits
    simp only [readRow?, if_neg hstar, rowOfDigits?, CellReference.RowFits, CellReference.index,
      CellReference.rowNumber?, Option.mem_some_iff, forall_eq', Option.map_some]
    split
    next hfits => simp [hfits, eq_comm]
    next hfits => simp [hfits]

theorem ofChars_of_not_chars (h : ∀ r : CellReference, text ≠ r.chars) :
    ofChars text = .error (.malformed (String.ofList text)) := by
  have hform : ¬ ((splitColumn text).1 ≠ [] ∧ isRow (splitColumn text).2 = true) := by
    rintro ⟨hcolumn, hrow⟩
    obtain ⟨r, hr⟩ := exists_chars_of_splitColumn hcolumn hrow
    exact h r hr
  exact if_neg hform

theorem ofChars_chars (r : CellReference) : ofChars r.chars =
    match readColumn r.column, readRow? r.row with
    | .error violation, _ => .error (.violation violation)
    | .ok column, some row => .ok ⟨column, row⟩
    | .ok _, none => .error (.malformed (String.ofList r.chars)) := by
  have hcolumn : r.column ≠ [] := by
    rcases r.column_written with hstar | hletters
    · rw [hstar]
      decide
    · exact hletters.1
  rw [ofChars, splitColumn_chars]
  exact if_pos ⟨hcolumn, isRow_iff.mpr r.row_written⟩

-- A corner is read as the words for its coordinates, if its numbers fit.
theorem ofChars_eq_ok_iff :
    ofChars text = .ok i ↔ ∃ r : CellReference, text = r.chars ∧ r.Fits ∧ i = r.index := by
  constructor
  · intro hread
    by_cases hchars : ∃ r : CellReference, text = r.chars
    · obtain ⟨r, rfl⟩ := hchars
      rw [ofChars_chars] at hread
      split at hread
      next => cases hread
      next column row hcolumn hrow =>
        cases hread
        obtain ⟨hfits, rfl⟩ := readColumn_eq_ok_iff.mp hcolumn
        obtain ⟨hfits', rfl⟩ := readRow?_eq_some_iff.mp hrow
        exact ⟨r, rfl, ⟨hfits, hfits'⟩, rfl⟩
      next => cases hread
    · rw [ofChars_of_not_chars fun r hr => hchars ⟨r, hr⟩] at hread
      cases hread
  · rintro ⟨r, rfl, ⟨hcolumn, hrow⟩, rfl⟩
    rw [ofChars_chars, readColumn_eq_ok_iff.mpr ⟨hcolumn, rfl⟩, readRow?_eq_some_iff.mpr ⟨hrow, rfl⟩]

-- What is refused is named as a whole.
theorem eq_of_ofChars_eq_malformed {part : String} (h : ofChars text = .error (.malformed part)) :
    part = String.ofList text := by
  rw [ofChars] at h
  dsimp only at h
  split at h
  next =>
    split at h
    next => cases h
    next => cases h
    next =>
      cases h
      rfl
  next =>
    cases h
    rfl

-- Reading a corner is a violation if the number of its column is no word, whatever its row is.
theorem ofChars_eq_violation_iff : (∃ violation, ofChars text = .error (.violation violation)) ↔
    ∃ r : CellReference, text = r.chars ∧ ¬ r.ColumnFits := by
  constructor
  · rintro ⟨violation, hread⟩
    by_cases hchars : ∃ r : CellReference, text = r.chars
    · obtain ⟨r, rfl⟩ := hchars
      rw [ofChars_chars] at hread
      split at hread
      next hcolumn => exact ⟨r, rfl, readColumn_eq_error_iff.mp ⟨_, hcolumn⟩⟩
      next => cases hread
      next => cases hread
    · rw [ofChars_of_not_chars fun r hr => hchars ⟨r, hr⟩] at hread
      cases hread
  · rintro ⟨r, rfl, hfits⟩
    obtain ⟨violation, hcolumn⟩ := readColumn_eq_error_iff.mpr hfits
    refine ⟨violation, ?_⟩
    rw [ofChars_chars, hcolumn]

end CellIndex

namespace CellReference

variable {r r' : CellReference}

theorem takeWhile_chars (r : CellReference) :
    r.chars.takeWhile CellIndex.isLetter = if r.column = ['*'] then [] else r.column := by
  split
  next hstar => simp [chars, hstar, show CellIndex.isLetter '*' = false by decide]
  next hstar =>
    exact Text.takeWhile_append_of_head? (r.column_written.resolve_left hstar).2 r.head?_row

-- A corner can be told from its text.
theorem chars_inj : r.chars = r'.chars ↔ r = r' := by
  refine ⟨fun h => ?_, congrArg chars⟩
  have hcolumn : r.column = r'.column := by
    have htake := congrArg (List.takeWhile CellIndex.isLetter) h
    rw [takeWhile_chars, takeWhile_chars] at htake
    split at htake <;> split at htake
    next hstar hstar' => rw [hstar, hstar']
    next hstar' => exact absurd htake.symm (r'.column_written.resolve_left hstar').1
    next hstar _ => exact absurd htake (r.column_written.resolve_left hstar).1
    next => exact htake
  have hrow : r.row = r'.row := by
    rw [chars, chars, hcolumn] at h
    exact List.append_cancel_left h
  cases r
  cases r'
  cases hcolumn
  cases hrow
  rfl

theorem colon_notMem (r : CellReference) : ':' ∉ r.chars := by
  intro h
  rcases mem_chars h with h | h | h <;> exact absurd h (by decide)

theorem not_isBlank {c : Char} (h : c ∈ r.chars) : Text.isBlank c = false := by
  have hbounds : 42 ≤ c.toNat ∧ c.toNat ≤ 90 := by
    rcases mem_chars h with rfl | h | h
    · decide
    · have := CellIndex.toNat_bounds h
      omega
    · have := Text.isDigit_bounds h
      omega
  simp [Text.isBlank]
  omega

end CellReference

namespace CellRange

variable {a b : CellReference} {front back text : List Char} {r : CellRange}

theorem splitColon_append (h : ':' ∉ front) :
    splitColon (front ++ ':' :: back) = (front, some back) := by
  have hfront : ∀ c ∈ front, (c != ':') = true := fun c hc => bne_iff_ne.mpr (ne_of_mem_of_not_mem hc h)
  have hback : ∀ c ∈ (':' :: back).head?, (c != ':') = false := by
    rintro c hc
    cases hc
    rfl
  rw [splitColon, Text.dropWhile_append_of_head? hfront hback,
    Text.takeWhile_append_of_head? hfront hback]

theorem splitColon_of_notMem (h : ':' ∉ text) : splitColon text = (text, none) := by
  have hall : ∀ c ∈ text, (c != ':') = true := fun c hc => bne_iff_ne.mpr (ne_of_mem_of_not_mem hc h)
  rw [splitColon, List.dropWhile_eq_nil_iff.mpr hall]

-- A text without a colon is left as it is, and any other one is split at its first colon.
theorem splitColon_cases (text : List Char) :
    splitColon text = (text, none) ∨
      ∃ front back, text = front ++ ':' :: back ∧ splitColon text = (front, some back) := by
  by_cases h : ':' ∈ text
  · obtain ⟨front, back, rfl, hfront⟩ := List.eq_append_cons_of_mem h
    exact .inr ⟨front, back, rfl, splitColon_append hfront⟩
  · exact .inl (splitColon_of_notMem h)

theorem parse_of_corners {s : String} (h : splitColon (Text.trim s.toList) = (front, some back)) :
    parse s = do return ⟨← CellIndex.ofChars front, ← CellIndex.ofChars back⟩ := by
  rw [parse, h]

theorem parse_of_cell {s : String} (h : splitColon (Text.trim s.toList) = (text, none)) :
    parse s = do
      let cell ← CellIndex.ofChars text
      return ⟨cell, cell⟩ := by
  rw [parse, h]

theorem trim_of_spells {s : String} (h : Spells s a b) :
    Text.trim s.toList = a.chars ++ ':' :: b.chars ∨ (Text.trim s.toList = a.chars ∧ b = a) := by
  obtain ⟨before, body, after, hs, hblank, hbody⟩ := h
  have hchars (r : CellReference) : ∀ c ∈ r.chars, Text.isBlank c = false :=
    fun c hc => CellReference.not_isBlank hc
  rw [hs]
  rcases hbody with rfl | ⟨rfl, hb⟩
  · refine .inl (Text.trim_append hblank (by simp) fun c hc => ?_)
    rcases List.mem_append.mp hc with hc | hc
    · exact hchars a c hc
    · rcases List.mem_cons.mp hc with rfl | hc
      · decide
      · exact hchars b c hc
  · exact .inr ⟨Text.trim_append hblank a.chars_ne_nil (hchars a), hb⟩

theorem parse_of_spells {s : String} (h : Spells s a b) :
    parse s = .ok r ↔ (a.Fits ∧ b.Fits) ∧ r = ⟨a.index, b.index⟩ := by
  have hread (c : CellReference) (i : CellIndex) :
      CellIndex.ofChars c.chars = .ok i ↔ c.Fits ∧ i = c.index := by
    rw [CellIndex.ofChars_eq_ok_iff]
    constructor
    · rintro ⟨c', hchars, h⟩
      rwa [CellReference.chars_inj.mp hchars]
    · exact fun h => ⟨c, rfl, h⟩
  rcases trim_of_spells h with htrim | ⟨htrim, rfl⟩
  · have hsplit : splitColon (a.chars ++ ':' :: b.chars) = (a.chars, some b.chars) :=
      splitColon_append a.colon_notMem
    rw [← htrim] at hsplit
    simp only [parse_of_corners hsplit, bind_eq_ok_iff, hread]
    constructor
    · rintro ⟨start, ⟨hfits, rfl⟩, stop, ⟨hfits', rfl⟩, hr⟩
      cases hr
      exact ⟨⟨hfits, hfits'⟩, rfl⟩
    · rintro ⟨⟨hfits, hfits'⟩, rfl⟩
      exact ⟨_, ⟨hfits, rfl⟩, _, ⟨hfits', rfl⟩, rfl⟩
  · have hsplit := splitColon_of_notMem b.colon_notMem
    rw [← htrim] at hsplit
    simp only [parse_of_cell hsplit, bind_eq_ok_iff, htrim, hread]
    constructor
    · rintro ⟨cell, ⟨hfits, rfl⟩, hr⟩
      cases hr
      exact ⟨⟨hfits, hfits⟩, rfl⟩
    · rintro ⟨⟨hfits, -⟩, rfl⟩
      exact ⟨_, ⟨hfits, rfl⟩, rfl⟩

-- What is read has the written form of a range.
theorem exists_spells {s : String} (h : parse s = .ok r) : ∃ a b, Spells s a b := by
  obtain ⟨before, after, hs, hblank⟩ := Text.exists_trim s.toList
  rcases splitColon_cases (Text.trim s.toList) with hsplit | ⟨front, back, htrim, hsplit⟩
  · rw [parse_of_cell hsplit] at h
    obtain ⟨cell, hcell, -⟩ := exists_of_bind h
    obtain ⟨a, ha, -⟩ := CellIndex.ofChars_eq_ok_iff.mp hcell
    exact ⟨a, a, before, _, after, hs, hblank, .inr ⟨ha, rfl⟩⟩
  · rw [parse_of_corners hsplit] at h
    obtain ⟨start, hstart, h⟩ := exists_of_bind h
    obtain ⟨stop, hstop, -⟩ := exists_of_bind h
    obtain ⟨a, rfl, -⟩ := CellIndex.ofChars_eq_ok_iff.mp hstart
    obtain ⟨b, rfl, -⟩ := CellIndex.ofChars_eq_ok_iff.mp hstop
    exact ⟨a, b, before, _, after, hs, hblank, .inl htrim⟩

theorem parse_eq_ok_iff {s : String} : parse s = .ok r ↔
    ∃ a b, Spells s a b ∧ (a.Fits ∧ b.Fits) ∧ r = ⟨a.index, b.index⟩ := by
  constructor
  · intro h
    obtain ⟨a, b, hspells⟩ := exists_spells h
    exact ⟨a, b, hspells, (parse_of_spells hspells).mp h⟩
  · rintro ⟨a, b, hspells, h⟩
    exact (parse_of_spells hspells).mpr h

-- A corner that is read: the only one of a text, the one in front of the first colon, or the one
-- behind it if the one in front has been read.
def ReadsCorner (s : String) (r : CellReference) : Prop :=
  let body := Text.trim s.toList
  body = r.chars ∨ (∃ rest, body = r.chars ++ ':' :: rest) ∨
    ∃ first : CellReference, first.Fits ∧ body = first.chars ++ ':' :: r.chars

-- Reading a text is a violation if the number of a column is no word, in a corner that is read.
theorem parse_eq_violation_iff {s : String} :
    (∃ violation, parse s = .error (.violation violation)) ↔
      ∃ r, ReadsCorner s r ∧ ¬ r.ColumnFits := by
  rcases splitColon_cases (Text.trim s.toList) with hsplit | ⟨front, back, htrim, hsplit⟩
  · have hcorner (r : CellReference) : ReadsCorner s r ↔ Text.trim s.toList = r.chars := by
      refine ⟨?_, .inl⟩
      rintro (h | ⟨rest, h⟩ | ⟨first, -, h⟩)
      · exact h
      · rw [h, splitColon_append r.colon_notMem] at hsplit
        exact nomatch congrArg Prod.snd hsplit
      · rw [h, splitColon_append first.colon_notMem] at hsplit
        exact nomatch congrArg Prod.snd hsplit
    have hparse (violation : Violation) : parse s = .error (.violation violation) ↔
        CellIndex.ofChars (Text.trim s.toList) = .error (.violation violation) := by
      rw [parse_of_cell hsplit]
      cases CellIndex.ofChars (Text.trim s.toList) with
      | ok cell => exact iff_of_false nofun nofun
      | error fault => simp [bind, Except.bind]
    simp only [hparse, hcorner]
    exact CellIndex.ofChars_eq_violation_iff
  · have hcorner (r : CellReference) : ReadsCorner s r ↔ front = r.chars ∨
        (∃ first : CellReference, first.Fits ∧ front = first.chars) ∧ back = r.chars := by
      have hcolon {first : CellReference} {rest : List Char} :
          Text.trim s.toList = first.chars ++ ':' :: rest ↔ front = first.chars ∧ back = rest := by
        constructor
        · intro h
          rw [h, splitColon_append first.colon_notMem] at hsplit
          cases hsplit
          exact ⟨rfl, rfl⟩
        · rintro ⟨rfl, rfl⟩
          exact htrim
      have hsole : Text.trim s.toList ≠ r.chars := by
        intro h
        rw [h, splitColon_of_notMem r.colon_notMem] at hsplit
        cases hsplit
      simp only [ReadsCorner, hsole, false_or, hcolon, exists_and_left, exists_eq', and_true]
      refine or_congr_right ?_
      constructor
      · rintro ⟨first, hfits, hfront, hback⟩
        exact ⟨⟨first, hfits, hfront⟩, hback⟩
      · rintro ⟨⟨first, hfits, hfront⟩, hback⟩
        exact ⟨first, hfits, hfront, hback⟩
    have hfirst : (∃ i, CellIndex.ofChars front = .ok i) ↔
        ∃ first : CellReference, first.Fits ∧ front = first.chars := by
      constructor
      · rintro ⟨i, hi⟩
        obtain ⟨first, hfront, hfits, -⟩ := CellIndex.ofChars_eq_ok_iff.mp hi
        exact ⟨first, hfits, hfront⟩
      · rintro ⟨first, hfits, hfront⟩
        exact ⟨_, CellIndex.ofChars_eq_ok_iff.mpr ⟨first, hfront, hfits, rfl⟩⟩
    have hparse : (∃ violation, parse s = .error (.violation violation)) ↔
        (∃ violation, CellIndex.ofChars front = .error (.violation violation)) ∨
          (∃ i, CellIndex.ofChars front = .ok i) ∧
            ∃ violation, CellIndex.ofChars back = .error (.violation violation) := by
      rw [parse_of_corners hsplit]
      cases CellIndex.ofChars front with
      | error fault => simp [bind, Except.bind]
      | ok start =>
          cases CellIndex.ofChars back with
          | error fault => simp [bind, Except.bind]
          | ok stop => simp [bind, Except.bind, pure, Except.pure]
    rw [hparse, hfirst, CellIndex.ofChars_eq_violation_iff, CellIndex.ofChars_eq_violation_iff]
    simp only [hcorner]
    constructor
    · rintro (⟨r, hfront, hr⟩ | ⟨hfront, r, hback, hr⟩)
      · exact ⟨r, .inl hfront, hr⟩
      · exact ⟨r, .inr ⟨hfront, hback⟩, hr⟩
    · rintro ⟨r, hfront | ⟨hfront, hback⟩, hr⟩
      · exact .inl ⟨r, hfront, hr⟩
      · exact .inr ⟨hfront, r, hback, hr⟩

-- The corners can be told from the text.
theorem Spells.unique {s : String} {a' b' : CellReference} (h : Spells s a b)
    (h' : Spells s a' b') : a = a' ∧ b = b' := by
  have hsplit {a b : CellReference} (h : Spells s a b) :
      splitColon (Text.trim s.toList) = (a.chars, some b.chars) ∨
        (splitColon (Text.trim s.toList) = (a.chars, none) ∧ b = a) := by
    rcases trim_of_spells h with htrim | ⟨htrim, hb⟩
    · exact .inl (by rw [htrim, splitColon_append a.colon_notMem])
    · exact .inr ⟨by rw [htrim, splitColon_of_notMem a.colon_notMem], hb⟩
  rcases hsplit h with hab | ⟨hab, rfl⟩ <;> rcases hsplit h' with hab' | ⟨hab', rfl⟩
  · simpa [hab, CellReference.chars_inj] using hab'
  · simp [hab] at hab'
  · simp [hab] at hab'
  · simpa [hab, CellReference.chars_inj] using hab'

end CellRange

end TableFlow
