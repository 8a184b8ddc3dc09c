import TableFlow.Proofs.Decimal.Numeral

namespace TableFlow

namespace Decimal

section Recognition

variable {text : List Char} {n : Int}

theorem property_isDigit {c : Char} (h : c.isDigit = true) : Text.Property.isDigit c = true := by
  have hlt : c.toNat < 128 := Nat.lt_of_le_of_lt (Text.isDigit_bounds h).2 (by decide)
  rw [Text.Property.isDigit, if_pos hlt, h]

theorem toLower_of_isDigit {c : Char} (h : c.isDigit = true) : c.toLower = c := by
  refine dif_neg fun hupper => ?_
  have hlow : 65 ≤ c.toNat := UInt32.le_iff_toNat_le.mp hupper.1
  have hhigh := (Text.isDigit_bounds h).2
  omega

theorem isExponent_of_readExponent? (h : readExponent? text = some n) :
    isExponent text = true := by
  obtain ⟨e, rfl, -⟩ := readExponent?_eq_some_iff.mp h
  cases e with
  | none => rfl
  | some e =>
      have hdigits := e.digits_written
      simp only [Option.elim_some, ExponentPart.chars, isExponent]
      rw [Integer.takeSign_append e.sign_written hdigits.isUnsignedHead]
      refine Bool.and_eq_true_iff.mpr ⟨Bool.and_eq_true_iff.mpr ⟨?_, decide_eq_true hdigits.1⟩, ?_⟩
      · simpa using e.mark_written
      · exact List.all_eq_true.mpr fun c hc => property_isDigit (hdigits.2 c hc)

theorem comma_notMem_of_isExponent (h : isExponent text = true) : ',' ∉ text := by
  cases text with
  | nil => exact List.not_mem_nil
  | cons c rest =>
      obtain ⟨hfront, hdigits⟩ := Bool.and_eq_true_iff.mp h
      have hmark := (Bool.and_eq_true_iff.mp hfront).1
      obtain ⟨sign, hsign, hrest, -⟩ := Integer.exists_takeSign rest
      rw [hrest]
      have hnotMark : ',' ≠ c := by
        rintro rfl
        cases hmark
      have hnotSign : ',' ∉ sign := fun hc =>
        absurd (not_isSeparator_of_isSign hsign hc) (by decide)
      have hnotDigits : ',' ∉ (Integer.takeSign rest).2 := fun hc =>
        absurd (List.all_eq_true.mp hdigits ',' hc) (by decide)
      exact List.not_mem_cons_of_ne_of_not_mem hnotMark (List.not_mem_append hnotSign hnotDigits)

theorem comma_notMem_of_isDigit (h : ∀ c ∈ text, c.isDigit = true) : ',' ∉ text := by
  intro hc
  cases h ',' hc

theorem exists_digits (text : List Char) : ∃ whole tail, text = whole ++ tail ∧
    (∀ c ∈ whole, c.isDigit = true) ∧ ∀ c ∈ tail.head?, c.isDigit = false := by
  refine ⟨text.takeWhile Char.isDigit, text.dropWhile Char.isDigit,
    List.takeWhile_append_dropWhile.symm, fun c hc => List.mem_takeWhile_imp hc, fun c hc => ?_⟩
  have hhead := List.head?_dropWhile_not Char.isDigit text
  rw [Option.mem_def.mp hc] at hhead
  simpa using hhead

theorem takeFraction_of_ne {c : Char} (h : c ≠ '.') (rest : List Char) :
    takeFraction (c :: rest) = ([], c :: rest) := by
  unfold takeFraction
  split
  next heq =>
    cases heq
    exact absurd rfl h
  next => rfl

-- A number of the form is read alike with a point for its comma. Its separator is the first
-- character that is no digit.
theorem readPointed?_replaceFirst (h : isUnsignedText text = true) :
    readPointed? (Text.replaceFirst ',' '.' text) = readNumeral? text := by
  obtain ⟨whole, tail, rfl, hwhole, htail⟩ := exists_digits text
  have hread {tail : List Char} (htail : ∀ c ∈ tail.head?, c.isDigit = false) :
      readPointed? (whole ++ tail) = if whole = [] ∧ (takeFraction tail).1 = [] then none
        else (readExponent? (takeFraction tail).2).map (⟨whole, (takeFraction tail).1, ·⟩) := by
    rw [readPointed?, Text.takeWhile_append_of_head? hwhole htail,
      Text.dropWhile_append_of_head? hwhole htail]
  rw [isUnsignedText, Text.takeWhile_append_of_head? hwhole htail,
    Text.dropWhile_append_of_head? hwhole htail] at h
  rw [readNumeral?, Text.takeWhile_append_of_head? hwhole htail,
    Text.dropWhile_append_of_head? hwhole htail,
    Text.replaceFirst_append_of_notMem (comma_notMem_of_isDigit hwhole)]
  cases tail with
  | nil =>
      have hne := of_decide_eq_true h
      dsimp only
      rw [Text.replaceFirst, hread htail, if_neg fun hnil => hne hnil.1, if_neg hne]
      rfl
  | cons c rest =>
      change (if isSeparator c = true then _ else _) = true at h
      dsimp only
      split at h
      next hseparator =>
        obtain ⟨hfraction, hexponent⟩ := Bool.and_eq_true_iff.mp h
        have hne := of_decide_eq_true hfraction
        have hrest : ',' ∉ rest := by
          rw [← List.takeWhile_append_dropWhile (p := Char.isDigit) (l := rest)]
          exact List.not_mem_append
            (comma_notMem_of_isDigit fun c hc => List.mem_takeWhile_imp hc)
            (comma_notMem_of_isExponent hexponent)
        have hpoint : Text.replaceFirst ',' '.' (c :: rest) = '.' :: rest := by
          rcases Bool.or_eq_true_iff.mp hseparator with hc | hc
          · rw [Text.replaceFirst, if_pos (of_decide_eq_true hc)]
          · obtain rfl : c = '.' := of_decide_eq_true hc
            rw [Text.replaceFirst, if_neg (by decide), Text.replaceFirst_of_notMem hrest]
        rw [hpoint, hread (by rintro c ⟨⟩; rfl), if_pos hseparator, if_neg hne, takeFraction,
          if_neg fun hnil => hne hnil.2]
      next hseparator =>
        obtain ⟨hwritten, hexponent⟩ := Bool.and_eq_true_iff.mp h
        have hne := of_decide_eq_true hwritten
        have hpoint : c ≠ '.' := by
          rintro rfl
          exact hseparator rfl
        rw [Text.replaceFirst_of_notMem (comma_notMem_of_isExponent hexponent), hread htail,
          takeFraction_of_ne hpoint, if_neg hseparator, if_neg hne, if_neg fun hnil => hne hnil.1]

-- What is read as a number has the form.
theorem isUnsignedText_of_readNumeral? {numeral : Numeral} (h : readNumeral? text = some numeral) :
    isUnsignedText text = true := by
  have hmatches {digits rest : List Char} {f : Int → Numeral}
      (hread : (if digits = [] then none else (readExponent? rest).map f) = some numeral) :
      (decide (digits ≠ []) && isExponent rest) = true := by
    obtain ⟨hne, n, hn, -⟩ := exists_of_guarded_eq_some hread
    exact Bool.and_eq_true_iff.mpr ⟨decide_eq_true hne, isExponent_of_readExponent? hn⟩
  rw [readNumeral?] at h
  dsimp only at h
  split at h
  next c rest hrest =>
    rw [isUnsignedText, hrest]
    change (if isSeparator c = true then _ else _) = true
    split at h
    next hseparator =>
      rw [if_pos hseparator]
      exact hmatches h
    next hseparator =>
      rw [if_neg hseparator]
      exact hmatches h
  next hrest =>
    rw [isUnsignedText, hrest]
    split at h
    next => cases h
    next hne => exact decide_eq_true hne

-- A number of the form has a digit, so it is none of the words.
theorem exists_isDigit_of_isUnsignedText (h : isUnsignedText text = true) :
    ∃ c ∈ text, c.isDigit = true := by
  have hmem {run : List Char} (hne : run.takeWhile Char.isDigit ≠ []) :
      ∃ c ∈ run, c.isDigit = true := by
    obtain ⟨c, rest, hc⟩ := List.exists_cons_of_ne_nil hne
    have hmem : c ∈ run.takeWhile Char.isDigit := by rw [hc]; exact List.mem_cons_self ..
    exact ⟨c, (List.takeWhile_sublist _).mem hmem, List.mem_takeWhile_imp hmem⟩
  rw [isUnsignedText] at h
  split at h
  next c rest hrest =>
    split at h
    next =>
      obtain ⟨digit, hdigit, hisDigit⟩ := hmem (of_decide_eq_true (Bool.and_eq_true_iff.mp h).1)
      have hsublist : rest <:+ text :=
        (List.suffix_cons c rest).trans (hrest ▸ List.dropWhile_suffix Char.isDigit)
      exact ⟨digit, hsublist.subset hdigit, hisDigit⟩
    next => exact hmem (of_decide_eq_true (Bool.and_eq_true_iff.mp h).1)
  next => exact hmem (of_decide_eq_true h)

theorem map_toLower_ne {word : List Char} (h : isUnsignedText text = true)
    (hword : word.any Char.isDigit = false) :
    (Text.replaceFirst ',' '.' text).map Char.toLower ≠ word := by
  rintro rfl
  obtain ⟨digit, hmem, hdigit⟩ := exists_isDigit_of_isUnsignedText h
  have hne : digit ≠ ',' := by
    rintro rfl
    cases hdigit
  have hlower : digit ∈ (Text.replaceFirst ',' '.' text).map Char.toLower :=
    List.mem_map.mpr ⟨digit, Text.mem_replaceFirst_of_ne hmem hne, toLower_of_isDigit hdigit⟩
  exact List.any_eq_false.mp hword digit hlower hdigit

-- The sign stands in front of the separator.
theorem takeSign_replaceFirst (text : List Char) :
    Integer.takeSign (Text.replaceFirst ',' '.' text) =
      ((Integer.takeSign text).1, Text.replaceFirst ',' '.' (Integer.takeSign text).2) := by
  cases text with
  | nil => rfl
  | cons c rest =>
      by_cases hminus : c = '-'
      · subst hminus
        rfl
      by_cases hplus : c = '+'
      · subst hplus
        rfl
      have hunsigned {c : Char} (rest : List Char) (hplus : c ≠ '+') (hminus : c ≠ '-') :
          Integer.takeSign (c :: rest) = (false, c :: rest) := by
        refine Integer.takeSign_append (.inl rfl) ?_
        rintro c ⟨⟩
        exact ⟨hplus, hminus⟩
      rw [hunsigned rest hplus hminus, Text.replaceFirst]
      split
      · exact hunsigned rest (by decide) (by decide)
      · exact hunsigned _ hplus hminus

-- Checking the form, replacing the comma and parsing recognize the spellings of decimals. The words
-- for infinity and NaN, which can be parsed, do not have the form, nor does a point at the end.
theorem ofText?_eq_recognize? (text : String) : ofText? text = recognize? text.toList := by
  rw [ofText?, recognize?]
  split
  next h =>
    rw [parse?, takeSign_replaceFirst]
    dsimp only
    rw [if_neg (map_toLower_ne h (by decide)),
      if_neg (not_or.mpr ⟨map_toLower_ne h (by decide), map_toLower_ne h (by decide)⟩),
      readPointed?_replaceFirst h]
  next h =>
    cases hread : readNumeral? (Integer.takeSign text.toList).2 with
    | none => rfl
    | some numeral => exact absurd (isUnsignedText_of_readNumeral? hread) h

end Recognition

-- A text is read exactly if it is a spelling whose decimal is finite.
theorem ofText?_eq_some_iff_exists {text : String} {d : Decimal} : ofText? text = some d ↔
    ∃ w : Spelling, text.toList = w.chars ∧ w.number.numeral.toDecimal w.negative = d ∧
      d.isFinite = true := by
  rw [ofText?_eq_recognize?, recognize?, Option.filter_eq_some_iff, Option.map_eq_some_iff]
  constructor
  · rintro ⟨⟨numeral, hread, rfl⟩, hfinite⟩
    obtain ⟨sign, hsign, htext, hnegative⟩ := Integer.exists_takeSign text.toList
    obtain ⟨u, hu, rfl⟩ := readNumeral?_eq_some_iff.mp hread
    refine ⟨⟨sign, u, hsign⟩, htext.trans (congrArg (sign ++ ·) hu), ?_, hfinite⟩
    rw [hnegative]
    rfl
  · rintro ⟨w, htext, rfl, hfinite⟩
    have hsign := Integer.takeSign_append w.sign_written w.number.isUnsignedHead
    refine ⟨⟨w.number.numeral, ?_, ?_⟩, hfinite⟩
    · rw [htext, Spelling.chars, hsign]
      exact readNumeral?_chars w.number
    · rw [htext, Spelling.chars, hsign]
      rfl

section Separators

variable {before after : List Char} {c c' : Char}

-- Only the character between the digits is a separator, so another one can stand for it.
theorem Spelling.exists_replaced (w : Spelling) (hc : isSeparator c = true)
    (hc' : isSeparator c' = true) (h : w.chars = before ++ c :: after) :
    ∃ w' : Spelling, w'.chars = before ++ c' :: after ∧ w'.negative = w.negative ∧
      w'.number.numeral = w.number.numeral := by
  obtain ⟨sign, ⟨front, digits, exponent, hfront, hdigits⟩, hsign⟩ := w
  have hnot {run : List Char} (hrun : ∀ c ∈ run, isSeparator c = false) : c ∉ run := by
    intro hmem
    rw [hrun c hmem] at hc
    cases hc
  have hnotSign : c ∉ sign := hnot fun _ => not_isSeparator_of_isSign hsign
  have hnotDigits {run : List Char} (hrun : ∀ c ∈ run, c.isDigit = true) : c ∉ run :=
    hnot fun c hmem => not_isSeparator_of_isDigit (hrun c hmem)
  have hbehind : c ∉ digits ++ exponent.elim [] ExponentPart.chars :=
    List.not_mem_append (hnotDigits hdigits.2)
      (hnot (UnsignedNumber.not_isSeparator_exponentChars ⟨front, digits, exponent, hfront, hdigits⟩))
  cases front with
  | none =>
      have hmem : c ∈ chars ⟨sign, ⟨none, digits, exponent, hfront, hdigits⟩, hsign⟩ := by
        rw [h]
        simp
      exact absurd hmem (List.not_mem_append hnotSign hbehind)
  | some f =>
      obtain ⟨hwhole, -⟩ := hfront f rfl
      have hparts : (sign ++ f.1) ++ f.2 ::
          (digits ++ exponent.elim [] ExponentPart.chars) = before ++ c :: after := by
        rw [← h]
        simp [chars, UnsignedNumber.chars, UnsignedNumber.frontChars, UnsignedNumber.exponentChars]
      obtain ⟨rfl, -, rfl⟩ := (List.append_cons_inj_of_notMem
        (List.not_mem_append hnotSign (hnotDigits hwhole)) hbehind).mp hparts
      refine ⟨⟨sign, ⟨some (f.1, c'), digits, exponent, ?_, hdigits⟩, hsign⟩, ?_, rfl, rfl⟩
      · rintro f' ⟨⟩
        exact ⟨hwhole, hc'⟩
      · simp [chars, UnsignedNumber.chars, UnsignedNumber.frontChars, UnsignedNumber.exponentChars]

-- A point and a comma are read alike, wherever they stand.
theorem ofText?_comma (before after : String) :
    ofText? (before ++ "," ++ after) = ofText? (before ++ "." ++ after) := by
  have himp (c c' : Char) (hc : isSeparator c = true) (hc' : isSeparator c' = true) (d : Decimal)
      (h : ofText? (before ++ String.singleton c ++ after) = some d) :
      ofText? (before ++ String.singleton c' ++ after) = some d := by
    obtain ⟨w, htext, hd, hfinite⟩ := ofText?_eq_some_iff_exists.mp h
    have hchars : w.chars = before.toList ++ c :: after.toList := by simpa using htext.symm
    obtain ⟨w', hchars', hnegative, hnumeral⟩ := w.exists_replaced hc hc' hchars
    refine ofText?_eq_some_iff_exists.mpr ⟨w', by simpa using hchars'.symm, ?_, hfinite⟩
    rw [hnegative, hnumeral, hd]
  ext d
  exact ⟨himp ',' '.' rfl rfl d, himp '.' ',' rfl rfl d⟩

end Separators

end Decimal

end TableFlow
