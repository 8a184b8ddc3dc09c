import TableFlow.Proofs.Decimal.Notation
import TableFlow.Proofs.Text.Runs

namespace TableFlow

def IsSign (text : List Char) : Prop := text = [] ∨ text = ['+'] ∨ text = ['-']

-- What begins with neither sign is taken as it is.
def IsUnsignedHead (text : List Char) : Prop := ∀ c ∈ text.head?, c ≠ '+' ∧ c ≠ '-'

theorem IsDigits.isUnsignedHead {text : List Char} (h : IsDigits text) : IsUnsignedHead text := by
  intro c hc
  have hdigit := h.2 c (List.mem_of_mem_head? hc)
  constructor <;> rintro rfl <;> exact absurd hdigit (by decide)

namespace Integer

variable {sign rest : List Char}

theorem takeSign_append (hsign : IsSign sign) (hrest : IsUnsignedHead rest) :
    takeSign (sign ++ rest) = (decide (sign = ['-']), rest) := by
  rcases hsign with rfl | rfl | rfl
  · rw [List.nil_append]
    unfold takeSign
    split
    next rest' => exact absurd rfl (hrest '-' rfl).2
    next rest' => exact absurd rfl (hrest '+' rfl).1
    next => rfl
  · rfl
  · rfl

theorem exists_takeSign (text : List Char) : ∃ sign, IsSign sign ∧ text = sign ++ (takeSign text).2 ∧
    (takeSign text).1 = decide (sign = ['-']) := by
  unfold takeSign
  split
  · exact ⟨['-'], .inr (.inr rfl), rfl, rfl⟩
  · exact ⟨['+'], .inr (.inl rfl), rfl, rfl⟩
  · exact ⟨[], .inl rfl, rfl, rfl⟩

-- A text is parsed as a word exactly if it is a sign or none and digits, and the word is their number.
theorem parse?_eq_some_iff {text : List Char} {n : Int64} : parse? text = some n ↔
    ∃ sign digits, text = sign ++ digits ∧ IsSign sign ∧ IsDigits digits ∧
      n.toInt = Decimal.signed (decide (sign = ['-'])) (ofDigits digits) := by
  unfold parse?
  constructor
  · intro h
    obtain ⟨sign, hsign, htext, hnegative⟩ := exists_takeSign text
    dsimp only at h
    split at h
    next hdigits =>
      rw [hnegative] at h
      exact ⟨sign, _, htext, hsign, ⟨hdigits.1, List.all_eq_true.mp hdigits.2⟩,
        ofInt?_eq_some_iff.mp h⟩
    next => cases h
  · rintro ⟨sign, digits, rfl, hsign, hdigits, hn⟩
    rw [takeSign_append hsign hdigits.isUnsignedHead]
    dsimp only
    rw [if_pos ⟨hdigits.1, List.all_eq_true.mpr hdigits.2⟩]
    exact ofInt?_eq_some_iff.mpr hn

theorem isText_iff {text : List Char} :
    isText text = true ↔ ∃ sign digits, text = sign ++ digits ∧ IsSign sign ∧ IsDigits digits := by
  constructor
  · intro h
    obtain ⟨sign, hsign, htext, -⟩ := exists_takeSign text
    obtain ⟨hne, hdigits⟩ := Bool.and_eq_true_iff.mp h
    exact ⟨sign, _, htext, hsign, of_decide_eq_true hne, List.all_eq_true.mp hdigits⟩
  · rintro ⟨sign, digits, rfl, hsign, hdigits⟩
    rw [isText, takeSign_append hsign hdigits.isUnsignedHead]
    exact Bool.and_eq_true_iff.mpr ⟨decide_eq_true hdigits.1, List.all_eq_true.mpr hdigits.2⟩

-- A plus sign in front of digits may be dropped.
theorem parse?_dropWhile {sign digits : List Char} (hsign : IsSign sign) (hdigits : IsDigits digits) :
    parse? ((sign ++ digits).dropWhile (· = '+')) = parse? (sign ++ digits) := by
  have hdrop : ([] ++ digits).dropWhile (· = '+') = digits :=
    Text.dropWhile_append_of_head? nofun fun c hc =>
      decide_eq_false (hdigits.isUnsignedHead c hc).1
  rw [List.nil_append] at hdrop
  rcases hsign with rfl | rfl | rfl
  · rw [List.nil_append, hdrop]
  · have hplus : (['+'] ++ digits).dropWhile (· = '+') = digits.dropWhile (· = '+') := rfl
    rw [hplus, hdrop, parse?, parse?, takeSign_append (.inr (.inl rfl)) hdigits.isUnsignedHead]
    have hnone := takeSign_append (.inl rfl) hdigits.isUnsignedHead
    rw [List.nil_append] at hnone
    rw [hnone]
    rfl
  · rfl

-- Reading is parsing: the texts of the form are those that can be parsed.
theorem ofText?_eq_parse? (text : String) : ofText? text = parse? text.toList := by
  rw [ofText?]
  split
  next h =>
    obtain ⟨sign, digits, htext, hsign, hdigits⟩ := isText_iff.mp h
    rw [htext, parse?_dropWhile hsign hdigits]
  next h =>
    symm
    rw [Option.eq_none_iff_forall_ne_some]
    intro n hn
    obtain ⟨sign, digits, htext, hsign, hdigits, -⟩ := parse?_eq_some_iff.mp hn
    exact h (isText_iff.mpr ⟨sign, digits, htext, hsign, hdigits⟩)

theorem ofText?_eq_some_iff {text : String} {n : Int64} : ofText? text = some n ↔
    ∃ sign digits, text.toList = sign ++ digits ∧ IsSign sign ∧ IsDigits digits ∧
      n.toInt = Decimal.signed (decide (sign = ['-'])) (ofDigits digits) := by
  rw [ofText?_eq_parse?]
  exact parse?_eq_some_iff

-- The text of a word is read as the word.
theorem ofText?_text (n : Int64) : ofText? (text n) = some n := by
  refine ofText?_eq_some_iff.mpr ⟨if n.toInt < 0 then ['-'] else [],
    (toString n.toInt.natAbs).toList, ?_, ?_, isDigits_repr _, ?_⟩
  · rw [text_eq, String.toList_append]
    simp only [decide_eq_true_eq]
    split <;> rfl
  · split
    · exact .inr (.inr rfl)
    · exact .inl rfl
  · rw [Decimal.ofDigits_repr]
    by_cases hneg : n.toInt < 0
    · rw [if_pos hneg, Decimal.signed, if_pos (by decide)]
      omega
    · rw [if_neg hneg, Decimal.signed, if_neg (by decide)]
      omega

end Integer

namespace Decimal

def isSeparator (c : Char) : Bool := c = ',' || c = '.'

-- Reads digits, or digits that may be missing, a separator and digits; then an exponent.
def readNumeral? (text : List Char) : Option Numeral :=
  let whole := text.takeWhile Char.isDigit
  match text.dropWhile Char.isDigit with
  | c :: rest =>
    if isSeparator c then
      let fraction := rest.takeWhile Char.isDigit
      if fraction = [] then none
      else (readExponent? (rest.dropWhile Char.isDigit)).map (⟨whole, fraction, ·⟩)
    else if whole = [] then none
    else (readExponent? (c :: rest)).map (⟨whole, [], ·⟩)
  | [] => if whole = [] then none else some ⟨whole, [], 0⟩

-- Reads a decimal at once: a sign or none, and a number that is followed by nothing.
def recognize? (text : List Char) : Option Decimal :=
  ((readNumeral? (Integer.takeSign text).2).map (·.toDecimal (Integer.takeSign text).1)).filter
    (·.isFinite)

-- An exponent as it is written: a letter, a sign or none, and digits.
structure ExponentPart where
  mark : Char
  sign : List Char
  digits : List Char
  mark_written : mark = 'e' ∨ mark = 'E'
  sign_written : IsSign sign
  digits_written : IsDigits digits

-- A number without a sign as it is written: digits, in front of them maybe a separator and more
-- digits or none, and behind them maybe an exponent.
structure UnsignedNumber where
  front : Option (List Char × Char)
  digits : List Char
  exponent : Option ExponentPart
  front_written : ∀ f ∈ front, (∀ c ∈ f.1, c.isDigit = true) ∧ isSeparator f.2 = true
  digits_written : IsDigits digits

-- A decimal as it is written.
structure Spelling where
  sign : List Char
  number : UnsignedNumber
  sign_written : IsSign sign

namespace ExponentPart

def chars (e : ExponentPart) : List Char := e.mark :: (e.sign ++ e.digits)

def value (e : ExponentPart) : Int := signed (decide (e.sign = ['-'])) (Integer.ofDigits e.digits)

theorem mark_not_isDigit (e : ExponentPart) : e.mark.isDigit = false := by
  rcases e.mark_written with h | h <;> rw [h] <;> decide

theorem mark_not_isSeparator (e : ExponentPart) : isSeparator e.mark = false := by
  rcases e.mark_written with h | h <;> rw [h] <;> decide

end ExponentPart

theorem not_isSeparator_of_isDigit {c : Char} (h : c.isDigit = true) : isSeparator c = false := by
  refine Bool.eq_false_iff.mpr fun hseparator => ?_
  rcases Bool.or_eq_true_iff.mp hseparator with hc | hc <;> rw [of_decide_eq_true hc] at h <;> cases h

theorem not_isDigit_of_isSeparator {c : Char} (h : isSeparator c = true) : c.isDigit = false := by
  refine Bool.eq_false_iff.mpr fun hdigit => ?_
  rw [not_isSeparator_of_isDigit hdigit] at h
  cases h

theorem not_isSeparator_of_isSign {sign : List Char} {c : Char} (h : IsSign sign) (hc : c ∈ sign) :
    isSeparator c = false := by
  rcases h with rfl | rfl | rfl
  · cases hc
  · rw [List.mem_singleton.mp hc]
    decide
  · rw [List.mem_singleton.mp hc]
    decide

section Reading

variable {text : List Char} {n : Int}

-- The end of the text or an exponent is read as its number.
theorem readExponent?_eq_some_iff : readExponent? text = some n ↔ ∃ e : Option ExponentPart,
    text = e.elim [] ExponentPart.chars ∧ n = e.elim 0 ExponentPart.value := by
  constructor
  · intro h
    cases text with
    | nil =>
        cases h
        exact ⟨none, rfl, rfl⟩
    | cons c rest =>
        obtain ⟨sign, hsign, hrest, hnegative⟩ := Integer.exists_takeSign rest
        rw [readExponent?] at h
        dsimp only at h
        split at h
        next hwritten =>
          cases h
          obtain ⟨hmark, hne, hdigits⟩ := hwritten
          refine ⟨some ⟨c, sign, _, hmark, hsign, hne, List.all_eq_true.mp hdigits⟩,
            congrArg (c :: ·) hrest, ?_⟩
          rw [hnegative]
          rfl
        next => cases h
  · rintro ⟨e, rfl, rfl⟩
    cases e with
    | none => rfl
    | some e =>
        have hdigits := e.digits_written
        simp only [Option.elim_some, ExponentPart.chars, readExponent?]
        rw [Integer.takeSign_append e.sign_written hdigits.isUnsignedHead]
        dsimp only
        rw [if_pos ⟨e.mark_written, hdigits.1, List.all_eq_true.mpr hdigits.2⟩]
        rfl

namespace UnsignedNumber

variable (u : UnsignedNumber)

-- What stands in front of the digits, and what stands behind them.
def frontChars : List Char := u.front.elim [] fun f => f.1 ++ [f.2]

def exponentChars : List Char := u.exponent.elim [] ExponentPart.chars

def chars : List Char := u.frontChars ++ u.digits ++ u.exponentChars

-- The digits on both sides of the separator.
def numeral : Numeral :=
  let exponent := u.exponent.elim 0 ExponentPart.value
  match u.front with
  | some (whole, _) => ⟨whole, u.digits, exponent⟩
  | none => ⟨u.digits, [], exponent⟩

theorem exponentChars_cases : u.exponentChars = [] ∨ ∃ e : ExponentPart, u.exponentChars = e.chars := by
  rw [exponentChars]
  cases u.exponent with
  | none => exact .inl rfl
  | some e => exact .inr ⟨e, rfl⟩

theorem head?_exponentChars : ∀ c ∈ u.exponentChars.head?, c.isDigit = false := by
  rcases u.exponentChars_cases with h | ⟨e, h⟩
  · rw [h]
    rintro c ⟨⟩
  · rw [h]
    rintro c ⟨⟩
    exact e.mark_not_isDigit

theorem not_isSeparator_exponentChars : ∀ c ∈ u.exponentChars, isSeparator c = false := by
  intro c hc
  rcases u.exponentChars_cases with h | ⟨e, h⟩
  · rw [h] at hc
    cases hc
  · rw [h] at hc
    rcases List.mem_cons.mp hc with rfl | hc
    · exact e.mark_not_isSeparator
    · rcases List.mem_append.mp hc with hc | hc
      · exact not_isSeparator_of_isSign e.sign_written hc
      · exact not_isSeparator_of_isDigit (e.digits_written.2 c hc)

end UnsignedNumber

theorem readNumeral?_chars (u : UnsignedNumber) :
    readNumeral? u.chars = some u.numeral := by
  have hdigits := u.digits_written
  have hexponent : readExponent? u.exponentChars = some (u.exponent.elim 0 ExponentPart.value) :=
    readExponent?_eq_some_iff.mpr ⟨u.exponent, rfl, rfl⟩
  have htake := Text.takeWhile_append_of_head? hdigits.2 u.head?_exponentChars
  have hdrop := Text.dropWhile_append_of_head? hdigits.2 u.head?_exponentChars
  rw [readNumeral?, UnsignedNumber.numeral]
  cases hfront : u.front with
  | none =>
      have hchars : u.chars = u.digits ++ u.exponentChars := by
        rw [UnsignedNumber.chars, UnsignedNumber.frontChars, hfront]
        rfl
      rw [hchars, htake, hdrop]
      split
      next c rest hrest =>
        have hseparator := u.not_isSeparator_exponentChars c (by rw [hrest]; simp)
        rw [if_neg (by simp [hseparator]), if_neg hdigits.1, ← hrest, hexponent]
        rfl
      next hnil =>
        rw [hnil] at hexponent
        rw [if_neg hdigits.1, ← Option.some.inj hexponent]
  | some f =>
      obtain ⟨hwhole, hseparator⟩ := u.front_written f hfront
      have hchars : u.chars = f.1 ++ f.2 :: (u.digits ++ u.exponentChars) := by
        simp [UnsignedNumber.chars, UnsignedNumber.frontChars, hfront]
      have hhead : ∀ c ∈ (f.2 :: (u.digits ++ u.exponentChars)).head?, c.isDigit = false := by
        rintro c ⟨⟩
        exact not_isDigit_of_isSeparator hseparator
      rw [hchars, Text.takeWhile_append_of_head? hwhole hhead,
        Text.dropWhile_append_of_head? hwhole hhead]
      dsimp only
      rw [if_pos hseparator, htake, if_neg hdigits.1, hdrop, hexponent]
      rfl

-- What is read has digits and an exponent behind them.
theorem exists_of_guarded_eq_some {digits rest : List Char} {f : Int → Numeral} {numeral : Numeral}
    (h : (if digits = [] then none else (readExponent? rest).map f) = some numeral) :
    digits ≠ [] ∧ ∃ n, readExponent? rest = some n ∧ f n = numeral := by
  split at h
  next => cases h
  next hne => exact ⟨hne, Option.map_eq_some_iff.mp h⟩

-- A text is read exactly if it is a number without a sign.
theorem readNumeral?_eq_some_iff {numeral : Numeral} :
    readNumeral? text = some numeral ↔
      ∃ u : UnsignedNumber, text = u.chars ∧ numeral = u.numeral := by
  refine ⟨fun h => ?_, ?_⟩
  · have hwhole : ∀ c ∈ text.takeWhile Char.isDigit, c.isDigit = true := fun c hc =>
      List.mem_takeWhile_imp hc
    have htext := List.takeWhile_append_dropWhile (p := Char.isDigit) (l := text)
    rw [readNumeral?] at h
    dsimp only at h
    generalize text.takeWhile Char.isDigit = whole at *
    split at h
    next c rest hrest =>
      rw [hrest] at htext
      split at h
      next hseparator =>
        obtain ⟨hne, n, hn, rfl⟩ := exists_of_guarded_eq_some h
        obtain ⟨e, he, rfl⟩ := readExponent?_eq_some_iff.mp hn
        refine ⟨⟨some (whole, c), rest.takeWhile Char.isDigit, e, ?_, hne, fun c hc =>
          List.mem_takeWhile_imp hc⟩, ?_, rfl⟩
        · rintro f ⟨⟩
          exact ⟨hwhole, hseparator⟩
        · have hrest := List.takeWhile_append_dropWhile (p := Char.isDigit) (l := rest)
          rw [he] at hrest
          simp [UnsignedNumber.chars, UnsignedNumber.frontChars, UnsignedNumber.exponentChars,
            hrest, htext]
      next =>
        obtain ⟨hne, n, hn, rfl⟩ := exists_of_guarded_eq_some h
        obtain ⟨e, he, rfl⟩ := readExponent?_eq_some_iff.mp hn
        refine ⟨⟨none, whole, e, nofun, hne, hwhole⟩, ?_, rfl⟩
        rw [← htext, he]
        rfl
    next hrest =>
      split at h
      next => cases h
      next hne =>
        cases h
        refine ⟨⟨none, whole, none, nofun, hne, hwhole⟩, ?_, rfl⟩
        rw [← htext, hrest]
        rfl
  · rintro ⟨u, rfl, rfl⟩
    exact readNumeral?_chars u

end Reading

-- A number without a sign begins with a digit or with a separator.
theorem UnsignedNumber.isUnsignedHead (u : UnsignedNumber) : IsUnsignedHead u.chars := by
  obtain ⟨digit, digits, hdigits⟩ := List.exists_cons_of_ne_nil u.digits_written.1
  have hdigit := u.digits_written.2 digit (by rw [hdigits]; simp)
  have hhead : ∀ c ∈ u.chars.head?, c.isDigit = true ∨ isSeparator c = true := by
    intro c hc
    rw [chars, frontChars, hdigits] at hc
    cases hfront : u.front with
    | none =>
        rw [hfront] at hc
        cases hc
        exact .inl hdigit
    | some f =>
        obtain ⟨hwhole, hseparator⟩ := u.front_written f hfront
        obtain ⟨whole, separator⟩ := f
        rw [hfront] at hc
        cases whole with
        | nil =>
            cases hc
            exact .inr hseparator
        | cons _ whole =>
            cases hc
            exact .inl (hwhole c (List.mem_cons_self ..))
  intro c hc
  rcases hhead c hc with h | h <;> constructor <;> rintro rfl <;> exact absurd h (by decide)

namespace Spelling

variable (w : Spelling)

def chars : List Char := w.sign ++ w.number.chars

def negative : Bool := decide (w.sign = ['-'])

end Spelling

end Decimal

end TableFlow
