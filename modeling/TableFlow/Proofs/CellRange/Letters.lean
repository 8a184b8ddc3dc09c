import Mathlib.Algebra.Group.Nat.Defs
import Mathlib.Data.List.Induction
import TableFlow.CellRange

namespace TableFlow.CellIndex

def IsLetters (text : List Char) : Prop := text ≠ [] ∧ ∀ c ∈ text, isLetter c = true

-- What a letter is worth.
def letterValue (c : Char) : Nat := c.toNat - 'A'.toNat + 1

-- The number that letters spell. The first column has the number one.
def ofLetters (text : List Char) : Nat := text.foldl (fun n c => 26 * n + letterValue c) 0

variable {n : Nat} {c : Char} {text front : List Char}

theorem toNat_bounds (h : isLetter c = true) : 65 ≤ c.toNat ∧ c.toNat ≤ 90 := by
  obtain ⟨hlow, hhigh⟩ := of_decide_eq_true h
  exact ⟨hlow, hhigh⟩

theorem toNat_ofNat (h : n < 26) : (Char.ofNat ('A'.toNat + n)).toNat = 65 + n := by
  have hvalid : ('A'.toNat + n).isValidChar := .inl (by simp; omega)
  rw [Char.ofNat, dif_pos hvalid]
  rfl

theorem isLetter_ofNat (h : n < 26) : isLetter (Char.ofNat ('A'.toNat + n)) = true := by
  have hvalue := toNat_ofNat h
  refine decide_eq_true ⟨?_, ?_⟩
  · show 65 ≤ (Char.ofNat ('A'.toNat + n)).toNat
    omega
  · show (Char.ofNat ('A'.toNat + n)).toNat ≤ 90
    omega

theorem letterValue_bounds (h : isLetter c = true) : 0 < letterValue c ∧ letterValue c ≤ 26 := by
  have hbounds := toNat_bounds h
  have hA : 'A'.toNat = 65 := rfl
  rw [letterValue, hA]
  omega

@[simp]
theorem ofLetters_nil : ofLetters [] = 0 := rfl

theorem ofLetters_concat (text : List Char) (c : Char) :
    ofLetters (text ++ [c]) = 26 * ofLetters text + letterValue c := by
  rw [ofLetters, List.foldl_append]
  rfl

-- By induction on the division: the last letter is the remainder, counted from one.
theorem ofLetters_letters (n : Nat) : ofLetters (letters n) = n := by
  fun_induction letters n with
  | case1 => rfl
  | case2 n hn ih =>
      have hrest : (n - 1) % 26 < 26 := Nat.mod_lt _ (by decide)
      have hA : 'A'.toNat = 65 := rfl
      rw [ofLetters_concat, ih, letterValue, toNat_ofNat hrest, hA]
      omega

theorem isLetter_of_mem_letters (n : Nat) : ∀ c ∈ letters n, isLetter c = true := by
  fun_induction letters n with
  | case1 => simp
  | case2 n hn ih =>
      intro c hc
      rcases List.mem_append.mp hc with hc | hc
      · exact ih c hc
      · rw [List.mem_singleton.mp hc]
        exact isLetter_ofNat (Nat.mod_lt _ (by decide))

theorem isLetters_letters (hn : n ≠ 0) : IsLetters (letters n) := by
  refine ⟨fun hnil => hn ?_, isLetter_of_mem_letters n⟩
  rw [← ofLetters_letters n, hnil, ofLetters_nil]

-- By induction from the last letter, which the division by 26 gives back.
theorem letters_ofLetters (h : ∀ c ∈ text, isLetter c = true) : letters (ofLetters text) = text := by
  induction text using List.reverseRecOn with
  | nil => rw [ofLetters_nil, letters, dif_pos rfl]
  | append_singleton text c ih =>
      have hc := h c (by simp)
      have hbounds := toNat_bounds hc
      obtain ⟨hpos, hle⟩ := letterValue_bounds hc
      have hrest : (26 * ofLetters text + letterValue c - 1) / 26 = ofLetters text := by omega
      have hlast : (26 * ofLetters text + letterValue c - 1) % 26 = letterValue c - 1 := by omega
      have hletter : 'A'.toNat + (letterValue c - 1) = c.toNat := by
        have hA : 'A'.toNat = 65 := rfl
        rw [letterValue, hA]
        omega
      rw [ofLetters_concat, letters, dif_neg (by omega), hrest, hlast, hletter, Char.ofNat_toNat,
        ih fun c hc => h c (List.mem_append_left _ hc)]

-- No two spellings have one number.
theorem ofLetters_inj (h : IsLetters text) (h' : IsLetters front) :
    ofLetters text = ofLetters front ↔ text = front := by
  refine ⟨fun heq => ?_, congrArg ofLetters⟩
  rw [← letters_ofLetters h.2, heq, letters_ofLetters h'.2]

theorem ofLetters_pos (h : IsLetters text) : 0 < ofLetters text := by
  refine Nat.pos_of_ne_zero fun hzero => h.1 ?_
  rw [← letters_ofLetters h.2, hzero, letters, dif_pos rfl]

-- The result of an operation is its word, or there is none.
theorem checked_cases (op : WordOp) (n : Nat) :
    (∃ word, checked op n = .ok word ∧ word.toNat = n) ∨
      (2 ^ 64 ≤ n ∧ checked op n = .error (.overflow op)) := by
  by_cases h : n < 2 ^ 64
  · exact .inl ⟨_, if_pos h, UInt64.toNat_ofNat_of_lt' h⟩
  · exact .inr ⟨Nat.le_of_not_lt h, if_neg h⟩

-- The number in front is multiplied before the letter is added, and either can be too much.
theorem addLetter_cases (front : UInt64) (c : Char) :
    (∃ word, addLetter front c = .ok word ∧ word.toNat = 26 * front.toNat + letterValue c) ∨
      (2 ^ 64 ≤ 26 * front.toNat + letterValue c ∧
        ∃ op, addLetter front c = .error (.overflow op)) := by
  rcases checked_cases .multiply (front.toNat * 26) with ⟨shifted, hmul, hshifted⟩ | ⟨hle, hmul⟩
  · have hadd : addLetter front c = checked .add (shifted.toNat + letterValue c) := by
      rw [addLetter, hmul]
      rfl
    rw [hadd, hshifted, Nat.mul_comm]
    rcases checked_cases .add (26 * front.toNat + letterValue c) with h | ⟨hle, h⟩
    · exact .inl h
    · exact .inr ⟨hle, _, h⟩
  · refine .inr ⟨by omega, .multiply, ?_⟩
    rw [addLetter, hmul]
    rfl

-- By induction from the last letter: what has been built up is the number of the letters, as long as
-- that is a word.
theorem foldlM_addLetter_cases (text : List Char) :
    (∃ word, text.foldlM addLetter 0 = .ok word ∧ word.toNat = ofLetters text) ∨
      (2 ^ 64 ≤ ofLetters text ∧ ∃ op, text.foldlM addLetter 0 = .error (.overflow op)) := by
  induction text using List.reverseRecOn with
  | nil => exact .inl ⟨0, rfl, rfl⟩
  | append_singleton text c ih =>
      rw [ofLetters_concat]
      rcases ih with ⟨front, hfold, hfront⟩ | ⟨hle, op, hfold⟩
      · have hstep : (text ++ [c]).foldlM addLetter 0 = addLetter front c := by
          rw [List.foldlM_append, hfold]
          exact bind_pure (addLetter front c)
        rw [hstep, ← hfront]
        exact addLetter_cases front c
      · refine .inr ⟨by omega, op, ?_⟩
        rw [List.foldlM_append, hfold]
        rfl

-- Letters stand for the column of their number, if it is a word.
theorem columnOfLetters_cases (h : IsLetters text) :
    (∃ column, columnOfLetters text = .ok column ∧ ofLetters text = column.toNat + 1 ∧
        ofLetters text < 2 ^ 64) ∨
      (2 ^ 64 ≤ ofLetters text ∧ ∃ op, columnOfLetters text = .error (.overflow op)) := by
  rcases foldlM_addLetter_cases text with ⟨word, hfold, hword⟩ | ⟨hle, op, hfold⟩
  · have hpos := ofLetters_pos h
    have hlt := word.toNat_lt
    have hone : (1 : UInt64) ≤ word := UInt64.le_iff_toNat_le.mpr (by rw [UInt64.toNat_one]; omega)
    have hzero : word ≠ 0 := by
      rintro rfl
      rw [UInt64.toNat_zero] at hword
      omega
    refine .inl ⟨word - 1, ?_, ?_, by omega⟩
    · rw [columnOfLetters, hfold]
      exact if_neg hzero
    · rw [UInt64.toNat_sub_of_le _ _ hone, UInt64.toNat_one]
      omega
  · refine .inr ⟨hle, op, ?_⟩
    rw [columnOfLetters, hfold]
    rfl

theorem columnOfLetters_eq_ok_iff {column : UInt64} (h : IsLetters text) :
    columnOfLetters text = .ok column ↔
      ofLetters text = column.toNat + 1 ∧ ofLetters text < 2 ^ 64 := by
  rcases columnOfLetters_cases h with ⟨found, hread, hnumber, hlt⟩ | ⟨hle, op, hread⟩
  · rw [hread, Except.ok.injEq, ← UInt64.toNat_inj]
    omega
  · rw [hread]
    exact iff_of_false nofun (by omega)

theorem columnOfLetters_eq_error_iff (h : IsLetters text) :
    (∃ violation, columnOfLetters text = .error violation) ↔ 2 ^ 64 ≤ ofLetters text := by
  rcases columnOfLetters_cases h with ⟨found, hread, -, hlt⟩ | ⟨hle, op, hread⟩
  · rw [hread]
    exact iff_of_false (fun ⟨_, h⟩ => nomatch h) (by omega)
  · exact iff_of_true ⟨_, hread⟩ hle

-- No two spellings have one column.
theorem eq_of_columnOfLetters {column : UInt64} (h : IsLetters text) (h' : IsLetters front)
    (hread : columnOfLetters text = .ok column) (hread' : columnOfLetters front = .ok column) :
    text = front := by
  have hnumber := ((columnOfLetters_eq_ok_iff h).mp hread).1
  have hnumber' := ((columnOfLetters_eq_ok_iff h').mp hread').1
  exact (ofLetters_inj h h').mp (hnumber.trans hnumber'.symm)

end TableFlow.CellIndex
