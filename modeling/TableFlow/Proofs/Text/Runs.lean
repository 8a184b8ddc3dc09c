import Mathlib.Data.List.TakeWhile
import TableFlow.Text.Case

namespace TableFlow.Text

variable {p : Char → Bool} {front back before body after : List Char}

theorem takeWhile_append_of_head? (hfront : ∀ c ∈ front, p c = true)
    (hback : ∀ c ∈ back.head?, p c = false) : (front ++ back).takeWhile p = front := by
  rw [List.takeWhile_append_of_pos hfront]
  cases back with
  | nil => rw [List.takeWhile_nil, List.append_nil]
  | cons c back => rw [List.takeWhile_cons_of_neg (by simp [hback c rfl]), List.append_nil]

theorem dropWhile_append_of_head? (hfront : ∀ c ∈ front, p c = true)
    (hback : ∀ c ∈ back.head?, p c = false) : (front ++ back).dropWhile p = back := by
  rw [List.dropWhile_append_of_pos hfront]
  cases back with
  | nil => rfl
  | cons c back => rw [List.dropWhile_cons_of_neg (by simp [hback c rfl])]

theorem isDigit_bounds {c : Char} (h : c.isDigit = true) : 48 ≤ c.toNat ∧ c.toNat ≤ 57 := by
  obtain ⟨hlow, hhigh⟩ := Bool.and_eq_true_iff.mp h
  exact ⟨UInt32.le_iff_toNat_le.mp (of_decide_eq_true hlow),
    UInt32.le_iff_toNat_le.mp (of_decide_eq_true hhigh)⟩

-- Only the first occurrence is replaced, so what stands in front of it stays.
theorem replaceFirst_append_of_notMem {c : Char} (h : c ∉ front) (c' : Char) (back : List Char) :
    replaceFirst c c' (front ++ back) = front ++ replaceFirst c c' back := by
  induction front with
  | nil => rfl
  | cons d front ih =>
      obtain ⟨hd, hfront⟩ := not_or.mp (mt List.mem_cons.mpr h)
      rw [List.cons_append, replaceFirst, if_neg (Ne.symm hd), ih hfront, List.cons_append]

theorem replaceFirst_of_notMem {c : Char} (h : c ∉ body) (c' : Char) :
    replaceFirst c c' body = body := by
  have heq := replaceFirst_append_of_notMem h c' []
  rwa [replaceFirst, List.append_nil] at heq

theorem mem_replaceFirst_of_ne {c c' d : Char} (h : d ∈ body) (hd : d ≠ c) :
    d ∈ replaceFirst c c' body := by
  induction body with
  | nil => cases h
  | cons first body ih =>
      rw [replaceFirst]
      rcases List.mem_cons.mp h with rfl | h
      · rw [if_neg hd]
        exact List.mem_cons_self ..
      · split
        · exact List.mem_cons_of_mem c' h
        · exact List.mem_cons_of_mem first (ih h)

-- Trimming takes white space only.
theorem exists_trim (text : List Char) : ∃ before after, text = before ++ trim text ++ after ∧
    ∀ c ∈ before ++ after, isBlank c = true := by
  refine ⟨text.takeWhile isBlank, ((text.dropWhile isBlank).reverse.takeWhile isBlank).reverse,
    ?_, fun c hc => ?_⟩
  · rw [trim, List.append_assoc, ← List.reverse_append, List.takeWhile_append_dropWhile,
      List.reverse_reverse, List.takeWhile_append_dropWhile]
  · rcases List.mem_append.mp hc with hc | hc
    · exact List.mem_takeWhile_imp hc
    · exact List.mem_takeWhile_imp (List.mem_reverse.mp hc)

-- And it takes all of it, so that a text without white space is what is left.
theorem trim_append (hblank : ∀ c ∈ before ++ after, isBlank c = true) (hne : body ≠ [])
    (hbody : ∀ c ∈ body, isBlank c = false) : trim (before ++ body ++ after) = body := by
  have hbefore : ∀ c ∈ before, isBlank c = true := fun c hc =>
    hblank c (List.mem_append_left after hc)
  have hafter : ∀ c ∈ after.reverse, isBlank c = true := fun c hc =>
    hblank c (List.mem_append_right before (List.mem_reverse.mp hc))
  have hhead : ∀ c ∈ (body ++ after).head?, isBlank c = false := by
    obtain ⟨c, rest, rfl⟩ := List.exists_cons_of_ne_nil hne
    rintro c' hc
    cases hc
    exact hbody c (List.mem_cons_self ..)
  have hlast : ∀ c ∈ body.reverse.head?, isBlank c = false := fun c hc =>
    hbody c (List.mem_reverse.mp (List.mem_of_mem_head? hc))
  rw [trim, List.append_assoc, dropWhile_append_of_head? hbefore hhead, List.reverse_append,
    dropWhile_append_of_head? hafter hlast, List.reverse_reverse]

end TableFlow.Text
