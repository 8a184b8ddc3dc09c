import Mathlib.Data.List.Basic
import Mathlib.Data.Option.Basic

namespace TableFlow.Sql

inductive Token where
  | word (text : List Char)
  | identifier (name : List Char)
  | literal (text : List Char)
  | mark (sign : Char)
deriving DecidableEq

inductive Quote where
  | double
  | single

namespace Quote

def sign : Quote → Char
  | .double => '"'
  | .single => '\''

def token : Quote → List Char → Token
  | .double => .identifier
  | .single => .literal

theorem token_inj {q : Quote} {a b : List Char} : q.token a = q.token b ↔ a = b := by
  cases q <;> simp [token]

-- A text as it is written between quotes.
def doubled (q : Quote) (text : List Char) : List Char :=
  text.flatMap fun c => if c = q.sign then [c, c] else [c]

theorem doubled_cons (q : Quote) (c : Char) (text : List Char) :
    q.doubled (c :: text) = (if c = q.sign then [c, c] else [c]) ++ q.doubled text := rfl

theorem doubled_of_plain {q : Quote} {text : List Char} (h : q.sign ∉ text) :
    q.doubled text = text := by
  induction text with
  | nil => rfl
  | cons c text ih =>
      rw [List.mem_cons, not_or] at h
      rw [doubled_cons, if_neg (Ne.symm h.1), ih h.2, List.singleton_append]

end Quote

def isMark (c : Char) : Bool := c = '(' || c = ')' || c = ',' || c = ';'

def isWordPart (c : Char) : Bool := c ≠ '"' && c ≠ '\'' && !isMark c && !c.isWhitespace

def isWord (text : List Char) : Bool := !text.isEmpty && text.all isWordPart

theorem isWord_iff {text : List Char} :
    isWord text = true ↔ text ≠ [] ∧ ∀ c ∈ text, isWordPart c = true := by
  simp [isWord]

-- What the next sign belongs to.
inductive Reading where
  | between
  | word (text : List Char)
  | quoted (quote : Quote) (text : List Char)
  -- Behind a quote that ends the text, unless another one follows.
  | closed (quote : Quote) (text : List Char)

namespace Reading

-- The tokens that are complete at the end of the text.
def finish : Reading → Option (List Token)
  | .between => some []
  | .word text => some [.word text]
  | .quoted _ _ => none
  | .closed quote text => some [quote.token text]

-- The tokens that a sign completes where nothing has been started.
def start (c : Char) : List Token × Reading :=
  if c = '"' then ([], .quoted .double [])
  else if c = '\'' then ([], .quoted .single [])
  else if isMark c then ([.mark c], .between)
  else if c.isWhitespace then ([], .between)
  else ([], .word [c])

def step : Reading → Char → List Token × Reading
  | .between, c => start c
  | .word text, c =>
    if isWordPart c then ([], .word (text ++ [c])) else (.word text :: (start c).1, (start c).2)
  | .quoted quote text, c =>
    if c = quote.sign then ([], .closed quote text) else ([], .quoted quote (text ++ [c]))
  | .closed quote text, c =>
    if c = quote.sign then ([], .quoted quote (text ++ [c]))
    else (quote.token text :: (start c).1, (start c).2)

def run : Reading → List Char → Option (List Token)
  | r, [] => r.finish
  | r, c :: text => ((r.step c).2.run text).map ((r.step c).1 ++ ·)

end Reading

-- The tokens of a text, if it does not end between quotes.
def lex (text : List Char) : Option (List Token) := Reading.between.run text

-- A text that does not go on with what stands in front of it.
def Ends (text : List Char) : Prop := ∀ c ∈ text.head?, isMark c = true ∨ c.isWhitespace = true

theorem ends_nil : Ends [] := by simp [Ends]

theorem ends_cons {c : Char} {text : List Char} (h : isMark c = true ∨ c.isWhitespace = true) :
    Ends (c :: text) := by
  simpa [Ends] using h

variable {q : Quote} {n text rest : List Char} {tokens more : List Token}

theorem lex_cons (c : Char) (rest : List Char) :
    lex (c :: rest) = ((Reading.start c).2.run rest).map ((Reading.start c).1 ++ ·) := rfl

theorem lex_blank (rest : List Char) : lex (' ' :: rest) = lex rest := by
  have hstart : Reading.start ' ' = ([], .between) := rfl
  rw [lex_cons, hstart]
  simp [lex]

theorem lex_mark {c : Char} (h : isMark c = true) (rest : List Char) :
    lex (c :: rest) = (lex rest).map (.mark c :: ·) := by
  have hstart : Reading.start c = ([.mark c], .between) := by
    have hquotes : c ≠ '"' ∧ c ≠ '\'' := by
      constructor <;> rintro rfl <;> exact absurd h (by decide)
    rw [Reading.start, if_neg hquotes.1, if_neg hquotes.2, if_pos h]
  rw [lex_cons, hstart]
  rfl

-- A token is complete where the text does not go on with it.
theorem run_word (h : Ends rest) : (Reading.word n).run rest = (lex rest).map (.word n :: ·) := by
  cases rest with
  | nil => rfl
  | cons c rest =>
      have hpart : isWordPart c = false := by
        rcases h c rfl with h | h <;> simp [isWordPart, h]
      rw [lex_cons, Option.map_map]
      simp [Reading.run, Reading.step, hpart, Function.comp_def]

theorem run_closed (h : rest.head? ≠ some q.sign) :
    (Reading.closed q n).run rest = (lex rest).map (q.token n :: ·) := by
  cases rest with
  | nil => rfl
  | cons c rest =>
      have hc : c ≠ q.sign := by simpa using h
      rw [lex_cons, Option.map_map]
      simp [Reading.run, Reading.step, hc, Function.comp_def]

theorem Ends.head?_ne (h : Ends rest) (q : Quote) : rest.head? ≠ some q.sign := by
  intro hhead
  have hsign := h _ hhead
  cases q <;> exact absurd hsign (by decide)

theorem run_word_append (h : ∀ c ∈ n, isWordPart c = true) :
    (Reading.word text).run (n ++ rest) = (Reading.word (text ++ n)).run rest := by
  induction n generalizing text with
  | nil => simp
  | cons c n ih =>
      rw [List.forall_mem_cons] at h
      simp [Reading.run, Reading.step, h.1, ih h.2]

theorem lex_word (hword : isWord n = true) (h : Ends rest) :
    lex (n ++ rest) = (lex rest).map (.word n :: ·) := by
  obtain ⟨hne, hn⟩ := isWord_iff.mp hword
  obtain ⟨c, n, rfl⟩ := List.exists_cons_of_ne_nil hne
  rw [List.forall_mem_cons] at hn
  have hstart : Reading.start c = ([], .word [c]) := by
    have hpart := hn.1
    simp only [isWordPart, Bool.and_eq_true, Bool.not_eq_true', decide_eq_true_eq] at hpart
    simp [Reading.start, hpart]
  rw [List.cons_append, lex_cons, hstart, run_word_append hn.2, List.singleton_append, run_word h]
  simp [Function.comp_def]

theorem run_quoted_doubled : (Reading.quoted q text).run (q.doubled n ++ q.sign :: rest) =
    (Reading.closed q (text ++ n)).run rest := by
  induction n generalizing text with
  | nil => simp [Quote.doubled, Reading.run, Reading.step]
  | cons c n ih =>
      rw [Quote.doubled_cons]
      by_cases hc : c = q.sign
      · simp [hc, Reading.run, Reading.step, ih]
      · simp [hc, Reading.run, Reading.step, ih]

theorem lex_sign (rest : List Char) : lex (q.sign :: rest) = (Reading.quoted q []).run rest := by
  cases q <;> simp [lex_cons, Quote.sign, Reading.start]

theorem lex_quoted (h : Ends rest) :
    lex (q.sign :: (q.doubled n ++ q.sign :: rest)) = (lex rest).map (q.token n :: ·) := by
  rw [lex_sign, run_quoted_doubled, List.nil_append, run_closed (h.head?_ne q)]

-- What is read between quotes is a text that is written there with all quotes in it doubled. By
-- induction on what is still to be read, two signs at a time where a quote is doubled.
theorem exists_of_run_quoted (text rest : List Char)
    (h : (Reading.quoted q text).run rest = some tokens) :
    ∃ n rest' more, rest = q.doubled n ++ q.sign :: rest' ∧ rest'.head? ≠ some q.sign ∧
      tokens = q.token (text ++ n) :: more ∧ lex rest' = some more := by
  match rest with
  | [] => simp [Reading.run, Reading.finish] at h
  | c :: rest =>
      by_cases hc : c = q.sign
      · subst hc
        by_cases hhead : rest.head? = some q.sign
        · obtain ⟨rest, rfl⟩ : ∃ rest', rest = q.sign :: rest' := by
            cases rest with
            | nil => simp at hhead
            | cons c rest => exact ⟨rest, by simpa using hhead⟩
          have hrest : (Reading.quoted q (text ++ [q.sign])).run rest = some tokens := by
            simpa [Reading.run, Reading.step] using h
          obtain ⟨n, rest', more, rfl, hend, rfl, hmore⟩ := exists_of_run_quoted _ rest hrest
          exact ⟨q.sign :: n, rest', more, by simp [Quote.doubled_cons], hend, by simp, hmore⟩
        · have hrest : (Reading.closed q text).run rest = some tokens := by
            simpa [Reading.run, Reading.step] using h
          rw [run_closed hhead] at hrest
          obtain ⟨more, hmore, rfl⟩ := Option.map_eq_some_iff.mp hrest
          exact ⟨[], rest, more, rfl, hhead, by simp, hmore⟩
      · have hrest : (Reading.quoted q (text ++ [c])).run rest = some tokens := by
          simpa [Reading.run, Reading.step, hc] using h
        obtain ⟨n, rest', more, rfl, hend, rfl, hmore⟩ := exists_of_run_quoted _ rest hrest
        exact ⟨c :: n, rest', more, by simp [Quote.doubled_cons, hc], hend, by simp, hmore⟩

-- A text that starts with quotes is not the same text without doubling, unless more quotes follow.
theorem ne_of_doubled (k : Nat) (n rest' : List Char) (hend : rest.head? ≠ some q.sign) :
    n ++ q.sign :: rest ≠ List.replicate (k + 1) q.sign ++ q.doubled n ++ q.sign :: rest' := by
  induction n generalizing k with
  | nil =>
      intro h
      rw [List.nil_append, List.replicate_succ, List.cons_append, List.cons_append,
        List.cons.injEq] at h
      rw [h.2] at hend
      cases k <;> simp [Quote.doubled, List.replicate_succ] at hend
  | cons c n ih =>
      intro h
      rw [List.cons_append, List.replicate_succ, List.cons_append, List.cons_append,
        List.cons.injEq] at h
      obtain ⟨rfl, h⟩ := h
      refine ih (k + 1) ?_
      rw [h, Quote.doubled_cons, if_pos rfl]
      simp [List.replicate_succ']

theorem plain_of_doubled {rest' : List Char} (hend : rest.head? ≠ some q.sign)
    (h : n ++ q.sign :: rest = q.doubled n ++ q.sign :: rest') : q.sign ∉ n := by
  induction n with
  | nil => simp
  | cons c n ih =>
      rw [Quote.doubled_cons] at h
      by_cases hc : c = q.sign
      · subst hc
        have hne := ne_of_doubled 0 n rest' hend
        simp at h
        exact absurd h (by simpa using hne)
      · rw [if_neg hc] at h
        have htail := ih (List.cons.inj h).2
        simp [htail, Ne.symm hc]

-- A text that is put between quotes as it is reads back exactly if there is no quote in it.
theorem lex_plain_iff (h : Ends rest) :
    lex (q.sign :: (n ++ q.sign :: rest)) = some (q.token n :: more) ↔
      q.sign ∉ n ∧ lex rest = some more := by
  constructor
  · intro hlex
    rw [lex_sign] at hlex
    obtain ⟨n', rest', more', htext, -, htokens, hmore⟩ := exists_of_run_quoted [] _ hlex
    obtain ⟨hn, rfl⟩ := List.cons.inj htokens
    obtain rfl : n = n' := by simpa using Quote.token_inj.mp hn
    have hplain := plain_of_doubled (h.head?_ne q) htext
    rw [Quote.doubled_of_plain hplain] at htext
    obtain rfl : rest = rest' := by simpa using htext
    exact ⟨hplain, hmore⟩
  · rintro ⟨hplain, hmore⟩
    have hquoted := lex_quoted (q := q) (n := n) h
    rw [Quote.doubled_of_plain hplain, hmore] at hquoted
    exact hquoted

end TableFlow.Sql
