import TableFlow.Table.Sql
import TableFlow.Proofs.Decimal.Notation
import TableFlow.Proofs.Except
import TableFlow.Proofs.Sql.Lexer
import TableFlow.Proofs.Table.Positions

namespace TableFlow.Sql

def separated (parts : List (List Token)) : List Token := [.mark ','].intercalate parts

def parenthesized (tokens : List Token) : List Token := .mark '(' :: (tokens ++ [.mark ')'])

def keywords (words : List String) : List Token := words.map fun word => .word word.toList

-- An insert statement up to its rows.
def insertTokens (name : String) (columns : List String) : List Token :=
  keywords ["INSERT", "INTO"] ++ [.identifier name.toList] ++
    parenthesized (separated (columns.map fun column => [.identifier column.toList])) ++
    keywords ["VALUES"]

def rowTokens (row : List Token) : List Token :=
  parenthesized (separated (row.map fun cell => [cell]))

def createTokens (name : String) (columns : List (String × SqlType)) : List Token :=
  keywords ["CREATE", "TABLE", "IF", "NOT", "EXISTS"] ++ [.identifier name.toList] ++
    parenthesized (separated (columns.map fun column =>
      [.identifier column.1.toList, .word column.2.name.toList])) ++ [.mark ';']

def dropTokens (name : String) : List Token :=
  keywords ["DROP", "TABLE", "IF", "EXISTS"] ++ [.identifier name.toList, .mark ';']

-- A token that stands for a value: nothing, a number or a text.
def Token.IsCell : Token → Prop
  | .word text => text = "NULL".toList ∨ IsNumeral text
  | .literal _ => True
  | .identifier _ | .mark _ => False

-- The text is a statement that inserts at least one row into the columns of a table.
def IsInsert (text : String) (name : String) (columns : List String) : Prop :=
  columns ≠ [] ∧ ∃ rows : List (List Token), rows ≠ [] ∧
    (∀ row ∈ rows, row.length = columns.length ∧ ∀ cell ∈ row, cell.IsCell) ∧
    lex text.toList = some (insertTokens name columns ++ separated (rows.map rowTokens))

def IsCreate (text : String) (name : String) (columns : List (String × SqlType)) : Prop :=
  lex text.toList = some (createTokens name columns)

def IsDrop (text : String) (name : String) : Prop := lex text.toList = some (dropTokens name)

-- Names that can be written as they are.
def IsPlain (name : String) : Prop := '"' ∉ name.toList

instance : DecidablePred IsPlain := fun name => inferInstanceAs (Decidable ('"' ∉ name.toList))

-- In front of what does not go on with it, a text is read as the tokens exactly under a condition.
def Reads (text : List Char) (tokens : List Token) (P : Prop) : Prop :=
  ∀ rest more, Ends rest → (lex (text ++ rest) = some (tokens ++ more) ↔ P ∧ lex rest = some more)

namespace Reads

variable {text text' : List Char} {tokens tokens' : List Token} {P Q : Prop}

theorem lex_iff (h : Reads text tokens P) : lex text = some tokens ↔ P := by
  have hend := h [] [] ends_nil
  simp only [List.append_nil] at hend
  rw [hend]
  exact and_iff_left rfl

theorem lex_eq (h : Reads text tokens True) {tokens' : List Token} :
    lex text = some tokens' ↔ tokens = tokens' := by
  rw [h.lex_iff.mpr trivial, Option.some.injEq]

theorem word (htext : isWord text = true) : Reads text [.word text] True := by
  intro rest more hrest
  rw [lex_word htext hrest]
  simp

theorem identifier (name : List Char) :
    Reads ('"' :: (name ++ ['"'])) [.identifier name] ('"' ∉ name) := by
  intro rest more hrest
  have hplain : lex (Quote.double.sign :: (name ++ Quote.double.sign :: rest)) =
      some (Quote.double.token name :: more) ↔ _ := lex_plain_iff hrest
  simpa [Quote.sign, Quote.token] using hplain

theorem literal (text : List Char) :
    Reads ('\'' :: (Quote.single.doubled text ++ ['\''])) [.literal text] True := by
  intro rest more hrest
  have hquoted := lex_quoted (q := .single) (n := text) hrest
  simp only [Quote.sign, Quote.token] at hquoted
  simp [hquoted]

theorem blank (h : Reads text tokens P) (h' : Reads text' tokens' Q) :
    Reads (text ++ ' ' :: text') (tokens ++ tokens') (P ∧ Q) := by
  intro rest more hrest
  have hfirst := h (' ' :: (text' ++ rest)) (tokens' ++ more) (ends_cons (by decide))
  rw [lex_blank, h' rest more hrest, ← and_assoc] at hfirst
  simpa using hfirst

theorem mark {c : Char} (hc : isMark c = true) (h : Reads text tokens P) :
    Reads (text ++ [c]) (tokens ++ [.mark c]) P := by
  intro rest more hrest
  have hfirst := h (c :: rest) (.mark c :: more) (ends_cons (.inl hc))
  rw [lex_mark hc] at hfirst
  simpa using hfirst

theorem parenthesized (h : Reads text tokens P) :
    Reads ('(' :: (text ++ [')'])) (parenthesized tokens) P := by
  intro rest more hrest
  have hclosed := h.mark (c := ')') (by decide) rest more hrest
  rw [List.cons_append, lex_mark (by decide), Sql.parenthesized]
  simpa using hclosed

-- Keywords, each with a blank behind it.
theorem keywords (h : Reads text tokens P) (words : List String)
    (hwords : (words.all fun word => isWord word.toList) = true) :
    Reads (words.flatMap (fun word => word.toList ++ [' ']) ++ text)
      (Sql.keywords words ++ tokens) P := by
  induction words with
  | nil => exact h
  | cons first words ih =>
      rw [List.all_cons, Bool.and_eq_true] at hwords
      intro rest more hrest
      have hread := ((word hwords.1).blank (ih hwords.2)) rest more hrest
      simpa [Sql.keywords] using hread

-- By induction on the parts.
theorem intercalate {α : Type} {texts : α → String} {parts : α → List Token} {P : α → Prop}
    {separator : String} (hseparator : separator = "," ∨ separator = ", ") (as : List α)
    (h : ∀ a ∈ as, Reads (texts a).toList (parts a) (P a)) :
    Reads (separator.intercalate (as.map texts)).toList (separated (as.map parts))
      (∀ a ∈ as, P a) := by
  have hlex (rest : List Char) :
      lex (separator.toList ++ rest) = (lex rest).map (.mark ',' :: ·) := by
    rcases hseparator with rfl | rfl
    · exact lex_mark (by decide) rest
    · have hblank : ", ".toList ++ rest = ',' :: ' ' :: rest := rfl
      rw [hblank, lex_mark (by decide), lex_blank]
  have hends (rest : List Char) : Ends (separator.toList ++ rest) := by
    rcases hseparator with rfl | rfl <;> exact ends_cons (by decide)
  rw [String.toList_intercalate, List.map_map]
  induction as with
  | nil =>
      intro rest more hrest
      simp [separated]
  | cons a as ih =>
      have hfirst := h a (List.mem_cons_self ..)
      have hothers := ih fun b hb => h b (List.mem_cons_of_mem a hb)
      cases as with
      | nil => simpa [separated] using hfirst
      | cons b as =>
          intro rest more hrest
          have hstep := hfirst (separator.toList ++
              (separator.toList.intercalate ((b :: as).map (String.toList ∘ texts)) ++ rest))
            (.mark ',' :: (separated ((b :: as).map parts) ++ more)) (hends _)
          have htail := hothers rest more hrest
          rw [hlex, Option.map_eq_some_iff] at hstep
          simp only [List.cons.injEq, true_and, exists_eq_right, htail] at hstep
          simp only [separated, List.map_cons, List.intercalate_cons_cons, List.append_assoc,
            List.cons_append, List.nil_append, Function.comp_apply] at hstep ⊢
          rw [hstep, List.forall_mem_cons (a := a), and_assoc]

end Reads

theorem reads_identifier (name : String) :
    Reads (identifier name).toList [.identifier name.toList] (IsPlain name) := by
  have hname := Reads.identifier name.toList
  rw [identifier, String.toList_append, String.toList_append]
  exact hname

theorem reads_columnNames (names : List String) :
    Reads (",".intercalate (names.map identifier)).toList
      (separated (names.map fun name => [.identifier name.toList]))
      (∀ name ∈ names, IsPlain name) :=
  Reads.intercalate (.inl rfl) names fun name _ => reads_identifier name

-- The columns with their types in SQL.
def sqlColumns (columns : List (String × ValueType)) : List (String × SqlType) :=
  columns.filterMap fun column => column.2.sqlType?.map fun type => (column.1, type)

def definitionText (column : String × SqlType) : String :=
  identifier column.1 ++ " " ++ column.2.name

theorem mapM_columnDefinition {columns : List (String × ValueType)} {texts : List String}
    (h : columns.mapM columnDefinition = .ok texts) :
    texts = (sqlColumns columns).map definitionText ∧
      (sqlColumns columns).map Prod.fst = columns.map Prod.fst := by
  induction columns generalizing texts with
  | nil =>
      cases h
      exact ⟨rfl, rfl⟩
  | cons column columns ih =>
      rw [List.mapM_cons] at h
      obtain ⟨text, htext, h⟩ := exists_of_bind h
      obtain ⟨texts, htexts, h⟩ := exists_of_bind h
      obtain ⟨ihtexts, ihnames⟩ := ih htexts
      rw [columnDefinition] at htext
      cases htype : column.2.sqlType? with
      | none => simp [htype] at htext
      | some type =>
          have hcolumns : sqlColumns (column :: columns) =
              (column.1, type) :: sqlColumns columns := by
            simp [sqlColumns, htype]
          rw [htype] at htext
          cases htext
          cases h
          rw [hcolumns, List.map_cons, List.map_cons, List.map_cons, ← ihtexts, ihnames]
          exact ⟨rfl, rfl⟩

theorem reads_definition (column : String × SqlType) :
    Reads (definitionText column).toList
      [.identifier column.1.toList, .word column.2.name.toList] (IsPlain column.1) := by
  have htype : Reads column.2.name.toList [.word column.2.name.toList] True := by
    cases column.2 <;> exact Reads.word (by decide)
  have hdefinition := (reads_identifier column.1).blank htype
  rw [definitionText, String.toList_append, String.toList_append, List.append_assoc]
  simpa using hdefinition

theorem reads_definitions (columns : List (String × SqlType)) :
    Reads (",".intercalate (columns.map definitionText)).toList
      (separated (columns.map fun column =>
        [.identifier column.1.toList, .word column.2.name.toList]))
      (∀ column ∈ columns, IsPlain column.1) :=
  Reads.intercalate (.inl rfl) columns fun column _ => reads_definition column

-- What a cell is read as.
def cellToken : Option Value → Token
  | none => .word "NULL".toList
  | some (.boolean b) => .literal (toString b).toList
  | some (.text text) => .literal text.toList
  | some value => .word value.render.toList

theorem isWordPart_of_isDigit {c : Char} (h : c.isDigit = true) : isWordPart c = true := by
  have hne {d : Char} (hd : d.isDigit = false) : c ≠ d := by
    rintro rfl
    simp [h] at hd
  have hmark : isMark c = false := by
    simp [isMark, hne (d := '(') (by decide), hne (d := ')') (by decide),
      hne (d := ',') (by decide), hne (d := ';') (by decide)]
  have hblank : c.isWhitespace = false := by
    simp [Char.isWhitespace, hne (d := ' ') (by decide), hne (d := '\t') (by decide),
      hne (d := '\r') (by decide), hne (d := '\n') (by decide)]
  simp [isWordPart, hmark, hblank, hne (d := '"') (by decide), hne (d := '\'') (by decide)]

theorem reads_numeral {text : List Char} (h : IsNumeral text) : Reads text [.word text] True := by
  have hdigits {digits : List Char} (h : IsDigits digits) : ∀ c ∈ digits, isWordPart c = true :=
    fun c hc => isWordPart_of_isDigit (h.2 c hc)
  have hunsigned {text : List Char} (h : IsUnsigned text) : ∀ c ∈ text, isWordPart c = true := by
    obtain ⟨whole, fraction, hwhole, rfl, hfraction⟩ := h
    intro c hc
    rcases List.mem_append.mp hc with hc | hc
    · exact hdigits hwhole c hc
    · rcases hfraction with rfl | ⟨digits, hfraction, rfl⟩
      · simp at hc
      · rcases List.mem_cons.mp hc with rfl | hc
        · decide
        · exact hdigits hfraction c hc
  rcases h with h | ⟨rest, h, rfl⟩
  · obtain ⟨c, rest, rfl, -⟩ := h.exists_digit
    exact Reads.word (isWord_iff.mpr ⟨by simp, hunsigned h⟩)
  · refine Reads.word (isWord_iff.mpr ⟨by simp, fun c hc => ?_⟩)
    rcases List.mem_cons.mp hc with rfl | hc
    · decide
    · exact hunsigned h c hc

-- Also what is not finite is written as a word.
theorem reads_number {value : Value} (h : value.isNumeric = true) :
    Reads value.render.toList [cellToken (some value)] True := by
  cases value with
  | integer n => exact reads_numeral (Integer.isNumeral_text n)
  | decimal d =>
      cases d with
      | nan =>
          have hnan : Reads "NaN".toList [.word "NaN".toList] True :=
            Reads.word (by decide)
          exact hnan
      | infinite negative => cases negative <;> exact Reads.word (by decide)
      | finite negative m e h => exact reads_numeral ((Decimal.isNumeral_text_iff _).mpr rfl)
  | _ => simp [Value.isNumeric] at h

theorem toList_quoted (text : String) :
    (quoted text).toList = '\'' :: (Quote.single.doubled text.toList ++ ['\'']) := by
  rw [quoted, String.toList_append, String.toList_append, String.toList_ofList,
    String.toList_ofList]
  rfl

-- A cell that can be written is empty, a boolean, a text or a number.
theorem cell_cases {column : String} {type : ValueType} {value : Option Value} {text : String}
    (h : cell column type value = .ok text) :
    (value = none ∧ text = "NULL") ∨
      (∃ b, value = some (.boolean b) ∧ text = "'" ++ toString b ++ "'") ∨
      (∃ s, value = some (.text s) ∧ text = quoted s) ∨
      ∃ number, value = some number ∧ number.isNumeric = true ∧ text = number.render := by
  cases value with
  | none =>
      cases h
      exact .inl ⟨rfl, rfl⟩
  | some value =>
      rw [cell] at h
      split at h
      next text' htext =>
        cases h
        obtain ⟨sqlType, -, hliteral⟩ := Option.bind_eq_some_iff.mp htext
        cases sqlType with
        | boolean =>
            obtain ⟨b, hb, rfl⟩ := Option.map_eq_some_iff.mp hliteral
            obtain rfl : value = .boolean b := by cases value <;> simp_all [Value.boolean?]
            exact .inr (.inl ⟨b, rfl, rfl⟩)
        | text =>
            obtain ⟨s, hs, rfl⟩ := Option.map_eq_some_iff.mp hliteral
            obtain rfl : value = .text s := by cases value <;> simp_all [Value.text?]
            exact .inr (.inr (.inl ⟨s, rfl, rfl⟩))
        | _ =>
            obtain ⟨hnumeric, hrender⟩ := Option.ite_none_right_eq_some.mp hliteral
            exact .inr (.inr (.inr ⟨value, rfl, hnumeric, (Option.some.inj hrender).symm⟩))
      next => simp at h

section Cell

variable {column : String} {type : ValueType} {value : Option Value} {text : String}

theorem reads_cell (h : cell column type value = .ok text) :
    Reads text.toList [cellToken value] True := by
  rcases cell_cases h with ⟨rfl, rfl⟩ | ⟨b, rfl, rfl⟩ | ⟨s, rfl, rfl⟩ | ⟨n, rfl, hnumeric, rfl⟩
  · exact Reads.word (by decide)
  · have hread := Reads.literal (toString b).toList
    rw [Quote.doubled_of_plain (by cases b <;> decide)] at hread
    simpa [cellToken] using hread
  · rw [toList_quoted]
    exact Reads.literal s.toList
  · exact reads_number hnumeric

theorem isCell_decimal_iff (d : Decimal) :
    (cellToken (some (.decimal d))).IsCell ↔ d.isFinite = true := by
  have hnumeral := Decimal.isNumeral_text_iff d
  by_cases hd : d.isFinite = true
  · exact iff_of_true (.inr (hnumeral.mpr hd)) hd
  · have hnull : d.text.toList ≠ "NULL".toList := by
      cases d with
      | nan negative => cases negative <;> decide
      | infinite negative => cases negative <;> decide
      | finite => exact absurd rfl hd
    exact iff_of_false (not_or.mpr ⟨hnull, mt hnumeral.mp hd⟩) hd

-- Only a number that is not finite is no value in SQL.
theorem isCell_of_finite (h : cell column type value = .ok text)
    (hfinite : ∀ d, value = some (.decimal d) → d.isFinite = true) : (cellToken value).IsCell := by
  rcases cell_cases h with ⟨rfl, -⟩ | ⟨b, rfl, -⟩ | ⟨s, rfl, -⟩ | ⟨n, rfl, hnumeric, -⟩
  · exact .inl rfl
  · trivial
  · trivial
  · cases n with
    | integer n => exact .inr (Integer.isNumeral_text n)
    | decimal d => exact (isCell_decimal_iff d).mpr (hfinite d rfl)
    | _ => simp [Value.isNumeric] at hnumeric

end Cell

-- What the cells of a row are read as.
def cells (t : Table) (row : Nat) : List Token :=
  (List.range t.columnNames.length).map fun column => cellToken (t.cell? row column)

theorem reads_tuple {t : Table} {row : Nat} {text : String} (h : tuple t row = .ok text) :
    Reads text.toList (rowTokens (cells t row)) True := by
  obtain ⟨texts, htexts, h⟩ := exists_of_bind h
  cases h
  obtain ⟨g, rfl, hg⟩ := exists_map_of_mapM htexts
  have hcells := Reads.intercalate (.inl rfl) t.columnTypes.zipIdx
    fun column hcolumn => reads_cell (hg column hcolumn)
  have htokens : t.columnTypes.zipIdx.map (fun column => [cellToken (t.cell? row column.2)]) =
      (cells t row).map fun token => [token] := by
    have hcount : t.columnTypes.length = t.columnNames.length := by
      rw [← Table.map_fst_columnTypes, List.length_map]
    have hindices : t.columnTypes.zipIdx.map Prod.snd = List.range t.columnNames.length := by
      rw [List.zipIdx_map_snd, hcount, List.range_eq_range']
    rw [cells, ← hindices, List.map_map, List.map_map]
    rfl
  simp only [htokens, implies_true] at hcells
  rw [String.toList_append, String.toList_append]
  exact hcells.parenthesized

theorem reads_insertTokens (name : String) (columns : List String) :
    Reads ("INSERT INTO " ++ identifier name ++ " (" ++ ",".intercalate (columns.map identifier) ++
        ") VALUES").toList
      (insertTokens name columns) (IsPlain name ∧ ∀ column ∈ columns, IsPlain column) := by
  have hvalues : Reads "VALUES".toList (keywords ["VALUES"]) True :=
    Reads.word (by decide)
  have hnames := (reads_identifier name).blank
    ((reads_columnNames columns).parenthesized.blank hvalues)
  have hread := hnames.keywords ["INSERT", "INTO"] (by decide)
  have hinsert : "INSERT INTO ".toList =
      ["INSERT", "INTO"].flatMap fun word => word.toList ++ [' '] := by decide
  have hopen : " (".toList = [' ', '('] := by decide
  have hclose : ") VALUES".toList = ')' :: ' ' :: "VALUES".toList := by decide
  simp only [insertTokens, String.toList_append, hinsert, hopen, hclose, and_true,
    List.append_assoc, List.cons_append, List.nil_append] at hread ⊢
  exact hread

-- The text up to the rows, which are read on their own.
def insertHead (name : String) (columns : List String) : String :=
  "INSERT INTO " ++ identifier name ++ " (" ++ ",".intercalate (columns.map identifier) ++ ") VALUES "

theorem exists_rows_of_insertValues {t : Table} {name text : String}
    (h : insertValues t name = .ok text) :
    ∃ rows : String, text = insertHead name t.columnNames ++ rows ∧
      Reads rows.toList (separated (((List.range t.rowCount).map (cells t)).map rowTokens)) True := by
  obtain ⟨texts, htexts, h⟩ := exists_of_bind h
  cases h
  obtain ⟨g, rfl, hg⟩ := exists_map_of_mapM htexts
  have hrows := Reads.intercalate (.inr rfl) (List.range t.rowCount)
    fun row hrow => reads_tuple (hg row hrow)
  simp only [implies_true] at hrows
  have hnames : t.columnTypes.map (fun column => identifier column.1) =
      t.columnNames.map identifier := by
    rw [← Table.map_fst_columnTypes, List.map_map]
    rfl
  rw [hnames, List.map_map]
  exact ⟨_, rfl, hrows⟩

-- The names and the rows are read separately.
theorem lex_insertValues {t : Table} {name text : String} (h : insertValues t name = .ok text)
    (tokens : List Token) :
    lex text.toList = some (insertTokens name t.columnNames ++ tokens) ↔
      (IsPlain name ∧ ∀ column ∈ t.columnNames, IsPlain column) ∧
        separated (((List.range t.rowCount).map (cells t)).map rowTokens) = tokens := by
  obtain ⟨rows, rfl, hrows⟩ := exists_rows_of_insertValues h
  have hread := reads_insertTokens name t.columnNames (' ' :: rows.toList) tokens
    (ends_cons (by decide))
  have hvalues : ") VALUES ".toList = ") VALUES".toList ++ [' '] := by decide
  rw [lex_blank, hrows.lex_eq] at hread
  rw [← hread]
  simp only [insertHead, String.toList_append, hvalues, List.append_assoc, List.cons_append,
    List.nil_append]

theorem separated_cons (part : List Token) (parts : List (List Token)) :
    separated (part :: parts) =
      part ++ if parts = [] then [] else .mark ',' :: separated parts := by
  cases parts with
  | nil => simp [separated]
  | cons part' parts =>
      rw [if_neg (List.cons_ne_nil part' parts), separated, List.intercalate_cons_cons,
        List.append_assoc]
      rfl

-- The tokens of the parts and the signs between them.
theorem mem_separated {token : Token} {parts : List (List Token)} :
    token ∈ separated parts ↔
      (token = .mark ',' ∧ 1 < parts.length) ∨ ∃ part ∈ parts, token ∈ part := by
  induction parts with
  | nil => simp [separated]
  | cons part parts ih =>
      rw [separated_cons, List.mem_append, List.exists_mem_cons_iff, List.length_cons]
      split
      next hnil => simp [hnil]
      next hne =>
        have hpos := List.length_pos_iff.mpr hne
        rw [List.mem_cons, ih]
        grind

theorem mem_rows {token : Token} {row : List Token} {rows : List (List Token)} (hrow : row ∈ rows)
    (htoken : token ∈ row) : token ∈ separated (rows.map rowTokens) := by
  have hcell : token ∈ separated (row.map fun cell => [cell]) :=
    mem_separated.mpr (.inr ⟨[token], List.mem_map_of_mem htoken, List.mem_cons_self ..⟩)
  refine mem_separated.mpr (.inr ⟨rowTokens row, List.mem_map_of_mem hrow, ?_⟩)
  simp [rowTokens, parenthesized, hcell]

theorem separated_rows_ne_nil {rows : List (List Token)} (h : rows ≠ []) :
    separated (rows.map rowTokens) ≠ [] := by
  obtain ⟨row, rows, rfl⟩ := List.exists_cons_of_ne_nil h
  exact List.ne_nil_of_mem (a := .mark '(') (mem_separated.mpr
    (.inr ⟨rowTokens row, List.mem_cons_self .., List.mem_cons_self ..⟩))

theorem isMark_or_exists_of_mem_rows {token : Token} {rows : List (List Token)}
    (h : token ∈ separated (rows.map rowTokens)) :
    (∃ sign, token = .mark sign) ∨ ∃ row ∈ rows, token ∈ row := by
  rcases mem_separated.mp h with ⟨rfl, -⟩ | ⟨_, hpart, htoken⟩
  · exact .inl ⟨_, rfl⟩
  obtain ⟨row, hrow, rfl⟩ := List.mem_map.mp hpart
  rw [rowTokens, parenthesized, List.mem_cons, List.mem_append, List.mem_singleton] at htoken
  rcases htoken with rfl | htoken | rfl
  · exact .inl ⟨_, rfl⟩
  · rcases mem_separated.mp htoken with ⟨rfl, -⟩ | ⟨_, hpart, htoken⟩
    · exact .inl ⟨_, rfl⟩
    · obtain ⟨cell, hcell, rfl⟩ := List.mem_map.mp hpart
      rw [List.mem_singleton] at htoken
      exact .inr ⟨row, hrow, htoken ▸ hcell⟩
  · exact .inl ⟨_, rfl⟩

theorem cellToken_mem_cells {t : Table} {row column : Nat} {value : Value}
    (h : t.cell? row column = some value) : cellToken (some value) ∈ cells t row :=
  List.mem_map.mpr ⟨column, List.mem_range.mpr (Table.lt_of_cell? h), by rw [h]⟩

-- All cells have been written.
theorem exists_cell_of_insertValues {t : Table} {name text : String}
    (h : insertValues t name = .ok text) {row column : Nat} (hrow : row < t.rowCount)
    (hcolumn : column < t.columnNames.length) :
    ∃ name type written, cell name type (t.cell? row column) = .ok written := by
  obtain ⟨texts, htexts, -⟩ := exists_of_bind h
  obtain ⟨g, -, hg⟩ := exists_map_of_mapM htexts
  obtain ⟨cells, hcells, -⟩ := exists_of_bind (hg row (List.mem_range.mpr hrow))
  obtain ⟨written, -, hwritten⟩ := exists_map_of_mapM hcells
  have hlength : column < t.columnTypes.length := by
    rwa [← Table.map_fst_columnTypes, List.length_map] at hcolumn
  exact ⟨_, _, _, hwritten (t.columnTypes[column], column)
    (List.mem_zipIdx_iff_getElem?.mpr (List.getElem?_eq_getElem hlength))⟩

theorem isCell_of_mem_cells {t : Table} {name text : String} (h : insertValues t name = .ok text)
    {row : Nat} (hrow : row < t.rowCount)
    (hfinite : ∀ column d, t.cell? row column = some (.decimal d) → d.isFinite = true)
    {token : Token} (htoken : token ∈ cells t row) : token.IsCell := by
  obtain ⟨column, hcolumn, rfl⟩ := List.mem_map.mp htoken
  obtain ⟨_, _, _, hcell⟩ := exists_cell_of_insertValues h hrow (List.mem_range.mp hcolumn)
  exact isCell_of_finite hcell (hfinite column)

section Statements

variable {t : Table} {name text : String}

theorem isInsert_iff (h : insertValues t name = .ok text) :
    IsInsert text name t.columnNames ↔
      t.columnNames ≠ [] ∧ IsPlain name ∧ (∀ column ∈ t.columnNames, IsPlain column) ∧
        t.rowCount ≠ 0 ∧
        ∀ row < t.rowCount, ∀ column d, t.cell? row column = some (.decimal d) →
          d.isFinite = true := by
  have hlex (rows : List (List Token)) := lex_insertValues h (separated (rows.map rowTokens))
  constructor
  · rintro ⟨hcolumns, rows, hne, hshape, hread⟩
    obtain ⟨hplain, hsame⟩ := (hlex rows).mp hread
    refine ⟨hcolumns, hplain.1, hplain.2, fun hcount => ?_, fun row hrow column d hcell => ?_⟩
    · rw [hcount] at hsame
      exact separated_rows_ne_nil hne hsame.symm
    · have htoken := mem_rows (List.mem_map_of_mem (List.mem_range.mpr hrow))
        (cellToken_mem_cells hcell)
      rw [hsame] at htoken
      rcases isMark_or_exists_of_mem_rows htoken with ⟨sign, hmark⟩ | ⟨row', hrow', htoken⟩
      · cases hmark
      · exact (isCell_decimal_iff d).mp ((hshape row' hrow').2 _ htoken)
  · rintro ⟨hcolumns, hname, hnames, hcount, hfinite⟩
    refine ⟨hcolumns, (List.range t.rowCount).map (cells t), by simpa using hcount,
      fun row hrow => ?_, (hlex _).mpr ⟨⟨hname, hnames⟩, rfl⟩⟩
    obtain ⟨index, hindex, rfl⟩ := List.mem_map.mp hrow
    rw [List.mem_range] at hindex
    exact ⟨by rw [cells, List.length_map, List.length_range], fun token htoken =>
      isCell_of_mem_cells h hindex (hfinite index hindex) htoken⟩

theorem isCreate_iff (h : createTable t name = .ok text) :
    IsCreate text name (sqlColumns t.columnTypes) ↔
      IsPlain name ∧ ∀ column ∈ t.columnNames, IsPlain column := by
  obtain ⟨texts, htexts, h⟩ := exists_of_bind h
  cases h
  obtain ⟨rfl, hnames⟩ := mapM_columnDefinition htexts
  have hcolumns := (reads_definitions (sqlColumns t.columnTypes)).parenthesized
  have hread := ((((reads_identifier name).blank hcolumns).mark (c := ';') (by decide)).keywords
    ["CREATE", "TABLE", "IF", "NOT", "EXISTS"] (by decide)).lex_iff
  have hcreate : "CREATE TABLE IF NOT EXISTS ".toList =
      ["CREATE", "TABLE", "IF", "NOT", "EXISTS"].flatMap fun word => word.toList ++ [' '] := by
    decide
  have hopen : " (".toList = [' ', '('] := by decide
  have hclose : ");".toList = [')', ';'] := by decide
  have hplain : (∀ column ∈ sqlColumns t.columnTypes, IsPlain column.1) ↔
      ∀ column ∈ t.columnNames, IsPlain column := by
    rw [← Table.map_fst_columnTypes, ← hnames, List.forall_mem_map]
  rw [hplain] at hread
  simp only [← hread, IsCreate, createTokens, String.toList_append, hcreate, hopen, hclose,
    List.append_assoc, List.cons_append, List.nil_append]

theorem isDrop_iff : IsDrop (dropTable name) name ↔ IsPlain name := by
  have hread := (((reads_identifier name).mark (c := ';') (by decide)).keywords
    ["DROP", "TABLE", "IF", "EXISTS"] (by decide)).lex_iff
  have hdrop : "DROP TABLE IF EXISTS ".toList =
      ["DROP", "TABLE", "IF", "EXISTS"].flatMap fun word => word.toList ++ [' '] := by decide
  have hclose : ";".toList = [';'] := by decide
  have htext : dropTable name = "DROP TABLE IF EXISTS " ++ identifier name ++ ";" := rfl
  simp only [← hread, IsDrop, htext, dropTokens, String.toList_append, hdrop, hclose,
    List.append_assoc, List.cons_append, List.nil_append]

end Statements

-- The statements are read back exactly if no name has a double quote in it; one that inserts rows
-- needs a row, and numbers that are finite.
theorem statements_read_iff (t : Table) (name : String) :
    (∀ text, insertValues t name = .ok text →
      (IsInsert text name t.columnNames ↔
        t.columnNames ≠ [] ∧ IsPlain name ∧ (∀ column ∈ t.columnNames, IsPlain column) ∧
          t.rowCount ≠ 0 ∧
          ∀ row < t.rowCount, ∀ column d, t.cell? row column = some (.decimal d) →
            d.isFinite = true)) ∧
      (∀ text, createTable t name = .ok text →
        (IsCreate text name (sqlColumns t.columnTypes) ↔
          IsPlain name ∧ ∀ column ∈ t.columnNames, IsPlain column)) ∧
      (IsDrop (dropTable name) name ↔ IsPlain name) :=
  ⟨fun _ => isInsert_iff, fun _ => isCreate_iff, isDrop_iff⟩

def sizes (column : String) : Table := .array ⟨[⟨column, .text, [.text "it's"]⟩], 1⟩

theorem statements_read_iff_sizes :
    insertValues (sizes "size") "t" = .ok "INSERT INTO \"t\" (\"size\") VALUES ('it''s')" ∧
      IsInsert "INSERT INTO \"t\" (\"size\") VALUES ('it''s')" "t" ["size"] ∧
      createTable (sizes "size") "t" = .ok "CREATE TABLE IF NOT EXISTS \"t\" (\"size\" text);" ∧
      IsCreate "CREATE TABLE IF NOT EXISTS \"t\" (\"size\" text);" "t" [("size", .text)] := by
  have hinsert : insertValues (sizes "size") "t" =
      .ok "INSERT INTO \"t\" (\"size\") VALUES ('it''s')" := rfl
  have hcreate : createTable (sizes "size") "t" =
      .ok "CREATE TABLE IF NOT EXISTS \"t\" (\"size\" text);" := rfl
  obtain ⟨hinserts, hcreates, -⟩ := statements_read_iff (sizes "size") "t"
  have hplain : IsPlain "t" ∧ ∀ column ∈ ["size"], IsPlain column := by decide
  have hfinite : ∀ row < 1, ∀ column d, (sizes "size").cell? row column = some (.decimal d) →
      d.isFinite = true := by
    intro row hrow column d hcell
    obtain rfl : row = 0 := by omega
    obtain rfl : column = 0 := Nat.lt_one_iff.mp (Table.lt_of_cell? hcell)
    cases hcell
  exact ⟨hinsert, (hinserts _ hinsert).mpr ⟨by decide, hplain.1, hplain.2, by decide, hfinite⟩,
    hcreate, (hcreates _ hcreate).mpr hplain⟩

theorem quoted_name_lost : ∃ text, insertValues (sizes "size \"XL\"") "t" = .ok text ∧
    ¬ IsInsert text "t" ["size \"XL\""] := by
  have hinsert : insertValues (sizes "size \"XL\"") "t" =
      .ok "INSERT INTO \"t\" (\"size \"XL\"\") VALUES ('it''s')" := rfl
  refine ⟨_, hinsert, fun hread => ?_⟩
  have hplain := ((isInsert_iff hinsert).mp hread).2.2.1
  exact absurd hplain (by decide)

end TableFlow.Sql
