import DataGrid.Filter.Compile
import DataGrid.Proofs.Double.Layout
import DataGrid.Proofs.Sql.Lexing
import DataGrid.Proofs.Sql.Placeholder

namespace DataGrid.Sql

/-- Where placeholders are looked for: not in a quoted name, and the number of one is part of it. -/
inductive Place where
  | words
  | name
  | number
deriving DecidableEq

theorem Place.words_ne_name : words ≠ name :=
  nofun

theorem Place.number_ne_name : number ≠ name :=
  nofun

/-- A text in which each placeholder gives way to the next of the literals. -/
def filledFrom (d : Dialect) (place : Place) (literals : List String) : List Char → List Char
  | [] => []
  | c :: text =>
    if c = '"' then c :: filledFrom d (if place = .name then .words else .name) literals text
    else if place = .name then c :: filledFrom d .name literals text
    else if c = d.mark then
      (literals.headD "").toList ++ filledFrom d .number literals.tail text
    else if place = .number ∧ c.isDigit then filledFrom d .number literals text
    else c :: filledFrom d .words literals text

/-- The text of a statement with a literal of each value in the place of its placeholder. -/
def Statement.filled (d : Dialect) (s : Statement) : String :=
  String.ofList (filledFrom d .words (s.values.map (Param.literal d)) s.sql.toList)

section
variable (d : Dialect) (literals : List String)

theorem filledFrom_doubled (name text : List Char) :
    filledFrom d .name literals
        (name.flatMap (fun c => if c = '"' then [c, c] else [c]) ++ '"' :: text) =
      name.flatMap (fun c => if c = '"' then [c, c] else [c]) ++
        '"' :: filledFrom d .words literals text := by
  induction name with
  | nil => rfl
  | cons c name ih =>
    rw [List.flatMap_cons, List.append_assoc, List.append_assoc, ← ih]
    split
    · next quote =>
      rw [quote]
      rfl
    · next other =>
      rw [List.singleton_append, filledFrom, if_neg other, if_pos rfl]
      rfl

theorem filledFrom_digits {digits : List Char} (h : ∀ c ∈ digits, c.isDigit = true)
    (text : List Char) :
    filledFrom d .number literals (digits ++ text) = filledFrom d .number literals text := by
  induction digits with
  | nil => rfl
  | cons c digits ih =>
    obtain ⟨digit, h⟩ := List.forall_mem_cons.mp h
    obtain ⟨quote, mark⟩ := ne_of_isDigit d digit
    rw [List.cons_append, filledFrom, if_neg quote, if_neg Place.number_ne_name, if_neg mark,
      if_pos ⟨rfl, digit⟩, ih h]

section
variable {place : Place} (outside : place ≠ .name)
include outside

theorem filledFrom_ident (name : String) (text : List Char) :
    filledFrom d place literals ((ident name).toList ++ text) =
      (ident name).toList ++ filledFrom d .words literals text := by
  rw [ident, quoteDoubled, String.toList_ofList, List.cons_append, List.cons_append,
    List.append_assoc, filledFrom, if_pos rfl, if_neg outside, List.singleton_append,
    filledFrom_doubled, List.cons_append, List.append_assoc, List.singleton_append]

theorem filledFrom_cons {c : Char} (plain : isPlain c = true) (text : List Char) :
    filledFrom d place literals (c :: text) = c :: filledFrom d .words literals text := by
  obtain ⟨quote, mark, digit⟩ := ne_of_isPlain d plain
  rw [filledFrom, if_neg quote, if_neg outside, if_neg mark, if_neg (by simp [digit])]

theorem filledFrom_plain {words : String} (plain : Plain words) (text : List Char) :
    filledFrom d place literals (words.toList ++ text) =
      words.toList ++ filledFrom d .words literals text := by
  obtain ⟨nonempty, plain⟩ := plain
  generalize words.toList = cs at nonempty plain
  induction cs generalizing place with
  | nil => exact absurd rfl nonempty
  | cons c cs ih =>
    rw [List.all_cons, Bool.and_eq_true] at plain
    rw [List.cons_append, filledFrom_cons d literals outside plain.1, List.cons_append]
    cases cs with
    | nil => rfl
    | cons next cs => rw [ih Place.words_ne_name (List.cons_ne_nil next cs) plain.2]

theorem filledFrom_placeholder (index : Nat) (literal : String) (text : List Char) :
    filledFrom d place (literal :: literals) ((d.placeholder index).toList ++ text) =
      literal.toList ++ filledFrom d .number literals text := by
  obtain ⟨digits, hdigits, htext⟩ := exists_placeholder_eq d index
  have quote : d.mark ≠ '"' := by cases d <;> decide
  rw [htext, List.cons_append, filledFrom, if_neg quote, if_neg outside, if_pos rfl,
    List.headD_cons, List.tail_cons, filledFrom_digits d literals hdigits]

end

end

theorem filledFrom_template (d : Dialect) {ps : List Piece} (separated : Separated ps) (index : Nat)
    {place : Place} (outside : place ≠ .name) :
    filledFrom d place ((values ps).map (Param.literal d)) (template d index ps).toList =
      (inline d ps).toList := by
  induction ps generalizing index place with
  | nil => rfl
  | cons p ps ih =>
    rw [inline_cons, String.toList_append]
    cases p with
    | text words =>
      rw [values_text, template_text, String.toList_append, filledFrom_plain d _ outside separated.1,
        ih separated.2 index Place.words_ne_name, Piece.inline]
    | ident name =>
      rw [values_ident, template_ident, String.toList_append, filledFrom_ident d _ outside,
        ih separated index Place.words_ne_name, Piece.inline]
    | param value =>
      have first : values (.param value :: ps) = value :: values ps := rfl
      rw [first, List.map_cons, template_param, String.toList_append,
        filledFrom_placeholder d _ outside, ih separated.2 (index + 1) Place.number_ne_name,
        Piece.inline]

theorem filled_statement (d : Dialect) {ps : List Piece} (separated : Separated ps) :
    (statement d ps).filled d = inline d ps := by
  rw [Statement.filled, statement_eq, filledFrom_template d separated 1 Place.words_ne_name,
    String.ofList_toList]

/-- What a piece is read as, where a string is read as `reads` says. -/
def Piece.lexemes (d : Dialect) (reads : String → String) : Piece → List Lexeme
  | .text words => words.toList.map .char
  | .ident name => [.name name]
  | .param (.str s) => [.string (reads s)]
  | .param v => (v.literal d).toList.map .char

theorem unquoted_of_numberChar {cs : List Char} (number : ∀ c ∈ cs, Double.NumberChar c) :
    Unquoted cs := by
  rw [Unquoted, List.all_eq_true]
  intro c member
  rw [Bool.and_eq_true, bne_iff_ne, bne_iff_ne]
  constructor
  · rintro rfl
    exact absurd (number _ member) (by decide)
  · rintro rfl
    exact absurd (number _ member) (by decide)

theorem words_unquoted : ∀ w ∈ statementWords, Unquoted w.toList := by
  decide

theorem digits_unquoted (n : Nat) : Unquoted (toString n).toList := by
  have digits : (toString n).toList = Nat.toDigits 10 n := by simp
  rw [digits]
  exact unquoted_of_numberChar (Double.numberChar_toDigits n)

/-- A value that is no string is written without quotes, and read as it is written. -/
theorem lexemes_unquoted (d : Dialect) (reads : String → String) (v : Param) :
    (∃ s, v = .str s) ∨ Unquoted (v.literal d).toList ∧
      Piece.lexemes d reads (.param v) = (v.literal d).toList.map .char := by
  cases v with
  | str s => exact .inl ⟨s, rfl⟩
  | bool b => exact .inr ⟨by cases d <;> cases b <;> decide, rfl⟩
  | int i =>
    refine .inr ⟨?_, rfl⟩
    rw [Param.literal, String.toList_ofList]
    exact unquoted_of_numberChar (Double.numberChar_writeInt _)
  | float x =>
    refine .inr ⟨?_, rfl⟩
    rw [Param.literal]
    cases x with
    | nan => decide
    | infinite negative => cases negative <;> decide
    | finite x =>
      rw [Double.plainText, String.toList_ofList]
      exact unquoted_of_numberChar (Double.numberChar_write x .plain)
  | constant n => exact .inr ⟨digits_unquoted n, rfl⟩
  | bound n => exact .inr ⟨digits_unquoted n, rfl⟩

/-- After words that end apart a name or a value is read to its end. -/
theorem finish?_run_param (d : Dialect) (done : List Lexeme) (v : Param) :
    (Scan.run d ⟨done, .between⟩ (v.literal d).toList).finish? =
      some (done ++ Piece.lexemes d d.reread (.param v)) := by
  rcases lexemes_unquoted d d.reread v with ⟨s, rfl⟩ | ⟨unquoted, same⟩
  · exact Scan.finish?_run_stringLiteral d done s
  · rw [same]
    exact Scan.finish?_run rfl d unquoted

theorem finish?_run_inline (d : Dialect) {apart : Bool} {ps : List Piece}
    (arranged : Arranged statementWords apart ps) {s : Scan} {done : List Lexeme}
    (read : s.finish? = some done) (start : apart = true → s = ⟨done, .between⟩) :
    (s.run d (inline d ps).toList).finish? =
      some (done ++ ps.flatMap (Piece.lexemes d d.reread)) := by
  induction ps generalizing apart s done with
  | nil =>
    rw [List.flatMap_nil, List.append_nil]
    exact read
  | cons p ps ih =>
    rw [inline_cons, String.toList_append, Scan.run_append, List.flatMap_cons, ← List.append_assoc]
    cases p with
    | text words =>
      have unquoted := words_unquoted words arranged.1
      exact ih arranged.2 (Scan.finish?_run read d unquoted) fun apart =>
        Scan.run_endsApart read d apart unquoted
    | ident name =>
      rw [start arranged.1]
      exact ih arranged.2 (Scan.finish?_run_ident d done name) nofun
    | param v =>
      rw [start arranged.1]
      exact ih arranged.2 (finish?_run_param d done v) nofun

theorem lex?_inline (d : Dialect) {ps : List Piece} (arranged : Arranged statementWords true ps) :
    lex? d (inline d ps) = some (ps.flatMap (Piece.lexemes d d.reread)) :=
  finish?_run_inline d arranged rfl fun _ => rfl

section
variable {d : Dialect} {reads reads' : String → String}

theorem length_lexemes_eq (p : Piece) :
    (p.lexemes d reads).length = (p.lexemes d reads').length := by
  cases p with
  | text words => rfl
  | ident name => rfl
  | param v => cases v <;> rfl

theorem lexemes_eq_iff {p : Piece} : p.lexemes d reads = p.lexemes d reads' ↔
    ∀ s, .param (.str s) = p → reads s = reads' s := by
  cases p with
  | text words => exact iff_of_true rfl nofun
  | ident name => exact iff_of_true rfl nofun
  | param v =>
    cases v with
    | str s => simp [Piece.lexemes]
    | _ => exact iff_of_true rfl nofun

/-- Two ways to read strings that read the pieces alike agree on each string among them. -/
theorem flatMap_lexemes_eq_iff {ps : List Piece} :
    ps.flatMap (Piece.lexemes d reads) = ps.flatMap (Piece.lexemes d reads') ↔
      ∀ s, .param (.str s) ∈ ps → reads s = reads' s := by
  induction ps with
  | nil => exact iff_of_true rfl nofun
  | cons p ps ih =>
    rw [List.flatMap_cons, List.flatMap_cons]
    constructor
    · intro same s member
      obtain ⟨head, tail⟩ := List.append_inj same (length_lexemes_eq p)
      rcases List.mem_cons.mp member with here | later
      · exact lexemes_eq_iff.mp head s here
      · exact ih.mp tail s later
    · intro same
      rw [lexemes_eq_iff.mpr fun s here => same s (here ▸ List.mem_cons_self),
        ih.mpr fun s later => same s (List.mem_cons_of_mem p later)]

end

/-- The text of pieces with their values in it says what their statement says: it is the text of the
statement with a literal of each value in the place of its placeholder, which are numbered in the
order of the values; and each piece is read by itself and to its own end, a name as the name that it
is, a string as one string. These are the strings of the pieces when each of them is read back. -/
structure ReadsAsWritten (d : Dialect) (ps : List Piece) : Prop where
  filled : (statement d ps).filled d = inline d ps
  placeholders :
    placeholders d (statement d ps).sql = (List.range' 1 (values ps).length).map d.placeholder
  read (n : Nat) :
    lex? d (inline d (ps.take n)) = some ((ps.take n).flatMap (Piece.lexemes d d.reread))
  faithful : lex? d (inline d ps) = some (ps.flatMap (Piece.lexemes d id)) ↔
    ∀ s, .param (.str s) ∈ ps → d.reread s = s

theorem readsAsWritten_of_arranged (d : Dialect) {ps : List Piece}
    (arranged : Arranged statementWords true ps) : ReadsAsWritten d ps where
  filled := filled_statement d (arranged.separated plain_statementWords)
  placeholders := placeholders_statement d (arranged.separated plain_statementWords)
  read n := by
    rw [← List.take_append_drop n ps] at arranged
    exact lex?_inline d arranged.of_append
  faithful := by
    rw [lex?_inline d arranged, Option.some_inj, flatMap_lexemes_eq_iff]
    rfl

/-- Whatever a table, the fields and the operands of a query are called, both its statements say in
their text with values what they say with values apart. A string is read back as the value that it
is written for by SQLite, and by Postgres when it has no `\x1a` and no octal digit right after NUL;
where it has, the string is another one, and all around it is read as it is. -/
theorem inline_reads_as_written (d : Dialect) (table : String) (q : Query) :
    ReadsAsWritten d (selectPage table q) ∧ ReadsAsWritten d (selectCount table q) ∧
      ∀ s, d.reread s = s ↔ d = .sqlite ∨
        '\x1a' ∉ s.toList ∧ ∀ c, octalDigit? c ≠ none → ¬ ['\x00', c] <:+: s.toList :=
  ⟨readsAsWritten_of_arranged d (arranged_selectPage table q true),
    readsAsWritten_of_arranged d (arranged_selectCount table q true), reread_eq_self_iff d⟩

/-- Postgres reads `\x1a` as a letter, and NUL with a digit after it as one character. -/
theorem substitute_is_read_as_letter :
    (∃ q, Query.filter {} .and (.leaf ⟨"name", "equal", .str "\x1a"⟩) = .ok q ∧
      (statement .postgres (selectPage "people" q)).values = [.str "\x1a"] ∧
      inline .postgres (selectPage "people" q) =
        "SELECT * FROM \"people\" WHERE \"name\" = E'\\z'" ∧
      (lex? .postgres (inline .postgres (selectPage "people" q))).map List.getLast? =
        some (some (.string "z"))) ∧
    lex? .postgres (Dialect.postgres.stringLiteral "\x001") = some [.string "\x01"] := by
  obtain ⟨q, added, hq⟩ : ∃ q, Query.filter {} .and (.leaf ⟨"name", "equal", .str "\x1a"⟩) = .ok q ∧
      q = { clause := [(.and, .group [(.and, .test ⟨"name", .equal, .str "\x1a"⟩)])] } :=
    ⟨_, rfl, rfl⟩
  have written : inline .postgres (selectPage "people" q) =
      "SELECT * FROM \"people\" WHERE \"name\" = E'\\z'" := by
    rw [hq]
    decide +kernel
  refine ⟨⟨q, added, ?_, written, ?_⟩, ?_⟩
  · rw [hq]
    rfl
  · rw [written]
    decide +kernel
  · decide +kernel

end DataGrid.Sql
