import DataGrid.Proofs.Sql.Arranged
import DataGrid.Proofs.Sql.Template

namespace DataGrid.Sql

def Dialect.mark : Dialect → Char
  | .postgres => '$'
  | .sqlite => '?'

/-- The placeholders among characters, from left to right: a mark with the digits after it, unless
it stands in a quoted name. A quote that is doubled in a name ends the name and starts it again. -/
def placeholdersFrom (d : Dialect) : (quoted : Bool) → List Char → List String
  | _, [] => []
  | quoted, c :: s =>
    if c = '"' then placeholdersFrom d (!quoted) s
    else if !quoted ∧ c = d.mark then
      String.ofList (c :: s.takeWhile Char.isDigit) :: placeholdersFrom d quoted s
    else placeholdersFrom d quoted s

def placeholders (d : Dialect) (sql : String) : List String :=
  placeholdersFrom d false sql.toList

def isPlain (c : Char) : Bool :=
  c != '"' && c != '$' && c != '?' && !c.isDigit

/-- Words that neither are nor extend a placeholder, and quote nothing. -/
def Plain (words : String) : Prop :=
  words.toList ≠ [] ∧ words.toList.all isPlain

instance (words : String) : Decidable (Plain words) :=
  inferInstanceAs (Decidable (_ ∧ _))

/-- No two values stand side by side, and all words are plain. -/
def Separated : List Piece → Prop
  | [] => True
  | .text words :: ps => Plain words ∧ Separated ps
  | .ident _ :: ps => Separated ps
  | .param _ :: ps => ps.head?.all (·.value?.isNone) ∧ Separated ps

theorem ne_of_isPlain (d : Dialect) {c : Char} (h : isPlain c = true) :
    c ≠ '"' ∧ c ≠ d.mark ∧ c.isDigit = false := by
  simp only [isPlain, Bool.and_eq_true, bne_iff_ne, Bool.not_eq_true'] at h
  obtain ⟨⟨⟨quote, dollar⟩, question⟩, digit⟩ := h
  refine ⟨quote, ?_, digit⟩
  cases d
  · exact dollar
  · exact question

theorem placeholdersFrom_plain (d : Dialect) {cs : List Char} (h : cs.all isPlain)
    (s : List Char) : placeholdersFrom d false (cs ++ s) = placeholdersFrom d false s := by
  induction cs with
  | nil => rfl
  | cons c cs ih =>
    rw [List.all_cons, Bool.and_eq_true] at h
    obtain ⟨hc, hcs⟩ := h
    obtain ⟨quote, mark, _⟩ := ne_of_isPlain d hc
    rw [List.cons_append, placeholdersFrom, if_neg quote, if_neg (mark ·.2)]
    exact ih hcs

theorem placeholdersFrom_doubled (d : Dialect) (name s : List Char) :
    placeholdersFrom d true (name.flatMap (fun c => if c = '"' then [c, c] else [c]) ++ s) =
      placeholdersFrom d true s := by
  induction name with
  | nil => rfl
  | cons c name ih =>
    rw [List.flatMap_cons, List.append_assoc]
    split
    · next quote =>
      rw [quote]
      exact ih
    · next other =>
      rw [List.singleton_append, placeholdersFrom, if_neg other, if_neg (by simp)]
      exact ih

theorem placeholdersFrom_ident (d : Dialect) (name : String) (s : List Char) :
    placeholdersFrom d false ((ident name).toList ++ s) = placeholdersFrom d false s := by
  rw [ident, quoteDoubled, String.toList_ofList, List.cons_append, List.cons_append,
    List.append_assoc]
  exact placeholdersFrom_doubled d name.toList ('"' :: s)

theorem takeWhile_digits {digits s : List Char} (h : ∀ c ∈ digits, c.isDigit = true)
    (hs : ∀ c ∈ s.head?, c.isDigit = false) :
    (digits ++ s).takeWhile Char.isDigit = digits := by
  have stop : s.takeWhile Char.isDigit = [] := by
    cases s with
    | nil => rfl
    | cons c s => exact List.takeWhile_cons_of_neg (by simp [hs c rfl])
  rw [List.takeWhile_append_of_pos h, stop, List.append_nil]

theorem ne_of_isDigit (d : Dialect) {c : Char} (digit : c.isDigit = true) :
    c ≠ '"' ∧ c ≠ d.mark := by
  constructor
  · rintro rfl
    cases digit
  · rintro rfl
    cases d <;> cases digit

theorem placeholdersFrom_digits (d : Dialect) {digits : List Char}
    (h : ∀ c ∈ digits, c.isDigit = true) (s : List Char) :
    placeholdersFrom d false (digits ++ s) = placeholdersFrom d false s := by
  induction digits with
  | nil => rfl
  | cons c digits ih =>
    obtain ⟨quote, mark⟩ := ne_of_isDigit d (h c List.mem_cons_self)
    rw [List.cons_append, placeholdersFrom, if_neg quote, if_neg (mark ·.2)]
    exact ih fun c hc => h c (List.mem_cons_of_mem _ hc)

theorem exists_placeholder_eq (d : Dialect) (index : Nat) :
    ∃ digits : List Char, (∀ c ∈ digits, c.isDigit = true) ∧
      (d.placeholder index).toList = d.mark :: digits := by
  cases d with
  | postgres =>
    refine ⟨Nat.toDigits 10 index, fun c hc => ?_, ?_⟩
    · exact Nat.isDigit_of_mem_toDigits (by decide) (by decide) hc
    · simp [Dialect.placeholder, Dialect.mark]
  | sqlite => exact ⟨[], by simp, by simp [Dialect.placeholder, Dialect.mark]⟩

theorem placeholdersFrom_placeholder (d : Dialect) (index : Nat) {s : List Char}
    (hs : ∀ c ∈ s.head?, c.isDigit = false) :
    placeholdersFrom d false ((d.placeholder index).toList ++ s) =
      d.placeholder index :: placeholdersFrom d false s := by
  obtain ⟨digits, hdigits, htext⟩ := exists_placeholder_eq d index
  have quote : d.mark ≠ '"' := by cases d <;> decide
  rw [htext, List.cons_append, placeholdersFrom, if_neg quote, if_pos ⟨rfl, rfl⟩,
    takeWhile_digits hdigits hs, ← htext, String.ofList_toList, placeholdersFrom_digits d hdigits]

theorem head?_template (d : Dialect) (index : Nat) {ps : List Piece} (separated : Separated ps)
    (apart : ps.head?.all (·.value?.isNone)) :
    ∀ c ∈ (template d index ps).toList.head?, c.isDigit = false := by
  cases ps with
  | nil => simp [template, templateFrom]
  | cons p ps =>
    cases p with
    | text words =>
      obtain ⟨⟨nonempty, plain⟩, _⟩ := separated
      obtain ⟨first, more, hwords⟩ := List.exists_cons_of_ne_nil nonempty
      rw [hwords, List.all_cons, Bool.and_eq_true] at plain
      rw [template_text, String.toList_append, hwords]
      rintro c ⟨⟩
      exact (ne_of_isPlain d plain.1).2.2
    | ident name =>
      rw [template_ident, String.toList_append, ident, quoteDoubled, String.toList_ofList]
      rintro c ⟨⟩
      rfl
    | param value => cases apart

theorem placeholdersFrom_template (d : Dialect) {ps : List Piece} (separated : Separated ps)
    (index : Nat) :
    placeholdersFrom d false (template d index ps).toList =
      (List.range' index (values ps).length).map d.placeholder := by
  induction ps generalizing index with
  | nil => simp [template, templateFrom, placeholdersFrom, values]
  | cons p ps ih =>
    cases p with
    | text words =>
      obtain ⟨⟨_, plain⟩, rest⟩ := separated
      rw [template_text, String.toList_append, placeholdersFrom_plain d plain, ih rest]
      rfl
    | ident name =>
      rw [template_ident, String.toList_append, placeholdersFrom_ident, ih separated]
      rfl
    | param value =>
      obtain ⟨apart, rest⟩ := separated
      rw [template_param, String.toList_append,
        placeholdersFrom_placeholder d index (head?_template d (index + 1) rest apart), ih rest]
      rfl

/-- The placeholders of a statement are as many as its values, and numbered in their order. -/
theorem placeholders_statement (d : Dialect) {ps : List Piece} (separated : Separated ps) :
    placeholders d (statement d ps).sql =
      (List.range' 1 (statement d ps).values.length).map d.placeholder :=
  placeholdersFrom_template d separated 1

theorem Arranged.separated {words : List String} (plain : ∀ w ∈ words, Plain w) {apart : Bool}
    {ps : List Piece} (h : Arranged words apart ps) : Separated ps := by
  induction ps generalizing apart with
  | nil => trivial
  | cons p ps ih =>
    cases p with
    | text w => exact ⟨plain w h.1, ih h.2⟩
    | ident name => exact ih h.2
    | param v =>
      refine ⟨?_, ih h.2⟩
      -- a value ends no words, so none comes right after it
      obtain _ | ⟨⟨⟩, ps⟩ := ps
      · rfl
      · rfl
      · rfl
      · cases h.2.1

theorem plain_statementWords : ∀ w ∈ statementWords, Plain w := by
  decide

theorem separated_selectPage (table : String) (q : Query) : Separated (selectPage table q) :=
  (arranged_selectPage table q true).separated plain_statementWords

theorem separated_selectCount (table : String) (q : Query) : Separated (selectCount table q) :=
  (arranged_selectCount table q true).separated plain_statementWords

end DataGrid.Sql
