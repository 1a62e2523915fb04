import DataGrid.Proofs.Memory.Like
import DataGrid.Proofs.Sql.Membership

namespace DataGrid.Sql

/-- What a place in a pattern asks for. -/
inductive Mark where
  /-- Any run of characters. -/
  | run
  /-- Any one character. -/
  | one
  | char (c : Char)

def Mark.ofChar (c : Char) : Mark :=
  if c = '%' then .run else if c = '_' then .one else .char c

/-- What a pattern asks for, one after the other. A character after a backslash asks for itself, and
there is no pattern with a backslash that has no character after it. -/
def marks? : List Char → Option (List Mark)
  | [] => some []
  | c :: pattern =>
    if c = '\\' then
      match pattern with
      | [] => none
      | d :: pattern => (marks? pattern).map (.char d :: ·)
    else (marks? pattern).map (.ofChar c :: ·)

inductive Fits : List Mark → List Char → Prop
  | nil : Fits [] []
  | run {ms : List Mark} {text : List Char} (part : List Char) :
    Fits ms text → Fits (.run :: ms) (part ++ text)
  | one {ms : List Mark} {text : List Char} (c : Char) :
    Fits ms text → Fits (.one :: ms) (c :: text)
  | char {ms : List Mark} {text : List Char} (c : Char) :
    Fits ms text → Fits (.char c :: ms) (c :: text)

/-- A text that a pattern matches as Postgres reads it. -/
def Likes (pattern text : String) : Prop :=
  ∃ ms, marks? pattern.toList = some ms ∧ Fits ms text.toList

/-- A pattern that Postgres does not read is an error. -/
def Readable (pattern : String) : Prop :=
  ∃ ms, marks? pattern.toList = some ms

/-- A text that a pattern stands for as a whole: its own characters, less the backslashes that were
before some of them. -/
def Spells (pattern text : List Char) : Prop :=
  marks? pattern = some (text.map .char)

theorem marks?_escaped (d : Char) (pattern : List Char) :
    marks? ('\\' :: d :: pattern) = (marks? pattern).map (.char d :: ·) :=
  rfl

theorem marks?_cons {c : Char} (plain : c ≠ '\\') (pattern : List Char) :
    marks? (c :: pattern) = (marks? pattern).map (.ofChar c :: ·) := by
  rw [marks?.eq_def]
  exact if_neg plain

theorem marks?_append {before : List Char} {ms : List Mark} (read : marks? before = some ms)
    (after : List Char) : marks? (before ++ after) = (marks? after).map (ms ++ ·) := by
  fun_induction marks? before generalizing ms with
  | case1 =>
    cases read
    exact Option.map_id'.symm
  | case2 => cases read
  | case3 d pattern ih =>
    obtain ⟨ms, hms, rfl⟩ := Option.map_eq_some_iff.mp read
    rw [List.cons_append, List.cons_append, marks?_escaped, ih hms, Option.map_map]
    rfl
  | case4 c pattern plain ih =>
    obtain ⟨ms, hms, rfl⟩ := Option.map_eq_some_iff.mp read
    rw [List.cons_append, marks?_cons plain, ih hms, Option.map_map]
    rfl

/-- A pattern is not read when its last character is a backslash that nothing comes before to take
its meaning. -/
theorem marks?_eq_none_iff {pattern : List Char} :
    marks? pattern = none ↔ ∃ before ms, pattern = before ++ ['\\'] ∧ marks? before = some ms := by
  constructor
  · intro unread
    fun_induction marks? pattern with
    | case1 => cases unread
    | case2 => exact ⟨[], [], rfl, rfl⟩
    | case3 d pattern ih =>
      obtain ⟨before, ms, rfl, hms⟩ := ih (Option.map_eq_none_iff.mp unread)
      exact ⟨'\\' :: d :: before, .char d :: ms, rfl, by rw [marks?_escaped, hms, Option.map_some]⟩
    | case4 c pattern plain ih =>
      obtain ⟨before, ms, rfl, hms⟩ := ih (Option.map_eq_none_iff.mp unread)
      exact ⟨c :: before, .ofChar c :: ms, rfl, by rw [marks?_cons plain, hms, Option.map_some]⟩
  · rintro ⟨before, ms, rfl, hms⟩
    rw [marks?_append hms]
    rfl

theorem Mark.ofChar_eq_char {c : Char} (plain : c ≠ '%' ∧ c ≠ '_') : ofChar c = .char c := by
  rw [ofChar, if_neg plain.1, if_neg plain.2]

section
variable {pattern : List Char} (plain : ∀ c ∈ pattern, c ≠ '%' ∧ c ≠ '_')
include plain

theorem exists_spells {ms : List Mark} (read : marks? pattern = some ms) :
    ∃ text : List Char, ms = text.map .char := by
  fun_induction marks? pattern generalizing ms with
  | case1 => exact ⟨[], (Option.some_inj.mp read).symm⟩
  | case2 => cases read
  | case3 d pattern ih =>
    obtain ⟨ms, hms, rfl⟩ := Option.map_eq_some_iff.mp read
    obtain ⟨text, rfl⟩ := ih (fun c member => plain c (by simp [member])) hms
    exact ⟨d :: text, rfl⟩
  | case4 c pattern _ ih =>
    obtain ⟨ms, hms, rfl⟩ := Option.map_eq_some_iff.mp read
    obtain ⟨here, plain⟩ := List.forall_mem_cons.mp plain
    obtain ⟨text, rfl⟩ := ih plain hms
    exact ⟨c :: text, by rw [Mark.ofChar_eq_char here, List.map_cons]⟩

theorem spells_self (no_backslash : '\\' ∉ pattern) : Spells pattern pattern := by
  induction pattern with
  | nil => rfl
  | cons c pattern ih =>
    obtain ⟨here, plain⟩ := List.forall_mem_cons.mp plain
    have other : c ≠ '\\' := fun same => no_backslash (same ▸ List.mem_cons_self)
    have rest := ih plain fun member => no_backslash (List.mem_cons_of_mem c member)
    rw [Spells, marks?_cons other, rest, Mark.ofChar_eq_char here, Option.map_some, List.map_cons]

end

theorem fits_run_iff {ms : List Mark} {text : List Char} :
    Fits (.run :: ms) text ↔ ∃ part, part <:+ text ∧ Fits ms part := by
  constructor
  · rintro (_ | ⟨part, fits⟩)
    exact ⟨_, List.suffix_append part _, fits⟩
  · rintro ⟨part, ⟨before, rfl⟩, fits⟩
    exact .run before fits

theorem fits_nil_iff {text : List Char} : Fits [] text ↔ text = [] := by
  constructor
  · rintro ⟨⟩
    rfl
  · rintro rfl
    exact .nil

theorem fits_run (text : List Char) : Fits [.run] text :=
  fits_run_iff.mpr ⟨[], List.nil_suffix, .nil⟩

theorem fits_chars_append_iff {chars : List Char} {ms : List Mark} {text : List Char} :
    Fits (chars.map .char ++ ms) text ↔ ∃ rest, text = chars ++ rest ∧ Fits ms rest := by
  induction chars generalizing text with
  | nil => simp
  | cons c chars ih =>
    constructor
    · intro fits
      rw [List.map_cons, List.cons_append] at fits
      obtain ⟨⟩ | ⟨⟩ | ⟨⟩ | ⟨_, fits⟩ := fits
      obtain ⟨rest, rfl, left⟩ := ih.mp fits
      exact ⟨rest, rfl, left⟩
    · rintro ⟨rest, rfl, fits⟩
      exact .char c (ih.mpr ⟨rest, rfl, fits⟩)

theorem fits_chars_iff {chars text : List Char} : Fits (chars.map .char) text ↔ text = chars := by
  rw [← List.append_nil (chars.map Mark.char), fits_chars_append_iff]
  simp [fits_nil_iff]

end DataGrid.Sql

namespace DataGrid

def Wildcard.around (w : Wildcard) (ms : List Sql.Mark) : List Sql.Mark :=
  match w with
  | .both => .run :: (ms ++ [.run])
  | .trailing => ms ++ [.run]
  | .leading => .run :: ms

namespace Sql

theorem marks?_percent (pattern : List Char) :
    marks? ('%' :: pattern) = (marks? pattern).map (.run :: ·) :=
  marks?_cons (by decide) pattern

theorem marks?_wrap (w : Wildcard) {v : String} {ms : List Mark}
    (read : marks? v.toList = some ms) : marks? (w.wrap v).toList = some (w.around ms) := by
  have closed : marks? (v.toList ++ ['%']) = some (ms ++ [.run]) := by
    rw [marks?_append read, marks?_percent]
    rfl
  cases w with
  | both => simp [Wildcard.wrap, marks?_percent, closed, Wildcard.around]
  | trailing => simp [Wildcard.wrap, closed, Wildcard.around]
  | leading => simp [Wildcard.wrap, marks?_percent, read, Wildcard.around]

theorem fits_chars_run_iff {chars text : List Char} :
    Fits (chars.map .char ++ [.run]) text ↔ chars <+: text := by
  rw [fits_chars_append_iff]
  constructor
  · rintro ⟨rest, rfl, _⟩
    exact List.prefix_append chars rest
  · rintro ⟨rest, rfl⟩
    exact ⟨rest, rfl, fits_run rest⟩

/-- A text between wildcards is looked for where they leave it. -/
theorem fits_around_iff (w : Wildcard) {chars text : List Char} :
    Fits (w.around (chars.map .char)) text ↔ w.Places chars text := by
  cases w with
  | both =>
    rw [Wildcard.around, fits_run_iff, Wildcard.Places, List.infix_iff_prefix_suffix]
    simp only [fits_chars_run_iff, and_comm]
  | trailing => exact fits_chars_run_iff
  | leading =>
    rw [Wildcard.around, fits_run_iff, Wildcard.Places]
    simp only [fits_chars_iff, exists_eq_right]

theorem likes_wrap_iff (w : Wildcard) {v : String} {chars : List Char}
    (spells : Spells v.toList chars) (text : String) :
    Likes (w.wrap v) text ↔ w.Places chars text.toList := by
  rw [Likes, marks?_wrap w spells]
  simp only [Option.some_inj, exists_eq_left', fits_around_iff]

/-- A backslash at the end of an operand takes its meaning from the wildcard that is put there, so
that a percent sign must come where the operand would end. Without one it ends the pattern. -/
theorem marks?_wrap_dangling (w : Wildcard) {v : String} {before : List Char} {ms : List Mark}
    (ends : v.toList = before ++ ['\\']) (read : marks? before = some ms) :
    marks? (w.wrap v).toList =
      match w with
      | .both => some (.run :: (ms ++ [.char '%']))
      | .trailing => some (ms ++ [.char '%'])
      | .leading => none := by
  have escaped : marks? (before ++ ['\\', '%']) = some (ms ++ [.char '%']) := by
    rw [marks?_append read, marks?_escaped]
    rfl
  cases w with
  | both => simp [Wildcard.wrap, marks?_percent, ends, escaped]
  | trailing => simp [Wildcard.wrap, ends, escaped]
  | leading =>
    have unread : marks? (before ++ ['\\']) = none := marks?_eq_none_iff.mpr ⟨before, ms, rfl, read⟩
    simp [Wildcard.wrap, marks?_percent, ends, unread]

theorem Fits.mem {ms : List Mark} {text : List Char} (fits : Fits ms text) {c : Char}
    (asked : .char c ∈ ms) : c ∈ text := by
  induction fits with
  | nil => cases asked
  | run part _ ih =>
    obtain _ | ⟨_, asked⟩ := asked
    exact List.mem_append_right part (ih asked)
  | one d _ ih =>
    obtain _ | ⟨_, asked⟩ := asked
    exact List.mem_cons_of_mem d (ih asked)
  | char d _ ih =>
    obtain _ | ⟨_, asked⟩ := asked
    · exact List.mem_cons_self
    · exact List.mem_cons_of_mem d (ih asked)

theorem readable_wrap_iff_of_dangling (w : Wildcard) {v : String}
    (unread : marks? v.toList = none) : Readable (w.wrap v) ↔ w ≠ .leading := by
  obtain ⟨before, ms, ends, read⟩ := marks?_eq_none_iff.mp unread
  rw [Readable, marks?_wrap_dangling w ends read]
  cases w <;> simp

theorem percent_mem_of_likes_wrap (w : Wildcard) {v : String} (unread : marks? v.toList = none)
    {text : String} (likes : Likes (w.wrap v) text) : '%' ∈ text.toList := by
  obtain ⟨before, ms, ends, read⟩ := marks?_eq_none_iff.mp unread
  obtain ⟨asked, hasked, fits⟩ := likes
  rw [marks?_wrap_dangling w ends read] at hasked
  refine fits.mem ?_
  cases w with
  | both =>
    cases hasked
    simp
  | trailing =>
    cases hasked
    simp
  | leading => cases hasked

section
variable {v : String} (plain : ∀ c ∈ v.toList, c ≠ '%' ∧ c ≠ '_')
include plain

/-- An operand finds every text that it is in just when what it spells is in the operand. -/
theorem finds_operand_iff (w : Wildcard) :
    (Readable (w.wrap v) ∧ ∀ text, w.Places v.toList text.toList → Likes (w.wrap v) text) ↔
      ∃ chars, Spells v.toList chars ∧ w.Places chars v.toList := by
  constructor
  · rintro ⟨_, finds⟩
    have itself := finds v (w.places_self v.toList)
    cases read : marks? v.toList with
    | none => exact absurd rfl (plain '%' (percent_mem_of_likes_wrap w read itself)).1
    | some ms =>
      obtain ⟨chars, rfl⟩ := exists_spells plain read
      exact ⟨chars, read, (likes_wrap_iff w read v).mp itself⟩
  · rintro ⟨chars, spells, inside⟩
    refine ⟨⟨_, marks?_wrap w spells⟩, fun text placed => ?_⟩
    exact (likes_wrap_iff w spells text).mpr (inside.trans placed)

end

/-- The statements of a filter of one comparison have it as their WHERE part. -/
theorem exists_selects_of_resolve {c : DataGrid.Condition} {p : Predicate} (joiner : Joiner)
    (resolves : Filter.resolve c = .ok p) :
    ∃ q, Query.filter {} joiner (.leaf c) = .ok q ∧ ∀ table,
      selectPage table q = [.text "SELECT * FROM ", .ident table, .text " WHERE "] ++ predicate p ∧
      selectCount table q =
        [.text "SELECT COUNT(*) FROM ", .ident table, .text " WHERE "] ++ predicate p := by
  have resolved := Tree.mapM_leaf_eq_ok_iff.mpr ⟨p, resolves, rfl⟩
  have whole : wherePart (Where.pushGroup [] joiner [(joiner, .test p)]) =
      .text " WHERE " :: predicate p := by
    have atom : Condition.ofWhere? (Where.pushGroup [] joiner [(joiner, .test p)]) =
        some (.atom p) := rfl
    rw [wherePart, atom, ← Condition.pieces_atom]
  refine ⟨_, Query.filter_eq_ok_iff.mpr ⟨_, resolved, rfl⟩, fun table => ⟨?_, ?_⟩⟩
  · simp [selectPage, Filter.rootEntries, whole, orderPart, boundPart]
  · simp [selectCount, Filter.rootEntries, whole]

theorem exists_ofName?_of_patternWords {name word : String} {w : Wildcard}
    (named : (name, word, w) ∈ patternWords) :
    ∃ c : Comparison, Operator.ofName? name = some ⟨name, c, some w⟩ ∧ c.isPattern = true ∧
      c.word = word := by
  simp only [patternWords, List.mem_cons, Prod.mk.injEq, List.not_mem_nil, or_false] at named
  rcases named with ⟨rfl, rfl, rfl⟩ | ⟨rfl, rfl, rfl⟩ | ⟨rfl, rfl, rfl⟩ | ⟨rfl, rfl, rfl⟩
  · exact ⟨.like, rfl, rfl, rfl⟩
  · exact ⟨.notLike, rfl, rfl, rfl⟩
  · exact ⟨.like, rfl, rfl, rfl⟩
  · exact ⟨.like, rfl, rfl, rfl⟩

/-- The pattern that looks for an operand is the one value of both statements. -/
theorem exists_statements_of_pattern {name word : String} {w : Wildcard}
    (named : (name, word, w) ∈ patternWords) (field v : String) (joiner : Joiner) :
    ∃ q, Query.filter {} joiner (.leaf ⟨field, name, .str v⟩) = .ok q ∧ ∀ table,
      let condition := ident table ++ " WHERE " ++ ident field ++ " " ++ word ++ " $1"
      statement .postgres (selectPage table q) =
        ⟨"SELECT * FROM " ++ condition, [.str (w.wrap v)]⟩ ∧
      statement .postgres (selectCount table q) =
        ⟨"SELECT COUNT(*) FROM " ++ condition, [.str (w.wrap v)]⟩ := by
  obtain ⟨c, known, pattern, rfl⟩ := exists_ofName?_of_patternWords named
  obtain ⟨q, added, selects⟩ := exists_selects_of_resolve joiner
    (Filter.resolve_eq_wrapped known field (Operand.text?_str v))
  have placeholder : Dialect.postgres.placeholder 1 = "$1" := by decide
  have last : template .postgres 2 [] = "" := rfl
  refine ⟨q, added, fun table => ?_⟩
  obtain ⟨page, count⟩ := selects table
  rw [predicate_pattern field pattern] at page count
  refine ⟨?_, ?_⟩
  · rw [page, statement_eq]
    simp only [List.cons_append, List.nil_append, template_text, template_ident, template_param,
      placeholder, last, String.append_assoc, String.append_empty]
    rfl
  · rw [count, statement_eq]
    simp only [List.cons_append, List.nil_append, template_text, template_ident, template_param,
      placeholder, last, String.append_assoc, String.append_empty]
    rfl

/-- The operators that look for a text bind one pattern, the operand between wildcards. It finds
the texts where the operand is, or stands first or last in them, just when what the operand spells
as a pattern of Postgres has such a place in the operand itself. An operand without a backslash
spells itself, and is found just where it is; and with one what it spells is found instead. An
operand that spells nothing ends in a backslash, which the closing wildcard cannot undo: it is not
read without one, and with one it looks for a percent sign. -/
theorem pattern_finds_what_it_spells {name word : String} {w : Wildcard}
    (named : (name, word, w) ∈ patternWords) (field v : String) (joiner : Joiner)
    (plain : ∀ c ∈ v.toList, c ≠ '%' ∧ c ≠ '_') :
    (∃ q, Query.filter {} joiner (.leaf ⟨field, name, .str v⟩) = .ok q ∧ ∀ table,
      let condition := ident table ++ " WHERE " ++ ident field ++ " " ++ word ++ " $1"
      statement .postgres (selectPage table q) =
        ⟨"SELECT * FROM " ++ condition, [.str (w.wrap v)]⟩ ∧
      statement .postgres (selectCount table q) =
        ⟨"SELECT COUNT(*) FROM " ++ condition, [.str (w.wrap v)]⟩) ∧
    ((Readable (w.wrap v) ∧ ∀ text, w.Places v.toList text.toList → Likes (w.wrap v) text) ↔
      ∃ chars, Spells v.toList chars ∧ w.Places chars v.toList) ∧
    (∀ chars, Spells v.toList chars → Readable (w.wrap v) ∧
      ∀ text, Likes (w.wrap v) text ↔ w.Places chars text.toList) ∧
    ('\\' ∉ v.toList → Spells v.toList v.toList) ∧
    (marks? v.toList = none → (Readable (w.wrap v) ↔ w ≠ .leading) ∧
      ∀ text, Likes (w.wrap v) text → '%' ∈ text.toList) := by
  refine ⟨exists_statements_of_pattern named field v joiner, finds_operand_iff plain w,
    fun chars spells => ?_, spells_self plain, fun unread => ?_⟩
  · exact ⟨⟨_, marks?_wrap w spells⟩, likes_wrap_iff w spells⟩
  · exact ⟨readable_wrap_iff_of_dangling w unread, fun _ => percent_mem_of_likes_wrap w unread⟩

/-- A quote and a dot are found as they are. -/
theorem quote_is_found_where_it_is :
    ∃ q, Query.filter {} .and (.leaf ⟨"name", "startsWith", .str "o'b."⟩) = .ok q ∧
      (statement .postgres (selectPage "people" q)).values = [.str "o'b.%"] ∧
      ∀ text, Likes "o'b.%" text ↔ "o'b.".toList <+: text.toList := by
  have named : ("startsWith", "LIKE", Wildcard.trailing) ∈ patternWords := by decide
  have plain : ∀ c ∈ "o'b.".toList, c ≠ '%' ∧ c ≠ '_' := by simp
  obtain ⟨⟨q, added, statements⟩, _, found, itself, _⟩ :=
    pattern_finds_what_it_spells named "name" "o'b." .and plain
  refine ⟨q, added, ?_, (found _ (itself (by decide))).2⟩
  rw [(statements "people").1]
  rfl

/-- A backslash in an operand takes the meaning of the character after it, so that the pattern of
`contains` does not find the operand itself. One at the end of an operand makes a pattern that
`endsWith` cannot be asked with. -/
theorem backslash_is_not_found :
    (∃ q, Query.filter {} .and (.leaf ⟨"path", "contains", .str "a\\b"⟩) = .ok q ∧
      (statement .postgres (selectPage "files" q)).values = [.str "%a\\b%"]) ∧
    Wildcard.both.Places "a\\b".toList "a\\b".toList ∧ ¬ Likes "%a\\b%" "a\\b" ∧
    (∃ q, Query.filter {} .and (.leaf ⟨"path", "endsWith", .str "\\"⟩) = .ok q ∧
      (statement .postgres (selectPage "files" q)).values = [.str "%\\"]) ∧
    ¬ Readable "%\\" := by
  have contained : ("contains", "LIKE", Wildcard.both) ∈ patternWords := by decide
  have last : ("endsWith", "LIKE", Wildcard.leading) ∈ patternWords := by decide
  obtain ⟨inner, added, inside⟩ := exists_statements_of_pattern contained "path" "a\\b" .and
  obtain ⟨closing, added', ending⟩ := exists_statements_of_pattern last "path" "\\" .and
  refine ⟨⟨inner, added, congrArg Statement.values (inside "files").1⟩, List.infix_rfl, ?_,
    ⟨closing, added', congrArg Statement.values (ending "files").1⟩, ?_⟩
  · -- what is looked for has lost the backslash
    have spells : Spells "a\\b".toList ['a', 'b'] := rfl
    have found : Likes "%a\\b%" "a\\b" ↔ ['a', 'b'] <:+: "a\\b".toList :=
      likes_wrap_iff .both spells _
    rw [found]
    decide
  · have unread : marks? "\\".toList = none := rfl
    exact fun readable => (readable_wrap_iff_of_dangling .leading unread).mp readable rfl

end Sql

end DataGrid
