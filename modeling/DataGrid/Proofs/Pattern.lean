import DataGrid.Pattern
import Mathlib.Computability.Language

namespace DataGrid.Pattern

def single (test : Char → Prop) : Language Char :=
  {part | ∃ c, part = [c] ∧ test c}

def Piece.language : Piece → Language Char
  | .run => Set.univ
  | .one => single fun _ => True
  | .char folded => single fun c => Text.foldCase c = folded

/-- What a piece stands for comes after what the pieces before it stand for. -/
def language (pieces : List Piece) : Language Char :=
  (pieces.map Piece.language).prod

/-- A position in a text is marked if the language has the text up to there. -/
structure Marks (L : Language Char) (text : List Char) (reached : List Bool) : Prop where
  length_eq : reached.length = text.length + 1
  marked_iff {i : Nat} : i ≤ text.length → (reached[i]? = some true ↔ text.take i ∈ L)

section
variable {L : Language Char} {text : List Char} {reached : List Bool} {i : Nat}

theorem length_onceTrue (seen : Bool) (bs : List Bool) :
    (onceTrue seen bs).length = bs.length := by
  induction bs generalizing seen with
  | nil => rfl
  | cons b bs ih => exact congrArg (· + 1) (ih (seen || b))

theorem getElem?_onceTrue_iff (seen : Bool) {bs : List Bool} (h : i < bs.length) :
    (onceTrue seen bs)[i]? = some true ↔ seen = true ∨ ∃ j ≤ i, bs[j]? = some true := by
  induction bs generalizing seen i with
  | nil => cases h
  | cons b bs ih =>
    cases i with
    | zero => simp [onceTrue]
    | succ i =>
      have later : (∃ j ≤ i + 1, (b :: bs)[j]? = some true) ↔
          b = true ∨ ∃ j ≤ i, bs[j]? = some true := by
        constructor
        · rintro ⟨_ | j, hj, marked⟩
          · exact .inl (Option.some.inj marked)
          · exact .inr ⟨j, Nat.le_of_succ_le_succ hj, marked⟩
        · rintro (rfl | ⟨j, hj, marked⟩)
          · exact ⟨0, Nat.zero_le _, rfl⟩
          · exact ⟨j + 1, Nat.succ_le_succ hj, marked⟩
      rw [later, ← or_assoc, ← Bool.or_eq_true]
      exact ih (seen || b) (Nat.lt_of_succ_lt_succ h)

/-- With a run behind it, a language has every start of a text from the first that it had on. -/
theorem take_mem_mul_run_iff :
    text.take i ∈ L * Piece.run.language ↔ ∃ j ≤ i, text.take j ∈ L := by
  rw [Language.mem_mul]
  constructor
  · rintro ⟨a, ha, b, -, split⟩
    have start : a = text.take (min a.length i) := by
      rw [← List.take_take, ← split, List.take_left]
    exact ⟨min a.length i, Nat.min_le_right .., start ▸ ha⟩
  · rintro ⟨j, hj, h⟩
    refine ⟨text.take j, h, (text.take i).drop j, trivial, ?_⟩
    have start : text.take j = (text.take i).take j := by rw [List.take_take, Nat.min_eq_left hj]
    rw [start, List.take_append_drop]

theorem take_succ_mem_mul_single_iff {test : Char → Prop} (h : i < text.length) :
    text.take (i + 1) ∈ L * single test ↔ text.take i ∈ L ∧ test text[i] := by
  rw [Language.mem_mul, List.take_add_one, List.getElem?_eq_getElem h]
  constructor
  · rintro ⟨a, ha, _, ⟨c, rfl, hc⟩, split⟩
    obtain ⟨rfl, last⟩ := List.append_inj' split rfl
    cases last
    exact ⟨ha, hc⟩
  · rintro ⟨ha, hc⟩
    exact ⟨text.take i, ha, [text[i]], ⟨_, rfl, hc⟩, rfl⟩

theorem nil_notMem_mul_single {test : Char → Prop} : [] ∉ L * single test := by
  rintro ⟨a, -, _, ⟨c, rfl, -⟩, split⟩
  exact absurd (List.append_eq_nil_iff.mp split).2 (List.cons_ne_nil c [])

theorem Marks.lt_length (marks : Marks L text reached) (h : i ≤ text.length) :
    i < reached.length := by
  rw [marks.length_eq]
  exact Nat.lt_succ_of_le h

theorem Marks.run (marks : Marks L text reached) :
    Marks (L * Piece.run.language) text (onceTrue false reached) where
  length_eq := (length_onceTrue false reached).trans marks.length_eq
  marked_iff {i} hi := by
    rw [getElem?_onceTrue_iff false (marks.lt_length hi), take_mem_mul_run_iff]
    constructor
    · rintro (h | ⟨j, hj, marked⟩)
      · cases h
      · exact ⟨j, hj, (marks.marked_iff (hj.trans hi)).mp marked⟩
    · rintro ⟨j, hj, h⟩
      exact .inr ⟨j, hj, (marks.marked_iff (hj.trans hi)).mpr h⟩

/-- One more character of the text, where `step` keeps a mark if the character passes a test. -/
theorem Marks.single {test : Char → Prop} {step : Char → Bool → Bool}
    (keeps : ∀ c r, step (Text.foldCase c) r = true ↔ r = true ∧ test c)
    (marks : Marks L text reached) :
    Marks (L * single test) text (false :: (text.map Text.foldCase).zipWith step reached) where
  length_eq := by
    rw [List.length_cons, List.length_zipWith, List.length_map, marks.length_eq,
      Nat.min_eq_left (Nat.le_succ _)]
  marked_iff {i} hi := by
    cases i with
    | zero => exact iff_of_false (by simp) nil_notMem_mul_single
    | succ i =>
      have before : i ≤ text.length := Nat.le_of_succ_le hi
      rw [take_succ_mem_mul_single_iff hi, ← marks.marked_iff before, List.getElem?_cons_succ,
        List.getElem?_zipWith, List.getElem?_map, List.getElem?_eq_getElem hi,
        List.getElem?_eq_getElem (marks.lt_length before)]
      simp only [Option.map_some, Option.some.injEq]
      exact keeps _ _

theorem Marks.advance (marks : Marks L text reached) (piece : Piece) :
    Marks (L * piece.language) text (advance (text.map Text.foldCase) reached piece) := by
  cases piece with
  | run => exact marks.run
  | one => exact marks.single fun c r => (and_iff_left trivial).symm
  | char folded =>
    apply marks.single
    intro c r
    rw [Bool.and_eq_true, beq_iff_eq]

theorem Marks.foldl (marks : Marks L text reached) (pieces : List Piece) :
    Marks (L * language pieces) text
      (pieces.foldl (Pattern.advance (text.map Text.foldCase)) reached) := by
  induction pieces generalizing L reached with
  | nil => simpa [language] using marks
  | cons piece pieces ih =>
    -- the first piece joins what is matched so far, and the rest goes on from there
    have split : L * language (piece :: pieces) = L * piece.language * language pieces :=
      (mul_assoc L piece.language (language pieces)).symm
    rw [split]
    exact ih (marks.advance piece)

theorem marks_startOnly (text : List Char) : Marks 1 text (startOnly (text.map Text.foldCase)) where
  length_eq := by simp [startOnly]
  marked_iff {i} hi := by
    rw [Language.mem_one, List.take_eq_nil_iff]
    cases i with
    | zero => simp [startOnly]
    | succ i =>
      have more : text ≠ [] := List.ne_nil_of_length_pos (Nat.zero_lt_of_lt hi)
      simp [startOnly, List.getElem?_replicate, more]

theorem Marks.last_iff (marks : Marks L text reached) :
    reached.getLast?.getD false = true ↔ text ∈ L := by
  have end_of_text := marks.marked_iff (Nat.le_refl text.length)
  rw [List.take_length] at end_of_text
  rw [← end_of_text, List.getLast?_eq_getElem?, marks.length_eq, Nat.add_sub_cancel]
  cases reached[text.length]? <;> simp

end

theorem fits_iff (pieces : List Piece) (text : List Char) :
    fits pieces (text.map Text.foldCase) = true ↔ text ∈ language pieces := by
  have marks := (marks_startOnly text).foldl pieces
  rw [one_mul] at marks
  exact marks.last_iff

/-- The parts of texts that a character of a pattern stands for: any for a percent sign, one
character for an underscore, and otherwise the character itself up to case. -/
inductive StandsFor : Char → List Char → Prop
  | run (part : List Char) : StandsFor '%' part
  | one (d : Char) : StandsFor '_' [d]
  | char {c d : Char} :
    c ≠ '%' → c ≠ '_' → Text.foldCase d = Text.foldCase c → StandsFor c [d]

/-- A text in consecutive parts, one for each character of a pattern. -/
def Cut (pattern text : List Char) : Prop :=
  ∃ parts : List (List Char), parts.flatten = text ∧ List.Forall₂ StandsFor pattern parts

theorem mem_language_ofChar_iff (c : Char) (part : List Char) :
    part ∈ (Piece.ofChar c).language ↔ StandsFor c part := by
  unfold Piece.ofChar
  split_ifs with percent underscore
  · subst percent
    exact iff_of_true trivial (.run part)
  · subst underscore
    constructor
    · rintro ⟨d, rfl, -⟩
      exact .one d
    · rintro (_ | ⟨d⟩ | ⟨-, other, -⟩)
      · exact ⟨d, rfl, trivial⟩
      · exact absurd rfl other
  · constructor
    · rintro ⟨d, rfl, same⟩
      exact .char percent underscore same
    · rintro (_ | _ | @⟨_, d, -, -, same⟩)
      · exact absurd rfl percent
      · exact absurd rfl underscore
      · exact ⟨d, rfl, same⟩

theorem mem_language_iff_cut (pattern text : List Char) :
    text ∈ language (pattern.map Piece.ofChar) ↔ Cut pattern text := by
  induction pattern generalizing text with
  | nil =>
    constructor
    · intro h
      exact ⟨[], ((Language.mem_one text).mp h).symm, .nil⟩
    · rintro ⟨_, rfl, ⟨⟩⟩
      exact Language.nil_mem_one
  | cons c pattern ih =>
    have split : text ∈ language ((c :: pattern).map Piece.ofChar) ↔
        ∃ a ∈ (Piece.ofChar c).language, ∃ b ∈ language (pattern.map Piece.ofChar),
          a ++ b = text := Language.mem_mul
    rw [split]
    constructor
    · rintro ⟨a, ha, b, hb, rfl⟩
      obtain ⟨parts, rfl, stand⟩ := (ih b).mp hb
      exact ⟨a :: parts, rfl, .cons ((mem_language_ofChar_iff c a).mp ha) stand⟩
    · rintro ⟨_, rfl, all⟩
      obtain ⟨a, parts, ha, stand, rfl⟩ := List.forall₂_cons_left_iff.mp all
      exact ⟨a, (mem_language_ofChar_iff c a).mpr ha, parts.flatten,
        (ih _).mpr ⟨parts, rfl, stand⟩, rfl⟩

theorem language_append (before after : List Piece) :
    language (before ++ after) = language before * language after := by
  rw [language, List.map_append, List.prod_append, language, language]

theorem cut_append_iff {before after text : List Char} :
    Cut (before ++ after) text ↔ ∃ a b, a ++ b = text ∧ Cut before a ∧ Cut after b := by
  rw [← mem_language_iff_cut, List.map_append, language_append, Language.mem_mul]
  simp only [mem_language_iff_cut]
  constructor
  · rintro ⟨a, ha, b, hb, split⟩
    exact ⟨a, b, split, ha, hb⟩
  · rintro ⟨a, b, split, ha, hb⟩
    exact ⟨a, ha, b, hb, split⟩

theorem cut_percent (text : List Char) : Cut ['%'] text :=
  ⟨[text], List.append_nil text, .cons (.run text) .nil⟩

theorem cut_percent_append_iff {pattern text : List Char} :
    Cut (['%'] ++ pattern) text ↔ ∃ part, part <:+ text ∧ Cut pattern part := by
  rw [cut_append_iff]
  constructor
  · rintro ⟨a, b, split, -, cut⟩
    exact ⟨b, ⟨a, split⟩, cut⟩
  · rintro ⟨b, ⟨a, split⟩, cut⟩
    exact ⟨a, b, split, cut_percent a, cut⟩

theorem cut_append_percent_iff {pattern text : List Char} :
    Cut (pattern ++ ['%']) text ↔ ∃ part, part <+: text ∧ Cut pattern part := by
  rw [cut_append_iff]
  constructor
  · rintro ⟨a, b, split, cut, -⟩
    exact ⟨a, ⟨b, split⟩, cut⟩
  · rintro ⟨a, ⟨b, split⟩, cut⟩
    exact ⟨a, b, split, cut, cut_percent b⟩

theorem cut_iff_of_plain {pattern text : List Char} (plain : ∀ c ∈ pattern, c ≠ '%' ∧ c ≠ '_') :
    Cut pattern text ↔ text.map Text.foldCase = pattern.map Text.foldCase := by
  induction pattern generalizing text with
  | nil =>
    rw [List.map_nil, List.map_eq_nil_iff]
    constructor
    · rintro ⟨_, rfl, ⟨⟩⟩
      rfl
    · rintro rfl
      exact ⟨[], rfl, .nil⟩
  | cons c pattern ih =>
    obtain ⟨⟨percent, underscore⟩, plain⟩ := List.forall_mem_cons.mp plain
    constructor
    · rintro ⟨_, rfl, all⟩
      obtain ⟨_, parts, head, tail, rfl⟩ := List.forall₂_cons_left_iff.mp all
      cases head with
      | run => exact absurd rfl percent
      | one => exact absurd rfl underscore
      | char _ _ same => exact congrArg₂ List.cons same ((ih plain).mp ⟨parts, rfl, tail⟩)
    · intro same
      obtain ⟨d, text, rfl, head, tail⟩ := List.map_eq_cons_iff.mp same
      obtain ⟨parts, rfl, stand⟩ := (ih plain).mpr tail
      exact ⟨[d] :: parts, rfl, .cons (.char percent underscore head) stand⟩

theorem isMatch_iff (pattern text : String) :
    isMatch pattern text = true ↔
      compiles (pieces pattern) = true ∧ Cut pattern.toList text.toList := by
  rw [isMatch, Bool.and_eq_true, fits_iff, pieces, mem_language_iff_cut]

end DataGrid.Pattern
