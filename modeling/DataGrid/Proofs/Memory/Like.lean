import DataGrid.Memory.Table
import DataGrid.Proofs.Filter.Meaning
import DataGrid.Proofs.Filter.Resolve
import DataGrid.Proofs.Pattern

namespace DataGrid

/-- Where a wildcard leaves the part of a text that the pattern itself stands for. -/
def Wildcard.Places : Wildcard → List Char → List Char → Prop
  | .both, part, text => part <:+: text
  | .trailing, part, text => part <+: text
  | .leading, part, text => part <:+ text

theorem Wildcard.places_self (w : Wildcard) (text : List Char) : w.Places text text := by
  cases w with
  | both => exact List.infix_rfl
  | trailing => exact List.prefix_rfl
  | leading => exact List.suffix_rfl

theorem Wildcard.Places.trans {w : Wildcard} {a b c : List Char} (h : w.Places a b)
    (h' : w.Places b c) : w.Places a c := by
  cases w with
  | both => exact List.IsInfix.trans h h'
  | trailing => exact List.IsPrefix.trans h h'
  | leading => exact List.IsSuffix.trans h h'

theorem Wildcard.places_map_iff (w : Wildcard) (f : Char → Char) (part text : List Char) :
    w.Places part (text.map f) ↔ ∃ l, w.Places l text ∧ part = l.map f := by
  cases w with
  | both => exact List.infix_map_iff
  | trailing => exact List.prefix_map_iff
  | leading => exact List.suffix_map_iff

open Pattern

theorem Pattern.cut_wrap_iff (w : Wildcard) (pattern : String) (text : List Char) :
    Cut (w.wrap pattern).toList text ↔ ∃ part, w.Places part text ∧ Cut pattern.toList part := by
  have percent : "%".toList = ['%'] := rfl
  cases w with
  | both =>
    rw [Wildcard.wrap, String.toList_append, String.toList_append, percent, cut_append_percent_iff]
    simp only [cut_percent_append_iff]
    constructor
    · rintro ⟨start, hstart, part, hpart, cut⟩
      exact ⟨part, List.infix_iff_suffix_prefix.mpr ⟨start, hpart, hstart⟩, cut⟩
    · rintro ⟨part, inside, cut⟩
      obtain ⟨start, hpart, hstart⟩ := List.infix_iff_suffix_prefix.mp inside
      exact ⟨start, hstart, part, hpart, cut⟩
  | trailing =>
    rw [Wildcard.wrap, String.toList_append, percent, cut_append_percent_iff]
    rfl
  | leading =>
    rw [Wildcard.wrap, String.toList_append, percent, cut_percent_append_iff]
    rfl

theorem Pattern.cut_wrap_iff_of_plain (w : Wildcard) {pattern : String} (text : List Char)
    (plain : ∀ c ∈ pattern.toList, c ≠ '%' ∧ c ≠ '_') :
    Cut (w.wrap pattern).toList text ↔
      w.Places (pattern.toList.map Text.foldCase) (text.map Text.foldCase) := by
  rw [cut_wrap_iff, w.places_map_iff]
  simp only [cut_iff_of_plain plain, eq_comm]

@[simp] theorem Operand.text?_str (s : String) : (Operand.str s).text? = some s :=
  rfl

def Operator.seeking : List (String × Wildcard) :=
  [("contains", .both), ("startsWith", .trailing), ("endsWith", .leading)]

theorem Operator.ofName?_of_seeking {name : String} {w : Wildcard} (named : (name, w) ∈ seeking) :
    ofName? name = some ⟨name, .like, some w⟩ := by
  simp only [seeking, List.mem_cons, Prod.mk.injEq, List.not_mem_nil, or_false] at named
  rcases named with ⟨rfl, rfl⟩ | ⟨rfl, rfl⟩ | ⟨rfl, rfl⟩ <;> rfl

theorem Filter.resolve_eq_wrapped {name : String} {c : Comparison} {w : Wildcard}
    (known : Operator.ofName? name = some ⟨name, c, some w⟩) (field : String)
    {operand : Operand} {pattern : String} (written : operand.text? = some pattern) :
    Filter.resolve ⟨field, name, operand⟩ = .ok ⟨field, c, .str (w.wrap pattern)⟩ := by
  refine Filter.resolve_eq_ok_iff.mpr ⟨_, .str (w.wrap pattern), known, ?_, rfl⟩
  refine Operator.prepare?_eq_some_iff.mpr ⟨?_, ?_⟩
  · cases operand with
    | list items => cases written
    | null => cases written
    | _ => rfl
  · rw [Operator.operand, written]

namespace Memory

/-- What patterns see in a field of a row: the text there, or how its number or truth value is
written. -/
def shown? (field : String) (row : Json) : Option String :=
  (present? field row).bind text?

theorem shown?_eq_some {field text : String} {row value : Json}
    (held : row.get? field = some value) (own : text? value = some text) :
    shown? field row = some text := by
  unfold shown? present?
  rw [held]
  cases value with
  | null => cases own
  | _ => exact own

section
variable {operand : Operand} {pattern : String} (written : operand.text? = some pattern)
include written

theorem evaluate_like (field : String) (row : Json) :
    evaluate ⟨field, .like, operand⟩ row = (shown? field row).any (isMatch pattern) := by
  unfold evaluate shown?
  cases present? field row with
  | none => rfl
  | some value =>
    simp only [test, matchesPattern, written, Option.bind_some]
    cases text? value <;> simp

theorem evaluate_notLike (field : String) (row : Json) :
    evaluate ⟨field, .notLike, operand⟩ row = (shown? field row).any (!isMatch pattern ·) := by
  unfold evaluate shown?
  cases present? field row with
  | none => rfl
  | some value =>
    simp only [test, matchesPattern, written, Option.bind_some]
    cases text? value <;> simp

end

/-- A pattern whose automaton is built matches a text just when the text can be cut into parts, one
for each character of the pattern. A row that shows the text is kept by the pattern just then, and
dropped by its negation. So an operand without wildcards, which `contains`, `startsWith` and
`endsWith` make a pattern of, keeps the rows that show it somewhere, first or last, up to case. -/
theorem pattern_keeps_rows_it_cuts (field : String) {operand : Operand} {pattern : String}
    (written : operand.text? = some pattern) :
    (compiles (pieces pattern) = true → ∀ text,
      (isMatch pattern text = true ↔ Cut pattern.toList text.toList) ∧
      ∀ row, shown? field row = some text →
        (evaluate ⟨field, .like, operand⟩ row = true ↔ Cut pattern.toList text.toList) ∧
        (evaluate ⟨field, .notLike, operand⟩ row = false ↔ Cut pattern.toList text.toList)) ∧
    ((∀ c ∈ pattern.toList, c ≠ '%' ∧ c ≠ '_') → ∀ (joiner : Joiner) (name : String) (w : Wildcard),
      (name, w) ∈ [("contains", .both), ("startsWith", .trailing), ("endsWith", .leading)] →
      compiles (pieces (w.wrap pattern)) = true →
      ∃ q, Query.filter {} joiner (.leaf ⟨field, name, operand⟩) = .ok q ∧
        ∀ rows row, row ∈ kept rows q ↔ row ∈ rows ∧ ∃ text, shown? field row = some text ∧
          w.Places (pattern.toList.map Text.foldCase) (text.toList.map Text.foldCase)) := by
  refine ⟨fun built text => ?_, fun plain joiner name w named built => ?_⟩
  · have hit : isMatch pattern text = true ↔ Cut pattern.toList text.toList := by
      rw [isMatch_iff, and_iff_right built]
    refine ⟨hit, fun row shown => ⟨?_, ?_⟩⟩
    · rw [evaluate_like written, shown, Option.any_some, hit]
    · rw [evaluate_notLike written, shown, Option.any_some, Bool.not_eq_false', hit]
  · obtain ⟨q, added, holds⟩ := Query.exists_filter_of_resolve joiner
      (Filter.resolve_eq_wrapped (Operator.ofName?_of_seeking named) field written)
    refine ⟨q, added, fun rows row => ?_⟩
    have found (text : String) : isMatch (w.wrap pattern) text = true ↔
        w.Places (pattern.toList.map Text.foldCase) (text.toList.map Text.foldCase) := by
      rw [isMatch_iff, and_iff_right built, cut_wrap_iff_of_plain w _ plain]
    rw [kept, List.mem_filter, holds, evaluate_like (Operand.text?_str _), Option.any_eq_true]
    simp only [found]

/-- A run over a line break, a dot that stands for itself, and letters in another case. -/
theorem dot_is_found_across_lines :
    let row : Json := .obj [("a", .str "x\nb.cy")]
    evaluate ⟨"a", .like, .str "%B._Y"⟩ row = true ∧
      ∃ q, Query.filter {} .and (.leaf ⟨"a", "contains", .str "B.C"⟩) = .ok q ∧
        row ∈ kept [row] q := by
  intro row
  have shown : shown? "a" row = some "x\nb.cy" := rfl
  have cut : Cut "%B._Y".toList "x\nb.cy".toList :=
    ⟨[['x', '\n'], ['b'], ['.'], ['c'], ['y']], rfl,
      .cons (.run _) <| .cons (.char (by decide) (by decide) (by decide)) <|
        .cons (.char (by decide) (by decide) rfl) <| .cons (.one _) <|
          .cons (.char (by decide) (by decide) (by decide)) .nil⟩
  obtain ⟨matched, -⟩ := pattern_keeps_rows_it_cuts "a" (Operand.text?_str "%B._Y")
  obtain ⟨-, sought⟩ := pattern_keeps_rows_it_cuts "a" (Operand.text?_str "B.C")
  have plain : ∀ c ∈ "B.C".toList, c ≠ '%' ∧ c ≠ '_' := by simp
  obtain ⟨q, added, found⟩ := sought plain .and "contains" .both (by decide) (by decide)
  have inside : Wildcard.both.Places ("B.C".toList.map Text.foldCase)
      ("x\nb.cy".toList.map Text.foldCase) := ⟨['x', '\n'], ['y'], by decide +kernel⟩
  exact ⟨((matched (by decide) _).2 row shown).1.mpr cut, q, added,
    (found [row] row).mpr ⟨List.mem_singleton_self row, _, shown, inside⟩⟩

end Memory

end DataGrid
