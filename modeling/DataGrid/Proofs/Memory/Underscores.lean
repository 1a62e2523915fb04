import DataGrid.Proofs.Filter.Parsing
import DataGrid.Proofs.Memory.Compare
import DataGrid.Proofs.Memory.Like

namespace DataGrid

namespace Pattern

open Automaton

def underscores (n : Nat) : String :=
  String.ofList (List.replicate n '_')

theorem foldl_size_replicate (reading : Reading) (piece : Piece) (n total : Nat) :
    (List.replicate n piece).foldl (fun total piece => total + piece.size reading) total =
      total + n * piece.size reading := by
  induction n generalizing total with
  | zero => simp
  | succ n ih =>
    rw [List.replicate_succ, List.foldl_cons, ih, Nat.add_mul]
    omega

theorem isBuilt_underscores_iff (n : Nat) (reading : Reading) :
    isBuilt (pieces (Wildcard.both.wrap (underscores n))) reading = true ↔
      frameSize reading + 2 * Piece.run.size reading + n * Piece.one.size reading ≤ maxSize := by
  have parts : pieces (Wildcard.both.wrap (underscores n)) =
      .run :: (List.replicate n .one ++ [.run]) := by
    simp [pieces, Wildcard.wrap, underscores, Piece.ofChar]
  rw [isBuilt, decide_eq_true_iff, parts, List.foldl_cons, List.foldl_append, foldl_size_replicate,
    List.foldl_cons, List.foldl_nil]
  omega

theorem compiles_underscores_iff (n : Nat) :
    compiles (pieces (Wildcard.both.wrap (underscores n))) = true ↔ n ≤ 10875 := by
  have forward : Piece.run.size .forward = 456 ∧ Piece.one.size .forward = 416 := by decide +kernel
  have backward : Piece.run.size .backward = 1004 ∧ Piece.one.size .backward = 964 := by
    decide +kernel
  rw [compiles, Bool.and_eq_true, isBuilt_underscores_iff, isBuilt_underscores_iff, forward.1,
    forward.2, backward.1, backward.2, frameSize, frameSize, stateSize, maxSize]
  omega

theorem cut_replicate_underscore_iff {n : Nat} {text : List Char} :
    Cut (List.replicate n '_') text ↔ text.length = n := by
  induction n generalizing text with
  | zero =>
    rw [List.replicate_zero, cut_iff_of_plain (by simp)]
    simp
  | succ n ih =>
    constructor
    · rintro ⟨_, rfl, all⟩
      obtain ⟨_, parts, head, tail, rfl⟩ := List.forall₂_cons_left_iff.mp all
      have rest := ih.mp ⟨parts, rfl, tail⟩
      cases head with
      | one d => exact congrArg (· + 1) rest
      | char _ other _ => exact absurd rfl other
    · intro long
      obtain ⟨d, text, rfl⟩ := List.exists_cons_of_length_eq_add_one long
      obtain ⟨parts, rfl, stand⟩ := ih.mpr (Nat.succ.inj long)
      exact ⟨[d] :: parts, rfl, .cons (.one d) stand⟩

theorem cut_underscores_iff {n : Nat} {text : String} :
    Cut (Wildcard.both.wrap (underscores n)).toList text.toList ↔ n ≤ text.length := by
  rw [cut_wrap_iff, underscores, String.toList_ofList]
  simp only [cut_replicate_underscore_iff]
  constructor
  · rintro ⟨part, inside, rfl⟩
    exact inside.length_le
  · intro enough
    refine ⟨text.toList.take n, (List.take_prefix n _).isInfix, ?_⟩
    rw [List.length_take, String.length_toList, Nat.min_eq_left enough]

end Pattern

def Operator.containing : List (String × Bool) :=
  [("contains", true), ("notContains", false)]

namespace Memory

open Pattern

theorem exists_kept_of_part {field : String} (named : field ≠ "") {name : String} {expected : Bool}
    (known : (name, expected) ∈ Operator.containing) (part : String) (joiner : Joiner) :
    ∃ tree q, Filter.parse (.arr [.str field, .str name, .str part]) = .ok tree ∧
      Query.filter {} joiner tree = .ok q ∧
      ∀ row text, row.get? field = some (.str text) → ∀ rows,
        (row ∈ kept rows q ↔ row ∈ rows ∧ isMatch (Wildcard.both.wrap part) text = expected) := by
  have read : Filter.parse (.arr [.str field, .str name, .str part]) =
      .ok (.leaf ⟨field, name, .str part⟩) := by
    rw [Filter.parse, Filter.parseAt, Filter.arrayComparison]
    exact Filter.comparison_eq_ok_iff.mpr ⟨field, name, _, rfl, named, rfl, rfl, rfl⟩
  have written : (Operand.str part).text? = some part := rfl
  simp only [Operator.containing, List.mem_cons, Prod.mk.injEq, List.not_mem_nil, or_false] at known
  rcases known with ⟨rfl, rfl⟩ | ⟨rfl, rfl⟩
  · have operator : Operator.ofName? "contains" = some ⟨"contains", .like, some .both⟩ := rfl
    obtain ⟨q, added, keeps⟩ :=
      exists_kept_of_resolve joiner (Filter.resolve_eq_wrapped operator field written)
    refine ⟨_, q, read, added, fun row text held rows => ?_⟩
    rw [keeps, evaluate_like (Operand.text?_str _), shown?_eq_some held rfl, Option.any_some]
  · have operator :
        Operator.ofName? "notContains" = some ⟨"notContains", .notLike, some .both⟩ := rfl
    obtain ⟨q, added, keeps⟩ :=
      exists_kept_of_resolve joiner (Filter.resolve_eq_wrapped operator field written)
    refine ⟨_, q, read, added, fun row text held rows => ?_⟩
    rw [keeps, evaluate_notLike (Operand.text?_str _), shown?_eq_some held rfl, Option.any_some,
      Bool.not_eq_true']

/-- The pattern of up to 10875 underscores is built, and no larger one. While it is built, `contains`
keeps just the texts with at least as many characters, and `notContains` just the shorter ones.
Otherwise `contains` keeps no text, and `notContains` keeps all of them. -/
theorem underscores_count_characters_if_built (joiner : Joiner) {field : String}
    (named : field ≠ "") (n : Nat) :
    let built := compiles (pieces (Wildcard.both.wrap (underscores n))) = true
    (built ↔ n ≤ 10875) ∧
    (∃ tree q,
      Filter.parse (.arr [.str field, .str "contains", .str (underscores n)]) = .ok tree ∧
      Query.filter {} joiner tree = .ok q ∧
      ∀ row text, row.get? field = some (.str text) → ∀ rows,
        (row ∈ kept rows q ↔ row ∈ rows ∧ built ∧ n ≤ text.length)) ∧
    ∃ tree q,
      Filter.parse (.arr [.str field, .str "notContains", .str (underscores n)]) = .ok tree ∧
      Query.filter {} joiner tree = .ok q ∧
      ∀ row text, row.get? field = some (.str text) → ∀ rows,
        (row ∈ kept rows q ↔ row ∈ rows ∧ (built → text.length < n)) := by
  intro built
  have matched (text : String) :
      isMatch (Wildcard.both.wrap (underscores n)) text = true ↔ built ∧ n ≤ text.length := by
    rw [isMatch_iff, cut_underscores_iff]
  refine ⟨compiles_underscores_iff n, ?_, ?_⟩
  · have known : ("contains", true) ∈ Operator.containing := by decide
    obtain ⟨tree, q, read, added, keeps⟩ := exists_kept_of_part named known (underscores n) joiner
    refine ⟨tree, q, read, added, fun row text held rows => ?_⟩
    rw [keeps row text held, matched]
  · have known : ("notContains", false) ∈ Operator.containing := by decide
    obtain ⟨tree, q, read, added, keeps⟩ := exists_kept_of_part named known (underscores n) joiner
    refine ⟨tree, q, read, added, fun row text held rows => ?_⟩
    rw [keeps row text held, ← Bool.not_eq_true, matched, not_and, Nat.not_le]

/-- Two underscores tell a text of one character from a text of two. -/
theorem two_underscores_are_in_two_characters :
    let short : Json := .obj [("a", .str "x")]
    let long : Json := .obj [("a", .str "xy")]
    (∃ tree q, Filter.parse (.arr [.str "a", .str "contains", .str "__"]) = .ok tree ∧
      Query.filter {} .and tree = .ok q ∧
      short ∉ kept [short, long] q ∧ long ∈ kept [short, long] q) ∧
    ∃ tree q, Filter.parse (.arr [.str "a", .str "notContains", .str "__"]) = .ok tree ∧
      Query.filter {} .and tree = .ok q ∧
      short ∈ kept [short, long] q ∧ long ∉ kept [short, long] q := by
  intro short long
  have named : "a" ≠ "" := by decide
  obtain ⟨few, ⟨tree, q, read, added, keeps⟩, tree', q', read', added', keeps'⟩ :=
    underscores_count_characters_if_built .and named 2
  have built := few.mpr (by decide)
  refine ⟨⟨tree, q, read, added, ?_, ?_⟩, tree', q', read', added', ?_, ?_⟩
  · rw [keeps short "x" rfl]
    exact fun kept => absurd kept.2.2 (by decide)
  · rw [keeps long "xy" rfl]
    exact ⟨by simp, built, by decide⟩
  · rw [keeps' short "x" rfl]
    exact ⟨by simp, fun _ => by decide⟩
  · rw [keeps' long "xy" rfl]
    exact fun kept => absurd (kept.2 built) (by decide)

/-- A text of 30000 letters has 30000 characters in it, but `contains` does not keep it, and
`notContains` does. -/
theorem many_letters_do_not_contain_as_many_underscores :
    let text := String.ofList (List.replicate 30000 'a')
    let row : Json := .obj [("v", .str text)]
    text.length = 30000 ∧
    (∃ tree q,
      Filter.parse (.arr [.str "v", .str "contains", .str (underscores 30000)]) = .ok tree ∧
      Query.filter {} .and tree = .ok q ∧ row ∉ kept [row] q) ∧
    ∃ tree q,
      Filter.parse (.arr [.str "v", .str "notContains", .str (underscores 30000)]) = .ok tree ∧
      Query.filter {} .and tree = .ok q ∧ row ∈ kept [row] q := by
  intro text row
  have named : "v" ≠ "" := by decide
  have unmatched : isMatch (Wildcard.both.wrap (underscores 30000)) text = false := by
    rw [← Bool.not_eq_true, isMatch_iff]
    exact fun hit => absurd ((compiles_underscores_iff _).mp hit.1) (by decide)
  refine ⟨by rw [String.length_ofList, List.length_replicate], ?_, ?_⟩
  · have known : ("contains", true) ∈ Operator.containing := by decide
    obtain ⟨tree, q, read, added, keeps⟩ := exists_kept_of_part named known (underscores 30000) .and
    refine ⟨tree, q, read, added, ?_⟩
    rw [keeps row text rfl, unmatched]
    exact fun kept => absurd kept.2 (by decide)
  · have known : ("notContains", false) ∈ Operator.containing := by decide
    obtain ⟨tree, q, read, added, keeps⟩ := exists_kept_of_part named known (underscores 30000) .and
    refine ⟨tree, q, read, added, ?_⟩
    rw [keeps row text rfl]
    exact ⟨List.mem_singleton_self row, unmatched⟩

end Memory

end DataGrid
