import DataGrid.Proofs.Sql.Grammar
import DataGrid.Proofs.Sql.Junction
import DataGrid.Proofs.Sql.Truth
import DataGrid.Sql.Select
import Mathlib.Logic.ExistsUnique

namespace DataGrid.Sql

open Sql.Condition

/-- The tokens of a clause; there are none without a predicate. -/
def whereTokens (w : Where) : List Token :=
  (ofWhere? w).elim [] tokens

/-- A WHERE part as it is written: predicates by their own texts, and nothing without tokens. -/
def written : List Token → List Piece
  | [] => []
  | ts => .text " WHERE " :: ts.flatMap Token.pieces

/-- Whether a WHERE part keeps a row: what it reads as is true, or there is none. -/
def Keeps (truth : Predicate → Truth) (ts : List Token) : Prop :=
  ts = [] ∨ ∃ c, Reads .disjunction ts c ∧ c.value truth = .true

theorem tokens_ne_nil (c : Condition) : c.tokens ≠ [] := by
  intro h
  have read : Reads .disjunction c.tokens c := (reads_tokens c).disjunction_of_level
  rw [h] at read
  exact not_reads_nil c read

theorem written_eq_nil_iff (ts : List Token) : written ts = [] ↔ ts = [] := by
  cases ts <;> simp [written]

theorem written_tokens (c : Condition) : written c.tokens = .text " WHERE " :: c.pieces := by
  unfold written
  split
  · next h => exact absurd h (tokens_ne_nil c)
  · rfl

theorem wherePart_eq_written (w : Where) : wherePart w = written (whereTokens w) := by
  unfold wherePart whereTokens
  cases ofWhere? w with
  | none => rfl
  | some c => exact (written_tokens c).symm

theorem ofWhere?_eq_none_iff (w : Where) : ofWhere? w = none ↔ w.predicates = [] := by
  rw [ofWhere?_eq_fold]
  exact w.fold_eq_none_iff

theorem whereTokens_eq_nil_iff (w : Where) : whereTokens w = [] ↔ w.predicates = [] := by
  rw [← ofWhere?_eq_none_iff, whereTokens]
  cases ofWhere? w <;> simp [tokens_ne_nil]

theorem reads_whereTokens_iff (w : Where) (c : Condition) :
    Reads .disjunction (whereTokens w) c ↔ ofWhere? w = some c := by
  unfold whereTokens
  cases ofWhere? w with
  | none => exact iff_of_false (not_reads_nil c) (by intro h; cases h)
  | some d =>
    have hd : Reads .disjunction d.tokens d := (reads_tokens d).disjunction_of_level
    constructor
    · intro hc
      rw [reads_unique hd hc]
    · intro h
      cases h
      exact hd

theorem map_value_ofWhere? (truth : Predicate → Truth) (w : Where) :
    (ofWhere? w).map (value truth) = w.fold truth Truth.join := by
  rw [ofWhere?_eq_fold]
  exact w.map_fold fun _ _ _ => rfl

/-- A clause holds of the test for truth when its value is true or it has none. -/
theorem holds_isTrue (truth : Predicate → Truth) (w : Where) :
    w.holds (fun p => (truth p).isTrue) =
      ((w.fold truth Truth.join).map Truth.isTrue).getD true := by
  rw [w.map_fold Truth.isTrue_join]
  rfl

theorem keeps_whereTokens_iff (truth : Predicate → Truth) (w : Where) :
    Keeps truth (whereTokens w) ↔ w.holds (fun p => (truth p).isTrue) = true := by
  unfold Keeps
  rw [holds_isTrue, ← map_value_ofWhere?, whereTokens_eq_nil_iff, ← ofWhere?_eq_none_iff]
  simp only [reads_whereTokens_iff]
  cases ofWhere? w <;> simp [Truth.isTrue]

/-- Both statements of a query have the same WHERE part, which is left out just when the clause has
no predicate. It has one reading, whatever the joiners and groups of the clause, and under every
assignment of truth values that reading has the value of the clause folded from left to right; so
a row is kept just when the clause holds of the test for truth. -/
theorem where_part_reads_as_clause (table : String) (q : Query) :
    ∃ ts : List Token,
      selectPage table q =
        [.text "SELECT * FROM ", .ident table] ++ written ts ++
          (orderPart q.orders ++ boundPart " LIMIT " q.limit ++ boundPart " OFFSET " q.offset) ∧
      selectCount table q = [.text "SELECT COUNT(*) FROM ", .ident table] ++ written ts ∧
      (written ts = [] ↔ q.clause.predicates = []) ∧
      (q.clause.predicates ≠ [] → ∃! c, Reads .disjunction ts c) ∧
      ∀ truth : Predicate → Truth,
        (∀ c, Reads .disjunction ts c → q.clause.fold truth Truth.join = some (c.value truth)) ∧
        (Keeps truth ts ↔ q.clause.holds (fun p => (truth p).isTrue) = true) := by
  refine ⟨whereTokens q.clause, ?_, ?_, ?_, ?_, fun truth => ⟨?_, ?_⟩⟩
  · simp only [selectPage, wherePart_eq_written, List.cons_append, List.nil_append,
      List.append_assoc]
  · simp only [selectCount, wherePart_eq_written, List.cons_append, List.nil_append]
  · rw [written_eq_nil_iff, whereTokens_eq_nil_iff]
  · intro some_predicate
    obtain ⟨c, hc⟩ : ∃ c, ofWhere? q.clause = some c :=
      Option.ne_none_iff_exists'.mp (mt (ofWhere?_eq_none_iff _).mp some_predicate)
    refine ⟨c, (reads_whereTokens_iff _ c).mpr hc, fun d hd => ?_⟩
    exact reads_unique hd ((reads_whereTokens_iff _ c).mpr hc)
  · intro c hc
    rw [← map_value_ofWhere?, (reads_whereTokens_iff _ c).mp hc]
    rfl
  · exact keeps_whereTokens_iff truth q.clause

end DataGrid.Sql
