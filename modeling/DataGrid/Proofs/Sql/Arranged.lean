import DataGrid.Proofs.Sql.Pieces
import DataGrid.Sql.Select
import Mathlib.Data.List.Basic

namespace DataGrid.Sql

def conditionWords : List String :=
  [" = ", " <> ", " > ", " >= ", " < ", " <= ", " LIKE ", " NOT LIKE ", " IN (", " NOT IN (",
    " IS NULL", " IS NOT NULL", " AND ", " OR ", "(", ")", ", "]

def headWords : List String :=
  "SELECT * FROM " :: " WHERE " :: " ORDER BY " :: " ASC" :: " DESC" :: conditionWords

def statementWords : List String :=
  "SELECT COUNT(*) FROM " :: " LIMIT " :: " OFFSET " :: headWords

/-- Words that nothing after them is read on with. -/
def endsApart (words : String) : Bool :=
  words.toList.getLast?.any fun c => c = ' ' ∨ c = '('

/-- The pieces have no words but those listed, and each name and each value comes after words that
end apart, as what is before the first piece does or does not. -/
def Arranged (words : List String) : (apart : Bool) → List Piece → Prop
  | _, [] => True
  | _, .text w :: ps => w ∈ words ∧ Arranged words (endsApart w) ps
  | apart, .ident _ :: ps => apart = true ∧ Arranged words false ps
  | apart, .param _ :: ps => apart = true ∧ Arranged words false ps

namespace Arranged

section
variable {words more : List String} {apart : Bool} {ps qs : List Piece}

theorem mono (h : Arranged words apart ps) (subset : words ⊆ more) : Arranged more apart ps := by
  induction ps generalizing apart with
  | nil => trivial
  | cons p ps ih =>
    cases p with
    | text w => exact ⟨subset h.1, ih h.2⟩
    | ident name => exact ⟨h.1, ih h.2⟩
    | param v => exact ⟨h.1, ih h.2⟩

theorem append (hps : Arranged words apart ps) (hqs : ∀ apart, Arranged words apart qs) :
    Arranged words apart (ps ++ qs) := by
  induction ps generalizing apart with
  | nil => exact hqs apart
  | cons p ps ih =>
    cases p with
    | text w => exact ⟨hps.1, ih hps.2⟩
    | ident name => exact ⟨hps.1, ih hps.2⟩
    | param v => exact ⟨hps.1, ih hps.2⟩

theorem of_append (h : Arranged words apart (ps ++ qs)) : Arranged words apart ps := by
  induction ps generalizing apart with
  | nil => trivial
  | cons p ps ih =>
    cases p with
    | text w => exact ⟨h.1, ih h.2⟩
    | ident name => exact ⟨h.1, ih h.2⟩
    | param v => exact ⟨h.1, ih h.2⟩

theorem text_mem (h : Arranged words apart ps) {w : String} (member : .text w ∈ ps) :
    w ∈ words := by
  induction ps generalizing apart with
  | nil => cases member
  | cons p ps ih =>
    cases p with
    | text w' =>
      obtain _ | ⟨_, member⟩ := member
      · exact h.1
      · exact ih h.2 member
    | ident name =>
      obtain _ | ⟨_, member⟩ := member
      exact ih h.2 member
    | param v =>
      obtain _ | ⟨_, member⟩ := member
      exact ih h.2 member

end

end Arranged

theorem arranged_close (apart : Bool) : Arranged conditionWords apart [.text ")"] :=
  ⟨by decide, trivial⟩

theorem arranged_separatedParams (vs : List Param) :
    Arranged conditionWords true (separatedParams vs) := by
  induction vs with
  | nil => trivial
  | cons v vs ih =>
    cases vs with
    | nil => exact ⟨rfl, trivial⟩
    | cons next vs => exact ⟨rfl, by decide, ih⟩

theorem arranged_binary (field : String) {word : String}
    (listed : " " ++ word ++ " " ∈ conditionWords)
    (apart : endsApart (" " ++ word ++ " ") = true) (v : Option Param) :
    Arranged conditionWords true (binary field word v) := by
  cases v with
  | none => exact ⟨rfl, trivial⟩
  | some v => exact ⟨rfl, listed, apart, trivial⟩

theorem arranged_membership (field : String) {word : String}
    (listed : " " ++ word ++ " (" ∈ conditionWords)
    (apart : endsApart (" " ++ word ++ " (") = true) (emptyRight : Nat) (vs : List Param) :
    Arranged conditionWords true (membership field word emptyRight vs) := by
  cases vs with
  | nil => exact ⟨rfl, by decide, rfl, trivial⟩
  | cons v vs =>
    have items : Arranged conditionWords (endsApart (" " ++ word ++ " (")) _ :=
      apart ▸ (arranged_separatedParams (v :: vs)).append arranged_close
    exact ⟨rfl, listed, items⟩

theorem arranged_predicate (p : Predicate) : Arranged conditionWords true (predicate p) := by
  unfold predicate
  split
  · exact ⟨rfl, by decide, trivial⟩
  · exact arranged_membership _ (by decide) (by decide) _ _
  · exact arranged_binary _ (by decide) (by decide) _
  · exact ⟨rfl, by decide, trivial⟩
  · exact arranged_membership _ (by decide) (by decide) _ _
  -- all that is left compares the column with one value
  all_goals exact arranged_binary _ (by decide) (by decide) _

theorem Arranged.enclosed {ps : List Piece} (h : Arranged conditionWords true ps) (parens : Bool) :
    Arranged conditionWords true (Sql.enclosed parens ps) := by
  cases parens with
  | false => exact h
  | true => exact ⟨by decide, h.append arranged_close⟩

theorem arranged_pieces (c : Condition) : Arranged conditionWords true c.pieces := by
  induction c with
  | atom p =>
    rw [Condition.pieces_atom]
    exact arranged_predicate p
  | join joiner left right ihl ihr =>
    have listed : joinWord joiner ∈ conditionWords := by cases joiner <;> decide
    have apart : endsApart (joinWord joiner) = true := by cases joiner <;> decide
    rw [Condition.pieces_join]
    refine (ihl.enclosed _).append fun _ => ⟨listed, ?_⟩
    rw [apart]
    exact ihr.enclosed _

theorem arranged_wherePart (w : Where) (apart : Bool) :
    Arranged (" WHERE " :: conditionWords) apart (wherePart w) := by
  unfold wherePart
  split
  · trivial
  · next c _ => exact ⟨by decide, (arranged_pieces c).mono (List.subset_cons_self ..)⟩

theorem arranged_orderPieces (keys : List SortKey) :
    Arranged headWords true (orderPieces keys) := by
  induction keys with
  | nil => trivial
  | cons key keys ih =>
    have listed : Direction.word key.direction ∈ headWords := by
      cases key.direction <;> decide
    cases keys with
    | nil => exact ⟨rfl, listed, trivial⟩
    | cons next keys => exact ⟨rfl, listed, by decide, ih⟩

theorem arranged_orderPart (keys : List SortKey) (apart : Bool) :
    Arranged headWords apart (orderPart keys) := by
  cases keys with
  | nil => trivial
  | cons key keys => exact ⟨by decide, arranged_orderPieces (key :: keys)⟩

def pageHead (table : String) (q : Query) : List Piece :=
  .text "SELECT * FROM " :: .ident table :: (wherePart q.clause ++ orderPart q.orders)

theorem selectPage_eq_pageHead (table : String) (q : Query) :
    selectPage table q =
      pageHead table q ++ (boundPart " LIMIT " q.limit ++ boundPart " OFFSET " q.offset) := by
  simp only [selectPage, pageHead, List.cons_append, List.append_assoc]

theorem arranged_pageHead (table : String) (q : Query) (apart : Bool) :
    Arranged headWords apart (pageHead table q) :=
  ⟨by decide, rfl, ((arranged_wherePart q.clause false).mono (by decide)).append
    (arranged_orderPart q.orders)⟩

theorem arranged_selectPage (table : String) (q : Query) (apart : Bool) :
    Arranged statementWords apart (selectPage table q) := by
  have limit (apart : Bool) : Arranged statementWords apart (boundPart " LIMIT " q.limit) := by
    cases q.limit with
    | none => trivial
    | some n => exact ⟨by decide, rfl, trivial⟩
  have offset (apart : Bool) : Arranged statementWords apart (boundPart " OFFSET " q.offset) := by
    cases q.offset with
    | none => trivial
    | some n => exact ⟨by decide, rfl, trivial⟩
  rw [selectPage_eq_pageHead]
  exact ((arranged_pageHead table q apart).mono (by decide)).append fun apart =>
    (limit apart).append offset

theorem arranged_selectCount (table : String) (q : Query) (apart : Bool) :
    Arranged statementWords apart (selectCount table q) :=
  ⟨by decide, rfl, (arranged_wherePart q.clause false).mono (by decide)⟩

end DataGrid.Sql
