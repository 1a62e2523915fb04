import DataGrid.Proofs.Sql.Carried

namespace DataGrid

/-- Operands that differ in their contents: two scalars in any way, two lists in their items. -/
inductive Operand.Alike : Operand → Operand → Prop
  | same (v : Operand) : Alike v v
  | scalars {v w : Operand} : v.isScalar = true → w.isScalar = true → Alike v w
  | lists {items others : List Operand} : items ≠ [] → items.length = others.length →
    Alike (.list items) (.list others)

structure Predicate.Alike (p q : Predicate) : Prop where
  field : p.field = q.field
  comparison : p.comparison = q.comparison
  value : p.value.Alike q.value

mutual

inductive Clause.Alike : Clause → Clause → Prop
  | test {p q : Predicate} : p.Alike q → Clause.Alike (.test p) (.test q)
  | group {entries others : List (Joiner × Clause)} : Clause.AlikeAll entries others →
    Clause.Alike (.group entries) (.group others)

inductive Clause.AlikeAll : List (Joiner × Clause) → List (Joiner × Clause) → Prop
  | nil : Clause.AlikeAll [] []
  | cons {joiner : Joiner} {c d : Clause} {entries others : List (Joiner × Clause)} :
    Clause.Alike c d → Clause.AlikeAll entries others →
    Clause.AlikeAll ((joiner, c) :: entries) ((joiner, d) :: others)

end

structure Query.Alike (q r : Query) : Prop where
  clause : Clause.AlikeAll q.clause r.clause
  orders : q.orders = r.orders
  limit : q.limit.isSome = r.limit.isSome
  offset : q.offset.isSome = r.offset.isSome

namespace Sql

/-- The text of a piece that holds no value. -/
def Piece.fixed? : Piece → Option String
  | .text words => some words
  | .ident name => some (Sql.ident name)
  | .param _ => none

/-- All of the text but the placeholders. -/
def outline (ps : List Piece) : List (Option String) :=
  ps.map Piece.fixed?

theorem outline_append (ps qs : List Piece) : outline (ps ++ qs) = outline ps ++ outline qs :=
  List.map_append

theorem template_cons (d : Dialect) (index : Nat) (p : Piece) (ps : List Piece) :
    template d index (p :: ps) = p.fixed?.getD (d.placeholder index) ++
      template d (if p.fixed?.isSome then index else index + 1) ps := by
  cases p with
  | text words => exact template_text d index words ps
  | ident name => exact template_ident d index name ps
  | param value => exact template_param d index value ps

theorem template_eq_of_outline (d : Dialect) (index : Nat) {ps qs : List Piece}
    (h : outline ps = outline qs) : template d index ps = template d index qs := by
  induction ps generalizing index qs with
  | nil =>
    rw [List.map_eq_nil_iff.mp h.symm]
  | cons p ps ih =>
    cases qs with
    | nil => cases h
    | cons q qs =>
      obtain ⟨head, tail⟩ := List.cons.inj h
      rw [template_cons, template_cons, head, ih _ tail]

theorem sql_eq_of_outline (d : Dialect) {ps qs : List Piece} (h : outline ps = outline qs) :
    (statement d ps).sql = (statement d qs).sql :=
  template_eq_of_outline d 1 h

theorem outline_separatedParams {vs ws : List Param} (h : vs.length = ws.length) :
    outline (separatedParams vs) = outline (separatedParams ws) := by
  induction vs generalizing ws with
  | nil => rw [List.eq_nil_of_length_eq_zero h.symm]
  | cons v vs ih =>
    obtain ⟨w, ws, rfl⟩ := List.exists_cons_of_length_eq_add_one h.symm
    have tails : vs.length = ws.length := Nat.succ.inj h
    cases vs with
    | nil =>
      rw [List.eq_nil_of_length_eq_zero tails.symm]
      rfl
    | cons next vs =>
      obtain ⟨other, ws, rfl⟩ := List.exists_cons_of_length_eq_add_one tails.symm
      exact congrArg ([none, some ", "] ++ ·) (ih tails)

theorem outline_membership (field word : String) (emptyRight : Nat) {vs ws : List Param}
    (nonempty : vs ≠ []) (h : vs.length = ws.length) :
    outline (membership field word emptyRight vs) =
      outline (membership field word emptyRight ws) := by
  obtain ⟨v, vs, rfl⟩ := List.exists_cons_of_ne_nil nonempty
  obtain ⟨w, ws, rfl⟩ := List.exists_cons_of_length_eq_add_one h.symm
  rw [membership_cons, membership_cons, outline_append, outline_append, outline_append,
    outline_append, outline_separatedParams h]

theorem Carries.of_list {field : String} {c : Comparison} {items : List Operand} {vs : List Param}
    (h : Carries ⟨field, c, .list items⟩ vs) (nonempty : items ≠ []) :
    c.isEquality = true ∧ items.filterMap param? = vs ∧ vs.length = items.length := by
  cases h with
  | scalar _ hx => cases hx
  | items equality _ hitems =>
    refine ⟨equality, filterMap_of_map_eq hitems, ?_⟩
    simpa using (congrArg List.length hitems).symm
  | inNothing => exact absurd rfl nonempty
  | notInNothing => exact absurd rfl nonempty

theorem outline_predicate {p q : Predicate} (alike : p.Alike q) (hp : ∃ vs, Carries p vs)
    (hq : ∃ vs, Carries q vs) : outline (predicate p) = outline (predicate q) := by
  obtain ⟨field, c, v⟩ := p
  obtain ⟨field', c', w⟩ := q
  obtain ⟨hfield, hc, hvalue⟩ := alike
  cases hfield
  cases hc
  cases hvalue with
  | same => rfl
  | scalars hv hw =>
    obtain ⟨x, hx⟩ := exists_compared_of_isScalar c hv
    obtain ⟨y, hy⟩ := exists_compared_of_isScalar c hw
    rw [predicate_scalar field c hv, predicate_scalar field c hw, hx, hy]
    rfl
  | @lists items others nonempty length =>
    have nonempty' : others ≠ [] := by
      rintro rfl
      exact nonempty (List.eq_nil_of_length_eq_zero length)
    obtain ⟨vs, hvs⟩ := hp
    obtain ⟨ws, hws⟩ := hq
    obtain ⟨equality, hitems, hlength⟩ := hvs.of_list nonempty
    obtain ⟨_, hothers, hlength'⟩ := hws.of_list nonempty'
    obtain ⟨word, emptyRight, hpredicate⟩ := predicate_list field equality
    rw [hpredicate, hpredicate, hitems, hothers]
    refine outline_membership field word emptyRight ?_ ?_
    · rintro rfl
      exact nonempty (List.eq_nil_of_length_eq_zero hlength.symm)
    · rw [hlength, hlength', length]

/-- Conditions with the same words and parentheses, and with predicates of the same outlines. -/
inductive Condition.Alike : Condition → Condition → Prop
  | atom {p q : Predicate} : outline (predicate p) = outline (predicate q) →
    Alike (.atom p) (.atom q)
  | join (joiner : Joiner) {left left' right right' : Condition} : Alike left left' →
    Alike right right' → Alike (.join joiner left right) (.join joiner left' right')

theorem outline_enclosed (parens : Bool) {ps qs : List Piece} (h : outline ps = outline qs) :
    outline (enclosed parens ps) = outline (enclosed parens qs) := by
  cases parens with
  | false => exact h
  | true =>
    rw [enclosed_true, enclosed_true, outline_append, outline_append, outline_append,
      outline_append, h]

theorem Condition.Alike.outline_pieces {c d : Condition} (h : c.Alike d) :
    outline c.pieces = outline d.pieces := by
  induction h with
  | atom h =>
    rw [pieces_atom, pieces_atom]
    exact h
  | @join joiner left left' right right' hleft hright ihl ihr =>
    -- alike conditions get the same parentheses
    have hparens : needsParens joiner left = needsParens joiner left' := by cases hleft <;> rfl
    have hjoin : right.isJoin = right'.isJoin := by cases hright <;> rfl
    rw [pieces_join, pieces_join, outline_append, outline_append, hparens, hjoin,
      outline_enclosed _ ihl]
    exact congrArg (_ ++ some (joinWord joiner) :: ·) (outline_enclosed _ ihr)

theorem joinNext_alike (joiner : Joiner) {before before' next next' : Option Condition}
    (hbefore : Option.Rel Condition.Alike before before')
    (hnext : Option.Rel Condition.Alike next next') :
    Option.Rel Condition.Alike (joinNext .join joiner before next)
      (joinNext .join joiner before' next') := by
  cases hbefore with
  | none => exact hnext
  | some h =>
    cases hnext with
    | none => exact .some h
    | some h' => exact .some (.join joiner h h')

mutual

theorem fold_alike : {c d : Clause} → c.Alike d → (∀ p ∈ c.predicates, ∃ vs, Carries p vs) →
    (∀ p ∈ d.predicates, ∃ vs, Carries p vs) →
    Option.Rel Condition.Alike (c.fold Condition.atom Condition.join)
      (d.fold Condition.atom Condition.join)
  | _, _, .test h, hc, hd =>
    .some (.atom (outline_predicate h (hc _ (List.mem_singleton_self _))
      (hd _ (List.mem_singleton_self _))))
  | _, _, .group h, hc, hd => foldFrom_alike h hc hd .none

theorem foldFrom_alike : {entries others : List (Joiner × Clause)} →
    Clause.AlikeAll entries others →
    (∀ p ∈ Clause.predicatesOf entries, ∃ vs, Carries p vs) →
    (∀ p ∈ Clause.predicatesOf others, ∃ vs, Carries p vs) →
    {before before' : Option Condition} → Option.Rel Condition.Alike before before' →
    Option.Rel Condition.Alike (Clause.foldFrom Condition.atom Condition.join before entries)
      (Clause.foldFrom Condition.atom Condition.join before' others)
  | _, _, .nil, _, _, _, _, hbefore => hbefore
  | _, _, .cons h hs, hc, hd, _, _, hbefore =>
    foldFrom_alike hs (fun p hp => hc p (List.mem_append_right _ hp))
      (fun p hp => hd p (List.mem_append_right _ hp))
      (joinNext_alike _ hbefore (fold_alike h (fun p hp => hc p (List.mem_append_left _ hp))
        (fun p hp => hd p (List.mem_append_left _ hp))))

end

end Sql

end DataGrid
