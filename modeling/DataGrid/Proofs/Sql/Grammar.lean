import DataGrid.Sql.Condition

namespace DataGrid.Sql.Condition

inductive Level where
  | operand
  | conjunction
  | disjunction

/-- The readings of tokens by level: parentheses hold a disjunction, `AND` joins operands and `OR`
joins conjunctions, both from left to right. -/
inductive Reads : Level → List Token → Condition → Prop
  | atom (predicate : Predicate) : Reads .operand [.atom predicate] (.atom predicate)
  | parens : Reads .disjunction ts c → Reads .operand (parenthesized ts) c
  | operand : Reads .operand ts c → Reads .conjunction ts c
  | and : Reads .conjunction ls l → Reads .operand rs r →
    Reads .conjunction (ls ++ .word .and :: rs) (.join .and l r)
  | conjunction : Reads .conjunction ts c → Reads .disjunction ts c
  | or : Reads .disjunction ls l → Reads .conjunction rs r →
    Reads .disjunction (ls ++ .word .or :: rs) (.join .or l r)

/-- The least level that a condition's own tokens stand at. -/
def level : Condition → Level
  | .atom _ => .operand
  | .join .and _ _ => .conjunction
  | .join .or _ _ => .disjunction

theorem Reads.disjunction_of_level {c : Condition} {ts : List Token} (h : Reads c.level ts c) :
    Reads .disjunction ts c := by
  match c, h with
  | .atom _, h => exact .conjunction (.operand h)
  | .join .and _ _, h => exact .conjunction h
  | .join .or _ _, h => exact h

theorem reads_right {c : Condition} (h : Reads c.level c.tokens c) :
    Reads .operand (if c.isJoin then parenthesized c.tokens else c.tokens) c := by
  cases c with
  | atom predicate => exact h
  | join joiner left right => exact .parens h.disjunction_of_level

theorem reads_left_and {c : Condition} (h : Reads c.level c.tokens c) :
    Reads .conjunction (if needsParens .and c then parenthesized c.tokens else c.tokens) c := by
  match c, h with
  | .atom _, h => exact .operand h
  | .join .and _ _, h => exact h
  | .join .or _ _, h => exact .operand (.parens h)

theorem reads_left_or {c : Condition} (h : Reads c.level c.tokens c) :
    Reads .disjunction (if needsParens .or c then parenthesized c.tokens else c.tokens) c := by
  match c, h with
  | .atom _, h => exact .conjunction (.operand h)
  | .join .and _ _, h => exact .conjunction (.operand (.parens (.conjunction h)))
  | .join .or _ _, h => exact h

/-- The parentheses that are left out are not needed. -/
theorem reads_tokens (c : Condition) : Reads c.level c.tokens c := by
  induction c with
  | atom predicate => exact .atom predicate
  | join joiner left right ihl ihr =>
    rw [tokens]
    -- a right operand has its parentheses under either word, a left one only under the other word
    cases joiner with
    | and => exact .and (reads_left_and ihl) (reads_right ihr)
    | or => exact .or (reads_left_or ihl) (.operand (reads_right ihr))

/-- What has been read inside one pair of parentheses: the conditions before the last `OR`, and
those after it before the last `AND`. -/
structure Partial where
  before : Option Condition
  run : Option Condition

/-- A reader goes through tokens from left to right. It waits for an operand, or has just read one
and holds the run that ends with it; around it are the parentheses that are still open. -/
inductive Reader where
  | waiting (inside : Partial) (outside : List Partial)
  | complete (before : Option Condition) (run : Condition) (outside : List Partial)

namespace Reader

def start : Reader :=
  .waiting ⟨none, none⟩ []

def joined (joiner : Joiner) (before : Option Condition) (c : Condition) : Condition :=
  match before with
  | none => c
  | some b => .join joiner b c

def operand (c : Condition) (inside : Partial) (outside : List Partial) : Reader :=
  .complete inside.before (joined .and inside.run c) outside

def step : Reader → Token → Option Reader
  | .waiting inside outside, .atom predicate => some (operand (.atom predicate) inside outside)
  | .waiting inside outside, .openParen => some (.waiting ⟨none, none⟩ (inside :: outside))
  | .complete before run outside, .word .and => some (.waiting ⟨before, some run⟩ outside)
  | .complete before run outside, .word .or =>
    some (.waiting ⟨some (joined .or before run), none⟩ outside)
  | .complete before run (inside :: outside), .closeParen =>
    some (operand (joined .or before run) inside outside)
  | _, _ => none

def finish : Reader → Option Condition
  | .complete before run [] => some (joined .or before run)
  | _ => none

def run (r : Reader) (ts : List Token) : Option Reader :=
  ts.foldlM step r

theorem run_append {r s : Reader} {ts : List Token} (h : run r ts = some s) (us : List Token) :
    run r (ts ++ us) = run s us := by
  unfold run at h ⊢
  rw [List.foldlM_append, h]
  rfl

/-- Where a reader gets to over tokens that have a reading at a level. At the level of operands it
waits in any place, at the others where the level starts. -/
def Arrives (ts : List Token) (c : Condition) : Level → Prop
  | .operand => ∀ inside outside, run (.waiting inside outside) ts = some (operand c inside outside)
  | .conjunction => ∀ before outside,
    run (.waiting ⟨before, none⟩ outside) ts = some (.complete before c outside)
  | .disjunction => ∃ before last, joined .or before last = c ∧ ∀ outside,
    run (.waiting ⟨none, none⟩ outside) ts = some (.complete before last outside)

theorem arrives {level : Level} {ts : List Token} {c : Condition} (h : Reads level ts c) :
    Arrives ts c level := by
  induction h with
  | atom predicate =>
    intro inside outside
    rfl
  | @parens ts c _ ih =>
    intro inside outside
    obtain ⟨before, last, rfl, hrun⟩ := ih
    -- what is inside the parentheses is read as if it were all, and the place comes back after it
    calc run (.waiting inside outside) (parenthesized ts)
        = run (.waiting ⟨none, none⟩ (inside :: outside)) (ts ++ [.closeParen]) := rfl
      _ = run (.complete before last (inside :: outside)) [.closeParen] := run_append (hrun _) _
      _ = some (operand (joined .or before last) inside outside) := rfl
  | operand _ ih =>
    intro before outside
    exact ih ⟨before, none⟩ outside
  | @and ls l rs r _ _ ihl ihr =>
    intro before outside
    calc run (.waiting ⟨before, none⟩ outside) (ls ++ .word .and :: rs)
        = run (.complete before l outside) (.word .and :: rs) := run_append (ihl _ _) _
      _ = run (.waiting ⟨before, some l⟩ outside) rs := rfl
      _ = some (.complete before (.join .and l r) outside) := ihr _ _
  | @conjunction ts c _ ih => exact ⟨none, c, rfl, ih none⟩
  | @or ls l rs r _ _ ihl ihr =>
    obtain ⟨before, last, rfl, hrun⟩ := ihl
    refine ⟨some (joined .or before last), r, rfl, fun outside => ?_⟩
    calc run (.waiting ⟨none, none⟩ outside) (ls ++ .word .or :: rs)
        = run (.complete before last outside) (.word .or :: rs) := run_append (hrun _) _
      _ = run (.waiting ⟨some (joined .or before last), none⟩ outside) rs := rfl
      _ = some (.complete (some (joined .or before last)) r outside) := ihr _ _

end Reader

def read? (ts : List Token) : Option Condition :=
  (Reader.run .start ts).bind Reader.finish

theorem read?_of_reads {ts : List Token} {c : Condition} (h : Reads .disjunction ts c) :
    read? ts = some c := by
  obtain ⟨before, last, rfl, hrun⟩ := Reader.arrives h
  unfold read? Reader.start
  rw [hrun]
  rfl

theorem reads_unique {ts : List Token} {c d : Condition} (hc : Reads .disjunction ts c)
    (hd : Reads .disjunction ts d) : c = d := by
  have h : some c = some d := (read?_of_reads hc).symm.trans (read?_of_reads hd)
  exact Option.some.inj h

theorem not_reads_nil (c : Condition) : ¬ Reads .disjunction [] c := by
  intro h
  have : read? [] = some c := read?_of_reads h
  cases this

end DataGrid.Sql.Condition
