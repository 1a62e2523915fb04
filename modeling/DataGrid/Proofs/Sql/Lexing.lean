import DataGrid.Proofs.Sql.Arranged

namespace DataGrid.Sql

inductive Lexeme where
  | name (value : String)
  | string (value : String)
  /-- A character outside quotes. -/
  | char (c : Char)
deriving DecidableEq

inductive Quoting where
  | name
  | string
  /-- A string in which a backslash escapes. -/
  | escapes
deriving DecidableEq

def Quoting.close : Quoting → Char
  | .name => '"'
  | .string | .escapes => '\x27'

def Quoting.lexeme (q : Quoting) (read : List Char) : Lexeme :=
  match q with
  | .name => .name (String.ofList read)
  | .string | .escapes => .string (String.ofList read)

/-- An escaped number with up to three octal digits. -/
structure Octal where
  value : Nat
  digits : Nat

def octalDigit? (c : Char) : Option Nat :=
  if '0' ≤ c ∧ c ≤ '7' then some (c.toNat - '0'.toNat) else none

/-- The number with one more digit, if there is a digit and the number can have one more. -/
def Octal.next? (o : Octal) (c : Char) : Option Octal :=
  if o.digits < 3 then (octalDigit? c).map fun v => ⟨8 * o.value + v, o.digits + 1⟩ else none

def Octal.char (o : Octal) : Char :=
  Char.ofNat (o.value % 256)

def escapedBy (c : Char) : Char :=
  match c with
  | 'b' => '\x08'
  | 'f' => '\x0c'
  | 'n' => '\n'
  | 'r' => '\r'
  | 't' => '\t'
  | c => c

inductive Mode where
  /-- Outside quotes, and not in a word. -/
  | between
  | word
  /-- After a letter that marks a string with escapes if a quote comes next. -/
  | mark (letter : Char)
  | inside (q : Quoting) (read : List Char)
  /-- After a quote, which is the last one if no other comes next. -/
  | ended (q : Quoting) (read : List Char)
  | backslash (read : List Char)
  | octal (read : List Char) (o : Octal)

structure Scan where
  done : List Lexeme
  mode : Mode

def isWordChar (c : Char) : Bool :=
  c.isAlphanum || c = '_' || c = '$' || 0x80 ≤ c.toNat

namespace Scan

def outside (d : Dialect) (done : List Lexeme) (wordStart : Bool) (c : Char) : Scan :=
  if c = '"' then ⟨done, .inside .name []⟩
  else if c = '\x27' then ⟨done, .inside .string []⟩
  else if d = .postgres ∧ wordStart ∧ (c = 'E' ∨ c = 'e') then ⟨done, .mark c⟩
  else ⟨done ++ [.char c], if isWordChar c then .word else .between⟩

def within (done : List Lexeme) (q : Quoting) (read : List Char) (c : Char) : Scan :=
  if c = q.close then ⟨done, .ended q read⟩
  else if q = .escapes ∧ c = '\\' then ⟨done, .backslash read⟩
  else ⟨done, .inside q (read ++ [c])⟩

def step (d : Dialect) (s : Scan) (c : Char) : Scan :=
  match s.mode with
  | .between => outside d s.done true c
  | .word => outside d s.done false c
  | .mark letter =>
    if c = '\x27' then ⟨s.done, .inside .escapes []⟩
    else outside d (s.done ++ [.char letter]) false c
  | .inside q read => within s.done q read c
  | .ended q read =>
    if c = q.close then ⟨s.done, .inside q (read ++ [c])⟩
    else outside d (s.done ++ [q.lexeme read]) true c
  | .backslash read =>
    match octalDigit? c with
    | some v => ⟨s.done, .octal read ⟨v, 1⟩⟩
    | none => ⟨s.done, .inside .escapes (read ++ [escapedBy c])⟩
  | .octal read o =>
    match o.next? c with
    | some o => ⟨s.done, .octal read o⟩
    | none => within s.done .escapes (read ++ [o.char]) c

def run (d : Dialect) (s : Scan) (cs : List Char) : Scan :=
  cs.foldl (step d) s

/-- What has been read if the text ends here; there is nothing in quotes that are not closed. -/
def finish? (s : Scan) : Option (List Lexeme) :=
  match s.mode with
  | .between | .word => some s.done
  | .mark letter => some (s.done ++ [.char letter])
  | .ended q read => some (s.done ++ [q.lexeme read])
  | .inside .. | .backslash _ | .octal .. => none

end Scan

def lex? (d : Dialect) (text : String) : Option (List Lexeme) :=
  (Scan.run d ⟨[], .between⟩ text.toList).finish?

def Unquoted (cs : List Char) : Prop :=
  cs.all fun c => c != '"' && c != '\x27'

instance (cs : List Char) : Decidable (Unquoted cs) :=
  inferInstanceAs (Decidable (_ = true))

theorem unquoted_cons {c : Char} {cs : List Char} :
    Unquoted (c :: cs) ↔ (c ≠ '"' ∧ c ≠ '\x27') ∧ Unquoted cs := by
  simp [Unquoted]

theorem Unquoted.of_append {cs cs' : List Char} (h : Unquoted (cs ++ cs')) : Unquoted cs := by
  rw [Unquoted, List.all_append, Bool.and_eq_true] at h
  exact h.1

namespace Scan

theorem run_append (d : Dialect) (s : Scan) (cs cs' : List Char) :
    s.run d (cs ++ cs') = (s.run d cs).run d cs' :=
  List.foldl_append

theorem run_cons (d : Dialect) (s : Scan) (c : Char) (cs : List Char) :
    s.run d (c :: cs) = (s.step d c).run d cs :=
  rfl

section
variable {s : Scan} {done : List Lexeme} (read : s.finish? = some done)
include read

/-- What is read so far ends before a character that is no quote. -/
theorem exists_step_eq_outside (d : Dialect) {c : Char} (name : c ≠ '"') (string : c ≠ '\x27') :
    ∃ wordStart, s.step d c = outside d done wordStart c := by
  obtain ⟨before, mode⟩ := s
  cases mode with
  | between =>
    cases read
    exact ⟨true, rfl⟩
  | word =>
    cases read
    exact ⟨false, rfl⟩
  | mark letter =>
    cases read
    exact ⟨false, if_neg string⟩
  | ended q text =>
    cases read
    have other : c ≠ q.close := by cases q <;> assumption
    exact ⟨true, if_neg other⟩
  | inside q text => cases read
  | backslash text => cases read
  | octal text o => cases read

theorem finish?_step (d : Dialect) {c : Char} (name : c ≠ '"') (string : c ≠ '\x27') :
    (s.step d c).finish? = some (done ++ [.char c]) := by
  obtain ⟨wordStart, out⟩ := exists_step_eq_outside read d name string
  rw [out, outside, if_neg name, if_neg string]
  split_ifs <;> rfl

theorem finish?_run (d : Dialect) {cs : List Char} (unquoted : Unquoted cs) :
    (s.run d cs).finish? = some (done ++ cs.map .char) := by
  induction cs generalizing s done with
  | nil =>
    rw [List.map_nil, List.append_nil]
    exact read
  | cons c cs ih =>
    obtain ⟨⟨name, string⟩, unquoted⟩ := unquoted_cons.mp unquoted
    rw [List.map_cons, List.append_cons]
    exact ih (finish?_step read d name string) unquoted

theorem step_apart (d : Dialect) {c : Char} (apart : c = ' ' ∨ c = '(') :
    s.step d c = ⟨done ++ [.char c], .between⟩ := by
  have name : c ≠ '"' := by rcases apart with rfl | rfl <;> decide
  have string : c ≠ '\x27' := by rcases apart with rfl | rfl <;> decide
  have letter : ¬ (c = 'E' ∨ c = 'e') := by rcases apart with rfl | rfl <;> decide
  have other : isWordChar c = false := by rcases apart with rfl | rfl <;> decide
  obtain ⟨wordStart, out⟩ := exists_step_eq_outside read d name string
  rw [out, outside, if_neg name, if_neg string, if_neg fun marks => letter marks.2.2, other]
  rfl

theorem run_endsApart (d : Dialect) {words : String} (apart : endsApart words = true)
    (unquoted : Unquoted words.toList) :
    s.run d words.toList = ⟨done ++ words.toList.map .char, .between⟩ := by
  obtain ⟨c, last, apart⟩ := (Option.any_eq_true _ _).mp apart
  obtain ⟨front, whole⟩ := List.getLast?_eq_some_iff.mp last
  rw [whole] at unquoted ⊢
  have read := finish?_run read d unquoted.of_append
  rw [run_append, List.map_append, ← List.append_assoc]
  exact step_apart read d (of_decide_eq_true apart)

end

section
variable (d : Dialect) (done : List Lexeme)

theorem step_close (q : Quoting) (read : List Char) :
    step d ⟨done, .inside q read⟩ q.close = ⟨done, .ended q read⟩ :=
  if_pos rfl

theorem step_reopen (q : Quoting) (read : List Char) :
    step d ⟨done, .ended q read⟩ q.close = ⟨done, .inside q (read ++ [q.close])⟩ :=
  if_pos rfl

theorem step_inside {q : Quoting} (read : List Char) {c : Char} (quote : c ≠ q.close)
    (escape : ¬ (q = .escapes ∧ c = '\\')) :
    step d ⟨done, .inside q read⟩ c = ⟨done, .inside q (read ++ [c])⟩ :=
  (if_neg quote).trans (if_neg escape)

theorem run_doubled {q : Quoting} (plain : q ≠ .escapes) (read text : List Char) :
    run d ⟨done, .inside q read⟩
        (text.flatMap (fun c => if c = q.close then [c, c] else [c]) ++ [q.close]) =
      ⟨done, .ended q (read ++ text)⟩ := by
  induction text generalizing read with
  | nil =>
    rw [List.append_nil]
    exact step_close d done q read
  | cons c text ih =>
    rw [List.flatMap_cons, List.append_assoc, List.append_cons read]
    split_ifs with quote
    · rw [quote, List.cons_append, List.singleton_append, run_cons, step_close, run_cons,
        step_reopen, ih]
    · rw [List.singleton_append, run_cons, step_inside d done read quote fun h => plain h.1, ih]

end

end Scan

def escapedChars : List Char :=
  ['\\', '"', '\x27', '\x00', '\x08', '\t', '\x1a', '\n', '\r']

theorem escapedChar_of_notMem {c : Char} (plain : c ∉ escapedChars) : escapedChar c = [c] := by
  simp only [escapedChars, List.mem_cons, List.not_mem_nil, or_false, not_or] at plain
  simp [escapedChar, plain]

theorem ne_of_notMem_escapedChars {c : Char} (plain : c ∉ escapedChars) :
    c ≠ '\\' ∧ c ≠ '\x27' ∧ c ≠ '\x00' ∧ c ≠ '\x1a' := by
  simp only [escapedChars, List.mem_cons, List.not_mem_nil, or_false, not_or] at plain
  simp [plain]

theorem octalDigit?_of_mem_escapedChars {c : Char} (special : c ∈ escapedChars) :
    octalDigit? c = none := by
  have all : escapedChars.all fun c => octalDigit? c == none := by decide
  exact beq_iff_eq.mp (List.all_eq_true.mp all c special)

theorem exists_escapedChar_eq {c : Char} (special : c ∈ escapedChars) :
    ∃ e, escapedChar c = ['\\', e] := by
  have all : escapedChars.all fun c => escapedChar c == ['\\', (escapedChar c).getLastD c] := by
    decide
  exact ⟨_, beq_iff_eq.mp (List.all_eq_true.mp all c special)⟩

theorem bind_next?_eq_none (pending : Option Octal) {c : Char} (other : octalDigit? c = none) :
    pending.bind (·.next? c) = none := by
  cases pending with
  | none => rfl
  | some o => simp [Octal.next?, other]

/-- What is read when an escaped number ends. -/
def Octal.released : Option Octal → List Char
  | none => []
  | some o => [o.char]

/-- What Postgres reads of the escapes that are written for a text. There is none of `\x1a`, which
is read as the letter that should stand for it, and the one of NUL goes on over digits. -/
def rereadFrom (pending : Option Octal) : List Char → List Char
  | [] => Octal.released pending
  | c :: text =>
    match pending.bind (·.next? c) with
    | some o => rereadFrom (some o) text
    | none =>
      Octal.released pending ++
        if c = '\x00' then rereadFrom (some ⟨0, 1⟩) text
        else (if c = '\x1a' then 'z' else c) :: rereadFrom none text

def Dialect.reread : Dialect → String → String
  | .postgres, s => String.ofList (rereadFrom none s.toList)
  | .sqlite, s => s

namespace Scan

/-- Inside a string with escapes, where a number may be pending. -/
def escaping (done : List Lexeme) (read : List Char) : Option Octal → Scan
  | none => ⟨done, .inside .escapes read⟩
  | some o => ⟨done, .octal read o⟩

section
variable (d : Dialect) (done : List Lexeme)

/-- A number that a character does not go on is read when the character comes. -/
theorem step_escaping (read : List Char) {pending : Option Octal} {c : Char}
    (ends : pending.bind (·.next? c) = none) :
    (escaping done read pending).step d c =
      (escaping done (read ++ Octal.released pending) none).step d c := by
  cases pending with
  | none =>
    rw [Octal.released, List.append_nil]
  | some o =>
    have ends : o.next? c = none := ends
    simp only [escaping, step, ends, Octal.released]

theorem run_escapedChar (read : List Char) (c : Char) :
    run d (escaping done read none) (escapedChar c) =
      if c = '\x00' then escaping done read (some ⟨0, 1⟩)
      else escaping done (read ++ [if c = '\x1a' then 'z' else c]) none := by
  by_cases special : c ∈ escapedChars
  · simp only [escapedChars, List.mem_cons, List.not_mem_nil, or_false] at special
    rcases special with rfl | rfl | rfl | rfl | rfl | rfl | rfl | rfl | rfl <;> rfl
  · obtain ⟨backslash, quote, nul, substitute⟩ := ne_of_notMem_escapedChars special
    rw [escapedChar_of_notMem special, if_neg nul, if_neg substitute]
    exact step_inside d done read quote fun escapes => backslash escapes.2

theorem run_escapedChar_of_ends (read : List Char) {pending : Option Octal} {c : Char}
    (ends : pending.bind (·.next? c) = none) :
    run d (escaping done read pending) (escapedChar c) =
      run d (escaping done (read ++ Octal.released pending) none) (escapedChar c) := by
  by_cases special : c ∈ escapedChars
  · obtain ⟨e, pair⟩ := exists_escapedChar_eq special
    rw [pair, run_cons, step_escaping d done read (bind_next?_eq_none pending rfl)]
    rfl
  · rw [escapedChar_of_notMem special]
    exact step_escaping d done read ends

theorem run_escaped (read : List Char) (pending : Option Octal) (text : List Char) :
    run d (escaping done read pending) (text.flatMap escapedChar ++ ['\x27']) =
      ⟨done, .ended .escapes (read ++ rereadFrom pending text)⟩ := by
  induction text generalizing read pending with
  | nil => exact step_escaping d done read (bind_next?_eq_none pending rfl)
  | cons c text ih =>
    rw [List.flatMap_cons, List.append_assoc, run_append, rereadFrom]
    cases next : pending.bind (·.next? c) with
    | some o =>
      obtain ⟨before, rfl, goes_on⟩ := Option.bind_eq_some_iff.mp next
      have plain : c ∉ escapedChars := by
        intro special
        rw [bind_next?_eq_none _ (octalDigit?_of_mem_escapedChars special)] at next
        cases next
      have longer : step d (escaping done read (some before)) c = escaping done read (some o) := by
        simp only [escaping, step, goes_on]
      rw [escapedChar_of_notMem plain, run_cons, longer]
      exact ih read (some o)
    | none =>
      rw [run_escapedChar_of_ends d done read next, run_escapedChar]
      dsimp only
      split_ifs <;> rw [ih] <;> simp

end

end Scan

section
variable {pending : Option Octal} {c : Char} {text : List Char}

theorem rereadFrom_of_next {o : Octal} (next : pending.bind (·.next? c) = some o) :
    rereadFrom pending (c :: text) = rereadFrom (some o) text := by
  rw [rereadFrom, next]

theorem rereadFrom_of_ends (ends : pending.bind (·.next? c) = none) :
    rereadFrom pending (c :: text) = Octal.released pending ++ rereadFrom none (c :: text) := by
  rw [rereadFrom, ends]
  rfl

theorem rereadFrom_nul (text : List Char) :
    rereadFrom none ('\x00' :: text) = rereadFrom (some ⟨0, 1⟩) text :=
  rfl

theorem rereadFrom_cons (other : c ≠ '\x00') :
    rereadFrom none (c :: text) = (if c = '\x1a' then 'z' else c) :: rereadFrom none text :=
  if_neg other

theorem length_rereadFrom_le (pending : Option Octal) (text : List Char) :
    (rereadFrom pending text).length ≤ (Octal.released pending).length + text.length := by
  have one (o : Octal) : (Octal.released (some o)).length = 1 := rfl
  have none_pending : (Octal.released none).length = 0 := rfl
  induction text generalizing pending with
  | nil => exact Nat.le_refl _
  | cons c text ih =>
    cases next : pending.bind (·.next? c) with
    | some o =>
      obtain ⟨before, rfl, _⟩ := Option.bind_eq_some_iff.mp next
      have rest := ih (some o)
      rw [rereadFrom_of_next next, List.length_cons, one]
      rw [one] at rest
      omega
    | none =>
      rw [rereadFrom_of_ends next, List.length_append, List.length_cons, Nat.add_le_add_iff_left]
      by_cases nul : c = '\x00'
      · have rest := ih (some ⟨0, 1⟩)
        rw [nul, rereadFrom_nul]
        rw [one] at rest
        omega
      · have rest := ih none
        rw [rereadFrom_cons nul, List.length_cons]
        omega

/-- After NUL a text is read back as it is when it does not start with a digit to go on over: a
digit that is taken is missing in what is read. -/
theorem rereadFrom_nul_eq_iff :
    rereadFrom none ('\x00' :: text) = '\x00' :: text ↔
      (∀ c ∈ text.head?, octalDigit? c = none) ∧ rereadFrom none text = text := by
  rw [rereadFrom_nul]
  cases text with
  | nil => simp [rereadFrom, Octal.released, Octal.char]
  | cons c text =>
    cases digit : octalDigit? c with
    | none =>
      rw [rereadFrom_of_ends (bind_next?_eq_none _ digit)]
      simp [Octal.released, Octal.char, digit]
    | some v =>
      refine iff_of_false (fun same => ?_) (by simp [digit])
      have longer : (some (⟨0, 1⟩ : Octal)).bind (·.next? c) = some ⟨8 * 0 + v, 2⟩ := by
        simp [Octal.next?, digit]
      have lengths := length_rereadFrom_le (some ⟨8 * 0 + v, 2⟩) text
      rw [rereadFrom_of_next longer] at same
      rw [same] at lengths
      simp [Octal.released] at lengths
      omega

/-- A text is read back as it is unless Postgres takes one of its characters for something else. -/
theorem rereadFrom_none_eq_self_iff :
    rereadFrom none text = text ↔
      '\x1a' ∉ text ∧ ∀ c, octalDigit? c ≠ none → ¬ ['\x00', c] <:+: text := by
  induction text with
  | nil => simp [rereadFrom, Octal.released]
  | cons c text ih =>
    have pair (d : Char) : ['\x00', d] <:+: c :: text ↔
        (c = '\x00' ∧ d ∈ text.head?) ∨ ['\x00', d] <:+: text := by
      rw [List.infix_cons_iff, List.cons_prefix_cons]
      cases text with
      | nil => simp
      | cons first text => simp [@eq_comm _ d, @eq_comm _ c]
    simp only [pair, List.mem_cons, not_or, not_and]
    by_cases nul : c = '\x00'
    · rw [nul, rereadFrom_nul_eq_iff, ih]
      grind
    · rw [rereadFrom_cons nul, List.cons_eq_cons, ih]
      grind

end

/-- SQLite reads every text back, and Postgres every one without `\x1a` and without an octal digit
right after NUL. -/
theorem reread_eq_self_iff (d : Dialect) (s : String) :
    d.reread s = s ↔ d = .sqlite ∨
      '\x1a' ∉ s.toList ∧ ∀ c, octalDigit? c ≠ none → ¬ ['\x00', c] <:+: s.toList := by
  cases d with
  | sqlite => simp [Dialect.reread]
  | postgres =>
    rw [← rereadFrom_none_eq_self_iff, Dialect.reread, ← String.toList_inj, String.toList_ofList]
    simp

theorem flatMap_eq_self {f : Char → List Char} {text : List Char} (kept : ∀ c ∈ text, f c = [c]) :
    text.flatMap f = text := by
  rw [List.flatMap_congr kept, List.flatMap_singleton']

theorem eq_self_of_no_backslash {text : List Char} (plain : '\\' ∉ text.flatMap escapedChar) :
    text.flatMap escapedChar = text ∧ '\x27' ∉ text ∧ rereadFrom none text = text := by
  have kept : ∀ c ∈ text, c ∉ escapedChars := by
    intro c member special
    obtain ⟨e, pair⟩ := exists_escapedChar_eq special
    exact plain (List.mem_flatMap.mpr ⟨c, member, pair ▸ List.mem_cons_self⟩)
  refine ⟨?_, fun quote => kept _ quote (by decide), ?_⟩
  · exact flatMap_eq_self fun c member => escapedChar_of_notMem (kept c member)
  · refine rereadFrom_none_eq_self_iff.mpr ⟨fun member => kept _ member (by decide), ?_⟩
    intro c _ inside
    exact kept '\x00' (inside.subset List.mem_cons_self) (by decide)

namespace Scan

section
variable (d : Dialect) (done : List Lexeme)

theorem finish?_run_ident (name : String) :
    (run d ⟨done, .between⟩ (ident name).toList).finish? = some (done ++ [.name name]) := by
  have ended : run d ⟨done, .between⟩ (ident name).toList = ⟨done, .ended .name name.toList⟩ := by
    rw [ident, quoteDoubled, String.toList_ofList]
    exact run_doubled d done (q := .name) nofun [] name.toList
  rw [ended]
  exact congrArg (fun name => some (done ++ [.name name])) String.ofList_toList

theorem finish?_run_doubled (s : String) :
    (run d ⟨done, .between⟩ (quoteDoubled '\x27' s).toList).finish? =
      some (done ++ [.string s]) := by
  have ended : run d ⟨done, .between⟩ (quoteDoubled '\x27' s).toList =
      ⟨done, .ended .string s.toList⟩ := by
    rw [quoteDoubled, String.toList_ofList]
    exact run_doubled d done (q := .string) nofun [] s.toList
  rw [ended]
  exact congrArg (fun s => some (done ++ [.string s])) String.ofList_toList

/-- Without a backslash a text is quoted as it is when its quotes are doubled, since it has none. -/
theorem escaped_eq_quoteDoubled {s : String} (plain : '\\' ∉ s.toList.flatMap escapedChar) :
    escaped s = quoteDoubled '\x27' s := by
  obtain ⟨body, quote, _⟩ := eq_self_of_no_backslash plain
  have alone := flatMap_eq_self (f := fun c => if c = '\x27' then [c, c] else [c])
    fun c member => if_neg (ne_of_mem_of_not_mem member quote)
  have unmarked : ¬ (s.toList.flatMap escapedChar).contains '\\' = true := by simpa using plain
  rw [escaped, if_neg unmarked, quoteDoubled, alone, body]

theorem finish?_run_stringLiteral (s : String) :
    (run d ⟨done, .between⟩ (d.stringLiteral s).toList).finish? =
      some (done ++ [.string (d.reread s)]) := by
  cases d with
  | sqlite => exact finish?_run_doubled .sqlite done s
  | postgres =>
    rw [Dialect.stringLiteral, Dialect.reread]
    by_cases plain : '\\' ∈ s.toList.flatMap escapedChar
    · have marked : (s.toList.flatMap escapedChar).contains '\\' = true := by simpa using plain
      have written : (escaped s).toList =
          'E' :: '\x27' :: (s.toList.flatMap escapedChar ++ ['\x27']) := by
        rw [escaped, if_pos marked]
        simp
      have ended := run_escaped .postgres done [] none s.toList
      rw [List.nil_append] at ended
      rw [written]
      exact congrArg finish? ended
    · obtain ⟨_, _, read⟩ := eq_self_of_no_backslash plain
      rw [escaped_eq_quoteDoubled plain, finish?_run_doubled, read, String.ofList_toList]

end

end Scan

end DataGrid.Sql
