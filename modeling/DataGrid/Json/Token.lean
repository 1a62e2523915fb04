import DataGrid.Double.Numeral
import DataGrid.Json.Fault

namespace DataGrid.Json

open Text

/-- A scalar of a text, or the fault in reading it and the fault, if any, in passing it over. -/
inductive Lexeme (α : Type) where
  | ok (value : α)
  | bad (reading : Fault) (skipping : Option Fault)

inductive Literal where
  | null
  | bool (value : Bool)
  | num (value : Number)

inductive Token where
  | listOpen
  | listClose
  | objectOpen
  | objectClose
  | comma
  | colon
  | text (value : Lexeme String)
  | literal (value : Lexeme Literal)
  | junk

/-- The same fault for every reader. -/
def Lexeme.fail (fault : Fault) : Lexeme α :=
  .bad fault (some fault)

def readWord (value : Literal) : List Char → List Char → Lexeme Literal × List Char
  | [], s => (.ok value, s)
  | _ :: _, [] => (.fail (.cutOff .value), [])
  | w :: word, c :: s =>
    if w = c then readWord value word s else (.fail (.malformed .expectedWord), [])

/-- A number without its last digits: a text that ends there is cut off, unless it is passed
over. -/
def missingDigits : List Char → Lexeme α
  | [] => .bad (.cutOff .value) (some (.malformed .invalidNumber))
  | _ => .fail (.malformed .invalidNumber)

def realNumber (x : Double.Numeral) : Lexeme Literal :=
  match x.stepwise with
  | .finite x => .ok (.num (.real x))
  | _ => .bad (.malformed .numberOutOfRange) none

/-- Whole numbers of 64 bits stay whole; a negative zero is a real number. -/
def wholeNumber (negative : Bool) (digits : List Char) : Lexeme Literal :=
  let n := digitsValue digits
  match (if negative ∧ n = 0 then none else Integer.ofInt? (Double.signed negative n)) with
  | some i => .ok (.num (.int i))
  | none => realNumber (.ofFirstDigits negative digits [] 0)

def readExponentPart (s : List Char) : Lexeme (Option Int) × List Char :=
  match s with
  | [] => (.ok none, [])
  | c :: r =>
    if c = 'e' ∨ c = 'E' then
      let (negative, r) := Double.readSign r
      match spanDigits r with
      | ([], r) => (missingDigits r, [])
      | (digits, r) => (.ok (some (Double.signed negative (digitsValue digits))), r)
    else (.ok none, s)

def readFractionPart (s : List Char) : Lexeme (Option (List Char)) × List Char :=
  match s with
  | '.' :: r =>
    match spanDigits r with
    | ([], r) => (missingDigits r, [])
    | (digits, r) => (.ok (some digits), r)
  | _ => (.ok none, s)

/-- A number has no sign but a minus, and no zero before its other digits. -/
def readNumber (negative : Bool) (s : List Char) : Lexeme Literal × List Char :=
  match spanDigits s with
  | ([], r) => (missingDigits r, [])
  | ('0' :: _ :: _, _) => (.fail (.malformed .invalidNumber), [])
  | (whole, r) =>
    match readFractionPart r with
    | (.bad reading skipping, r) => (.bad reading skipping, r)
    | (.ok fraction, r) =>
      match readExponentPart r with
      | (.bad reading skipping, r) => (.bad reading skipping, r)
      | (.ok exponent, r) =>
        if fraction = none ∧ exponent = none then (wholeNumber negative whole, r)
        else
          (realNumber (.ofFirstDigits negative whole (fraction.getD []) (exponent.getD 0)), r)

/-- A string while it is read: its characters so far, last first, half of a pair of surrogates that
waits for the other half, and the first fault that only a reader of the string meets. -/
structure Draft where
  chars : List Char
  high : Option Nat
  fault : Option Fault

def Draft.empty : Draft :=
  ⟨[], none, none⟩

def Draft.note (d : Draft) (reason : Malformation) : Draft :=
  ⟨d.chars, none, d.fault.or (some (.malformed reason))⟩

/-- After half of a pair anything but an escape is a fault. -/
def Draft.settle (d : Draft) : Draft :=
  if d.high.isSome then d.note .unpairedSurrogate else d

def Draft.push (d : Draft) (c : Char) : Draft :=
  let d := d.settle
  { d with chars := c :: d.chars }

def Draft.pushUnit (d : Draft) (n : Nat) : Draft :=
  match d.high with
  | some high =>
    if 0xDC00 ≤ n ∧ n < 0xE000 then
      let c := Char.ofNat (0x10000 + (high - 0xD800) * 0x400 + (n - 0xDC00))
      { d with chars := c :: d.chars, high := none }
    else d.note .loneSurrogate
  | none =>
    if 0xD800 ≤ n ∧ n < 0xDC00 then { d with high := some n }
    else if 0xDC00 ≤ n ∧ n < 0xE000 then d.note .loneSurrogate
    else { d with chars := Char.ofNat n :: d.chars }

def Draft.close (d : Draft) : Lexeme String :=
  let d := d.settle
  match d.fault with
  | none => .ok (String.ofList d.chars.reverse)
  | some fault => .bad fault none

/-- A fault that every reader meets, after those that only a reader of the string does. -/
def Draft.stop (d : Draft) (fault : Fault) : Lexeme String :=
  .bad (d.fault.getD fault) (some fault)

def shortEscape? (c : Char) : Option Char :=
  match c with
  | '"' => some '"'
  | '\\' => some '\\'
  | '/' => some '/'
  | 'b' => some '\x08'
  | 'f' => some '\x0c'
  | 'n' => some '\n'
  | 'r' => some '\r'
  | 't' => some '\t'
  | _ => none

/-- Four digits of an escape that the text does not have: with less than four bytes left the text is
cut off. -/
def badHexDigits (s : List Char) : Fault :=
  if (String.ofList (s.take 4)).utf8ByteSize < 4 then .cutOff .string else .malformed .invalidEscape

def readString (d : Draft) : List Char → Lexeme String × List Char
  | [] => (d.stop (.cutOff .string), [])
  | '"' :: s => (d.close, s)
  | '\\' :: [] => (d.stop (.cutOff .string), [])
  | '\\' :: 'u' :: e₁ :: e₂ :: e₃ :: e₄ :: s =>
    match hexDigitsValue? [e₁, e₂, e₃, e₄] with
    | some n => readString (d.pushUnit n) s
    | none => (d.stop (.malformed .invalidEscape), [])
  | '\\' :: 'u' :: s => (d.stop (badHexDigits s), [])
  | '\\' :: e :: s =>
    match shortEscape? e with
    | some c => readString (d.push c) s
    | none => (d.settle.stop (.malformed .invalidEscape), [])
  | c :: s =>
    if c < ' ' then (d.settle.stop (.malformed .controlCharacter), [])
    else readString (d.push c) s

def isSpace (c : Char) : Bool :=
  c = ' ' || c = '\t' || c = '\n' || c = '\r'

theorem length_spanDigits (s : List Char) : (spanDigits s).2.length ≤ s.length := by
  have h := congrArg List.length (spanDigits_append s)
  simp only [List.length_append] at h
  omega

theorem length_readWord (value : Literal) (word s : List Char) :
    (readWord value word s).2.length ≤ s.length := by
  fun_induction readWord value word s with
  | case1 s => exact Nat.le_refl s.length
  | case2 w word => exact Nat.le_refl 0
  | case3 word c s ih => exact Nat.le_succ_of_le ih
  | case4 w word c s h => exact Nat.zero_le _

theorem length_readSign (s : List Char) : (Double.readSign s).2.length ≤ s.length := by
  unfold Double.readSign
  split <;> simp

theorem length_readFractionPart (s : List Char) : (readFractionPart s).2.length ≤ s.length := by
  unfold readFractionPart
  split
  · rename_i r
    have := length_spanDigits r
    split <;> simp_all
    omega
  · simp

theorem length_readExponentPart (s : List Char) : (readExponentPart s).2.length ≤ s.length := by
  unfold readExponentPart
  split
  · simp
  · rename_i c r
    split
    · have h₁ := length_readSign r
      have h₂ := length_spanDigits (Double.readSign r).2
      dsimp only
      split <;> simp_all
      omega
    · simp

theorem length_readNumber (negative : Bool) (s : List Char) :
    (readNumber negative s).2.length ≤ (spanDigits s).2.length := by
  unfold readNumber
  split
  · simp
  · simp
  · rename_i whole r _ _ h
    have h₂ := length_readFractionPart r
    split
    · simp_all
    · rename_i fraction r' h'
      have h₃ := length_readExponentPart r'
      split
      · simp_all
        omega
      · split <;> simp_all <;> omega

theorem length_readString (d : Draft) (s : List Char) :
    (readString d s).2.length ≤ s.length := by
  fun_induction readString d s <;> simp_all <;> omega

/-- The token that starts with `c`, and the rest of the text; after a fault that stops every reader
the rest counts for nothing. -/
def nextToken (c : Char) (s : List Char) : Token × List Char :=
  match c with
  | '[' => (.listOpen, s)
  | ']' => (.listClose, s)
  | '\x7b' => (.objectOpen, s)
  | '\x7d' => (.objectClose, s)
  | ',' => (.comma, s)
  | ':' => (.colon, s)
  | '"' => (readString .empty s).map .text id
  | 'n' => (readWord .null "ull".toList s).map .literal id
  | 't' => (readWord (.bool true) "rue".toList s).map .literal id
  | 'f' => (readWord (.bool false) "alse".toList s).map .literal id
  | '-' => (readNumber true s).map .literal id
  | _ => if c.isDigit then (readNumber false (c :: s)).map .literal id else (.junk, [])

theorem length_nextToken (c : Char) (s : List Char) : (nextToken c s).2.length ≤ s.length := by
  unfold nextToken
  split
  all_goals first
    | exact Nat.le_refl _
    | exact length_readString _ _
    | exact length_readWord _ _ _
    | exact Nat.le_trans (length_readNumber _ _) (length_spanDigits _)
    | skip
  split
  · rename_i h
    refine Nat.le_trans (length_readNumber _ _) ?_
    have : (spanDigits (c :: s)).2 = (spanDigits s).2 := by simp [spanDigits, h]
    rw [this]
    exact length_spanDigits s
  · simp

def tokens : List Char → List Token
  | [] => []
  | c :: s =>
    if isSpace c then tokens s
    else
      have := length_nextToken c s
      (nextToken c s).1 :: tokens (nextToken c s).2
termination_by s => s.length

end DataGrid.Json
