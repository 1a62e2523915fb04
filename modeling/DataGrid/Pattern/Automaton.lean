import DataGrid.Text.CaseFold

namespace DataGrid.Automaton

abbrev ByteRange := Nat × Nat

/-- Encodings of some characters, byte by byte. -/
abbrev Route := List ByteRange

/-- All characters in their encoding of one to four bytes. -/
def anyCharacter : List Route :=
  let tail : ByteRange := (0x80, 0xBF)
  [[(0x00, 0x7F)], [(0xC2, 0xDF), tail],
    [(0xE0, 0xE0), (0xA0, 0xBF), tail], [(0xE1, 0xEC), tail, tail],
    [(0xED, 0xED), (0x80, 0x9F), tail], [(0xEE, 0xEF), tail, tail],
    [(0xF0, 0xF0), (0x90, 0xBF), tail, tail], [(0xF1, 0xF3), tail, tail, tail],
    [(0xF4, 0xF4), (0x80, 0x8F), tail, tail]]

def encoding (c : Char) : Route :=
  (String.utf8EncodeChar c).map fun b => (b.toNat, b.toNat)

/-- Two routes that differ in their last byte only are one if nothing is between them. -/
def joined? : Route → Route → Option Route
  | [(first, last)], [(first', last')] => if last + 1 = first' then some [(first, last')] else none
  | r :: route, r' :: route' => if r = r' then (joined? route route').map (r :: ·) else none
  | _, _ => none

def insertChar (c : Char) : List Char → List Char
  | [] => [c]
  | d :: ds => if c < d then c :: d :: ds else if c = d then d :: ds else d :: insertChar c ds

def addRoute (route : Route) : List Route → List Route
  | [] => [route]
  | next :: routes =>
    match joined? route next with
    | some both => both :: routes
    | none => route :: next :: routes

def routesOf (cs : List Char) : List Route :=
  (cs.foldr insertChar []).foldr (fun c routes => addRoute (encoding c) routes) []

def heads (routes : List Route) : List ByteRange :=
  (routes.filterMap List.head?).eraseDups

/-- What is left of the routes that start with a range. -/
def after (r : ByteRange) (routes : List Route) : List Route :=
  routes.filterMap fun
    | [] => none
    | r' :: route => if r = r' then some route else none

/-- What is left of the routes after each of their starts, a start of none and of all bytes too. -/
def remainders (routes : List Route) : List (List Route) :=
  go 4 routes
where
  go : Nat → List Route → List (List Route)
    | 0, routes => [routes]
    | depth + 1, routes => routes :: (heads routes).flatMap fun r => go depth (after r routes)

/-- The library `regex` builds two automata of a pattern, one to read a text forward and one to read
it backward, and refuses the pattern if either takes up too much. The sizes are those of the states
of its Thompson automata on a machine of 64 bits. -/
inductive Reading where
  | forward
  | backward

/-- The bytes that a state takes up. -/
def stateSize : Nat := 32

/-- The bytes of each range that a state leads on from. -/
def rangeSize : Nat := 8

/-- The bytes of each state that a fork leads to. -/
def forkSize : Nat := 4

/-- Forward, routes that end alike share the states of their ends. -/
def forwardSize (routes : List Route) : Nat :=
  (remainders routes).eraseDups.foldl
    (fun total left => total + (stateSize + (heads left).length * rangeSize)) 0

/-- Backward, a fork leads to the routes, which share the states of their starts only. -/
def backwardSize (routes : List Route) : Nat :=
  if routes.all (·.length == 1) then forwardSize routes
  else
    stateSize + routes.length * forkSize + (remainders routes).length * stateSize

def classSize : Reading → List Route → Nat
  | .forward => forwardSize
  | .backward => backwardSize

def anySize (reading : Reading) : Nat :=
  classSize reading anyCharacter

/-- The states around those of the pieces: where to start and to accept, the two ends of the text,
and forward also the two ends of what is matched. -/
def frameSize : Reading → Nat
  | .forward => 6 * stateSize
  | .backward => 4 * stateSize

/-- The limit that the library sets for each automaton unless it is told another. -/
def maxSize : Nat :=
  10 * 1024 * 1024

end DataGrid.Automaton
