import JvmAttach.Text.Pattern.Escape

/-! Classes of characters in brackets. Between the brackets stand characters, ranges of them,
classes by name and other brackets, and operators that take two such lists. Reading a class
gives how deep it is nested. -/
namespace JvmAttach.Text.Pattern

/-- The depth of some parts together: one part is as deep as it is, more make a level. -/
def nested : List Nat → Nat
  | [] => 0
  | [depth] => depth
  | depths => depths.foldl max 0 + 1

/-- A bracket that is open, with the depths of its left operand and of what it has so far. -/
structure Bracket where
  negated : Bool
  left : Option Nat := none
  items : List Nat := []
  deriving DecidableEq, Repr

namespace Bracket

def add (b : Bracket) (depth : Nat) : Bracket := { b with items := depth :: b.items }

def depth (b : Bracket) : Nat :=
  match b.left with
  | none => nested b.items
  | some left => max left (nested b.items) + 1

def operated (b : Bracket) : Bracket := { b with left := some b.depth, items := [] }

/-- Minus signs behind an opening bracket stand for themselves. -/
def dashes (s : Switches) (b : Bracket) (text : List Char) : Bracket × List Char :=
  match text with
  | [] => (b, [])
  | c :: rest => if c == '-' then dashes s (b.add 0) (s.skip rest) else (b, c :: rest)
  termination_by text.length
  decreasing_by
    have shorter := s.length_skip_le rest
    simp only [List.length_cons]
    omega

/-- Read what opens a class behind its bracket: a circumflex negates it, and a closing bracket
that comes first stands for itself. -/
def opening (s : Switches) (text : List Char) : Option (Bracket × List Char) :=
  let (negated, text) := match s.skip text with
    | '^' :: rest => (true, s.skip rest)
    | text => (false, text)
  let (b, text) := match dashes s { negated } text with
    | (b, ']' :: rest) => if b.items.isEmpty then (b.add 0, s.skip rest) else (b, ']' :: rest)
    | other => other
  if text.isEmpty || !(b.items.isEmpty || Atom.standsInside s (.literal '-' false)) then none
  else some (b, text)

def classNames : List (List Char) :=
  ["alnum", "alpha", "ascii", "blank", "cntrl", "digit", "graph", "lower", "print", "punct",
    "space", "upper", "word", "xdigit"].map String.toList

/-- A class by name behind an opening bracket, if there is one: whether it is negated. -/
def named? : List Char → Option (Bool × List Char)
  | ':' :: text =>
    let (negated, text) := match text with
      | '^' :: rest => (true, rest)
      | _ => (false, text)
    let name := text.takeWhile (· != ':')
    match text.drop name.length with
    | ':' :: ']' :: rest => if classNames.contains name then some (negated, rest) else none
    | _ => none
  | _ => none

/-- Whether a class by name can be used. -/
def standsNamed (s : Switches) (negated : Bool) : Bool :=
  if s.unicode then !s.caseless else !negated

/-- One end of a range, or something that is no range. -/
def atom (s : Switches) : List Char → Option (Atom × List Char)
  | [] => none
  | '\\' :: rest => escape s rest
  | c :: rest => some (.literal c false, rest)

/-- Both ends of a range can be used, and are in order. -/
def isRange (s : Switches) (first last : Atom) : Bool :=
  match first, last with
  | .literal a _, .literal b _ => a ≤ b && first.standsInside s && last.standsInside s
  | _, _ => false

/-- Read a character, a shorthand or a range. A minus sign makes a range unless a closing bracket
or another minus sign comes next. -/
def range (s : Switches) (text : List Char) : Option (List Char) := do
  let (first, text) ← atom s text
  match s.skip text with
  | [] => none
  | '-' :: rest =>
    let next := s.second? ('-' :: rest)
    if next == some ']' || next == some '-' then
      if first.standsInside s then some ('-' :: rest) else none
    else
      let (last, text) ← atom s (s.skip rest)
      if isRange s first last then some text else none
  | text => if first.standsInside s then some text else none

def isOperator (c : Char) : Bool := c == '&' || c == '-' || c == '~'

/-- Whether the class can be used once it is closed. -/
def stands (s : Switches) (b : Bracket) : Bool := s.unicode || !b.negated

/-- Read a class to its end. The innermost open bracket is the first; `fuel` bounds the number of
parts. -/
def read (s : Switches) : Nat → Bracket → List Bracket → List Char → Option (Nat × List Char)
  | 0, _, _, _ => none
  | fuel + 1, b, outer, text =>
    match s.skip text with
    | [] => none
    | '[' :: rest =>
      match named? rest with
      | some (negated, rest) =>
        if standsNamed s negated then read s fuel (b.add 0) outer rest else none
      | none => do
        let (inner, rest) ← opening s rest
        read s fuel inner (b :: outer) rest
    | ']' :: rest =>
      if !b.stands s then none
      else match outer with
        | [] => some (b.depth + 1, rest)
        | around :: outer => read s fuel (around.add (b.depth + 1)) outer rest
    | c :: rest =>
      if isOperator c && rest.head? == some c then read s fuel b.operated outer rest.tail
      else do
        let rest ← range s (c :: rest)
        read s fuel (b.add 0) outer rest

end Bracket

/-- Read a class behind its first bracket: its depth, and what follows. -/
def bracketed (s : Switches) (text : List Char) : Option (Nat × List Char) := do
  let (b, rest) ← Bracket.opening s text
  Bracket.read s (text.length + 1) b [] rest

end JvmAttach.Text.Pattern
