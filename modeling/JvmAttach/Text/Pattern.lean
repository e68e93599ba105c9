import JvmAttach.Text.Alphanumeric
import JvmAttach.Text.Pattern.Bracket

/-! Text patterns, as far as telling which texts are patterns. A pattern is a choice between
sequences of atoms, classes and groups, each of which may be repeated. Groups can be named, no
two alike, or set switches. A pattern is refused if it is nested too deeply, or if the machine
that matches it cannot be built. -/
namespace JvmAttach.Text.Pattern

/-- A part of a sequence: something of some depth, or switches, which cannot be repeated. -/
inductive Part where
  | switches
  | some (depth : Nat)
  deriving DecidableEq, Repr

def Part.depth : Part → Nat
  | .switches => 0
  | .some depth => depth

/-- A choice that is being read: its last sequence, backwards, and the depths of those before. -/
structure Choice where
  sequence : List Part := []
  done : List Nat := []
  deriving DecidableEq, Repr

namespace Choice

def sequenceDepth (c : Choice) : Nat := nested (c.sequence.map Part.depth)

def depth (c : Choice) : Nat := nested (c.sequenceDepth :: c.done)

def add (c : Choice) (part : Part) : Choice := { c with sequence := part :: c.sequence }

def alternated (c : Choice) : Choice := ⟨[], c.sequenceDepth :: c.done⟩

def repeated (c : Choice) : Option Choice :=
  match c.sequence with
  | .some depth :: before => some { c with sequence := .some (depth + 1) :: before }
  | _ => none

end Choice

/-- A pattern that is being read, with the choices around the innermost open group, the switches
to go back to behind each, and the names that groups have. -/
structure Reading where
  choice : Choice := {}
  outer : List (Choice × Switches) := []
  switches : Switches := {}
  names : List (List Char) := []

namespace Reading

def add (r : Reading) (part : Part) : Reading := { r with choice := r.choice.add part }

def opened (r : Reading) (switches : Switches) : Reading :=
  { r with choice := {}, outer := (r.choice, r.switches) :: r.outer, switches }

def closed (r : Reading) : Option Reading :=
  match r.outer with
  | [] => none
  | (around, switches) :: outer =>
    some { r with choice := around.add (.some (r.choice.depth + 1)), outer, switches }

end Reading

/-- A name begins with a letter or an underscore; digits, dots and brackets may follow. -/
def mayBeInName (first : Bool) (c : Char) : Bool :=
  c == '_' || (if first then isAlphabetic c
    else isAlphanumeric c || c == '.' || c == '[' || c == ']')

def isName (name : List Char) : Bool :=
  match name with
  | [] => false
  | first :: rest => mayBeInName true first && rest.all (mayBeInName false)

def openNamed (r : Reading) (text : List Char) : Option (Reading × List Char) :=
  let name := text.takeWhile (· != '>')
  match text.drop name.length with
  | [] => none
  | _ :: rest =>
    if isName name && !r.names.contains name then
      some ({ r with names := name :: r.names }.opened r.switches, rest)
    else none

/-- Open a group that has switches, or set switches for the rest of the group around. -/
def openSwitched (r : Reading) (text : List Char) : Option (Reading × List Char) := do
  let setting ← r.switches.read [] text
  if setting.ahead then return (r.opened setting.switches, setting.rest)
  else if setting.void then none
  else return ({ r with switches := setting.switches }.add .switches, setting.rest)

/-- Read what opens a group behind its parenthesis. Groups that look ahead or back are refused. -/
def openGroup (r : Reading) (text : List Char) : Option (Reading × List Char) :=
  match r.switches.skip text with
  | '?' :: 'P' :: '<' :: rest => openNamed r rest
  | '?' :: '<' :: '=' :: _ => none
  | '?' :: '<' :: '!' :: _ => none
  | '?' :: '<' :: rest => openNamed r rest
  | '?' :: rest => openSwitched r rest
  | rest => some (r.opened r.switches, rest)

def largestCount : Nat := 0xffffffff

/-- Take digits, and the blank characters behind them. -/
def countDigits (s : Switches) (count : Option Nat) (text : List Char) : Option Nat × List Char :=
  match text with
  | [] => (count, [])
  | c :: rest =>
    match decimalDigit c with
    | some digit => countDigits s (some (count.getD 0 * 10 + digit)) (s.skip rest)
    | none => (count, (c :: rest).dropWhile isBlank)
  termination_by text.length
  decreasing_by
    have shorter := s.length_skip_le rest
    simp only [List.length_cons]
    omega

/-- A number between braces, with blank characters around it. -/
def count (s : Switches) (text : List Char) : Option (Nat × List Char) :=
  match countDigits s none (text.dropWhile isBlank) with
  | (some n, rest) => if n ≤ largestCount then some (n, rest) else none
  | (none, _) => none

/-- Read how often something is repeated, behind an opening brace: a number, a least number, or
both a least and a largest. -/
def counted (s : Switches) (text : List Char) : Option (List Char) := do
  let (least, text) ← count s (s.skip text)
  match text with
  | '\x7d' :: rest => some rest
  | ',' :: rest =>
    match s.skip rest with
    | '\x7d' :: rest => some rest
    | rest => do
      let (most, text) ← count s rest
      match text with
      | '\x7d' :: rest => if least ≤ most then some rest else none
      | _ => none
  | _ => none

/-- A question mark behind a repetition makes it a lazy one. -/
def behindLazy : List Char → List Char
  | '?' :: rest => rest
  | text => text

def place (s : Switches) : List Char → Option (Nat × List Char)
  | [] => none
  | '[' :: rest => bracketed s rest
  | c :: rest => do
    let (atom, rest) ←
      if c == '\\' then escape s rest
      else if c == '.' then some (.any, rest)
      else if c == '^' || c == '$' then some (.anchor, rest)
      else some (.literal c false, rest)
    if atom.stands s then some (0, rest) else none

def step (r : Reading) : List Char → Option (Reading × List Char)
  | [] => none
  | c :: rest =>
    if c == '(' then openGroup r rest
    else if c == ')' then r.closed.map fun r => (r, rest)
    else if c == '|' then some ({ r with choice := r.choice.alternated }, rest)
    else if c == '?' || c == '*' || c == '+' then
      r.choice.repeated.map fun choice => ({ r with choice }, behindLazy rest)
    else if c == '\x7b' then do
      let choice ← r.choice.repeated
      let rest ← counted r.switches rest
      return ({ r with choice }, behindLazy (r.switches.skip rest))
    else (place r.switches (c :: rest)).map fun (depth, rest) => (r.add (.some depth), rest)

/-- Read to the end; `fuel` bounds the number of steps. -/
def read : Nat → Reading → List Char → Option Reading
  | 0, _, _ => none
  | fuel + 1, r, text =>
    match r.switches.skip text with
    | [] => some r
    | text => do
      let (r, text) ← step r text
      read fuel r text

def deepest : Nat := 250

def isPattern (text : List Char) : Bool :=
  match read (text.length + 1) {} text with
  | some r => r.outer.isEmpty && r.choice.depth ≤ deepest
  | none => false

example : isPattern "a(?:b|c)*[a-z&&[^x]]$".toList = true := by decide +kernel
example : isPattern "a**".toList = true ∧ isPattern "(?i)**".toList = false := by decide +kernel
example : isPattern "(?P<a>x)(?P<a>y)".toList = false := by decide +kernel
example : isPattern "\\d".toList = false ∧ isPattern "(?-u)\\d".toList = true := by decide +kernel

end JvmAttach.Text.Pattern
