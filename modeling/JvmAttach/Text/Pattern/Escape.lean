import JvmAttach.Text.Pattern.Switches

/-! Escapes in a text pattern: what may stand behind a backslash. Marks stand for themselves,
some letters for control characters, places or classes, and x, u and U begin the number of
a character. Letters and digits without a meaning are refused. -/
namespace JvmAttach.Text.Pattern

/-- The character with a number, if there is one. -/
def character? (number : Nat) : Option Char :=
  if number.isValidChar then some (Char.ofNat number) else none

def hexDigits (s : Switches) (number : Nat) : Nat → List Char → Option (Nat × List Char)
  | 0, text => some (number, text)
  | n + 1, text =>
    match s.skip text with
    | [] => none
    | c :: rest =>
      match hexDigit c with
      | some digit => hexDigits s (number * 16 + digit) n rest
      | none => none

/-- Take hexadecimal digits up to a closing brace, at least one. -/
def bracedDigits (s : Switches) (number : Option Nat) (text : List Char) : Option (Nat × List Char) :=
  match _h : s.skip text with
  | [] => none
  | c :: rest =>
    if c == '\x7d' then number.map fun number => (number, rest)
    else match hexDigit c with
      | some digit => bracedDigits s (some (number.getD 0 * 16 + digit)) rest
      | none => none
  termination_by text.length
  decreasing_by
    have shorter := s.length_skip_le text
    rw [_h, List.length_cons] at shorter
    omega

/-- A character by its number, with a fixed count of digits or in braces. -/
def numbered (s : Switches) (count : Nat) (text : List Char) : Option (Atom × List Char) :=
  match s.skip text with
  | '\x7b' :: rest => do
    let (number, rest) ← bracedDigits s none rest
    return (.literal (← character? number) false, rest)
  | text => do
    let (number, rest) ← hexDigits s 0 count text
    return (.literal (← character? number) (count == 2), rest)

def boundaryNames : List (List Char) :=
  ["start".toList, "end".toList, "start-half".toList, "end-half".toList]

def isNameOfBoundary (c : Char) : Bool := c.isAlpha || c == '-'

/-- Take the letters of a name. -/
def boundaryName (s : Switches) (name : List Char) (text : List Char) : List Char × List Char :=
  match text with
  | [] => (name.reverse, [])
  | c :: rest =>
    if isNameOfBoundary c then boundaryName s (c :: name) (s.skip rest) else (name.reverse, c :: rest)
  termination_by text.length
  decreasing_by
    have shorter := s.length_skip_le rest
    simp only [List.length_cons]
    omega

/-- What stands behind the escape of a boundary of words: braces with the name of its kind, or
something else, which may be a count in braces. -/
def boundaryKind (s : Switches) : List Char → Option (List Char)
  | '\x7b' :: rest =>
    match s.skip rest with
    | [] => none
    | c :: inner =>
      if isNameOfBoundary c then
        match boundaryName s [] (c :: inner) with
        | (name, '\x7d' :: after) => if boundaryNames.contains name then some after else none
        | _ => none
      else some ('\x7b' :: rest)
  | text => some text

/-- The letters for control characters. -/
def controls : List (Char × Char) :=
  [('a', '\x07'), ('f', '\x0c'), ('t', '\t'), ('n', '\n'), ('r', '\x0d'), ('v', '\x0b')]

def isMark (c : Char) : Bool := Atom.isAscii c && !c.isAlphanum && c != '<' && c != '>'

/-- Read what stands behind a backslash. -/
def escape (s : Switches) : List Char → Option (Atom × List Char)
  | [] => none
  | c :: rest =>
    if c == 'x' then numbered s 2 rest
    else if c == 'u' then numbered s 4 rest
    else if c == 'U' then numbered s 8 rest
    else if ['d', 's', 'w'].contains c then some (.shorthand false, rest)
    else if ['D', 'S', 'W'].contains c then some (.shorthand true, rest)
    else if ['A', 'z'].contains c then some (.anchor, rest)
    else if ['B', '<', '>'].contains c then some (.wordBoundary, rest)
    else if c == 'b' then (boundaryKind s rest).map fun rest => (.wordBoundary, rest)
    else if isMark c then some (.literal c false, rest)
    else (controls.lookup c).map fun control => (.literal control false, rest)

end JvmAttach.Text.Pattern
