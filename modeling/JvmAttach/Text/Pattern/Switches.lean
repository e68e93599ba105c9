import JvmAttach.Text.Blank
import JvmAttach.Text.Numeral

/-! The switches of a text pattern, and what a single character of a pattern can stand for. A
switch is a letter in a group that opens with a question mark; it holds to the end of the group
around it. Patterns are matched byte by byte by a machine without tables of Unicode. So as long
as a pattern is about Unicode text it can neither ignore case nor name a class of characters,
and when it is about bytes it can only match what is sure to be text. -/
namespace JvmAttach.Text.Pattern

structure Switches where
  caseless : Bool := false
  unicode : Bool := true
  /-- Blank characters and comments do not count. -/
  spaced : Bool := false
  deriving DecidableEq, Repr

namespace Switches

/-- Without case, lines, dots and newlines, greed, Unicode, line ends, spaces. -/
def letters : List Char := ['i', 'm', 's', 'U', 'u', 'R', 'x']

def set (s : Switches) (letter : Char) (on : Bool) : Switches :=
  if letter == 'i' then { s with caseless := on }
  else if letter == 'u' then { s with unicode := on }
  else if letter == 'x' then { s with spaced := on }
  else s

/-- Skip blank characters and comments, which go from a hash sign to the end of its line. -/
def skipSpace (comment : Bool) : List Char → List Char
  | [] => []
  | c :: rest =>
    if comment then skipSpace (c != '\n') rest
    else if isBlank c then skipSpace false rest
    else if c == '#' then skipSpace true rest
    else c :: rest

/-- Skip what does not count. -/
def skip (s : Switches) (text : List Char) : List Char :=
  if s.spaced then skipSpace false text else text

theorem length_skipSpace_le (comment : Bool) (text : List Char) :
    (skipSpace comment text).length ≤ text.length := by
  induction text generalizing comment with
  | nil => exact Nat.le_refl _
  | cons c rest ih =>
    simp only [skipSpace]
    split
    · exact Nat.le_succ_of_le (ih _)
    · split
      · exact Nat.le_succ_of_le (ih _)
      · split
        · exact Nat.le_succ_of_le (ih _)
        · exact Nat.le_refl _

theorem length_skip_le (s : Switches) (text : List Char) : (s.skip text).length ≤ text.length := by
  simp only [skip]
  split
  · exact length_skipSpace_le false text
  · exact Nat.le_refl _

/-- The character behind the first one of a text, past blank characters if they do not count. A
hash sign among them is skipped, but not the comment that it begins. -/
def second? (s : Switches) (text : List Char) : Option Char :=
  let next := text.tail
  if !s.spaced then next.head?
  else
    let shown := match next.dropWhile isBlank with
      | '#' :: rest => rest.dropWhile isBlank
      | rest => rest
    if shown.isEmpty then next.head? else shown.head?

/-- What a list of switches comes to. -/
structure Setting where
  switches : Switches
  /-- A list without a letter or a minus sign. -/
  void : Bool
  /-- The list is followed by a pattern of its own, rather than by the end of the group. -/
  ahead : Bool
  rest : List Char

/-- Read switches up to a colon or a closing parenthesis. Those behind a minus sign are put off.
Each stands once; `seen` are those before. -/
def read (s : Switches) (seen : List Char) : List Char → Option Setting
  | [] => none
  | c :: rest =>
    if c == ':' || c == ')' then
      if seen.head? == some '-' then none else some ⟨s, seen.isEmpty, c == ':', rest⟩
    else if seen.contains c then none
    else if c == '-' then s.read (c :: seen) rest
    else if letters.contains c then (s.set c (!seen.contains '-')).read (c :: seen) rest
    else none

end Switches

/-- What one place of a pattern can match. -/
inductive Atom where
  /-- A character; it may be written as a byte, with two hexadecimal digits. -/
  | literal (c : Char) (byte : Bool)
  | any
  /-- The beginning or the end of a line or of the text. -/
  | anchor
  | wordBoundary
  /-- Digits, blank characters or the characters of words; or all others. -/
  | shorthand (negated : Bool)
  deriving DecidableEq, Repr

namespace Atom

def isAscii (c : Char) : Bool := c.toNat < 0x80

/-- Whether a pattern can have the atom outside of brackets. -/
def stands (s : Switches) : Atom → Bool
  | .literal c byte => if s.unicode then !s.caseless else !byte || isAscii c
  | .any => s.unicode
  | .anchor => true
  | .wordBoundary => !s.unicode
  | .shorthand negated => !s.unicode && !negated

/-- Whether a pattern can have the atom between brackets. -/
def standsInside (s : Switches) : Atom → Bool
  | .literal c _ => if s.unicode then !s.caseless else isAscii c
  | .shorthand negated => !s.unicode && !negated
  | _ => false

end Atom

end JvmAttach.Text.Pattern
