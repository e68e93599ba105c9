/-! Positions in a text, counted in bytes of its UTF-8 form. A position inside a character is no
position of the text, and a cut there fails. -/
namespace JvmAttach.Text

/-- The characters before and behind a position. -/
def splitAt? : Nat → List Char → Option (List Char × List Char)
  | 0, text => some ([], text)
  | _ + 1, [] => none
  | n + 1, c :: text =>
    if c.utf8Size ≤ n + 1 then
      (splitAt? (n + 1 - c.utf8Size) text).map fun cut => (c :: cut.1, cut.2)
    else none

def from? (text : List Char) (first : Nat) : Option (List Char) :=
  (splitAt? first text).map Prod.snd

def between? (text : List Char) (first last : Nat) : Option (List Char) := do
  let rest ← from? text first
  return (← splitAt? (last - first) rest).1

/-- The characters that end at a position or before it. -/
def within (last : Nat) : List Char → List Char
  | [] => []
  | c :: text => if c.utf8Size ≤ last then c :: within (last - c.utf8Size) text else []

/-- Each character with its position. -/
def positioned (text : List Char) (first : Nat) : List (Nat × Char) :=
  match text with
  | [] => []
  | c :: rest => (first, c) :: positioned rest (first + c.utf8Size)

example : between? "a\u3000b".toList 1 4 = some ['\u3000'] := by decide +kernel
example : between? "a\u3000b".toList 2 2 = none := by decide +kernel

end JvmAttach.Text
