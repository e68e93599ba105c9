import JvmAttach.Text.Pieces

/-! The lines of a text. A line ends at a newline or at the end of the text; a carriage
return directly before the newline belongs to the line end. Nothing after the last newline
is no line. -/
namespace JvmAttach.Text

def dropReturn (line : List Char) : List Char :=
  if line.getLast? = some '\r' then line.dropLast else line

def lines (s : List Char) : List (List Char) :=
  let ps := pieces '\n' s
  let last := ps.getLast?.getD []
  ps.dropLast.map dropReturn ++ if last.isEmpty then [] else [last]

/-- What stands behind `head` on the first line that begins with it. -/
def lineAfter (head : List Char) (s : List Char) : Option (List Char) :=
  (lines s).findSome? fun line => if head.isPrefixOf line then some (line.drop head.length) else none

example : lines "a\r\n\nb".toList = ["a".toList, [], "b".toList] := by decide
example : lines "a\n".toList = ["a".toList] := by decide

end JvmAttach.Text
