/-! Blank characters, those with the Unicode property White_Space, and the two ways in which
text is cut at them: trimming both ends, and splitting into words. -/
namespace JvmAttach.Text

def isBlank (c : Char) : Bool :=
  let n := c.toNat
  (0x9 ≤ n && n ≤ 0xD) || n == 0x20 || n == 0x85 || n == 0xA0 || n == 0x1680 ||
    (0x2000 ≤ n && n ≤ 0x200A) || n == 0x2028 || n == 0x2029 || n == 0x202F ||
    n == 0x205F || n == 0x3000

def trimEnd (s : List Char) : List Char := (s.reverse.dropWhile isBlank).reverse

def trim (s : List Char) : List Char := trimEnd (s.dropWhile isBlank)

/-- Put a word in front of others, unless it is empty. -/
def addWord (w : List Char) (ws : List (List Char)) : List (List Char) :=
  if w.isEmpty then ws else w :: ws

/-- The maximal runs of characters that are not blank. -/
def words (s : List Char) : List (List Char) :=
  let cut := s.foldr (fun c (state : List Char × List (List Char)) =>
    if isBlank c then ([], addWord state.1 state.2) else (c :: state.1, state.2)) ([], [])
  addWord cut.1 cut.2

example : trim "\t 17 \n".toList = "17".toList := by decide
example : words " 4711\t1 ".toList = ["4711".toList, "1".toList] := by decide
example : isBlank '\u3000' = true ∧ isBlank '\u200b' = false ∧ isBlank '\ufeff' = false := by decide

end JvmAttach.Text
