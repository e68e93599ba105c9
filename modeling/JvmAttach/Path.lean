import JvmAttach.Text.Pieces
import JvmAttach.Text.Utf8

/-! File paths as byte strings. Joining keeps every byte of both parts; the components of a
path are what is left when repeated slashes and idle dots are skipped. A path is cut as a head
(the root slash, a leading dot or nothing) and the pieces between the slashes that follow. -/
namespace JvmAttach

structure Path where
  bytes : Bytes
  deriving DecidableEq, Repr, Inhabited

/-- A step of a path. Only the first can be `root` or `current`. -/
inductive Component where
  | root
  | current
  | up
  | name (bytes : Bytes)
  deriving DecidableEq, Repr

namespace Path

def slash : UInt8 := 47
def dot : UInt8 := 46

def ofString (s : String) : Path := ⟨Text.bytesOf s⟩

def shown (p : Path) : String := Text.shown p.bytes

def isAbsolute (p : Path) : Bool := p.bytes.head? == some slash

/-- An absolute second path replaces the first; otherwise one slash stands between them, but
none after an empty first path or one that ends in a slash. -/
def join (p q : Path) : Path :=
  if q.isAbsolute then q
  else if p.bytes.isEmpty || p.bytes.getLast? == some slash then ⟨p.bytes ++ q.bytes⟩
  else ⟨p.bytes ++ slash :: q.bytes⟩

/-- A piece that is no step: nothing between two slashes, or a dot. -/
def isIdle (piece : Bytes) : Bool := piece.isEmpty || piece == [dot]

/-- What stands before the pieces. -/
def head (p : Path) : Bytes :=
  match p.bytes with
  | [] => []
  | b :: rest =>
    if b == slash then [slash]
    else if b == dot && (rest.isEmpty || rest.head? == some slash) then [dot]
    else []

/-- The pieces of a path up to its last step. -/
def body (p : Path) : List Bytes :=
  (pieces slash (p.bytes.drop p.head.length)).reverse.dropWhile isIdle |>.reverse

def component (piece : Bytes) : Component :=
  if piece == [dot, dot] then .up else .name piece

def opening (head : Bytes) : List Component :=
  if head == [slash] then [.root] else if head == [dot] then [.current] else []

def components (p : Path) : List Component :=
  opening p.head ++ (p.body.filter (fun piece => !isIdle piece)).map component

/-- The name that a path ends in. The root, dots and a path that goes up at its end have none. -/
def fileName? (p : Path) : Option Bytes :=
  match p.body.getLast? with
  | some piece => if piece == [dot, dot] then none else some piece
  | none => none

/-- Pieces with slashes between them. -/
def joined : List Bytes → Bytes
  | [] => []
  | [piece] => piece
  | piece :: rest => piece ++ slash :: joined rest

/-- The paths that hold one another, from the path without its last step up to its head; the
argument is the body backwards. -/
def above (head : Bytes) : List Bytes → List Path
  | [] => if head == [dot] then [⟨head⟩, ⟨[]⟩] else [⟨head⟩]
  | piece :: rest =>
    if isIdle piece then above head rest
    else ⟨head ++ joined (piece :: rest).reverse⟩ :: above head rest

/-- A path and all that hold it, innermost first, each cut behind its last step. -/
def ancestry (p : Path) : List Path := above p.head p.body.reverse

/-- The path without its last step. -/
def parent? (p : Path) : Option Path := p.ancestry.tail.head?

example : (ofString "/a//b/./c/.").components =
    [.root, .name (Text.bytesOf "a"), .name (Text.bytesOf "b"), .name (Text.bytesOf "c")] := by decide
example : (ofString "./a/..").components = [.current, .name (Text.bytesOf "a"), .up] := by decide
example : (ofString "a//b/./c/.").parent? = some (ofString "a//b") := by decide
example : (ofString "logs/").parent? = some (ofString "") := by decide
example : (ofString "/").parent? = none := by decide
example : (ofString ".").fileName? = none := by decide

end Path

end JvmAttach
