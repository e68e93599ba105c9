import JvmAttach.Logging.Entry
import JvmAttach.Text.Blank
import JvmAttach.Text.Pattern
import JvmAttach.Text.Pieces
import JvmAttach.Text.Position

/-! Directives of a filter. A directive is a level, a target, or a target, an equals sign and a
level. Behind the target there may be brackets with a span, and in them braces with a field and a
value for it. Entries are written outside of all spans, so that a directive with a span or with a
value lets nothing through; one with a field alone concerns the entries that carry it.

Blank characters around a directive are skipped when its parts are looked for. But the places
where the parts are found are counted from the first character that is not blank, and what they
hold is then taken from the directive as it is written. So blank characters in front shift every
part, and a shifted place can even be inside a character. -/
namespace JvmAttach

/-- The entries of some origins, or those among them that carry a field, are let through up to a
verbosity. -/
structure Directive where
  target : Option (List Char)
  field : Option (List Char) := none
  verbosity : Nat
  deriving DecidableEq, Repr

inductive DirectiveFault where
  | malformed
  /-- A part of what is written begins or ends inside a character. -/
  | brokenCharacter (written : List Char)
  deriving DecidableEq, Repr

namespace Directive

/-- What a directive has between brackets. -/
inductive Scope where
  | span
  | field (name : List Char)
  deriving DecidableEq, Repr

def levelNames : List (List Char × Nat) :=
  [("off".toList, 0), ("error".toList, 1), ("warn".toList, 2), ("info".toList, 3),
   ("debug".toList, 4), ("trace".toList, 5)]

def most : Nat := 5

/-- A level by name or by number. -/
def verbosity? (written : List Char) : Option Nat :=
  match Text.natural Text.decimal 0xffffffffffffffff written with
  | .ok n => if n ≤ most then some n else none
  | .error _ => levelNames.lookup (written.map Text.asciiLower)

/-- A directive can begin with a letter, a digit or one of three marks. -/
def mayBegin (c : Char) : Bool := Text.isAlphanumeric c || c == '-' || c == ':' || c == '_'

/-- The value of a field is a number or a pattern. -/
def isValue (written : List Char) : Bool :=
  Text.isNumber written || Text.Pattern.isPattern written

/-- Take a part of what is written. -/
def partOf (written : List Char) (cut : Option (List Char)) : Except DirectiveFault (List Char) :=
  match cut with
  | some part => .ok part
  | none => .error (.brokenCharacter written)

/-- Read the level behind an equals sign; all entries if there is none. -/
def levelFrom (written : List Char) (first : Nat) : Except DirectiveFault Nat := do
  let level ← partOf written (Text.from? written first)
  if level.isEmpty then return most
  else match verbosity? level with
    | some verbosity => return verbosity
    | none => .error .malformed

/-- Read what stands in braces: a field, or a field, an equals sign and a value. -/
def fieldOf (written : List Char) : Except DirectiveFault Scope :=
  match pieces '=' written with
  | _ :: value :: _ => if isValue value then .ok .span else .error .malformed
  | _ => if written.isEmpty then .error .malformed else .ok (.field written)

/-- Read what stands in brackets that begin before a position, and give what follows them. -/
def scopeFrom (written : List Char) (first : Nat) (places : List (Nat × Char)) :
    Except DirectiveFault (Scope × List (Nat × Char)) :=
  match places.dropWhile fun place => place.2 != ']' && place.2 != '\x7b' with
  | [] => .error .malformed
  | (last, mark) :: rest => do
    let span ← partOf written (Text.between? written first last)
    if mark == ']' then return (.span, rest)
    else match rest.dropWhile fun place => place.2 != '\x7d' with
      | [] => .error .malformed
      | (close, _) :: rest => do
        let scope ← fieldOf (← partOf written (Text.between? written (last + 1) close))
        match rest with
        | (_, ']') :: rest => return (if span.isEmpty then scope else .span, rest)
        | _ => .error .malformed

/-- The directives that a scope and a verbosity come to. -/
def ofScope (target : Option (List Char)) (verbosity : Nat) : Scope → List Directive
  | .span => []
  | .field name => [⟨target, some name, verbosity⟩]

/-- Read a directive behind its opening bracket. -/
def readScoped (written : List Char) (target : Option (List Char)) (first : Nat)
    (places : List (Nat × Char)) : Except DirectiveFault (List Directive) := do
  match ← scopeFrom written first places with
  | (scope, []) => return ofScope target most scope
  | (scope, (place, '=') :: _) => return ofScope target (← levelFrom written (place + 1)) scope
  | _ => .error .malformed

/-- A directive that is a level or a target. -/
def plain (written : List Char) : Directive :=
  match verbosity? written with
  | some verbosity => ⟨none, none, verbosity⟩
  | none => ⟨some written, none, most⟩

/-- Read a directive. One that lets nothing through is not kept. -/
def read (written : List Char) : Except DirectiveFault (List Directive) :=
  match Text.positioned (Text.trim written) 0 with
  | [] => .error .malformed
  | (first, c) :: rest =>
    if c == '[' then readScoped written none (first + 1) rest
    else if !mayBegin c then .error .malformed
    else match rest.dropWhile fun place => place.2 != '=' && place.2 != '[' with
      | [] => .ok [plain written]
      | (last, mark) :: rest => do
        let target ← partOf written (Text.between? written first last)
        if mark == '[' then readScoped written (some target) (last + 1) rest
        else return [⟨some target, none, ← levelFrom written (last + 1)⟩]

/-- The length of the target; a directive for all targets reaches less than any other. -/
def reach (d : Directive) : Nat := (d.target.map (·.length + 1)).getD 0

/-- The later of two directives is preferred unless the former is narrower. Of two fields the
one that is greater as text comes first. -/
def yields (former later : Directive) : Bool :=
  former.reach < later.reach ||
    (former.reach == later.reach &&
      match former.field, later.field with
      | none, _ => true
      | some _, none => false
      | some a, some b => !b.lex a fun c d => c.toNat < d.toNat)

/-- The names that an entry carries values under. -/
def carried (e : Log.Entry) : List (List Char) :=
  "message".toList :: e.fields.map (·.name.toList)

def concerns (d : Directive) (e : Log.Entry) : Bool :=
  (d.target.map (·.isPrefixOf e.origin.target.toList)).getD true &&
    (d.field.map (carried e).contains).getD true

example : read "perfmap_attach=warn".toList = .ok [⟨some "perfmap_attach".toList, none, 2⟩] := by rfl
example : read " [\x7bmessage\x7d]=debug".toList = .error .malformed := by rfl
example : read "\u3000x=debug".toList = .error (.brokenCharacter "\u3000x=debug".toList) := by
  rfl

end Directive

end JvmAttach
