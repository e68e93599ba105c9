import JvmAttach.Host.Machine
import JvmAttach.Text.Numeral

/-! Walking along a path, as the operating system does it: name by name, from the root or the
walker's directory, asking each directory in turn. Symbolic links on the way lead off to their
targets, forty of them at most. The directory of a process has two entries that lead straight
to a directory, where the process works and where its root is. -/
namespace JvmAttach.Host

/-- Somewhere a walk can stand. -/
inductive Place where
  | node (i : Inode)
  | process (number : Nat) (table : Inode)
  | status (number : Nat)
  deriving DecidableEq, Repr

/-- Who walks: with what rights, from where, and as which process. -/
structure Caller where
  uid : UInt32
  directory : Inode
  number : Nat
  deriving DecidableEq, Repr

/-- The end of a walk: a place that has no name of its own, or a name in a directory, with what
it names. -/
inductive Spot where
  | here (place : Place)
  | entry (directory : Place) (name : Bytes) (found : Option Place)
  deriving DecidableEq, Repr

def Spot.place? : Spot → Option Place
  | .here place => some place
  | .entry _ _ found => found

/-- A walk arrives, or a link turns it aside with names still to go. -/
inductive Course where
  | arrived (spot : Spot)
  | detour (directory : Place) (target : Bytes) (rest : List Bytes)
  deriving DecidableEq, Repr

namespace Machine

def longestName : Nat := 255

def longestPath : Nat := 4095

def linkBudget : Nat := 40

def dotName : Bytes := [Path.dot]

def dotDotName : Bytes := [Path.dot, Path.dot]

/-- The names along a path. A slash at the end asks for a directory, like a dot. -/
def names (path : Bytes) : List Bytes :=
  let ps := (pieces Path.slash path).filter (!·.isEmpty)
  if path.getLast? == some Path.slash && !ps.isEmpty then ps ++ [dotName] else ps

/-- The process that a name in the directory of processes is for. -/
def processNumber? (m : Machine) (c : Caller) (name : Bytes) : Option Nat :=
  if name == Text.bytesOf "self" then some c.number
  else match Text.natural Text.decimal 0x7fffffff (Text.decode name) with
    | .ok n => if Text.bytesOf (toString n) == name && (m.process? n).isSome then some n else none
    | .error _ => none

/-- What a process shows in its directory. Its places are for its own user only. -/
def processEntry (uid : UInt32) (process : Process) (number : Nat) (name : Bytes) :
    Except Errno (Option Place) :=
  let leading (i : Inode) : Except Errno (Option Place) :=
    if uid == 0 || uid == process.uid then .ok (some (.node i)) else .error Errno.accessDenied
  if name == Text.bytesOf "cwd" then leading process.directory
  else if name == Text.bytesOf "root" then leading process.root
  else if name == Text.bytesOf "status" then .ok (some (.status number))
  else .ok none

def lookup (m : Machine) (c : Caller) (place : Place) (name : Bytes) : Except Errno (Option Place) :=
  match place with
  | .node i =>
    match m.node? i with
    | none => .error Errno.noEntry
    | some node =>
      match node.content with
      | .directory entries parent _ =>
        if !node.permits c.uid searchBit then .error Errno.accessDenied
        else if name == dotName then .ok (some place)
        else if name == dotDotName then .ok (some (.node parent))
        else if longestName < name.length then .error Errno.nameTooLong
        else .ok ((entries.lookup name).map .node)
      | .processes =>
        if name == dotName then .ok (some place)
        else if name == dotDotName then .ok (some (.node rootInode))
        else .ok ((m.processNumber? c name).map (.process · i))
      | _ => .error Errno.notDirectory
  | .process number table =>
    match m.process? number with
    | none => .error Errno.noEntry
    | some process =>
      if name == dotName then .ok (some place)
      else if name == dotDotName then .ok (some (.node table))
      else processEntry c.uid process number name
  | .status _ => .error Errno.notDirectory

def linkTarget? (m : Machine) : Place → Option Bytes
  | .node i =>
    match m.node? i with
    | some ⟨.link target, _, _⟩ => some target
    | _ => none
  | _ => none

def isDots (name : Bytes) : Bool := name == dotName || name == dotDotName

/-- Walk until the names are used up or a link is met. Whether a link at the very end is
followed depends on what the walk is for. -/
def descend (m : Machine) (c : Caller) (follow : Bool) : Place → List Bytes → Except Errno Course
  | place, [] => .ok (.arrived (.here place))
  | place, name :: rest =>
    match m.lookup c place name with
    | .error e => .error e
    | .ok none =>
      if rest.isEmpty then .ok (.arrived (.entry place name none)) else .error Errno.noEntry
    | .ok (some next) =>
      match m.linkTarget? next with
      | some target =>
        if rest.isEmpty && !follow then .ok (.arrived (.entry place name (some next)))
        else .ok (.detour place target rest)
      | none =>
        if rest.isEmpty then
          .ok (.arrived (if isDots name then .here next else .entry place name (some next)))
        else descend m c follow next rest

def startOf (base : Place) (path : Bytes) : Place :=
  if path.head? == some Path.slash then .node rootInode else base

/-- Walk through links, as long as the budget lasts. -/
def resolve (m : Machine) (c : Caller) (follow : Bool) :
    Nat → Place → List Bytes → Except Errno Spot
  | 0, place, names =>
    match m.descend c follow place names with
    | .error e => .error e
    | .ok (.arrived spot) => .ok spot
    | .ok (.detour ..) => .error Errno.tooManyLinks
  | budget + 1, place, ns =>
    match m.descend c follow place ns with
    | .error e => .error e
    | .ok (.arrived spot) => .ok spot
    | .ok (.detour directory target rest) =>
      m.resolve c follow budget (startOf directory target) (names target ++ rest)

def find (m : Machine) (c : Caller) (follow : Bool) (path : Path) : Except SystemFault Spot :=
  if path.bytes.contains 0 then .error .nulInPath
  else if path.bytes.isEmpty then .error (.os Errno.noEntry)
  else if longestPath < path.bytes.length then .error (.os Errno.nameTooLong)
  else (m.resolve c follow linkBudget (startOf (.node c.directory) path.bytes) (names path.bytes)).mapError .os

end Machine

end JvmAttach.Host
