import JvmAttach.Host.Walk

/-! What a caller can do with files: ask for their attributes, create, remove and bind. Each
function gives the machine afterwards, or the error with which the machine is left as it was. -/
namespace JvmAttach.Host

structure Attributes where
  kind : FileKind
  owner : UInt32
  deriving DecidableEq, Repr

namespace Machine

def fileMode : Nat := 0o644

def directoryMode : Nat := 0o755

def attributes (m : Machine) : Place → Except Errno Attributes
  | .node i =>
    match m.node? i with
    | some node => .ok ⟨node.content.kind, node.owner⟩
    | none => .error Errno.noEntry
  | .process number _ =>
    match m.process? number with
    | some process => .ok ⟨.directory, process.uid⟩
    | none => .error Errno.noEntry
  | .status number =>
    match m.process? number with
    | some process => .ok ⟨.file, process.uid⟩
    | none => .error Errno.noEntry

/-- The attributes of what a path leads to, through links. -/
def stat (m : Machine) (c : Caller) (path : Path) : Except SystemFault Attributes :=
  match m.find c true path with
  | .error e => .error e
  | .ok spot =>
    match spot.place? with
    | none => .error (.os Errno.noEntry)
    | some place => (m.attributes place).mapError .os

def isDirectory (m : Machine) (c : Caller) (path : Path) : Bool :=
  match m.stat c path with
  | .ok attributes => attributes.kind == .directory
  | .error _ => false

def present (m : Machine) (c : Caller) (path : Path) : Bool := (m.stat c path).isOk

/-- The directory in which a name can be made or removed. -/
def writable (m : Machine) (c : Caller) (directory : Place) : Except Errno Inode :=
  match directory with
  | .node i =>
    match m.node? i with
    | some node =>
      match node.content with
      | .directory _ _ linked =>
        if !linked then .error Errno.noEntry
        else if node.permits c.uid writeBit && node.permits c.uid searchBit then .ok i
        else .error Errno.accessDenied
      | _ => .error Errno.noEntry
    | none => .error Errno.noEntry
  | _ => .error Errno.noEntry

/-- A new node under a name that is free. -/
def make (m : Machine) (c : Caller) (directory : Place) (name : Bytes) (node : Node) :
    Except SystemFault Machine :=
  match m.writable c directory with
  | .error e => .error (.os e)
  | .ok i => .ok (m.enter i name node)

/-- Open what is there for writing, emptied if that is asked for. -/
def openNode (m : Machine) (c : Caller) (truncate : Bool) : Place → Except SystemFault Machine
  | .node i =>
    match m.node? i with
    | none => .error (.os Errno.noEntry)
    | some node =>
      match node.content with
      | .file _ =>
        if !node.permits c.uid writeBit then .error (.os Errno.accessDenied)
        else if truncate then .ok (m.setNode i { node with content := .file [] })
        else .ok m
      | .socket _ => .error (.os Errno.noDevice)
      | .link _ => .error (.os Errno.tooManyLinks)
      | _ => .error (.os Errno.isDirectory)
  | .process .. => .error (.os Errno.isDirectory)
  | .status _ => .error (.os Errno.accessDenied)

/-- Open a file for writing, through links; it is made if it is not there. -/
def openFile (m : Machine) (c : Caller) (truncate : Bool) (path : Path) : Except SystemFault Machine :=
  match m.find c true path with
  | .error e => .error e
  | .ok (.here place) => m.openNode c truncate place
  | .ok (.entry _ _ (some place)) => m.openNode c truncate place
  | .ok (.entry directory name none) => m.make c directory name ⟨.file [], c.uid, fileMode⟩

/-- Remove a name that is not a directory's. A link is removed itself. -/
def remove (m : Machine) (c : Caller) (path : Path) : Except SystemFault Machine :=
  match m.find c false path with
  | .error e => .error e
  | .ok (.here _) => .error (.os Errno.isDirectory)
  | .ok (.entry _ _ none) => .error (.os Errno.noEntry)
  | .ok (.entry directory name (some place)) =>
    match m.writable c directory with
    | .error e => .error (.os e)
    | .ok i =>
      match m.attributes place with
      | .error e => .error (.os e)
      | .ok attributes =>
        if attributes.kind = .directory then .error (.os Errno.isDirectory)
        else .ok (m.unlink i name)

def withoutSlashes (path : Path) : Path :=
  let bytes := (path.bytes.reverse.dropWhile (· == Path.slash)).reverse
  if bytes.isEmpty then ⟨path.bytes.take 1⟩ else ⟨bytes⟩

def makeDirectory (m : Machine) (c : Caller) (path : Path) : Except SystemFault Machine :=
  match m.find c false (withoutSlashes path) with
  | .error e => .error e
  | .ok (.entry directory@(.node parent) name none) =>
    m.make c directory name ⟨.directory [] parent true, c.uid, directoryMode⟩
  | .ok (.entry _ _ none) => .error (.os Errno.noEntry)
  | .ok _ => .error (.os Errno.alreadyExists)

/-- Put a node where a path leads, in the place of anything there. -/
def put (m : Machine) (c : Caller) (path : Path) (node : Node) : Except SystemFault Machine :=
  match m.find c false path with
  | .error e => .error e
  | .ok (.here _) => .error (.os Errno.alreadyExists)
  | .ok (.entry directory name _) => m.make c directory name node

def alter (m : Machine) (c : Caller) (path : Path) (f : Node → Node) : Except SystemFault Machine :=
  match m.find c true path with
  | .error e => .error e
  | .ok spot =>
    match spot.place? with
    | some (.node i) =>
      match m.node? i with
      | some node => .ok (m.setNode i (f node))
      | none => .error (.os Errno.noEntry)
    | _ => .error (.os Errno.noEntry)

def removeTree (m : Machine) (c : Caller) (path : Path) : Except SystemFault Machine :=
  match m.find c false path with
  | .error e => .error e
  | .ok (.entry (.node parent) name (some (.node i))) => .ok (m.removeDirectory parent name i)
  | .ok _ => .error (.os Errno.noEntry)

/-- Whether somebody listens on the socket a path leads to; why it cannot be reached if not. -/
def reach (m : Machine) (c : Caller) (path : Path) : Except SystemFault Unit :=
  match m.find c true path with
  | .error e => .error e
  | .ok spot =>
    match spot.place? with
    | none => .error (.os Errno.noEntry)
    | some (.node i) =>
      match m.node? i with
      | none => .error (.os Errno.noEntry)
      | some node =>
        if !node.permits c.uid writeBit then .error (.os Errno.accessDenied)
        else if node.content = .socket true then .ok ()
        else .error (.os Errno.refused)
    | some _ => .error (.os Errno.refused)

/-- The names on the way from the root to a directory; none if it was removed. -/
def wayTo (m : Machine) : Nat → Inode → Option (List Bytes)
  | 0, _ => none
  | n + 1, i =>
    if i = rootInode then some []
    else match m.node? i with
      | some ⟨.directory _ parent true, _, _⟩ =>
        match (m.entries parent).find? (·.2 == i) with
        | some (name, _) => (m.wayTo n parent).map (· ++ [name])
        | none => none
      | _ => none

/-- The absolute path of a directory. -/
def pathTo (m : Machine) (i : Inode) : Except SystemFault Path :=
  match m.wayTo (m.fresh + 1) i with
  | some names => .ok ⟨Path.slash :: Path.joined names⟩
  | none => .error (.os Errno.noEntry)

/-- All names below a directory, as paths from it; `n` bounds their depth. -/
def below (m : Machine) : Nat → Inode → List (List Bytes)
  | 0, _ => []
  | n + 1, i =>
    (m.entries i).flatMap fun (name, j) => [name] :: (m.below n j).map (name :: ·)

def bare : Machine where
  nodes := [⟨.directory [] rootInode true, 0, directoryMode⟩]
  process? _ := none

end Machine

end JvmAttach.Host
