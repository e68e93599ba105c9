import JvmAttach.Errno
import JvmAttach.Path

/-! The part of a computer that processes share: files, and the processes themselves. A file is
a numbered node; directories hold names for numbers. Number zero is the root directory. New
nodes get new numbers, also in the place of a node that has lost its name, so that making one
leaves every other as it is. A directory that was removed while somebody stood in it keeps its
parent but takes no new names. Each process has a working directory, a root and a status text,
which need not be readable. -/
namespace JvmAttach.Host

abbrev Inode := Nat

inductive Content where
  | file (bytes : Bytes)
  | directory (entries : List (Bytes × Inode)) (parent : Inode) (linked : Bool)
  | link (target : Bytes)
  | socket (listening : Bool)
  /-- The directory in which each process has one of its own. -/
  | processes
  deriving DecidableEq, Repr

structure Node where
  content : Content
  owner : UInt32
  /-- Nine permission bits: owner, group and others may read, write, execute. -/
  mode : Nat
  deriving DecidableEq, Repr

structure Process where
  uid : UInt32
  directory : Inode
  root : Inode
  status : Except SystemFault Bytes
  /-- The signals that it handles, whatever its status text says of them. -/
  caught : UInt64

structure Machine where
  /-- All nodes there have ever been, in the order of their numbers. -/
  nodes : List Node
  process? : Nat → Option Process

inductive FileKind where
  | file
  | directory
  | link
  | socket
  deriving DecidableEq, Repr

def Content.kind : Content → FileKind
  | .file _ => .file
  | .directory .. => .directory
  | .link _ => .link
  | .socket _ => .socket
  | .processes => .directory

def writeBit : Nat := 2

def searchBit : Nat := 1

/-- The superuser may do anything. Others have the bits of the owner or those of the group, which
all files share with everybody who walks here. -/
def Node.permits (node : Node) (uid : UInt32) (bit : Nat) : Bool :=
  uid == 0 || (if uid == node.owner then node.mode / 64 else node.mode / 8) &&& bit == bit

namespace Machine

def rootInode : Inode := 0

def node? (m : Machine) (i : Inode) : Option Node := m.nodes[i]?

def fresh (m : Machine) : Inode := m.nodes.length

def setNode (m : Machine) (i : Inode) (node : Node) : Machine :=
  { m with nodes := m.nodes.set i node }

def addNode (m : Machine) (node : Node) : Machine := { m with nodes := m.nodes ++ [node] }

theorem lt_fresh_of_node? {m : Machine} {i : Inode} {node : Node} (h : m.node? i = some node) :
    i < m.fresh := (List.getElem?_eq_some_iff.1 h).1

theorem node?_setNode_self {m : Machine} {i : Inode} (h : i < m.fresh) (node : Node) :
    (m.setNode i node).node? i = some node := List.getElem?_set_self h

theorem node?_setNode_of_ne (m : Machine) {i j : Inode} (h : i ≠ j) (node : Node) :
    (m.setNode i node).node? j = m.node? j := List.getElem?_set_ne h

theorem node?_addNode_of_lt {m : Machine} {i : Inode} (h : i < m.fresh) (node : Node) :
    (m.addNode node).node? i = m.node? i := List.getElem?_append_left h

theorem node?_addNode_fresh (m : Machine) (node : Node) :
    (m.addNode node).node? m.fresh = some node := List.getElem?_concat_length

def setProcess (m : Machine) (number : Nat) (process : Option Process) : Machine :=
  { m with process? := fun n => if n = number then process else m.process? n }

def entries (m : Machine) (i : Inode) : List (Bytes × Inode) :=
  match m.node? i with
  | some ⟨.directory entries _ _, _, _⟩ => entries
  | _ => []

def without (name : Bytes) (entries : List (Bytes × Inode)) : List (Bytes × Inode) :=
  entries.filter (·.1 != name)

def unlink (m : Machine) (directory : Inode) (name : Bytes) : Machine :=
  match m.node? directory with
  | some ⟨.directory entries parent linked, owner, mode⟩ =>
    m.setNode directory ⟨.directory (without name entries) parent linked, owner, mode⟩
  | _ => m

/-- Give a new node a name in a directory, in the place of what had the name. -/
def enter (m : Machine) (directory : Inode) (name : Bytes) (node : Node) : Machine :=
  match m.node? directory with
  | some ⟨.directory entries parent linked, owner, mode⟩ =>
    let named := ⟨.directory ((name, m.fresh) :: without name entries) parent linked, owner, mode⟩
    (m.setNode directory named).addNode node
  | _ => m

/-- Remove a directory with all that is in it. Who stands in it stays there. -/
def removeDirectory (m : Machine) (parent : Inode) (name : Bytes) (i : Inode) : Machine :=
  match m.node? i with
  | some ⟨.directory _ up _, owner, mode⟩ =>
    (m.setNode i ⟨.directory [] up false, owner, mode⟩).unlink parent name
  | _ => m

end Machine

end JvmAttach.Host
