import JvmAttach.Act
import JvmAttach.Duration
import JvmAttach.Host.Files
import JvmAttach.Load
import JvmAttach.ProcessStatus
import JvmAttach.Wire.Source

/-! The computer as this program meets it: the shared part, who we are in it, the time, what
the others will do and when, and a journal of all that we did to it. Time passes only while we
sleep, and a sleep may last longer than was asked for. What others do at a time that has come
is done before a sleep ends. A signal is answered by what the target does some time later. -/
namespace JvmAttach

namespace Host

/-- What we did, in the order in which we did it. -/
inductive Event where
  | signal (target signal : Int)
  | created (path : Path)
  | opened (path : Path)
  | removed (path : Path)
  | madeDirectory (path : Path)
  | slept (duration : Duration)
  | connected (path : Path)
  | sent (bytes : Bytes)
  deriving DecidableEq, Repr

/-- The other end of a connection: whether it takes what we send, and what it sends back. -/
structure Peer where
  receives : Except SystemFault Unit
  answers : Wire.Source

/-- Something that others do at a time. -/
structure Deed where
  time : Duration
  act : Machine → Machine

end Host

structure Host where
  machine : Host.Machine
  /-- Our own process. -/
  self : Nat
  realUid : UInt32
  effectiveUid : UInt32
  directory : Host.Inode
  clock : Duration
  /-- By how much the next sleeps last too long. -/
  lags : List Duration
  agenda : List Host.Deed
  /-- What a process does when it gets SIGQUIT; times count from the signal. -/
  reaction : Nat → List Host.Deed
  /-- The machine as each SIGQUIT found it. -/
  quits : List Host.Machine
  /-- Who answers the next connections. Nobody else answers anything. -/
  peers : List Host.Peer
  /-- Why no signal can be sent at all, if so. -/
  signalsBarred : Option Errno
  /-- The day, as it is written in the names of files. -/
  date : String
  journal : List Host.Event

namespace Host

def caller (h : Host) : Caller := ⟨h.effectiveUid, h.directory, h.self⟩

def record (event : Event) (h : Host) : Host := { h with journal := h.journal ++ [event] }

def stat (h : Host) (path : Path) : Except SystemFault Attributes := h.machine.stat h.caller path

def outlook : Outlook Host where
  workingDirectory h := h.machine.pathTo h.directory
  present path h := h.machine.present h.caller path

/-- A host in which nobody else does anything, seen by the superuser. -/
def alone (machine : Machine) (self : Nat) (directory : Inode) (date : String) : Host where
  machine := machine
  self := self
  realUid := 0
  effectiveUid := 0
  directory := directory
  clock := .zero
  lags := []
  agenda := []
  reaction _ := []
  quits := []
  peers := []
  signalsBarred := none
  date := date
  journal := []

/-- The status text of a process; bytes that are no text cannot be read. -/
def statusText (number : Nat) (h : Host) : Option (List Char) :=
  match h.machine.process? number with
  | none => none
  | some process =>
    match process.status with
    | .error _ => none
    | .ok bytes => Text.decode? bytes

/-- Change the files, and note what was done; an error changes nothing. -/
def changing (event : Event) (f : Machine → Caller → Except SystemFault Machine) :
    Act SystemFault Host Unit :=
  Act.tryChange fun h =>
    (f h.machine h.caller).map fun machine => record event { h with machine }

def createFile (path : Path) : Act SystemFault Host Unit :=
  changing (.created path) fun m c => m.openFile c true path

/-- Open a file to write behind what is in it; it is made if it is not there. -/
def appendFile (path : Path) : Act SystemFault Host Unit :=
  changing (.opened path) fun m c => m.openFile c false path

def removeFile (path : Path) : Act SystemFault Host Unit :=
  changing (.removed path) fun m c => m.remove c path

def makeDirectory (path : Path) : Act SystemFault Host Unit :=
  changing (.madeDirectory path) fun m c => m.makeDirectory c path

/-- Make the first of some directories that hold one another, innermost first. One that cannot
be made for want of those around it is tried again behind them. -/
def makeNested : List Path → Act SystemFault Host Unit
  | [] => Act.fail (.other "failed to create whole tree")
  | path :: outer =>
    if path.bytes.isEmpty then return ()
    else do
      let settle (fault : SystemFault) : Act SystemFault Host Unit := do
        if ← Act.look fun h => h.machine.isDirectory h.caller path then return ()
        else Act.fail fault
      match ← (makeDirectory path).attempt with
      | .ok () => return ()
      | .error fault =>
        if fault = .os Errno.noEntry then
          makeNested outer
          match ← (makeDirectory path).attempt with
          | .ok () => return ()
          | .error fault => settle fault
        else settle fault

def makeDirectories (path : Path) : Act SystemFault Host Unit := makeNested path.ancestry

end Host

end JvmAttach
