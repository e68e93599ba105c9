import JvmAttach.Attach.Listener
import JvmAttach.Host.Connection
import JvmAttach.Wire.Reply
import JvmAttach.Wire.Request

/-! Attachments to a target. An attachment knows the socket of the target's listener; each load
makes a connection of its own, sends one request and reads the reply. Detaching only makes the
handle unusable, since no connection stays open. -/
namespace JvmAttach.Attach

structure Config where
  /-- How long to wait for the listener, and for each step of a connection. -/
  timeout : Duration
  /-- Where the target's sockets are, if not in its own temporary directory. -/
  directory : Option Path
  deriving DecidableEq, Repr

namespace Config

def defaultTimeout : Duration := .ofMillis 10000

def standard : Config := ⟨defaultTimeout, none⟩

instance : Inhabited Config := ⟨standard⟩

def withTimeout (config : Config) (timeout : Duration) : Config := { config with timeout }

def withDirectory (config : Config) (directory : Path) : Config :=
  { config with directory := some directory }

end Config

structure Attachment where
  pid : Pid
  socket : Path
  timeout : Duration
  attached : Bool
  deriving DecidableEq, Repr

def resolved (pid : Pid) (inner : UInt32) (socket : Path) : Log.Entry :=
  { level := .debug, origin := .attachment, message := "resolved attach socket",
    fields := [⟨"pid", pid.shown, false⟩, ⟨"nspid", toString inner.toNat, false⟩,
      ⟨"socket", socket.shown, false⟩] }

def attachedTo (pid : Pid) : Log.Entry :=
  { level := .info, origin := .attachment,
    message := "attached", fields := [⟨"pid", pid.shown, false⟩] }

/-- The directory in which the target's socket is looked for. -/
def Config.directoryFor (config : Config) (pid : Pid) (h : Host) : Path :=
  config.directory.getD (temporaryOf pid h)

def attach (config : Config) (pid : Pid) : Act AttachFault Host Attachment := do
  probe pid
  let inner ← Act.look (namespacePid pid)
  let directory ← Act.look (config.directoryFor pid)
  let socket := socketPath directory inner
  Act.tell (resolved pid inner socket)
  if !(← Act.look (socketExists socket)) then
    startListener pid inner directory socket config.timeout
  checkOwner socket
  Act.tell (attachedTo pid)
  return { pid, socket, timeout := config.timeout, attached := true }

namespace Attachment

def loading (pid : Pid) (path : Path) : Log.Entry :=
  { level := .info, origin := .attachment, message := "loading agent",
    fields := [⟨"pid", pid.shown, false⟩, ⟨"agent", path.shown, false⟩] }

def sending (pid : Pid) (command : String) : Log.Entry :=
  { level := .debug, origin := .attachment, message := "sending attach command",
    fields := [⟨"pid", pid.shown, false⟩, ⟨"command", command, true⟩] }

def detachedFrom (pid : Pid) : Log.Entry :=
  { level := .debug, origin := .attachment,
    message := "detached", fields := [⟨"pid", pid.shown, false⟩] }

def notAbsolute (path : Path) : AttachFault :=
  .invalidArgument s!"agent path must be absolute: {path.shown}"

/-- What a refused connection says about the listener. -/
def connectFault (a : Attachment) (fault : SystemFault) : AttachFault :=
  if fault = .os Errno.noEntry ∨ fault = .os Errno.refused then
    .attachFailed
      s!"attach listener of process {a.pid} is gone ({a.socket.shown}): {fault.message}"
  else if fault = .os Errno.accessDenied ∨ fault = .os Errno.notPermitted then
    .permissionDenied s!"cannot connect to {a.socket.shown}: {fault.message}"
  else .io fault

def execute (a : Attachment) (command : String) (arguments : List Bytes) :
    Act AttachFault Host Wire.Source := do
  if !a.attached then Act.fail .notAttached
  else
    let request ← Act.ofExcept (Wire.encode command arguments)
    let peer ← (Host.connect a.socket).mapError a.connectFault
    Act.tell (sending a.pid command)
    (Host.send peer request).mapError .io
    return peer.answers

/-- Read a reply to its end, whatever it says. -/
def answered (source : Wire.Source) : Act AttachFault Host Unit :=
  Wire.Reply.readLoad.within (fun _ => source) (fun _ h => h)

def loadAgent (a : Attachment) (path : Path) (options : String) : Act AttachFault Host Unit := do
  if !path.isAbsolute then Act.fail (notAbsolute path)
  else
    Act.tell (loading a.pid path)
    let source ← a.execute Wire.loadCommand (Wire.loadArguments path options)
    answered source

def load (path : Path) (options : String) : Act AttachFault (Attachment × Host) Unit :=
  Act.depending fun s => (s.1.loadAgent path options).beside

def detach : Act AttachFault (Attachment × Host) Unit := do
  if ← Act.look (·.1.attached) then
    Act.change fun s => ({ s.1 with attached := false }, s.2)
    Act.tell (detachedFrom (← Act.look (·.1.pid)))

def machine : VirtualMachine Attachment Host where
  pid := Act.look (·.1.pid)
  isAttached := Act.look (·.1.attached)
  load := load
  detach := detach

end Attachment

def attacher (config : Config) : Attacher Attachment Host where
  toVirtualMachine := Attachment.machine
  attach := attach config

end JvmAttach.Attach
