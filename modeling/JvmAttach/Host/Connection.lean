import JvmAttach.Host.Basic

/-! Connections on a host, over sockets that have a path. -/
namespace JvmAttach.Host

/-- A path in a socket address ends before its 108th byte. -/
def addressRoom : Nat := 108

def reachable (path : Path) (h : Host) : Except SystemFault Unit :=
  if path.bytes.contains 0 then .error (.other "paths must not contain interior null bytes")
  else if addressRoom ≤ path.bytes.length then .error .addressTooLong
  else h.machine.reach h.caller path

/-- A listener that takes a request and never says anything. -/
def silent : Peer := ⟨.ok (), [.failed (.os Errno.again)]⟩

def connect (path : Path) : Act SystemFault Host Peer := do
  Act.ofExcept (← Act.look (reachable path))
  let peer ← Act.look fun h => h.peers.head?.getD silent
  Act.change fun h => record (.connected path) { h with peers := h.peers.tail }
  return peer

def send (peer : Peer) (bytes : Bytes) : Act SystemFault Host Unit := do
  Act.ofExcept peer.receives
  Act.change (record (.sent bytes))

end JvmAttach.Host
