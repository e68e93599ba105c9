import JvmAttach.Attach.Signal

/-! The socket of an attach listener. Its name holds the target's id in the target's own
namespace, and it lies in the directory that the target takes for /tmp, which is reached from
outside through the target's root. -/
namespace JvmAttach.Attach

def socketStem : String := ".java_pid"

def temporary : Path := Path.ofString "/tmp"

def processDirectory (pid : Pid) : String := s!"/proc/{pid}"

/-- The target's id in its own namespace; the outer id where nothing else is known. -/
def namespacePid (pid : Pid) (h : Host) : UInt32 :=
  ((h.statusText pid.number.toNat).bind ProcessStatus.innermostPid).getD pid.number

def throughRoot (pid : Pid) : Path := Path.ofString (processDirectory pid ++ "/root/tmp")

/-- The directory that the target takes for /tmp. -/
def temporaryOf (pid : Pid) (h : Host) : Path :=
  if h.machine.isDirectory h.caller (throughRoot pid) then throughRoot pid else temporary

def socketPath (directory : Path) (inner : UInt32) : Path :=
  directory.join (Path.ofString (socketStem ++ toString inner.toNat))

def socketExists (path : Path) (h : Host) : Bool :=
  match h.stat path with
  | .ok attributes => attributes.kind == .socket
  | .error _ => false

def foreignSocket (path : Path) (owner ours : UInt32) : AttachFault :=
  .permissionDenied
    s!"attach socket {path.shown} is owned by uid {owner.toNat}, we run as uid {ours.toNat}"

/-- The target takes connections of its own user and of the superuser only. -/
def ownership (path : Path) (h : Host) : Except AttachFault Unit :=
  match h.stat path with
  | .error fault => .error (.io fault)
  | .ok attributes =>
    if h.effectiveUid ≠ 0 ∧ attributes.owner ≠ h.effectiveUid then
      .error (foreignSocket path attributes.owner h.effectiveUid)
    else .ok ()

def checkOwner (path : Path) : Act AttachFault Host Unit := do
  Act.ofExcept (← Act.look (ownership path))

end JvmAttach.Attach
