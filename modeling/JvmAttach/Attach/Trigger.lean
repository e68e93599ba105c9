import JvmAttach.Attach.Socket

/-! The trigger file. A target that finds one when SIGQUIT arrives starts its attach listener;
without one it prints its threads. The file is made in the target's working directory, or where
that is not possible in its temporary directory, and is removed when it has served. -/
namespace JvmAttach.Attach.Trigger

def stem : String := ".attach_pid"

def name (inner : UInt32) : Path := Path.ofString (stem ++ toString inner.toNat)

/-- The trigger in the target's working directory. -/
def inDirectory (pid : Pid) (inner : UInt32) : Path :=
  (Path.ofString (processDirectory pid ++ "/cwd")).join (name inner)

def inTemporary (directory : Path) (inner : UInt32) : Path := directory.join (name inner)

def usingTemporary (path : Path) (fault : SystemFault) : Log.Entry :=
  { level := .debug, origin := .listener,
    message := "cannot create trigger in target cwd, using tmp",
    fields := [⟨"path", path.shown, false⟩, ⟨"error", fault.message, false⟩] }

def create (pid : Pid) (inner : UInt32) (directory : Path) : Act AttachFault Host Path := do
  match ← (Host.createFile (inDirectory pid inner)).attempt with
  | .ok () => return inDirectory pid inner
  | .error fault =>
    Act.tell (usingTemporary (inDirectory pid inner) fault)
    (Host.createFile (inTemporary directory inner)).mapError .io
    return inTemporary directory inner

def discard (path : Path) : Act AttachFault Host Unit := do
  let _ ← (Host.removeFile path).attempt (δ := AttachFault)
  return ()

/-- Do something while there is a trigger. -/
def holding (pid : Pid) (inner : UInt32) (directory : Path)
    (act : Path → Act AttachFault Host Unit) : Act AttachFault Host Unit := do
  let path ← create pid inner directory
  (act path).ending (discard path)

end JvmAttach.Attach.Trigger
