import JvmAttach.Errno
import JvmAttach.Path

/-! What can go wrong while an agent is brought into a running virtual machine, and the words
in which it is reported. -/
namespace JvmAttach

inductive AttachFault where
  /-- The process does not exist, or no longer. -/
  | processNotFound (number : UInt32)
  /-- The target belongs to someone else. -/
  | permissionDenied (why : String)
  | invalidArgument (why : String)
  /-- The target's attach listener did not come up or cannot be reached. -/
  | attachFailed (why : String)
  /-- The handle was detached. -/
  | notAttached
  | libraryMissing (name : String) (path : Path)
  /-- The virtual machine refused the library or answered a load in no known way. -/
  | agentLoad (text : String)
  /-- The library was loaded and its entry point returned a code other than zero. -/
  | agentInitialization (text : String) (returnCode : Int)
  /-- The listener's answer has no status that can be read. -/
  | protocol (why : String)
  | unsupported (platform : String)
  | io (fault : SystemFault)
  deriving DecidableEq, Repr

namespace AttachFault

/-- The text under which a listener's report of a failed entry point goes on. -/
def entryPointFailed : String := "Agent_OnAttach failed"

def message : AttachFault → String
  | .processNotFound number => s!"Process not found: PID {number.toNat}"
  | .permissionDenied why => s!"Permission denied: {why}"
  | .invalidArgument why => s!"Invalid argument: {why}"
  | .attachFailed why => s!"Failed to attach to process: {why}"
  | .notAttached => "Not attached to a process"
  | .libraryMissing name path => s!"Expected {name} at '{path.shown}' but it didn't exist."
  | .agentLoad text => text
  | .agentInitialization text returnCode => s!"{text} (return code {returnCode})"
  | .protocol why => s!"Attach protocol error: {why}"
  | .unsupported platform => s!"Unsupported platform: {platform}"
  | .io fault => s!"IO error: {fault.message}"

/-- The perf map agent signals that it is done on a channel of its own and then lets its entry
point fail on purpose. Exactly that failure is no failure of the load, whatever the code. -/
def isIgnorable : AttachFault → Bool
  | .agentInitialization text _ => text == entryPointFailed
  | _ => false

end AttachFault

end JvmAttach
