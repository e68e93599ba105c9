import JvmAttach.AgentLibrary
import JvmAttach.Guard

/-! Loading an agent: find the library, attach, load, detach. A library that is not there is
found missing before anything touches the target. Options are always empty. One failure of the
agent's entry point is expected and counts as success. -/
namespace JvmAttach

/-- How a load ended that did not fail. -/
inductive LoadResult where
  | loaded
  /-- The entry point failed as expected; the agent has signalled on a channel of its own. -/
  | initializationSignalled
  deriving DecidableEq, Repr

def LoadResult.shown : LoadResult → String
  | .loaded => "Loaded"
  | .initializationSignalled => "InitializationSignalled"

/-- How a load looks at the files around it. -/
structure Outlook (σ : Type) where
  workingDirectory : σ → Except SystemFault Path
  present : Path → σ → Bool

def Outlook.of {σ τ : Type} (outlook : Outlook σ) (part : τ → σ) : Outlook τ where
  workingDirectory t := outlook.workingDirectory (part t)
  present path t := outlook.present path (part t)

namespace Load

variable {τ σ : Type}

def attaching (pid : Pid) (path : Path) : Log.Entry :=
  { level := .info, origin := .load, message := "attaching to process",
    fields := [⟨"pid", pid.shown, false⟩, ⟨"library", path.shown, false⟩] }

def signalled (pid : Pid) (fault : AttachFault) : Log.Entry :=
  { level := .warn, origin := .load,
    message := "agent reported initialization failure, treating as signalled",
    fields := [⟨"pid", pid.shown, false⟩, ⟨"error", fault.message, false⟩] }

def detached (pid : Pid) (outcome : LoadResult) : Log.Entry :=
  { level := .info, origin := .load, message := "detached",
    fields := [⟨"pid", pid.shown, false⟩, ⟨"outcome", outcome.shown, false⟩] }

def detachFailed (pid : Pid) (fault : AttachFault) : Log.Entry :=
  { level := .warn, origin := .load, message := "detach failed after load error",
    fields := [⟨"pid", pid.shown, false⟩, ⟨"error", fault.message, false⟩] }

/-- What the result of the load call is worth. -/
def judge (pid : Pid) : Except AttachFault Unit →
    Act AttachFault (Guard τ × σ) (Except AttachFault LoadResult)
  | .ok () => return .ok .loaded
  | .error fault =>
    if fault.isIgnorable then do
      Act.tell (signalled pid fault)
      return .ok .initializationSignalled
    else return .error fault

/-- Both results together: a failed load counts before a failed detach. -/
def conclude (pid : Pid) :
    Except AttachFault LoadResult → Except AttachFault Unit →
    Act AttachFault (Guard τ × σ) LoadResult
  | .ok outcome, .ok () => do
    Act.tell (detached pid outcome)
    return outcome
  | .ok _, .error fault => Act.fail fault
  | .error fault, .ok () => Act.fail fault
  | .error fault, .error second => do
    Act.tell (detachFailed pid second)
    Act.fail fault

/-- Load and detach under a guard. -/
def underGuard (m : VirtualMachine τ σ) (pid : Pid) (path : Path) :
    Act AttachFault (Guard τ × σ) LoadResult := do
  let loaded ← (Guard.through (m.load path "")).attempt
  let judged ← judge pid loaded
  let detached ← (Guard.detach m).attempt
  conclude pid judged detached

def run (attacher : Attacher τ σ) (outlook : Outlook σ) (pid : Pid) (library : AgentLibrary) :
    Act AttachFault σ LoadResult := do
  let working ← Act.look outlook.workingDirectory
  let path ← Act.ofExcept (library.resolve working)
  if ← Act.look (outlook.present path) then
    Act.tell (attaching pid path)
    let handle ← attacher.attach pid
    Guard.holding attacher.toVirtualMachine handle
      (underGuard attacher.toVirtualMachine pid path)
  else Act.fail (.libraryMissing library.name path)

end Load

end JvmAttach
