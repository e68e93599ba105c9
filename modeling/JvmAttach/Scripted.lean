import JvmAttach.VirtualMachine

/-! A virtual machine that answers from a script: each call of a load or a detach takes the next
cue of its list, and when the list is used up it succeeds. The handle is attached until detach
is first called. -/
namespace JvmAttach

inductive Cue where
  | succeed
  | fail (fault : AttachFault)
  | crash (message : String)
  deriving DecidableEq, Repr

def Cue.act {σ : Type} : Cue → Act AttachFault σ Unit
  | .succeed => Act.pure ()
  | .fail fault => Act.fail fault
  | .crash message => Act.crash message

structure Script where
  loads : List Cue := []
  detaches : List Cue := []
  deriving DecidableEq, Repr

/-- A handle, with what is left of its script. -/
structure ScriptedHandle where
  pid : Pid
  script : Script
  attached : Bool := true
  deriving DecidableEq, Repr

namespace ScriptedHandle

variable {σ : Type}

def load : Act AttachFault (ScriptedHandle × σ) Unit := do
  let cues ← Act.look (·.1.script.loads)
  Act.change fun s => ({ s.1 with script := { s.1.script with loads := cues.tail } }, s.2)
  (cues.head?.getD .succeed).act

def detach : Act AttachFault (ScriptedHandle × σ) Unit := do
  let cues ← Act.look (·.1.script.detaches)
  Act.change fun s =>
    ({ s.1 with script := { s.1.script with detaches := cues.tail }, attached := false }, s.2)
  (cues.head?.getD .succeed).act

def machine : VirtualMachine ScriptedHandle σ where
  pid := Act.look (·.1.pid)
  isAttached := Act.look (·.1.attached)
  load _ _ := load
  detach := detach

def attacher (attach : Cue) (script : Script) : Attacher ScriptedHandle σ where
  toVirtualMachine := machine
  attach pid := do
    attach.act
    return { pid, script }

end ScriptedHandle

end JvmAttach
