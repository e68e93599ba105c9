import JvmAttach.Act
import JvmAttach.AttachFault
import JvmAttach.Pid

/-! What a load needs of a virtual machine: a way to attach to a process, and on the handle
that attaching returns a way to load an agent and to detach. Handles are values of any type;
all else that the calls change is a state of any type. Asking a handle for its process or
whether it is attached cannot fail, but like any call it may crash. -/
namespace JvmAttach

structure VirtualMachine (τ σ : Type) where
  pid : Act Empty (τ × σ) Pid
  isAttached : Act Empty (τ × σ) Bool
  load : Path → String → Act AttachFault (τ × σ) Unit
  detach : Act AttachFault (τ × σ) Unit

structure Attacher (τ σ : Type) extends VirtualMachine τ σ where
  attach : Pid → Act AttachFault σ τ

/-- A call that changes something. -/
inductive Call where
  | attach (pid : Pid)
  | load (path : Path) (options : String)
  | detach
  deriving DecidableEq, Repr

namespace VirtualMachine

variable {ε τ σ α : Type}

/-- Let an action work without the calls noted so far. -/
def unnoted (act : Act ε (τ × σ) α) : Act ε (τ × List Call × σ) α :=
  Act.within (fun s => (s.1, s.2.2)) (fun t s => (t.1, s.2.1, t.2)) act

/-- Note a call, then make it. -/
def noting (call : Call) (act : Act ε (τ × σ) α) : Act ε (τ × List Call × σ) α := do
  Act.change fun s => (s.1, s.2.1 ++ [call], s.2.2)
  unnoted act

/-- The same machine, with a list of the calls made on it. -/
def noted (m : VirtualMachine τ σ) : VirtualMachine τ (List Call × σ) where
  pid := unnoted m.pid
  isAttached := unnoted m.isAttached
  load path options := noting (.load path options) (m.load path options)
  detach := noting .detach m.detach

end VirtualMachine

namespace Attacher

variable {τ σ : Type}

/-- The same attacher, with a list of the calls made on it and on its handles. -/
def noted (a : Attacher τ σ) : Attacher τ (List Call × σ) where
  toVirtualMachine := a.toVirtualMachine.noted
  attach pid := do
    Act.change fun s => (s.1 ++ [.attach pid], s.2)
    (a.attach pid).beside

end Attacher

end JvmAttach
