import JvmAttach.VirtualMachine

/-! The guard of an attachment. It owns a handle, hands calls on to it, and detaches it when its
own life ends: by its own detach, whose result it reports, or by a drop, also the one that a
crash causes while it unwinds, which can only log that detaching failed. It is armed until the
first of them, so that the handle is detached by it once. -/
namespace JvmAttach

structure Guard (τ : Type) where
  handle : τ
  armed : Bool := true
  deriving DecidableEq, Repr

namespace Guard

variable {ε τ σ α : Type}

def through (act : Act ε (τ × σ) α) : Act ε (Guard τ × σ) α :=
  Act.within (fun s => (s.1.handle, s.2)) (fun t s => ({ s.1 with handle := t.1 }, t.2)) act

def disarm : Act ε (Guard τ × σ) Unit := Act.change fun s => ({ s.1 with armed := false }, s.2)

def isArmed : Act ε (Guard τ × σ) Bool := Act.look (·.1.armed)

def detach (m : VirtualMachine τ σ) : Act AttachFault (Guard τ × σ) Unit := do
  disarm
  through m.detach

def dropFailed (pid : Pid) (fault : AttachFault) : Log.Entry :=
  { level := .warn, origin := .guard, message := "detach on drop failed",
    fields := [⟨"pid", pid.shown, false⟩, ⟨"error", fault.message, false⟩] }

def drop (m : VirtualMachine τ σ) : Act AttachFault (Guard τ × σ) Unit := do
  if ← isArmed then
    disarm
    match ← (through m.detach).attempt with
    | .ok () => return
    | .error fault =>
      let pid ← (through m.pid).mapError Empty.elim
      Act.tell (dropFailed pid fault)

/-- Drop the guard behind an action, however that ends. -/
def closing (m : VirtualMachine τ σ) (act : Act AttachFault (Guard τ × σ) α) :
    Act AttachFault (Guard τ × σ) α := act.ending (drop m)

/-- An action that owns a handle under a guard. -/
def holding (m : VirtualMachine τ σ) (handle : τ) (act : Act AttachFault (Guard τ × σ) α) :
    Act AttachFault σ α := ⟨fun s =>
  let step := (closing m act).run ({ handle }, s)
  ⟨step.outcome, step.state.2, step.log⟩⟩

/-- A call that leaves the guard alive. -/
inductive Use where
  | pid
  | isAttached
  | load (path : Path) (options : String)
  | detach
  deriving DecidableEq, Repr

inductive Answer where
  | pid (pid : Pid)
  | isAttached (attached : Bool)
  | done
  deriving DecidableEq, Repr

def use (m : VirtualMachine τ σ) : Use → Act AttachFault (Guard τ × σ) Answer
  | .pid => return .pid (← (through m.pid).mapError Empty.elim)
  | .isAttached => return .isAttached (← (through m.isAttached).mapError Empty.elim)
  | .load path options => do through (m.load path options); return .done
  | .detach => do through m.detach; return .done

/-- How a guard's life ends. -/
inductive End where
  | detach
  | drop
  /-- The scope that owns the guard crashes. -/
  | unwind (message : String)
  deriving DecidableEq, Repr

def finish (m : VirtualMachine τ σ) : End → Act AttachFault (Guard τ × σ) Unit
  | .detach => closing m (detach m)
  | .drop => closing m (return ())
  | .unwind message => closing m (Act.crash message)

end Guard

end JvmAttach
