import JvmAttach.Host.Time

/-! Signals on a host: who may send them, why one is not delivered, and what its delivery puts on
the agenda. -/
namespace JvmAttach.Host

def sigquit : Int := ProcessStatus.sigquit

def lastSignal : Int := 64

/-- A process may signal itself, and others that run for the same user. -/
def maySignal (h : Host) (number : Nat) (process : Process) : Bool :=
  h.effectiveUid == 0 || h.effectiveUid == process.uid || h.realUid == process.uid || number == h.self

/-- Why a signal is not delivered. -/
def signalFault (target signal : Int) (h : Host) : Option Errno :=
  match h.signalsBarred with
  | some fault => some fault
  | none =>
    if target ≤ 0 then some Errno.noProcess
    else match h.machine.process? target.toNat with
      | none => some Errno.noProcess
      | some process =>
        if signal < 0 ∨ lastSignal < signal then some Errno.invalid
        else if h.maySignal target.toNat process then none
        else some Errno.notPermitted

/-- A signal has reached its target. -/
def delivered (target signal : Int) (h : Host) : Host :=
  if signal = sigquit then
    { h with
      quits := h.quits ++ [h.machine]
      agenda := (h.reaction target.toNat).foldl
        (fun agenda deed => scheduled ⟨⟨h.clock.nanos + deed.time.nanos⟩, deed.act⟩ agenda) h.agenda }
  else h

/-- Send a signal; zero only asks whether one could be sent. -/
def kill (target signal : Int) : Act SystemFault Host Unit := do
  Act.change (record (.signal target signal))
  match ← Act.look (signalFault target signal) with
  | some fault => Act.fail (.os fault)
  | none => Act.change (delivered target signal)

end JvmAttach.Host
