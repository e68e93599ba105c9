import JvmAttach.Attach.Trigger
import JvmAttach.Attach.Waiting

/-! Bringing up a target's attach listener: make a trigger, send SIGQUIT, wait for the socket.
A process that does not handle SIGQUIT would be ended by it and is left alone. -/
namespace JvmAttach.Attach

/-- The signals that the target is known to catch. -/
def caughtBy (pid : Pid) (h : Host) : Option UInt64 :=
  (h.statusText pid.number.toNat).bind ProcessStatus.caughtSignals

def notCatching (pid : Pid) : AttachFault :=
  .attachFailed s!"process {pid} does not catch SIGQUIT; not a HotSpot VM"

def notStarted (pid : Pid) (socket : Path) (timeout : Duration) : AttachFault :=
  .attachFailed
    s!"attach listener of process {pid} did not start within {timeout.millis} ms ({socket.shown} not found)"

def triggerMade (pid : Pid) (trigger : Path) : Log.Entry :=
  { level := .debug, origin := .listener, message := "created attach trigger, sending SIGQUIT",
    fields := [⟨"pid", pid.shown, false⟩, ⟨"trigger", trigger.shown, false⟩] }

def waitingFor (pid : Pid) (delay : Duration) : Log.Entry :=
  { level := .trace, origin := .listener, message := "waiting for attach socket",
    fields := [⟨"pid", pid.shown, false⟩, ⟨"delay_ms", toString delay.millis, false⟩] }

def listenerUp (pid : Pid) (socket : Path) : Log.Entry :=
  { level := .debug, origin := .listener, message := "attach listener is up",
    fields := [⟨"pid", pid.shown, false⟩, ⟨"socket", socket.shown, false⟩] }

theorem clock_sleep (d : Duration) (h : Host) :
    h.clock.nanos + d.nanos ≤ (h.sleep d).clock.nanos := by
  simp only [Host.sleep, Host.passed]; omega

theorem clock_kill (target signal : Int) (h : Host) :
    ((Host.kill target signal).run h).state.clock = h.clock := by
  simp only [Host.kill, bind, Act.bind, Act.change, Act.look]
  cases Host.signalFault target signal (Host.record (.signal target signal) h) with
  | some fault => rfl
  | none => simp only [Host.delivered]; split <;> rfl

theorem clock_signal (pid : Pid) (number : Int) (h : Host) :
    ((signal pid number).run h).state.clock = h.clock := by
  have same : ((sendSignal pid number).run h).state.clock = h.clock := by
    unfold sendSignal; split
    · rfl
    · exact clock_kill _ _ _
  simp only [signal, Act.mapError]
  split <;> exact same

def pollStep : Duration := .ofMillis 20

/-- A watch for the socket; a target that has died meanwhile ends the wait. -/
def socketWatch (pid : Pid) (socket : Path) : Watch AttachFault Host where
  now := Host.clock
  ready := socketExists socket
  nap := Host.sleep
  check := probe pid
  note := waitingFor pid
  growth := pollStep
  now_nap := clock_sleep
  now_check h := Nat.le_of_eq (congrArg Duration.nanos (clock_signal pid 0 h)).symm

def awaitSocket (pid : Pid) (socket : Path) (timeout started : Duration) : Act AttachFault Host Unit :=
  ⟨(socketWatch pid socket).await timeout (notStarted pid socket timeout) started .zero⟩

def summon (pid : Pid) (socket : Path) (timeout : Duration) (trigger : Path) :
    Act AttachFault Host Unit := do
  Act.tell (triggerMade pid trigger)
  signal pid Host.sigquit
  awaitSocket pid socket timeout (← Act.look Host.clock)
  Act.tell (listenerUp pid socket)

def startListener (pid : Pid) (inner : UInt32) (directory socket : Path) (timeout : Duration) :
    Act AttachFault Host Unit := do
  let caught ← Act.look (caughtBy pid)
  if caught.any (!ProcessStatus.catchesQuit ·) then Act.fail (notCatching pid)
  else Trigger.holding pid inner directory (summon pid socket timeout)

end JvmAttach.Attach
