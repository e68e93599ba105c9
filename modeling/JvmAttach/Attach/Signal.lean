import JvmAttach.Host.Signal

/-! Signals to a target. Only a positive number goes to the system, because the others address
groups of processes; signal zero asks whether the process exists and may be signalled. -/
namespace JvmAttach.Attach

def sendSignal (pid : Pid) (signal : Int) : Act SystemFault Host Unit :=
  if pid.raw ≤ 0 then Act.fail (.os Errno.noProcess) else Host.kill pid.raw signal

def mayNotSignal (pid : Pid) : AttachFault :=
  .permissionDenied s!"not allowed to signal process {pid}"

/-- What a refused signal says about the target. -/
def signalFault (pid : Pid) (fault : SystemFault) : AttachFault :=
  if fault = .os Errno.noProcess then .processNotFound pid.number
  else if fault = .os Errno.notPermitted then mayNotSignal pid
  else .io fault

def signal (pid : Pid) (number : Int) : Act AttachFault Host Unit :=
  (sendSignal pid number).mapError (signalFault pid)

def probe (pid : Pid) : Act AttachFault Host Unit := signal pid 0

end JvmAttach.Attach
