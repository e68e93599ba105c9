import JvmAttach.Command.Kit
import JvmAttach.Proofs.Act

/-! How a run of the command exits once its arguments and its log are in order: as the load ends. -/
namespace JvmAttach.Command

open Act

/-- A command line that loads `library` into the process `pid`, with its log set up. The load begins
on `h`. -/
inductive Starts (kit : Kit) (arguments : List Bytes) (environment : Environment) (start : Host) :
    Attach.Config → Pid → AgentLibrary → Host → Prop
  | intro {options : Options} {pid : Pid} {logging : Logging} {h : Host} {log : List Log.Entry}
      (asked : kit.parse arguments = .run options)
      (prepared : (kit.backend.setUp options.level environment).run start = ⟨.ok logging, h, log⟩)
      (numbered : Pid.parse options.pid = .ok pid) :
      Starts kit arguments environment start (config options) pid (library options) h

def exitOf {α : Type} : Outcome AttachFault α → Nat
  | .ok _ => succeeded
  | .error _ => failed
  | .crashed _ => crashed
  | .aborted => aborted

theorem exit_concluded (logging : Logging) (log : List Log.Entry) (outcome : Outcome AttachFault LoadResult) :
    (concluded logging log outcome).exit = exitOf outcome := by
  cases outcome with
  | error fault => cases fault <;> rfl
  | _ => rfl

theorem outcome_load {options : Options} {pid : Pid} (numbered : Pid.parse options.pid = .ok pid) (h : Host) :
    ((load options).run h).outcome =
      ((Load.run (Attach.attacher (config options)) Host.outlook pid (library options)).run h).outcome := by
  simp only [load, numbered, run_ofExcept_ok_bind, run_tell_bind]
  rcases ran : (Load.run (Attach.attacher (config options)) Host.outlook pid (library options)).run h
    with ⟨outcome, t, log⟩
  cases outcome with
  | ok result => rw [run_bind_ok ran]; rfl
  | error fault => rw [run_bind_error ran]
  | crashed message => rw [run_bind_crashed ran]
  | aborted => rw [run_bind_aborted ran]

theorem exit_of_starts {kit : Kit} {arguments : List Bytes} {environment : Environment} {start h : Host}
    {config : Attach.Config} {pid : Pid} {library : AgentLibrary}
    (starts : Starts kit arguments environment start config pid library h) :
    (kit.run arguments environment start).1.exit =
      exitOf ((Load.run (Attach.attacher config) Host.outlook pid library).run h).outcome := by
  obtain ⟨asked, prepared, numbered⟩ := starts
  simp only [Kit.run, asked, Kit.perform, prepared, exit_concluded, outcome_load numbered]

end JvmAttach.Command
