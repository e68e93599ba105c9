import JvmAttach.Attach.Attachment
import JvmAttach.Command.Options
import JvmAttach.Logging.Setup

/-! The command: attach once to a process and load the perf map agent. What a launcher reads is
on the standard output, and that is only the message of a missing library; errors and the log
are on the standard error. How arguments are read is left to others, as is the backend of the log. -/
namespace JvmAttach.Command

/-- How a run of the command looks from outside. -/
structure Report where
  exit : Nat
  output : String
  /-- What the command itself writes to the standard error. -/
  complaint : Option String
  format : LogFormat
  /-- The entries that the filter lets through. -/
  log : List Log.Entry
  deriving DecidableEq, Repr

def Report.lines (r : Report) : List String :=
  r.log.map fun entry => match r.format with
    | .pretty => entry.line
    | .json => entry.object

def succeeded : Nat := 0

def failed : Nat := 1

def misused : Nat := 2

def crashed : Nat := 101

def aborted : Nat := 134

def brief (exit : Nat) (output : String) (complaint : Option String) : Report :=
  { exit, output, complaint, format := .pretty, log := [] }

def loading (pid : Pid) : Log.Entry :=
  { level := .info, origin := .command, message := "loading perf map agent",
    fields := [⟨"pid", pid.shown, false⟩] }

def done (outcome : LoadResult) : Log.Entry :=
  { level := .info, origin := .command, message := "done",
    fields := [⟨"outcome", outcome.shown, false⟩] }

def library (options : Options) : AgentLibrary :=
  match options.directory with
  | some directory => AgentLibrary.perfmap.inDirectory directory
  | none => .perfmap

def config (options : Options) : Attach.Config :=
  Attach.Config.standard.withTimeout (.ofMillis options.timeoutMillis.toNat)

def load (options : Options) : Act AttachFault Host LoadResult := do
  let pid ← Act.ofExcept (Pid.parse options.pid)
  Act.tell (loading pid)
  let outcome ← Load.run (Attach.attacher (config options)) Host.outlook pid (library options)
  Act.tell (done outcome)
  return outcome

/-- What is written and how the run exits when the work has ended. -/
def concluded (logging : Logging) (log : List Log.Entry) :
    Outcome AttachFault LoadResult → Report
  | .ok _ => ⟨succeeded, "", none, logging.format, log.filter logging.admits⟩
  | .error fault@(.libraryMissing ..) =>
    ⟨failed, fault.message ++ "\n", none, logging.format, log.filter logging.admits⟩
  | .error fault =>
    ⟨failed, "", some ("Error: " ++ fault.message), logging.format, log.filter logging.admits⟩
  | .crashed why => ⟨crashed, "", some why, logging.format, log.filter logging.admits⟩
  | .aborted => ⟨aborted, "", none, logging.format, log.filter logging.admits⟩

/-- What the command takes from others. -/
structure Kit where
  parse : List Bytes → Invocation
  backend : Logging.Backend

def Kit.perform (kit : Kit) (options : Options) (environment : Environment) (h : Host) : Report × Host :=
  let setting := (kit.backend.setUp options.level environment).run h
  match setting.outcome with
  | .error fault =>
    (brief failed "" (some ("Failed to initialize logging: " ++ fault.message)), setting.state)
  | .crashed why => (brief crashed "" (some why), setting.state)
  | .aborted => (brief aborted "" none, setting.state)
  | .ok logging =>
    let work := (load options).run setting.state
    (concluded logging work.log work.outcome, work.state)

def Kit.run (kit : Kit) (arguments : List Bytes) (environment : Environment) (h : Host) : Report × Host :=
  match kit.parse arguments with
  | .answer text => (brief succeeded text none, h)
  | .misuse => (brief misused "" none, h)
  | .run options => kit.perform options environment h

end JvmAttach.Command
