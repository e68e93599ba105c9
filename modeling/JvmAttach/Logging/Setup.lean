import JvmAttach.Logging.LogFile

/-! Setting up the log from the environment. A level that was asked for wins over the filter in
the environment; a filter that is malformed counts as the level info. A variable that is no text
counts as one that is not set. What a filter lets through and how a log file is opened is left to
a backend, and where that crashes, so does the setting up. -/
namespace JvmAttach

abbrev Environment := List (String × Bytes)

namespace Environment

def text? (environment : Environment) (name : String) : Option (List Char) :=
  (environment.lookup name).bind Text.decode?

end Environment

structure Logging where
  format : LogFormat
  /-- The entries that are let through. -/
  admits : Log.Entry → Bool

namespace Logging

inductive FilterFault where
  | malformed
  /-- The reading does not come to an end. -/
  | crash (message : String)
  deriving DecidableEq, Repr

/-- What is left to others. -/
structure Backend where
  filter : List Char → Except FilterFault (Log.Entry → Bool)
  upTo : Level → Log.Entry → Bool
  /-- Open the file of the day in a directory. -/
  openDaily : Path → Bytes → Act Empty Host Unit

def formatVariable : String := "PERFMAP_ATTACH_LOG_FORMAT"

def fileVariable : String := "PERFMAP_ATTACH_LOG_FILE"

def filterVariable : String := "RUST_LOG"

def formatOf (environment : Environment) : Except LogFault LogFormat :=
  LogFormat.ofSetting (environment.text? formatVariable)

def Backend.filterOf {σ : Type} (backend : Backend) (environment : Environment) :
    Act LogFault σ (Log.Entry → Bool) :=
  match environment.text? filterVariable with
  | none => return backend.upTo .info
  | some written =>
    match backend.filter written with
    | .ok admits => return admits
    | .error .malformed => return backend.upTo .info
    | .error (.crash message) => Act.crash message

/-- The log file, if one is asked for. -/
def fileOf (environment : Environment) : Option Path :=
  match environment.text? fileVariable with
  | none => none
  | some [] => none
  | some written => some ⟨Text.encode written⟩

/-- What the settings ask for; the level is read before the format, and the filter last. -/
def Backend.settings {σ : Type} (backend : Backend) (level : Option String) (environment : Environment) :
    Act LogFault σ Logging := do
  match level with
  | some written =>
    let level ← Act.ofExcept ((Level.parse written).mapError .invalidLevel)
    return { format := ← Act.ofExcept (formatOf environment), admits := backend.upTo level }
  | none =>
    let format ← Act.ofExcept (formatOf environment)
    return { format, admits := ← backend.filterOf environment }

def Backend.setUp (backend : Backend) (level : Option String) (environment : Environment) :
    Act LogFault Host Logging := do
  let logging ← backend.settings level environment
  match fileOf environment with
  | some path => LogFile.setUp backend.openDaily path
  | none => pure ()
  return logging

end Logging

end JvmAttach
