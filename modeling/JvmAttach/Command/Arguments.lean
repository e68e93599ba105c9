import JvmAttach.Command.Options
import JvmAttach.Text.Numeral

/-! The arguments of the command: a process id, a directory, and two options that each take a
value. They are read from the left, and the first that is wrong, or asks for help or the
version, decides. Behind a double dash everything is positional. -/
namespace JvmAttach.Command

/-- What has been read so far. -/
structure Reading where
  pid : Option String := none
  directory : Option Path := none
  timeoutMillis : Option UInt64 := none
  level : Option String := none

inductive Choice where
  | timeout
  | level
  deriving DecidableEq, Repr

def text? (bytes : Bytes) : Option String := (Text.decode? bytes).map String.ofList

def Reading.positional (r : Reading) (value : Bytes) : Option Reading :=
  match r.pid with
  | none => (text? value).map fun pid => { r with pid := some pid }
  | some _ =>
    match r.directory with
    | none => if value.isEmpty then none else some { r with directory := some ⟨value⟩ }
    | some _ => none

def Reading.choose (r : Reading) (choice : Choice) (value : Bytes) : Option Reading :=
  match choice, r.timeoutMillis, r.level with
  | .timeout, none, _ =>
    match (text? value).map (Text.natural Text.decimal 0xffffffffffffffff ·.toList) with
    | some (.ok n) => some { r with timeoutMillis := some (UInt64.ofNat n) }
    | _ => none
  | .level, _, none => (text? value).map fun level => { r with level := some level }
  | _, _, _ => none

def Reading.finished (r : Reading) : Invocation :=
  match r.pid with
  | none => .misuse
  | some pid =>
    .run ⟨pid, r.directory, r.timeoutMillis.getD defaultTimeoutMillis, r.level⟩

def dash : UInt8 := 45

def equals : UInt8 := 61

def versionText : String := "perfmap-attach 0.0.0\n"

def helpText : String :=
  "Attach once to a running JVM and load liblo2s-perfmap.so from the working directory\n\n" ++
  "Usage: perfmap-attach [OPTIONS] <PID> [LIBRARY_DIR]\n\n" ++
  "Arguments:\n" ++
  "  <PID>          Process ID (PID) of the target JVM\n" ++
  "  [LIBRARY_DIR]  Directory holding the agent library (default: current directory)\n\n" ++
  "Options:\n" ++
  "      --timeout-ms <TIMEOUT_MS>  Milliseconds to wait for the attach listener, " ++
    "also used as socket timeout [default: 10000]\n" ++
  "      --log-level <LOG_LEVEL>    Log level (error, warn, info, debug, trace); " ++
    "overrides RUST_LOG\n" ++
  "  -h, --help                     Print help\n" ++
  "  -V, --version                  Print version\n"

/-- The forms of an argument in front of a double dash. -/
inductive Shape where
  | escape
  | choice (choice : Choice) (value : Option Bytes)
  | help
  | version
  | unknown
  | value (bytes : Bytes)
  deriving DecidableEq, Repr

def long (body : Bytes) : Shape :=
  let name := body.takeWhile (· != equals)
  let value := (body.drop name.length).tail?
  if name == Text.bytesOf "timeout-ms" then .choice .timeout value
  else if name == Text.bytesOf "log-level" then .choice .level value
  else if name == Text.bytesOf "help" && value.isNone then .help
  else if name == Text.bytesOf "version" && value.isNone then .version
  else .unknown

def short (first : UInt8) : Shape :=
  if first == 104 then .help else if first == 86 then .version else .unknown

def shape (argument : Bytes) : Shape :=
  match argument with
  | a :: b :: rest =>
    if a != dash then .value argument
    else if b != dash then short b
    else if rest.isEmpty then .escape
    else long rest
  | _ => .value argument

/-- Everything is positional. -/
def readPositional : Reading → List Bytes → Invocation
  | r, [] => r.finished
  | r, argument :: rest =>
    match r.positional argument with
    | some r => readPositional r rest
    | none => .misuse

def read : Reading → List Bytes → Invocation
  | r, [] => r.finished
  | r, argument :: rest =>
    match shape argument with
    | .escape => readPositional r rest
    | .help => .answer helpText
    | .version => .answer versionText
    | .unknown => .misuse
    | .value bytes =>
      match r.positional bytes with
      | some r => read r rest
      | none => .misuse
    | .choice choice (some value) =>
      match r.choose choice value with
      | some r => read r rest
      | none => .misuse
    | .choice choice none =>
      match rest with
      | [] => .misuse
      | next :: rest =>
        match shape next with
        | .value value =>
          match r.choose choice value with
          | some r => read r rest
          | none => .misuse
        | _ => .misuse

def parse (arguments : List Bytes) : Invocation := read {} arguments

example : parse [Text.bytesOf "42", Text.bytesOf "--timeout-ms=+7"] =
    .run ⟨"42", none, 7, none⟩ := by decide +kernel
example : parse [Text.bytesOf "--", Text.bytesOf "-5"] = .run ⟨"-5", none, 10000, none⟩ := by
  decide +kernel
example : parse [Text.bytesOf "--log-level", Text.bytesOf "--help"] = .misuse := by decide +kernel

end JvmAttach.Command
