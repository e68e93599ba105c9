import JvmAttach.Errno
import JvmAttach.Logging.Entry
import JvmAttach.Text.Blank
import JvmAttach.Text.LowerCase

/-! The settings of the log: its format, its level, and what is wrong with a setting. Names are
recognised in any case. Blank characters around a format are ignored; a level has none. -/
namespace JvmAttach

inductive LogFault where
  | invalidFormat (why : String)
  | invalidLevel (why : String)
  | initializationFailed (why : String)
  | file (fault : SystemFault)
  deriving DecidableEq, Repr

namespace LogFault

def message : LogFault → String
  | .invalidFormat why => s!"Invalid log format: {why}"
  | .invalidLevel why => s!"Invalid log level: {why}"
  | .initializationFailed why => s!"Failed to initialize logging: {why}"
  | .file fault => s!"File logging error: {fault.message}"

end LogFault

/-- Look a text up in a table of names, its letters in lower case. -/
def recognise {α : Type} (names : List (List Char × α)) (unknown : String → String)
    (written : String) : Except String α :=
  match names.lookup (Text.lower written.toList) with
  | some value => .ok value
  | none => .error (unknown written)

/-- How entries are written: a line of text, or an object for programs. -/
inductive LogFormat where
  | pretty
  | json
  deriving DecidableEq, Repr, Inhabited

namespace LogFormat

def names : List (List Char × LogFormat) :=
  [("pretty".toList, .pretty), ("dev".toList, .pretty), ("development".toList, .pretty),
   ("json".toList, .json), ("prod".toList, .json), ("production".toList, .json)]

def unknown (written : String) : String :=
  s!"Unknown log format: {written}. Use 'pretty' or 'json'"

def parse (written : String) : Except String LogFormat := recognise names unknown written

/-- The format that a setting asks for; entries are for people when it is missing or blank. -/
def ofSetting : Option (List Char) → Except LogFault LogFormat
  | none => .ok .pretty
  | some written =>
    let name := Text.trim written
    if name.isEmpty then .ok .pretty
    else (parse (String.ofList name)).mapError .invalidFormat

end LogFormat

namespace Level

def names : List (List Char × Level) :=
  [("error".toList, .error), ("err".toList, .error), ("warn".toList, .warn),
   ("warning".toList, .warn), ("info".toList, .info), ("debug".toList, .debug),
   ("dbg".toList, .debug), ("trace".toList, .trace)]

def unknown (written : String) : String :=
  s!"Unknown log level: {written}. Use 'error', 'warn', 'info', 'debug', or 'trace'"

def parse (written : String) : Except String Level := recognise names unknown written

end Level

end JvmAttach
