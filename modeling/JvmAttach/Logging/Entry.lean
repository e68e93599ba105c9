import JvmAttach.Text.Quoted

/-! Entries of the log: what happened, how grave it is, which part of the program says so, and
named values. -/
namespace JvmAttach

inductive Level where
  | error
  | warn
  | info
  | debug
  | trace
  deriving DecidableEq, Repr, Inhabited

namespace Level

def shown : Level → String
  | .error => "ERROR"
  | .warn => "WARN"
  | .info => "INFO"
  | .debug => "DEBUG"
  | .trace => "TRACE"

/-- How much is let through by a limit at this level. -/
def verbosity : Level → Nat
  | .error => 1
  | .warn => 2
  | .info => 3
  | .debug => 4
  | .trace => 5

end Level

namespace Log

/-- The parts of the program that write entries. -/
inductive Origin where
  | command
  | load
  | guard
  | attachment
  | listener
  deriving DecidableEq, Repr

/-- The name that filters know an origin by. Where one part is within another, so are the names. -/
def Origin.target : Origin → String
  | .command => "perfmap_attach"
  | .load => "perfmap_attach_core::loader"
  | .guard => "perfmap_attach_core::guards"
  | .attachment => "perfmap_attach_core::platform::hotspot"
  | .listener => "perfmap_attach_core::platform::hotspot::listener"

/-- A named value; text that is taken verbatim from the program is quoted when it is shown. -/
structure Field where
  name : String
  value : String
  quoted : Bool := false
  deriving DecidableEq, Repr

structure Entry where
  level : Level
  origin : Origin
  message : String
  fields : List Field
  deriving DecidableEq, Repr

/-- The text of a field behind a message. -/
def Field.shown (f : Field) : String :=
  if f.quoted then f.name ++ "=\"" ++ f.value ++ "\"" else f.name ++ "=" ++ f.value

/-- Message and fields on one line. -/
def Entry.shown (e : Entry) : String :=
  e.fields.foldl (fun text f => text ++ " " ++ f.shown) e.message

def Entry.line (e : Entry) : String := e.level.shown ++ " " ++ e.origin.target ++ ": " ++ e.shown

def member (name value : String) : String := Text.quoted name ++ ":" ++ Text.quoted value

/-- The entry as an object for programs. -/
def Entry.object (e : Entry) : String :=
  let members := member "message" e.message :: e.fields.map fun f => member f.name f.value
  "\x7b" ++ member "level" e.level.shown ++ ",\"fields\":\x7b" ++ ",".intercalate members ++
    "\x7d," ++ member "target" e.origin.target ++ "\x7d"

end Log

end JvmAttach
