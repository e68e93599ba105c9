import JvmAttach.Logging.Appender
import JvmAttach.Logging.Filter
import JvmAttach.Logging.Setup

/-! The backend of the log that the command runs with: filters made of directives, and log files that are
named by their days. A filter whose reading comes to a broken character is a crash. -/
namespace JvmAttach.Logging

/-- How much of a directive a crash quotes. -/
def quotedSize : Nat := 256

def brokenCharacterIn (written : List Char) : String :=
  let quoted := Text.within quotedSize written
  let rest := if quoted.length < written.length then "[...]" else ""
  "not a character boundary in `" ++ String.ofList quoted ++ "`" ++ rest

def readFilter (written : List Char) : Except FilterFault (Log.Entry → Bool) :=
  match Filter.read written with
  | .ok filter => .ok filter.admits
  | .error .malformed => .error .malformed
  | .error (.brokenCharacter directive) => .error (.crash (brokenCharacterIn directive))

namespace Backend

def standard : Backend where
  filter := readFilter
  upTo level := (Filter.upTo level).admits
  openDaily := LogFile.openToday

end Backend

end JvmAttach.Logging
