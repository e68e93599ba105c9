import JvmAttach.Host.Basic
import JvmAttach.Logging.Setting

/-! The log file. A path names it without the day, which is put behind its name; the directories
on the way to it are made. Not being able to make them is an error. Opening the file of the day is
left to a writer that cannot report an error. -/
namespace JvmAttach.LogFile

def noFileName (path : Path) : LogFault :=
  .initializationFailed s!"log file path has no file name: {path.shown}"

def here : Path := Path.ofString "."

/-- The directory of a log file and its name. -/
def split (path : Path) : Except LogFault (Path × Bytes) :=
  match path.fileName? with
  | none => .error (noFileName path)
  | some name =>
    match path.parent? with
    | some directory => .ok (if directory.bytes.isEmpty then here else directory, name)
    | none => .ok (here, name)

/-- Split a path, and see to it that its directory is there. -/
def prepare (path : Path) : Act LogFault Host (Path × Bytes) := do
  let parts ← Act.ofExcept (split path)
  (Host.makeDirectories parts.1).mapError .file
  return parts

/-- Set up a log file, which another part opens once its directory is there. -/
def setUp (openDaily : Path → Bytes → Act Empty Host Unit) (path : Path) : Act LogFault Host Unit := do
  let parts ← prepare path
  (openDaily parts.1 parts.2).mapError Empty.elim

end JvmAttach.LogFile
