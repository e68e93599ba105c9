import JvmAttach.AttachFault

/-! Agent libraries. A library is a bare file name, looked up in a directory or, without one,
in the working directory. The virtual machine gets an absolute path, because it would take a
relative one from its own working directory; links are left as they are written. -/
namespace JvmAttach

structure AgentLibrary where
  name : String
  directory : Option Path := none
  deriving DecidableEq, Repr

namespace AgentLibrary

def perfmapName : String := "liblo2s-perfmap.so"

def perfmap : AgentLibrary := { name := perfmapName }

instance : Inhabited AgentLibrary := ⟨perfmap⟩

def inDirectory (library : AgentLibrary) (directory : Path) : AgentLibrary :=
  { library with directory := some directory }

/-- The name is a single step of a path. -/
def isBare (library : AgentLibrary) : Bool :=
  (Path.ofString library.name).fileName? == some (Text.bytesOf library.name)

def notBare (name : String) : AttachFault :=
  .invalidArgument s!"agent library name must be a bare file name, got '{name}'"

def location (library : AgentLibrary) : Path :=
  match library.directory with
  | some directory => directory.join (Path.ofString library.name)
  | none => Path.ofString library.name

/-- The absolute path of the library. The working directory is only asked for when it matters. -/
def resolve (library : AgentLibrary) (working : Except SystemFault Path) : Except AttachFault Path :=
  if !library.isBare then .error (notBare library.name)
  else if library.location.isAbsolute then .ok library.location
  else match working with
    | .error fault => .error (.io fault)
    | .ok directory => .ok (directory.join library.location)

end AgentLibrary

end JvmAttach
