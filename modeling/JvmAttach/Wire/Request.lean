import JvmAttach.AttachFault
import JvmAttach.Text.Pieces

/-! Requests to an attach listener: the protocol version, a command and three arguments, each
ended by a NUL byte. Arguments that are not given are empty. A field cannot hold a NUL itself,
so cutting a request at its NULs gives the fields back. -/
namespace JvmAttach.Wire

def version : String := "1"

def argumentCount : Nat := 3

def loadCommand : String := "load"

def nul : UInt8 := 0

/-- Every field of a request with at most three arguments. -/
def fields (command : String) (arguments : List Bytes) : List Bytes :=
  Text.bytesOf version :: Text.bytesOf command ::
    (arguments ++ List.replicate (argumentCount - arguments.length) [])

def terminated (field : Bytes) : Bytes := field ++ [nul]

def tooManyArguments (command : String) (count : Nat) : AttachFault :=
  .invalidArgument s!"attach command '{command}' takes at most {argumentCount} arguments, got {count}"

def nulInField (field : Bytes) : AttachFault :=
  .invalidArgument s!"attach request field contains a NUL byte: {Text.shown field}"

def encode (command : String) (arguments : List Bytes) : Except AttachFault Bytes :=
  if argumentCount < arguments.length then .error (tooManyArguments command arguments.length)
  else match (fields command arguments).find? (·.contains nul) with
    | some field => .error (nulInField field)
    | none => .ok ((fields command arguments).flatMap terminated)

/-- The fields of a request, cut at the NULs that end them. -/
def fieldsOf (request : Bytes) : List Bytes := (pieces nul request).dropLast

/-- The arguments of a load: the library, that its path is absolute, and the agent's options. -/
def loadArguments (path : Path) (options : String) : List Bytes :=
  [path.bytes, Text.bytesOf "true", Text.bytesOf options]

theorem fieldsOf_terminated (fs : List Bytes) (free : ∀ f ∈ fs, nul ∉ f) :
    fieldsOf (fs.flatMap terminated) = fs := by
  induction fs with
  | nil => rfl
  | cons f fs ih =>
    have rest := ih fun g hg => free g (List.mem_cons_of_mem _ hg)
    have cut := pieces_append_sep nul f (fs.flatMap terminated) (free f List.mem_cons_self)
    have flat : (f :: fs).flatMap terminated = f ++ nul :: fs.flatMap terminated := by
      simp [terminated]
    rw [fieldsOf, flat, cut, List.dropLast_cons_of_ne_nil (pieces_ne_nil _ _)]
    exact congrArg (f :: ·) rest

end JvmAttach.Wire
