import JvmAttach.Path

/-! What the arguments of the command ask for: a process id, perhaps a directory, a timeout and a level. -/
namespace JvmAttach.Command

structure Options where
  pid : String
  directory : Option Path
  timeoutMillis : UInt64
  level : Option String
  deriving DecidableEq, Repr

inductive Invocation where
  | run (options : Options)
  /-- Nothing but a text is asked for. -/
  | answer (text : String)
  | misuse
  deriving DecidableEq, Repr

def defaultTimeoutMillis : UInt64 := 10000

end JvmAttach.Command
