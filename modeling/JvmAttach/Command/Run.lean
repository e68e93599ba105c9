import JvmAttach.Command.Arguments
import JvmAttach.Command.Kit
import JvmAttach.Logging.Standard

/-! The command as it is run. -/
namespace JvmAttach.Command

def standard : Kit := ⟨parse, .standard⟩

def run (arguments : List Bytes) (environment : Environment) (h : Host) : Report × Host :=
  standard.run arguments environment h

end JvmAttach.Command
