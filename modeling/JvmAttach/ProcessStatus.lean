import JvmAttach.Text.Blank
import JvmAttach.Text.Lines
import JvmAttach.Text.Numeral
import JvmAttach.Text.Utf8

/-! The status text that the system keeps for each process: lines of a label and a value. Two
of them matter here, the ids that the process has in its nested namespaces, outermost first,
and the set of signals it catches, as a hexadecimal mask. -/
namespace JvmAttach.ProcessStatus

def namespaceLabel : List Char := "NSpid:".toList

def caughtLabel : List Char := "SigCgt:".toList

def sigquit : Nat := 3

/-- The id of the process in its innermost namespace. -/
def innermostPid (status : List Char) : Option UInt32 :=
  match Text.lineAfter namespaceLabel status with
  | none => none
  | some ids =>
    match (Text.words ids).getLast? with
    | none => none
    | some word => (Text.natural Text.decimal 0xffffffff word).toOption.map UInt32.ofNat

/-- The mask of caught signals; signal n is bit n - 1. -/
def caughtSignals (status : List Char) : Option UInt64 :=
  match Text.lineAfter caughtLabel status with
  | none => none
  | some mask => (Text.natural Text.hexadecimal 0xffffffffffffffff (Text.trim mask)).toOption.map UInt64.ofNat

def catches (signal : Nat) (mask : UInt64) : Bool := mask.toNat.testBit (signal - 1)

def catchesQuit (mask : UInt64) : Bool := catches sigquit mask

example : innermostPid "Name:\tjava\nNSpid:\t4711\t1\nPPid:\t1\n".toList = some 1 := by rfl
example : caughtSignals "SigCgt:\t0000000181005ccf\r\n".toList = some 0x181005ccf := by rfl
example : catchesQuit 0x181005ccf = true ∧ catchesQuit 0 = false := by decide

end JvmAttach.ProcessStatus
