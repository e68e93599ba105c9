import JvmAttach.AttachFault
import JvmAttach.Text.Blank
import JvmAttach.Text.Numeral

/-! Process ids. A written id names one process: it is positive and fits in 31 bits, because
zero and the negative numbers address groups of processes. An id made from any 32-bit number
may name nothing; it then has no number that a signal could be sent to. -/
namespace JvmAttach

structure Pid where
  number : UInt32
  deriving DecidableEq, Repr, Inhabited

namespace Pid

def largest : Nat := 0x7fffffff

def shown (pid : Pid) : String := toString pid.number.toNat

instance : ToString Pid := ⟨shown⟩

/-- The number that the system's process calls take, -1 where the id is out of their range. -/
def raw (pid : Pid) : Int := if pid.number.toNat ≤ largest then pid.number.toNat else -1

def malformed (written : String) (fault : Text.NumeralFault) : AttachFault :=
  .invalidArgument s!"invalid process id '{written}': {fault.message}"

def outOfRange (written : String) : AttachFault :=
  .invalidArgument s!"invalid process id '{written}'"

/-- Blank characters around the number are ignored; messages quote the text with them. -/
def parse (written : String) : Except AttachFault Pid :=
  match Text.natural Text.decimal 0xffffffff (Text.trim written.toList) with
  | .error fault => .error (malformed written fault)
  | .ok n =>
    if n = 0 ∨ largest < n then .error (outOfRange written) else .ok ⟨UInt32.ofNat n⟩

end Pid

end JvmAttach
