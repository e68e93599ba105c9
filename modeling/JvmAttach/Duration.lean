/-! Spans of time, in whole nanoseconds. The longest one has as many seconds as fit in 64 bits;
a sum beyond it does not exist. -/
namespace JvmAttach

structure Duration where
  nanos : Nat
  deriving DecidableEq, Repr, Inhabited

namespace Duration

def zero : Duration := ⟨0⟩

def longest : Duration := ⟨UInt64.size * 1000000000 - 1⟩

def ofMillis (n : Nat) : Duration := ⟨n * 1000000⟩

def millis (d : Duration) : Nat := d.nanos / 1000000

instance : LE Duration := ⟨fun a b => a.nanos ≤ b.nanos⟩

instance (a b : Duration) : Decidable (a ≤ b) := inferInstanceAs (Decidable (a.nanos ≤ b.nanos))

theorem le_def (a b : Duration) : a ≤ b ↔ a.nanos ≤ b.nanos := Iff.rfl

def add? (a b : Duration) : Option Duration :=
  if a.nanos + b.nanos ≤ longest.nanos then some ⟨a.nanos + b.nanos⟩ else none

/-- The difference, or nothing left when the second span is longer. -/
def less (a b : Duration) : Duration := ⟨a.nanos - b.nanos⟩

def shorter (a b : Duration) : Duration := ⟨min a.nanos b.nanos⟩

end Duration

end JvmAttach
