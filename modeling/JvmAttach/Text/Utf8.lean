/-! UTF-8. Decoding never fails: every maximal ill-formed stretch that could have begun a
character becomes one replacement character U+FFFD. The decoder is a machine that takes one
byte at a time, so decoding a concatenation continues where the first part stopped. Bytes are
well formed exactly when encoding the decoded text gives them back. -/
namespace JvmAttach

abbrev Bytes := List UInt8

namespace Text

def replacement : Char := '\uFFFD'

/-- A character of which the lead byte has been read: how many bytes it still needs, the
range of the next one, and the value of the bits so far. -/
structure Partial where
  owed : Nat
  low : UInt8
  high : UInt8
  bits : Nat
  deriving DecidableEq, Repr

/-- The state between two bytes; `text` is what has been decoded, last character first. -/
structure Decoder where
  pending : Option Partial
  text : List Char
  deriving DecidableEq, Repr

namespace Decoder

def start : Decoder := ⟨none, []⟩

/-- What a byte begins when no character is under way. -/
def lead (b : UInt8) : Option Partial :=
  if 0xC2 ≤ b ∧ b ≤ 0xDF then some ⟨1, 0x80, 0xBF, b.toNat - 0xC0⟩
  else if b = 0xE0 then some ⟨2, 0xA0, 0xBF, 0⟩
  else if b = 0xED then some ⟨2, 0x80, 0x9F, 0xD⟩
  else if 0xE1 ≤ b ∧ b ≤ 0xEF then some ⟨2, 0x80, 0xBF, b.toNat - 0xE0⟩
  else if b = 0xF0 then some ⟨3, 0x90, 0xBF, 0⟩
  else if 0xF1 ≤ b ∧ b ≤ 0xF3 then some ⟨3, 0x80, 0xBF, b.toNat - 0xF0⟩
  else if b = 0xF4 then some ⟨3, 0x80, 0x8F, 4⟩
  else none

def fresh (text : List Char) (b : UInt8) : Decoder :=
  if b < 0x80 then ⟨none, Char.ofNat b.toNat :: text⟩
  else match lead b with
    | some p => ⟨some p, text⟩
    | none => ⟨none, replacement :: text⟩

/-- A byte that cannot continue the character under way ends it as ill formed and is read anew. -/
def step (d : Decoder) (b : UInt8) : Decoder :=
  match d.pending with
  | none => fresh d.text b
  | some p =>
    if p.low ≤ b ∧ b ≤ p.high then
      let bits := p.bits * 64 + (b.toNat - 0x80)
      if p.owed ≤ 1 then ⟨none, Char.ofNat bits :: d.text⟩
      else ⟨some ⟨p.owed - 1, 0x80, 0xBF, bits⟩, d.text⟩
    else fresh (replacement :: d.text) b

def finish (d : Decoder) : List Char :=
  match d.pending with
  | none => d.text.reverse
  | some _ => (replacement :: d.text).reverse

end Decoder

def decode (bytes : Bytes) : List Char := (bytes.foldl Decoder.step .start).finish

def encode (text : List Char) : Bytes := text.flatMap String.utf8EncodeChar

def isWellFormed (bytes : Bytes) : Bool := encode (decode bytes) == bytes

/-- The text that well-formed bytes stand for. -/
def decode? (bytes : Bytes) : Option (List Char) :=
  if isWellFormed bytes then some (decode bytes) else none

/-- Bytes as they are shown in messages. -/
def shown (bytes : Bytes) : String := String.ofList (decode bytes)

def bytesOf (s : String) : Bytes := encode s.toList

end Text

end JvmAttach
