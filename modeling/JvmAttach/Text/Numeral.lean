import JvmAttach.Text.LowerCase

/-! Numerals of bounded size: an optional sign and one or more ASCII digits. The digits are
read from the left, and the first thing wrong decides the fault: a character that is no
digit, or a value that has left the range. So a numeral that is both too large and ill
formed is too large when the excess comes first. -/
namespace JvmAttach.Text

inductive NumeralFault where
  | empty
  | invalidDigit
  | tooLarge
  | tooSmall
  deriving DecidableEq, Repr

def NumeralFault.message : NumeralFault → String
  | .empty => "cannot parse integer from empty string"
  | .invalidDigit => "invalid digit found in string"
  | .tooLarge => "number too large to fit in target type"
  | .tooSmall => "number too small to fit in target type"

def decimalDigit (c : Char) : Option Nat :=
  if '0' ≤ c ∧ c ≤ '9' then some (c.toNat - '0'.toNat) else none

def hexDigit (c : Char) : Option Nat :=
  if '0' ≤ c ∧ c ≤ '9' then some (c.toNat - '0'.toNat)
  else if 'a' ≤ c ∧ c ≤ 'f' then some (c.toNat - 'a'.toNat + 10)
  else if 'A' ≤ c ∧ c ≤ 'F' then some (c.toNat - 'A'.toNat + 10)
  else none

/-- A system of digits. -/
structure Radix where
  base : Nat
  digit : Char → Option Nat

def decimal : Radix := ⟨10, decimalDigit⟩

def hexadecimal : Radix := ⟨16, hexDigit⟩

/-- The value of digits that continue a numeral worth `acc`, at most `limit`; `beyond` is the
fault of a value above it. -/
def magnitude (radix : Radix) (limit : Nat) (beyond : NumeralFault) :
    Nat → List Char → Except NumeralFault Nat
  | acc, [] => .ok acc
  | acc, c :: cs =>
    match radix.digit c with
    | none => .error .invalidDigit
    | some d =>
      let next := acc * radix.base + d
      if limit < next then .error beyond else magnitude radix limit beyond next cs

/-- At least one digit. -/
def digits (radix : Radix) (limit : Nat) (beyond : NumeralFault) (s : List Char) :
    Except NumeralFault Nat :=
  if s.isEmpty then .error .invalidDigit else magnitude radix limit beyond 0 s

/-- A natural number up to `limit`; a plus sign may stand before it. -/
def natural (radix : Radix) (limit : Nat) (s : List Char) : Except NumeralFault Nat :=
  match s with
  | [] => .error .empty
  | '+' :: rest => digits radix limit .tooLarge rest
  | s => digits radix limit .tooLarge s

/-- An integer of 32 bits in two's complement, in decimal. -/
def integer32 (s : List Char) : Except NumeralFault Int :=
  match s with
  | [] => .error .empty
  | '+' :: rest => Int.ofNat <$> digits decimal 0x7fffffff .tooLarge rest
  | '-' :: rest => (fun n => -(n : Int)) <$> digits decimal 0x80000000 .tooSmall rest
  | s => Int.ofNat <$> digits decimal 0x7fffffff .tooLarge s

def isDigit (c : Char) : Bool := (decimalDigit c).isSome

def withoutSign : List Char → List Char
  | '+' :: rest => rest
  | '-' :: rest => rest
  | s => s

/-- Nothing, or a power of ten. -/
def isExponent : List Char → Bool
  | [] => true
  | mark :: power =>
    let digits := withoutSign power
    (mark == 'e' || mark == 'E') && !digits.isEmpty && digits.all isDigit

def unboundedNames : List (List Char) := ["inf".toList, "infinity".toList, "nan".toList]

/-- A decimal number, with a point and an exponent or without them, or the name of something that
is beyond all numbers. A sign may stand before it. -/
def isNumber (s : List Char) : Bool :=
  let body := withoutSign s
  let whole := body.takeWhile isDigit
  let (fraction, power) := match body.drop whole.length with
    | '.' :: rest => (rest.takeWhile isDigit, rest.dropWhile isDigit)
    | rest => ([], rest)
  unboundedNames.contains (body.map asciiLower) ||
    (!(whole ++ fraction).isEmpty && isExponent power)

example : natural decimal 0xffffffff "+00012".toList = .ok 12 := by rfl
example : natural decimal 0xffffffff "4294967296x".toList = .error .tooLarge := by rfl
example : natural decimal 0xffffffff "4294967295x".toList = .error .invalidDigit := by rfl
example : integer32 "-2147483648".toList = .ok (-2147483648) := by rfl
example : isNumber "+.5e-3".toList = true ∧ isNumber "5.".toList = true := by decide +kernel
example : isNumber "-NaN".toList = true ∧ isNumber "+.".toList = false := by decide +kernel

end JvmAttach.Text
