import JvmAttach.Act
import JvmAttach.Errno
import JvmAttach.Text.Utf8

/-! Bytes on their way from a listener, as they arrive: in stretches of any length, with
interruptions that a reader does not notice and failures that it does. When nothing is left the
stream has ended. A line is read up to and with its newline; what was read of a line before a
failure is gone. -/
namespace JvmAttach.Wire

inductive Arrival where
  | bytes (stretch : Bytes)
  | interrupted
  | failed (fault : SystemFault)
  deriving DecidableEq, Repr

abbrev Source := List Arrival

def newline : UInt8 := 10

def carriageReturn : UInt8 := 13

namespace Source

def size : Source → Nat
  | [] => 0
  | .bytes stretch :: rest => stretch.length + size rest
  | .interrupted :: rest => size rest
  | .failed _ :: rest => size rest

def upToNewline (stretch : Bytes) : Bytes := stretch.takeWhile (· != newline)

def fromNewline (stretch : Bytes) : Bytes := stretch.dropWhile (· != newline)

/-- The next line with its newline, which only the last line may lack; nothing at the end. -/
def nextLine : Source → Except SystemFault Bytes × Source
  | [] => (.ok [], [])
  | .interrupted :: rest => nextLine rest
  | .failed fault :: rest => (.error fault, rest)
  | .bytes stretch :: rest =>
    match fromNewline stretch with
    | [] =>
      let more := nextLine rest
      (more.1.map (stretch ++ ·), more.2)
    | stop :: back => (.ok (upToNewline stretch ++ [stop]), .bytes back :: rest)

/-- Steps that reading can take at most. -/
def weight (s : Source) : Nat := s.length + s.size

theorem size_append (s t : Source) : size (s ++ t) = size s + size t := by
  induction s with
  | nil => simp [size]
  | cons a s ih => cases a <;> simp [size, ih, Nat.add_assoc]

theorem upToNewline_append_fromNewline (stretch : Bytes) :
    upToNewline stretch ++ fromNewline stretch = stretch := List.takeWhile_append_dropWhile

theorem weight_nextLine_le (s : Source) : weight (nextLine s).2 ≤ weight s := by
  induction s with
  | nil => simp [nextLine]
  | cons a s ih =>
    cases a with
    | interrupted => simp only [nextLine, weight, size, List.length_cons] at *; omega
    | failed fault => simp only [nextLine, weight, size, List.length_cons]; omega
    | bytes stretch =>
      simp only [nextLine]
      split
      · simp only [weight, size, List.length_cons] at *; omega
      · next stop back found =>
        have whole := congrArg List.length (upToNewline_append_fromNewline stretch)
        rw [found] at whole
        simp only [List.length_append, List.length_cons] at whole
        simp only [weight, size, List.length_cons]; omega

theorem weight_nextLine_lt (a : Arrival) (s : Source) :
    weight (nextLine (a :: s)).2 < weight (a :: s) := by
  have shorter := weight_nextLine_le s
  cases a with
  | interrupted => simp only [nextLine, weight, size, List.length_cons] at *; omega
  | failed fault => simp only [nextLine, weight, size, List.length_cons]; omega
  | bytes stretch =>
    simp only [nextLine]
    split
    · simp only [weight, size, List.length_cons] at *; omega
    · next stop back found =>
      have whole := congrArg List.length (upToNewline_append_fromNewline stretch)
      rw [found] at whole
      simp only [List.length_append, List.length_cons] at whole
      simp only [weight, size, List.length_cons]; omega

def isLineEnd (b : UInt8) : Bool := b == newline || b == carriageReturn

/-- A line without the newline and the carriage returns that end it. -/
def withoutEnd (line : Bytes) : Bytes := (line.reverse.dropWhile isLineEnd).reverse

def content (line : Bytes) : List Char := Text.decode (withoutEnd line)

/-- Take something from a source. -/
def reading {α : Type} (f : Source → Except SystemFault α × Source) : Act SystemFault Source α := ⟨fun s =>
  match f s with
  | (.ok a, rest) => ⟨.ok a, rest, []⟩
  | (.error fault, rest) => ⟨.error fault, rest, []⟩⟩

/-- The text of the next line; none at the end of the stream. -/
def readLine : Act SystemFault Source (Option (List Char)) := do
  let line ← reading nextLine
  return if line.isEmpty then none else some (content line)

/-- The text of all lines that are left, one behind the other. -/
def remaining : Source → Except SystemFault (List Char) × Source
  | [] => (.ok [], [])
  | a :: s =>
    match (nextLine (a :: s)).1 with
    | .error fault => (.error fault, (nextLine (a :: s)).2)
    | .ok line =>
      if line.isEmpty then (.ok [], (nextLine (a :: s)).2)
      else
        let more := remaining (nextLine (a :: s)).2
        (more.1.map (content line ++ ·), more.2)
  termination_by s => weight s
  decreasing_by exact weight_nextLine_lt a s

def readRemaining : Act SystemFault Source (List Char) := reading remaining

/-- Stretches of at most `n` bytes; all at once if there is no such limit. -/
def stretches (n : Nat) (data : Bytes) : Source :=
  if data.isEmpty then []
  else if n = 0 ∨ data.length ≤ n then [.bytes data]
  else .bytes (data.take n) :: stretches n (data.drop n)
  termination_by data.length
  decreasing_by simp only [List.length_drop]; omega

/-- Data with something else between its first `k` bytes and the rest. No stretch crosses that
place, and data shorter than `k` bytes ends before it. -/
def broken (n k : Nat) (event : Arrival) (data : Bytes) : Source :=
  if data.length < k then stretches n data
  else stretches n (data.take k) ++ event :: stretches n (data.drop k)

end Source

end JvmAttach.Wire
