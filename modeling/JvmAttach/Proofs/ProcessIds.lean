import JvmAttach.Pid
import JvmAttach.Proofs.Decimal

/-! Process ids as text. A text names a process if it is a positive number of at most 31 bits between
blank characters, with a plus sign or without one. The id is then that number, and its own text is read
back. Any other text is refused and quoted whole. -/
namespace JvmAttach.Pid

open Text

/-- A number of any size between blank characters. -/
def Names (text : List Char) (n : Nat) : Prop :=
  ∃ front middle back, text = front ++ middle ++ back ∧ (∀ c ∈ front, isBlank c) ∧ (∀ c ∈ back, isBlank c) ∧
    decimal.Written middle n

/-- Trimming takes off what is around the number, because nothing in a number is blank. -/
theorem names_iff {text : List Char} {n : Nat} : Names text n ↔ decimal.Written (trim text) n := by
  constructor
  · rintro ⟨front, middle, back, rfl, before, behind, written⟩
    have kept : trim (front ++ middle ++ back) = middle := by
      rw [trim_append_blank _ behind, trim_blank_append before,
        trim_of_unblank (unblank_of_written unblank_of_digit written)]
    rwa [kept]
  · intro written
    obtain ⟨front, back, whole, before, behind⟩ := exists_trim text
    exact ⟨front, trim text, back, whole, before, behind, written⟩

theorem natural_trim_iff {text : List Char} {limit n : Nat} :
    natural decimal limit (trim text) = .ok n ↔ Names text n ∧ n ≤ limit := by
  rw [names_iff]
  exact natural_eq_ok_iff decimal_positive rfl limit (trim text) n

theorem parse_of_read {written : String} {n : Nat}
    (read : natural decimal 0xffffffff (trim written.toList) = .ok n) :
    parse written = if n = 0 ∨ largest < n then .error (outOfRange written) else .ok ⟨UInt32.ofNat n⟩ := by
  rw [parse, read]

theorem parse_of_unread {written : String} {fault : NumeralFault}
    (unread : natural decimal 0xffffffff (trim written.toList) = .error fault) :
    parse written = .error (malformed written fault) := by
  rw [parse, unread]

theorem parse_of_names {written : String} {n : Nat} (names : Names written.toList n) (positive : 1 ≤ n)
    (fits : n ≤ largest) : parse written = .ok ⟨UInt32.ofNat n⟩ := by
  have within : n ≤ 0xffffffff := Nat.le_trans fits (by decide)
  rw [parse_of_read (natural_trim_iff.2 ⟨names, within⟩), if_neg]
  omega

theorem toNat_ofNat {n : Nat} (fits : n ≤ largest) : (UInt32.ofNat n).toNat = n := by
  rw [UInt32.toNat_ofNat', Nat.mod_eq_of_lt]
  exact Nat.lt_of_le_of_lt fits (by decide)

theorem names_shown (pid : Pid) : Names pid.shown.toList pid.number.toNat := by
  refine ⟨[], pid.shown.toList, [], by simp, by simp, by simp, .bare ?_⟩
  rw [shown, Nat.toString_eq_ofList_toDigits, String.toList_ofList]
  exact worth_toDigits pid.number.toNat

theorem parse_shown {pid : Pid} (positive : 1 ≤ pid.number.toNat) (fits : pid.number.toNat ≤ largest) :
    parse pid.shown = .ok pid := by
  rw [parse_of_names (names_shown pid) positive fits, UInt32.ofNat_toNat]

/-- What is said of a text that is no number begins like what is said of a number out of range. -/
theorem malformed_eq (written : String) (fault : NumeralFault) :
    malformed written fault = .invalidArgument (s!"invalid process id '{written}'" ++ (": " ++ fault.message)) := by
  have quote : "': " = "'" ++ ": " := by decide +kernel
  have whole (front back : String) : front ++ "': " ++ back = front ++ "'" ++ (": " ++ back) := by
    rw [quote]
    simp only [String.append_assoc]
  exact congrArg AttachFault.invalidArgument (whole _ _)

/-- A text is read as an id if and only if it names a number from 1 to 2147483647. The id has that number,
also for the system's process calls, and is read back from its own text. The error for any other text
quotes it as it was given, blank characters included. -/
theorem parse_exact (written : String) :
    (∀ n, Names written.toList n → 1 ≤ n → n ≤ 2147483647 → ∃ pid, parse written = .ok pid ∧
      pid.number.toNat = n ∧ pid.raw = n ∧ pid.shown = toString n ∧ parse pid.shown = .ok pid) ∧
    ((∀ n, Names written.toList n → ¬ (1 ≤ n ∧ n ≤ 2147483647)) → ∃ detail,
      parse written = .error (.invalidArgument (s!"invalid process id '{written}'" ++ detail)) ∧
        (detail = "" ∧ (∃ n, Names written.toList n ∧ n ≤ 4294967295) ∨
          ∃ fault : NumeralFault, detail = ": " ++ fault.message)) := by
  refine ⟨fun n names positive fits => ?_, fun none => ?_⟩
  · have number : (UInt32.ofNat n).toNat = n := toNat_ofNat fits
    refine ⟨⟨UInt32.ofNat n⟩, parse_of_names names positive fits, number, ?_, ?_, ?_⟩
    · rw [raw, number]
      exact if_pos fits
    · rw [shown, number]
    · exact parse_shown (number.symm ▸ positive) (number.symm ▸ fits)
  · cases read : natural decimal 0xffffffff (trim written.toList) with
    | error fault =>
      refine ⟨": " ++ fault.message, ?_, .inr ⟨fault, rfl⟩⟩
      rw [parse_of_unread read, malformed_eq]
    | ok n =>
      obtain ⟨names, within⟩ := natural_trim_iff.1 read
      have beyond : n = 0 ∨ largest < n := by
        have outside := none n names
        simp only [largest]
        omega
      refine ⟨"", ?_, .inl ⟨rfl, n, names, within⟩⟩
      rw [parse_of_read read, if_pos beyond, outOfRange, String.append_empty]

example : parse "\u3000+0007\n" = .ok ⟨7⟩ := by rfl
example : parse " 0 " = .error (.invalidArgument "invalid process id ' 0 '") := by rfl

end JvmAttach.Pid
