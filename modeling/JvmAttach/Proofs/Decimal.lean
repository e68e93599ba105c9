import JvmAttach.Proofs.Decoding
import JvmAttach.Proofs.Numeral
import JvmAttach.Proofs.Trimming

/-! The decimal form of integers, whole or cut off. Its first digit is zero for zero alone, so that what is
left of the form of another integer is never a zero. -/
namespace JvmAttach.Text

theorem toList_ofNat (n : Nat) : (toString (n : Int)).toList = Nat.toDigits 10 n := by
  simp [Int.repr_eq_if]

theorem toList_negSucc (n : Nat) : (toString (Int.negSucc n)).toList = '-' :: Nat.toDigits 10 (n + 1) := by
  simp [Int.repr]

theorem form_of_mem {n : Int} {c : Char} (mem : c ∈ (toString n).toList) : c = '-' ∨ c.isDigit = true := by
  cases n with
  | ofNat n =>
    rw [Int.ofNat_eq_natCast, toList_ofNat] at mem
    exact .inr (Nat.isDigit_of_mem_toDigits (by decide) (by decide) mem)
  | negSucc n =>
    rw [toList_negSucc, List.mem_cons] at mem
    exact mem.imp_right (Nat.isDigit_of_mem_toDigits (by decide) (by decide))

theorem not_mem_form {n : Int} {c : Char} (unsigned : c ≠ '-') (letter : c.isDigit = false) :
    c ∉ (toString n).toList := by
  intro mem
  rcases form_of_mem mem with same | digit
  · exact unsigned same
  · exact absurd digit (by simp [letter])

theorem ascii_form {n : Int} {c : Char} (mem : c ∈ (toString n).toList) : c.toNat < 0x80 := by
  rcases form_of_mem mem with rfl | digit
  · decide
  · have := toNat_of_isDigit digit
    omega

theorem unblank_form {n : Int} {c : Char} (mem : c ∈ (toString n).toList) : isBlank c = false := by
  rcases form_of_mem mem with rfl | digit
  · decide
  · have := toNat_of_isDigit digit
    simp only [isBlank, Bool.or_eq_false_iff, Bool.and_eq_false_iff, decide_eq_false_iff_not, beq_eq_false_iff_ne]
    omega

theorem digit_digitChar {d : Nat} (small : d < 10) : decimalDigit (Nat.digitChar d) = some d :=
  (by decide : ∀ d : Fin 10, decimalDigit (Nat.digitChar d) = some d.val) ⟨d, small⟩

theorem unblank_of_digit {c : Char} {d : Nat} (digit : decimalDigit c = some d) : isBlank c = false := by
  simp only [decimalDigit] at digit
  split at digit
  · rename_i within
    have low : 48 ≤ c.toNat := within.1
    have high : c.toNat ≤ 57 := within.2
    simp only [isBlank, Bool.or_eq_false_iff, Bool.and_eq_false_iff, decide_eq_false_iff_not, beq_eq_false_iff_ne]
    omega
  · cases digit

theorem unblank_of_written {radix : Radix}
    (unblank : ∀ {c : Char} {d : Nat}, radix.digit c = some d → isBlank c = false) {s : List Char} {n : Nat}
    (written : radix.Written s n) : ∀ c ∈ s, isBlank c = false := by
  have digits {s : List Char} (worth : radix.Worth s n) : ∀ c ∈ s, isBlank c = false := by
    intro c mem
    obtain ⟨d, digit⟩ := Radix.digit_of_mem worth.2 mem
    exact unblank digit
  cases written with
  | bare worth => exact digits worth
  | plus worth => exact List.forall_mem_cons.2 ⟨rfl, digits worth⟩

theorem worth_toDigits (n : Nat) : decimal.Worth (Nat.toDigits 10 n) n :=
  decimal.worth_toDigits (by decide) (fun _ => digit_digitChar) n

theorem exists_first_digit {n : Nat} (positive : 0 < n) :
    ∃ d rest, Nat.toDigits 10 n = Nat.digitChar d :: rest ∧ 0 < d ∧ d < 10 := by
  induction n using Nat.strongRecOn with
  | _ n ih =>
    by_cases small : n < 10
    · exact ⟨n, [], Nat.toDigits_of_lt_base small, positive, small⟩
    · obtain ⟨d, rest, front, some, digit⟩ := ih (n / 10) (by omega) (by omega)
      refine ⟨d, rest ++ [Nat.digitChar (n % 10)], ?_, some, digit⟩
      rw [Nat.toDigits_of_base_le (by decide) (by omega), front]
      rfl

theorem not_worth_zero {n : Nat} (positive : 0 < n) {front : List Char} (cut : front <+: Nat.toDigits 10 n) :
    ¬ decimal.Worth front 0 := by
  rintro ⟨some, worth⟩
  obtain ⟨d, rest, whole, above, digit⟩ := exists_first_digit positive
  rw [whole, List.prefix_cons_iff] at cut
  obtain rfl | ⟨front, rfl, -⟩ := cut
  · exact some rfl
  · simp only [Radix.value?, decimal, digit_digitChar digit] at worth
    have := Radix.le_value? decimal_positive worth
    omega

theorem not_zero_of_cut {n : Int} (nonzero : n ≠ 0) {front : List Char} (cut : front <+: (toString n).toList) :
    ¬ Integer32 (trim front) 0 := by
  rw [trim_of_unblank fun c mem => unblank_form (cut.subset mem)]
  intro written
  generalize value : (0 : Int) = zero at written
  have unsigned {m : Nat} {sign : Char} {s : List Char} (cut : sign :: s <+: Nat.toDigits 10 m) :
      sign.isDigit = true := Nat.isDigit_of_mem_toDigits (by decide) (by decide) (cut.subset List.mem_cons_self)
  cases n with
  | ofNat m =>
    have positive : 0 < m := Nat.pos_of_ne_zero fun none => nonzero (none ▸ rfl)
    rw [Int.ofNat_eq_natCast, toList_ofNat] at cut
    cases written with
    | bare worth fits => exact not_worth_zero positive cut (Int.natCast_eq_zero.1 value.symm ▸ worth)
    | plus worth fits => exact absurd (unsigned cut) (by decide)
    | minus worth fits => exact absurd (unsigned cut) (by decide)
  | negSucc m =>
    rw [toList_negSucc, List.prefix_cons_iff] at cut
    obtain rfl | ⟨front, rfl, cut⟩ := cut
    · cases written with
      | bare worth fits => exact absurd rfl worth.1
    · cases written with
      | bare worth fits => exact absurd worth (not_worth_sign rfl)
      | @minus _ k worth fits =>
        have none : k = 0 := by omega
        exact not_worth_zero (Nat.succ_pos m) cut (none ▸ worth)

end JvmAttach.Text
