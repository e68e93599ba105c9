import JvmAttach.Text.Numeral

/-! What numerals are worth. Reading one succeeds exactly on a sign and digits whose value is in
range; that the range is tested digit by digit makes no difference. -/
namespace JvmAttach.Text

/-- The value of digits behind a numeral worth `start`; none if one of them is no digit. -/
def Radix.value? (radix : Radix) : Nat → List Char → Option Nat
  | start, [] => some start
  | start, c :: cs =>
    match radix.digit c with
    | some d => radix.value? (start * radix.base + d) cs
    | none => none

/-- One or more digits, worth `n` together. -/
def Radix.Worth (radix : Radix) (s : List Char) (n : Nat) : Prop :=
  s ≠ [] ∧ radix.value? 0 s = some n

/-- A natural number of any size: one or more digits, behind a plus sign or alone. -/
inductive Radix.Written (radix : Radix) : List Char → Nat → Prop
  | bare {s : List Char} {n : Nat} (worth : radix.Worth s n) : radix.Written s n
  | plus {s : List Char} {n : Nat} (worth : radix.Worth s n) : radix.Written ('+' :: s) n

/-- A decimal integer in the range of 32 bits, with an optional sign. -/
inductive Integer32 : List Char → Int → Prop
  | bare {s : List Char} {n : Nat} (worth : decimal.Worth s n) (fits : n < 0x80000000) : Integer32 s n
  | plus {s : List Char} {n : Nat} (worth : decimal.Worth s n) (fits : n < 0x80000000) :
      Integer32 ('+' :: s) n
  | minus {s : List Char} {n : Nat} (worth : decimal.Worth s n) (fits : n ≤ 0x80000000) :
      Integer32 ('-' :: s) (-n)

theorem Radix.le_value? {radix : Radix} (positive : 0 < radix.base) {start n : Nat} {s : List Char}
    (worth : radix.value? start s = some n) : start ≤ n := by
  induction s generalizing start with
  | nil => simp only [value?, Option.some.injEq] at worth; omega
  | cons c cs ih =>
    simp only [value?] at worth
    split at worth
    · rename_i d found
      have grown : start * 1 ≤ start * radix.base := Nat.mul_le_mul_left start positive
      have := ih worth
      omega
    · contradiction

theorem Radix.value?_append (radix : Radix) (start : Nat) (s t : List Char) :
    radix.value? start (s ++ t) = (radix.value? start s).bind fun n => radix.value? n t := by
  induction s generalizing start with
  | nil => rfl
  | cons c s ih =>
    simp only [List.cons_append, value?]
    cases radix.digit c with
    | none => rfl
    | some d => exact ih _

theorem Radix.digit_of_mem {radix : Radix} {start n : Nat} {s : List Char} {c : Char}
    (worth : radix.value? start s = some n) (mem : c ∈ s) : ∃ d, radix.digit c = some d := by
  induction s generalizing start with
  | nil => cases mem
  | cons first s ih =>
    simp only [value?] at worth
    cases found : radix.digit first with
    | none => rw [found] at worth; cases worth
    | some d =>
      rw [found] at worth
      rcases List.mem_cons.1 mem with rfl | mem
      · exact ⟨d, found⟩
      · exact ih worth mem

theorem Radix.worth_toDigits {radix : Radix} (many : 1 < radix.base)
    (digit : ∀ d < radix.base, radix.digit (Nat.digitChar d) = some d) (n : Nat) :
    radix.Worth (Nat.toDigits radix.base n) n := by
  refine ⟨Nat.toDigits_ne_nil, ?_⟩
  induction n using Nat.strongRecOn with
  | _ n ih =>
    by_cases small : n < radix.base
    · rw [Nat.toDigits_of_lt_base small]
      simp only [Radix.value?, digit n small, Nat.zero_mul, Nat.zero_add]
    · have least : n % radix.base < radix.base := Nat.mod_lt n (by omega)
      have whole : n / radix.base * radix.base + n % radix.base = n := Nat.div_add_mod' n radix.base
      have fewer : n / radix.base < n := Nat.div_lt_self (by omega) many
      rw [Nat.toDigits_of_base_le many (by omega), Radix.value?_append, ih _ fewer]
      simp only [Option.bind_some, Radix.value?, digit _ least, whole]

theorem Radix.worth_zeros {radix : Radix} (zero : radix.digit '0' = some 0) {s : List Char} {n : Nat}
    (worth : radix.Worth s n) (k : Nat) : radix.Worth (List.replicate k '0' ++ s) n := by
  induction k with
  | zero => exact worth
  | succ k ih =>
    refine ⟨by simp [List.replicate_succ], ?_⟩
    simp only [List.replicate_succ, List.cons_append, Radix.value?, zero, Nat.zero_mul, Nat.zero_add]
    exact ih.2

/-- A value in range has passed the test at each of its digits. -/
theorem magnitude_eq_ok_iff {radix : Radix} (positive : 0 < radix.base) {limit start n : Nat}
    (beyond : NumeralFault) (s : List Char) (below : start ≤ limit) :
    magnitude radix limit beyond start s = .ok n ↔ radix.value? start s = some n ∧ n ≤ limit := by
  induction s generalizing start with
  | nil =>
    simp only [magnitude, Radix.value?, Except.ok.injEq, Option.some.injEq]
    constructor
    · rintro rfl; exact ⟨rfl, below⟩
    · exact And.left
  | cons c cs ih =>
    simp only [magnitude, Radix.value?]
    cases found : radix.digit c with
    | none => simp
    | some d =>
      by_cases past : limit < start * radix.base + d
      · simp only [if_pos past, reduceCtorEq, false_iff, not_and, Nat.not_le]
        intro worth
        exact Nat.lt_of_lt_of_le past (Radix.le_value? positive worth)
      · simp only [if_neg past]
        exact ih (by omega)

theorem digits_eq_ok_iff {radix : Radix} (positive : 0 < radix.base) {limit n : Nat}
    (beyond : NumeralFault) (s : List Char) :
    digits radix limit beyond s = .ok n ↔ radix.Worth s n ∧ n ≤ limit := by
  cases s with
  | nil => simp [digits, Radix.Worth]
  | cons c cs =>
    simp only [digits, List.isEmpty_cons, Bool.false_eq_true, ↓reduceIte, Radix.Worth, ne_eq,
      reduceCtorEq, not_false_eq_true, true_and]
    exact magnitude_eq_ok_iff positive beyond _ (Nat.zero_le _)

theorem decimal_positive : 0 < decimal.base := by decide

theorem not_worth_sign {radix : Radix} {sign : Char} (none : radix.digit sign = none) {s : List Char} {n : Nat} :
    ¬ radix.Worth (sign :: s) n := by
  rintro ⟨-, worth⟩
  simp [Radix.value?, none] at worth

theorem natural_eq_ok_iff {radix : Radix} (positive : 0 < radix.base) (unsigned : radix.digit '+' = none)
    (limit : Nat) (s : List Char) (n : Nat) :
    natural radix limit s = .ok n ↔ radix.Written s n ∧ n ≤ limit := by
  unfold natural
  split
  · constructor
    · rintro ⟨⟩
    · rintro ⟨⟨⟨some, -⟩⟩, -⟩
      exact absurd rfl some
  · rename_i rest
    rw [digits_eq_ok_iff positive]
    refine and_congr_left fun _ => ⟨.plus, fun written => ?_⟩
    cases written with
    | bare worth => exact absurd worth (not_worth_sign unsigned)
    | plus worth => exact worth
  · rename_i notPlus
    rw [digits_eq_ok_iff positive]
    refine and_congr_left fun _ => ⟨.bare, fun written => ?_⟩
    cases written with
    | bare worth => exact worth
    | plus worth => exact absurd rfl (notPlus _)

theorem map_digits_eq_ok_iff (f : Nat → Int) (limit : Nat) (beyond : NumeralFault) (s : List Char)
    (n : Int) :
    f <$> digits decimal limit beyond s = .ok n ↔ ∃ m, decimal.Worth s m ∧ m ≤ limit ∧ f m = n := by
  cases read : digits decimal limit beyond s with
  | ok m =>
    have worth := (digits_eq_ok_iff decimal_positive beyond s).1 read
    constructor
    · rintro ⟨rfl⟩
      exact ⟨m, worth.1, worth.2, rfl⟩
    · rintro ⟨k, other, within, rfl⟩
      have same := (digits_eq_ok_iff decimal_positive beyond s).2 ⟨other, within⟩
      rw [read] at same
      cases same
      rfl
  | error fault =>
    constructor
    · rintro ⟨⟩
    · rintro ⟨m, worth, within, -⟩
      have found := (digits_eq_ok_iff decimal_positive beyond s).2 ⟨worth, within⟩
      rw [read] at found
      contradiction

theorem integer32_eq_ok_iff (s : List Char) (n : Int) : integer32 s = .ok n ↔ Integer32 s n := by
  unfold integer32
  split
  · constructor
    · rintro ⟨⟩
    · rintro ⟨worth, -⟩
      exact absurd rfl worth.1
  · rename_i rest
    rw [map_digits_eq_ok_iff]
    constructor
    · rintro ⟨m, worth, within, rfl⟩
      exact .plus worth (by omega)
    · intro written
      cases written with
      | bare worth fits => exact absurd worth (not_worth_sign rfl)
      | plus worth fits => exact ⟨_, worth, by omega, rfl⟩
  · rename_i rest
    have negated (read : Except NumeralFault Nat) :
        (fun k : Int => -k) <$> (do let m ← read; pure (m : Int)) = (fun m : Nat => -(m : Int)) <$> read := by
      cases read <;> rfl
    rw [negated, map_digits_eq_ok_iff]
    constructor
    · rintro ⟨m, worth, within, rfl⟩
      exact .minus worth within
    · intro written
      cases written with
      | bare worth fits => exact absurd worth (not_worth_sign rfl)
      | minus worth fits => exact ⟨_, worth, fits, rfl⟩
  · rename_i unsigned notPlus notMinus
    rw [map_digits_eq_ok_iff]
    constructor
    · rintro ⟨m, worth, within, rfl⟩
      exact .bare worth (by omega)
    · intro written
      cases written with
      | bare worth fits => exact ⟨_, worth, by omega, rfl⟩
      | plus worth fits => exact absurd rfl (notPlus _)
      | minus worth fits => exact absurd rfl (notMinus _)

end JvmAttach.Text
