import JvmAttach.Text.LowerCase

/-! Lower-casing and ASCII. What lower-casing makes of a character beyond ASCII has a character beyond ASCII in
it, except for the Kelvin sign, which becomes a k. So a word of ASCII without a k is the lower-case form of just
those texts that have its letters in any case. -/
namespace JvmAttach.Text

variable {before behind s word : List Char} {c : Char} {n : Nat}

/-- Where a row of small letters can lie: beyond ASCII, and on one side of the surrogates. -/
def Beyond (row : Nat × Nat × Nat) : Prop :=
  0x80 ≤ row.2.2 ∧ (row.2.2 + (row.2.1 - row.1) < 0xD800 ∨ 0xDFFF < row.2.2 ∧ row.2.2 + (row.2.1 - row.1) < 0x110000)

instance (row : Nat × Nat × Nat) : Decidable (Beyond row) := inferInstanceAs (Decidable (_ ∧ _))

theorem capitalRows_cases : ∀ row ∈ capitalRows, row.2.1 < 0x80 ∨ row = (0x212A, 0x212A, 'k'.toNat) ∨ Beyond row := by
  decide +kernel

theorem alternatingRanges_within : ∀ range ∈ alternatingRanges, 0x80 ≤ range.1 ∧ range.2 + 1 < 0xD800 := by
  decide +kernel

theorem small_foreign (foreign : 0x80 ≤ n) (scalar : n.isValidChar) :
    small n = 'k'.toNat ∨ 0x80 ≤ small n ∧ (small n).isValidChar := by
  simp only [Nat.isValidChar] at scalar ⊢
  unfold small
  split
  · rename_i row found
    have inside := List.find?_some found
    simp only [Bool.and_eq_true, decide_eq_true_eq] at inside
    rcases capitalRows_cases row (List.mem_of_find?_eq_some found) with ascii | rfl | ⟨beyond, within⟩
    · omega
    · exact .inl (by simp only at inside ⊢; omega)
    · omega
  · split
    · rename_i alternates
      obtain ⟨range, mem, inside⟩ := List.any_eq_true.1 alternates
      have within := alternatingRanges_within range mem
      simp only [Bool.and_eq_true, decide_eq_true_eq] at inside
      omega
    · exact .inr ⟨foreign, scalar⟩

/-- Something foreign stays behind of a character beyond ASCII, or a k. -/
theorem lowerAt_foreign (foreign : 0x80 ≤ c.toNat) : ∃ d ∈ lowerAt before c behind, d = 'k' ∨ 0x80 ≤ d.toNat := by
  unfold lowerAt lowerChar
  split
  · split
    · exact ⟨finalSigma, List.mem_singleton_self _, .inr (by decide)⟩
    · exact ⟨smallSigma, List.mem_singleton_self _, .inr (by decide)⟩
  · split
    · exact ⟨'\u0307', by simp, .inr (by decide)⟩
    · refine ⟨_, List.mem_singleton_self _, ?_⟩
      rcases small_foreign foreign c.valid with kelvin | ⟨beyond, scalar⟩
      · rw [kelvin]
        exact .inl rfl
      · rw [Char.ofNat, dif_pos scalar]
        exact .inr beyond

theorem lowerAt_ascii (ascii : c.toNat < 0x80) : lowerAt before c behind = [c.toLower] := by
  have each : ∀ n : Fin 128, Char.ofNat n ≠ capitalSigma ∧ lowerChar (Char.ofNat n) = [(Char.ofNat n).toLower] := by
    decide +kernel
  obtain ⟨other, lowered⟩ := each ⟨c.toNat, ascii⟩
  rw [Char.ofNat_toNat] at other lowered
  rw [lowerAt, if_neg other, lowered]

theorem lowerBehind_ascii (ascii : ∀ c ∈ s, c.toNat < 0x80) : lowerBehind before s = s.map Char.toLower := by
  induction s generalizing before with
  | nil => rfl
  | cons c s ih =>
    rw [lowerBehind, lowerAt_ascii (ascii c List.mem_cons_self), ih fun d mem => ascii d (List.mem_cons_of_mem c mem)]
    rfl

theorem exists_lowerAt (mem : c ∈ s) : ∃ front back, lowerAt front c back ⊆ lowerBehind before s := by
  induction s generalizing before with
  | nil => cases mem
  | cons d s ih =>
    rw [lowerBehind]
    rcases List.mem_cons.1 mem with rfl | mem
    · exact ⟨before, s, List.subset_append_left _ _⟩
    · obtain ⟨front, back, within⟩ := ih mem
      exact ⟨front, back, List.Subset.trans within (List.subset_append_right _ _)⟩

theorem toLower_foreign (foreign : 0x80 ≤ c.toNat) : c.toLower = c := by
  unfold Char.toLower
  rw [dif_neg]
  rintro ⟨-, under⟩
  exact absurd (Nat.le_trans foreign under) (by decide)

theorem ascii_of_toLower (ascii : ∀ c ∈ s.map Char.toLower, c.toNat < 0x80) : ∀ c ∈ s, c.toNat < 0x80 := by
  intro c mem
  apply Nat.lt_of_not_le
  intro foreign
  have small := ascii _ (List.mem_map_of_mem mem)
  rw [toLower_foreign foreign] at small
  omega

/-- A word that only texts of ASCII become by lower-casing: it is ASCII itself, and has no k in it. -/
def Unmistakable (word : List Char) : Prop := ∀ c ∈ word, c ≠ 'k' ∧ c.toNat < 0x80

instance (word : List Char) : Decidable (Unmistakable word) := List.decidableBAll _ word

/-- Lower-casing by the full rules gives an unmistakable word just where lower-casing of ASCII alone does. -/
theorem lower_eq_iff (clear : Unmistakable word) : lower s = word ↔ s.map Char.toLower = word := by
  constructor
  · rintro rfl
    refine (lowerBehind_ascii fun c mem => ?_).symm
    apply Nat.lt_of_not_le
    intro foreign
    obtain ⟨front, back, within⟩ := exists_lowerAt mem
    obtain ⟨d, inside, kind⟩ := lowerAt_foreign foreign
    obtain ⟨other, ascii⟩ := clear d (within inside)
    rcases kind with kelvin | foreign
    · exact other kelvin
    · omega
  · rintro rfl
    exact lowerBehind_ascii (ascii_of_toLower fun c mem => (clear c mem).2)

-- a word with a k has another text that becomes it
example : lower ['\u212A'] = ['k'] ∧ ['\u212A'].map Char.toLower ≠ ['k'] := by decide +kernel

variable {α : Type} {names : List (List Char × α)}

theorem lookup_lower (clear : ∀ entry ∈ names, Unmistakable entry.1) (s : List Char) :
    names.lookup (lower s) = names.lookup (s.map Char.toLower) := by
  induction names with
  | nil => rfl
  | cons entry names ih =>
    have same : (lower s == entry.1) = (s.map Char.toLower == entry.1) := by
      rw [Bool.eq_iff_iff, beq_iff_eq, beq_iff_eq]
      exact lower_eq_iff (clear entry List.mem_cons_self)
    rw [List.lookup_cons, List.lookup_cons, same, ih fun other mem => clear other (List.mem_cons_of_mem entry mem)]

end JvmAttach.Text
