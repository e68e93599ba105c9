import JvmAttach.Text.Utf8

/-! The bytes of texts. Texts with the same bytes are the same, and the bytes of two texts in a row
are those of the first before those of the second. ASCII has one byte for each character. -/
namespace JvmAttach.Text

theorem bytesOf_injective {s t : String} (same : bytesOf s = bytesOf t) : s = t := by
  have arrays := congrArg List.toByteArray same
  simp only [bytesOf, encode] at arrays
  have whole (u : String) : (u.toList.flatMap String.utf8EncodeChar).toByteArray = u.toByteArray := by
    have := String.toByteArray_ofList (l := u.toList)
    rw [String.ofList_toList] at this
    exact this.symm
  rw [whole, whole] at arrays
  exact String.toByteArray_inj.1 arrays

theorem bytesOf_append (s t : String) : bytesOf (s ++ t) = bytesOf s ++ bytesOf t := by
  simp [bytesOf, encode]

theorem encode_ascii {text : List Char} (ascii : ∀ c ∈ text, c.toNat < 0x80) :
    encode text = text.map fun c => UInt8.ofNat c.toNat := by
  induction text with
  | nil => rfl
  | cons c text ih =>
    have single : c.utf8Size = 1 := by
      have small := ascii c List.mem_cons_self
      rw [Char.utf8Size_eq_one_iff, UInt32.le_iff_toNat_le]
      exact Nat.le_of_lt_succ small
    have rest := ih fun d mem => ascii d (List.mem_cons_of_mem _ mem)
    rw [encode] at rest ⊢
    rw [List.flatMap_cons, rest, String.utf8EncodeChar_eq_singleton single]
    rfl

theorem ofNat_code {c : Char} (ascii : c.toNat < 0x80) : Char.ofNat (UInt8.ofNat c.toNat).toNat = c := by
  rw [UInt8.toNat_ofNat', Nat.mod_eq_of_lt (Nat.lt_trans ascii (by decide)), Char.ofNat_toNat]

theorem le_of_mem_long {c : Char} {b : UInt8} (long : 0x80 ≤ c.toNat) (mem : b ∈ String.utf8EncodeChar c) :
    0x80 ≤ b := by
  have code : c.val.toNat = c.toNat := rfl
  have high (n : Nat) (beyond : 128 ≤ n % 256) : (0x80 : UInt8) ≤ UInt8.ofNat n := by
    rwa [UInt8.le_iff_toNat_le, UInt8.toNat_ofNat']
  simp only [String.utf8EncodeChar, code] at mem
  split at mem
  · omega
  · split at mem
    · simp only [List.mem_cons, List.not_mem_nil, or_false] at mem
      rcases mem with rfl | rfl <;> exact high _ (by omega)
    · split at mem
      · simp only [List.mem_cons, List.not_mem_nil, or_false] at mem
        rcases mem with rfl | rfl | rfl <;> exact high _ (by omega)
      · simp only [List.mem_cons, List.not_mem_nil, or_false] at mem
        rcases mem with rfl | rfl | rfl | rfl <;> exact high _ (by omega)

theorem mem_encode {text : List Char} {b : UInt8} (ascii : b < 0x80) :
    b ∈ encode text ↔ Char.ofNat b.toNat ∈ text := by
  have small : b.toNat < 128 := UInt8.lt_iff_toNat_lt.1 ascii
  rw [encode, List.mem_flatMap]
  constructor
  · rintro ⟨c, inside, mem⟩
    have single : c.toNat < 0x80 := by
      apply Nat.lt_of_not_le
      intro long
      exact absurd ascii (UInt8.not_lt.2 (le_of_mem_long long mem))
    have own : [c].map (fun d => UInt8.ofNat d.toNat) = String.utf8EncodeChar c := by
      rw [← encode_ascii (by simpa using single), encode, List.flatMap_singleton]
    rw [← own, List.map_singleton, List.mem_singleton] at mem
    rwa [mem, ofNat_code single]
  · intro inside
    have own : ∀ n : Fin 128, UInt8.ofNat n ∈ String.utf8EncodeChar (Char.ofNat n) := by decide +kernel
    have mem := own ⟨b.toNat, small⟩
    rw [UInt8.ofNat_toNat] at mem
    exact ⟨_, inside, mem⟩

theorem toNat_of_isDigit {c : Char} (digit : c.isDigit = true) : 48 ≤ c.toNat ∧ c.toNat ≤ 57 := by
  simp only [Char.isDigit, Bool.and_eq_true, decide_eq_true_eq, ge_iff_le, UInt32.le_iff_toNat_le] at digit
  exact digit

end JvmAttach.Text
