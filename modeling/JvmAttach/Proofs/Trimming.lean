import JvmAttach.Text.Blank
import Mathlib.Data.List.DropRight
import Mathlib.Data.List.TakeWhile

/-! Trimming takes blank characters off both ends, and more of them there make no difference. -/
namespace JvmAttach.Text

theorem trimEnd_append_blank (s : List Char) {blanks : List Char} (blank : ∀ c ∈ blanks, isBlank c) :
    trimEnd (s ++ blanks) = trimEnd s := by
  have dropped : blanks.reverse.dropWhile isBlank = [] := by
    rw [List.dropWhile_eq_nil_iff]
    intro c mem
    exact blank c (List.mem_reverse.1 mem)
  simp only [trimEnd, List.reverse_append, List.dropWhile_append, dropped, List.isEmpty_nil,
    ↓reduceIte]

theorem trim_append_blank (s : List Char) {blanks : List Char} (blank : ∀ c ∈ blanks, isBlank c) :
    trim (s ++ blanks) = trim s := by
  have dropped : blanks.dropWhile isBlank = [] := List.dropWhile_eq_nil_iff.2 blank
  simp only [trim, List.dropWhile_append]
  split
  · rename_i nothing
    rw [dropped, List.isEmpty_iff.1 nothing]
  · exact trimEnd_append_blank _ blank

theorem trim_blank_append {blanks : List Char} (blank : ∀ c ∈ blanks, isBlank c) (s : List Char) :
    trim (blanks ++ s) = trim s := by
  rw [trim, List.dropWhile_append_of_pos blank, trim]

theorem exists_trim (s : List Char) : ∃ front back, s = front ++ trim s ++ back ∧
    (∀ c ∈ front, isBlank c) ∧ ∀ c ∈ back, isBlank c := by
  refine ⟨s.takeWhile isBlank, (s.dropWhile isBlank).rtakeWhile isBlank, ?_, fun c => List.mem_takeWhile_imp,
    fun c mem => List.mem_takeWhile_imp (List.mem_reverse.1 mem)⟩
  have whole : trim s ++ (s.dropWhile isBlank).rtakeWhile isBlank = s.dropWhile isBlank :=
    List.rdropWhile_append_rtakeWhile
  rw [List.append_assoc, whole, List.takeWhile_append_dropWhile]

theorem mem_trim {s : List Char} {c : Char} (mem : c ∈ s) (unblank : isBlank c = false) : c ∈ trim s := by
  obtain ⟨front, back, whole, before, behind⟩ := exists_trim s
  rw [whole, List.mem_append, List.mem_append] at mem
  rcases mem with (mem | mem) | mem
  · exact absurd (before c mem) (by simp [unblank])
  · exact mem
  · exact absurd (behind c mem) (by simp [unblank])

theorem trim_of_unblank {s : List Char} (unblank : ∀ c ∈ s, isBlank c = false) : trim s = s := by
  have kept {t : List Char} (unblank : ∀ c ∈ t, isBlank c = false) : t.dropWhile isBlank = t := by
    cases t with
    | nil => rfl
    | cons c t => exact List.dropWhile_cons_of_neg (by simp [unblank c List.mem_cons_self])
  rw [trim, kept unblank, trimEnd, kept fun c mem => unblank c (List.mem_reverse.1 mem), List.reverse_reverse]

end JvmAttach.Text
