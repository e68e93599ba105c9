import JvmAttach.Proofs.Act
import JvmAttach.Wire.Source
import Mathlib.Data.List.TakeWhile

/-! Lines out of a stream that does not fail. What is read depends on the bytes that arrive, and
neither on the stretches they come in nor on interruptions between these. -/
namespace JvmAttach.Wire

/-- The first line of some bytes, without its newline, and what stands behind it. Only a line that
no newline ends can be the last, and no line is empty there. -/
inductive FirstLine : Bytes → Bytes → Bytes → Prop
  | ended {line : Bytes} (rest : Bytes) (free : newline ∉ line) :
      FirstLine (line ++ newline :: rest) line rest
  | last {line : Bytes} (some : line ≠ []) (free : newline ∉ line) : FirstLine line line []

namespace Source

def data : Source → Bytes
  | [] => []
  | .bytes stretch :: rest => stretch ++ data rest
  | .interrupted :: rest => data rest
  | .failed _ :: rest => data rest

/-- Reading meets no failure. -/
def Intact (s : Source) : Prop := ∀ fault, .failed fault ∉ s

theorem Intact.tail {a : Arrival} {s : Source} (intact : Intact (a :: s)) : Intact s :=
  fun fault mem => intact fault (List.mem_cons_of_mem _ mem)

theorem upToNewline_append {line : Bytes} (free : newline ∉ line) (rest : Bytes) :
    upToNewline (line ++ rest) = line ++ upToNewline rest := by
  refine List.takeWhile_append_of_pos fun b mem => ?_
  simp only [bne_iff_ne, ne_eq]
  rintro rfl
  exact free mem

theorem fromNewline_append {line : Bytes} (free : newline ∉ line) (rest : Bytes) :
    fromNewline (line ++ rest) = fromNewline rest := by
  refine List.dropWhile_append_of_pos fun b mem => ?_
  simp only [bne_iff_ne, ne_eq]
  rintro rfl
  exact free mem

theorem fromNewline_of_free {line : Bytes} (free : newline ∉ line) : fromNewline line = [] := by
  simpa [fromNewline] using fromNewline_append free []

theorem upToNewline_newline (rest : Bytes) : upToNewline (newline :: rest) = [] := by
  simp [upToNewline]

theorem fromNewline_newline (rest : Bytes) : fromNewline (newline :: rest) = newline :: rest := by
  simp [fromNewline]

theorem first_newline {line line' rest rest' : Bytes} (free : newline ∉ line) (free' : newline ∉ line')
    (same : line ++ newline :: rest = line' ++ newline :: rest') : line = line' ∧ rest = rest' := by
  have lines := congrArg upToNewline same
  rw [upToNewline_append free, upToNewline_append free', upToNewline_newline,
    upToNewline_newline, List.append_nil, List.append_nil] at lines
  subst lines
  exact ⟨rfl, by simpa using same⟩

theorem nextLine_bytes {stretch : Bytes} (free : newline ∉ stretch) (s : Source) :
    nextLine (.bytes stretch :: s) = ((nextLine s).1.map (stretch ++ ·), (nextLine s).2) := by
  simp only [nextLine, fromNewline_of_free free]

theorem nextLine_of_free {s : Source} (intact : Intact s) (free : newline ∉ data s) :
    ∃ t, nextLine s = (.ok (data s), t) ∧ Intact t ∧ data t = [] := by
  induction s with
  | nil => exact ⟨[], rfl, intact, rfl⟩
  | cons a s ih =>
    cases a with
    | interrupted => exact ih intact.tail free
    | failed fault => exact absurd List.mem_cons_self (intact fault)
    | bytes stretch =>
      simp only [data, List.mem_append, not_or] at free
      obtain ⟨t, read, still, none⟩ := ih intact.tail free.2
      exact ⟨t, by simp only [nextLine_bytes free.1, read, Except.map, data], still, none⟩

theorem nextLine_of_newline {s : Source} (intact : Intact s) {line rest : Bytes}
    (free : newline ∉ line) (whole : data s = line ++ newline :: rest) :
    ∃ t, nextLine s = (.ok (line ++ [newline]), t) ∧ Intact t ∧ data t = rest := by
  induction s generalizing line with
  | nil => simp [data] at whole
  | cons a s ih =>
    cases a with
    | interrupted => exact ih intact.tail free whole
    | failed fault => exact absurd List.mem_cons_self (intact fault)
    | bytes stretch =>
      simp only [data] at whole
      by_cases mem : newline ∈ stretch
      · obtain ⟨front, back, rfl, before⟩ := List.eq_append_cons_of_mem mem
        rw [List.append_assoc, List.cons_append] at whole
        obtain ⟨rfl, rfl⟩ := first_newline before free whole
        refine ⟨.bytes back :: s, ?_, ?_, rfl⟩
        · simp only [nextLine, fromNewline_append before, fromNewline_newline,
            upToNewline_append before, upToNewline_newline, List.append_nil]
        · intro fault failed
          exact intact.tail fault (by simpa using failed)
      · have lines := congrArg upToNewline whole
        rw [upToNewline_append mem, upToNewline_append free, upToNewline_newline,
          List.append_nil] at lines
        have backs := congrArg fromNewline whole
        rw [fromNewline_append mem, fromNewline_append free, fromNewline_newline] at backs
        have later : data s = upToNewline (data s) ++ newline :: rest := by
          rw [← backs, upToNewline_append_fromNewline]
        have free' : newline ∉ upToNewline (data s) := by
          intro inside
          exact free (lines ▸ List.mem_append_right _ inside)
        obtain ⟨t, read, still, left⟩ := ih intact.tail free' later
        refine ⟨t, ?_, still, left⟩
        simp only [nextLine_bytes mem, read, Except.map, ← List.append_assoc, lines]

theorem content_append_newline (line : Bytes) : content (line ++ [newline]) = content line := by
  simp [content, withoutEnd, isLineEnd]

theorem run_readLine {s t : Source} {line : Bytes} (read : nextLine s = (.ok line, t)) :
    readLine.run s = ⟨.ok (if line.isEmpty then none else some (content line)), t, []⟩ := by
  have first : (reading nextLine).run s = ⟨.ok line, t, []⟩ := by simp only [reading, read]
  exact Act.run_bind_ok first _

theorem readLine_end {s : Source} (intact : Intact s) (none : data s = []) :
    ∃ t, readLine.run s = ⟨.ok .none, t, []⟩ ∧ Intact t ∧ data t = [] := by
  obtain ⟨t, read, still, left⟩ := nextLine_of_free intact (by simp [none])
  rw [none] at read
  exact ⟨t, run_readLine read, still, left⟩

theorem nextLine_firstLine {s : Source} (intact : Intact s) {line rest : Bytes}
    (first : FirstLine (data s) line rest) :
    ∃ whole t, nextLine s = (.ok whole, t) ∧ whole ≠ [] ∧ content whole = content line ∧ Intact t ∧
      data t = rest := by
  generalize bytes : data s = d at first
  cases first with
  | ended rest free =>
    obtain ⟨t, read, still, left⟩ := nextLine_of_newline intact free bytes
    exact ⟨line ++ [newline], t, read, by simp, content_append_newline line, still, left⟩
  | last some free =>
    obtain ⟨t, read, still, left⟩ := nextLine_of_free intact (by rw [bytes]; exact free)
    exact ⟨line, t, bytes ▸ read, some, rfl, still, left⟩

theorem readLine_firstLine {s : Source} (intact : Intact s) {line rest : Bytes}
    (first : FirstLine (data s) line rest) :
    ∃ t, readLine.run s = ⟨.ok (some (content line)), t, []⟩ ∧ Intact t ∧ data t = rest := by
  obtain ⟨whole, t, read, some, same, still, left⟩ := nextLine_firstLine intact first
  refine ⟨t, ?_, still, left⟩
  rw [run_readLine read, same]
  simp [some]

end Source

theorem exists_firstLine {data : Bytes} (some : data ≠ []) : ∃ line rest, FirstLine data line rest := by
  by_cases mem : newline ∈ data
  · obtain ⟨line, rest, rfl, free⟩ := List.eq_append_cons_of_mem mem
    exact ⟨line, rest, .ended rest free⟩
  · exact ⟨data, [], .last some mem⟩

theorem FirstLine.unique {data line line' rest rest' : Bytes} (first : FirstLine data line rest)
    (other : FirstLine data line' rest') : line = line' ∧ rest = rest' := by
  generalize same : data = bytes at other
  cases first with
  | ended rest free =>
    cases other with
    | ended rest' free' => exact Source.first_newline free free' same
    | last some free' => exact absurd (same ▸ by simp) free'
  | last some free =>
    cases other with
    | ended rest' free' => exact absurd (same ▸ by simp) free
    | last some' free' => exact ⟨same, rfl⟩

end JvmAttach.Wire
