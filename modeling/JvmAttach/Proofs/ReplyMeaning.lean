import JvmAttach.Proofs.Arrivals
import JvmAttach.Proofs.Decoding
import JvmAttach.Proofs.Numeral
import JvmAttach.Proofs.Trimming
import JvmAttach.Wire.Reply

/-! What a reply to a load means. Its text is that of whole lines; the ends of lines that reading
takes off are blank, so that they play no part in the integers. -/
namespace JvmAttach.Wire

open Text

namespace Source

theorem exists_end (line : Bytes) : ∃ ends, line = withoutEnd line ++ ends ∧ ∀ b ∈ ends, isLineEnd b := by
  refine ⟨(line.reverse.takeWhile isLineEnd).reverse, ?_, ?_⟩
  · rw [withoutEnd, ← List.reverse_append, List.takeWhile_append_dropWhile, List.reverse_reverse]
  · intro b mem
    exact List.mem_takeWhile_imp (List.mem_reverse.1 mem)

theorem decode_line (line : Bytes) :
    ∃ ends, decode line = content line ++ ends ∧ ∀ c ∈ ends, c = '\r' ∨ c = '\n' := by
  obtain ⟨ends, whole, closing⟩ := exists_end line
  have kinds : ∀ b ∈ ends, b = carriageReturn ∨ b = newline := by
    intro b mem
    have := closing b mem
    simp only [isLineEnd, Bool.or_eq_true, beq_iff_eq] at this
    exact this.symm
  refine ⟨ends.map fun b => Char.ofNat b.toNat, ?_, ?_⟩
  · have ascii : ∀ b ∈ ends, b < 0x80 := by
      intro b mem
      rcases kinds b mem with rfl | rfl <;> decide
    rw [content, ← decode_append_ascii _ _ ascii, ← whole]
  · intro c mem
    obtain ⟨b, inside, rfl⟩ := List.mem_map.1 mem
    rcases kinds b inside with rfl | rfl
    · exact .inl rfl
    · exact .inr rfl

end Source

namespace Reply

open Source

theorem blank_ends {ends : List Char} (kinds : ∀ c ∈ ends, c = '\r' ∨ c = '\n') :
    ∀ c ∈ ends, isBlank c := by
  intro c mem
  rcases kinds c mem with rfl | rfl <;> decide

theorem integer_content (line : Bytes) : integer (content line) = integer32 (trim (decode line)) := by
  obtain ⟨ends, whole, kinds⟩ := decode_line line
  rw [integer, whole, trim_append_blank _ (blank_ends kinds)]

theorem isPrefixOf_append {head s ends : List Char} (apart : ∀ c ∈ ends, c ∉ head) :
    head.isPrefixOf (s ++ ends) = head.isPrefixOf s := by
  rw [Bool.eq_iff_iff, List.isPrefixOf_iff_prefix, List.isPrefixOf_iff_prefix]
  constructor
  · intro long
    rcases List.prefix_or_prefix_of_prefix long (List.prefix_append s ends) with short | ⟨more, rfl⟩
    · exact short
    · cases more with
      | nil => simp
      | cons c more =>
        obtain ⟨rest, whole⟩ := long
        have mem : c ∈ ends := by
          rw [List.append_assoc, List.append_cancel_left_eq] at whole
          rw [← whole]; simp
        exact absurd (by simp) (apart c mem)
  · exact fun short => short.trans (List.prefix_append s ends)

theorem withoutLabel_append {s ends : List Char} (apart : ∀ c ∈ ends, c ∉ resultLabel) :
    withoutLabel (s ++ ends) = withoutLabel s ++ ends := by
  simp only [withoutLabel, isPrefixOf_append apart]
  split
  · rename_i labelled
    have short := (List.isPrefixOf_iff_prefix.1 labelled).length_le
    exact List.drop_append_of_le_length short
  · rfl

theorem integer_withoutLabel_content (line : Bytes) :
    integer (withoutLabel (content line)) = integer32 (trim (withoutLabel (decode line))) := by
  obtain ⟨ends, whole, kinds⟩ := decode_line line
  have apart : ∀ c ∈ ends, c ∉ resultLabel := by
    intro c mem
    rcases kinds c mem with rfl | rfl <;> decide
  rw [integer, whole, withoutLabel_append apart, trim_append_blank _ (blank_ends kinds)]

/-- A reply whose first line is the integer zero and whose second line, without the label if it
begins with one, is the integer `code`. -/
def Returns (data : Bytes) (code : Int) : Prop :=
  ∃ first rest second back, FirstLine data first rest ∧ Integer32 (trim (decode first)) 0 ∧
    FirstLine rest second back ∧ Integer32 (trim (withoutLabel (decode second))) code

theorem run_readLine {s t : Source} {line : Option (List Char)}
    (read : Source.readLine.run s = ⟨.ok line, t, []⟩) : readLine.run s = ⟨.ok line, t, []⟩ := by
  simp only [readLine, Act.mapError, read]

theorem run_readStatus_ok {s t : Source} {line : List Char} {status : Int}
    (read : Source.readLine.run s = ⟨.ok (some line), t, []⟩) (written : integer line = .ok status) :
    readStatus.run s = ⟨.ok status, t, []⟩ := by
  rw [readStatus, Act.run_bind_ok (run_readLine read)]
  simp only [written, Act.run_pure, List.append_nil]

theorem run_readStatus_error {s t : Source} {line : List Char} {fault : NumeralFault}
    (read : Source.readLine.run s = ⟨.ok (some line), t, []⟩) (unwritten : integer line = .error fault) :
    readStatus.run s = ⟨.error (notNumeric line), t, []⟩ := by
  rw [readStatus, Act.run_bind_ok (run_readLine read)]
  simp only [unwritten, Act.run_fail, List.append_nil]

theorem run_readStatus_end {s t : Source} (read : Source.readLine.run s = ⟨.ok none, t, []⟩) :
    readStatus.run s = ⟨.error prematureEnd, t, []⟩ := by
  rw [readStatus, Act.run_bind_ok (run_readLine read)]
  simp only [Act.run_fail, List.append_nil]

/-- Whatever a status other than zero comes with, it is not the error that counts as success. -/
theorem failure_not_ignorable (status : Int) (text : List Char) : (failure status text).isIgnorable = false := by
  by_cases other : status = versionMismatch
  · simp only [failure, other, ↓reduceIte, mismatch, AttachFault.isIgnorable]
  · simp only [failure, other, ↓reduceIte, AttachFault.isIgnorable]

/-- What a status other than zero comes to with what is read behind it. -/
def refusalOf (status : Int) : Except SystemFault (List Char) → AttachFault
  | .ok text => failure status text
  | .error fault => .io fault

theorem run_readLoad_refused {s t : Source} {status : Int} (read : readStatus.run s = ⟨.ok status, t, []⟩)
    (failed : status ≠ 0) : readLoad.run s = ⟨.error (refusalOf status t.remaining.1), t.remaining.2, []⟩ := by
  rcases left : remaining t with ⟨result, u⟩
  rw [readLoad, Act.run_bind_ok read, if_pos failed]
  cases result with
  | error fault =>
    have broke : (Source.readRemaining.mapError AttachFault.io).run t = ⟨.error (.io fault), u, []⟩ := by
      simp only [readRemaining, reading, Act.mapError, left]
    rw [Act.run_bind_error broke]
    rfl
  | ok text =>
    have whole : (Source.readRemaining.mapError AttachFault.io).run t = ⟨.ok text, u, []⟩ := by
      simp only [readRemaining, reading, Act.mapError, left]
    rw [Act.run_bind_ok whole]
    rfl

theorem run_readLoad_failed {s t : Source} {status : Int} (read : readStatus.run s = ⟨.ok status, t, []⟩)
    (failed : status ≠ 0) :
    ∃ fault u, readLoad.run s = ⟨.error fault, u, []⟩ ∧ fault.isIgnorable = false := by
  refine ⟨_, _, run_readLoad_refused read failed, ?_⟩
  cases t.remaining.1 with
  | error fault => rfl
  | ok text => exact failure_not_ignorable status text

theorem run_readLoad_zero {s t u : Source} {line : List Char} (zero : readStatus.run s = ⟨.ok 0, t, []⟩)
    (read : Source.readLine.run t = ⟨.ok (some line), u, []⟩) :
    readLoad.run s = ⟨.ofExcept (result line), u, []⟩ := by
  rw [readLoad, Act.run_bind_ok zero, if_neg (by simp), Act.run_bind_ok (run_readLine read)]
  simp only [Act.run_ofExcept, List.append_nil]

theorem run_readLoad_end {s t u : Source} (zero : readStatus.run s = ⟨.ok 0, t, []⟩)
    (read : Source.readLine.run t = ⟨.ok none, u, []⟩) :
    readLoad.run s = ⟨.error noResponse, u, []⟩ := by
  rw [readLoad, Act.run_bind_ok zero, if_neg (by simp), Act.run_bind_ok (run_readLine read)]
  rfl

/-- What a load comes to whose entry point returned `code`. -/
def returned (code : Int) : Except AttachFault Unit :=
  if code = 0 then .ok () else .error (.agentInitialization AttachFault.entryPointFailed code)

/-- What a reply says of a load. Without a code it is an error, and never the one that counts as
success. -/
inductive Meant (data : Bytes) : Except AttachFault Unit → Prop
  | returns {code : Int} (returns : Returns data code) : Meant data (returned code)
  | fails {fault : AttachFault} (other : ∀ code, ¬ Returns data code)
      (serious : fault.isIgnorable = false) : Meant data (.error fault)

theorem result_of_integer {line : List Char} {code : Int} (written : integer (withoutLabel line) = .ok code) :
    result line = returned code := by
  simp only [result, written]
  by_cases zero : code = 0
  · subst zero
    rfl
  · split
    · rename_i same
      cases same
    · rename_i same
      exact absurd (Except.ok.inj same) zero
    · rename_i same
      cases same
      simp only [returned, zero, ↓reduceIte]

theorem result_of_text {line : List Char} {fault : NumeralFault}
    (unwritten : integer (withoutLabel line) = .error fault) :
    result line = .error (.agentLoad (String.ofList line)) := by
  simp only [result, unwritten]

theorem readStatus_firstLine {s : Source} (intact : Intact s) {line rest : Bytes}
    (first : FirstLine (data s) line rest) :
    (∃ status t, Integer32 (trim (decode line)) status ∧ readStatus.run s = ⟨.ok status, t, []⟩ ∧
      Intact t ∧ data t = rest) ∨
    (∀ status, ¬ Integer32 (trim (decode line)) status) ∧
      ∃ t, readStatus.run s = ⟨.error (notNumeric (content line)), t, []⟩ := by
  obtain ⟨t, read, still, left⟩ := readLine_firstLine intact first
  cases written : integer (content line) with
  | ok status =>
    refine .inl ⟨status, t, ?_, run_readStatus_ok read written, still, left⟩
    rwa [integer_content, integer32_eq_ok_iff] at written
  | error fault =>
    refine .inr ⟨fun status meant => ?_, t, run_readStatus_error read written⟩
    rw [← integer32_eq_ok_iff, ← integer_content, written] at meant
    cases meant

theorem readLoad_returns {s : Source} (intact : Intact s) {code : Int} (returns : Returns (data s) code) :
    ∃ t, readLoad.run s = ⟨.ofExcept (returned code), t, []⟩ := by
  obtain ⟨first, rest, second, back, top, zero, next, meant⟩ := returns
  obtain ⟨t, read, still, left⟩ := readLine_firstLine intact top
  rw [← integer32_eq_ok_iff, ← integer_content] at zero
  have status := run_readStatus_ok read zero
  rw [← left] at next
  obtain ⟨u, read', _, _⟩ := readLine_firstLine still next
  rw [← integer32_eq_ok_iff, ← integer_withoutLabel_content] at meant
  exact ⟨u, by rw [run_readLoad_zero status read', result_of_integer meant]⟩

theorem readLoad_fails {s : Source} (intact : Intact s) (other : ∀ code, ¬ Returns (data s) code) :
    ∃ fault t, readLoad.run s = ⟨.error fault, t, []⟩ ∧ fault.isIgnorable = false := by
  by_cases none : data s = []
  · obtain ⟨t, read, _, _⟩ := readLine_end intact none
    have status := run_readStatus_end read
    rw [readLoad, Act.run_bind_error status]
    exact ⟨prematureEnd, t, rfl, rfl⟩
  obtain ⟨first, rest, top⟩ := exists_firstLine none
  rcases readStatus_firstLine intact top with ⟨status, t, meant, read, still, left⟩ | ⟨_, t, read⟩
  · by_cases zero : status = 0
    · subst zero
      by_cases ended : rest = []
      · obtain ⟨u, read', _, _⟩ := readLine_end still (left.trans ended)
        exact ⟨noResponse, u, run_readLoad_end read read', rfl⟩
      obtain ⟨second, back, next⟩ := exists_firstLine ended
      obtain ⟨u, read', _, _⟩ := readLine_firstLine still (left.symm ▸ next)
      rw [run_readLoad_zero read read']
      cases written : integer (withoutLabel (content second)) with
      | ok code =>
        rw [integer_withoutLabel_content, integer32_eq_ok_iff] at written
        exact absurd ⟨first, rest, second, back, top, meant, next, written⟩ (other code)
      | error fault =>
        rw [result_of_text written]
        exact ⟨.agentLoad (String.ofList (content second)), u, rfl, rfl⟩
    · exact run_readLoad_failed read zero
  · rw [readLoad, Act.run_bind_error read]
    exact ⟨notNumeric (content first), t, rfl, rfl⟩

theorem readLoad_meant {s : Source} (intact : Intact s) :
    ∃ said t, readLoad.run s = ⟨.ofExcept said, t, []⟩ ∧ Meant (data s) said := by
  by_cases some : ∃ code, Returns (data s) code
  · obtain ⟨code, returns⟩ := some
    obtain ⟨t, read⟩ := readLoad_returns intact returns
    exact ⟨returned code, t, read, .returns returns⟩
  · obtain ⟨fault, t, read, serious⟩ := readLoad_fails intact (not_exists.1 some)
    exact ⟨.error fault, t, read, .fails (not_exists.1 some) serious⟩

theorem Returns.unique {data : Bytes} {code code' : Int} (returns : Returns data code)
    (other : Returns data code') : code = code' := by
  obtain ⟨first, rest, second, back, top, _, next, meant⟩ := returns
  obtain ⟨first', rest', second', back', top', _, next', meant'⟩ := other
  obtain ⟨rfl, rfl⟩ := top.unique top'
  obtain ⟨rfl, rfl⟩ := next.unique next'
  rw [← integer32_eq_ok_iff] at meant meant'
  exact Except.ok.inj (meant.symm.trans meant')

end Reply

end JvmAttach.Wire
