import JvmAttach.Proofs.ReplyGrammar

/-! Where readings of a stream that does not fail end. Each of them takes whole lines, and how many is told by
these lines alone, so that the next one begins with a line. What stands behind the two lines of a reply to a
load has no part in it. -/
namespace JvmAttach.Wire

open Act Text Source

namespace Reply

/-- What a reading takes off some bytes, and what it leaves. -/
inductive Takes : Reading → Bytes → Bytes → Prop
  | ended (reading : Reading) : Takes reading [] []
  | status {data line rest : Bytes} (first : FirstLine data line rest) : Takes .status data rest
  | unreadable {data line rest : Bytes} (first : FirstLine data line rest)
      (unwritten : ∀ status, ¬ Integer32 (trim (decode line)) status) : Takes .load data rest
  | refused {data rest : Bytes} {status : Int} (opens : Opens data status rest) (nonzero : status ≠ 0) :
      Takes .load data []
  | mute {data : Bytes} (opens : Opens data 0 []) : Takes .load data []
  | answered {data rest line back : Bytes} (opens : Opens data 0 rest) (second : FirstLine rest line back) :
      Takes .load data back

/-- A place where a line begins, or the end. -/
def Boundary (bytes : Bytes) (k : Nat) : Prop :=
  k = 0 ∨ k = bytes.length ∨ ∃ j, k = j + 1 ∧ bytes[j]? = some newline

/-- The places that readings reach one after the other, from a place on. -/
inductive Course (bytes : Bytes) : Nat → List Reading → List Nat → Prop
  | ended (k : Nat) : Course bytes k [] []
  | step {reading : Reading} {steps : List Reading} {k k' : Nat} {places : List Nat} (forward : k ≤ k')
      (inside : k' ≤ bytes.length) (takes : Takes reading (bytes.drop k) (bytes.drop k'))
      (others : Course bytes k' steps places) : Course bytes k (reading :: steps) (k' :: places)

variable {s t : Source} {data rest line back : Bytes} {reading : Reading} {k k' : Nat}

theorem state_act_status (s : Source) : (Reading.status.act.run s).state = (readStatus.run s).state :=
  state_bind_pure ..

theorem state_act_load (s : Source) : (Reading.load.act.run s).state = (readLoad.run s).state :=
  state_bind_pure ..

theorem takes_status (intact : Intact s) : Takes .status s.data (readStatus.run s).state.data := by
  by_cases nothing : s.data = []
  · obtain ⟨t, read, _, left⟩ := readLine_end intact nothing
    rw [run_readStatus_end read, nothing, left]
    exact .ended _
  obtain ⟨line, rest, first⟩ := exists_firstLine nothing
  obtain ⟨t, read, _, rfl⟩ := readLine_firstLine intact first
  cases written : integer (content line) with
  | ok status =>
    rw [run_readStatus_ok read written]
    exact .status first
  | error fault =>
    rw [run_readStatus_error read written]
    exact .status first

theorem takes_load (intact : Intact s) : Takes .load s.data (readLoad.run s).state.data := by
  by_cases nothing : s.data = []
  · obtain ⟨t, read, _, left⟩ := readLine_end intact nothing
    rw [readLoad, run_bind_error (run_readStatus_end read), nothing, left]
    exact .ended _
  obtain ⟨line, rest, first⟩ := exists_firstLine nothing
  by_cases written : ∃ status, Integer32 (trim (decode line)) status
  · obtain ⟨status, written⟩ := written
    have opens : Opens s.data status rest := ⟨line, first, written⟩
    by_cases zero : status = 0
    · subst zero
      by_cases ended : rest = []
      · subst ended
        obtain ⟨t, read, still, left⟩ := readStatus_opens intact opens
        obtain ⟨u, read', _, left'⟩ := readLine_end still left
        rw [run_readLoad_end read read', left']
        exact .mute opens
      · obtain ⟨second, back, next⟩ := exists_firstLine ended
        obtain ⟨t, read, left⟩ := readLoad_answered intact opens next
        rw [read, left]
        exact .answered opens next
    · obtain ⟨message, lines⟩ := exists_lines rest
      obtain ⟨t, read, left⟩ := readLoad_opens intact opens zero lines
      rw [read, left]
      exact .refused opens zero
  · obtain ⟨t, read, _, rfl⟩ := readLine_firstLine intact first
    obtain ⟨fault, none⟩ := integer_of_unwritten (not_exists.1 written)
    rw [readLoad, run_bind_error (run_readStatus_error read none)]
    exact .unreadable first (not_exists.1 written)

/-- Every reading takes what its kind takes, and leaves a stream that does not fail. -/
theorem takes_act (intact : Intact s) (reading : Reading) :
    Takes reading s.data (reading.act.run s).state.data ∧ Intact (reading.act.run s).state := by
  have still := (blind_act reading s s ⟨intact, intact, rfl⟩).2.2.intact
  cases reading with
  | status =>
    rw [state_act_status] at still ⊢
    exact ⟨takes_status intact, still⟩
  | load =>
    rw [state_act_load] at still ⊢
    exact ⟨takes_load intact, still⟩

/-- What stands before the rest of some bytes ends with a newline, unless there is no rest. -/
def Behind (data rest : Bytes) : Prop := rest = [] ∨ ∃ front, data = front ++ newline :: rest

theorem behind_firstLine (first : FirstLine data line rest) : Behind data rest := by
  cases first with
  | ended rest free => exact .inr ⟨line, rfl⟩
  | last some free => exact .inl rfl

theorem Behind.trans (first : Behind data rest) (second : Behind rest back) : Behind data back := by
  rcases second with nothing | ⟨middle, whole⟩
  · exact .inl nothing
  · rcases first with rfl | ⟨front, rfl⟩
    · simp at whole
    · exact .inr ⟨front ++ newline :: middle, by rw [whole, List.append_assoc, List.cons_append]⟩

theorem Behind.suffix (behind : Behind data rest) : rest <:+ data := by
  rcases behind with rfl | ⟨front, rfl⟩
  · exact List.nil_suffix
  · exact ⟨front ++ [newline], by simp⟩

theorem Takes.behind (takes : Takes reading data rest) : Behind data rest := by
  cases takes with
  | ended => exact .inl rfl
  | status first => exact behind_firstLine first
  | unreadable first unwritten => exact behind_firstLine first
  | refused opens nonzero => exact .inl rfl
  | mute opens => exact .inl rfl
  | answered opens second =>
    obtain ⟨first, top, _⟩ := opens
    exact (behind_firstLine top).trans (behind_firstLine second)

theorem exists_place (suffix : rest <:+ data.drop k) (inside : k ≤ data.length) :
    k ≤ data.length - rest.length ∧ data.drop (data.length - rest.length) = rest := by
  obtain ⟨front, whole⟩ := suffix
  have sizes := congrArg List.length whole
  rw [List.length_append, List.length_drop] at sizes
  refine ⟨by omega, ?_⟩
  rw [show data.length - rest.length = k + front.length by omega, ← List.drop_drop, ← whole, List.drop_left]

theorem Course.boundary {steps : List Reading} {places : List Nat} (course : Course data k steps places) :
    ∀ place ∈ places, Boundary data place := by
  induction course with
  | ended => exact nofun
  | @step reading steps k k' places forward inside takes others ih =>
    intro place mem
    rcases List.mem_cons.1 mem with rfl | mem
    · rcases takes.behind with nothing | ⟨front, whole⟩
      · rw [List.drop_eq_nil_iff] at nothing
        exact .inr (.inl (by omega))
      · have sizes := congrArg List.length whole
        rw [List.length_append, List.length_cons, List.length_drop, List.length_drop] at sizes
        refine .inr (.inr ⟨k + front.length, by omega, ?_⟩)
        rw [← List.getElem?_drop, whole, List.getElem?_append_right (Nat.le_refl _), Nat.sub_self,
          List.getElem?_cons_zero]
    · exact ih place mem

theorem course_of_readings (intact : Intact s) (steps : List Reading) {bytes : Bytes} (inside : k ≤ bytes.length)
    (left : s.data = bytes.drop k) : Course bytes k steps ((readings bytes.length steps s).map Prod.snd) := by
  induction steps generalizing s k with
  | nil => exact .ended k
  | cons reading steps ih =>
    obtain ⟨takes, still⟩ := takes_act intact reading
    rw [left] at takes
    obtain ⟨forward, place⟩ := exists_place takes.behind.suffix inside
    rw [← place] at takes
    rw [← size_eq_length_data] at takes forward place
    exact .step forward (Nat.sub_le _ _) takes (ih still (Nat.sub_le _ _) place.symm)

/-- Readings take whole lines, and of a reply to a load with a status of zero two of them, so that what stands
behind these has no part in what the reply comes to. -/
theorem places_of_readings (intact : Intact s) (steps : List Reading) :
    let places := (readings s.data.length steps s).map Prod.snd
    Course s.data 0 steps places ∧ (∀ place ∈ places, Boundary s.data place) ∧
    ∀ (t : Source) (first second back back' : Bytes), Intact t → newline ∉ first → newline ∉ second →
      Integer32 (trim (decode first)) 0 → s.data = first ++ newline :: (second ++ newline :: back) →
      t.data = first ++ newline :: (second ++ newline :: back') →
      (readLoad.run s).outcome = (readLoad.run t).outcome := by
  intro places
  have course : Course s.data 0 steps places := course_of_readings intact steps (Nat.zero_le _) rfl
  refine ⟨course, course.boundary, fun t first second back back' intact' free free' zero whole whole' => ?_⟩
  have opens : Opens s.data 0 (second ++ newline :: back) := ⟨first, whole ▸ .ended _ free, zero⟩
  have opens' : Opens t.data 0 (second ++ newline :: back') := ⟨first, whole' ▸ .ended _ free, zero⟩
  obtain ⟨u, read, _⟩ := readLoad_answered intact opens (.ended back free')
  obtain ⟨u', read', _⟩ := readLoad_answered intact' opens' (.ended back' free')
  rw [read, read']

/-- A reply, a status, a line that is neither and the refusal of a load, cut within the third. -/
def piecemeal : Source := [.bytes (bytesOf "0\n0\n12\nx"), .interrupted, .bytes (bytesOf "\n5\nrest")]

theorem places_of_piecemeal :
    Intact piecemeal ∧ Course piecemeal.data 0 [.load, .status, .load, .load, .status] [4, 7, 9, 15, 15] ∧
    (readLoad.run piecemeal).outcome = (readLoad.run [.bytes (bytesOf "0\n0\n")]).outcome := by
  have intact : Intact piecemeal := by simp [Intact, piecemeal]
  have alone : Intact [.bytes (bytesOf "0\n0\n")] := by simp [Intact]
  obtain ⟨course, -, same⟩ := places_of_readings intact [.load, .status, .load, .load, .status]
  have places : (readings piecemeal.data.length [.load, .status, .load, .load, .status] piecemeal).map Prod.snd =
      [4, 7, 9, 15, 15] := by decide +kernel
  rw [places] at course
  refine ⟨intact, course, same _ (bytesOf "0") (bytesOf "0") (bytesOf "12\nx\n5\nrest") [] alone ?_ ?_ ?_ ?_ ?_⟩
  · decide +kernel
  · decide +kernel
  · exact (integer32_eq_ok_iff _ _).1 (by decide +kernel)
  · decide +kernel
  · decide +kernel

end Reply

end JvmAttach.Wire
