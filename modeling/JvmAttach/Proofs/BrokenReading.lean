import JvmAttach.Proofs.ReplyGrammar

/-! Readings of a stream that fails once. A reading that ends before the failure is the one that it would be
without it. Any other ends in the failure, and what it has taken by then counts for nothing. -/
namespace JvmAttach.Wire

open Act

variable {ε δ α β : Type} {s t front back : Source} {fault : SystemFault}

namespace Source

theorem data_append (s t : Source) : data (s ++ t) = data s ++ data t := by
  induction s with
  | nil => rfl
  | cons a s ih => cases a <;> simp [data, ih]

theorem Intact.append (intact : Intact s) (intact' : Intact t) : Intact (s ++ t) := by
  intro fault mem
  rcases List.mem_append.1 mem with before | behind
  · exact intact fault before
  · exact intact' fault behind

theorem intact_byte (b : UInt8) : Intact [.bytes [b]] := by
  intro fault mem
  cases List.mem_singleton.1 mem

/-- A line that ends within the first part of a stream is read whatever follows that part. -/
theorem nextLine_inside (intact : Intact front) (mem : newline ∈ front.data) :
    ∃ (line : Bytes) (rest : Source), line ≠ [] ∧ Intact rest ∧ front.data = line ++ rest.data ∧
      ∀ tail, nextLine (front ++ tail) = (.ok line, rest ++ tail) := by
  induction front with
  | nil => cases mem
  | cons a front ih =>
    cases a with
    | interrupted => exact ih intact.tail mem
    | failed fault => exact absurd List.mem_cons_self (intact fault)
    | bytes stretch =>
      by_cases inside : newline ∈ stretch
      · obtain ⟨line, more, rfl, free⟩ := List.eq_append_cons_of_mem inside
        refine ⟨line ++ [newline], .bytes more :: front, by simp, ?_, by simp [data], fun tail => ?_⟩
        · intro fault failed
          exact intact.tail fault (by simpa using failed)
        · simp only [List.cons_append, nextLine, fromNewline_append free, fromNewline_newline,
            upToNewline_append free, upToNewline_newline, List.append_nil]
      · have later : newline ∈ data front := (List.mem_append.1 mem).resolve_left inside
        obtain ⟨line, rest, some, still, whole, read⟩ := ih intact.tail later
        refine ⟨stretch ++ line, rest, by simp [some], still, by simp [data, whole], fun tail => ?_⟩
        simp only [List.cons_append, nextLine_bytes inside, read, Except.map]

/-- Any other line begins with all of the first part. -/
theorem nextLine_across (intact : Intact front) (free : newline ∉ front.data) (tail : Source) :
    nextLine (front ++ tail) = ((nextLine tail).1.map (front.data ++ ·), (nextLine tail).2) := by
  induction front with
  | nil =>
    rw [List.nil_append]
    rcases nextLine tail with ⟨line | line, rest⟩ <;> rfl
  | cons a front ih =>
    cases a with
    | interrupted => exact ih intact.tail free
    | failed fault => exact absurd List.mem_cons_self (intact fault)
    | bytes stretch =>
      simp only [data, List.mem_append, not_or] at free
      simp only [List.cons_append, nextLine_bytes free.1, ih intact.tail free.2]
      rcases nextLine tail with ⟨line | line, rest⟩ <;> simp [Except.map, data]

theorem size_nextLine_le (s : Source) : (nextLine s).2.size ≤ s.size := by
  induction s with
  | nil => exact Nat.le_refl 0
  | cons a s ih =>
    cases a with
    | interrupted => exact ih
    | failed fault => exact Nat.le_refl _
    | bytes stretch =>
      have whole := congrArg List.length (upToNewline_append_fromNewline stretch)
      simp only [nextLine]
      split
      · simp only [size]; omega
      · next stop back found =>
        rw [found] at whole
        simp only [List.length_append, List.length_cons] at whole
        simp only [size]; omega

theorem size_nextLine_lt (intact : Intact s) (some : s.data ≠ []) : (nextLine s).2.size < s.size := by
  obtain ⟨line, rest, first⟩ := exists_firstLine some
  obtain ⟨whole, t, read, _, _, _, left⟩ := nextLine_firstLine intact first
  rw [read, size_eq_length_data, size_eq_length_data, left]
  generalize s.data = bytes at first
  cases first with
  | ended rest free => simp only [List.length_append, List.length_cons]; omega
  | last some free => exact List.length_pos_iff.2 some

theorem remaining_error (read : s.nextLine = (.error fault, t)) : s.remaining = (.error fault, t) := by
  cases s with
  | nil => cases read
  | cons a s => rw [remaining]; simp only [read]

theorem size_remaining_le (s : Source) : s.remaining.2.size ≤ s.size := by
  fun_induction remaining s with
  | case1 => exact Nat.le_refl 0
  | case2 a s fault failed => exact size_nextLine_le (a :: s)
  | case3 a s line read ended => exact size_nextLine_le (a :: s)
  | case4 a s line read some more ih => exact Nat.le_trans ih (size_nextLine_le (a :: s))

/-- What reading does with a stream in which something stands behind a first part. It ends before that,
whatever stands there and follows. Or it comes to it: then a failure there is its own, and where nothing bars
the way it takes some of what follows. -/
inductive Comes (wrap : SystemFault → ε) (act : Act ε Source α) (front : Source) : Prop
  | short {outcome : Outcome ε α} {rest : Source} (intact : Intact rest)
      (ends : ∀ stop back, act.run (front ++ stop :: back) = ⟨outcome, rest ++ stop :: back, []⟩) :
      Comes wrap act front
  | across (fails : ∀ fault back, (act.run (front ++ .failed fault :: back)).outcome = .error (wrap fault))
      (takes : ∀ back, Intact back → back.data ≠ [] →
        (act.run (front ++ .interrupted :: back)).state.size < back.size) :
      Comes wrap act front

/-- Reading puts nothing back, and does not pass over a failure. -/
structure Heeds (wrap : SystemFault → ε) (act : Act ε Source α) : Prop where
  taking : Leads (fun s t => t.size ≤ s.size) act
  coming : ∀ front, Intact front → Comes wrap act front

theorem lasting_size : Lasting fun s t : Source => t.size ≤ s.size where
  refl _ := Nat.le_refl _
  trans first second := Nat.le_trans second first

namespace Heeds

variable {wrap : SystemFault → ε} {act : Act ε Source α}

theorem pure (a : α) : Heeds wrap (Pure.pure a : Act ε Source α) where
  taking := .pure lasting_size a
  coming _ intact := .short intact fun _ _ => rfl

theorem fail (e : ε) : Heeds wrap (Act.fail e : Act ε Source α) where
  taking := .fail lasting_size e
  coming _ intact := .short intact fun _ _ => rfl

theorem ofExcept (result : Except ε α) : Heeds wrap (Act.ofExcept result : Act ε Source α) := by
  cases result with
  | ok a => exact .pure a
  | error e => exact .fail e

theorem bind {next : α → Act ε Source β} (first : Heeds wrap act) (second : ∀ a, Heeds wrap (next a)) :
    Heeds wrap (act >>= next) where
  taking := .bind lasting_size first.taking fun a => (second a).taking
  coming front intact := by
    cases first.coming front intact with
    | @short outcome rest still ends =>
      cases outcome with
      | ok a =>
        cases (second a).coming rest still with
        | short still' ends' =>
          exact .short still' fun stop back => by rw [run_bind_ok (ends stop back), ends']; rfl
        | across fails takes =>
          refine .across (fun fault back => ?_) fun back intact some => ?_
          · rw [run_bind_ok (ends _ back)]
            exact fails fault back
          · rw [run_bind_ok (ends _ back)]
            exact takes back intact some
      | error e => exact .short still fun stop back => run_bind_error (ends stop back) next
      | crashed message => exact .short still fun stop back => run_bind_crashed (ends stop back) next
      | aborted => exact .short still fun stop back => run_bind_aborted (ends stop back) next
    | across fails takes =>
      refine .across (fun fault back => ?_) fun back intact some => ?_
      · rcases ran : act.run (front ++ .failed fault :: back) with ⟨outcome, t, log⟩
        have failed := fails fault back
        rw [ran] at failed
        obtain rfl : outcome = .error (wrap fault) := failed
        rw [run_bind_error ran]
      · exact Nat.lt_of_le_of_lt (Leads.behind lasting_size (fun a => (second a).taking) _)
          (takes back intact some)

theorem mapError {wrap : SystemFault → δ} {act : Act δ Source α} (f : δ → ε) (heeds : Heeds wrap act) :
    Heeds (fun fault => f (wrap fault)) (act.mapError f) where
  taking := .mapError f heeds.taking
  coming front intact := by
    cases heeds.coming front intact with
    | @short outcome rest still ends =>
      cases outcome with
      | ok a => exact .short still fun stop back => run_mapError_ok (ends stop back) f
      | error e =>
        have fails (stop : Arrival) (back : Source) : (act.mapError f).run (front ++ stop :: back) =
            ⟨.error (f e), rest ++ stop :: back, []⟩ := by simp only [Act.mapError, ends]
        exact .short still fails
      | crashed message => exact .short still fun stop back => run_mapError_crashed (ends stop back) f
      | aborted => exact .short still fun stop back => run_mapError_aborted (ends stop back) f
    | across fails takes =>
      refine .across (fun fault back => ?_) fun back intact some => ?_
      · simp only [Act.mapError, fails]
      · have taken := takes back intact some
        simp only [Act.mapError]
        cases (act.run (front ++ .interrupted :: back)).outcome <;> exact taken

theorem reading {f : Source → Except SystemFault α × Source} (taking : ∀ s, (f s).2.size ≤ s.size)
    (coming : ∀ front, Intact front →
      (∃ a rest, Intact rest ∧ ∀ tail, f (front ++ tail) = (.ok a, rest ++ tail)) ∨
      (∀ fault back, (f (front ++ .failed fault :: back)).1 = .error fault) ∧
        ∀ back, Intact back → back.data ≠ [] → (f (front ++ .interrupted :: back)).2.size < back.size) :
    Heeds (fun fault => fault) (reading f) := by
  have state (s : Source) : ((Source.reading f).run s).state = (f s).2 := by
    simp only [Source.reading]
    split <;> rename_i read <;> rw [read]
  refine ⟨fun s => ?_, fun front intact => ?_⟩
  · rw [state]
    exact taking s
  · rcases coming front intact with ⟨a, rest, still, read⟩ | ⟨fails, takes⟩
    · have ends (stop : Arrival) (back : Source) : (Source.reading f).run (front ++ stop :: back) =
          ⟨.ok a, rest ++ stop :: back, []⟩ := by simp only [Source.reading, read]
      exact .short still ends
    · refine .across (fun fault back => ?_) fun back whole some => ?_
      · have failed := fails fault back
        simp only [Source.reading]
        split <;> rename_i read <;> rw [read] at failed <;> cases failed
        rfl
      · rw [state]
        exact takes back whole some

end Heeds

theorem heeds_nextLine : Heeds (fun fault => fault) (reading nextLine) := by
  refine .reading size_nextLine_le fun front intact => ?_
  by_cases mem : newline ∈ front.data
  · obtain ⟨line, rest, _, still, _, read⟩ := nextLine_inside intact mem
    exact .inl ⟨line, rest, still, read⟩
  · have across := nextLine_across intact mem
    refine .inr ⟨fun fault back => by rw [across]; rfl, fun back whole some => ?_⟩
    have taken : (nextLine back).2.size < back.size := size_nextLine_lt whole some
    rw [across]
    exact taken

theorem heeds_readLine : Heeds (fun fault => fault) readLine := .bind heeds_nextLine fun _ => .pure _

theorem remaining_over (intact : Intact front) :
    (∀ fault back, (remaining (front ++ .failed fault :: back)).1 = .error fault) ∧
      ∀ back, Intact back → back.data ≠ [] → (remaining (front ++ .interrupted :: back)).2.size < back.size := by
  -- each line that ends before the failure leaves a shorter part in front of it
  induction size : front.data.length using Nat.strongRecOn generalizing front with
  | _ n ih =>
    by_cases mem : newline ∈ front.data
    · obtain ⟨line, rest, some, still, whole, read⟩ := nextLine_inside intact mem
      have fewer : rest.data.length < n := by
        have long := List.length_pos_iff.2 some
        rw [← size, whole, List.length_append]
        omega
      obtain ⟨fails, takes⟩ := ih _ fewer still rfl
      refine ⟨fun fault back => ?_, fun back intact' more => ?_⟩
      · rw [remaining_line some (read _), fails]
        rfl
      · rw [remaining_line some (read _)]
        exact takes back intact' more
    · have across := nextLine_across intact mem
      refine ⟨fun fault back => ?_, fun back intact' more => ?_⟩
      · rw [remaining_error (across _)]
      · have taken : (nextLine back).2.size < back.size := size_nextLine_lt intact' more
        rcases read : nextLine (front ++ .interrupted :: back) with ⟨line | line, t⟩
        all_goals
          have left := congrArg Prod.snd ((across (.interrupted :: back)).symm.trans read)
          obtain rfl : (nextLine back).2 = t := left
        · rw [remaining_error read]
          exact taken
        · by_cases ended : line = []
          · subst ended
            rw [remaining_end read]
            exact taken
          · rw [remaining_line ended read]
            exact Nat.lt_of_le_of_lt (size_remaining_le _) taken

theorem heeds_readRemaining : Heeds (fun fault => fault) readRemaining :=
  .reading size_remaining_le fun _ intact => .inr (remaining_over intact)

theorem Alike.size (alike : Alike s t) : s.size = t.size := by
  rw [size_eq_length_data, size_eq_length_data, alike.same]

theorem alike_interrupted (intact : Intact front) (intact' : Intact back) (whole : Intact t)
    (same : t.data = front.data ++ back.data) : Alike t (front ++ .interrupted :: back) where
  intact := whole
  intact' := intact.append fun fault mem => intact' fault (by simpa using mem)
  same := by rw [same, data_append]; rfl

theorem data_stretches (n : Nat) (bytes : Bytes) : (stretches n bytes).data = bytes := by
  fun_induction stretches n bytes with
  | case1 bytes nothing => exact (List.isEmpty_iff.1 nothing).symm
  | case2 bytes some once => exact List.append_nil bytes
  | case3 bytes some more ih => rw [data, ih, List.take_append_drop]

theorem intact_stretches (n : Nat) (bytes : Bytes) : Intact (stretches n bytes) := by
  intro fault mem
  fun_induction stretches n bytes with
  | case1 bytes nothing => cases mem
  | case2 bytes some once => cases List.mem_singleton.1 mem
  | case3 bytes some more ih => exact ih ((List.mem_cons.1 mem).resolve_left nofun)

end Source

open Source

namespace Reply

theorem heeds_readLine : Heeds AttachFault.io readLine := Source.heeds_readLine.mapError _

theorem heeds_readStatus : Heeds AttachFault.io readStatus := by
  refine .bind heeds_readLine fun line => ?_
  split
  · exact .fail _
  · split
    · exact .fail _
    · exact .pure _

theorem heeds_readLoad : Heeds AttachFault.io readLoad := by
  refine .bind heeds_readStatus fun status => ?_
  split
  · exact .bind (Source.heeds_readRemaining.mapError _) fun text => .fail _
  · refine .bind heeds_readLine fun line => ?_
    split
    · exact .fail _
    · exact .ofExcept _

theorem sound_readLoad (intact : Intact s) (fault : SystemFault) :
    (readLoad.run s).outcome ≠ .error (.io fault) := by
  intro failed
  have tells : Tells s.data (.error (.io fault)) := (outcome_readLoad_iff intact).1 failed
  cases tells

/-- Reading has run into the end of a stream: any byte that came behind it would be taken as well. -/
def RunsOut (s : Source) : Prop := ∀ b, (readLoad.run (s ++ [.bytes [b]])).state.size = 0

/-- Reading fails once, the first time that it asks for what is behind the first `k` bytes. A stream that ends
before that does not fail. -/
inductive FailsOnce (fault : SystemFault) (k : Nat) : Source → Prop
  | within {front back : Source} (intact : Intact front) (intact' : Intact back)
      (place : front.data.length = k) : FailsOnce fault k (front ++ .failed fault :: back)
  | never {s : Source} (intact : Intact s) (ended : s.data.length < k) : FailsOnce fault k s

theorem data_broken (n k : Nat) (fault : SystemFault) (bytes : Bytes) :
    (broken n k (.failed fault) bytes).data = bytes := by
  rw [broken]
  split
  · exact data_stretches n bytes
  · rw [data_append, data, data_stretches, data_stretches, List.take_append_drop]

theorem failsOnce_broken (n k : Nat) (fault : SystemFault) (bytes : Bytes) :
    FailsOnce fault k (broken n k (.failed fault) bytes) := by
  rw [broken]
  split <;> rename_i short
  · exact .never (intact_stretches n bytes) (by rwa [data_stretches])
  · refine .within (intact_stretches _ _) (intact_stretches _ _) ?_
    rw [data_stretches, List.length_take]
    omega

/-- A reading that would take bytes behind a failure, or that would run into the end there, fails. Any other
does not come to the failure. -/
theorem failing_or_same (fault : SystemFault) (intact : Intact front) (intact' : Intact back)
    (whole : Intact t) (same : t.data = front.data ++ back.data) :
    let broken := readLoad.run (front ++ .failed fault :: back)
    let plain := readLoad.run t
    (broken.outcome = .error (.io fault) ∧ (plain.state.size < back.size ∨ RunsOut t)) ∨
    (broken.outcome = plain.outcome ∧ broken.state.size = plain.state.size ∧ back.size ≤ plain.state.size ∧
      ¬ RunsOut t) := by
  intro broken plain
  have alike := alike_interrupted intact intact' whole same
  obtain ⟨ended, _, left⟩ := blind_readLoad _ _ alike
  have further (b : UInt8) : Alike (t ++ [.bytes [b]]) (front ++ .interrupted :: (back ++ [.bytes [b]])) := by
    refine alike_interrupted intact (intact'.append (intact_byte b)) (whole.append (intact_byte b)) ?_
    rw [data_append, data_append, same, List.append_assoc]
  have longer (b : UInt8) := (blind_readLoad _ _ (further b)).2.2.size
  cases heeds_readLoad.coming front intact with
  | @short outcome rest still ends =>
    have kept (back : Source) : (rest ++ .interrupted :: back).size = rest.size + back.size := size_append _ _
    have resting : (rest ++ .failed fault :: back).size = rest.size + back.size := size_append _ _
    rw [ends] at ended left
    have rested := left.size
    rw [kept] at rested
    refine .inr ⟨?_, ?_, ?_, fun runsOut => ?_⟩
    · rw [show broken = _ from ends _ back]
      exact ended.symm
    · rw [show broken = _ from ends _ back]
      exact resting.trans rested.symm
    · exact rested ▸ Nat.le_add_left _ _
    · have none := runsOut 0
      rw [longer, ends, kept, size_append] at none
      simp only [size, List.length_cons] at none
      omega
  | across fails takes =>
    refine .inl ⟨fails fault back, ?_⟩
    by_cases more : back.data = []
    · refine .inr fun b => ?_
      have taken : _ < (back ++ [Arrival.bytes [b]]).size :=
        takes (back ++ [.bytes [b]]) (intact'.append (intact_byte b)) (by simp [data_append, data])
      have one : (back ++ [Arrival.bytes [b]]).size = 1 := by
        rw [size_eq_length_data, data_append, more]
        rfl
      rw [longer]
      omega
    · refine .inl ?_
      have taken := takes back intact' more
      rwa [← left.size] at taken

/-- A failure is never taken for a reply. Either it is the error of reading, or reading comes to what it would
come to without it, and takes as much. It is the error where the plain reading would take a byte from behind
the failure, or would run into the end of the stream. -/
theorem readLoad_of_failsOnce {k : Nat} {bytes : Bytes} (fails : FailsOnce fault k s) (whole : s.data = bytes)
    (intact : Intact t) (same : t.data = bytes) :
    let broken := readLoad.run s
    let plain := readLoad.run t
    let taken := bytes.length - plain.state.size
    (broken.outcome = .error (.io fault) ∨
      broken.outcome = plain.outcome ∧ bytes.length - broken.state.size = taken) ∧
    (broken.outcome = .error (.io fault) ↔ k ≤ bytes.length ∧ (k < taken ∨ RunsOut t)) := by
  intro broken plain taken
  have sound : plain.outcome ≠ .error (.io fault) := sound_readLoad intact fault
  cases fails with
  | @within front back intact₁ intact₂ place =>
    have parts : front.data ++ back.data = bytes := by
      rw [← whole, data_append]
      rfl
    have sizes : k + back.size = bytes.length := by
      rw [← parts, List.length_append, place, size_eq_length_data]
    rcases failing_or_same fault intact₁ intact₂ intact (same.trans parts.symm) with
      ⟨failed, beyond⟩ | ⟨ended, left, before, more⟩
    · refine ⟨.inl failed, fun _ => ⟨by omega, beyond.imp_left fun less => ?_⟩, fun _ => failed⟩
      have less : plain.state.size < back.size := less
      show k < bytes.length - plain.state.size
      omega
    · refine ⟨.inr ⟨ended, congrArg (bytes.length - ·) left⟩, fun failed => ?_, fun ⟨_, beyond⟩ => ?_⟩
      · exact absurd (ended.symm.trans failed) sound
      · have before : back.size ≤ plain.state.size := before
        refine absurd (beyond.resolve_right more) ?_
        show ¬ k < bytes.length - plain.state.size
        omega
  | never intact' ended =>
    obtain ⟨outcome, _, left⟩ := blind_readLoad _ _ ⟨intact', intact, whole.trans same.symm⟩
    refine ⟨.inr ⟨outcome, congrArg (bytes.length - ·) left.size⟩, fun failed => ?_, fun ⟨short, _⟩ => ?_⟩
    · exact absurd (outcome.symm.trans failed) sound
    · rw [whole] at ended
      omega

def reset : SystemFault := .os 104

/-- A result that would be another one without its last digit, behind which the connection breaks. -/
def halved : Source := broken 2 3 (.failed reset) (Text.bytesOf "0\n12\n")

theorem readLoad_of_halved :
    FailsOnce reset 3 halved ∧ (readLoad.run halved).outcome = .error (.io reset) ∧
    (readLoad.run [.bytes halved.data]).outcome = .error (.agentInitialization "Agent_OnAttach failed" 12) := by
  have fails : FailsOnce reset 3 halved := failsOnce_broken ..
  have whole : halved.data = Text.bytesOf "0\n12\n" := data_broken ..
  have intact : Intact [.bytes halved.data] := by simp [Intact]
  have taken : 3 < (Text.bytesOf "0\n12\n").length - (readLoad.run [.bytes halved.data]).state.size := by
    decide +kernel
  have failed := (readLoad_of_failsOnce fails whole intact ((List.append_nil _).trans whole)).2.2
  exact ⟨fails, failed ⟨by decide +kernel, .inl taken⟩, by decide +kernel⟩

end Reply

end JvmAttach.Wire
