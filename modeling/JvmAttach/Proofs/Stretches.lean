import JvmAttach.Proofs.Arrivals
import JvmAttach.Wire.Reply

/-! Readings of a stream that does not fail, one after the other. What each of them comes to and how much
it takes depends on the bytes alone: two streams of the same bytes are read alike, wherever they are cut
and interrupted. -/
namespace JvmAttach.Wire

open Act

variable {s t : Source}

namespace Source

theorem size_eq_length_data (s : Source) : s.size = s.data.length := by
  induction s with
  | nil => rfl
  | cons a s ih => cases a <;> simp [size, data, ih]

/-- Two streams of the same bytes. -/
structure Alike (s t : Source) : Prop where
  intact : Intact s
  intact' : Intact t
  same : s.data = t.data

theorem Alike.nextLine (alike : Alike s t) :
    ∃ line s' t', s.nextLine = (.ok line, s') ∧ t.nextLine = (.ok line, t') ∧ Alike s' t' ∧
      s.data = line ++ s'.data := by
  obtain ⟨intact, intact', same⟩ := alike
  by_cases mem : newline ∈ s.data
  · obtain ⟨line, rest, whole, free⟩ := List.eq_append_cons_of_mem mem
    obtain ⟨s', read, still, left⟩ := nextLine_of_newline intact free whole
    obtain ⟨t', read', still', left'⟩ := nextLine_of_newline intact' free (same ▸ whole)
    exact ⟨_, s', t', read, read', ⟨still, still', left.trans left'.symm⟩, by simp [whole, left]⟩
  · obtain ⟨s', read, still, left⟩ := nextLine_of_free intact mem
    obtain ⟨t', read', still', left'⟩ := nextLine_of_free intact' (same ▸ mem)
    exact ⟨_, s', t', read, same ▸ read', ⟨still, still', left.trans left'.symm⟩, by simp [left]⟩

theorem remaining_end (read : s.nextLine = (.ok [], t)) : s.remaining = (.ok [], t) := by
  cases s with
  | nil => cases read; rw [remaining]
  | cons a s => rw [remaining]; simp only [read, List.isEmpty_nil, ↓reduceIte]

theorem remaining_line {line : Bytes} (some : line ≠ []) (read : s.nextLine = (.ok line, t)) :
    s.remaining = (t.remaining.1.map (content line ++ ·), t.remaining.2) := by
  cases s with
  | nil => cases read; exact absurd rfl some
  | cons a s =>
    rw [remaining]
    simp only [read, List.isEmpty_eq_false_iff.2 some, Bool.false_eq_true, ↓reduceIte]

theorem Alike.remaining (alike : Alike s t) :
    s.remaining.1 = t.remaining.1 ∧ Alike s.remaining.2 t.remaining.2 := by
  -- each line that is read leaves fewer bytes
  induction size : s.data.length using Nat.strongRecOn generalizing s t with
  | _ n ih =>
    obtain ⟨line, s', t', read, read', left, whole⟩ := alike.nextLine
    by_cases some : line = []
    · subst some
      rw [remaining_end read, remaining_end read']
      exact ⟨rfl, left⟩
    · have fewer : s'.data.length < n := by
        have long := List.length_pos_iff.2 some
        rw [← size, whole, List.length_append]
        omega
      obtain ⟨same, ended⟩ := ih _ fewer left rfl
      rw [remaining_line some read, remaining_line some read', same]
      exact ⟨rfl, ended⟩

theorem blind_reading {α : Type} {f : Source → Except SystemFault α × Source}
    (reads : ∀ s t, Alike s t → (f s).1 = (f t).1 ∧ Alike (f s).2 (f t).2) : Blind Alike (reading f) := by
  intro s t alike
  obtain ⟨same, left⟩ := reads s t alike
  simp only [reading]
  rcases read : f s with ⟨result, s'⟩
  rcases read' : f t with ⟨result', t'⟩
  simp only [read, read'] at same left
  subst same
  cases result <;> exact ⟨rfl, rfl, left⟩

theorem blind_readLine : Blind Alike readLine := by
  refine .bind (blind_reading fun s t alike => ?_) fun line => .pure _
  obtain ⟨line, s', t', read, read', left, _⟩ := alike.nextLine
  rw [read, read']
  exact ⟨rfl, left⟩

theorem blind_readRemaining : Blind Alike readRemaining := blind_reading fun _ _ alike => alike.remaining

end Source

open Source

namespace Reply

theorem blind_readLine : Blind Alike readLine := Source.blind_readLine.mapError _

theorem blind_readStatus : Blind Alike readStatus := by
  refine .bind blind_readLine fun line => ?_
  split
  · exact .fail _
  · split
    · exact .fail _
    · exact .pure _

theorem blind_readLoad : Blind Alike readLoad := by
  refine .bind blind_readStatus fun status => ?_
  split
  · exact .bind (blind_readRemaining.mapError _) fun text => .fail _
  · refine .bind blind_readLine fun line => ?_
    split
    · exact .fail _
    · exact .ofExcept _

/-- A step of reading: a status alone, or the whole reply to a load. -/
inductive Reading where
  | status
  | load
  deriving DecidableEq, Repr

/-- Only a status has a value. -/
def Reading.act : Reading → Act AttachFault Source (Option Int)
  | .status => return some (← readStatus)
  | .load => do readLoad; return none

/-- What each reading comes to, and how many of `total` bytes have been taken by then. -/
def readings (total : Nat) : List Reading → Source → List (Outcome AttachFault (Option Int) × Nat)
  | [], _ => []
  | reading :: rest, s =>
    let step := reading.act.run s
    (step.outcome, total - step.state.size) :: readings total rest step.state

theorem blind_act (reading : Reading) : Blind Alike reading.act := by
  cases reading with
  | status => exact .bind blind_readStatus fun _ => .pure _
  | load => exact .bind blind_readLoad fun _ => .pure _

theorem readings_alike (alike : Alike s t) (total : Nat) (steps : List Reading) :
    readings total steps s = readings total steps t := by
  induction steps generalizing s t with
  | nil => rfl
  | cons reading rest ih =>
    obtain ⟨same, _, left⟩ := blind_act reading s t alike
    have position := congrArg List.length left.same
    rw [← size_eq_length_data, ← size_eq_length_data] at position
    simp only [readings, same, position, ih left]

/-- However bytes are divided into stretches and wherever reading is interrupted between these, every
reading comes to the same and takes as much as if they had come all at once. -/
theorem readings_of_data {s : Source} (intact : Intact s) {bytes : Bytes} (whole : s.data = bytes)
    (steps : List Reading) : readings bytes.length steps s = readings bytes.length steps [.bytes bytes] := by
  have once : Alike s [.bytes bytes] := by
    refine ⟨intact, fun fault mem => ?_, whole.trans (List.append_nil bytes).symm⟩
    cases List.mem_singleton.1 mem
  exact readings_alike once bytes.length steps

/-- A status that is cut inside a character, a sign and the end of a line, and a reply behind it. -/
def chopped : Source :=
  [.interrupted, .bytes [45], .bytes [49, 13], .interrupted, .interrupted, .bytes [10, 0xE2, 0x80],
    .bytes [0x8A], .bytes [48, 10, 114], .interrupted, .bytes (Text.bytesOf "eturn code: 7\r"), .bytes [10],
    .interrupted]

theorem readings_of_chopped :
    Intact chopped ∧ readings 25 [.status, .load, .load] chopped =
      readings 25 [.status, .load, .load] [.bytes chopped.data] ∧
    readings 25 [.status, .load, .load] chopped =
      [(.ok (some (-1)), 4), (.error (.agentInitialization "Agent_OnAttach failed" 7), 25),
        (.error (.protocol "Premature EOF"), 25)] := by
  have intact : Intact chopped := by
    intro fault mem
    simp [chopped] at mem
  exact ⟨intact, readings_of_data intact rfl _, by decide +kernel⟩

end Reply

end JvmAttach.Wire
