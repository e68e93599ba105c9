import JvmAttach.Proofs.Effects

/-! What the journal of a host says of a run. It only grows, and what attaching notes in it are
signals to its target, naps, and the trigger. -/
namespace JvmAttach

open Act

namespace Host

/-- From one host to another only events of a kind were noted. -/
def Notes (P : Event → Prop) (s t : Host) : Prop :=
  ∃ events, t.journal = s.journal ++ events ∧ ∀ event ∈ events, P event

variable {P : Event → Prop}

theorem lasting_notes (P : Event → Prop) : Lasting (Notes P) where
  refl s := ⟨[], (List.append_nil _).symm, by simp⟩
  trans := by
    rintro s t u ⟨first, noted, kind⟩ ⟨second, noted', kind'⟩
    refine ⟨first ++ second, by rw [noted', noted, List.append_assoc], ?_⟩
    intro event mem
    rcases List.mem_append.1 mem with before | behind
    · exact kind event before
    · exact kind' event behind

theorem Notes.mem {s t : Host} (notes : Notes P s t) {event : Event} (mem : event ∈ s.journal) :
    event ∈ t.journal := by
  obtain ⟨events, noted, _⟩ := notes
  rw [noted]
  exact List.mem_append_left events mem

theorem notes_of_journal {s t : Host} {event : Event} (noted : t.journal = s.journal ++ [event])
    (kind : P event) : Notes P s t := ⟨[event], noted, by simpa using kind⟩

theorem notes_sleep {d : Duration} (kind : P (.slept d)) (h : Host) : Notes P h (h.sleep d) :=
  notes_of_journal rfl kind

theorem journal_kill (target signal : Int) (h : Host) :
    ((kill target signal).run h).state.journal = h.journal ++ [.signal target signal] := by
  simp only [kill, run_change_bind, run_look_bind]
  cases signalFault target signal (record (.signal target signal) h) with
  | some fault => rfl
  | none =>
    simp only [run_change, delivered]
    split <;> rfl

theorem leads_kill {target signal : Int} (kind : P (.signal target signal)) :
    Leads (Notes P) (kill target signal) := fun h => notes_of_journal (journal_kill target signal h) kind

theorem leads_changing {event : Event} (kind : P event)
    (f : Machine → Caller → Except SystemFault Machine) : Leads (Notes P) (changing event f) := by
  intro h
  simp only [changing, tryChange]
  cases f h.machine h.caller with
  | error fault => exact (lasting_notes P).refl h
  | ok machine => exact notes_of_journal rfl kind

end Host

namespace Attach

theorem journal_signal {pid : Pid} (named : 0 < pid.raw) (number : Int) (h : Host) :
    ((signal pid number).run h).state.journal = h.journal ++ [.signal pid.raw number] := by
  have sent := Host.journal_kill pid.raw number h
  simp only [signal, mapError, sendSignal, if_neg (Int.not_le.2 named)]
  cases ((Host.kill pid.raw number).run h).outcome <;> exact sent

end Attach

end JvmAttach
