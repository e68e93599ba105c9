import JvmAttach.Proofs.SignalOrder

/-! Which processes are signalled while attaching: the target and no other, under the number that the id is
made from. An id that names no process, because its number is zero or does not fit in 31 bits, is refused
before anything is looked at. -/
namespace JvmAttach.Attach

open Act Host

variable {pid : Pid} {places : List Path} {events : List Event}

/-- Zero and the numbers beyond 31 bits name no process. -/
def Nameless (pid : Pid) : Prop := pid.number = 0 ∨ Pid.largest < pid.number.toNat

theorem raw_of_named (named : ¬ Nameless pid) : 0 < pid.raw ∧ pid.raw = pid.number.toNat := by
  obtain ⟨some, fits⟩ := not_or.1 named
  have raw : pid.raw = pid.number.toNat := if_pos (Nat.not_lt.1 fits)
  have positive : 0 < pid.number.toNat := by
    refine Nat.pos_of_ne_zero fun zero => some ?_
    exact UInt32.toNat_inj.1 zero
  exact ⟨by omega, raw⟩

theorem raw_of_nameless (nameless : Nameless pid) : pid.raw ≤ 0 := by
  unfold Pid.raw
  rcases nameless with zero | beyond
  · rw [zero]
    decide
  · rw [if_neg (Nat.not_le.2 beyond)]
    decide

theorem probe_nameless (nameless : Nameless pid) : probe pid = Act.fail (.processNotFound pid.number) := by
  simp only [probe, signal, sendSignal, if_pos (raw_of_nameless nameless)]
  rfl

theorem attach_nameless (config : Config) (nameless : Nameless pid) :
    attach config pid = Act.fail (.processNotFound pid.number) := by
  rw [attach, probe_nameless nameless]
  rfl

/-- A signal goes to the target: a question, or the one that starts its listener. -/
def Aimed (pid : Pid) (event : Event) : Prop :=
  ∀ target number, event = .signal target number → target = pid.raw ∧ (number = 0 ∨ number = sigquit)

theorem Idle.aimed {event : Event} (idle : Idle pid event) : Aimed pid event := by
  rcases idle with rfl | ⟨d, rfl⟩
  · rintro target number ⟨⟩
    exact ⟨rfl, .inl rfl⟩
  · exact fun _ _ => nofun

theorem Conduct.aimed (conduct : Conduct pid places events) : ∀ event ∈ events, Aimed pid event := by
  cases conduct with
  | idle idle => exact fun event mem => (idle event mem).aimed
  | @signalling asked waits removal trigger place asks naps removing =>
    have making : ∀ event ∈ asked ++ [.created trigger], Aimed pid event := by
      intro event mem
      rcases List.mem_append.1 mem with early | last
      · exact (asks event early).aimed
      · cases List.mem_singleton.1 last
        exact fun _ _ => nofun
    have ending : ∀ event ∈ waits ++ removal, Aimed pid event := by
      intro event mem
      rcases List.mem_append.1 mem with early | last
      · exact (naps event early).aimed
      · rcases removing with rfl | rfl
        · cases last
        · cases List.mem_singleton.1 last
          exact fun _ _ => nofun
    intro event mem
    rcases List.mem_append.1 mem with early | late
    · exact making event early
    · rcases List.mem_cons.1 late with rfl | behind
      · rintro target number ⟨⟩
        exact ⟨rfl, .inr rfl⟩
      · exact ending event behind

/-- While attaching, a signal is only ever sent to the one process whose number the id was made from, and it
is a question or SIGQUIT. For a number that no process can have none is sent, and nothing else is done: what
comes of it is the same on every host, and the host stays what it is. -/
theorem only_target_signalled (config : Config) (pid : Pid) (h : Host) :
    let step := (attach config pid).run h
    (∃ events, step.state.journal = h.journal ++ events ∧
      ∀ target number : Int, .signal target number ∈ events →
        0 < target ∧ target = pid.number.toNat ∧ (number = 0 ∨ number = 3)) ∧
    (pid.number = 0 ∨ 0x7fffffff < pid.number.toNat →
      attach config pid = Act.fail (.processNotFound pid.number) ∧
        step = ⟨.error (.processNotFound pid.number), h, []⟩) := by
  intro step
  by_cases nameless : Nameless pid
  · have refused : attach config pid = Act.fail (.processNotFound pid.number) := attach_nameless config nameless
    have ended : step = ⟨.error (.processNotFound pid.number), h, []⟩ := congrArg (·.run h) refused
    refine ⟨⟨[], ?_, fun _ _ => nofun⟩, fun _ => ⟨refused, ended⟩⟩
    rw [ended, List.append_nil]
  · obtain ⟨positive, same⟩ := raw_of_named nameless
    obtain ⟨events, noted, conduct⟩ := (attaches config pid h).conduct
    refine ⟨⟨events, noted, fun target number mem => ?_⟩, fun beyond => absurd beyond nameless⟩
    obtain ⟨rfl, kind⟩ := conduct.aimed _ mem target number rfl
    exact ⟨positive, same, kind⟩

end JvmAttach.Attach
