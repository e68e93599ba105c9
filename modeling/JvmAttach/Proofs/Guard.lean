import JvmAttach.Guard
import JvmAttach.Proofs.Act

/-! Guards of machines that note the calls made on them. Noting changes nothing else, and what a
guard adds to the notes is one detach: when it is disarmed, by its own detach or by a drop. -/
namespace JvmAttach

open Act

variable {ε τ σ α : Type}

def unlisted (s : τ × List Call × σ) : τ × σ := (s.1, s.2.2)

namespace VirtualMachine

variable (m : VirtualMachine τ σ)

@[simp] theorem noted_pid : m.noted.pid = unnoted m.pid := rfl

@[simp] theorem noted_isAttached : m.noted.isAttached = unnoted m.isAttached := rfl

@[simp] theorem noted_detach : m.noted.detach = noting .detach m.detach := rfl

theorem mirrors_unnoted (act : Act ε (τ × σ) α) : Mirrors unlisted (unnoted act) act := fun _ => rfl

theorem mirrors_noting (call : Call) (act : Act ε (τ × σ) α) :
    Mirrors unlisted (noting call act) act := fun _ => rfl

end VirtualMachine

namespace Guard

open VirtualMachine

variable {m : VirtualMachine τ σ}

theorem mirrors_through {fine : Act ε (τ × List Call × σ) α} {coarse : Act ε (τ × σ) α}
    (act : Mirrors unlisted fine coarse) : Mirrors unlisted (through fine) (through coarse) :=
  act.within (fun _ => rfl) (fun _ _ => rfl)

theorem mirrors_isArmed : Mirrors (ε := ε) (unlisted (τ := Guard τ) (σ := σ)) isArmed isArmed :=
  fun _ => rfl

theorem mirrors_disarm : Mirrors (ε := ε) (unlisted (τ := Guard τ) (σ := σ)) disarm disarm :=
  fun _ => rfl

theorem mirrors_detach (m : VirtualMachine τ σ) : Mirrors unlisted (detach m.noted) (detach m) :=
  mirrors_disarm.bind fun _ => mirrors_through (mirrors_noting .detach m.detach)

theorem mirrors_drop (m : VirtualMachine τ σ) : Mirrors unlisted (drop m.noted) (drop m) := by
  refine mirrors_isArmed.bind fun armed => ?_
  cases armed with
  | false => exact Mirrors.pure ()
  | true =>
    refine mirrors_disarm.bind fun _ => ?_
    refine (mirrors_through (mirrors_noting .detach m.detach)).attempt.bind fun result => ?_
    cases result with
    | ok done => exact Mirrors.pure ()
    | error fault =>
      exact ((mirrors_through (mirrors_unnoted m.pid)).mapError _).bind fun _ => Mirrors.tell _

theorem mirrors_closing (m : VirtualMachine τ σ) {fine : Act AttachFault (Guard τ × List Call × σ) α}
    {coarse : Act AttachFault (Guard τ × σ) α} (act : Mirrors unlisted fine coarse) :
    Mirrors unlisted (closing m.noted fine) (closing m coarse) := act.ending (mirrors_drop m)

theorem mirrors_holding (m : VirtualMachine τ σ) (handle : τ)
    {fine : Act AttachFault (Guard τ × List Call × σ) α} {coarse : Act AttachFault (Guard τ × σ) α}
    (act : Mirrors unlisted fine coarse) :
    Mirrors Prod.snd (holding m.noted handle fine) (holding m handle coarse) := by
  intro t
  have same := mirrors_closing m act ({ handle }, t)
  simp only [Step.seen, unlisted] at same
  simp only [holding, Step.seen, ← same]

theorem run_through_noting (call : Call) {act : Act ε (τ × σ) α} {handle : τ} {s : σ}
    {step : Step ε (τ × σ) α} (ran : act.run (handle, s) = step) (armed : Bool) (calls : List Call) :
    (through (noting call act)).run (⟨handle, armed⟩, calls, s) =
      ⟨step.outcome, (⟨step.state.1, armed⟩, calls ++ [call], step.state.2), step.log⟩ := by
  subst ran
  rfl

theorem leads_through_unnoted (act : Act ε (τ × σ) α) :
    Leads (fun s t : Guard τ × List Call × σ => t.2.1 = s.2.1) (through (unnoted act)) :=
  fun _ => rfl

theorem run_detach_noted {handle : τ} {s : σ} {step : Step AttachFault (τ × σ) Unit}
    (ran : m.detach.run (handle, s) = step) (armed : Bool) (calls : List Call) :
    (detach m.noted).run (⟨handle, armed⟩, calls, s) =
      ⟨step.outcome, (⟨step.state.1, false⟩, calls ++ [.detach], step.state.2), step.log⟩ := by
  simp only [detach, disarm, run_change_bind, noted_detach]
  exact run_through_noting .detach ran false calls

theorem calls_drop (m : VirtualMachine τ σ) (g : Guard τ) (calls : List Call) (s : σ) :
    ((drop m.noted).run (g, calls, s)).state.2.1 = if g.armed then calls ++ [.detach] else calls := by
  cases armed : g.armed with
  | false => simp [drop, isArmed, armed]
  | true =>
    simp only [drop, isArmed, disarm, run_look_bind, armed, run_change_bind, ↓reduceIte, noted_detach,
      noted_pid]
    rcases ran : m.detach.run (g.handle, s) with ⟨outcome, ⟨handle, t⟩, log⟩
    have called := run_through_noting .detach ran false calls
    cases outcome with
    | ok done =>
      rw [run_bind_ok (run_attempt (r := .ok done) called)]
      rfl
    | error fault =>
      rw [run_bind_ok (run_attempt (r := .error fault) called)]
      have lasting := Lasting.unchanged fun s : Guard τ × List Call × σ => s.2.1
      exact Leads.bind lasting ((leads_through_unnoted m.pid).mapError _) (fun _ => .tell lasting _) _
    | crashed message => rw [run_bind_crashed (run_attempt_crashed called)]
    | aborted => rw [run_bind_aborted (run_attempt_aborted called)]

theorem run_closing_disarmed {act : Act AttachFault (Guard τ × σ) α} {start : Guard τ × σ}
    {step : Step AttachFault (Guard τ × σ) α} (ran : act.run start = step)
    (disarmed : step.state.1.armed = false) : (closing m act).run start = step := by
  obtain ⟨outcome, s, log⟩ := step
  have idle : (drop m).run s = ⟨.ok (), s, []⟩ := by
    rw [drop, isArmed, run_look_bind, disarmed]
    rfl
  cases outcome with
  | aborted => simp only [closing, ending, ran]
  | _ => simp only [closing, ending, ran, idle, settled, List.append_nil]

theorem calls_closing {act : Act AttachFault (Guard τ × List Call × σ) α}
    {start : Guard τ × List Call × σ} {step : Step AttachFault (Guard τ × List Call × σ) α}
    (ran : act.run start = step) (alive : step.outcome = .aborted → step.state.1.armed = false) :
    ((closing m.noted act).run start).state.2.1 =
      if step.state.1.armed then step.state.2.1 ++ [.detach] else step.state.2.1 := by
  obtain ⟨outcome, ⟨after, made, t⟩, log⟩ := step
  simp only [closing, ending, ran]
  cases outcome with
  | aborted => simp [show after.armed = false from alive rfl]
  | _ => exact calls_drop m after made t

end Guard

end JvmAttach
