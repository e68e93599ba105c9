import JvmAttach.Proofs.Guard

/-! The whole life of a guard. Whatever is called through it while it lives, also a detach of the handle,
it stays armed; its end, of whatever kind, is one detach. The result of that detach is reported by the
guard's own detach, and by a drop it is only logged. -/
namespace JvmAttach.Guard

open Act VirtualMachine

variable {τ σ : Type}

/-- What a use adds to the calls that are noted. -/
def Use.call? : Use → Option Call
  | .pid | .isAttached => none
  | .load path options => some (.load path options)
  | .detach => some .detach

/-- The guard when some calls have been made through it, whatever each of them came to. -/
def after (m : VirtualMachine τ σ) (uses : List Use) (s : Guard τ × σ) : Guard τ × σ :=
  uses.foldl (fun s call => ((use m call).run s).state) s

/-- What a drop says behind the detach that it made: nothing, unless that failed. -/
def complaint (m : VirtualMachine τ σ) (made : Step AttachFault (τ × σ) Unit) : List Log.Entry :=
  match made.outcome with
  | .error fault =>
    let asked := m.pid.run made.state
    match asked.outcome with
    | .ok pid => asked.log ++ [dropFailed pid fault]
    | _ => asked.log
  | _ => []

theorem complaint_failed {m : VirtualMachine τ σ} {made : Step AttachFault (τ × σ) Unit} {fault : AttachFault}
    {pid : Pid} (failed : made.outcome = .error fault) (answered : (m.pid.run made.state).outcome = .ok pid) :
    complaint m made = (m.pid.run made.state).log ++ [dropFailed pid fault] := by
  simp only [complaint, failed, answered]

theorem complaint_fine {made : Step AttachFault (τ × σ) Unit} (m : VirtualMachine τ σ)
    (fine : ∀ fault, made.outcome ≠ .error fault) : complaint m made = [] := by
  unfold complaint
  split
  · rename_i fault failed
    exact absurd failed (fine fault)
  · rfl

theorem mirrors_use (m : VirtualMachine τ σ) (call : Use) : Mirrors unlisted (use m.noted call) (use m call) := by
  cases call with
  | pid => exact ((mirrors_through (mirrors_unnoted m.pid)).mapError _).bind fun _ => .pure _
  | isAttached => exact ((mirrors_through (mirrors_unnoted m.isAttached)).mapError _).bind fun _ => .pure _
  | load path options =>
    exact (mirrors_through (mirrors_noting (.load path options) (m.load path options))).bind fun _ => .pure _
  | detach => exact (mirrors_through (mirrors_noting .detach m.detach)).bind fun _ => .pure _

theorem mirrors_finish (m : VirtualMachine τ σ) (ending : End) :
    Mirrors unlisted (finish m.noted ending) (finish m ending) := by
  cases ending with
  | detach => exact mirrors_closing m (mirrors_detach m)
  | drop => exact mirrors_closing m (.pure ())
  | unwind message => exact mirrors_closing m fun _ => rfl

/-- A use leaves the guard armed or disarmed as it is, and notes its own call alone. -/
theorem state_use (m : VirtualMachine τ σ) (call : Use) (g : Guard τ) (calls : List Call) (s : σ) :
    ((use m.noted call).run (g, calls, s)).state.1.armed = g.armed ∧
      ((use m.noted call).run (g, calls, s)).state.2.1 = calls ++ call.call?.toList := by
  have lasting := Lasting.unchanged fun s : Guard τ × List Call × σ => (s.1.armed, s.2.1)
  -- asking notes nothing; any other call does what `run_through_noting` says, and nothing follows it
  have asks {α : Type} (act : Act Empty (τ × σ) α) (answer : α → Answer) :
      Leads (fun s t => (t.1.armed, t.2.1) = (s.1.armed, s.2.1))
        (do return answer (← (through (unnoted act)).mapError Empty.elim) :
          Act AttachFault (Guard τ × List Call × σ) Answer) :=
    .bind lasting (.mapError _ fun _ => rfl) fun _ => .pure lasting _
  have notes (noted : Call) (act : Act AttachFault (τ × σ) Unit) :
      (((do through (noting noted act); return .done) :
        Act AttachFault (Guard τ × List Call × σ) Answer).run (g, calls, s)).state.1.armed = g.armed ∧
      (((do through (noting noted act); return .done) :
        Act AttachFault (Guard τ × List Call × σ) Answer).run (g, calls, s)).state.2.1 = calls ++ [noted] := by
    have called := run_through_noting noted (rfl : act.run (g.handle, s) = _) g.armed calls
    have still := @Leads.behind _ _ _ _ _ (through (noting noted act)) lasting _
      (fun _ => Leads.pure lasting Answer.done) (g, calls, s)
    rw [called, Prod.mk.injEq] at still
    exact still
  cases call with
  | pid =>
    simpa [Use.call?, use, noted_pid] using asks m.pid .pid (g, calls, s)
  | isAttached =>
    simpa [Use.call?, use, noted_isAttached] using asks m.isAttached .isAttached (g, calls, s)
  | load path options => exact notes (.load path options) (m.load path options)
  | detach => exact notes .detach m.detach

theorem after_noted (m : VirtualMachine τ σ) (uses : List Use) (g : Guard τ) (calls : List Call) (s : σ) :
    (after m.noted uses (g, calls, s)).1.armed = g.armed ∧
      (after m.noted uses (g, calls, s)).2.1 = calls ++ uses.filterMap Use.call? ∧
        unlisted (after m.noted uses (g, calls, s)) = after m uses (g, s) := by
  induction uses generalizing g calls s with
  | nil => exact ⟨rfl, (List.append_nil calls).symm, rfl⟩
  | cons call uses ih =>
    obtain ⟨armed, noted⟩ := state_use m call g calls s
    have same := congrArg Step.state (mirrors_use m call (g, calls, s))
    rcases state : ((use m.noted call).run (g, calls, s)).state with ⟨used, made, t⟩
    rw [state] at armed noted
    simp only [Step.seen, state, unlisted] at same
    obtain ⟨still, calls_after, alike⟩ := ih used made t
    simp only [after, List.foldl_cons] at still calls_after alike ⊢
    rw [state]
    refine ⟨still.trans armed, ?_, ?_⟩
    · rw [calls_after, show made = calls ++ call.call?.toList from noted, List.append_assoc,
        List.filterMap_cons]
      cases call.call? <;> rfl
    · rw [alike, same]

theorem calls_finish (m : VirtualMachine τ σ) (ending : End) {g : Guard τ} (armed : g.armed = true)
    (calls : List Call) (s : σ) : ((finish m.noted ending).run (g, calls, s)).state.2.1 = calls ++ [.detach] := by
  cases ending with
  | detach =>
    have called := run_detach_noted (m := m) (rfl : m.detach.run (g.handle, s) = _) g.armed calls
    exact calls_closing called fun _ => rfl
  | drop =>
    refine (calls_closing (run_pure () (g, calls, s)) nofun).trans ?_
    simp only [armed, ↓reduceIte]
  | unwind message =>
    refine (calls_closing (run_crash message (g, calls, s)) nofun).trans ?_
    simp only [armed, ↓reduceIte]

theorem run_finish_detach (m : VirtualMachine τ σ) (g : Guard τ) (s : σ) :
    (finish m .detach).run (g, s) =
      let made := m.detach.run (g.handle, s)
      ⟨made.outcome, (⟨made.state.1, false⟩, made.state.2), made.log⟩ := by
  have called : (Guard.detach m).run (g, s) = ⟨(m.detach.run (g.handle, s)).outcome,
      (⟨(m.detach.run (g.handle, s)).state.1, false⟩, (m.detach.run (g.handle, s)).state.2),
      (m.detach.run (g.handle, s)).log⟩ := by
    simp only [Guard.detach, disarm, run_change_bind, through, within]
  exact run_closing_disarmed called rfl

theorem log_drop (m : VirtualMachine τ σ) {g : Guard τ} (armed : g.armed = true) (s : σ) :
    ((drop m).run (g, s)).log =
      (m.detach.run (g.handle, s)).log ++ complaint m (m.detach.run (g.handle, s)) := by
  rcases ran : m.detach.run (g.handle, s) with ⟨outcome, ⟨handle, t⟩, log⟩
  have called : (through m.detach).run ({ g with armed := false }, s) = ⟨outcome, (⟨handle, false⟩, t), log⟩ := by
    simp only [through, within, ran]
  simp only [drop, isArmed, disarm, run_look_bind, armed, run_change_bind, ↓reduceIte]
  cases outcome with
  | ok done =>
    rw [run_bind_ok (run_attempt (r := .ok done) called)]
    rfl
  | crashed message =>
    rw [run_bind_crashed (run_attempt_crashed called)]
    exact (List.append_nil log).symm
  | aborted =>
    rw [run_bind_aborted (run_attempt_aborted called)]
    exact (List.append_nil log).symm
  | error fault =>
    rw [run_bind_ok (run_attempt (r := .error fault) called)]
    rcases asked : m.pid.run (handle, t) with ⟨answer, ⟨handle', t'⟩, words⟩
    have question : (through m.pid).run (⟨handle, false⟩, t) = ⟨answer, (⟨handle', false⟩, t'), words⟩ := by
      simp only [through, within, asked]
    cases answer with
    | ok pid => simp only [run_bind_ok (run_mapError_ok question _), complaint, asked, run_tell]
    | error none => exact none.elim
    | crashed message => simp only [run_bind_crashed (run_mapError_crashed question _), complaint, asked]
    | aborted => simp only [run_bind_aborted (run_mapError_aborted question _), complaint, asked]

theorem log_finish (m : VirtualMachine τ σ) {ending : End} (dropped : ending ≠ .detach) {g : Guard τ}
    (armed : g.armed = true) (s : σ) : ((finish m ending).run (g, s)).log =
      (m.detach.run (g.handle, s)).log ++ complaint m (m.detach.run (g.handle, s)) := by
  have last := log_drop m armed s
  cases ending with
  | detach => exact absurd rfl dropped
  | drop => exact last
  | unwind message => exact last

/-- However a guard is used and however it ends, its end is one detach of the handle, and it makes no
other. Its own detach comes to what that call comes to and says nothing of its own; behind a drop, also
one that unwinds, a failure of that call is logged. -/
theorem guard_detaches_once (m : VirtualMachine τ σ) (handle : τ) (calls : List Call) (s : σ)
    (uses : List Use) (ending : End) :
    let live := after m.noted uses ({ handle }, calls, s)
    let ended := (finish m.noted ending).run live
    let made := m.detach.run (live.1.handle, live.2.2)
    let asked := m.pid.run made.state
    live.2.1 = calls ++ uses.filterMap Use.call? ∧ ended.state.2.1 = live.2.1 ++ [.detach] ∧
    unlisted live = after m uses ({ handle }, s) ∧ ended.seen unlisted = (finish m ending).run (unlisted live) ∧
    (ending = .detach → ended.outcome = made.outcome ∧ ended.log = made.log) ∧
    (ending ≠ .detach → ∀ fault pid, made.outcome = .error fault → asked.outcome = .ok pid →
      ended.log = made.log ++ (asked.log ++ [{
        level := .warn, origin := .guard, message := "detach on drop failed",
        fields := [⟨"pid", pid.shown, false⟩, ⟨"error", fault.message, false⟩] }])) ∧
    ((∀ fault, made.outcome ≠ .error fault) → ended.log = made.log) := by
  intro live ended made asked
  obtain ⟨armed, noted, alike⟩ := after_noted m uses { handle } calls s
  have seen : ended.seen unlisted = (finish m ending).run (unlisted live) := mirrors_finish m ending live
  have log : ended.log = ((finish m ending).run (unlisted live)).log := congrArg Step.log seen
  have own : (finish m .detach).run (unlisted live) = _ := run_finish_detach m live.1 live.2.2
  refine ⟨noted, calls_finish m ending armed live.2.1 live.2.2, alike, seen, ?_, ?_, ?_⟩
  · rintro rfl
    rw [own] at log
    exact ⟨(congrArg Step.outcome seen).trans (congrArg Step.outcome own), log⟩
  · intro dropped fault pid failed answered
    have said := complaint_failed failed answered
    exact (log.trans (log_finish m dropped armed live.2.2)).trans (congrArg (made.log ++ ·) said)
  · intro fine
    by_cases dropped : ending = .detach
    · subst dropped
      rw [own] at log
      exact log
    · have said := complaint_fine m fine
      refine (log.trans (log_finish m dropped armed live.2.2)).trans ?_
      exact (congrArg (made.log ++ ·) said).trans (List.append_nil made.log)

end JvmAttach.Guard
