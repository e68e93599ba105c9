import JvmAttach.Proofs.Guard
import JvmAttach.Proofs.Verdict

/-! The calls of a load. Nothing is called for a library that is not there, and behind an attach
that succeeds stand one load and one detach, whatever each of them comes to. -/
namespace JvmAttach.Load

open Act Guard VirtualMachine

variable {τ σ : Type}

/-- The calls that a load makes in a state, by what it finds there and by how its calls end. -/
inductive Calls (a : Attacher τ σ) (outlook : Outlook σ) (pid : Pid) (library : AgentLibrary) (s : σ) :
    List Call → Prop
  | unresolved {fault : AttachFault}
      (failed : library.resolve (outlook.workingDirectory s) = .error fault) :
      Calls a outlook pid library s []
  | missing {path : Path} (resolved : library.resolve (outlook.workingDirectory s) = .ok path)
      (absent : outlook.present path s = false) : Calls a outlook pid library s []
  | unattached {path : Path} (resolved : library.resolve (outlook.workingDirectory s) = .ok path)
      (present : outlook.present path s = true)
      (failed : ∀ handle, ((a.attach pid).run s).outcome ≠ .ok handle) :
      Calls a outlook pid library s [.attach pid]
  | attached {path : Path} {handle : τ}
      (resolved : library.resolve (outlook.workingDirectory s) = .ok path)
      (present : outlook.present path s = true)
      (attached : ((a.attach pid).run s).outcome = .ok handle)
      (lives : ((a.load path "").run (handle, ((a.attach pid).run s).state)).outcome ≠ .aborted) :
      Calls a outlook pid library s [.attach pid, .load path "", .detach]
  /-- The load call ended the process, and nobody is left to detach. -/
  | ended {path : Path} {handle : τ}
      (resolved : library.resolve (outlook.workingDirectory s) = .ok path)
      (present : outlook.present path s = true)
      (attached : ((a.attach pid).run s).outcome = .ok handle)
      (ends : ((a.load path "").run (handle, ((a.attach pid).run s).state)).outcome = .aborted) :
      Calls a outlook pid library s [.attach pid, .load path ""]

theorem Calls.mem_load_iff {a : Attacher τ σ} {outlook : Outlook σ} {pid : Pid} {library : AgentLibrary} {s : σ}
    {made : List Call} (calls : Calls a outlook pid library s made) {path : Path} {options : String} :
    .load path options ∈ made ↔ options = "" ∧ library.resolve (outlook.workingDirectory s) = .ok path ∧
      outlook.present path s = true ∧ ∃ handle, ((a.attach pid).run s).outcome = .ok handle := by
  have behind {found : Path} {handle : τ} (resolved : library.resolve (outlook.workingDirectory s) = .ok found)
      (present : outlook.present found s = true) (succeeded : ((a.attach pid).run s).outcome = .ok handle) :
      path = found ∧ options = "" ↔ options = "" ∧ library.resolve (outlook.workingDirectory s) = .ok path ∧
        outlook.present path s = true ∧ ∃ handle, ((a.attach pid).run s).outcome = .ok handle := by
    constructor
    · rintro ⟨rfl, rfl⟩
      exact ⟨rfl, resolved, present, handle, succeeded⟩
    · rintro ⟨rfl, same, -, -⟩
      cases resolved.symm.trans same
      exact ⟨rfl, rfl⟩
  cases calls with
  | unresolved failed => simp [failed]
  | missing resolved absent =>
    refine ⟨nofun, ?_⟩
    rintro ⟨-, same, present, -⟩
    cases resolved.symm.trans same
    cases absent.symm.trans present
  | unattached resolved present failed =>
    refine ⟨fun mem => ?_, fun ⟨_, _, _, handle, succeeded⟩ => absurd succeeded (failed handle)⟩
    cases List.mem_singleton.1 mem
  | attached resolved present succeeded lives =>
    rw [← behind resolved present succeeded]
    simp
  | ended resolved present succeeded ends =>
    rw [← behind resolved present succeeded]
    simp

theorem mirrors_judge (pid : Pid) (loaded : Except AttachFault Unit) :
    Mirrors unlisted (judge pid loaded : Act AttachFault (Guard τ × List Call × σ) _) (judge pid loaded) := by
  cases loaded with
  | ok done => exact .pure _
  | error fault =>
    simp only [judge]
    split
    · exact (Mirrors.tell _).bind fun _ => .pure _
    · exact .pure _

theorem mirrors_conclude (pid : Pid) (judged : Except AttachFault LoadResult)
    (detached : Except AttachFault Unit) :
    Mirrors unlisted (conclude pid judged detached : Act AttachFault (Guard τ × List Call × σ) _)
      (conclude pid judged detached) := by
  cases judged with
  | ok outcome =>
    cases detached with
    | ok done => exact (Mirrors.tell _).bind fun _ => .pure _
    | error fault => exact .fail _
  | error fault =>
    cases detached with
    | ok done => exact .fail _
    | error second => exact (Mirrors.tell _).bind fun _ => .fail _

theorem mirrors_underGuard (m : VirtualMachine τ σ) (pid : Pid) (path : Path) :
    Mirrors unlisted (underGuard m.noted pid path) (underGuard m pid path) :=
  (mirrors_through (mirrors_noting _ (m.load path ""))).attempt.bind fun loaded =>
    (mirrors_judge pid loaded).bind fun judged =>
      (mirrors_detach m).attempt.bind fun detached => mirrors_conclude pid judged detached

theorem mirrors_run (a : Attacher τ σ) (outlook : Outlook σ) (pid : Pid) (library : AgentLibrary) :
    Mirrors Prod.snd (run a.noted (outlook.of Prod.snd) pid library) (run a outlook pid library) := by
  refine (Mirrors.look outlook.workingDirectory).bind fun working => ?_
  refine (Mirrors.ofExcept (library.resolve working)).bind fun path => ?_
  refine (Mirrors.look (outlook.present path)).bind fun present => ?_
  cases present with
  | false => exact .fail _
  | true =>
    refine (Mirrors.tell _).bind fun _ => ?_
    exact Mirrors.bind (fun _ => rfl) fun handle =>
      mirrors_holding a.toVirtualMachine handle (mirrors_underGuard a.toVirtualMachine pid path)

/-- Where the handle is detached once and the guard is disarmed. -/
def Detached (calls : List Call) (s : Guard τ × List Call × σ) : Prop :=
  s.1.armed = false ∧ s.2.1 = calls ++ [.detach]

/-- Behind a load call that returned, the handle is detached by the guard's own detach, also when
that fails or crashes. -/
theorem detached_underGuard (m : VirtualMachine τ σ) (pid : Pid) {handle used : τ} {armed : Bool}
    {path : Path} {loaded : Except AttachFault Unit} {calls made : List Call} {s t : σ}
    {log : List Log.Entry}
    (returned : ((through (m.noted.load path "")).attempt (δ := AttachFault)).run
      (⟨handle, armed⟩, calls, s) = ⟨.ok loaded, (⟨used, armed⟩, made, t), log⟩) :
    Detached made ((underGuard m.noted pid path).run (⟨handle, armed⟩, calls, s)).state := by
  rw [underGuard, run_bind_ok returned, run_bind_ok (run_judge pid loaded _)]
  rcases ended : m.detach.run (used, t) with ⟨outcome, ⟨last, u⟩, words⟩
  have called := run_detach_noted ended armed made
  have disarmed : Detached made ((⟨last, false⟩, made ++ [.detach], u) : Guard τ × List Call × σ) :=
    ⟨rfl, rfl⟩
  rcases outcome.returned_or_stopped with ⟨result, rfl⟩ | ⟨message, rfl⟩ | rfl
  · rw [run_bind_ok (run_attempt called), run_conclude]
    exact disarmed
  · rw [run_bind_crashed (run_attempt_crashed called)]
    exact disarmed
  · rw [run_bind_aborted (run_attempt_aborted called)]
    exact disarmed

/-- Under a guard a load is called once. If it lives, one detach follows, by the guard's own detach
or, where the load crashed, by the drop. -/
theorem calls_holding (m : VirtualMachine τ σ) (handle : τ) (pid : Pid) (path : Path)
    (calls : List Call) (s : σ) :
    ((holding m.noted handle (underGuard m.noted pid path)).run (calls, s)).state.1 =
      if ((m.load path "").run (handle, s)).outcome = .aborted then calls ++ [.load path ""]
      else calls ++ [.load path "", .detach] := by
  rcases ran : (m.load path "").run (handle, s) with ⟨outcome, ⟨used, t⟩, log⟩
  have called := run_through_noting (.load path "") ran true calls
  rcases outcome.returned_or_stopped with ⟨loaded, rfl⟩ | ⟨message, rfl⟩ | rfl
  · obtain ⟨disarmed, made⟩ := detached_underGuard m pid (run_attempt called)
    have closed := calls_closing (m := m) (rfl : (underGuard m.noted pid path).run _ = _)
      fun _ => disarmed
    rw [disarmed, made] at closed
    rw [if_neg (Outcome.ofExcept_ne_aborted loaded)]
    simpa [holding] using closed
  · have whole : (underGuard m.noted pid path).run (⟨handle, true⟩, calls, s) =
        ⟨.crashed message, (⟨used, true⟩, calls ++ [.load path ""], t), log⟩ :=
      run_bind_crashed (run_attempt_crashed called) _
    simpa [holding] using calls_closing whole (by simp)
  · have whole : (underGuard m.noted pid path).run (⟨handle, true⟩, calls, s) =
        ⟨.aborted, (⟨used, true⟩, calls ++ [.load path ""], t), log⟩ :=
      run_bind_aborted (run_attempt_aborted called) _
    simp only [holding, closing, ending, whole, ↓reduceIte]

theorem run_attach_noted {a : Attacher τ σ} {pid : Pid} {s : σ} {step : Step AttachFault σ τ}
    (ran : (a.attach pid).run s = step) (calls : List Call) :
    (a.noted.attach pid).run (calls, s) =
      ⟨step.outcome, (calls ++ [.attach pid], step.state), step.log⟩ := by
  subst ran
  rfl

theorem calls_present {a : Attacher τ σ} {outlook : Outlook σ} {pid : Pid} {library : AgentLibrary}
    {path : Path} {s : σ} (resolved : library.resolve (outlook.workingDirectory s) = .ok path)
    (present : outlook.present path s = true) (calls : List Call) :
    ∃ made, ((run a.noted (outlook.of Prod.snd) pid library).run (calls, s)).state.1 = calls ++ made ∧
      Calls a outlook pid library s made := by
  rcases ran : (a.attach pid).run s with ⟨outcome, t, log⟩
  have called := run_attach_noted ran calls
  have start : (run a.noted (outlook.of Prod.snd) pid library).run (calls, s) =
      ((do
        Act.tell (attaching pid path)
        let handle ← a.noted.attach pid
        holding a.noted.toVirtualMachine handle (underGuard a.noted.toVirtualMachine pid path) :
          Act AttachFault (List Call × σ) LoadResult)).run (calls, s) := by
    simp only [run, run_look_bind, Outlook.of, resolved, run_ofExcept_ok_bind, present, ↓reduceIte]
  rw [start, run_tell_bind]
  have refused (failed : ∀ handle, outcome ≠ .ok handle) :
      Calls a outlook pid library s [.attach pid] :=
    .unattached resolved present (by rw [ran]; exact failed)
  cases outcome with
  | error fault => exact ⟨_, by rw [run_bind_error called], refused (by simp)⟩
  | crashed message => exact ⟨_, by rw [run_bind_crashed called], refused (by simp)⟩
  | aborted => exact ⟨_, by rw [run_bind_aborted called], refused (by simp)⟩
  | ok handle =>
    rw [run_bind_ok called]
    have made := calls_holding a.toVirtualMachine handle pid path (calls ++ [.attach pid]) t
    have attached : ((a.attach pid).run s).outcome = .ok handle := by rw [ran]
    by_cases lives : ((a.load path "").run (handle, t)).outcome = .aborted
    · rw [if_pos lives, List.append_assoc] at made
      exact ⟨_, made, .ended resolved present attached (by rw [ran]; exact lives)⟩
    · rw [if_neg lives, List.append_assoc] at made
      exact ⟨_, made, .attached resolved present attached (by rw [ran]; exact lives)⟩

/-- A load calls nothing, or attaches, or attaches, loads once and detaches once; noting this
changes nothing else. -/
theorem load_calls (a : Attacher τ σ) (outlook : Outlook σ) (pid : Pid) (library : AgentLibrary)
    (calls : List Call) (s : σ) :
    let noted := (run a.noted (outlook.of Prod.snd) pid library).run (calls, s)
    (∃ made, noted.state.1 = calls ++ made ∧ Calls a outlook pid library s made) ∧
      noted.seen Prod.snd = (run a outlook pid library).run s := by
  intro noted
  refine ⟨?_, (mirrors_run a outlook pid library).run rfl⟩
  cases resolved : library.resolve (outlook.workingDirectory s) with
  | error fault =>
    refine ⟨[], ?_, .unresolved resolved⟩
    simp only [noted, run, run_look_bind, Outlook.of, resolved, run_ofExcept_error_bind, List.append_nil]
  | ok path =>
    cases present : outlook.present path s with
    | true => exact calls_present resolved present calls
    | false =>
      refine ⟨[], ?_, .missing resolved present⟩
      simp [noted, run, Outlook.of, resolved, present]

end JvmAttach.Load
