import JvmAttach.Load
import JvmAttach.Proofs.Guard

/-! What a load comes to when its load and its detach both return. Only the guard's own detach
counts, since behind it the drop finds the guard disarmed. -/
namespace JvmAttach.Load

open Act Guard

variable {τ σ : Type}

/-- The worth of the load call: the one failure that is expected counts as success. -/
def worth : Except AttachFault Unit → Except AttachFault LoadResult
  | .ok () => .ok .loaded
  | .error fault => if fault.isIgnorable then .ok .initializationSignalled else .error fault

/-- The worth of the load call, and of the detach behind it only where that call is worth something. -/
def verdict : Except AttachFault LoadResult → Except AttachFault Unit → Except AttachFault LoadResult
  | .ok outcome, .ok () => .ok outcome
  | .ok _, .error fault => .error fault
  | .error fault, _ => .error fault

/-- What is said when the load call has returned. -/
def remarks (pid : Pid) : Except AttachFault Unit → List Log.Entry
  | .ok () => []
  | .error fault => if fault.isIgnorable then [signalled pid fault] else []

/-- What is said when the detach has returned, too. -/
def lastWords (pid : Pid) : Except AttachFault LoadResult → Except AttachFault Unit → List Log.Entry
  | .ok outcome, .ok () => [detached pid outcome]
  | .error _, .error second => [detachFailed pid second]
  | _, _ => []

theorem run_judge (pid : Pid) (loaded : Except AttachFault Unit) (s : Guard τ × σ) :
    (judge pid loaded).run s = ⟨.ok (worth loaded), s, remarks pid loaded⟩ := by
  cases loaded with
  | ok done => rfl
  | error fault =>
    by_cases expected : fault.isIgnorable
    · simp only [judge, worth, remarks, expected, ↓reduceIte]
      rfl
    · simp only [judge, worth, remarks, expected, Bool.false_eq_true, ↓reduceIte]
      rfl

theorem run_conclude (pid : Pid) (judged : Except AttachFault LoadResult)
    (ended : Except AttachFault Unit) (s : Guard τ × σ) :
    (conclude pid judged ended).run s =
      ⟨.ofExcept (verdict judged ended), s, lastWords pid judged ended⟩ := by
  cases judged <;> cases ended <;> rfl

theorem run_underGuard {m : VirtualMachine τ σ} (pid : Pid) {path : Path} {handle used last : τ}
    (armed : Bool) {s t u : σ} {loaded ended : Except AttachFault Unit} {log words : List Log.Entry}
    (load : (m.load path "").run (handle, s) = ⟨.ofExcept loaded, (used, t), log⟩)
    (detach : m.detach.run (used, t) = ⟨.ofExcept ended, (last, u), words⟩) :
    (underGuard m pid path).run (⟨handle, armed⟩, s) =
      ⟨.ofExcept (verdict (worth loaded) ended), (⟨last, false⟩, u),
        log ++ (remarks pid loaded ++ (words ++ lastWords pid (worth loaded) ended))⟩ := by
  have first : (through (m.load path "")).run (⟨handle, armed⟩, s) =
      ⟨.ofExcept loaded, (⟨used, armed⟩, t), log⟩ := by
    simp only [through, within, load]
  have second : (Guard.detach m).run (⟨used, armed⟩, t) =
      ⟨.ofExcept ended, (⟨last, false⟩, u), words⟩ := by
    simp only [Guard.detach, disarm, run_change_bind, through, within, detach]
  rw [underGuard, run_bind_ok (run_attempt first), run_bind_ok (run_judge pid loaded _),
    run_bind_ok (run_attempt second), run_conclude]

theorem run_holding {m : VirtualMachine τ σ} (pid : Pid) {path : Path} {handle used last : τ}
    {s t u : σ} {loaded ended : Except AttachFault Unit} {log words : List Log.Entry}
    (load : (m.load path "").run (handle, s) = ⟨.ofExcept loaded, (used, t), log⟩)
    (detach : m.detach.run (used, t) = ⟨.ofExcept ended, (last, u), words⟩) :
    (holding m handle (underGuard m pid path)).run s =
      ⟨.ofExcept (verdict (worth loaded) ended), u,
        log ++ (remarks pid loaded ++ (words ++ lastWords pid (worth loaded) ended))⟩ := by
  simp only [holding, run_closing_disarmed (run_underGuard pid true load detach) rfl]

variable {a : Attacher τ σ} {outlook : Outlook σ} {pid : Pid} {library : AgentLibrary} {path : Path} {s : σ}

theorem run_unresolved {fault : AttachFault} (failed : library.resolve (outlook.workingDirectory s) = .error fault) :
    (run a outlook pid library).run s = ⟨.error fault, s, []⟩ := by
  simp only [run, run_look_bind, failed, run_ofExcept_error_bind]

theorem run_absent (resolved : library.resolve (outlook.workingDirectory s) = .ok path)
    (absent : outlook.present path s = false) :
    (run a outlook pid library).run s = ⟨.error (.libraryMissing library.name path), s, []⟩ := by
  simp only [run, run_look_bind, resolved, run_ofExcept_ok_bind, absent, Bool.false_eq_true, ↓reduceIte, run_fail]

theorem run_there (resolved : library.resolve (outlook.workingDirectory s) = .ok path)
    (present : outlook.present path s = true) :
    (run a outlook pid library).run s =
      let rest := (a.attach pid >>= fun handle =>
        holding a.toVirtualMachine handle (underGuard a.toVirtualMachine pid path)).run s
      ⟨rest.outcome, rest.state, attaching pid path :: rest.log⟩ := by
  simp only [run, run_look_bind, resolved, run_ofExcept_ok_bind, present, ↓reduceIte, run_tell_bind]

theorem run_present {handle : τ} (resolved : library.resolve (outlook.workingDirectory s) = .ok path)
    (present : outlook.present path s = true)
    (attached : ((a.attach pid).run s).outcome = .ok handle) :
    (run a outlook pid library).run s =
      let first := (a.attach pid).run s
      let rest := (holding a.toVirtualMachine handle (underGuard a.toVirtualMachine pid path)).run first.state
      ⟨rest.outcome, rest.state, attaching pid path :: (first.log ++ rest.log)⟩ := by
  rcases ran : (a.attach pid).run s with ⟨outcome, t, log⟩
  rw [ran] at attached
  subst attached
  simp only [run_there resolved present, run_bind_ok ran]

end JvmAttach.Load
