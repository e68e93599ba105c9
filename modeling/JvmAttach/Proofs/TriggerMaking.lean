import JvmAttach.Attach.Trigger
import JvmAttach.Proofs.Directories
import JvmAttach.Proofs.Removal

/-! Making and discarding a trigger, as steps on a host. A trigger is made by one of two paths or not
at all, and discarding removes what its path leads to by then, if it can. -/
namespace JvmAttach.Attach

open Act Host Host.Machine

variable {pid : Pid} {inner : UInt32} {directory path : Path} {h made : Host}

theorem run_createFile_ok {machine : Machine} (opened : h.machine.openFile h.caller true path = .ok machine) :
    (createFile path).run h = ⟨.ok (), record (.created path) { h with machine }, []⟩ := run_changing_ok opened

theorem run_createFile_error {fault : SystemFault} (refused : h.machine.openFile h.caller true path = .error fault) :
    (createFile path).run h = ⟨.error fault, h, []⟩ := run_changing_error refused

theorem run_removeFile_ok {machine : Machine} (removed : h.machine.remove h.caller path = .ok machine) :
    (removeFile path).run h = ⟨.ok (), record (.removed path) { h with machine }, []⟩ := run_changing_ok removed

theorem run_removeFile_error {fault : SystemFault} (refused : h.machine.remove h.caller path = .error fault) :
    (removeFile path).run h = ⟨.error fault, h, []⟩ := run_changing_error refused

namespace Trigger

/-- Where a trigger can be, in the order in which it is tried. -/
def places (pid : Pid) (inner : UInt32) (directory : Path) : List Path :=
  [inDirectory pid inner, inTemporary directory inner]

/-- A trigger is made by one of its paths, and nothing else changes; or by none, and nothing does. -/
theorem create_cases (pid : Pid) (inner : UInt32) (directory : Path) (h : Host) :
    (∃ path ∈ places pid inner directory, ∃ machine log,
      h.machine.openFile h.caller true path = .ok machine ∧
      (create pid inner directory).run h = ⟨.ok path, record (.created path) { h with machine }, log⟩) ∨
    ∃ first second log, h.machine.openFile h.caller true (inDirectory pid inner) = .error first ∧
      h.machine.openFile h.caller true (inTemporary directory inner) = .error second ∧
      (create pid inner directory).run h = ⟨.error (.io second), h, log⟩ := by
  cases near : h.machine.openFile h.caller true (inDirectory pid inner) with
  | ok machine =>
    refine .inl ⟨_, List.mem_cons_self, machine, [], near, ?_⟩
    rw [create, run_bind_ok (run_attempt (r := .ok ()) (run_createFile_ok near))]
    rfl
  | error first =>
    have tried := run_attempt (δ := AttachFault) (r := .error first) (run_createFile_error near)
    cases far : h.machine.openFile h.caller true (inTemporary directory inner) with
    | ok machine =>
      have second : ((createFile (inTemporary directory inner)).mapError AttachFault.io).run h =
          ⟨.ok (), record (.created (inTemporary directory inner)) { h with machine }, []⟩ := by
        simp only [mapError, run_createFile_ok far]
      refine .inl ⟨_, List.mem_cons_of_mem _ List.mem_cons_self, machine,
        [usingTemporary (inDirectory pid inner) first], far, ?_⟩
      rw [create, run_bind_ok tried]
      simp only [run_tell_bind, run_bind_ok second]
      rfl
    | error fault =>
      have second : ((createFile (inTemporary directory inner)).mapError AttachFault.io).run h =
          ⟨.error (.io fault), h, []⟩ := by
        simp only [mapError, run_createFile_error far]
      refine .inr ⟨first, fault, [usingTemporary (inDirectory pid inner) first], rfl, rfl, ?_⟩
      rw [create, run_bind_ok tried]
      simp only [run_tell_bind, run_bind_error second]
      rfl

theorem exists_of_create {log : List Log.Entry}
    (created : (create pid inner directory).run h = ⟨.ok path, made, log⟩) :
    ∃ machine, h.machine.openFile h.caller true path = .ok machine ∧
      made = record (.created path) { h with machine } := by
  rcases create_cases pid inner directory h with
    ⟨_, _, machine, _, opened, ran⟩ | ⟨_, _, _, _, _, ran⟩
  · rw [ran] at created
    cases created
    exact ⟨machine, opened, rfl⟩
  · rw [ran] at created
    cases created

theorem discard_cases (path : Path) (h : Host) :
    (∃ machine, h.machine.remove h.caller path = .ok machine ∧
      ((discard path).run h).state = record (.removed path) { h with machine }) ∨
    ∃ fault, h.machine.remove h.caller path = .error fault ∧ ((discard path).run h).state = h := by
  cases result : h.machine.remove h.caller path with
  | ok machine =>
    refine .inl ⟨machine, rfl, ?_⟩
    rw [discard, run_bind_ok (run_attempt (r := .ok ()) (run_removeFile_ok result))]
    rfl
  | error fault =>
    refine .inr ⟨fault, rfl, ?_⟩
    rw [discard, run_bind_ok (run_attempt (r := .error fault) (run_removeFile_error result))]
    rfl

theorem machine_discard (path : Path) (h : Host) :
    ((discard path).run h).state.machine = h.machine.removed h.caller path := by
  rcases discard_cases path h with ⟨machine, removed, state⟩ | ⟨fault, refused, state⟩
  · rw [state, Machine.removed, removed]
    rfl
  · rw [state, Machine.removed, refused]

end Trigger

end JvmAttach.Attach
