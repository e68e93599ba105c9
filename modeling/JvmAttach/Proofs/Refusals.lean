import JvmAttach.Proofs.Anchoring
import JvmAttach.Proofs.CallDiscipline
import JvmAttach.Proofs.OnePath

/-! What a load is refused for. It is the name of the library alone, and then nothing is called. When a load
is called, its path is absolute, since it is taken from an absolute directory, and has no NUL in it, since it
is there, so that no target is attached to for a request that cannot be made. -/
namespace JvmAttach

open Act

namespace Load

variable {τ σ : Type} {a : Attacher τ σ} {outlook : Outlook σ} {pid : Pid} {library : AgentLibrary} {s : σ}

theorem mem_load_noted_iff {path : Path} {options : String} :
    .load path options ∈ ((run a.noted (outlook.of Prod.snd) pid library).run ([], s)).state.1 ↔
      options = "" ∧ library.resolve (outlook.workingDirectory s) = .ok path ∧ outlook.present path s = true ∧
        ∃ handle, ((a.attach pid).run s).outcome = .ok handle := by
  have calls : Calls a outlook pid library s
      ((run a.noted (outlook.of Prod.snd) pid library).run ([], s)).state.1 := by
    cases resolved : library.resolve (outlook.workingDirectory s) with
    | error fault =>
      have uncalled : (run a.noted (outlook.of Prod.snd) pid library).run ([], s) = _ := run_unresolved resolved
      rw [uncalled]
      exact .unresolved resolved
    | ok found =>
      cases present : outlook.present found s with
      | false =>
        have uncalled : (run a.noted (outlook.of Prod.snd) pid library).run ([], s) = _ :=
          run_absent resolved present
        rw [uncalled]
        exact .missing resolved present
      | true =>
        obtain ⟨made, whole, calls⟩ := calls_present resolved present []
        rw [whole]
        exact calls
  exact calls.mem_load_iff

end Load

namespace Attach

variable {outlook : Outlook Host} {config : Config} {pid : Pid} {library : AgentLibrary} {path : Path} {h : Host}

theorem encode_of_present (sound : outlook.Sound) (present : outlook.present path h = true) :
    Wire.encode Wire.loadCommand (Wire.loadArguments path "") = .ok (Attachment.frame path "") := by
  have free : Attachment.Free path "" := ⟨sound.free present, by decide⟩
  rw [Attachment.encode_load, if_pos free]

theorem errs_load_of_present (sound : outlook.Sound)
    (resolved : library.resolve (outlook.workingDirectory h) = .ok path)
    (present : outlook.present path h = true) :
    Errs AttachFault.Proper False (Attachment.machine.load path "") :=
  Attachment.errs_load_of_free (AgentLibrary.isAbsolute_resolve (fun _ => sound.rooted) resolved)
    ⟨sound.free present, by decide⟩

theorem refused_iff (sound : outlook.Sound) {why : String} :
    ((Load.run (attacher config) outlook pid library).run h).outcome = .error (.invalidArgument why) ↔
      library.resolve (outlook.workingDirectory h) = .error (.invalidArgument why) := by
  cases resolved : library.resolve (outlook.workingDirectory h) with
  | error fault =>
    rw [Load.run_unresolved resolved]
    simp
  | ok path =>
    refine ⟨fun refused => ?_, nofun⟩
    cases present : outlook.present path h with
    | false =>
      rw [Load.run_absent resolved present] at refused
      cases refused
    | true =>
      have proper : ((Load.run (attacher config) outlook pid library).run h).outcome.Errs
          AttachFault.Proper True :=
        errs_there_of_load (fun _ proper => proper) (errs_load_of_present sound resolved present) (absurd trivial)
          resolved present
      rw [refused] at proper
      exact proper.elim

/-- An argument is found fault with if and only if it is the name of the library, and then nothing is called.
Behind every attach that succeeds a load is called, and no load that is called is refused: its path is
absolute, its request can be encoded, and no handle finds fault with either. -/
theorem refused_for_name_alone (sound : outlook.Sound) (config : Config) (pid : Pid) (library : AgentLibrary)
    (h : Host) :
    let noted := (Load.run (attacher config).noted (outlook.of Prod.snd) pid library).run ([], h)
    noted.seen Prod.snd = (Load.run (attacher config) outlook pid library).run h ∧
    (∀ why, noted.outcome = .error (.invalidArgument why) ↔ ¬ AgentLibrary.Bare library.name ∧
      why = s!"agent library name must be a bare file name, got '{library.name}'") ∧
    (¬ AgentLibrary.Bare library.name → noted.state = ([], h)) ∧
    (∀ path handle, library.resolve (outlook.workingDirectory h) = .ok path → outlook.present path h = true →
      ((attach config pid).run h).outcome = .ok handle → .load path "" ∈ noted.state.1) ∧
    ∀ path options, .load path options ∈ noted.state.1 → path.isAbsolute = true ∧
      (∃ request, Wire.encode Wire.loadCommand (Wire.loadArguments path options) = .ok request) ∧
      ∀ handle t why,
        ((Attachment.machine.load path options).run (handle, t)).outcome ≠ .error (.invalidArgument why) := by
  intro noted
  have same : noted.seen Prod.snd = (Load.run (attacher config) outlook pid library).run h :=
    (Load.mirrors_run (attacher config) outlook pid library).run rfl
  refine ⟨same, fun why => ?_, fun refused => ?_, fun path handle resolved present attached => ?_,
    fun path options called => ?_⟩
  · rw [← AgentLibrary.resolve_eq_invalid_iff, ← refused_iff sound, ← same]
    simp only [Step.seen]
  · have uncalled : noted = _ :=
      Load.run_unresolved (AgentLibrary.resolve_refused refused (outlook.workingDirectory h))
    rw [uncalled]
  · exact Load.mem_load_noted_iff.2 ⟨rfl, resolved, present, handle, attached⟩
  · obtain ⟨rfl, resolved, present, -⟩ := Load.mem_load_noted_iff.1 called
    refine ⟨AgentLibrary.isAbsolute_resolve (fun _ => sound.rooted) resolved,
      ⟨_, encode_of_present sound present⟩, fun handle t why refused => ?_⟩
    have proper := errs_load_of_present sound resolved present (handle, t)
    rw [refused] at proper
    exact proper

/-- A load is called for the library that is there, a name that leads elsewhere is refused without a call, and
a name with a NUL in it is not refused. -/
theorem refused_for_name_alone_served :
    let run (library : AgentLibrary) := (Load.run (attacher Config.standard).noted
      (Host.outlook.of Prod.snd) ⟨7⟩ library).run ([], answering signalling)
    Host.outlook.Sound ∧ .load ⟨Text.bytesOf "/liblo2s-perfmap.so"⟩ "" ∈ (run .perfmap).state.1 ∧
      (run { name := "../liblo2s-perfmap.so" }).state.1 = [] ∧
      ∀ why, (run { name := "liblo2s-perfmap.so\x00" }).outcome ≠ .error (.invalidArgument why) := by
  intro run
  have whole (library : AgentLibrary) :=
    refused_for_name_alone Host.sound_outlook Config.standard ⟨7⟩ library (answering signalling)
  obtain ⟨handle, attached, -⟩ := served_signalling.attached
  refine ⟨Host.sound_outlook, (whole .perfmap).2.2.2.1 _ handle (by rfl) (by rfl) attached, ?_, fun why refused => ?_⟩
  · have uncalled : (run { name := "../liblo2s-perfmap.so" }).state = ([], answering signalling) :=
      (whole { name := "../liblo2s-perfmap.so" }).2.2.1 (by decide)
    rw [uncalled]
  · obtain ⟨elsewhere, -⟩ := ((whole { name := "liblo2s-perfmap.so\x00" }).2.1 why).1 refused
    exact elsewhere (by decide)

end Attach

end JvmAttach
