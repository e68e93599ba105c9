import JvmAttach.Logging.LogFile
import JvmAttach.Proofs.Components
import JvmAttach.Proofs.Directories
import JvmAttach.Proofs.Faults

/-! The directory and the name of a log file. A path that ends without a name is refused before anything is
made. Any other is split at its last step: the two parts, joined again, go the way that the path goes, and
the directory is there when the parts are given. -/
namespace JvmAttach

open Act Host

namespace Path

variable {p : Path}

/-- A path that ends without a name: nothing but dots stands between its slashes, or the last step goes up. -/
def Nameless (p : Path) : Prop :=
  let last := ((pieces slash p.bytes).filter fun piece => !isIdle piece).getLast?
  last = none ∨ last = some [dot, dot]

instance (p : Path) : Decidable p.Nameless := inferInstanceAs (Decidable (_ ∨ _))

theorem fileName?_eq_none_iff : p.fileName? = none ↔ p.Nameless := by
  rw [Nameless, ← steps_eq]
  rcases List.eq_nil_or_concat' p.body with nothing | ⟨ps, last, ended⟩
  · simp [fileName?, nothing, steps_bodiless nothing]
  · obtain ⟨before, steps⟩ := steps_body ended
    simp [fileName?, ended, steps]

example : (ofString "").Nameless ∧ (ofString "/").Nameless ∧ (ofString "logs/.././/").Nameless ∧
    ¬ (ofString "../logs/.").Nameless := by decide

end Path

theorem Host.errs_makeNested (paths : List Path) : Errs (fun _ => True) False (makeNested paths) := by
  have makes (path : Path) : Errs (fun _ => True) False (makeDirectory path) :=
    Attach.errs_changing (fun _ => trivial) _ _
  refine makeNested_of_steps (.pure _) (fun _ => .fail trivial) (fun path fault h => ?_)
    (fun path next rest => .bind (makes path).attempt rest)
    (fun first second before behind => .bind before fun _ => behind) paths
  rw [run_settling]
  split <;> trivial

namespace LogFile

variable {path directory : Path} {name : Bytes} {h : Host}

theorem split_of_nameless (unnamed : path.fileName? = none) : split path = .error (noFileName path) := by
  simp only [split, unnamed]

/-- A path with a name in it has a directory, and the name is a plain one. Joined again, they have the components
of the path; where these are the name alone, the working directory stands for the directory. -/
theorem split_of_name (named : path.fileName? = some name) : ∃ directory, split path = .ok (directory, name) ∧
    directory.Cut ∧ directory.bytes.isEmpty = false ∧ Path.Plain name ∧
    (directory.join ⟨name⟩).components =
      if path.components.length = 1 then .current :: path.components else path.components := by
  obtain ⟨ps, ended⟩ := Path.body_of_name named
  have plain := Path.Plain.of_fileName? named
  have found := Path.parent?_of_body ended
  have cut := Path.cut_parent ended
  obtain ⟨parent, same, whole⟩ := Path.exists_parent ended
  obtain rfl := Option.some.inj (found.symm.trans same)
  rw [plain.component] at whole
  simp only [split, named, found]
  split
  · rename_i empty
    have nothing : Path.components _ = [] := congrArg (fun bytes => Path.components ⟨bytes⟩) (List.isEmpty_iff.1 empty)
    refine ⟨here, rfl, by decide, rfl, plain, ?_⟩
    rw [plain.components_join, whole, nothing]
    rfl
  · rename_i some
    refine ⟨_, rfl, cut, Bool.eq_false_iff.2 some, plain, ?_⟩
    have more : Path.components _ ≠ [] := fun none => some (List.isEmpty_iff.2 (cut.empty none))
    rw [plain.components_join, ← whole, if_neg]
    rw [whole, List.length_append, List.length_singleton, Nat.add_eq_right, List.length_eq_zero_iff]
    exact more

theorem run_prepare_of_nameless (unnamed : path.fileName? = none) :
    (prepare path).run h = ⟨.error (noFileName path), h, []⟩ := by
  simp only [prepare, split_of_nameless unnamed, run_ofExcept_error_bind]

theorem prepare_cases (parts : split path = .ok (directory, name)) :
    let making := (makeDirectories directory).run h
    let preparing := (prepare path).run h
    preparing.state = making.state ∧
      ((∃ fault, making.outcome = .error fault ∧ preparing.outcome = .error (.file fault)) ∨
        making.outcome = .ok () ∧ preparing.outcome = .ok (directory, name)) := by
  intro making preparing
  obtain ⟨result, ended, -⟩ := (errs_makeNested directory.ancestry h).returned
  rcases ran : (makeDirectories directory).run h with ⟨outcome, t, log⟩
  obtain rfl : outcome = .ofExcept result := by
    rw [← ended, show makeNested directory.ancestry = makeDirectories directory from rfl, ran]
  have whole : making = ⟨.ofExcept result, t, log⟩ := ran
  rw [whole]
  cases result with
  | error fault =>
    have tried : ((makeDirectories directory).mapError LogFault.file).run h = ⟨.error (.file fault), t, log⟩ := by
      simp only [mapError, ran, Outcome.ofExcept]
    have refused : preparing = ⟨.error (.file fault), t, log⟩ := by
      simp only [preparing, prepare, parts, run_ofExcept_ok_bind, run_bind_error tried]
    rw [refused]
    exact ⟨rfl, .inl ⟨fault, rfl, rfl⟩⟩
  | ok done =>
    have tried : ((makeDirectories directory).mapError LogFault.file).run h = ⟨.ok (), t, log⟩ :=
      run_mapError_ok ran _
    have prepared : preparing.state = t ∧ preparing.outcome = .ok (directory, name) := by
      simp only [preparing, prepare, parts, run_ofExcept_ok_bind, run_bind_ok tried, run_pure]
      trivial
    exact ⟨prepared.1, .inr ⟨rfl, prepared.2⟩⟩

/-- A log file path is refused for want of a name, and then nothing is made, if and only if it ends without one: if
it has nothing but dots between its slashes or goes up in the end, and so its last component is no name. Any
other path gives a directory that is there and a single step for a name, which joined again have the components of
the path, behind a dot where these are the name alone. Only a directory that cannot be made is in the way of that,
and nothing is done but to make it. -/
theorem prepare_splits (path : Path) (h : Host) :
    (path.Nameless ↔ ∀ name, path.components.getLast? ≠ some (.name name)) ∧
    ((∃ why, ((prepare path).run h).outcome = .error (.initializationFailed why)) ↔ path.Nameless) ∧
    (path.Nameless → (prepare path).run h =
      ⟨.error (.initializationFailed s!"log file path has no file name: {path.shown}"), h, []⟩) ∧
    ∀ name, path.components.getLast? = some (.name name) → ∃ directory,
      Path.slash ∉ name ∧ Path.components ⟨name⟩ = [.name name] ∧ directory.bytes ≠ [] ∧
      (directory.join ⟨name⟩).components =
        (if path.components.length = 1 then .current :: path.components else path.components) ∧
      let making := (makeDirectories directory).run h
      let preparing := (prepare path).run h
      preparing.state = making.state ∧
        ((∃ fault, making.outcome = .error fault ∧ preparing.outcome = .error (.file fault)) ∨
          making.outcome = .ok () ∧ preparing.outcome = .ok (directory, name) ∧
            preparing.state.machine.isDirectory preparing.state.caller directory = true) := by
  have nameless : path.Nameless ↔ ∀ name, path.components.getLast? ≠ some (.name name) := by
    simp only [← Path.fileName?_eq_none_iff, ← Path.fileName?_eq_some_iff, ne_eq, Option.eq_none_iff_forall_ne_some]
  have refused (unnamed : path.Nameless) : (prepare path).run h = ⟨.error (noFileName path), h, []⟩ :=
    run_prepare_of_nameless (Path.fileName?_eq_none_iff.2 unnamed)
  refine ⟨nameless, ⟨?_, fun unnamed => ⟨_, by rw [refused unnamed]; rfl⟩⟩, refused, fun name named => ?_⟩
  · rintro ⟨why, failed⟩
    cases named : path.fileName? with
    | none => exact Path.fileName?_eq_none_iff.1 named
    | some name =>
      obtain ⟨directory, parts, -⟩ := split_of_name named
      obtain ⟨-, ⟨fault, -, ended⟩ | ⟨-, ended⟩⟩ := prepare_cases (h := h) parts <;> cases failed.symm.trans ended
  · obtain ⟨directory, parts, cut, some, plain, joined⟩ := split_of_name (Path.fileName?_eq_some_iff.2 named)
    obtain ⟨state, ended⟩ := prepare_cases (h := h) parts
    refine ⟨directory, plain.free, plain.components, List.isEmpty_eq_false_iff.1 some, joined, state, ?_⟩
    rcases ended with barred | ⟨housed, prepared⟩
    · exact .inl barred
    · rw [state]
      exact .inr ⟨housed, prepared, isDirectory_of_makeDirectories cut some housed⟩

/-- Two directories that are not there yet, in a path with slashes and dots to spare. -/
theorem prepare_splits_roundabout :
    let path := Path.ofString "/var//./log/agent.log/."
    let name := Text.bytesOf "agent.log"
    let preparing := (prepare path).run (Host.alone .bare 1 Machine.rootInode "2024-05-06")
    path.components.getLast? = some (.name name) ∧ preparing.outcome = .ok (Path.ofString "/var//./log", name) ∧
      ((Path.ofString "/var//./log").join ⟨name⟩).components = path.components ∧
      preparing.state.machine.isDirectory preparing.state.caller (Path.ofString "/var//./log") = true := by
  intro path name preparing
  have named : path.components.getLast? = some (.name name) := by decide +kernel
  have ended : preparing.outcome = .ok (Path.ofString "/var//./log", name) := by decide +kernel
  obtain ⟨-, -, -, split⟩ := prepare_splits path (Host.alone .bare 1 Machine.rootInode "2024-05-06")
  obtain ⟨directory, -, -, -, joined, -, ⟨fault, -, failed⟩ | ⟨-, prepared, there⟩⟩ := split name named
  · exact nomatch failed.symm.trans ended
  · obtain rfl : directory = Path.ofString "/var//./log" :=
      congrArg Prod.fst (Outcome.ok.inj (prepared.symm.trans ended))
    exact ⟨named, ended, joined, there⟩

end LogFile

end JvmAttach
