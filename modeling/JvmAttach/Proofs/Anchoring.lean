import JvmAttach.Proofs.Components
import JvmAttach.Proofs.Encoding
import JvmAttach.Proofs.LibraryPath

/-! Where a library is looked up. Its name is one step down from a directory, or it is refused before the
working directory counts for anything. The directory is taken from the working directory unless it is
absolute, and it makes no difference whether that is done before the name is joined to it or after. -/
namespace JvmAttach.AgentLibrary

open JvmAttach.Path

variable {library : AgentLibrary} {name : String}

/-- A name that is a single step of a path and leads down. -/
def Bare (name : String) : Prop := name ≠ "" ∧ '/' ∉ name.toList ∧ name ≠ "." ∧ name ≠ ".."

instance (name : String) : Decidable (Bare name) := inferInstanceAs (Decidable (_ ∧ _))

theorem plain_iff_bare : Plain (Text.bytesOf name) ↔ Bare name := by
  have free : slash ∈ Text.bytesOf name ↔ '/' ∈ name.toList := Text.mem_encode (by decide)
  have same (other : String) : Text.bytesOf name = Text.bytesOf other ↔ name = other :=
    ⟨Text.bytesOf_injective, congrArg _⟩
  have empty : Text.bytesOf name = [] ↔ name = "" := same ""
  have dotted : Text.bytesOf name = [dot] ↔ name = "." := same "."
  have up : Text.bytesOf name = [dot, dot] ↔ name = ".." := same ".."
  constructor
  · rintro ⟨clear, step, down⟩
    simp only [isIdle, Bool.or_eq_false_iff, List.isEmpty_eq_false_iff, beq_eq_false_iff_ne] at step
    exact ⟨mt empty.2 step.1, mt free.2 clear, mt dotted.2 step.2, mt up.2 down⟩
  · rintro ⟨some, clear, undotted, down⟩
    refine ⟨mt free.1 clear, ?_, mt up.1 down⟩
    simp [isIdle, empty, dotted, some, undotted]

theorem isBare_iff : library.isBare = true ↔ Bare library.name := by
  rw [isBare, beq_iff_eq, ofString, fileName?_eq_self_iff, plain_iff_bare]

/-- The directory that the name is joined to, as seen from the working directory. -/
def anchor (library : AgentLibrary) (working : Except SystemFault Path) : Except SystemFault Path :=
  match library.directory with
  | some directory => if directory.isAbsolute then .ok directory else working.map (·.join directory)
  | none => working

theorem resolve_refused (refused : ¬ Bare library.name) (working : Except SystemFault Path) :
    library.resolve working = .error (notBare library.name) := by
  rw [← isBare_iff, Bool.not_eq_true] at refused
  simp [resolve, refused]

/-- Anchoring the directory comes to the same as anchoring the name in it. -/
theorem resolve_bare (bare : Bare library.name) (working : Except SystemFault Path) :
    library.resolve working =
      ((library.anchor working).mapError .io).map (·.join (ofString library.name)) := by
  have relative : (ofString library.name).isAbsolute = false :=
    relative_of_headless (plain_iff_bare.2 bare).head
  have named : library.isBare = true := isBare_iff.2 bare
  obtain ⟨name, directory⟩ := library
  cases directory with
  | none =>
    simp only [resolve, named, location, anchor, relative]
    cases working <;> rfl
  | some directory =>
    simp only [resolve, named, location, anchor, isAbsolute_join_relative directory relative]
    cases directory.isAbsolute with
    | true => rfl
    | false =>
      cases working with
      | error fault => rfl
      | ok c => exact congrArg Except.ok (join_assoc c directory (ofString name)).symm

theorem resolve_eq_invalid_iff {working : Except SystemFault Path} {why : String} :
    library.resolve working = .error (.invalidArgument why) ↔ ¬ Bare library.name ∧
      why = s!"agent library name must be a bare file name, got '{library.name}'" := by
  by_cases bare : Bare library.name
  · rw [resolve_bare bare]
    cases library.anchor working <;> simp [bare, Except.map, Except.mapError]
  · rw [resolve_refused bare]
    simp [bare, notBare, eq_comm]

theorem anchor_eq_error_iff {working : Except SystemFault Path} {cause : SystemFault} :
    library.anchor working = .error cause ↔ working = .error cause ∧
      ∀ directory, library.directory = some directory → directory.isAbsolute = false := by
  obtain ⟨name, directory⟩ := library
  cases directory with
  | none => simp [anchor]
  | some directory =>
    cases absolute : directory.isAbsolute <;> cases working <;> simp [anchor, absolute, Except.map]

theorem isAbsolute_anchor {working : Except SystemFault Path} {directory : Path}
    (rooted : ∀ c, working = .ok c → c.isAbsolute = true) (found : library.anchor working = .ok directory) :
    directory.isAbsolute = true := by
  obtain ⟨name, given⟩ := library
  cases given with
  | none => exact rooted directory found
  | some given =>
    simp only [anchor] at found
    split at found
    · cases found; assumption
    · cases working with
      | error fault => cases found
      | ok c => cases found; exact isAbsolute_join (rooted c rfl) given

/-- A name is refused if and only if it is not one step down, wherever we work. Any other is found as a path
whose last step it is and that is held by a path with the steps of the directory; only without a working
directory, where that is needed, there is none. -/
theorem resolve_confined (library : AgentLibrary) (working : Except SystemFault Path) :
    (∀ why, library.resolve working = .error (.invalidArgument why) ↔ ¬ Bare library.name ∧
      why = s!"agent library name must be a bare file name, got '{library.name}'") ∧
    (Bare library.name →
      (∀ fault, library.resolve working = .error fault ↔ ∃ cause, fault = .io cause ∧ working = .error cause ∧
        ∀ directory, library.directory = some directory → directory.isAbsolute = false) ∧
      ∀ directory, library.anchor working = .ok directory → ∃ path, library.resolve working = .ok path ∧
        ((∀ c, working = .ok c → c.isAbsolute = true) → path.isAbsolute = true) ∧
        path.fileName? = some (Text.bytesOf library.name) ∧
        path.components = directory.components ++ [.name (Text.bytesOf library.name)] ∧
        ∃ parent, path.parent? = some parent ∧ parent.components = directory.components) := by
  refine ⟨fun why => resolve_eq_invalid_iff, fun bare => ?_⟩
  have plain := plain_iff_bare.2 bare
  rw [resolve_bare bare]
  refine ⟨fun fault => ?_, fun directory found => ?_⟩
  · simp only [← anchor_eq_error_iff]
    cases library.anchor working <;> simp [Except.map, Except.mapError, eq_comm]
  · rw [found]
    refine ⟨directory.join (ofString library.name), rfl, fun rooted => ?_, plain.fileName?_join directory,
      plain.components_join directory, plain.parent_join directory⟩
    exact isAbsolute_join (isAbsolute_anchor rooted found) _

/-- A relative directory with slashes and a dot at its end is still one the library does not leave. -/
theorem resolve_confined_dotted :
    let library : AgentLibrary := { name := "a.so", directory := some (ofString "../x//.") }
    ∃ path, library.resolve (.ok (ofString "/w/")) = .ok path ∧ path.isAbsolute = true ∧
      path.components = [.root, .name (Text.bytesOf "w"), .up, .name (Text.bytesOf "x"),
        .name (Text.bytesOf "a.so")] := by
  intro library
  obtain ⟨-, found⟩ := resolve_confined library (.ok (ofString "/w/"))
  obtain ⟨-, there⟩ := found (by decide)
  obtain ⟨path, resolved, absolute, -, components, -⟩ := there (ofString "/w/../x//.") (by decide)
  refine ⟨path, resolved, absolute fun c same => ?_, components⟩
  cases same
  decide

/-- For a name that is one step down, an absolute directory decides alone. A relative one comes to the same as
that directory seen from the working directory, and no directory or an empty one to the same as the working
directory itself; once a directory is absolute, the working directory need not even be there. -/
theorem resolve_anchored (bare : Bare name) {c : Path} (rooted : c.isAbsolute = true) (d : Path) :
    let library : AgentLibrary := { name }
    (d.isAbsolute = true → ∀ working,
      (library.inDirectory d).resolve working = .ok (d.join (ofString name))) ∧
    (d.isAbsolute = false →
      (library.inDirectory d).resolve (.ok c) = .ok ((c.join d).join (ofString name)) ∧
      ∀ working, (library.inDirectory (c.join d)).resolve working = .ok ((c.join d).join (ofString name))) ∧
    library.resolve (.ok c) = .ok (c.join (ofString name)) ∧
    (library.inDirectory ⟨[]⟩).resolve (.ok c) = .ok (c.join (ofString name)) ∧
    ∀ working, (library.inDirectory c).resolve working = .ok (c.join (ofString name)) := by
  intro library
  have fixed {directory : Path} (absolute : directory.isAbsolute = true) (working : Except SystemFault Path) :
      (library.inDirectory directory).resolve working = .ok (directory.join (ofString name)) := by
    rw [resolve_bare bare]
    simp [anchor, inDirectory, absolute, library, Except.map, Except.mapError]
  have seen {directory : Path} (relative : directory.isAbsolute = false) :
      (library.inDirectory directory).resolve (.ok c) = .ok ((c.join directory).join (ofString name)) := by
    rw [resolve_bare bare]
    simp [anchor, inDirectory, relative, library, Except.map, Except.mapError]
  have nothing : (Path.mk []).join (ofString name) = ofString name := by
    simp [join]
  refine ⟨fixed, fun relative => ⟨seen relative, fixed (isAbsolute_join rooted d)⟩, ?_, ?_, fixed rooted⟩
  · rw [resolve_bare bare]
    rfl
  · rw [seen rfl, join_assoc, nothing]

/-- From the root, a directory with slashes at its end. -/
theorem resolve_anchored_slashed :
    let library : AgentLibrary := { name := "a.so" }
    (library.inDirectory (ofString "x//")).resolve (.ok (ofString "/")) = .ok (ofString "/x//a.so") ∧
      library.resolve (.ok (ofString "/")) = (library.inDirectory ⟨[]⟩).resolve (.ok (ofString "/")) := by
  intro library
  have bare : Bare "a.so" := by decide
  obtain ⟨-, relative, here, empty, -⟩ := resolve_anchored bare (c := ofString "/") (by decide) (ofString "x//")
  exact ⟨(relative (by decide)).1, here.trans empty.symm⟩

end JvmAttach.AgentLibrary
