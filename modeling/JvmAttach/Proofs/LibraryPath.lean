import JvmAttach.Host.Basic

/-! Paths of libraries. One that is found can stand in a request and is taken as it is written,
since it is absolute and has no NUL in it. -/
namespace JvmAttach

namespace Path

theorem isAbsolute_join {p : Path} (absolute : p.isAbsolute = true) (q : Path) :
    (p.join q).isAbsolute = true := by
  simp only [isAbsolute, beq_iff_eq] at absolute
  obtain ⟨rest, whole⟩ := List.head?_eq_some_iff.1 absolute
  simp only [join]
  split
  · assumption
  · split
    · simp [isAbsolute, whole]
    · simp [isAbsolute, whole]

end Path

theorem AgentLibrary.isAbsolute_resolve {library : AgentLibrary} {working : Except SystemFault Path}
    {path : Path} (rooted : ∀ directory, working = .ok directory → directory.isAbsolute = true)
    (resolved : library.resolve working = .ok path) : path.isAbsolute = true := by
  simp only [resolve] at resolved
  split at resolved
  · cases resolved
  · split at resolved
    · cases resolved
      assumption
    · cases working with
      | error fault => cases resolved
      | ok directory =>
        cases resolved
        exact Path.isAbsolute_join (rooted directory rfl) _

/-- What a load relies on when it looks around: a working directory is absolute, and no path with a NUL in it
is there. -/
structure Outlook.Sound {σ : Type} (outlook : Outlook σ) : Prop where
  rooted {s : σ} {directory : Path} (working : outlook.workingDirectory s = .ok directory) :
    directory.isAbsolute = true
  free {s : σ} {path : Path} (present : outlook.present path s = true) : (0 : UInt8) ∉ path.bytes

namespace Host

theorem Machine.isAbsolute_pathTo {m : Machine} {i : Inode} {path : Path} (found : m.pathTo i = .ok path) :
    path.isAbsolute = true := by
  simp only [pathTo] at found
  split at found
  · cases found
    simp [Path.isAbsolute]
  · cases found

theorem isAbsolute_resolve {library : AgentLibrary} {h : Host} {path : Path}
    (resolved : library.resolve (outlook.workingDirectory h) = .ok path) : path.isAbsolute = true :=
  AgentLibrary.isAbsolute_resolve (fun _ => Machine.isAbsolute_pathTo) resolved

theorem free_of_present {path : Path} {h : Host} (present : outlook.present path h = true) :
    (0 : UInt8) ∉ path.bytes := by
  intro mem
  have found : h.machine.find h.caller true path = .error .nulInPath := by
    simp [Machine.find, mem]
  simp [outlook, Machine.present, Machine.stat, found, Except.isOk, Except.toBool] at present

theorem sound_outlook : outlook.Sound := ⟨Machine.isAbsolute_pathTo, free_of_present⟩

end Host

end JvmAttach
