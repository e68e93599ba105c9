import JvmAttach.Proofs.Channels
import JvmAttach.Proofs.LogFilePath

/-! Setting up a log file. A path without a name and a directory that cannot be made are errors, and then the
command fails with a message. A file that cannot be opened in its directory is a crash, because its writer opens
it at once and has no way to report that. -/
namespace JvmAttach

open Act Host

/-- The same end, but with another value where it is a good one. -/
def Outcome.replaced {ε α β : Type} (value : β) : Outcome ε α → Outcome ε β
  | .ok _ => .ok value
  | .error fault => .error fault
  | .crashed message => .crashed message
  | .aborted => .aborted

theorem Act.ends_bind_pure {ε σ α β : Type} (act : Act ε σ α) (value : β) (s : σ) :
    ((act >>= fun _ => Pure.pure value).run s).outcome = (act.run s).outcome.replaced value ∧
      ((act >>= fun _ => Pure.pure value).run s).state = (act.run s).state := by
  rcases ran : act.run s with ⟨outcome, t, log⟩
  cases outcome with
  | ok a => rw [run_bind_ok ran]; exact ⟨rfl, rfl⟩
  | error fault => rw [run_bind_error ran]; exact ⟨rfl, rfl⟩
  | crashed message => rw [run_bind_crashed ran]; exact ⟨rfl, rfl⟩
  | aborted => rw [run_bind_aborted ran]; exact ⟨rfl, rfl⟩

namespace Host

theorem date_makeDirectory (path : Path) : Leads (fun s t => t.date = s.date) (makeDirectory path) := by
  intro h
  cases made : h.machine.makeDirectory h.caller path with
  | ok machine =>
    have ran : (makeDirectory path).run h = _ := run_changing_ok made
    rw [ran]
    rfl
  | error fault =>
    have ran : (makeDirectory path).run h = _ := run_changing_error made
    rw [ran]

end Host

namespace LogFile

variable {openDaily : Path → Bytes → Act Empty Host Unit} {complaint : String}
variable {path directory : Path} {name : Bytes} {h t : Host} {outcome other : Outcome LogFault Unit}

/-- The file of the day in a directory, opened to be written to. -/
def opening (directory : Path) (name : Bytes) (h : Host) : Except SystemFault Machine :=
  h.machine.openFile h.caller false (dated directory name h.date)

/-- A writer that opens the file of the day at once and crashes with a complaint if it cannot, given a directory
that is there and a day without slashes. -/
structure Daily (openDaily : Path → Bytes → Act Empty Host Unit) (complaint : String) : Prop where
  opens : ∀ {directory : Path} {name : Bytes} {h : Host} {machine : Machine},
    opening directory name h = .ok machine → ((openDaily directory name).run h).outcome = .ok ()
  crashes : ∀ {path directory : Path} {name : Bytes} {h : Host} {fault : SystemFault},
    split path = .ok (directory, name) → h.machine.isDirectory h.caller directory = true →
      Path.slash ∉ Text.bytesOf h.date → opening directory name h = .error fault →
        ((openDaily directory name).run h).outcome = .crashed complaint

theorem parent?_dated {date : String} (cut : directory.Cut) (some : directory.bytes.isEmpty = false)
    (free : Path.slash ∉ name) (step : Path.isIdle name = false) (undated : Path.slash ∉ Text.bytesOf date) :
    (dated directory name date).parent? = .some directory := by
  have nonempty : directory.bytes ≠ [] := List.isEmpty_eq_false_iff.1 some
  refine Path.parent?_join cut nonempty ?_ ?_
  · refine List.not_mem_append free fun mem => ?_
    rcases List.mem_cons.1 mem with same | mem
    · exact absurd same (by decide)
    · exact undated mem
  · cases name with
    | nil => exact absurd step (by decide)
    | cons b name => simp [Path.isIdle]

/-- A second try to open the file is like the first, since its directory is there. -/
theorem run_openToday {fault : SystemFault} (held : (dated directory name t.date).parent? = some directory)
    (cut : directory.Cut) (there : t.machine.isDirectory t.caller directory = true)
    (refused : opening directory name t = .error fault) :
    (openToday directory name).run t = ⟨.crashed openingFailed, t, []⟩ := by
  have tried : (appendFile (dated directory name t.date)).run t = ⟨.error fault, t, []⟩ := run_changing_error refused
  have again : (do makeDirectories directory; appendFile (dated directory name t.date) : Act SystemFault Host Unit).run
      t = ⟨.error fault, t, []⟩ := by
    rw [run_bind_ok (makeDirectories_there cut there), tried]
    rfl
  have ended := run_attempt (δ := Empty) (r := .error fault) again
  rw [openToday, run_look_bind, run_bind_ok (run_attempt (r := .error fault) tried)]
  simp only [held]
  rw [run_bind_ok ended]
  rfl

theorem run_openToday_ok {machine : Machine} (opened : opening directory name t = .ok machine) :
    (openToday directory name).run t =
      ⟨.ok (), record (.opened (dated directory name t.date)) { t with machine }, []⟩ := by
  have tried : (appendFile (dated directory name t.date)).run t =
      ⟨.ok (), record (.opened (dated directory name t.date)) { t with machine }, []⟩ := run_changing_ok opened
  rw [openToday, run_look_bind, run_bind_ok (run_attempt (r := .ok ()) tried)]
  rfl

theorem name_of_split (parts : split path = .ok (directory, name)) : path.fileName? = some name := by
  cases named : path.fileName? with
  | none => exact nomatch (split_of_nameless named).symm.trans parts
  | some other =>
    obtain ⟨_, parts', _⟩ := split_of_name named
    cases parts.symm.trans parts'
    rfl

theorem daily_openToday : Daily openToday openingFailed where
  opens opened := congrArg Step.outcome (run_openToday_ok opened)
  crashes := by
    intro path directory name h fault parts there undated refused
    obtain ⟨_, parts', cut, some, plain, _⟩ := split_of_name (name_of_split parts)
    cases parts.symm.trans parts'
    have held := parent?_dated cut some plain.free plain.step undated
    exact congrArg Step.outcome (run_openToday held cut there refused)

/-- What setting up a log file comes to: it is refused for want of a name or of a directory, or the file of the
day is opened, or it cannot be. -/
inductive SetsUp (complaint : String) (path : Path) (h : Host) : Outcome LogFault Unit → Prop
  | nameless (unnamed : path.fileName? = none) : SetsUp complaint path h (.error (noFileName path))
  | unhoused {directory : Path} {name : Bytes} {fault : SystemFault} (parts : split path = .ok (directory, name))
      (barred : ((makeDirectories directory).run h).outcome = .error fault) :
      SetsUp complaint path h (.error (.file fault))
  | opened {directory : Path} {name : Bytes} {machine : Machine} (parts : split path = .ok (directory, name))
      (housed : ((makeDirectories directory).run h).outcome = .ok ())
      (opens : opening directory name ((makeDirectories directory).run h).state = .ok machine) :
      SetsUp complaint path h (.ok ())
  | unopenable {directory : Path} {name : Bytes} {fault : SystemFault} (parts : split path = .ok (directory, name))
      (housed : ((makeDirectories directory).run h).outcome = .ok ())
      (refused : opening directory name ((makeDirectories directory).run h).state = .error fault) :
      SetsUp complaint path h (.crashed complaint)

theorem run_setUp_of_nameless (openDaily : Path → Bytes → Act Empty Host Unit) (unnamed : path.fileName? = none) :
    (setUp openDaily path).run h = ⟨.error (noFileName path), h, []⟩ := by
  rw [setUp, run_bind_error (run_prepare_of_nameless unnamed)]

theorem setsUp (daily : Daily openDaily complaint) (path : Path) (undated : Path.slash ∉ Text.bytesOf h.date) :
    SetsUp complaint path h ((setUp openDaily path).run h).outcome := by
  cases named : path.fileName? with
  | none =>
    rw [run_setUp_of_nameless openDaily named]
    exact .nameless named
  | some name =>
    obtain ⟨directory, parts, cut, some, plain, -⟩ := split_of_name named
    obtain ⟨state, ended⟩ := prepare_cases (h := h) parts
    rcases ran : (prepare path).run h with ⟨outcome, t, log⟩
    rw [ran] at state ended
    obtain rfl : t = ((makeDirectories directory).run h).state := state
    rcases ended with ⟨fault, barred, refused⟩ | ⟨housed, prepared⟩
    · obtain rfl : outcome = .error (.file fault) := refused
      rw [setUp, run_bind_error ran]
      exact .unhoused parts barred
    · obtain rfl : outcome = .ok (directory, name) := prepared
      have there := isDirectory_of_makeDirectories cut some housed
      have kept : Leads (fun s t => t.date = s.date) (makeDirectories directory) :=
        leads_makeNested (Lasting.unchanged Host.date) date_makeDirectory directory.ancestry
      rw [setUp, run_bind_ok ran]
      cases opens : opening directory name ((makeDirectories directory).run h).state with
      | ok machine =>
        have written := daily.opens opens
        rcases opened : (openDaily directory name).run ((makeDirectories directory).run h).state with ⟨end', t, log⟩
        obtain rfl : end' = .ok () := by rw [opened] at written; exact written
        simp only [run_mapError_ok opened]
        exact .opened parts housed opens
      | error fault =>
        have crashed := daily.crashes parts there (by rw [kept h]; exact undated) opens
        rcases opened : (openDaily directory name).run ((makeDirectories directory).run h).state with ⟨end', t, log⟩
        obtain rfl : end' = .crashed complaint := by rw [opened] at crashed; exact crashed
        simp only [run_mapError_crashed opened]
        exact .unopenable parts housed opens

/-- The directory of a log file is there or can be made, and the file of the day cannot be opened in it. -/
def Unopenable (path : Path) (h : Host) : Prop :=
  ∃ directory name fault, split path = .ok (directory, name) ∧
    ((makeDirectories directory).run h).outcome = .ok () ∧
      opening directory name ((makeDirectories directory).run h).state = .error fault

theorem SetsUp.unique (sets : SetsUp complaint path h outcome) (sets' : SetsUp complaint path h other) :
    outcome = other := by
  cases sets with
  | nameless unnamed =>
    cases sets' with
    | nameless => rfl
    | unhoused parts | opened parts | unopenable parts => exact nomatch (split_of_nameless unnamed).symm.trans parts
  | unhoused parts barred =>
    cases sets' with
    | nameless unnamed => exact nomatch (split_of_nameless unnamed).symm.trans parts
    | unhoused parts' barred' =>
      cases parts.symm.trans parts'
      cases barred.symm.trans barred'
      rfl
    | opened parts' housed | unopenable parts' housed =>
      cases parts.symm.trans parts'
      exact nomatch barred.symm.trans housed
  | opened parts housed opens =>
    cases sets' with
    | nameless unnamed => exact nomatch (split_of_nameless unnamed).symm.trans parts
    | unhoused parts' barred =>
      cases parts.symm.trans parts'
      exact nomatch barred.symm.trans housed
    | opened => rfl
    | unopenable parts' _ refused =>
      cases parts.symm.trans parts'
      exact nomatch opens.symm.trans refused
  | unopenable parts housed refused =>
    cases sets' with
    | nameless unnamed => exact nomatch (split_of_nameless unnamed).symm.trans parts
    | unhoused parts' barred =>
      cases parts.symm.trans parts'
      exact nomatch barred.symm.trans housed
    | opened parts' _ opens =>
      cases parts.symm.trans parts'
      exact nomatch opens.symm.trans refused
    | unopenable => rfl

theorem SetsUp.crashes_iff (sets : SetsUp complaint path h outcome) :
    outcome = .crashed complaint ↔ Unopenable path h := by
  constructor
  · intro crashed
    cases sets with
    | nameless | unhoused | opened => cases crashed
    | unopenable parts housed refused => exact ⟨_, _, _, parts, housed, refused⟩
  · rintro ⟨directory, name, fault, parts, housed, refused⟩
    exact sets.unique (.unopenable parts housed refused)

theorem SetsUp.returned (sets : SetsUp complaint path h outcome) (openable : ¬ Unopenable path h) :
    ∃ result, outcome = .ofExcept result := by
  cases sets with
  | nameless => exact ⟨.error _, rfl⟩
  | unhoused => exact ⟨.error _, rfl⟩
  | opened => exact ⟨.ok (), rfl⟩
  | unopenable parts housed refused => exact absurd ⟨_, _, _, parts, housed, refused⟩ openable

end LogFile

namespace Logging

variable {backend : Backend} {level : Option String} {environment : Environment} {logging : Logging} {path : Path}
variable {h : Host}

theorem setUp_of_settings (inOrder : ((backend.settings level environment).run h).outcome = .ok logging)
    (wanted : fileOf environment = some path) :
    let opening := (LogFile.setUp backend.openDaily path).run h
    ((backend.setUp level environment).run h).outcome = opening.outcome.replaced logging ∧
      ((backend.setUp level environment).run h).state = opening.state := by
  have same := (settles backend level environment h).1
  rcases ran : (backend.settings level environment).run h with ⟨outcome, t, log⟩
  rw [ran] at same inOrder
  cases same
  cases inOrder
  rw [Backend.setUp, run_bind_ok ran]
  simp only [wanted]
  exact ends_bind_pure (LogFile.setUp backend.openDaily path) logging _

end Logging

namespace Command

open Logging LogFile

variable {kit : Kit} {options : Options} {environment : Environment} {arguments : List Bytes} {start : Host}
variable {path : Path} {logging : Logging} {complaint : String}

/-- A log file that cannot be set up makes the command fail with a message where it is refused for want of a name
or of a directory. Where its directory is there and the file of the day cannot be opened in it, and only there, the
command crashes. -/
theorem log_file_of_run (daily : Daily kit.backend.openDaily complaint) (asked : kit.parse arguments = .run options)
    (wanted : fileOf environment = some path)
    (inOrder : ((kit.backend.settings options.level environment).run start).outcome = .ok logging)
    (undated : Path.slash ∉ Text.bytesOf start.date) :
    let setting := (kit.backend.setUp options.level environment).run start
    let report := (kit.run arguments environment start).1
    (path.fileName? = none → setting.outcome =
      .error (.initializationFailed s!"log file path has no file name: {path.shown}") ∧ setting.state = start) ∧
    (∀ directory name, split path = .ok (directory, name) →
      let housed := (makeDirectories directory).run start
      let opened := housed.state.machine.openFile housed.state.caller false (dated directory name housed.state.date)
      (∀ fault, housed.outcome = .error fault → setting.outcome = .error (.file fault)) ∧
      (housed.outcome = .ok () → ∀ machine, opened = .ok machine → setting.outcome = .ok logging) ∧
      (housed.outcome = .ok () → ∀ fault, opened = .error fault → setting.outcome = .crashed complaint)) ∧
    (∀ fault, setting.outcome = .error fault →
      report = brief 1 "" (some ("Failed to initialize logging: " ++ fault.message))) ∧
    (report.exit = 101 ↔ Unopenable path start) ∧
    (Unopenable path start → report = brief 101 "" (some complaint)) := by
  intro setting report
  have sets := setsUp daily path undated
  obtain ⟨outcome, state⟩ := setUp_of_settings inOrder wanted
  have intact : ¬ Broken kit.backend options.level environment := by
    have settled := (settles kit.backend options.level environment start).2
    rw [inOrder] at settled
    cases settled with
    | settled intact => exact intact
  have performed : report = (kit.perform options environment start).1 := by
    simp only [report, Kit.run, asked]
  have crash (unopenable : Unopenable path start) : report = brief 101 "" (some complaint) := by
    have crashed : setting.outcome = .crashed complaint := by
      rw [outcome, sets.crashes_iff.2 unopenable]
      rfl
    rw [performed, Kit.perform]
    simp only [setting] at crashed
    simp only [crashed]
    rfl
  refine ⟨fun unnamed => ?_, fun directory name parts => ⟨fun fault barred => ?_, fun housed machine opens => ?_,
    fun housed fault refused => ?_⟩, fun fault refused => ?_, ⟨fun exit => ?_, fun unopenable => ?_⟩, crash⟩
  · have refused := run_setUp_of_nameless (h := start) kit.backend.openDaily unnamed
    exact ⟨by rw [outcome, refused]; rfl, by rw [state, refused]⟩
  · rw [outcome, sets.unique (.unhoused parts barred)]
    rfl
  · rw [outcome, sets.unique (.opened parts housed opens)]
    rfl
  · rw [outcome, sets.crashes_iff.2 ⟨directory, name, fault, parts, housed, refused⟩]
    rfl
  · rw [performed, perform_unset refused options.pid]
    rfl
  · apply Classical.byContradiction
    intro openable
    have returned : Openable kit.backend environment start := by
      rintro other wanted'
      cases wanted.symm.trans wanted'
      exact sets.returned openable
    exact intact ((runs asked returned).crashes_iff.1 exit)
  · rw [crash unopenable]
    rfl

def dawn : Host := Host.alone .bare 1 Machine.rootInode "2024-05-06"

/-- A name that is short enough for a file, but not with the day behind it. -/
def lengthy : Bytes := List.replicate 250 120

def lengthyFile : Environment := [("PERFMAP_ATTACH_LOG_FILE", lengthy)]

theorem log_file_of_lengthy :
    standard.parse [Text.bytesOf "7"] = .run ⟨"7", none, 10000, none⟩ ∧ fileOf lengthyFile = some ⟨lengthy⟩ ∧
      Unopenable ⟨lengthy⟩ dawn ∧ (run [Text.bytesOf "7"] lengthyFile dawn).1 = brief 101 "" (some openingFailed) := by
  have daily : Daily standard.backend.openDaily openingFailed := daily_openToday
  have asked : standard.parse [Text.bytesOf "7"] = .run ⟨"7", none, 10000, none⟩ := by decide +kernel
  have wanted : fileOf lengthyFile = some ⟨lengthy⟩ := by decide +kernel
  have inOrder : ((standard.backend.settings none lengthyFile).run dawn).outcome =
      .ok ⟨.pretty, (Filter.upTo .info).admits⟩ := rfl
  have housed : (makeDirectories here).run dawn = ⟨.ok (), dawn, []⟩ :=
    makeDirectories_there (by decide) (by decide +kernel)
  have long : dawn.machine.find dawn.caller true (dated here lengthy dawn.date) = .error (.os Errno.nameTooLong) := by
    decide +kernel
  have unopenable : Unopenable ⟨lengthy⟩ dawn := by
    refine ⟨here, lengthy, .os Errno.nameTooLong, by decide +kernel, by rw [housed], ?_⟩
    simp only [housed, opening, Machine.openFile, long]
  obtain ⟨_, _, _, _, crash⟩ := log_file_of_run daily asked wanted inOrder (by decide +kernel)
  exact ⟨asked, wanted, unopenable, crash unopenable⟩

/-- The file cannot be made, but the command does not fail as it should. -/
theorem crash_of_lengthy : ¬ ((run [Text.bytesOf "4194304"] lengthyFile dawn).1.exit = 1) := by decide +kernel

end Command

end JvmAttach
