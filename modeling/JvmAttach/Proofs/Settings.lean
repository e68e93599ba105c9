import JvmAttach.Logging.Standard
import JvmAttach.Proofs.Directories
import JvmAttach.Proofs.Journal

/-! What setting up the log comes to. It is an error for a level, a format or a log file, and a crash only for
a filter whose reading is one. All that it does to the host is to make directories and to open the log file, if
its backend does no more. -/
namespace JvmAttach

open Act Host

/-- What is done for the log. -/
def Host.Event.Housekeeping (event : Event) : Prop :=
  (∃ path, event = .madeDirectory path) ∨ ∃ path, event = .opened path

namespace Host

theorem notes_makeDirectory (path : Path) : Leads (Notes Event.Housekeeping) (makeDirectory path) :=
  leads_changing (.inl ⟨path, rfl⟩) _

theorem notes_makeNested (paths : List Path) : Leads (Notes Event.Housekeeping) (makeNested paths) :=
  leads_makeNested (lasting_notes _) notes_makeDirectory paths

end Host

namespace LogFile

theorem notes_openToday (directory : Path) (name : Bytes) :
    Leads (Notes Event.Housekeeping) (openToday directory name) := by
  have lasting := lasting_notes Event.Housekeeping
  have opens (path : Path) : Leads (Notes Event.Housekeeping) (appendFile path) :=
    leads_changing (.inr ⟨path, rfl⟩) _
  refine .bind lasting (.look lasting _) fun date => .bind lasting (opens _).attempt fun opened => ?_
  cases opened with
  | ok done => exact .pure lasting _
  | error fault =>
    refine .bind lasting (.attempt ?_) fun again => ?_
    · split
      · exact .bind lasting (notes_makeNested _) fun _ => opens _
      · exact .pure lasting _
    · cases again with
      | ok done => exact .pure lasting _
      | error fault => exact .crash lasting _

variable {openDaily : Path → Bytes → Act Empty Host Unit}

theorem notes_setUp (tidy : ∀ directory name, Leads (Notes Event.Housekeeping) (openDaily directory name))
    (path : Path) : Leads (Notes Event.Housekeeping) (setUp openDaily path) := by
  have lasting := lasting_notes Event.Housekeeping
  refine .bind lasting (.bind lasting (.ofExcept lasting _) fun parts => ?_) fun parts => .mapError _ (tidy _ _)
  exact .bind lasting (.mapError _ (notes_makeNested _)) fun _ => .pure lasting _

end LogFile

namespace Logging

variable {σ : Type} {backend : Backend} {level : Option String} {environment : Environment} {start : Host}

/-- Opening a log file does no more than that. -/
def Backend.Tidy (backend : Backend) : Prop :=
  ∀ directory name, Leads (Notes Event.Housekeeping) (backend.openDaily directory name)

theorem Backend.tidy_standard : standard.Tidy := LogFile.notes_openToday

/-- A level that was asked for is one. -/
def Levelled (level : Option String) : Prop :=
  ∀ written, level = some written → ∃ grade, Level.parse written = .ok grade

def Formatted (environment : Environment) : Prop := ∃ format, formatOf environment = .ok format

/-- The filter of the environment counts, and reading it is a crash. -/
def Broken (backend : Backend) (level : Option String) (environment : Environment) : Prop :=
  level = none ∧ Formatted environment ∧ ∃ written why, environment.text? "RUST_LOG" = some written ∧
    backend.filter written = .error (.crash why)

theorem readFilter_crashes_iff {written : List Char} : (∃ why, readFilter written = .error (.crash why)) ↔
    ∃ directive, Filter.read written = .error (.brokenCharacter directive) := by
  cases read : Filter.read written with
  | ok filter => simp [readFilter, read]
  | error fault => cases fault <;> simp [readFilter, read]

/-- The filters that the command runs with crash where a part of a directive begins or ends within a character. -/
theorem broken_standard_iff : Broken .standard level environment ↔
    level = none ∧ Formatted environment ∧ ∃ written directive, environment.text? "RUST_LOG" = some written ∧
      Filter.read written = .error (.brokenCharacter directive) := by
  constructor
  · rintro ⟨unset, formatted, written, why, given, crash⟩
    obtain ⟨directive, broken⟩ := readFilter_crashes_iff.1 ⟨why, crash⟩
    exact ⟨unset, formatted, written, directive, given, broken⟩
  · rintro ⟨unset, formatted, written, directive, given, broken⟩
    obtain ⟨why, crash⟩ := readFilter_crashes_iff.2 ⟨directive, broken⟩
    exact ⟨unset, formatted, written, why, given, crash⟩

/-- What setting up the log can come to. -/
inductive Settles (backend : Backend) (level : Option String) (environment : Environment) : Outcome LogFault Logging → Prop
  | unset {fault : LogFault} (intact : ¬ Broken backend level environment) : Settles backend level environment (.error fault)
  | broken {why : String} (broken : Broken backend level environment) : Settles backend level environment (.crashed why)
  | settled {logging : Logging} (intact : ¬ Broken backend level environment) (levelled : Levelled level)
      (formatted : Formatted environment) : Settles backend level environment (.ok logging)

theorem intact_of_level (written : String) : ¬ Broken backend (some written) environment := by
  rintro ⟨unset, -⟩
  cases unset

theorem intact_of_format {fault : LogFault} (failed : formatOf environment = .error fault) :
    ¬ Broken backend level environment := by
  rintro ⟨-, ⟨format, formatted⟩, -⟩
  cases failed.symm.trans formatted

theorem intact_of_unset (unset : environment.text? filterVariable = none) : ¬ Broken backend level environment := by
  rintro ⟨-, -, written, directive, given, -⟩
  cases unset.symm.trans given

theorem intact_of_read {written : List Char} (given : environment.text? filterVariable = some written)
    (read : ∀ why, backend.filter written ≠ .error (.crash why)) :
    ¬ Broken backend level environment := by
  rintro ⟨-, -, other, why, given', broken⟩
  cases given.symm.trans given'
  exact read why broken

theorem settles (backend : Backend) (level : Option String) (environment : Environment) (s : σ) :
    ((backend.settings level environment).run s).state = s ∧
      Settles backend level environment ((backend.settings level environment).run s).outcome := by
  cases level with
  | some written =>
    have intact : ¬ Broken backend (some written) environment := intact_of_level written
    cases read : Level.parse written with
    | error why =>
      have misread : (Level.parse written).mapError LogFault.invalidLevel = .error (.invalidLevel why) := by
        rw [read]; rfl
      simp only [Backend.settings, misread, run_ofExcept_error_bind]
      exact ⟨trivial, .unset intact⟩
    | ok grade =>
      have fine : (Level.parse written).mapError LogFault.invalidLevel = .ok grade := by rw [read]; rfl
      cases formatted : formatOf environment with
      | error fault =>
        simp only [Backend.settings, fine, run_ofExcept_ok_bind, formatted, run_ofExcept_error_bind]
        exact ⟨trivial, .unset intact⟩
      | ok format =>
        have levelled : Levelled (some written) := by
          rintro _ ⟨⟩
          exact ⟨grade, read⟩
        simp only [Backend.settings, fine, run_ofExcept_ok_bind, formatted, run_pure]
        exact ⟨trivial, .settled intact levelled ⟨format, formatted⟩⟩
  | none =>
    cases formatted : formatOf environment with
    | error fault =>
      simp only [Backend.settings, formatted, run_ofExcept_error_bind]
      exact ⟨trivial, .unset (intact_of_format formatted)⟩
    | ok format =>
      have levelled : Levelled none := by rintro _ ⟨⟩
      have settled (intact : ¬ Broken backend none environment) (admits : Log.Entry → Bool) :
          Settles backend none environment (.ok ⟨format, admits⟩) := .settled intact levelled ⟨format, formatted⟩
      simp only [Backend.settings, formatted, run_ofExcept_ok_bind, Backend.filterOf]
      cases given : environment.text? filterVariable with
      | none => exact ⟨rfl, settled (intact_of_unset given) _⟩
      | some written =>
        dsimp only
        cases read : backend.filter written with
        | ok admits => exact ⟨rfl, settled (intact_of_read given (by simp [read])) admits⟩
        | error fault =>
          cases fault with
          | malformed => exact ⟨rfl, settled (intact_of_read given (by simp [read])) _⟩
          | crash why => exact ⟨rfl, .broken ⟨rfl, ⟨format, formatted⟩, written, why, given, read⟩⟩

/-- The log file can be opened, if there is to be one, or it is an error that its directory cannot be made. -/
def Openable (backend : Backend) (environment : Environment) (start : Host) : Prop :=
  ∀ path, fileOf environment = some path →
    ∃ result, ((LogFile.setUp backend.openDaily path).run start).outcome = .ofExcept result

theorem settles_setUp (openable : Openable backend environment start) :
    Settles backend level environment ((backend.setUp level environment).run start).outcome := by
  obtain ⟨same, settled⟩ := settles backend level environment start
  rcases ran : (backend.settings level environment).run start with ⟨outcome, t, log⟩
  rw [ran] at same settled
  obtain rfl : start = t := same.symm
  rw [Backend.setUp]
  cases outcome with
  | error fault => rw [run_bind_error ran]; exact settled
  | crashed why => rw [run_bind_crashed ran]; exact settled
  | aborted => cases settled
  | ok logging =>
    rw [run_bind_ok ran]
    cases named : fileOf environment with
    | none => exact settled
    | some path =>
      obtain ⟨result, came⟩ := openable path named
      rcases opened : (LogFile.setUp backend.openDaily path).run start with ⟨outcome, t, log⟩
      obtain rfl : outcome = .ofExcept result := by rw [opened] at came; exact came
      cases result with
      | ok done => simp only [run_bind_ok opened]; exact settled
      | error fault =>
        simp only [run_bind_error opened]
        cases settled with
        | settled intact levelled formatted => exact .unset intact

theorem notes_settingUp (tidy : backend.Tidy) (level : Option String) (environment : Environment) :
    Leads (Notes Event.Housekeeping) (backend.setUp level environment) := by
  have lasting := lasting_notes Event.Housekeeping
  have unchanged : Leads (Notes Event.Housekeeping) (backend.settings (σ := Host) level environment) := by
    intro h
    rw [(settles backend level environment h).1]
    exact lasting.refl h
  refine .bind lasting unchanged fun logging => ?_
  split
  · exact .bind lasting (LogFile.notes_setUp tidy _) fun _ => .pure lasting _
  · exact .pure lasting logging

end Logging

end JvmAttach
