import JvmAttach.Command.Run
import JvmAttach.Proofs.Exit
import JvmAttach.Proofs.OnePath
import JvmAttach.Proofs.Settings

/-! What a run of the command shows, by where it ends: at its log, at the number of the process, at the
library, or with the load. Only a missing library is told on the standard output, and nothing but the log has
been seen to before the library is found. -/
namespace JvmAttach.Command

open Act Host

variable {kit : Kit} {options : Options} {environment : Environment} {arguments : List Bytes} {start h : Host}
variable {pid : Pid}
variable {outcome : Outcome AttachFault LoadResult}

theorem found_of_resolve {library : AgentLibrary} {working : Except SystemFault Path} {fault : AttachFault}
    (failed : library.resolve working = .error fault) : fault.Found := by
  unfold AgentLibrary.resolve at failed
  split at failed
  · cases failed; exact nofun
  · split at failed
    · cases failed
    · split at failed <;> cases failed
      exact nofun

theorem found_of_parse {written : String} {fault : AttachFault} (failed : Pid.parse written = .error fault) :
    fault.Found := by
  unfold Pid.parse at failed
  split at failed
  · cases failed; exact nofun
  · split at failed <;> cases failed
    exact nofun

/-- The loading of a library comes to its end before anything is done, or the library is there. -/
inductive Loads (config : Attach.Config) (pid : Pid) (library : AgentLibrary) (h : Host) :
    Except AttachFault LoadResult → Host → Prop
  | unresolved {fault : AttachFault} (found : fault.Found) : Loads config pid library h (.error fault) h
  | missing {path : Path} (resolved : library.resolve (outlook.workingDirectory h) = .ok path)
      (absent : outlook.present path h = false) :
      Loads config pid library h (.error (.libraryMissing library.name path)) h
  | there {path : Path} {result : Except AttachFault LoadResult} {t : Host}
      (resolved : library.resolve (outlook.workingDirectory h) = .ok path)
      (present : outlook.present path h = true) (kind : ∀ fault, result = .error fault → fault.Found)
      (noted : ∃ events, t.journal = h.journal ++ events) : Loads config pid library h result t

theorem loads {config : Attach.Config} (timely : config.Timely) (pid : Pid) (library : AgentLibrary) (h : Host) :
    let step := (Load.run (Attach.attacher config) outlook pid library).run h
    ∃ result, step.outcome = .ofExcept result ∧ Loads config pid library h result step.state := by
  intro step
  cases resolved : library.resolve (outlook.workingDirectory h) with
  | error fault =>
    rw [show step = _ from Load.run_unresolved resolved]
    exact ⟨.error fault, rfl, .unresolved (found_of_resolve resolved)⟩
  | ok path =>
    cases present : outlook.present path h with
    | false =>
      rw [show step = _ from Load.run_absent resolved present]
      exact ⟨.error _, rfl, .missing resolved present⟩
    | true =>
      have errs : step.outcome.Errs AttachFault.Found False :=
        Attach.errs_there (fun _ => timely) resolved present
      obtain ⟨result, came, kind⟩ := errs.returned
      refine ⟨result, came, .there resolved present kind ?_⟩
      rcases Attach.sends_there resolved present with ⟨events, noted, -⟩ | ⟨events, noted, -⟩
      · exact ⟨events, noted⟩
      · exact ⟨events, noted⟩

/-- The timeout is a number of 64 bits, so that in milliseconds it is far from the longest span of time. -/
theorem timely (options : Options) : (config options).Timely := by
  have fits : options.timeoutMillis.toNat < 18446744073709551616 := options.timeoutMillis.toNat_lt
  have longest : Duration.longest.nanos = 18446744073709551616 * 1000000000 - 1 := rfl
  simp only [Attach.Config.Timely, config, Attach.Config.withTimeout, Attach.pollStep, Duration.ofMillis, longest]
  omega

/-- What the load of a run comes to. It begins when the log is set up and the process has a number. -/
def Comes (kit : Kit) (options : Options) (environment : Environment) (start : Host)
    (outcome : Outcome AttachFault LoadResult) : Prop :=
  let setting := (kit.backend.setUp options.level environment).run start
  ∃ logging pid, setting.outcome = .ok logging ∧ Pid.parse options.pid = .ok pid ∧
    ((Load.run (Attach.attacher (config options)) outlook pid (library options)).run setting.state).outcome = outcome

/-- Everything that a run can come to when its arguments have been read. -/
inductive Runs (kit : Kit) (options : Options) (environment : Environment) (start : Host) : Report → Host → Prop
  | unset {fault : LogFault} (intact : ¬ Logging.Broken kit.backend options.level environment)
      (refused : ((kit.backend.setUp options.level environment).run start).outcome = .error fault) :
      Runs kit options environment start
        (brief failed "" (some ("Failed to initialize logging: " ++ fault.message)))
        ((kit.backend.setUp options.level environment).run start).state
  | broken {why : String} (broken : Logging.Broken kit.backend options.level environment)
      (ended : ((kit.backend.setUp options.level environment).run start).outcome = .crashed why) :
      Runs kit options environment start (brief crashed "" (some why))
        ((kit.backend.setUp options.level environment).run start).state
  | unnumbered {logging : Logging} {fault : AttachFault} (intact : ¬ Logging.Broken kit.backend options.level environment)
      (prepared : ((kit.backend.setUp options.level environment).run start).outcome = .ok logging)
      (misread : Pid.parse options.pid = .error fault) :
      Runs kit options environment start (concluded logging [] (.error fault))
        ((kit.backend.setUp options.level environment).run start).state
  | loading {logging : Logging} {pid : Pid} {result : Except AttachFault LoadResult} {t : Host}
      (intact : ¬ Logging.Broken kit.backend options.level environment) (levelled : Logging.Levelled options.level)
      (formatted : Logging.Formatted environment)
      (prepared : ((kit.backend.setUp options.level environment).run start).outcome = .ok logging)
      (numbered : Pid.parse options.pid = .ok pid)
      (came : Comes kit options environment start (.ofExcept result))
      (loads : Loads (config options) pid (library options)
        ((kit.backend.setUp options.level environment).run start).state result t) (log : List Log.Entry) :
      Runs kit options environment start (concluded logging log (.ofExcept result)) t

theorem state_load (numbered : Pid.parse options.pid = .ok pid) (h : Host) :
    ((load options).run h).state =
      ((Load.run (Attach.attacher (config options)) outlook pid (library options)).run h).state := by
  simp only [load, numbered, run_ofExcept_ok_bind, run_tell_bind]
  exact Leads.behind (Lasting.unchanged fun s => s) (fun _ => .bind (Lasting.unchanged fun s => s)
    (.tell (Lasting.unchanged fun s => s) _) fun _ => .pure (Lasting.unchanged fun s => s) _) h

theorem runs (asked : kit.parse arguments = .run options) (openable : Logging.Openable kit.backend environment start) :
    Runs kit options environment start (kit.run arguments environment start).1 (kit.run arguments environment start).2 := by
  simp only [Kit.run, asked, Kit.perform]
  have settled : Logging.Settles kit.backend options.level environment
      ((kit.backend.setUp options.level environment).run start).outcome := Logging.settles_setUp openable
  cases prepared : ((kit.backend.setUp options.level environment).run start).outcome with
  | error fault =>
    rw [prepared] at settled
    cases settled with
    | unset intact => exact .unset intact prepared
  | crashed why =>
    rw [prepared] at settled
    cases settled with
    | broken broken => exact .broken broken prepared
  | aborted =>
    rw [prepared] at settled
    cases settled
  | ok logging =>
    rw [prepared] at settled
    cases settled with
    | settled intact levelled formatted =>
      dsimp only
      cases numbered : Pid.parse options.pid with
      | error fault =>
        simp only [load, numbered, run_ofExcept_error_bind]
        exact .unnumbered intact prepared numbered
      | ok pid =>
        obtain ⟨result, came, ends⟩ := loads (timely options) pid (library options)
          ((kit.backend.setUp options.level environment).run start).state
        rw [outcome_load numbered, state_load numbered, came]
        exact .loading intact levelled formatted prepared numbered ⟨logging, pid, prepared, numbered, came⟩ ends _

variable {report : Report} {after : Host} {other : Outcome AttachFault LoadResult}

theorem Comes.unique (comes : Comes kit options environment start outcome)
    (comes' : Comes kit options environment start other) : outcome = other := by
  obtain ⟨_, pid, _, numbered, rfl⟩ := comes
  obtain ⟨_, pid', _, numbered', rfl⟩ := comes'
  cases numbered.symm.trans numbered'
  rfl

theorem Comes.prepared (comes : Comes kit options environment start outcome) :
    ∃ logging pid, ((kit.backend.setUp options.level environment).run start).outcome = .ok logging ∧
      Pid.parse options.pid = .ok pid := by
  obtain ⟨logging, pid, prepared, numbered, _⟩ := comes
  exact ⟨logging, pid, prepared, numbered⟩

/-- What stands on the standard output at the end of a load. -/
def outputOf : Outcome AttachFault LoadResult → String
  | .error (.libraryMissing name path) => (AttachFault.libraryMissing name path).message ++ "\n"
  | _ => ""

theorem output_concluded (logging : Logging) (log : List Log.Entry) (outcome : Outcome AttachFault LoadResult) :
    (concluded logging log outcome).output = outputOf outcome := by
  cases outcome with
  | error fault => cases fault <;> rfl
  | _ => rfl

theorem outputOf_found {fault : AttachFault} (found : fault.Found) : outputOf (.error fault) = "" := by
  cases fault with
  | libraryMissing name path => exact absurd rfl (found name path)
  | _ => rfl

theorem Runs.shows (ran : Runs kit options environment start report after) :
    (∀ outcome, ¬ Comes kit options environment start outcome) ∧ report.output = "" ∧
        (Logging.Broken kit.backend options.level environment ∧ report.exit = crashed ∨
          ¬ Logging.Broken kit.backend options.level environment ∧ report.exit = failed) ∨
      ∃ result, Comes kit options environment start (.ofExcept result) ∧ ¬ Logging.Broken kit.backend options.level environment ∧
        report.exit = exitOf (.ofExcept result : Outcome AttachFault LoadResult) ∧
        report.output = outputOf (.ofExcept result) := by
  cases ran with
  | unset intact refused =>
    refine .inl ⟨fun outcome comes => ?_, rfl, .inr ⟨intact, rfl⟩⟩
    obtain ⟨_, _, prepared, _⟩ := comes.prepared
    exact nomatch refused.symm.trans prepared
  | broken broken ended =>
    refine .inl ⟨fun outcome comes => ?_, rfl, .inl ⟨broken, rfl⟩⟩
    obtain ⟨_, _, prepared, _⟩ := comes.prepared
    exact nomatch ended.symm.trans prepared
  | unnumbered intact prepared misread =>
    refine .inl ⟨fun outcome comes => ?_, ?_, .inr ⟨intact, exit_concluded _ _ _⟩⟩
    · obtain ⟨_, _, _, numbered⟩ := comes.prepared
      exact nomatch misread.symm.trans numbered
    · rw [output_concluded, outputOf_found (found_of_parse misread)]
  | loading intact levelled formatted prepared numbered came loads log =>
    exact .inr ⟨_, came, intact, exit_concluded _ _ _, output_concluded _ _ _⟩

theorem Runs.missing (ran : Runs kit options environment start report after) {name : String} {path : Path}
    (comes : Comes kit options environment start (.error (.libraryMissing name path))) :
    name = "liblo2s-perfmap.so" ∧ (library options).resolve
      (outlook.workingDirectory ((kit.backend.setUp options.level environment).run start).state) = .ok path := by
  have named : (library options).name = "liblo2s-perfmap.so" := by
    unfold library
    split <;> rfl
  cases ran with
  | unset intact refused =>
    obtain ⟨_, _, prepared, _⟩ := comes.prepared
    exact nomatch refused.symm.trans prepared
  | broken broken ended =>
    obtain ⟨_, _, prepared, _⟩ := comes.prepared
    exact nomatch ended.symm.trans prepared
  | unnumbered intact prepared misread =>
    obtain ⟨_, _, _, numbered⟩ := comes.prepared
    exact nomatch misread.symm.trans numbered
  | @loading logging pid result t intact levelled formatted prepared numbered came loads log =>
    have same : Outcome.ofExcept result = .error (.libraryMissing name path) := came.unique comes
    cases loads with
    | unresolved found =>
      cases same
      exact absurd rfl (found name path)
    | missing resolved absent =>
      cases same
      exact ⟨named, resolved⟩
    | there resolved present kind noted =>
      cases result <;> cases same
      exact absurd rfl (kind _ rfl name path)

theorem Runs.touched (tidy : kit.backend.Tidy) (ran : Runs kit options environment start report after) :
    ∃ events, after.journal = start.journal ++ events ∧ ∀ event ∈ events, ¬ event.Housekeeping →
      Logging.Levelled options.level ∧ Logging.Formatted environment ∧ (∃ pid, Pid.parse options.pid = .ok pid) ∧
        ∃ path, (library options).resolve
            (outlook.workingDirectory ((kit.backend.setUp options.level environment).run start).state) = .ok path ∧
          outlook.present path ((kit.backend.setUp options.level environment).run start).state = true := by
  obtain ⟨kept, noted, housekeeping⟩ := Logging.notes_settingUp tidy options.level environment start
  have early (event : Event) (mem : event ∈ kept) (other : ¬ event.Housekeeping) := other (housekeeping event mem)
  cases ran with
  | unset | broken | unnumbered => exact ⟨kept, noted, fun event mem other => (early event mem other).elim⟩
  | @loading logging pid result t intact levelled formatted prepared numbered came loads log =>
    cases loads with
    | unresolved | missing => exact ⟨kept, noted, fun event mem other => (early event mem other).elim⟩
    | there resolved present kind noted' =>
      obtain ⟨events, noted'⟩ := noted'
      refine ⟨kept ++ events, by rw [noted', noted, List.append_assoc], fun event mem other => ?_⟩
      exact ⟨levelled, formatted, ⟨pid, numbered⟩, _, resolved, present⟩

theorem message_missing (path : Path) :
    (AttachFault.libraryMissing "liblo2s-perfmap.so" path).message ++ "\n" =
      "Expected liblo2s-perfmap.so at '" ++ path.shown ++ "' but it didn't exist.\n" := by
  have words (shown : String) :
      "Expected " ++ "liblo2s-perfmap.so" ++ " at '" ++ shown ++ "' but it didn't exist." ++ "\n" =
        "Expected liblo2s-perfmap.so at '" ++ shown ++ "' but it didn't exist.\n" := by
    apply String.toList_inj.1
    simp
  exact words path.shown

theorem perform_unset {fault : LogFault}
    (refused : ((kit.backend.setUp options.level environment).run start).outcome = .error fault) (written : String) :
    kit.perform { options with pid := written } environment start =
      (brief failed "" (some ("Failed to initialize logging: " ++ fault.message)),
        ((kit.backend.setUp options.level environment).run start).state) := by
  simp only [Kit.perform, refused]

theorem Runs.succeeds_iff (ran : Runs kit options environment start report after) :
    report.exit = succeeded ↔ ∃ result, Comes kit options environment start (.ok result) := by
  rcases ran.shows with ⟨none, -, early⟩ | ⟨result, came, -, exit, -⟩
  · have unsuccessful : report.exit ≠ succeeded := by
      rcases early with ⟨-, exit⟩ | ⟨-, exit⟩ <;> rw [exit] <;> decide
    exact ⟨fun zero => absurd zero unsuccessful, fun ⟨result, comes⟩ => (none _ comes).elim⟩
  · cases result with
    | ok result => exact ⟨fun _ => ⟨result, came⟩, fun _ => exit⟩
    | error fault =>
      exact ⟨fun zero => (nomatch exit.symm.trans zero), fun ⟨_, comes⟩ => (nomatch came.unique comes)⟩

theorem Runs.crashes_iff (ran : Runs kit options environment start report after) :
    report.exit = crashed ↔ Logging.Broken kit.backend options.level environment := by
  rcases ran.shows with ⟨-, -, ⟨broken, exit⟩ | ⟨intact, exit⟩⟩ | ⟨result, -, intact, exit, -⟩
  · exact ⟨fun _ => broken, fun _ => exit⟩
  · exact ⟨fun ended => (nomatch exit.symm.trans ended), fun broken => absurd broken intact⟩
  · refine ⟨fun ended => ?_, fun broken => absurd broken intact⟩
    cases result <;> exact nomatch exit.symm.trans ended

theorem Runs.exits (ran : Runs kit options environment start report after) :
    report.exit = succeeded ∨ report.exit = failed ∨ report.exit = crashed := by
  rcases ran.shows with ⟨-, -, ⟨-, exit⟩ | ⟨-, exit⟩⟩ | ⟨result, -, -, exit, -⟩
  · exact .inr (.inr exit)
  · exact .inr (.inl exit)
  · cases result with
    | ok result => exact .inl exit
    | error fault => exact .inr (.inl exit)

theorem Runs.output_missing (ran : Runs kit options environment start report after) {name : String} {path : Path}
    (comes : Comes kit options environment start (.error (.libraryMissing name path))) :
    report.output = (AttachFault.libraryMissing name path).message ++ "\n" := by
  rcases ran.shows with ⟨none, -, -⟩ | ⟨result, came, -, -, output⟩
  · exact (none _ comes).elim
  · rw [output, came.unique comes]
    rfl

theorem Runs.quiet (ran : Runs kit options environment start report after)
    (absent : ∀ name path, ¬ Comes kit options environment start (.error (.libraryMissing name path))) :
    report.output = "" := by
  rcases ran.shows with ⟨-, quiet, -⟩ | ⟨result, came, -, -, output⟩
  · exact quiet
  · rw [output]
    cases result with
    | ok result => rfl
    | error fault => exact outputOf_found fun name path same => absent name path (same ▸ came)

/-- The exit code is 0 for a load that ends well and 1 for every other end, but for the one crash; the
standard output is empty but for a library that is missing; and the target is left alone before the log is in
order, the process has a number and the library is found. -/
theorem channels_of_run (tidy : kit.backend.Tidy) (asked : kit.parse arguments = .run options)
    (openable : Logging.Openable kit.backend environment start) :
    let report := (kit.run arguments environment start).1
    let after := (kit.run arguments environment start).2
    let setting := (kit.backend.setUp options.level environment).run start
    (report.exit = 0 ↔ ∃ result, Comes kit options environment start (.ok result)) ∧
    (report.exit = 101 ↔ Logging.Broken kit.backend options.level environment) ∧
    (report.exit = 0 ∨ report.exit = 1 ∨ report.exit = 101) ∧
    (∀ name path, Comes kit options environment start (.error (.libraryMissing name path)) →
      report.output = "Expected liblo2s-perfmap.so at '" ++ path.shown ++ "' but it didn't exist.\n" ∧
        (library options).resolve (outlook.workingDirectory setting.state) = .ok path) ∧
    ((∀ name path, ¬ Comes kit options environment start (.error (.libraryMissing name path))) → report.output = "") ∧
    (∀ fault, setting.outcome = .error fault → report.exit = 1 ∧ report.output = "" ∧
      report.complaint = some ("Failed to initialize logging: " ++ fault.message) ∧ report.log = [] ∧
        after = setting.state ∧
          ∀ written, kit.perform { options with pid := written } environment start = (report, after)) ∧
    ∃ events, after.journal = start.journal ++ events ∧ ∀ event ∈ events, ¬ event.Housekeeping →
      Logging.Levelled options.level ∧ Logging.Formatted environment ∧
        (∃ pid, Pid.parse options.pid = .ok pid) ∧
          ∃ path, (library options).resolve (outlook.workingDirectory setting.state) = .ok path ∧
            outlook.present path setting.state = true := by
  intro report after setting
  have ran : Runs kit options environment start report after := runs asked openable
  refine ⟨ran.succeeds_iff, ran.crashes_iff, ran.exits, fun name path comes => ?_, ran.quiet,
    fun fault refused => ?_, ran.touched tidy⟩
  · obtain ⟨rfl, resolved⟩ := ran.missing comes
    exact ⟨(ran.output_missing comes).trans (message_missing path), resolved⟩
  · have whole : (report, after) = (brief failed "" (some ("Failed to initialize logging: " ++ fault.message)),
        setting.state) := by
      have performed : kit.run arguments environment start = kit.perform options environment start := by
        simp only [Kit.run, asked]
      exact performed.trans (perform_unset refused options.pid)
    have shown : report = _ := congrArg Prod.fst whole
    have left : after = setting.state := congrArg Prod.snd whole
    rw [shown, left]
    exact ⟨rfl, rfl, rfl, rfl, rfl, perform_unset refused⟩

def barren : Host := Host.alone .bare 1 Machine.rootInode ""

theorem channels_of_run_barren :
    standard.backend.Tidy ∧ standard.parse [Text.bytesOf "7"] = .run ⟨"7", none, 10000, none⟩ ∧
      Logging.Openable standard.backend [] barren ∧
      (run [Text.bytesOf "7"] [] barren).1.exit = 1 ∧ (run [Text.bytesOf "7"] [] barren).1.output =
        "Expected liblo2s-perfmap.so at '/liblo2s-perfmap.so' but it didn't exist.\n" := by
  have tidy : standard.backend.Tidy := Logging.Backend.tidy_standard
  have asked : standard.parse [Text.bytesOf "7"] = .run ⟨"7", none, 10000, none⟩ := by decide +kernel
  have openable : Logging.Openable standard.backend [] barren := nofun
  have comes : Comes standard ⟨"7", none, 10000, none⟩ [] barren
      (.error (.libraryMissing "liblo2s-perfmap.so" ⟨Text.bytesOf "/liblo2s-perfmap.so"⟩)) :=
    ⟨⟨.pretty, (Filter.upTo .info).admits⟩, ⟨7⟩, rfl, rfl, by decide +kernel⟩
  obtain ⟨_, _, _, missing, _⟩ := channels_of_run tidy asked openable
  exact ⟨tidy, asked, openable, by decide +kernel, (missing _ _ comes).1⟩

/-- The crash for a filter comes before the library is found missing. -/
theorem crash_of_blank_filter :
    ¬ ((run [Text.bytesOf "4194304"] [("RUST_LOG", Text.bytesOf "\u3000x=debug")] barren).1.exit = 0 ∨
      (run [Text.bytesOf "4194304"] [("RUST_LOG", Text.bytesOf "\u3000x=debug")] barren).1.exit = 1) := by
  decide +kernel

end JvmAttach.Command
