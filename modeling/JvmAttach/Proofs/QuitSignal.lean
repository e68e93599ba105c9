import JvmAttach.Proofs.Journal

/-! Who gets SIGQUIT: nobody but the target, and not the target if it is seen not to catch it. -/
namespace JvmAttach.Attach

open Act Host

variable {pid : Pid} {inner : UInt32} {directory socket : Path} {timeout : Duration} {h : Host}

/-- Nothing but the target is sent SIGQUIT, and only under a number that names a process. -/
def QuitsOnly (pid : Pid) (event : Event) : Prop :=
  ∀ target, event = .signal target sigquit → 0 < target ∧ target = pid.raw

theorem notes_signal (pid : Pid) (number : Int) : Leads (Notes (QuitsOnly pid)) (signal pid number) :=
  leads_signal (lasting_notes _) number fun named => leads_kill fun _ same => by cases same; exact ⟨named, rfl⟩

theorem notes_summon (pid : Pid) (socket : Path) (timeout : Duration) (trigger : Path) :
    Leads (Notes (QuitsOnly pid)) (summon pid socket timeout trigger) :=
  leads_summon (lasting_notes _) (notes_signal pid) (fun _ => notes_sleep nofun) socket timeout trigger

theorem notes_create (pid : Pid) (inner : UInt32) (directory : Path) :
    Leads (Notes (QuitsOnly pid)) (Trigger.create pid inner directory) :=
  Trigger.leads_create (lasting_notes _) fun _ => leads_changing nofun _

theorem notes_discard (pid : Pid) (path : Path) : Leads (Notes (QuitsOnly pid)) (Trigger.discard path) :=
  Trigger.leads_discard (lasting_notes _) (leads_changing nofun _)

theorem notes_startListener (pid : Pid) (inner : UInt32) (directory socket : Path) (timeout : Duration) :
    Leads (Notes (QuitsOnly pid)) (startListener pid inner directory socket timeout) := by
  have lasting := lasting_notes (QuitsOnly pid)
  refine .bind lasting (.look lasting _) fun caught => ?_
  split
  · exact .fail lasting _
  · refine .bind lasting (notes_create pid inner directory) fun path => ?_
    exact .ending lasting (notes_summon pid socket timeout path) (notes_discard pid path)

theorem startListener_refused {mask : UInt64} (shown : caughtBy pid h = some mask)
    (uncaught : ProcessStatus.catchesQuit mask = false) :
    (startListener pid inner directory socket timeout).run h = ⟨.error (notCatching pid), h, []⟩ := by
  simp only [startListener, run_look_bind, shown, Option.any_some, uncaught, Bool.not_false, ↓reduceIte,
    run_fail]

theorem startListener_allowed (allowed : (caughtBy pid h).any (!ProcessStatus.catchesQuit ·) = false) :
    (startListener pid inner directory socket timeout).run h =
      (Trigger.holding pid inner directory (summon pid socket timeout)).run h := by
  simp only [startListener, run_look_bind, allowed, Bool.false_eq_true, ↓reduceIte]

/-- A root directory and one process, with number 7. -/
def inhabited (process : Process) : Host :=
  Host.alone { Machine.bare with process? := fun number => if number = 7 then some process else none } 1 0 ""

/-- A process that catches nothing, and whose status says so. -/
def sleeper : Process := ⟨0, 0, 0, .ok (Text.bytesOf "SigCgt:\t0\n"), 0⟩

/-- Questions to the target, and naps. -/
def Idle (pid : Pid) (event : Event) : Prop := event = .signal pid.raw 0 ∨ ∃ d, event = .slept d

theorem idle_probe (pid : Pid) : Leads (Notes (Idle pid)) (probe pid) :=
  leads_signal (lasting_notes _) 0 fun _ => leads_kill (.inl rfl)

/-- A summoned target is sent SIGQUIT first and then only asked whether it is there. -/
theorem journal_summon (named : 0 < pid.raw) (socket : Path) (timeout : Duration) (trigger : Path) (made : Host) :
    ∃ waits, ((summon pid socket timeout trigger).run made).state.journal =
      made.journal ++ .signal pid.raw sigquit :: waits ∧ ∀ event ∈ waits, Idle pid event := by
  have waited : Notes (Idle pid) ((signal pid sigquit).run made).state
      ((summon pid socket timeout trigger).run made).state := by
    simp only [summon, run_tell_bind]
    exact Leads.behind (lasting_notes _) (fun _ => leads_waiting (lasting_notes _) (idle_probe pid)
      (fun d => notes_sleep (.inr ⟨d, rfl⟩)) socket timeout) made
  obtain ⟨waits, noted, idle⟩ := waited
  refine ⟨waits, ?_, idle⟩
  rw [noted, journal_signal named, List.append_assoc, List.singleton_append]

theorem quit_of_created (socket : Path) (timeout : Duration) {path : Path} {made : Host} {log : List Log.Entry}
    (allowed : (caughtBy pid h).any (!ProcessStatus.catchesQuit ·) = false) (named : 0 < pid.raw)
    (created : (Trigger.create pid inner directory).run h = ⟨.ok path, made, log⟩) :
    ∃ events, ((startListener pid inner directory socket timeout).run h).state.journal = made.journal ++ events ∧
      .signal pid.raw sigquit ∈ events := by
  obtain ⟨waits, noted, _⟩ := journal_summon named socket timeout path made
  obtain ⟨removal, ended, _⟩ : Notes (QuitsOnly pid) ((summon pid socket timeout path).run made).state
      (((summon pid socket timeout path).ending (Trigger.discard path)).run made).state :=
    Leads.behind_ending (lasting_notes _) (notes_discard pid path) made
  refine ⟨.signal pid.raw sigquit :: waits ++ removal, ?_, List.mem_cons_self⟩
  rw [startListener_allowed allowed, Trigger.holding, run_bind_ok created, ← List.append_assoc, ← noted]
  exact ended

end JvmAttach.Attach
