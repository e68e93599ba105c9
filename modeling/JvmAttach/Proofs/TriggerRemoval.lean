import JvmAttach.Proofs.Gone
import JvmAttach.Proofs.Others
import JvmAttach.Proofs.QuitSignal
import JvmAttach.Proofs.TriggerMaking

/-! What becomes of a trigger. It is removed by the path it was made by, which may lead elsewhere by
then, or nowhere: a trigger made through the directory of the target is left when the target is gone. -/
namespace JvmAttach.Attach

open Act Host Host.Machine

variable {pid : Pid} {inner : UInt32} {directory path : Path} {d : Inode} {name : Bytes} {h made : Host}

/-- A run that makes a trigger under a name that is free. -/
structure Triggers (pid : Pid) (inner : UInt32) (directory : Path) (h : Host) (path : Path) (d : Inode)
    (name : Bytes) (made : Host) : Prop where
  allowed : (caughtBy pid h).any (!ProcessStatus.catchesQuit ·) = false
  created : ∃ log, (Trigger.create pid inner directory).run h = ⟨.ok path, made, log⟩
  free : h.machine.find h.caller false path = .ok (.entry (.node d) name none)

theorem Triggers.reaches (triggers : Triggers pid inner directory h path d name made) :
    made.machine.Named d name ∧ Reaches made.machine h.caller path d name := by
  obtain ⟨log, created⟩ := triggers.created
  obtain ⟨machine, opened, rfl⟩ := Trigger.exists_of_create created
  obtain ⟨writable, rfl⟩ := openFile_free triggers.free opened
  exact ⟨named_enter writable _ _, reaches_enter triggers.free writable _ _ _⟩

theorem Triggers.same (triggers : Triggers pid inner directory h path d name made) :
    made.caller = h.caller ∧ made.agenda = h.agenda ∧ made.reaction = h.reaction := by
  obtain ⟨log, created⟩ := triggers.created
  obtain ⟨machine, _, rfl⟩ := Trigger.exists_of_create created
  exact ⟨rfl, rfl, rfl⟩

/-- A run ends with one attempt to remove the trigger by its path, wherever the wait has led. -/
theorem Triggers.machine (triggers : Triggers pid inner directory h path d name made) (socket : Path)
    (timeout : Duration) :
    ((startListener pid inner directory socket timeout).run h).state.machine =
      ((summon pid socket timeout path).run made).state.machine.removed h.caller path := by
  obtain ⟨log, created⟩ := triggers.created
  have ours := (caller_summon pid socket timeout path made).trans triggers.same.1
  rw [startListener_allowed triggers.allowed, Trigger.holding, run_bind_ok created, ← ours]
  dsimp only
  rw [state_ending (lives_summon pid socket timeout path), Trigger.machine_discard]

/-- A trigger is left exactly if it still stands when the wait is over and its path leads to it no
longer. Others who leave it within reach leave it to its removal, however the wait ends; of a target
that is gone it stays behind. -/
theorem trigger_left_iff (triggers : Triggers pid inner directory h path d name made) (socket : Path)
    (timeout : Duration) :
    let waited := ((summon pid socket timeout path).run made).state
    let ended := ((startListener pid inner directory socket timeout).run h).state
    made.machine.Named d name ∧
    (ended.machine.Named d name ↔ waited.machine.Named d name ∧ ¬ Reaches waited.machine h.caller path d name) ∧
    (Undisturbed (fun m => Reaches m h.caller path d name) h → ¬ ended.machine.Named d name) ∧
    (Mounted waited.machine → waited.machine.process? pid.number.toNat = none →
      Through pid.number.toNat path → (ended.machine.Named d name ↔ waited.machine.Named d name)) := by
  intro waited ended
  have removal : ended.machine = waited.machine.removed h.caller path := triggers.machine socket timeout
  have left : ended.machine.Named d name ↔
      waited.machine.Named d name ∧ ¬ Reaches waited.machine h.caller path d name := by
    rw [removal, named_removed]
  obtain ⟨named, reached⟩ := triggers.reaches
  refine ⟨named, left, fun undisturbed => ?_, fun mounted gone through => ?_⟩
  · obtain ⟨_, agenda, reaction⟩ := triggers.same
    have start : Stable (fun m => Reaches m h.caller path d name) made :=
      ⟨reached, agenda ▸ undisturbed.planned, reaction ▸ undisturbed.answered⟩
    have still := stable_summon _ pid socket timeout path made start
    exact fun stands => (left.1 stands).2 still.1
  · have unreached : ¬ Reaches waited.machine h.caller path d name := by
      intro reaches
      obtain ⟨place, found, _⟩ := reaches.found
      exact nomatch find_through mounted gone through found
    simp only [left, unreached, not_false_eq_true, and_true]

/-- A machine with a process that works in a directory of its own. -/
def workplace : Machine where
  nodes :=
    [⟨.directory [(procName, 1), (Text.bytesOf "work", 2)] 0 true, 0, 0o755⟩,
     ⟨.processes, 0, 0o555⟩, ⟨.directory [] 0 true, 0, 0o755⟩]
  process? number := if number = 7 then some ⟨0, 2, 0, .ok (Text.bytesOf "SigCgt:\t4\n"), 4⟩ else none

/-- The same machine around us, on which the process ends when it gets SIGQUIT. -/
def mortal : Host :=
  { Host.alone workplace 1 0 "" with reaction := fun _ => [⟨.zero, fun m => m.setProcess 7 none⟩] }

theorem triggers_mortal :
    Triggers ⟨7⟩ 7 ⟨[Path.slash]⟩ mortal (Trigger.inDirectory ⟨7⟩ 7) 2 (Trigger.name 7).bytes
      ((Trigger.create ⟨7⟩ 7 ⟨[Path.slash]⟩).run mortal).state where
  allowed := by decide +kernel
  created := by
    have path : ((Trigger.create ⟨7⟩ 7 ⟨[Path.slash]⟩).run mortal).outcome =
        .ok (Trigger.inDirectory ⟨7⟩ 7) := by
      decide +kernel
    exact ⟨((Trigger.create ⟨7⟩ 7 ⟨[Path.slash]⟩).run mortal).log, by rw [← path]⟩
  free := by rfl

theorem trigger_left_iff_mortal :
    let waited := ((summon ⟨7⟩ ⟨[]⟩ (.ofMillis 2000) (Trigger.inDirectory ⟨7⟩ 7)).run
      ((Trigger.create ⟨7⟩ 7 ⟨[Path.slash]⟩).run mortal).state).state
    waited.machine.process? 7 = none ∧ waited.machine.Named 2 (Trigger.name 7).bytes ∧
      ((startListener ⟨7⟩ 7 ⟨[Path.slash]⟩ ⟨[]⟩ (.ofMillis 2000)).run mortal).state.machine.Named 2
        (Trigger.name 7).bytes := by
  intro waited
  obtain ⟨_, _, _, left⟩ := trigger_left_iff triggers_mortal ⟨[]⟩ (.ofMillis 2000)
  have mounted : Mounted waited.machine := ⟨1, 0, 0o555, by decide +kernel, by decide +kernel⟩
  have gone : waited.machine.process? 7 = none := Option.isNone_iff_eq_none.1 (by decide +kernel)
  have stands : waited.machine.Named 2 (Trigger.name 7).bytes := by decide +kernel
  exact ⟨gone, stands, (left mounted gone (through_inDirectory ⟨7⟩ 7)).2 stands⟩

/-- When the target dies of the signal, its trigger is left in the directory it worked in. -/
theorem trigger_left_by_death :
    ¬ mortal.machine.Named 2 (Trigger.name 7).bytes ∧
      ((startListener ⟨7⟩ 7 ⟨[Path.slash]⟩ ⟨[]⟩ (.ofMillis 2000)).run mortal).outcome =
        .error (.processNotFound 7) ∧
      ((startListener ⟨7⟩ 7 ⟨[Path.slash]⟩ ⟨[]⟩ (.ofMillis 2000)).run mortal).state.machine.Named 2
        (Trigger.name 7).bytes := by
  decide +kernel

end JvmAttach.Attach
