import Mathlib.Data.List.Basic
import JvmAttach.Proofs.Attaching

/-! When SIGQUIT is sent while attaching. One is sent at most, and a target that gets it finds the
trigger: it is made before the signal and removed after it. Where there is a listener already, where
the target is seen not to catch the signal, and where no trigger can be made, none is sent. -/
namespace JvmAttach.Attach

open Act Host

variable {config : Config} {pid : Pid} {h host : Host} {places : List Path} {events : List Event}
variable {outcome : Outcome AttachFault Attachment} {trigger : Path} {made : Host}

def Quiet (events : List Event) : Prop := ∀ target, .signal target sigquit ∉ events

/-- SIGQUIT is sent to the target alone and at most once, and then a trigger has been made and nothing
has been removed. -/
def Orderly (pid : Pid) (places : List Path) (events : List Event) : Prop :=
  ∀ before target after, events = before ++ .signal target sigquit :: after →
    target = pid.raw ∧ Quiet (before ++ after) ∧
      ∃ trigger ∈ places, .created trigger ∈ before ∧ ∀ path, .removed path ∉ before

theorem Idle.not_quit {event : Event} (idle : Idle pid event) (target : Int) :
    event ≠ .signal target sigquit := by
  rcases idle with rfl | ⟨d, rfl⟩
  · exact nofun
  · exact nofun

theorem quiet_of_idle (idle : ∀ event ∈ events, Idle pid event) : Quiet events :=
  fun target mem => (idle _ mem).not_quit target rfl

theorem quiet_append {first second : List Event} (one : Quiet first) (other : Quiet second) :
    Quiet (first ++ second) := by
  intro target mem
  rcases List.mem_append.1 mem with early | late
  · exact one target early
  · exact other target late

theorem Quiet.orderly (quiet : Quiet events) : Orderly pid places events := by
  rintro before target after rfl
  exact absurd (List.mem_append_right _ List.mem_cons_self) (quiet target)

/-- Events that are quiet around one SIGQUIT can be cut at a SIGQUIT in one place only. -/
theorem orderly_of_quit {front behind : List Event} (place : trigger ∈ places) (calm : Quiet front)
    (quiet : Quiet behind) (making : .created trigger ∈ front) (kept : ∀ path, .removed path ∉ front) :
    Orderly pid places (front ++ .signal pid.raw sigquit :: behind) := by
  intro before target after cut
  -- no other SIGQUIT stands on either side, so that the two cuts are one
  obtain ⟨rfl, same, rfl⟩ := (List.append_cons_inj_of_notMem (calm target) (quiet target)).1 cut
  refine ⟨?_, quiet_append calm quiet, trigger, place, making, kept⟩
  cases same
  rfl

/-- A run in which no trigger is made, or one that signals behind the trigger that it has made. -/
inductive Conduct (pid : Pid) (places : List Path) : List Event → Prop
  | idle {events : List Event} (idle : ∀ event ∈ events, Idle pid event) : Conduct pid places events
  | signalling {asked waits removal : List Event} {trigger : Path} (place : trigger ∈ places)
      (asks : ∀ event ∈ asked, Idle pid event) (naps : ∀ event ∈ waits, Idle pid event)
      (removing : removal = [] ∨ removal = [.removed trigger]) :
      Conduct pid places (asked ++ [.created trigger] ++ .signal pid.raw sigquit :: (waits ++ removal))

theorem Conduct.orderly (conduct : Conduct pid places events) : Orderly pid places events := by
  cases conduct with
  | idle idle => exact (quiet_of_idle idle).orderly
  | signalling place asks naps removing =>
    refine orderly_of_quit place ?_ ?_ (List.mem_append_right _ List.mem_cons_self) ?_
    · exact quiet_append (quiet_of_idle asks) (by simp [Quiet])
    · refine quiet_append (quiet_of_idle naps) ?_
      rcases removing with rfl | rfl
      · exact fun _ => nofun
      · simp [Quiet]
    · intro path mem
      rcases List.mem_append.1 mem with early | last
      · rcases asks _ early with same | ⟨_, same⟩ <;> cases same
      · cases List.mem_singleton.1 last

theorem notes_probed (pid : Pid) (h : Host) : Notes (Idle pid) h (probed pid h) := by
  unfold probed
  split
  · exact notes_of_journal rfl (.inl rfl)
  · exact (lasting_notes _).refl h

theorem journal_discard (path : Path) (h : Host) :
    ∃ removal, ((Trigger.discard path).run h).state.journal = h.journal ++ removal ∧
      (removal = [] ∨ removal = [.removed path]) := by
  rcases Trigger.discard_cases path h with ⟨machine, _, state⟩ | ⟨fault, _, state⟩
  · exact ⟨[.removed path], by rw [state]; rfl, .inr rfl⟩
  · exact ⟨[], by rw [state, List.append_nil], .inl rfl⟩

/-- Before a trigger is made the target is asked for; behind that come the signal, the wait and the
removal. -/
theorem journal_summoning (config : Config) {machine : Machine} (named : 0 < pid.raw)
    (making : made = record (.created trigger) { probed pid h with machine }) :
    ∃ asked waits removal, ((summoning config pid h trigger).run made).state.journal =
        h.journal ++ (asked ++ [.created trigger] ++ .signal pid.raw sigquit :: (waits ++ removal)) ∧
      (∀ event ∈ asked, Idle pid event) ∧ (∀ event ∈ waits, Idle pid event) ∧
      (removal = [] ∨ removal = [.removed trigger]) := by
  obtain ⟨asked, noted, asks⟩ := notes_probed pid h
  have created : made.journal = h.journal ++ (asked ++ [.created trigger]) := by
    rw [making, ← List.append_assoc, ← noted]
    rfl
  obtain ⟨waits, summoned, naps⟩ :=
    journal_summon named (config.socketFor pid h) config.timeout trigger made
  obtain ⟨removal, discarded, removing⟩ := journal_discard trigger
    ((summon pid (config.socketFor pid h) config.timeout trigger).run made).state
  refine ⟨asked, waits, removal, ?_, asks, naps, removing⟩
  rw [state_summoning, discarded, summoned, created]
  simp only [List.append_assoc, List.cons_append]

theorem Attaches.conduct (came : Attaches config pid h outcome host) :
    ∃ events, host.journal = h.journal ++ events ∧
      Conduct pid (Trigger.places pid (namespacePid pid h) (config.directoryFor pid h)) events := by
  cases came with
  | unanswered | listening | refused | untriggered =>
    obtain ⟨asked, noted, asks⟩ := notes_probed pid h
    exact ⟨asked, noted, .idle asks⟩
  | triggered named answered down allowed place opened making =>
    obtain ⟨asked, waits, removal, noted, asks, naps, removing⟩ := journal_summoning config named making
    exact ⟨_, noted, .signalling place asks naps removing⟩

theorem yields_handOver (pid : Pid) (socket : Path) (timeout : Duration) :
    Yields (fun handle => handle.socket = socket) (handOver pid socket timeout) := by
  intro g handle ended
  obtain ⟨log, ran⟩ := run_handOver pid socket timeout g
  rw [ran] at ended
  cases owned : ownership socket g with
  | ok fine => rw [owned] at ended; cases ended; rfl
  | error fault => rw [owned] at ended; cases ended

theorem Attaches.socket (came : Attaches config pid h outcome host) {handle : Attachment}
    (ended : outcome = .ok handle) : handle.socket = config.socketFor pid h := by
  cases came with
  | unanswered | refused | untriggered => cases ended
  | listening named answered up handed =>
    exact yields_handOver pid (config.socketFor pid h) config.timeout _ handle (handed.trans ended)
  | triggered named answered down allowed place opened making =>
    exact Yields.bind (fun _ => yields_handOver pid (config.socketFor pid h) config.timeout) _ handle ended

/-- The target is there, and its socket is not. -/
structure Unheard (config : Config) (pid : Pid) (h : Host) : Prop where
  answered : ((probe pid).run h).outcome = .ok ()
  down : socketExists (config.socketFor pid h) h = false

theorem Attaches.uncaught (came : Attaches config pid h outcome host) {mask : UInt64}
    (shown : caughtBy pid h = some mask) (uncaught : ProcessStatus.catchesQuit mask = false) :
    host = probed pid h ∧ (Unheard config pid h → outcome = .error (notCatching pid)) := by
  have barred : (caughtBy pid h).any (!ProcessStatus.catchesQuit ·) = true := by
    rw [shown, Option.any_some, uncaught]
    rfl
  cases came with
  | unanswered failed => exact ⟨rfl, fun unheard => nomatch unheard.answered.symm.trans failed⟩
  | listening named answered up => exact ⟨rfl, fun unheard => nomatch unheard.down.symm.trans up⟩
  | refused => exact ⟨rfl, fun _ => rfl⟩
  | untriggered _ _ _ allowed | triggered _ _ _ allowed => exact nomatch barred.symm.trans allowed

theorem Attaches.unplaced (came : Attaches config pid h outcome host) {first second : SystemFault}
    (near : h.machine.openFile h.caller true (Trigger.inDirectory pid (namespacePid pid h)) = .error first)
    (far : h.machine.openFile h.caller true
      (Trigger.inTemporary (config.directoryFor pid h) (namespacePid pid h)) = .error second) :
    host = probed pid h ∧ (Unheard config pid h →
      (∀ mask, caughtBy pid h = some mask → ProcessStatus.catchesQuit mask = true) →
        outcome = .error (.io second)) := by
  cases came with
  | unanswered failed => exact ⟨rfl, fun unheard => nomatch unheard.answered.symm.trans failed⟩
  | listening named answered up => exact ⟨rfl, fun unheard => nomatch unheard.down.symm.trans up⟩
  | refused named answered down shown uncaught =>
    exact ⟨rfl, fun _ catching => nomatch (catching _ shown).symm.trans uncaught⟩
  | untriggered named answered down allowed near' far' =>
    cases far.symm.trans far'
    exact ⟨rfl, fun _ _ => rfl⟩
  | triggered named answered down allowed place opened making =>
    rcases List.mem_cons.1 place with rfl | rest
    · exact nomatch near.symm.trans opened
    · cases List.mem_singleton.1 rest
      exact nomatch far.symm.trans opened

/-- While attaching, SIGQUIT is sent at most once, and only between the making of the trigger, whose
name holds the same id as that of the socket, and its removal. -/
theorem quit_within_trigger (config : Config) (pid : Pid) (h : Host) :
    let step := (attach config pid).run h
    let inner := namespacePid pid h
    let directory := config.directoryFor pid h
    let socket := directory.join (Path.ofString (".java_pid" ++ toString inner.toNat))
    let near := (Path.ofString s!"/proc/{pid}/cwd").join (Path.ofString (".attach_pid" ++ toString inner.toNat))
    let far := directory.join (Path.ofString (".attach_pid" ++ toString inner.toNat))
    let sought := ((probe pid).run h).outcome = .ok () ∧ socketExists socket h = false
    ∃ events, step.state.journal = h.journal ++ events ∧
      Orderly pid [near, far] events ∧
      (∀ handle, step.outcome = .ok handle → handle.socket = socket) ∧
      (socketExists socket h = true → Quiet events) ∧
      (∀ text mask, h.statusText pid.number.toNat = some text →
        ProcessStatus.caughtSignals text = some mask → mask.toNat.testBit 2 = false →
          Quiet events ∧ (∀ path, .created path ∉ events) ∧ (sought → step.outcome =
            .error (.attachFailed s!"process {pid} does not catch SIGQUIT; not a HotSpot VM"))) ∧
      (∀ first second, h.machine.openFile h.caller true near = .error first →
        h.machine.openFile h.caller true far = .error second →
          Quiet events ∧ (sought → (∀ text mask, h.statusText pid.number.toNat = some text →
            ProcessStatus.caughtSignals text = some mask → mask.toNat.testBit 2 = true) →
              step.outcome = .error (.io second))) := by
  intro step inner directory socket near far sought
  have came : Attaches config pid h step.outcome step.state := attaches config pid h
  obtain ⟨events, noted, conduct⟩ := came.conduct
  have idle (same : step.state = probed pid h) : ∀ event ∈ events, Idle pid event := by
    obtain ⟨asked, noted', asks⟩ := notes_probed pid h
    rw [same, noted'] at noted
    rw [← List.append_cancel_left noted]
    exact asks
  have unheard (reached : sought) : Unheard config pid h := ⟨reached.1, reached.2⟩
  refine ⟨events, noted, conduct.orderly, fun handle => came.socket, fun up => ?_, ?_, ?_⟩
  · exact quiet_of_idle (idle (came.up up))
  · intro text mask read shown clear
    have caught : caughtBy pid h = some mask := by rw [caughtBy, read, Option.bind_some, shown]
    obtain ⟨same, refused⟩ := came.uncaught caught clear
    refine ⟨quiet_of_idle (idle same), fun path mem => ?_, fun reached => refused (unheard reached)⟩
    rcases idle same _ mem with event | ⟨_, event⟩ <;> cases event
  · intro first second closed closed'
    obtain ⟨same, failed⟩ := came.unplaced closed closed'
    refine ⟨quiet_of_idle (idle same), fun reached catching => failed (unheard reached) fun mask caught => ?_⟩
    obtain ⟨text, read, shown⟩ := Option.bind_eq_some_iff.1 caught
    exact catching text mask read shown

end JvmAttach.Attach
