import JvmAttach.Attach.Attachment
import JvmAttach.Proofs.QuitSignal
import JvmAttach.Proofs.TriggerMaking

/-! How far attaching gets: the target does not answer, or it listens already, or it must not be
signalled, or no trigger can be made, or a trigger is made and it is summoned. -/
namespace JvmAttach.Attach

open Act Host

variable {config : Config} {pid : Pid} {h : Host}

/-- The host when the target has been asked whether it is there. A number that names no process is
not asked for. -/
def probed (pid : Pid) (h : Host) : Host := if 0 < pid.raw then record (.signal pid.raw 0) h else h

theorem probed_same (pid : Pid) (h : Host) :
    (probed pid h).machine = h.machine ∧ (probed pid h).caller = h.caller ∧
      (probed pid h).agenda = h.agenda ∧ (probed pid h).reaction = h.reaction := by
  unfold probed
  split
  · exact ⟨rfl, rfl, rfl, rfl⟩
  · exact ⟨rfl, rfl, rfl, rfl⟩

theorem run_probe (pid : Pid) (h : Host) :
    (∃ fault, (probe pid).run h = ⟨.error fault, probed pid h, []⟩) ∨
      0 < pid.raw ∧ (probe pid).run h = ⟨.ok (), probed pid h, []⟩ := by
  by_cases named : 0 < pid.raw
  · have asked : probed pid h = record (.signal pid.raw 0) h := if_pos named
    simp only [probe, signal, mapError, sendSignal, if_neg (Int.not_le.2 named), kill, run_change_bind,
      run_look_bind, asked]
    cases Host.signalFault pid.raw 0 (record (.signal pid.raw 0) h) with
    | some fault => exact .inl ⟨_, rfl⟩
    | none => exact .inr ⟨named, rfl⟩
  · have unasked : probed pid h = h := if_neg named
    simp only [probe, signal, mapError, sendSignal, if_pos (Int.not_lt.1 named), run_fail, unasked]
    exact .inl ⟨_, rfl⟩

/-- The path at which the target's socket is looked for. -/
def Config.socketFor (config : Config) (pid : Pid) (h : Host) : Path :=
  socketPath (config.directoryFor pid h) (namespacePid pid h)

theorem Config.directoryFor_probed (config : Config) (pid : Pid) (h : Host) :
    config.directoryFor pid (probed pid h) = config.directoryFor pid h := by
  unfold probed
  split <;> rfl

theorem namespacePid_probed (pid : Pid) (h : Host) : namespacePid pid (probed pid h) = namespacePid pid h := by
  unfold probed
  split <;> rfl

theorem socketExists_probed (socket : Path) (pid : Pid) (h : Host) :
    socketExists socket (probed pid h) = socketExists socket h := by
  unfold probed
  split <;> rfl

theorem caughtBy_probed (pid : Pid) (h : Host) : caughtBy pid (probed pid h) = caughtBy pid h := by
  unfold probed
  split <;> rfl

/-- The last part of attaching: a look at whose socket it is, and the handle. -/
def handOver (pid : Pid) (socket : Path) (timeout : Duration) : Act AttachFault Host Attachment := do
  checkOwner socket
  Act.tell (attachedTo pid)
  return { pid, socket, timeout, attached := true }

theorem run_handOver (pid : Pid) (socket : Path) (timeout : Duration) (h : Host) :
    ∃ log, (handOver pid socket timeout).run h =
      ⟨.ofExcept ((ownership socket h).map fun _ => ⟨pid, socket, timeout, true⟩), h, log⟩ := by
  cases owned : ownership socket h with
  | error fault =>
    have checked : (checkOwner socket).run h = ⟨.error fault, h, []⟩ := by
      simp only [checkOwner, run_look_bind, owned, run_ofExcept, Outcome.ofExcept]
    exact ⟨[], by rw [handOver, run_bind_error checked]; rfl⟩
  | ok fine =>
    have checked : (checkOwner socket).run h = ⟨.ok (), h, []⟩ := by
      simp only [checkOwner, run_look_bind, owned, run_ofExcept, Outcome.ofExcept]
    exact ⟨[attachedTo pid], by rw [handOver, run_bind_ok checked]; rfl⟩

theorem handOver_unchanged (pid : Pid) (socket : Path) (timeout : Duration) :
    Leads (fun s t : Host => t = s) (handOver pid socket timeout) := by
  intro g
  obtain ⟨log, ran⟩ := run_handOver pid socket timeout g
  rw [ran]

/-- What attaching does when a trigger was made: the target is summoned and the trigger discarded. -/
def summoning (config : Config) (pid : Pid) (h : Host) (trigger : Path) : Act AttachFault Host Attachment := do
  (summon pid (config.socketFor pid h) config.timeout trigger).ending (Trigger.discard trigger)
  handOver pid (config.socketFor pid h) config.timeout

theorem state_summoning (config : Config) (pid : Pid) (h : Host) (trigger : Path) (made : Host) :
    ((summoning config pid h trigger).run made).state =
      ((Trigger.discard trigger).run
        ((summon pid (config.socketFor pid h) config.timeout trigger).run made).state).state := by
  have handed : ((summoning config pid h trigger).run made).state =
      (((summon pid (config.socketFor pid h) config.timeout trigger).ending (Trigger.discard trigger)).run
        made).state :=
    Leads.behind (Lasting.unchanged fun s => s)
      (fun _ => handOver_unchanged pid (config.socketFor pid h) config.timeout) made
  have ended := state_ending (lives_summon pid (config.socketFor pid h) config.timeout trigger)
    (Trigger.discard trigger) made
  exact handed.trans ended

/-- Everything that attaching can come to, with the host it leaves. -/
inductive Attaches (config : Config) (pid : Pid) (h : Host) : Outcome AttachFault Attachment → Host → Prop
  | unanswered {fault : AttachFault} (failed : ((probe pid).run h).outcome = .error fault) :
      Attaches config pid h (.error fault) (probed pid h)
  | listening {result : Except AttachFault Attachment} (named : 0 < pid.raw)
      (answered : ((probe pid).run h).outcome = .ok ())
      (up : socketExists (config.socketFor pid h) h = true)
      (handed : ((handOver pid (config.socketFor pid h) config.timeout).run (probed pid h)).outcome =
        .ofExcept result) :
      Attaches config pid h (.ofExcept result) (probed pid h)
  | refused {mask : UInt64} (named : 0 < pid.raw) (answered : ((probe pid).run h).outcome = .ok ())
      (down : socketExists (config.socketFor pid h) h = false) (shown : caughtBy pid h = some mask)
      (uncaught : ProcessStatus.catchesQuit mask = false) :
      Attaches config pid h (.error (notCatching pid)) (probed pid h)
  | untriggered {first second : SystemFault} (named : 0 < pid.raw)
      (answered : ((probe pid).run h).outcome = .ok ())
      (down : socketExists (config.socketFor pid h) h = false)
      (allowed : (caughtBy pid h).any (!ProcessStatus.catchesQuit ·) = false)
      (near : h.machine.openFile h.caller true (Trigger.inDirectory pid (namespacePid pid h)) = .error first)
      (far : h.machine.openFile h.caller true
        (Trigger.inTemporary (config.directoryFor pid h) (namespacePid pid h)) = .error second) :
      Attaches config pid h (.error (.io second)) (probed pid h)
  | triggered {trigger : Path} {machine : Machine} {made : Host} (named : 0 < pid.raw)
      (answered : ((probe pid).run h).outcome = .ok ())
      (down : socketExists (config.socketFor pid h) h = false)
      (allowed : (caughtBy pid h).any (!ProcessStatus.catchesQuit ·) = false)
      (place : trigger ∈ Trigger.places pid (namespacePid pid h) (config.directoryFor pid h))
      (opened : h.machine.openFile h.caller true trigger = .ok machine)
      (making : made = record (.created trigger) { probed pid h with machine }) :
      Attaches config pid h ((summoning config pid h trigger).run made).outcome
        ((summoning config pid h trigger).run made).state

/-- What attaching does when the target has answered but no listener is found. -/
def bringingUp (config : Config) (pid : Pid) (h : Host) : Act AttachFault Host Attachment := do
  startListener pid (namespacePid pid h) (config.directoryFor pid h) (config.socketFor pid h) config.timeout
  handOver pid (config.socketFor pid h) config.timeout

theorem run_attach (config : Config) (answered : (probe pid).run h = ⟨.ok (), probed pid h, []⟩) :
    ∃ entry, (attach config pid).run h =
      let rest := (if socketExists (config.socketFor pid h) h then
        handOver pid (config.socketFor pid h) config.timeout else bringingUp config pid h).run (probed pid h)
      ⟨rest.outcome, rest.state, entry :: rest.log⟩ := by
  refine ⟨resolved pid (namespacePid pid h) (config.socketFor pid h), ?_⟩
  rw [attach, run_bind_ok answered]
  simp only [run_look_bind, run_tell_bind, namespacePid_probed, Config.directoryFor_probed, socketExists_probed,
    List.nil_append]
  rw [show socketPath (config.directoryFor pid h) (namespacePid pid h) = config.socketFor pid h from rfl]
  cases socketExists (config.socketFor pid h) h with
  | true => simp only [Bool.not_true, Bool.false_eq_true, ↓reduceIte, handOver]
  | false => simp only [Bool.not_false, Bool.false_eq_true, ↓reduceIte, bringingUp, handOver]

/-- Where no listener is found, attaching ends for want of a handler or of a trigger, or with the
removal of the trigger. -/
theorem attaches_bringingUp (named : 0 < pid.raw) (answered : ((probe pid).run h).outcome = .ok ())
    (down : socketExists (config.socketFor pid h) h = false) :
    Attaches config pid h ((bringingUp config pid h).run (probed pid h)).outcome
      ((bringingUp config pid h).run (probed pid h)).state := by
  cases allowed : (caughtBy pid h).any (!ProcessStatus.catchesQuit ·) with
  | true =>
    obtain ⟨mask, shown, uncaught⟩ := (Option.any_eq_true _ _).1 allowed
    rw [Bool.not_eq_true'] at uncaught
    rw [bringingUp, run_bind_error (startListener_refused ((caughtBy_probed pid h).trans shown) uncaught)]
    exact .refused named answered down shown uncaught
  | false =>
    have held : (startListener pid (namespacePid pid h) (config.directoryFor pid h) (config.socketFor pid h)
          config.timeout).run (probed pid h) =
        (Trigger.holding pid (namespacePid pid h) (config.directoryFor pid h)
          (summon pid (config.socketFor pid h) config.timeout)).run (probed pid h) :=
      startListener_allowed ((congrArg _ (caughtBy_probed pid h)).trans allowed)
    obtain ⟨machine_same, caller_same, _⟩ := probed_same pid h
    rcases Trigger.create_cases pid (namespacePid pid h) (config.directoryFor pid h) (probed pid h) with
      ⟨trigger, place, machine, log, opened, created⟩ | ⟨first, second, log, near, far, created⟩
    · rw [machine_same, caller_same] at opened
      obtain ⟨made, making⟩ : ∃ made, made = record (.created trigger) { probed pid h with machine } :=
        ⟨_, rfl⟩
      have triggered : Attaches config pid h _ _ := .triggered named answered down allowed place opened making
      rw [← making] at created
      rw [Trigger.holding, run_bind_ok created] at held
      obtain ⟨outcome, state⟩ := ends_bind held fun _ =>
        handOver pid (config.socketFor pid h) config.timeout
      rw [bringingUp, outcome, state]
      exact triggered
    · rw [machine_same, caller_same] at near far
      rw [Trigger.holding, run_bind_error created] at held
      rw [bringingUp, run_bind_error held]
      exact .untriggered named answered down allowed near far

theorem attaches (config : Config) (pid : Pid) (h : Host) :
    Attaches config pid h ((attach config pid).run h).outcome ((attach config pid).run h).state := by
  rcases run_probe pid h with ⟨fault, failed⟩ | ⟨named, answered⟩
  · rw [attach, run_bind_error failed]
    exact .unanswered (by rw [failed])
  · have alive : ((probe pid).run h).outcome = .ok () := by rw [answered]
    obtain ⟨entry, ran⟩ := run_attach config answered
    rw [ran]
    cases up : socketExists (config.socketFor pid h) h with
    | true =>
      obtain ⟨words, handed⟩ := run_handOver pid (config.socketFor pid h) config.timeout (probed pid h)
      simp only [↓reduceIte, handed]
      exact .listening named alive up (by rw [handed])
    | false => exact attaches_bringingUp named alive up

theorem Attaches.up {outcome : Outcome AttachFault Attachment} {host : Host} (came : Attaches config pid h outcome host)
    (up : socketExists (config.socketFor pid h) h = true) : host = probed pid h := by
  cases came with
  | unanswered | listening => rfl
  | refused _ _ down | untriggered _ _ down | triggered _ _ down => exact nomatch up.symm.trans down

end JvmAttach.Attach
