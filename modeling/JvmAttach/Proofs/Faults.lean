import JvmAttach.Proofs.Attaching
import JvmAttach.Proofs.Exchange

/-! How attaching and loading fail. Neither reports a library as missing, because that is found out before
them, and of the two only loading reports an argument as invalid, for a path that no request can hold. Neither
crashes, unless the naps of a wait grow too long to be added to. -/
namespace JvmAttach

open Act

/-- Not that a library is missing. -/
def AttachFault.Found (fault : AttachFault) : Prop := ∀ name path, fault ≠ .libraryMissing name path

/-- Neither that a library is missing nor that an argument is invalid. -/
def AttachFault.Proper : AttachFault → Prop
  | .libraryMissing .. => False
  | .invalidArgument _ => False
  | _ => True

theorem AttachFault.Proper.found {fault : AttachFault} (proper : fault.Proper) : fault.Found := by
  rintro name path rfl
  exact proper

namespace Attach

variable {ε σ : Type} {P : ε → Prop} {crashes : Prop}

/-- Naps never outlast the wait so far until the deadline has come, so that with a deadline that leaves room
for one more they do not grow too long. -/
theorem Watch.errs_await (w : Watch ε σ) {timeout : Duration} {late : ε} (kind : P late)
    (checks : Errs P crashes w.check)
    (room : ¬ crashes → timeout.nanos + w.growth.nanos ≤ Duration.longest.nanos) (started delay : Duration) (s : σ)
    (begun : started ≤ w.now s) (rested : delay ≤ w.elapsed started s ∨ timeout ≤ w.elapsed started s) :
    (w.await timeout late started delay s).outcome.Errs P crashes := by
  fun_induction w.await timeout late started delay s with
  | case1 delay s ready => trivial
  | case2 delay s waiting ended => exact kind
  | case3 delay s waiting early overflow =>
    apply Classical.byContradiction
    intro safe
    have fits := room safe
    simp only [Duration.add?, Duration.le_def] at overflow rested early
    split at overflow
    · cases overflow
    · omega
  | case4 delay s waiting early longer grown checked passed rest ih =>
    have asleep := w.now_nap (w.napOf timeout started longer s) s
    have awake : (w.now (w.nap (w.napOf timeout started longer s) s)).nanos ≤ (w.now checked.state).nanos :=
      w.now_check _
    have slept : (w.napOf timeout started longer s).nanos =
        min longer.nanos (timeout.nanos - (w.elapsed started s).nanos) := rfl
    have before : (w.elapsed started s).nanos = (w.now s).nanos - started.nanos := rfl
    have after : (w.elapsed started checked.state).nanos = (w.now checked.state).nanos - started.nanos := rfl
    simp only [Duration.le_def] at begun early ih ⊢
    exact ih (by omega) (by omega)
  | case5 delay s waiting early longer grown checked failed => exact checks _

variable {config : Config} {pid : Pid} {crashes : Prop}

theorem proper_signalFault (pid : Pid) (fault : SystemFault) : (signalFault pid fault).Proper := by
  unfold signalFault
  split
  · trivial
  · split <;> trivial

theorem errs_sendSignal {P : SystemFault → Prop} (kind : ∀ fault, P fault) (pid : Pid) (number : Int) :
    Errs P crashes (sendSignal pid number) := by
  intro h
  by_cases named : pid.raw ≤ 0
  · simp only [sendSignal, if_pos named]
    exact kind _
  · simp only [sendSignal, if_neg named, Host.kill, run_change_bind, run_look_bind]
    cases Host.signalFault pid.raw number (Host.record (.signal pid.raw number) h) with
    | some fault => exact kind _
    | none => trivial

theorem errs_signal (pid : Pid) (number : Int) : Errs AttachFault.Proper crashes (signal pid number) :=
  .mapError (errs_sendSignal (proper_signalFault pid) pid number)

/-- The timeout leaves room for one more nap. -/
def Config.Timely (config : Config) : Prop :=
  config.timeout.nanos + pollStep.nanos ≤ Duration.longest.nanos

theorem errs_summon (timely : ¬ crashes → config.Timely) (pid : Pid) (socket trigger : Path) :
    Errs AttachFault.Proper crashes (summon pid socket config.timeout trigger) := by
  refine .bind (.tell _) fun _ => .bind (errs_signal pid _) fun _ => ?_
  -- the wait starts where the clock is read, so that these two cannot be taken apart
  intro h
  have waited : ((awaitSocket pid socket config.timeout h.clock).run h).outcome.Errs AttachFault.Proper crashes :=
    (socketWatch pid socket).errs_await trivial (errs_signal pid 0) timely h.clock .zero h (Nat.le_refl _)
      (.inl (Nat.zero_le _))
  rw [run_look_bind]
  exact Errs.bind_at waited fun _ _ => trivial

theorem errs_changing {P : SystemFault → Prop} (kind : ∀ fault, P fault) (event : Host.Event)
    (f : Host.Machine → Host.Caller → Except SystemFault Host.Machine) :
    Errs P crashes (Host.changing event f) := by
  intro h
  simp only [Host.changing, tryChange]
  cases f h.machine h.caller with
  | ok machine => trivial
  | error fault => exact kind fault

theorem Trigger.errs_create (pid : Pid) (inner : UInt32) (directory : Path) :
    Errs AttachFault.Proper crashes (create pid inner directory) := by
  refine .bind (errs_changing (fun _ => trivial) _ _ : Errs (fun _ => True) crashes _).attempt fun made => ?_
  cases made with
  | ok done => exact .pure _
  | error fault =>
    exact .bind (.tell _) fun _ => .bind (.mapError (errs_changing (fun _ => trivial) _ _)) fun _ => .pure _

theorem Trigger.errs_discard (path : Path) : Errs AttachFault.Proper crashes (discard path) :=
  .bind (errs_changing (fun _ => trivial) _ _ : Errs (fun _ => True) crashes _).attempt fun _ => .pure _

theorem errs_checkOwner (socket : Path) : Errs AttachFault.Proper crashes (checkOwner socket) := by
  intro h
  have kind (fault : AttachFault) (failed : ownership socket h = .error fault) : fault.Proper := by
    simp only [ownership] at failed
    split at failed
    · cases failed; trivial
    · split at failed
      · cases failed; trivial
      · cases failed
  exact Errs.ofExcept kind h

theorem errs_startListener (timely : ¬ crashes → config.Timely) (pid : Pid) (inner : UInt32)
    (directory socket : Path) :
    Errs AttachFault.Proper crashes (startListener pid inner directory socket config.timeout) := by
  refine .bind (.look _) fun caught => ?_
  split
  · exact .fail trivial
  · exact .bind (Trigger.errs_create pid inner directory) fun trigger =>
      .ending (errs_summon timely pid socket trigger) (Trigger.errs_discard trigger)

/-- Attaching finds no fault with a library or an argument, and does not crash if its timeout leaves room for
a nap. -/
theorem errs_attach (timely : ¬ crashes → config.Timely) (pid : Pid) :
    Errs AttachFault.Proper crashes (attach config pid) := by
  refine .bind (errs_signal pid 0) fun _ => .bind (.look _) fun inner => .bind (.look _) fun directory => ?_
  refine .bind (.tell _) fun _ => .bind (.look _) fun up => ?_
  have rest : Errs AttachFault.Proper crashes (do
      checkOwner (socketPath directory inner)
      Act.tell (attachedTo pid)
      return (⟨pid, socketPath directory inner, config.timeout, true⟩ : Attachment)) :=
    .bind (errs_checkOwner _) fun _ => .bind (.tell _) fun _ => .pure _
  cases up with
  | true => exact rest
  | false => exact .bind (errs_startListener timely pid inner directory _) fun _ => rest

end Attach

namespace Wire

theorem Source.errs_reading {α : Type} {P : SystemFault → Prop} (kind : ∀ fault, P fault)
    (f : Source → Except SystemFault α × Source) : Errs P False (reading f) := by
  intro s
  rcases read : f s with ⟨result, rest⟩
  cases result with
  | ok a => simp only [reading, read, Outcome.Errs]
  | error fault => simp only [reading, read, Outcome.Errs, kind]

namespace Reply

theorem errs_readLine : Errs AttachFault.Proper False readLine :=
  .mapError (.bind (Source.errs_reading (fun _ => trivial) _) fun _ => .pure _)

theorem errs_readStatus : Errs AttachFault.Proper False readStatus := by
  refine .bind errs_readLine fun line => ?_
  cases line with
  | none => exact .fail trivial
  | some line =>
    cases read : integer line with
    | ok status => simp only [read]; exact .pure _
    | error fault => simp only [read]; exact .fail trivial

theorem errs_readLoad : Errs AttachFault.Proper False readLoad := by
  refine .bind errs_readStatus fun status => ?_
  split
  · refine .bind (.mapError (Source.errs_reading (fun _ => trivial) _)) fun text => .fail ?_
    unfold failure
    split <;> trivial
  · refine .bind errs_readLine fun line => ?_
    cases line with
    | none => exact .fail trivial
    | some line =>
      refine .ofExcept fun fault failed => ?_
      unfold result at failed
      split at failed <;> cases failed <;> trivial

end Reply

end Wire

namespace Attach.Attachment

variable {path : Path} {options : String}

theorem proper_connectFault (a : Attachment) (fault : SystemFault) : (a.connectFault fault).Proper := by
  unfold connectFault
  split
  · trivial
  · split <;> trivial

theorem errs_connect {P : SystemFault → Prop} (kind : ∀ fault, P fault) (socket : Path) :
    Errs P False (Host.connect socket) :=
  .bind (.look _) fun _ => .bind (.ofExcept fun fault _ => kind fault) fun _ =>
    .bind (.look _) fun _ => .bind (.change _) fun _ => .pure _

theorem errs_execute (a : Attachment) {command : String} {arguments : List Bytes} {request : Bytes}
    (encoded : Wire.encode command arguments = .ok request) :
    Errs AttachFault.Proper False (a.execute command arguments) := by
  unfold execute
  split
  · exact .fail trivial
  · rw [encoded]
    refine .bind (.pure request) fun request => ?_
    refine .bind (.mapError (errs_connect (proper_connectFault a) _)) fun peer => .bind (.tell _) fun _ => ?_
    exact .bind (.mapError (.bind (.ofExcept fun _ _ => trivial) fun _ => .change _)) fun _ => .pure _

theorem errs_load_of_free (absolute : path.isAbsolute = true) (free : Free path options) :
    Errs AttachFault.Proper False (machine.load path options) := by
  have encoded : Wire.encode Wire.loadCommand (Wire.loadArguments path options) = .ok (frame path options) := by
    rw [encode_load, if_pos free]
  have loads (a : Attachment) : Errs AttachFault.Proper False (a.loadAgent path options) := by
    simp only [loadAgent, absolute, Bool.not_true, Bool.false_eq_true, ↓reduceIte]
    exact .bind (.tell _) fun _ => .bind (errs_execute a encoded) fun source =>
      .within _ _ Wire.Reply.errs_readLoad
  exact fun s => loads s.1 s.2

theorem errs_load (path : Path) (options : String) : Errs AttachFault.Found False (machine.load path options) := by
  rintro ⟨a, h⟩
  change ((load path options).run (a, h)).outcome.Errs AttachFault.Found False
  cases absolute : path.isAbsolute with
  | false => rw [run_load_relative a h options absolute]; exact nofun
  | true =>
    by_cases free : Free path options
    · exact (errs_load_of_free absolute free (a, h)).mono fun _ proper => proper.found
    · cases attached : a.attached with
      | false => rw [run_load_detached h options absolute attached]; exact nofun
      | true => rw [run_load_held h absolute attached free]; exact nofun

end Attach.Attachment

end JvmAttach
