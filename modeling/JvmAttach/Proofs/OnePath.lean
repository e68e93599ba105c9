import JvmAttach.Proofs.Answered
import JvmAttach.Proofs.Faults
import JvmAttach.Proofs.SignalOrder

/-! The path of a library on its way to the listener. It is made once; whether the library is there is asked
of it alone, a missing library is reported with it, and its bytes are what the one request of a load names. -/
namespace JvmAttach

open Act

namespace Host

def Event.request? : Event → Option Bytes
  | .sent bytes => some bytes
  | _ => none

def requests (events : List Event) : List Bytes := events.filterMap Event.request?

/-- From one host to another these requests were sent, whatever else was done. -/
def Sends (sent : List Bytes) (s t : Host) : Prop :=
  ∃ events, t.journal = s.journal ++ events ∧ requests events = sent

variable {s t u : Host} {first second : List Bytes}

theorem Sends.refl (s : Host) : Sends [] s s := ⟨[], (List.append_nil _).symm, rfl⟩

theorem Sends.trans (one : Sends first s t) (other : Sends second t u) : Sends (first ++ second) s u := by
  obtain ⟨before, noted, rfl⟩ := one
  obtain ⟨behind, noted', rfl⟩ := other
  exact ⟨before ++ behind, by rw [noted', noted, List.append_assoc], List.filterMap_append ..⟩

end Host

namespace Attach

open Host

variable {config : Config} {pid : Pid} {places : List Path} {events : List Event} {host h : Host}

theorem requests_of_idle (idle : ∀ event ∈ events, Idle pid event) : requests events = [] := by
  refine List.filterMap_eq_nil_iff.2 fun event mem => ?_
  rcases idle event mem with rfl | ⟨_, rfl⟩
  · rfl
  · rfl

theorem Conduct.unsent (conduct : Conduct pid places events) : requests events = [] := by
  cases conduct with
  | idle idle => exact requests_of_idle idle
  | @signalling asked waits removal trigger place asks naps removing =>
    have front : requests asked = [] := requests_of_idle asks
    have behind : requests waits = [] := requests_of_idle naps
    have last : requests removal = [] := by
      rcases removing with rfl | rfl
      · rfl
      · rfl
    have whole : requests (asked ++ [.created trigger] ++ .signal pid.raw sigquit :: (waits ++ removal)) =
        requests asked ++ (requests waits ++ requests removal) := by
      simp only [requests, List.filterMap_append, List.filterMap_cons, List.filterMap_nil, Event.request?,
        List.append_nil]
    rw [whole, front, behind, last]
    rfl

theorem sends_attach (config : Config) (pid : Pid) : Leads (Sends []) (attach config pid) := by
  intro h
  obtain ⟨events, noted, conduct⟩ := (attaches config pid h).conduct
  exact ⟨events, noted, conduct.unsent⟩

namespace Attachment

variable {a : Attachment} {path : Path} {options : String}

theorem sends_exchanged (socket : Path) (h : Host) (request : Bytes) :
    Sends [request] h (exchanged socket h request) := by
  refine ⟨[.connected socket, .sent request], ?_, rfl⟩
  simp [exchanged, record]

theorem sends_execute (attached : a.attached = true) (free : Free path options) (h : Host) :
    let t := ((a.execute Wire.loadCommand (Wire.loadArguments path options)).run h).state
    Sends [] h t ∨ Sends [frame path options] h t := by
  cases reachable : Host.reachable a.socket h with
  | error fault =>
    have refused : ((Host.connect a.socket).mapError a.connectFault).run h =
        ⟨.error (a.connectFault fault), h, []⟩ := by
      simp only [mapError, Host.connect, run_look_bind, reachable, run_ofExcept_error_bind]
    simp only [execute, attached, Bool.not_true, Bool.false_eq_true, ↓reduceIte, encode_load, if_pos free,
      run_ofExcept_ok_bind, run_bind_error refused]
    exact .inl (.refl h)
  | ok fine =>
    cases receives : (nextPeer h).receives with
    | ok done =>
      rw [run_execute attached free reachable receives]
      exact .inr (sends_exchanged a.socket h _)
    | error fault =>
      have broken :
          ((Host.send (nextPeer h) (frame path options)).mapError AttachFault.io).run (joined a.socket h) =
            ⟨.error (.io fault), joined a.socket h, []⟩ := by
        simp only [mapError, Host.send, receives, run_ofExcept_error_bind]
      simp only [execute, attached, Bool.not_true, Bool.false_eq_true, ↓reduceIte, encode_load, if_pos free,
        run_ofExcept_ok_bind, run_bind_ok (run_connect a reachable), run_tell_bind, run_bind_error broken]
      exact .inl ⟨[.connected a.socket], rfl, rfl⟩

theorem sends_load (a : Attachment) (path : Path) (options : String) (h : Host) :
    let t := ((load path options).run (a, h)).state.2
    Sends [] h t ∨ Sends [frame path options] h t := by
  cases absolute : path.isAbsolute with
  | false => rw [run_load_relative a h options absolute]; exact .inl (.refl h)
  | true =>
    cases attached : a.attached with
    | false => rw [run_load_detached h options absolute attached]; exact .inl (.refl h)
    | true =>
      by_cases free : Free path options
      · -- what is read of the answer does not reach the host
        have unread (source : Wire.Source) : Leads (fun s t : Host => t = s) (answered source) := fun _ => rfl
        have sent := sends_execute attached free h
        have same : ((a.execute Wire.loadCommand (Wire.loadArguments path options) >>= answered).run h).state =
            ((a.execute Wire.loadCommand (Wire.loadArguments path options)).run h).state :=
          Leads.behind (Lasting.unchanged fun s => s) unread h
        have whole : ((load path options).run (a, h)).state.2 =
            ((a.execute Wire.loadCommand (Wire.loadArguments path options) >>= answered).run h).state := by
          simp only [load, depending, beside, within, loadAgent, absolute, Bool.not_true, Bool.false_eq_true,
            ↓reduceIte, run_tell_bind]
        rw [whole, same]
        exact sent
      · rw [run_load_held h absolute attached free]; exact .inl (.refl h)

end Attachment

variable {library : AgentLibrary} {path : Path}

theorem run_held {P : AttachFault → Prop} (loads : Errs P False (Attachment.machine.load path "")) (pid : Pid)
    (handle : Attachment) (t : Host) :
    ∃ loaded log, (∀ fault, loaded = .error fault → P fault) ∧
      (Guard.holding Attachment.machine handle (Load.underGuard Attachment.machine pid path)).run t =
        ⟨.ofExcept (Load.worth loaded), ((Attachment.machine.load path "").run (handle, t)).state.2, log⟩ := by
  obtain ⟨loaded, came, kind⟩ := (loads (handle, t)).returned
  rcases made : (Attachment.machine.load path "").run (handle, t) with ⟨outcome, ⟨used, u⟩, log⟩
  rw [made] at came
  cases came
  obtain ⟨entries, held⟩ := Attachment.run_holding pid made
  exact ⟨loaded, entries, kind, held⟩

section Outlook

variable {outlook : Outlook Host}

theorem run_there (resolved : library.resolve (outlook.workingDirectory h) = .ok path)
    (present : outlook.present path h = true) :
    (Load.run (attacher config) outlook pid library).run h =
      let rest := (attach config pid >>= fun handle =>
        Guard.holding Attachment.machine handle (Load.underGuard Attachment.machine pid path)).run h
      ⟨rest.outcome, rest.state, Load.attaching pid path :: rest.log⟩ :=
  Load.run_there resolved present

/-- Behind a library that is there, a load fails as its load call does, or in a way that says nothing of the
library or an argument; and it does not crash if the timeout leaves room for a nap. -/
theorem errs_there_of_load {P : AttachFault → Prop} {crashes : Prop}
    (proper : ∀ fault : AttachFault, fault.Proper → P fault)
    (loads : Errs P False (Attachment.machine.load path "")) (timely : ¬ crashes → config.Timely)
    (resolved : library.resolve (outlook.workingDirectory h) = .ok path)
    (present : outlook.present path h = true) :
    ((Load.run (attacher config) outlook pid library).run h).outcome.Errs P crashes := by
  rw [run_there resolved present]
  refine Errs.bind_at ((errs_attach timely pid h).mono proper) fun handle _ => ?_
  obtain ⟨loaded, log, kind, held⟩ := run_held loads pid handle ((attach config pid).run h).state
  rw [held]
  cases loaded with
  | ok done => trivial
  | error fault =>
    have held := kind fault rfl
    simp only [Load.worth]
    split
    · trivial
    · exact held

theorem errs_there {crashes : Prop} (timely : ¬ crashes → config.Timely)
    (resolved : library.resolve (outlook.workingDirectory h) = .ok path)
    (present : outlook.present path h = true) :
    ((Load.run (attacher config) outlook pid library).run h).outcome.Errs AttachFault.Found crashes :=
  errs_there_of_load (fun _ proper => proper.found) (Attachment.errs_load path "") timely resolved present

end Outlook

theorem sends_there (resolved : library.resolve (outlook.workingDirectory h) = .ok path)
    (present : outlook.present path h = true) :
    let t := ((Load.run (attacher config) outlook pid library).run h).state
    Sends [] h t ∨ Sends [Attachment.frame path ""] h t := by
  have asked := sends_attach config pid h
  rw [run_there resolved present]
  rcases ran : (attach config pid).run h with ⟨outcome, t, log⟩
  rw [ran] at asked
  cases outcome with
  | ok handle =>
    obtain ⟨loaded, log, -, held⟩ := run_held (Attachment.errs_load path "") pid handle t
    simp only [run_bind_ok ran, held]
    rcases Attachment.sends_load handle path "" t with unsent | sent
    · exact .inl (asked.trans unsent)
    · exact .inr (asked.trans sent)
  | error fault => simp only [run_bind_error ran]; exact .inl asked
  | crashed message => simp only [run_bind_crashed ran]; exact .inl asked
  | aborted => simp only [run_bind_aborted ran]; exact .inl asked

theorem sends_taken (resolved : library.resolve (outlook.workingDirectory h) = .ok path)
    (present : outlook.present path h = true) {handle : Attachment}
    (attached : ((attach config pid).run h).outcome = .ok handle)
    (reachable : Host.reachable handle.socket ((attach config pid).run h).state = .ok ())
    (receives : (Attachment.nextPeer ((attach config pid).run h).state).receives = .ok ()) :
    Sends [Attachment.frame path ""] h ((Load.run (attacher config) outlook pid library).run h).state := by
  have asked := sends_attach config pid h
  have connected : handle.attached = true := yields_attach config pid h handle attached
  have free : Attachment.Free path "" := ⟨free_of_present present, by decide⟩
  rw [run_there resolved present]
  rcases ran : (attach config pid).run h with ⟨outcome, t, log⟩
  rw [ran] at asked attached reachable receives
  cases attached
  obtain ⟨loaded, words, -, held⟩ := run_held (Attachment.errs_load path "") pid handle t
  obtain ⟨said, loads⟩ :=
    Attachment.run_load_sent (isAbsolute_resolve resolved) connected free reachable receives
  have state : ((Attachment.machine.load path "").run (handle, t)).state.2 =
      Attachment.exchanged handle.socket t (Attachment.frame path "") := congrArg (·.state.2) loads
  simp only [run_bind_ok ran, held, state]
  exact asked.trans (Attachment.sends_exchanged handle.socket t _)

theorem fieldsOf_frame (free : (0 : UInt8) ∉ path.bytes) : Wire.fieldsOf (Attachment.frame path "") =
    [Text.bytesOf "1", Text.bytesOf "load", path.bytes, Text.bytesOf "true", []] := by
  have all : Wire.fields Wire.loadCommand (Wire.loadArguments path "") =
      [Text.bytesOf "1", Text.bytesOf "load", path.bytes, Text.bytesOf "true", []] := rfl
  rw [← Attachment.flatMap_fields, all]
  have plain : (0 : UInt8) ∉ Text.bytesOf "1" ∧ (0 : UInt8) ∉ Text.bytesOf "load" ∧
      (0 : UInt8) ∉ Text.bytesOf "true" := by decide
  refine Wire.fieldsOf_terminated _ fun field mem => ?_
  simp only [List.mem_cons, List.not_mem_nil, or_false] at mem
  rcases mem with rfl | rfl | rfl | rfl | rfl
  · exact plain.1
  · exact plain.2.1
  · exact free
  · exact plain.2.2
  · exact List.not_mem_nil

/-- One absolute path is asked for, reported as missing, and sent. Nothing but whether it is there decides
whether the library is missing, and the bytes of the request around it are always the same. -/
theorem one_path (config : Config) (pid : Pid) (library : AgentLibrary) (h : Host) :
    let step := (Load.run (attacher config) outlook pid library).run h
    (∀ fault, library.resolve (outlook.workingDirectory h) = .error fault → step = ⟨.error fault, h, []⟩) ∧
    ∀ path, library.resolve (outlook.workingDirectory h) = .ok path →
      let request := Text.bytesOf "1\x00load\x00" ++ path.bytes ++ Text.bytesOf "\x00true\x00\x00"
      path.isAbsolute = true ∧
      (∀ other : Outlook Host, other.workingDirectory h = outlook.workingDirectory h →
        other.present path h = outlook.present path h →
          (Load.run (attacher config) other pid library).run h = step) ∧
      (∀ name missing, step.outcome = .error (.libraryMissing name missing) ↔
        name = library.name ∧ missing = path ∧ outlook.present path h = false) ∧
      (outlook.present path h = false → step.state = h) ∧
      (Sends [] h step.state ∨ Sends [request] h step.state ∧ Wire.fieldsOf request =
        [Text.bytesOf "1", Text.bytesOf "load", path.bytes, Text.bytesOf "true", []]) ∧
      ∀ handle, outlook.present path h = true → ((attach config pid).run h).outcome = .ok handle →
        Host.reachable handle.socket ((attach config pid).run h).state = .ok () →
          (Attachment.nextPeer ((attach config pid).run h).state).receives = .ok () →
            Sends [request] h step.state := by
  intro step
  refine ⟨fun fault => Load.run_unresolved, fun path resolved => ?_⟩
  intro request
  have whole : request = Attachment.frame path "" := by
    have ends : Text.bytesOf "\x00true\x00\x00" = Text.bytesOf "\x00true\x00" ++ (Text.bytesOf "" ++ [0]) := by
      decide +kernel
    simp only [request, Attachment.frame, ends, List.append_assoc]
  have looks (other : Outlook Host) (working : other.workingDirectory h = outlook.workingDirectory h)
      (seen : other.present path h = outlook.present path h) :
      (Load.run (attacher config) other pid library).run h = step := by
    simp only [step, Load.run, run_look_bind, working, resolved, run_ofExcept_ok_bind, seen]
  refine ⟨isAbsolute_resolve resolved, looks, ?_⟩
  rw [whole]
  cases present : outlook.present path h with
  | false =>
    rw [show step = _ from Load.run_absent resolved present]
    refine ⟨fun name missing => ?_, fun _ => rfl, .inl (.refl h), fun _ seen => absurd seen Bool.false_ne_true⟩
    simp [eq_comm]
  | true =>
    have found : step.outcome.Errs AttachFault.Found True := errs_there (absurd trivial) resolved present
    have there : true ≠ false := Bool.false_ne_true.symm
    refine ⟨fun name missing => ⟨fun ended => ?_, fun absent => absurd absent.2.2 there⟩,
      fun absent => absurd absent there, ?_, fun handle _ => sends_taken resolved present⟩
    · rw [ended] at found
      exact absurd rfl (found name missing)
    · exact (sends_there resolved present).imp_right fun sent => ⟨sent, fieldsOf_frame (free_of_present present)⟩

end Attach

end JvmAttach
