import JvmAttach.Proofs.Attaching
import JvmAttach.Proofs.Unlinking

/-! Whose sockets attachments are made to. A socket is found when the target has answered or when its
listener was brought up, and either way attaching goes by its owner: the superuser may have any, others
their own. A socket that is there at once is attached to without a trace but for the question whether the
target is there. -/
namespace JvmAttach.Attach

open Act Host Host.Machine

variable {config : Config} {pid : Pid} {inner : UInt32} {directory socket trigger : Path} {timeout : Duration}
variable {h g made waited : Host} {owner : UInt32} {log : List Log.Entry}

theorem socketExists_iff : socketExists socket h = true ↔ ∃ owner, h.stat socket = .ok ⟨.socket, owner⟩ := by
  unfold socketExists
  cases h.stat socket with
  | error fault => simp
  | ok shown =>
    obtain ⟨kind, owner⟩ := shown
    simp

/-- The superuser trusts in any owner of a socket, others only in themselves. -/
def Trusts (uid owner : UInt32) : Prop := uid = 0 ∨ owner = uid

instance (uid owner : UInt32) : Decidable (Trusts uid owner) := inferInstanceAs (Decidable (_ ∨ _))

theorem ownership_of_stat {kind : FileKind} (shown : h.stat socket = .ok ⟨kind, owner⟩) :
    ownership socket h = if Trusts h.effectiveUid owner then .ok ()
      else .error (foreignSocket socket owner h.effectiveUid) := by
  simp only [ownership, shown]
  by_cases trusted : Trusts h.effectiveUid owner
  · rw [if_pos trusted]
    exact if_neg fun foreign => trusted.elim foreign.1 foreign.2
  · rw [if_neg trusted]
    exact if_pos (not_or.1 trusted)

theorem exists_of_handOver {handle : Attachment}
    (handed : (handOver pid socket timeout).run h = ⟨.ok handle, g, log⟩) :
    g = h ∧ ∃ shown, h.stat socket = .ok shown := by
  obtain ⟨words, ran⟩ := run_handOver pid socket timeout h
  rw [ran] at handed
  cases known : h.stat socket with
  | error fault =>
    simp only [ownership, known] at handed
    cases handed
  | ok shown =>
    have same := congrArg Step.state handed
    exact ⟨same.symm, shown, rfl⟩

theorem stat_probed (pid : Pid) (h : Host) (path : Path) : (probed pid h).stat path = h.stat path := by
  obtain ⟨machine, caller, _⟩ := probed_same pid h
  rw [Host.stat, machine, caller, Host.stat]

theorem seen_of_summon (summoned : (summon pid socket timeout trigger).run made = ⟨.ok (), waited, log⟩) :
    socketExists socket waited = true := by
  obtain ⟨_, _, _, _, told, signalled⟩ := exists_of_run_bind summoned
  obtain ⟨_, sent, _, _, _, waiting⟩ := exists_of_run_bind signalled
  rw [run_look_bind] at waiting
  obtain ⟨_, _, _, _, ended, last⟩ := exists_of_run_bind waiting
  cases last
  have ready : socketExists socket ((awaitSocket pid socket timeout sent.clock).run sent).state = true :=
    (socketWatch pid socket).ready_of_await timeout _ sent.clock .zero sent (congrArg Step.outcome ended)
  rw [congrArg Step.state ended] at ready
  exact ready

theorem caller_discard (trigger : Path) (h : Host) : ((Trigger.discard trigger).run h).state.caller = h.caller := by
  rcases Trigger.discard_cases trigger h with ⟨machine, _, state⟩ | ⟨fault, _, state⟩
  · rw [state]
    rfl
  · rw [state]

theorem exists_of_startListener
    (started : (startListener pid inner directory socket timeout).run h = ⟨.ok (), g, log⟩) :
    ∃ trigger waited, socketExists socket waited = true ∧ waited.caller = h.caller ∧
      g = ((Trigger.discard trigger).run waited).state := by
  cases allowed : (caughtBy pid h).any (!ProcessStatus.catchesQuit ·) with
  | true =>
    obtain ⟨mask, shown, uncaught⟩ := (Option.any_eq_true _ _).1 allowed
    rw [Bool.not_eq_true'] at uncaught
    rw [startListener_refused shown uncaught] at started
    cases started
  | false =>
    rw [startListener_allowed allowed] at started
    obtain ⟨trigger, made, _, _, created, held⟩ := exists_of_run_bind started
    obtain ⟨waited, _, summoned, discarded⟩ := exists_of_run_ending held
    obtain ⟨machine, _, making⟩ := Trigger.exists_of_create created
    have ours := caller_summon pid socket timeout trigger made
    rw [summoned, making] at ours
    exact ⟨trigger, waited, seen_of_summon summoned, ours, discarded⟩

/-- Nothing but a socket is found where a listener was brought up, since the removal of the trigger puts
nothing in its place. -/
theorem kind_of_startListener {shown : Attributes}
    (started : (startListener pid inner directory socket timeout).run h = ⟨.ok (), g, log⟩)
    (known : g.stat socket = .ok shown) : g.caller = h.caller ∧ shown.kind = .socket := by
  obtain ⟨trigger, waited, seen, ours, rfl⟩ := exists_of_startListener started
  obtain ⟨owner, before⟩ := socketExists_iff.1 seen
  refine ⟨(caller_discard trigger waited).trans ours, ?_⟩
  rw [Host.stat, Trigger.machine_discard, caller_discard] at known
  have still := (thins_removed waited.machine waited.caller trigger).stat known
  cases before.symm.trans still
  rfl

/-- A socket at the target's path, on the host on which its owner is asked for: it is there when the
target has answered, or it is there when the listener was brought up. -/
inductive Finds (config : Config) (pid : Pid) (h : Host) : Host → UInt32 → Prop
  | there {owner : UInt32} (answered : ((probe pid).run h).outcome = .ok ())
      (seen : h.stat (config.socketFor pid h) = .ok ⟨.socket, owner⟩) : Finds config pid h (probed pid h) owner
  | raised {owner : UInt32} {g : Host} {log : List Log.Entry} (answered : ((probe pid).run h).outcome = .ok ())
      (down : socketExists (config.socketFor pid h) h = false)
      (started : (startListener pid (namespacePid pid h) (config.directoryFor pid h) (config.socketFor pid h)
        config.timeout).run (probed pid h) = ⟨.ok (), g, log⟩)
      (seen : g.stat (config.socketFor pid h) = .ok ⟨.socket, owner⟩) : Finds config pid h g owner

theorem run_probe_of_answered (answered : ((probe pid).run h).outcome = .ok ()) :
    (probe pid).run h = ⟨.ok (), probed pid h, []⟩ := by
  rcases run_probe pid h with ⟨fault, failed⟩ | ⟨_, ran⟩
  · rw [failed] at answered
    cases answered
  · exact ran

theorem Finds.answered (finds : Finds config pid h g owner) : ((probe pid).run h).outcome = .ok () := by
  cases finds with
  | there answered | raised answered => exact answered

theorem Finds.seen (finds : Finds config pid h g owner) :
    g.stat (config.socketFor pid h) = .ok ⟨.socket, owner⟩ ∧ g.caller = h.caller := by
  cases finds with
  | there answered seen => exact ⟨(stat_probed pid h _).trans seen, (probed_same pid h).2.1⟩
  | raised answered down started seen =>
    exact ⟨seen, (kind_of_startListener started seen).1.trans (probed_same pid h).2.1⟩

theorem Finds.run_attach (finds : Finds config pid h g owner) :
    ∃ log, (attach config pid).run h = ⟨.ofExcept ((ownership (config.socketFor pid h) g).map fun _ =>
      ⟨pid, config.socketFor pid h, config.timeout, true⟩), g, log⟩ := by
  obtain ⟨entry, ran⟩ := Attach.run_attach config (run_probe_of_answered finds.answered)
  obtain ⟨words, handed⟩ := run_handOver pid (config.socketFor pid h) config.timeout g
  cases finds with
  | there answered seen =>
    have up : socketExists (config.socketFor pid h) h = true := socketExists_iff.2 ⟨owner, seen⟩
    simp only [up, ↓reduceIte] at ran
    exact ⟨_, by rw [ran, handed]⟩
  | raised answered down started seen =>
    simp only [down, Bool.false_eq_true, ↓reduceIte, bringingUp, run_bind_ok started] at ran
    exact ⟨_, by rw [ran, handed]⟩

theorem Finds.ownership (finds : Finds config pid h g owner) :
    ownership (config.socketFor pid h) g = if Trusts h.effectiveUid owner then .ok ()
      else .error (foreignSocket (config.socketFor pid h) owner h.effectiveUid) := by
  obtain ⟨seen, ours⟩ := finds.seen
  have who : g.effectiveUid = h.effectiveUid := congrArg Caller.uid ours
  rw [ownership_of_stat seen, who]

theorem Finds.accepted (finds : Finds config pid h g owner) (trusted : Trusts h.effectiveUid owner) :
    ((attach config pid).run h).outcome = .ok ⟨pid, config.socketFor pid h, config.timeout, true⟩ := by
  obtain ⟨log, ran⟩ := finds.run_attach
  rw [ran, finds.ownership, if_pos trusted]
  rfl

theorem Finds.refused (finds : Finds config pid h g owner) (foreign : ¬ Trusts h.effectiveUid owner) :
    ((attach config pid).run h).outcome =
      .error (foreignSocket (config.socketFor pid h) owner h.effectiveUid) := by
  obtain ⟨log, ran⟩ := finds.run_attach
  rw [ran, finds.ownership, if_neg foreign]
  rfl

theorem finds_of_bringingUp {handle : Attachment} (answered : ((probe pid).run h).outcome = .ok ())
    (down : socketExists (config.socketFor pid h) h = false)
    (brought : (bringingUp config pid h).run (probed pid h) = ⟨.ok handle, g, log⟩) :
    ∃ owner, Finds config pid h g owner := by
  obtain ⟨_, raised, _, _, started, handed⟩ := exists_of_run_bind brought
  obtain ⟨rfl, ⟨kind, owner⟩, seen⟩ := exists_of_handOver handed
  obtain ⟨_, rfl⟩ := kind_of_startListener started seen
  exact ⟨owner, .raised answered down started seen⟩

theorem finds_of_attach {handle : Attachment} (attached : (attach config pid).run h = ⟨.ok handle, g, log⟩) :
    ∃ owner, Finds config pid h g owner := by
  rcases run_probe pid h with ⟨fault, failed⟩ | ⟨_, answered⟩
  · rw [attach, run_bind_error failed] at attached
    cases attached
  · have alive : ((probe pid).run h).outcome = .ok () := congrArg Step.outcome answered
    obtain ⟨entry, ran⟩ := run_attach config answered
    cases up : socketExists (config.socketFor pid h) h with
    | true =>
      obtain ⟨owner, seen⟩ := socketExists_iff.1 up
      have left := handOver_unchanged pid (config.socketFor pid h) config.timeout (probed pid h)
      simp only [up, ↓reduceIte, attached, Step.mk.injEq] at ran
      rw [ran.2.1, left]
      exact ⟨owner, .there alive seen⟩
    | false =>
      rcases brought : (bringingUp config pid h).run (probed pid h) with ⟨outcome, left, words⟩
      simp only [up, Bool.false_eq_true, ↓reduceIte, attached, brought, Step.mk.injEq] at ran
      obtain ⟨rfl, rfl, _⟩ := ran
      exact finds_of_bringingUp alive up brought

theorem exists_trusted_of_attach {handle : Attachment}
    (attached : ((attach config pid).run h).outcome = .ok handle) :
    ∃ owner, Finds config pid h ((attach config pid).run h).state owner ∧ Trusts h.effectiveUid owner := by
  rcases ran : (attach config pid).run h with ⟨outcome, left, words⟩
  rw [ran] at attached
  cases attached
  obtain ⟨owner, finds⟩ := finds_of_attach ran
  refine ⟨owner, finds, Decidable.byContradiction fun foreign => ?_⟩
  have refused := finds.refused foreign
  rw [ran] at refused
  cases refused

/-- A handle is for a socket that was found at the target's path and whose owner is trusted; with another
owner's socket, wherever it comes from, attaching fails. Where the socket is there at once, nothing is done
but to ask whether the target is there, and only the owner decides. -/
theorem attach_by_owner (config : Config) (pid : Pid) (h : Host) :
    let step := (attach config pid).run h
    let socket := (config.directoryFor pid h).join
      (Path.ofString (".java_pid" ++ toString (namespacePid pid h).toNat))
    (∀ handle, step.outcome = .ok handle ↔ handle = ⟨pid, socket, config.timeout, true⟩ ∧
      ∃ owner, Finds config pid h step.state owner ∧ Trusts h.effectiveUid owner) ∧
    (∀ found owner, Finds config pid h found owner → ¬ Trusts h.effectiveUid owner →
      step.outcome = .error (.permissionDenied
        s!"attach socket {socket.shown} is owned by uid {owner.toNat}, we run as uid {h.effectiveUid.toNat}")) ∧
    (∀ owner, h.stat socket = .ok ⟨.socket, owner⟩ →
      (step.state = h ∨ step.state = record (.signal pid.raw 0) h) ∧
      ((∃ handle, step.outcome = .ok handle) ↔
        ((probe pid).run h).outcome = .ok () ∧ Trusts h.effectiveUid owner)) := by
  intro step socket
  refine ⟨fun handle => ⟨fun attached => ?_, ?_⟩, fun _ _ => Finds.refused, fun owner seen => ⟨?_, ?_, ?_⟩⟩
  · obtain ⟨owner, finds, trusted⟩ := exists_trusted_of_attach attached
    cases attached.symm.trans (finds.accepted trusted)
    exact ⟨rfl, owner, finds, trusted⟩
  · rintro ⟨rfl, owner, finds, trusted⟩
    exact finds.accepted trusted
  · have same : step.state = probed pid h := (attaches config pid h).up (socketExists_iff.2 ⟨owner, seen⟩)
    unfold probed at same
    split at same
    · exact .inr same
    · exact .inl same
  · rintro ⟨handle, attached⟩
    obtain ⟨owner', finds, trusted⟩ := exists_trusted_of_attach attached
    generalize ((attach config pid).run h).state = left at finds
    cases finds with
    | there answered seen' =>
      cases seen.symm.trans seen'
      exact ⟨answered, trusted⟩
    | raised answered down => exact nomatch (socketExists_iff.2 ⟨owner, seen⟩).symm.trans down
  · rintro ⟨answered, trusted⟩
    exact ⟨_, Finds.accepted (.there answered seen) trusted⟩

/-- A process of our own in whose place somebody else answers SIGQUIT with a socket. -/
def usurped : Host :=
  { Host.alone
      { nodes :=
          [⟨.directory [(Text.bytesOf "proc", 1), (Text.bytesOf "tmp", 2), (Text.bytesOf "work", 3)] 0 true, 0,
              0o755⟩,
           ⟨.processes, 0, 0o555⟩,
           ⟨.directory [] 0 true, 0, 0o777⟩,
           ⟨.directory [] 0 true, 1000, 0o755⟩]
        process? := fun number =>
          if number = 7 then some ⟨1000, 3, 0, .ok (Text.bytesOf "SigCgt:\t4\n"), 4⟩ else none }
      1 0 "" with
    realUid := 1000
    effectiveUid := 1000
    reaction := fun _ =>
      [⟨.zero, fun m => m.enter 2 (Text.bytesOf ".java_pid7") ⟨.socket true, 65534, 0o600⟩⟩] }

example : ((attach .standard ⟨7⟩).run usurped).outcome =
    .error (.permissionDenied
      "attach socket /proc/7/root/tmp/.java_pid7 is owned by uid 65534, we run as uid 1000") := by
  decide +kernel

end JvmAttach.Attach
