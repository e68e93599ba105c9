import JvmAttach.Proofs.Footprint
import JvmAttach.Proofs.LastName
import JvmAttach.Proofs.Others
import JvmAttach.Proofs.SignalOrder

/-! What attaching does to files that were there before. Nothing, but for what stands in the way of the
trigger: a file that its path leads to is emptied when the trigger is made, and an entry that its path
leads to is taken away with the trigger. Nothing is asked about what is there. -/
namespace JvmAttach.Attach

open Act Host Host.Machine

variable {config : Config} {pid : Pid} {h host : Host} {outcome : Outcome AttachFault Attachment}

/-- A machine that the others may have made of another while we waited. What they leave as it is, is so
on both. -/
def Drifts (h : Host) (m n : Machine) : Prop := ∀ P : Machine → Prop, Undisturbed P h → P m → P n

theorem drifts_summon {machine : Machine} {made : Host} {trigger : Path}
    (making : made = record (.created trigger) { probed pid h with machine }) (socket : Path) (timeout : Duration) :
    Drifts h machine ((summon pid socket timeout trigger).run made).state.machine := by
  intro P undisturbed holds
  obtain ⟨_, _, agenda, reaction⟩ := probed_same pid h
  have start : Stable P made := by
    rw [making]
    exact ⟨holds, fun deed mem => undisturbed.planned deed (agenda ▸ mem),
      fun number deed mem => undisturbed.answered number deed (reaction ▸ mem)⟩
  exact (stable_summon P pid socket timeout trigger made start).1

/-- The machine is left as it was, or a trigger is opened by its path, and behind the wait what the
path leads to by then is removed. -/
theorem Attaches.machine (came : Attaches config pid h outcome host) :
    host.machine = h.machine ∨
      ∃ trigger ∈ Trigger.places pid (namespacePid pid h) (config.directoryFor pid h),
        ∃ events opened waited, host.journal = h.journal ++ events ∧ .created trigger ∈ events ∧
          h.machine.openFile h.caller true trigger = .ok opened ∧ Drifts h opened waited ∧
          host.machine = waited.removed h.caller trigger := by
  obtain ⟨machine_same, caller_same, _⟩ := probed_same pid h
  cases came with
  | unanswered | listening | refused | untriggered => exact .inl machine_same
  | @triggered trigger machine made named answered down allowed place opened making =>
    obtain ⟨asked, waits, removal, noted, _⟩ := journal_summoning config named making
    have ours : ((summon pid (config.socketFor pid h) config.timeout trigger).run made).state.caller = h.caller := by
      have stays := caller_summon pid (config.socketFor pid h) config.timeout trigger made
      rw [stays, making]
      exact caller_same
    refine .inr ⟨trigger, place, _, machine, _, noted, ?_, opened,
      drifts_summon making (config.socketFor pid h) config.timeout, ?_⟩
    · exact List.mem_append_left _ (List.mem_append_right _ List.mem_cons_self)
    · rw [state_summoning, Trigger.machine_discard, ours]

/-- Attaching leaves every entry that was there before in its place and every file as it was, as far as
the others do, with two exceptions. The path of the trigger may lead to a file when the trigger is made;
that is emptied. And it may lead to an entry when the trigger is removed; that is taken away. -/
theorem attach_spares (config : Config) (pid : Pid) (h : Host) :
    let ended := ((attach config pid).run h).state
    let inner := namespacePid pid h
    let name := Path.ofString (".attach_pid" ++ toString inner.toNat)
    let near := (Path.ofString s!"/proc/{pid}/cwd").join name
    let far := (config.directoryFor pid h).join name
    ∃ events, ended.journal = h.journal ++ events ∧
      (∀ d key i, Binds d key i h.machine → Undisturbed (Binds d key i) h →
        Binds d key i ended.machine ∨
        ∃ trigger ∈ [near, far], .created trigger ∈ events ∧ key = name.bytes ∧
          ∃ opened waited, h.machine.openFile h.caller true trigger = .ok opened ∧ Drifts h opened waited ∧
            Reaches waited h.caller trigger d key ∧ ended.machine = waited.unlink d key) ∧
      ∀ i node, h.machine.node? i = some node →
        (Undisturbed (Shapes i node) h → Shapes i node ended.machine) ∧
        (Undisturbed (Keeps i node) h →
          Keeps i node ended.machine ∨
          ∃ trigger ∈ [near, far], .created trigger ∈ events ∧ LeadsTo h.machine h.caller trigger i ∧
            (∃ bytes, node.content = .file bytes) ∧
            (Undisturbed (Keeps i { node with content := .file [] }) h →
              Keeps i { node with content := .file [] } ended.machine)) := by
  intro ended inner name near far
  have came : Attaches config pid h _ ended := attaches config pid h
  rcases came.machine with same | ⟨trigger, place, events, opened, waited, noted, made, opening, drifts, removal⟩
  · obtain ⟨events, noted, _⟩ := came.conduct
    refine ⟨events, noted, fun d key i binds _ => .inl ?_, fun i node found => ⟨fun _ => ?_, fun _ => .inl ?_⟩⟩
    · rw [same]; exact binds
    · rw [same]; exact .of_node? found
    · rw [same]; exact .of_node? found
  · -- we open, the others act, and we remove: each step is asked for what it spares
    have first := spares_openFile opening
    have last := spares_removed waited h.caller trigger
    rw [removal]
    refine ⟨events, noted, fun d key i binds undisturbed => ?_, fun i node found =>
      ⟨fun undisturbed => ?_, fun undisturbed => ?_⟩⟩
    · have still := drifts _ undisturbed (first.binds binds id)
      by_cases reaches : Reaches waited h.caller trigger d key
      · refine .inr ⟨trigger, place, made, name_of_reaches place reaches, opened, waited, opening, drifts,
          reaches, ?_⟩
        rw [removed, remove_of_reaches reaches]
      · exact .inl (last.binds still reaches)
    · exact last.shapes (drifts _ undisturbed (first.shapes (.of_node? found)))
    · by_cases leads : LeadsTo h.machine h.caller trigger i
      · obtain ⟨file, emptied⟩ := emptied_of_leads opening leads found
        refine .inr ⟨trigger, place, made, leads, file, fun kept => ?_⟩
        exact last.keeps (drifts _ kept (.of_node? emptied)) id
      · exact .inl (last.keeps (drifts _ undisturbed (first.keeps (.of_node? found) leads)) id)

/-- A process in whose directory somebody has put a link under the name of its trigger. -/
def planted : Host :=
  Host.alone
    { nodes :=
        [⟨.directory [(procName, 1), (Text.bytesOf "tmp", 2), (Text.bytesOf "work", 3)] 0 true, 0, 0o755⟩,
         ⟨.processes, 0, 0o555⟩,
         ⟨.directory [(Text.bytesOf "kept", 5)] 0 true, 0, 0o777⟩,
         ⟨.directory [(Text.bytesOf ".attach_pid7", 4)] 0 true, 0, 0o755⟩,
         ⟨.link (Text.bytesOf "/tmp/kept"), 0, 0o777⟩,
         ⟨.file (Text.bytesOf "data"), 0, 0o644⟩]
      process? := fun number =>
        if number = 7 then some ⟨0, 3, 0, .ok (Text.bytesOf "SigCgt:\t4\n"), 4⟩ else none }
    1 0 ""

/-- Attaching takes away the link and empties the file behind it, and nobody else does anything. -/
theorem planted_link_followed :
    let ended := ((attach Config.standard ⟨7⟩).run planted).state
    (∀ P, Undisturbed P planted) ∧
    Binds 3 (Text.bytesOf ".attach_pid7") 4 planted.machine ∧
    ¬ ended.machine.Named 3 (Text.bytesOf ".attach_pid7") ∧
    planted.machine.node? 5 = some ⟨.file (Text.bytesOf "data"), 0, 0o644⟩ ∧
    ended.machine.node? 5 = some ⟨.file [], 0, 0o644⟩ := by
  intro ended
  have idle (P : Machine → Prop) : Undisturbed P planted := ⟨nofun, nofun⟩
  exact ⟨idle, by decide +kernel⟩

end JvmAttach.Attach
