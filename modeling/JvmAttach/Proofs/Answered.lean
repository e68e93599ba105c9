import JvmAttach.Command.Run
import JvmAttach.Proofs.Exchange
import JvmAttach.Proofs.Exit
import JvmAttach.Proofs.LibraryPath
import JvmAttach.Proofs.ReplyMeaning
import JvmAttach.Proofs.Verdict

/-! From the bytes a listener answers with to the result of a load and to how the command exits.
Nothing between the two asks for more than what the reply means. -/
namespace JvmAttach

open Act Wire Wire.Reply

/-- The result of a load whose entry point returned `code`. -/
def LoadResult.ofCode (code : Int) : LoadResult :=
  if code = 0 then .loaded else .initializationSignalled

theorem Load.worth_returned (code : Int) : worth (returned code) = .ok (.ofCode code) := by
  by_cases zero : code = 0
  · simp only [returned, LoadResult.ofCode, zero, ↓reduceIte, worth]
  · simp only [returned, LoadResult.ofCode, zero, ↓reduceIte, worth, AttachFault.isIgnorable, beq_self_eq_true]

namespace Attach

theorem yields_attach (config : Config) (pid : Pid) :
    Yields (fun handle => handle.attached = true) (attach config pid) := by
  refine .bind fun _ => .bind fun inner => .bind fun directory => .bind fun _ => .bind fun up => ?_
  have rest : Yields (fun handle : Attachment => handle.attached = true) (do
      checkOwner (socketPath directory inner)
      tell (attachedTo pid)
      return { pid, socket := socketPath directory inner, timeout := config.timeout, attached := true }) :=
    .bind fun _ => .bind fun _ => .pure rfl
  cases up with
  | true => exact rest
  | false => exact .bind fun _ => rest

/-- The next connection to a socket is taken, and answered with `data` before it is closed. -/
structure Answers (socket : Path) (h : Host) (data : Bytes) : Prop where
  reachable : Host.reachable socket h = .ok ()
  answered : ∃ peer, h.peers.head? = some peer ∧ peer.receives = .ok () ∧
    Source.Intact peer.answers ∧ Source.data peer.answers = data

theorem Attachment.run_load {a : Attachment} {h : Host} {data : Bytes} {path : Path} (attached : a.attached = true)
    (absolute : path.isAbsolute = true) (free : (0 : UInt8) ∉ path.bytes)
    (answers : Answers a.socket h data) :
    ∃ said t log, (machine.load path "").run (a, h) = ⟨.ofExcept said, (a, t), log⟩ ∧ Meant data said := by
  obtain ⟨reachable, peer, next, receives, intact, whole⟩ := answers
  have first : nextPeer h = peer := by rw [nextPeer, next, Option.getD_some]
  have unnamed : (0 : UInt8) ∉ Text.bytesOf "" := by decide
  obtain ⟨log, sent⟩ := run_load_sent absolute attached ⟨free, unnamed⟩ reachable (first ▸ receives)
  obtain ⟨said, rest, read, meant⟩ := readLoad_meant intact
  refine ⟨said, exchanged a.socket h (frame path ""), log, ?_, whole ▸ meant⟩
  rw [first, read] at sent
  exact sent

theorem Attachment.run_holding {handle used : Attachment} {h t : Host} {loaded : Except AttachFault Unit}
    {log : List Log.Entry} (pid : Pid) {path : Path}
    (load : (machine.load path "").run (handle, h) = ⟨.ofExcept loaded, (used, t), log⟩) :
    ∃ entries, (Guard.holding machine handle (Load.underGuard machine pid path)).run h =
      ⟨.ofExcept (Load.worth loaded), t, entries⟩ := by
  obtain ⟨words, ended⟩ := run_detach used t
  have detached : machine.detach.run (used, t) =
      ⟨.ofExcept (.ok ()), ({ used with attached := false }, t), words⟩ := ended
  have verdict : Load.verdict (Load.worth loaded) (.ok ()) = Load.worth loaded := by
    cases Load.worth loaded <;> rfl
  have held := Load.run_holding pid load detached
  rw [verdict] at held
  exact ⟨_, held⟩

/-- A library that is there, and a process that can be attached to and whose listener then answers
with `data`. -/
structure Served (config : Config) (pid : Pid) (library : AgentLibrary) (h : Host) (data : Bytes) : Prop where
  found : ∃ path, library.resolve (Host.outlook.workingDirectory h) = .ok path ∧
    Host.outlook.present path h = true
  attached : ∃ handle, ((attach config pid).run h).outcome = .ok handle ∧
    Answers handle.socket ((attach config pid).run h).state data

theorem Served.outcome {config : Config} {pid : Pid} {library : AgentLibrary} {h : Host} {data : Bytes}
    (served : Served config pid library h data) :
    ∃ said, ((Load.run (attacher config) Host.outlook pid library).run h).outcome =
      .ofExcept (Load.worth said) ∧ Meant data said := by
  obtain ⟨⟨path, resolved, present⟩, handle, attached, answers⟩ := served
  obtain ⟨said, t, log, loaded, meant⟩ := Attachment.run_load (yields_attach config pid h handle attached)
    (Host.isAbsolute_resolve resolved) (Host.free_of_present present) answers
  obtain ⟨entries, held⟩ := Attachment.run_holding pid loaded
  have came := Load.run_present (a := attacher config) resolved present attached
  refine ⟨said, ?_, meant⟩
  rw [came]
  simp only [attacher, held]

/-- A listener's answer alone decides how a load ends, and how the command exits that asked for it. -/
theorem load_of_answer {config : Config} {pid : Pid} {library : AgentLibrary} {h : Host} {data : Bytes}
    (served : Served config pid library h data) :
    let outcome := ((Load.run (attacher config) Host.outlook pid library).run h).outcome
    (outcome = .ok .loaded ↔ Returns data 0) ∧
    (outcome = .ok .initializationSignalled ↔ ∃ code, code ≠ 0 ∧ Returns data code) ∧
    ((∀ code, ¬ Returns data code) → ∃ fault, outcome = .error fault) ∧
    ∀ (kit : Command.Kit) arguments environment start,
      Command.Starts kit arguments environment start config pid library h →
        ((∃ code, Returns data code) → (kit.run arguments environment start).1.exit = 0) ∧
        ((∀ code, ¬ Returns data code) → (kit.run arguments environment start).1.exit = 1) := by
  intro outcome
  obtain ⟨said, ended, meant⟩ := served.outcome
  have ended : outcome = .ofExcept (Load.worth said) := ended
  have exits {kit : Command.Kit} {arguments : List Bytes} {environment : Environment} {start : Host}
      (starts : Command.Starts kit arguments environment start config pid library h) :
      (kit.run arguments environment start).1.exit = Command.exitOf outcome :=
    Command.exit_of_starts starts
  rw [ended] at exits ⊢
  cases meant with
  | fails other serious =>
    simp only [Load.worth, serious, Bool.false_eq_true, ↓reduceIte, Outcome.ofExcept] at exits ⊢
    refine ⟨?_, ?_, fun _ => ⟨_, rfl⟩, ?_⟩
    · simp [other]
    · simp [other]
    · intro kit arguments environment start starts
      exact ⟨fun some => absurd some (not_exists.2 other), fun _ => exits starts⟩
  | @returns code returns =>
    have only {other : Int} : Returns data other ↔ other = code :=
      ⟨fun more => more.unique returns, fun same => same ▸ returns⟩
    rw [Load.worth_returned] at exits ⊢
    refine ⟨?_, ?_, fun none => absurd returns (none code), ?_⟩
    · by_cases zero : code = 0
      · simp [only, Outcome.ofExcept, LoadResult.ofCode, zero]
      · simp [only, Outcome.ofExcept, LoadResult.ofCode, zero, eq_comm]
    · by_cases zero : code = 0
      · simp [only, Outcome.ofExcept, LoadResult.ofCode, zero]
      · simp [only, Outcome.ofExcept, LoadResult.ofCode, zero]
    · intro kit arguments environment start starts
      exact ⟨fun _ => exits starts, fun none => absurd returns (none code)⟩

/-- A machine on which process 7 listens, with the library in the root directory. -/
def listening : Host.Machine where
  nodes :=
    [⟨.directory [(Text.bytesOf "tmp", 1), (Text.bytesOf AgentLibrary.perfmapName, 3),
        (Text.bytesOf "proc", 4)] 0 true, 0, 0o755⟩,
     ⟨.directory [(Text.bytesOf ".java_pid7", 2)] 0 true, 0, 0o777⟩,
     ⟨.socket true, 0, 0o600⟩,
     ⟨.file [], 0, 0o644⟩,
     ⟨.processes, 0, 0o555⟩]
  process? number := if number = 7 then some ⟨0, 0, 0, .ok (Text.bytesOf "SigCgt:\t4\n"), 4⟩ else none

/-- The same machine around us, with `data` for the next connection. -/
def answering (data : Bytes) : Host :=
  { Host.alone listening 1 0 "" with peers := [⟨.ok (), [.bytes data]⟩] }

/-- A reply that reports the failure of the entry point that counts as success. -/
def signalling : Bytes := Text.bytesOf "0" ++ newline :: (Text.bytesOf "return code: 3" ++ newline :: [])

theorem served_signalling :
    Served Config.standard ⟨7⟩ .perfmap (answering signalling) signalling where
  found := ⟨⟨Text.bytesOf "/liblo2s-perfmap.so"⟩, by rfl, by rfl⟩
  attached := by
    refine ⟨⟨⟨7⟩, ⟨Text.bytesOf "/proc/7/root/tmp/.java_pid7"⟩, Config.defaultTimeout, true⟩,
      by decide +kernel, ?_⟩
    constructor
    · rfl
    · exact ⟨_, rfl, rfl, fun fault => by simp, rfl⟩

theorem returns_signalling : Returns signalling 3 := by
  refine ⟨_, _, _, _, .ended _ (by decide +kernel), ?_, .ended _ (by decide +kernel), ?_⟩
  · exact (Text.integer32_eq_ok_iff _ _).1 (by rfl)
  · exact (Text.integer32_eq_ok_iff _ _).1 (by rfl)

theorem load_signalling :
    Served Config.standard ⟨7⟩ .perfmap (answering signalling) signalling ∧
      ((Load.run (attacher Config.standard) Host.outlook ⟨7⟩ .perfmap).run (answering signalling)).outcome =
        .ok .initializationSignalled ∧
      (Command.run [Text.bytesOf "7"] [] (answering signalling)).1.exit = 0 := by
  obtain ⟨_, signalled, _, exits⟩ := load_of_answer served_signalling
  have asked : Command.standard.parse [Text.bytesOf "7"] = .run ⟨"7", none, 10000, none⟩ := by decide +kernel
  have prepared : (Command.standard.backend.setUp none []).run (answering signalling) =
      ⟨.ok ⟨.pretty, (Filter.upTo .info).admits⟩, answering signalling, []⟩ := rfl
  have numbered : Pid.parse "7" = .ok ⟨7⟩ := rfl
  have starts := Command.Starts.intro asked prepared numbered
  exact ⟨served_signalling, signalled.2 ⟨3, by decide, returns_signalling⟩,
    (exits _ _ _ _ starts).1 ⟨3, returns_signalling⟩⟩

end Attach

end JvmAttach
