import JvmAttach.Proofs.Answered

/-! Loads and detaches over one attachment, as many as there are and in any order. Each load is one
exchange with the listener or none, and of what was done before only a detach counts for it. -/
namespace JvmAttach.Attach

open Act Attachment

inductive Operation where
  | load (path : Path) (options : String)
  | detach
  deriving DecidableEq, Repr

namespace Operation

variable {a : Attachment} {h : Host} {socket : Path} {operations : List Operation}

def act : Operation → Act AttachFault (Attachment × Host) Unit
  | load path options => machine.load path options
  | detach => machine.detach

/-- The handle and the host when some operations were done, whatever they came to. -/
def after (operations : List Operation) (s : Attachment × Host) : Attachment × Host :=
  operations.foldl (fun s operation => (operation.act.run s).state) s

/-- What an operation sends to the listener over a handle that is attached. -/
def frame? : Operation → Option Bytes
  | load path options => if path.isAbsolute = true ∧ Free path options then some (frame path options) else none
  | detach => none

/-- What goes over the wire: nothing that is asked for behind the first detach. -/
def frames (operations : List Operation) : List Bytes :=
  (operations.takeWhile (· ≠ detach)).filterMap frame?

theorem frames_detach (operations : List Operation) : frames (detach :: operations) = [] := by
  simp [frames]

theorem frames_load (path : Path) (options : String) (operations : List Operation) :
    frames (load path options :: operations) = (load path options).frame?.toList ++ frames operations := by
  rw [frames, List.takeWhile_cons_of_pos (by simp), List.filterMap_cons]
  cases (load path options).frame? <;> rfl

/-- A listener is there, and whoever answers takes what is sent. -/
structure Ready (socket : Path) (h : Host) : Prop where
  reachable : Host.reachable socket h = .ok ()
  receive : ∀ peer ∈ h.peers, peer.receives = .ok ()

theorem Ready.receives (ready : Ready socket h) : (nextPeer h).receives = .ok () := by
  unfold nextPeer
  cases first : h.peers.head? with
  | none => rfl
  | some peer => exact ready.receive peer (List.mem_of_head? first)

theorem Ready.exchanged (ready : Ready socket h) (request : Bytes) : Ready socket (exchanged socket h request) where
  reachable := ready.reachable
  receive peer mem := ready.receive peer (List.mem_of_mem_tail mem)

theorem Ready.exchanges (ready : Ready socket h) (requests : List Bytes) :
    Ready socket (requests.foldl (Attachment.exchanged socket) h) := by
  induction requests generalizing h with
  | nil => exact ready
  | cons request rest ih => exact ih (ready.exchanged request)

theorem after_detached (detached : a.attached = false) (h : Host) (operations : List Operation) :
    after operations (a, h) = (a, h) := by
  induction operations with
  | nil => rfl
  | cons operation rest ih =>
    have still : (operation.act.run (a, h)).state = (a, h) := by
      cases operation with
      | detach =>
        obtain ⟨log, ran⟩ := run_detach a h
        have same : { a with attached := false } = a := by rw [← detached]
        exact (congrArg Step.state ran).trans (congrArg (·, h) same)
      | load path options =>
        cases absolute : path.isAbsolute with
        | false => exact congrArg Step.state (run_load_relative a h options absolute)
        | true => exact congrArg Step.state (run_load_detached h options absolute detached)
    rw [after, List.foldl_cons, still]
    exact ih

theorem state_load (attached : a.attached = true) (ready : Ready a.socket h) (path : Path) (options : String) :
    ((load path options).act.run (a, h)).state =
      (a, (load path options).frame?.toList.foldl (exchanged a.socket) h) := by
  by_cases sent : path.isAbsolute = true ∧ Free path options
  · obtain ⟨log, ran⟩ := run_load_sent sent.1 attached sent.2 ready.reachable ready.receives
    rw [frame?, if_pos sent]
    exact congrArg Step.state ran
  · rw [frame?, if_neg sent]
    cases absolute : path.isAbsolute with
    | false => exact congrArg Step.state (run_load_relative a h options absolute)
    | true => exact congrArg Step.state (run_load_held h absolute attached fun free => sent ⟨absolute, free⟩)

/-- Some operations leave behind a handle that knows of a detach, and the exchanges that were made. -/
theorem after_attached (attached : a.attached = true) (ready : Ready a.socket h) (operations : List Operation) :
    after operations (a, h) = ({ a with attached := decide (detach ∉ operations) },
      (frames operations).foldl (exchanged a.socket) h) := by
  induction operations generalizing h with
  | nil =>
    have same : { a with attached := true } = a := by rw [← attached]
    exact congrArg (·, h) same.symm
  | cons operation rest ih =>
    rw [after, List.foldl_cons]
    cases operation with
    | detach =>
      obtain ⟨log, ran⟩ := run_detach a h
      have first : (detach.act.run (a, h)).state = ({ a with attached := false }, h) := congrArg Step.state ran
      -- whatever comes behind a detach is done over a handle that is no longer attached
      rw [first, frames_detach]
      refine (after_detached rfl h rest).trans ?_
      simp
    | load path options =>
      rw [state_load attached ready path options, frames_load, List.foldl_append]
      refine (ih (ready.exchanges (load path options).frame?.toList)).trans ?_
      simp

theorem journal_exchanges (socket : Path) (requests : List Bytes) (h : Host) :
    (requests.foldl (exchanged socket) h).journal =
      h.journal ++ requests.flatMap fun request => [.connected socket, .sent request] := by
  induction requests generalizing h with
  | nil => exact (List.append_nil _).symm
  | cons request rest ih =>
    rw [List.foldl_cons, ih, List.flatMap_cons, ← List.append_assoc]
    simp [exchanged, Host.record]

theorem peers_exchanges (socket : Path) (requests : List Bytes) (h : Host) :
    (requests.foldl (exchanged socket) h).peers = h.peers.drop requests.length := by
  induction requests generalizing h with
  | nil => rfl
  | cons request rest ih =>
    rw [List.foldl_cons, ih]
    simp [exchanged, Host.record]

theorem load_cases (ready : Ready a.socket h) (path : Path) (options : String) :
    let step := (machine.load path options).run (a, h)
    step.state.1 = a ∧
    (path.isAbsolute = false → step.state = (a, h) ∧ step.outcome = .error (notAbsolute path)) ∧
    (path.isAbsolute = true → a.attached = false → step.state = (a, h) ∧ step.outcome = .error .notAttached) ∧
    (path.isAbsolute = true → a.attached = true → ¬ Free path options →
      step.state = (a, h) ∧ step.outcome = .error (Wire.nulInField (held path options))) ∧
    (path.isAbsolute = true → a.attached = true → Free path options →
      step.outcome = (Wire.Reply.readLoad.run (nextPeer h).answers).outcome) := by
  intro step
  cases absolute : path.isAbsolute with
  | false =>
    have ran : step = ⟨.error (notAbsolute path), (a, h), []⟩ := run_load_relative a h options absolute
    rw [ran]
    exact ⟨rfl, fun _ => ⟨rfl, rfl⟩, nofun, nofun, nofun⟩
  | true =>
    cases attached : a.attached with
    | false =>
      have ran : step = ⟨.error .notAttached, (a, h), _⟩ := run_load_detached h options absolute attached
      rw [ran]
      exact ⟨rfl, nofun, fun _ _ => ⟨rfl, rfl⟩, nofun, nofun⟩
    | true =>
      by_cases free : Free path options
      · obtain ⟨log, ran⟩ := run_load_sent absolute attached free ready.reachable ready.receives
        have ran : step = ⟨_, (a, exchanged a.socket h (frame path options)), log⟩ := ran
        rw [ran]
        exact ⟨rfl, nofun, nofun, fun _ _ nul => absurd free nul, fun _ _ _ => rfl⟩
      · have ran : step = ⟨.error (Wire.nulInField (held path options)), (a, h), _⟩ :=
          run_load_held h absolute attached free
        rw [ran]
        exact ⟨rfl, nofun, nofun, fun _ _ _ => ⟨rfl, rfl⟩, fun _ _ now => absurd now free⟩

end Operation

open Operation

/-- Over a handle that attaching gave, the listener sees one connection for each load that may be
sent, with its frame and nothing else. What a load comes to depends on no other load. -/
theorem trace_of_operations (config : Config) (pid : Pid) (h : Host) {a : Attachment}
    (attached : ((attach config pid).run h).outcome = .ok a)
    (reachable : Host.reachable a.socket ((attach config pid).run h).state = .ok ())
    (receive : ∀ peer ∈ ((attach config pid).run h).state.peers, peer.receives = .ok ())
    (operations : List Operation) :
    let t := ((attach config pid).run h).state
    let s := after operations (a, t)
    s.2.journal = t.journal ++ (frames operations).flatMap (fun request => [.connected a.socket, .sent request]) ∧
    (machine.isAttached.run s).outcome = .ok (decide (.detach ∉ operations)) ∧
    (machine.detach.run s).outcome = .ok () ∧ (machine.detach.run s).state.2 = s.2 ∧
    ∀ path options, let step := (machine.load path options).run s
      step.state.1 = s.1 ∧
      (path.isAbsolute = false → step.state = s ∧
        step.outcome = .error (.invalidArgument s!"agent path must be absolute: {path.shown}")) ∧
      (path.isAbsolute = true → .detach ∈ operations → step.state = s ∧ step.outcome = .error .notAttached) ∧
      (path.isAbsolute = true → .detach ∉ operations → ¬ Free path options → step.state = s ∧ step.outcome =
        .error (.invalidArgument s!"attach request field contains a NUL byte: {Text.shown (held path options)}")) ∧
      (path.isAbsolute = true → .detach ∉ operations → Free path options → step.outcome =
        (Wire.Reply.readLoad.run (t.peers[(frames operations).length]?.getD Host.silent).answers).outcome) := by
  intro t s
  have connected : a.attached = true := yields_attach config pid h a attached
  have ready : Ready a.socket t := ⟨reachable, receive⟩
  obtain ⟨u, exchanges⟩ : ∃ u, u = (frames operations).foldl (exchanged a.socket) t := ⟨_, rfl⟩
  obtain ⟨b, handle⟩ : ∃ b, b = { a with attached := decide (Operation.detach ∉ operations) } := ⟨_, rfl⟩
  have came : s = (b, u) := by rw [handle, exchanges]; exact after_attached connected ready operations
  have now : Ready b.socket u := by rw [handle, exchanges]; exact ready.exchanges (frames operations)
  have next : nextPeer u = t.peers[(frames operations).length]?.getD Host.silent := by
    rw [exchanges, nextPeer, peers_exchanges, List.head?_drop]
  obtain ⟨log, detached⟩ := run_detach b u
  rw [came]
  refine ⟨?_, ?_, congrArg Step.outcome detached, congrArg (·.state.2) detached, fun path options => ?_⟩
  · rw [exchanges, journal_exchanges]
  · rw [handle]; rfl
  obtain ⟨kept, relative, late, nul, sent⟩ := load_cases now path options
  have off (gone : .detach ∈ operations) : b.attached = false := by
    rw [handle]; exact decide_eq_false (not_not_intro gone)
  have on (still : .detach ∉ operations) : b.attached = true := by
    rw [handle]; exact decide_eq_true still
  refine ⟨kept, relative, fun absolute gone => late absolute (off gone),
    fun absolute still held => nul absolute (on still) held, fun absolute still free => ?_⟩
  rw [← next]
  exact sent absolute (on still) free

def gained : Attachment :=
  ⟨⟨7⟩, ⟨Text.bytesOf "/proc/7/root/tmp/.java_pid7"⟩, Config.defaultTimeout, true⟩

/-- Of four operations only the first is for the listener: one path is not absolute, and behind the
detach comes a load that is too late. -/
theorem trace_of_operations_answering :
    let t := ((attach Config.standard ⟨7⟩).run (answering signalling)).state
    let s := after [.load ⟨Text.bytesOf "/a"⟩ "b", .load ⟨Text.bytesOf "a"⟩ "b", .detach,
      .load ⟨Text.bytesOf "/a"⟩ "b"] (gained, t)
    s.2.journal = t.journal ++
      [.connected gained.socket, .sent (Text.bytesOf "1\x00load\x00/a\x00true\x00b\x00")] ∧
    (machine.isAttached.run s).outcome = .ok false := by
  intro t s
  have attached : ((attach Config.standard ⟨7⟩).run (answering signalling)).outcome = .ok gained := by
    decide +kernel
  have reachable : Host.reachable gained.socket t = .ok () := by rfl
  have receive : ∀ peer ∈ t.peers, peer.receives = .ok () := by
    have whole : t.peers = [⟨.ok (), [.bytes signalling]⟩] := by rfl
    intro peer mem
    rw [whole, List.mem_singleton] at mem
    rw [mem]
  obtain ⟨journal, shown, _⟩ := trace_of_operations Config.standard ⟨7⟩ (answering signalling) attached
    reachable receive [.load ⟨Text.bytesOf "/a"⟩ "b", .load ⟨Text.bytesOf "a"⟩ "b", .detach,
      .load ⟨Text.bytesOf "/a"⟩ "b"]
  exact ⟨journal, shown⟩

end JvmAttach.Attach
