import JvmAttach.Attach.Attachment
import JvmAttach.Proofs.Act

/-! One load over an attachment. It is refused before anything is connected to, or it is one
connection that carries one frame and brings one reply. -/
namespace JvmAttach.Attach.Attachment

open Act Wire

variable {a : Attachment} {h : Host} {path : Path} {options : String}

/-- No field of the request would hold a NUL. -/
def Free (path : Path) (options : String) : Prop :=
  (0 : UInt8) ∉ path.bytes ∧ (0 : UInt8) ∉ Text.bytesOf options

instance (path : Path) (options : String) : Decidable (Free path options) :=
  inferInstanceAs (Decidable (_ ∧ _))

def frame (path : Path) (options : String) : Bytes :=
  Text.bytesOf "1\x00load\x00" ++ path.bytes ++ Text.bytesOf "\x00true\x00" ++ Text.bytesOf options ++ [0]

theorem flatMap_fields (path : Path) (options : String) :
    (fields loadCommand (loadArguments path options)).flatMap terminated = frame path options := by
  have front : Text.bytesOf "1\x00load\x00" =
      Text.bytesOf version ++ nul :: (Text.bytesOf loadCommand ++ [nul]) := by decide +kernel
  have middle : Text.bytesOf "\x00true\x00" = nul :: (Text.bytesOf "true" ++ [nul]) := by decide +kernel
  simp [fields, loadArguments, argumentCount, terminated, frame, front, middle, nul]

theorem contains_nul (field : Bytes) : field.contains nul = true ↔ (0 : UInt8) ∈ field := List.contains_iff_mem

/-- The field that a request is refused for. -/
def held (path : Path) (options : String) : Bytes :=
  if (0 : UInt8) ∈ path.bytes then path.bytes else Text.bytesOf options

theorem encode_load (path : Path) (options : String) :
    encode loadCommand (loadArguments path options) =
      if Free path options then .ok (frame path options) else .error (nulInField (held path options)) := by
  have three : ¬ argumentCount < (loadArguments path options).length := Nat.lt_irrefl 3
  have texts : (Text.bytesOf version).contains nul = false ∧ (Text.bytesOf loadCommand).contains nul = false ∧
      (Text.bytesOf "true").contains nul = false := by decide +kernel
  obtain ⟨one, other, yes⟩ := texts
  have all : fields loadCommand (loadArguments path options) = [Text.bytesOf version, Text.bytesOf loadCommand,
      path.bytes, Text.bytesOf "true", Text.bytesOf options] := rfl
  rw [encode, if_neg three, flatMap_fields, all]
  by_cases inPath : (0 : UInt8) ∈ path.bytes
  · have found := (contains_nul _).2 inPath
    simp only [List.find?, one, other, found, Free, held, inPath, not_true_eq_false, false_and, ↓reduceIte]
  · have clear := Bool.eq_false_iff.2 (mt (contains_nul _).1 inPath)
    by_cases inOptions : (0 : UInt8) ∈ Text.bytesOf options
    · have found := (contains_nul _).2 inOptions
      simp only [List.find?, one, other, yes, clear, found, Free, held, inPath, inOptions, not_true_eq_false,
        and_false, ↓reduceIte]
    · have clear' := Bool.eq_false_iff.2 (mt (contains_nul _).1 inOptions)
      simp only [List.find?, one, other, yes, clear, clear', Free, inPath, inOptions, not_false_eq_true,
        and_self, ↓reduceIte]

theorem run_load_of (a : Attachment) {h t : Host} {outcome : Outcome AttachFault Unit} {log : List Log.Entry}
    (ran : (a.loadAgent path options).run h = ⟨outcome, t, log⟩) :
    (load path options).run (a, h) = ⟨outcome, (a, t), log⟩ := by
  simp only [load, depending, beside, within, ran]

theorem run_load_relative (a : Attachment) (h : Host) (options : String) (relative : path.isAbsolute = false) :
    (load path options).run (a, h) = ⟨.error (notAbsolute path), (a, h), []⟩ := by
  refine run_load_of a ?_
  simp only [loadAgent, relative, Bool.not_false, ↓reduceIte, run_fail]

theorem run_load_detached (h : Host) (options : String) (absolute : path.isAbsolute = true)
    (detached : a.attached = false) :
    (load path options).run (a, h) = ⟨.error .notAttached, (a, h), [loading a.pid path]⟩ := by
  refine run_load_of a ?_
  have refused : (a.execute loadCommand (loadArguments path options)).run h = ⟨.error .notAttached, h, []⟩ := by
    simp only [execute, detached, Bool.not_false, ↓reduceIte, run_fail]
  simp only [loadAgent, absolute, Bool.not_true, Bool.false_eq_true, ↓reduceIte, run_tell_bind,
    run_bind_error refused]

theorem run_load_held (h : Host) (absolute : path.isAbsolute = true) (attached : a.attached = true)
    (nul : ¬ Free path options) :
    (load path options).run (a, h) = ⟨.error (nulInField (held path options)), (a, h), [loading a.pid path]⟩ := by
  refine run_load_of a ?_
  have refused : (a.execute loadCommand (loadArguments path options)).run h =
      ⟨.error (nulInField (held path options)), h, []⟩ := by
    simp only [execute, attached, Bool.not_true, Bool.false_eq_true, ↓reduceIte, encode_load, if_neg nul,
      run_ofExcept_error_bind]
  simp only [loadAgent, absolute, Bool.not_true, Bool.false_eq_true, ↓reduceIte, run_tell_bind,
    run_bind_error refused]

/-- The host behind a connection over which a request was sent. -/
def exchanged (socket : Path) (h : Host) (request : Bytes) : Host :=
  Host.record (.sent request) (Host.record (.connected socket) { h with peers := h.peers.tail })

def nextPeer (h : Host) : Host.Peer := h.peers.head?.getD Host.silent

/-- The host behind a connection over which nothing was sent. -/
def joined (socket : Path) (h : Host) : Host := Host.record (.connected socket) { h with peers := h.peers.tail }

theorem run_connect (a : Attachment) (reachable : Host.reachable a.socket h = .ok ()) :
    ((Host.connect a.socket).mapError a.connectFault).run h = ⟨.ok (nextPeer h), joined a.socket h, []⟩ := by
  simp only [mapError, Host.connect, run_look_bind, reachable, run_ofExcept_ok_bind, run_change_bind,
    run_pure, joined, nextPeer]

theorem run_execute (attached : a.attached = true) (free : Free path options)
    (reachable : Host.reachable a.socket h = .ok ()) (receives : (nextPeer h).receives = .ok ()) :
    (a.execute loadCommand (loadArguments path options)).run h =
      ⟨.ok (nextPeer h).answers, exchanged a.socket h (frame path options), [sending a.pid loadCommand]⟩ := by
  have sent : ((Host.send (nextPeer h) (frame path options)).mapError AttachFault.io).run (joined a.socket h) =
      ⟨.ok (), Host.record (.sent (frame path options)) (joined a.socket h), []⟩ := by
    simp only [mapError, Host.send, receives, run_ofExcept_ok_bind, run_change]
  simp only [execute, attached, Bool.not_true, Bool.false_eq_true, ↓reduceIte, encode_load, if_pos free,
    run_ofExcept_ok_bind]
  rw [run_bind_ok (run_connect a reachable), run_tell_bind, run_bind_ok sent]
  rfl

theorem run_load_sent (absolute : path.isAbsolute = true) (attached : a.attached = true)
    (free : Free path options) (reachable : Host.reachable a.socket h = .ok ())
    (receives : (nextPeer h).receives = .ok ()) :
    ∃ log, (load path options).run (a, h) = ⟨(Wire.Reply.readLoad.run (nextPeer h).answers).outcome,
      (a, exchanged a.socket h (frame path options)), log⟩ := by
  refine ⟨loading a.pid path :: ([sending a.pid loadCommand] ++ (Wire.Reply.readLoad.run (nextPeer h).answers).log),
    run_load_of a ?_⟩
  simp only [loadAgent, absolute, Bool.not_true, Bool.false_eq_true, ↓reduceIte, run_tell_bind,
    run_bind_ok (run_execute attached free reachable receives), answered, within]

theorem run_detach (a : Attachment) (h : Host) :
    ∃ log, detach.run (a, h) = ⟨.ok (), ({ a with attached := false }, h), log⟩ := by
  cases attached : a.attached with
  | true =>
    refine ⟨[detachedFrom a.pid], ?_⟩
    simp only [detach, run_look_bind, attached, ↓reduceIte, run_change_bind, run_tell]
  | false =>
    have same : { a with attached := false } = a := by rw [← attached]
    refine ⟨[], ?_⟩
    simp only [detach, run_look_bind, attached, Bool.false_eq_true, ↓reduceIte, same, run_pure]

end JvmAttach.Attach.Attachment
