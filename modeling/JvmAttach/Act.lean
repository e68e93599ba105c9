import JvmAttach.Logging.Entry

/-! Actions: what a part of the program does to the state it works on. An action ends with a
value, with an error that its caller can handle, or in a crash, which unwinds every caller
between it and the top. A crash met while another one unwinds ends the process at once. Log
entries are collected in the order in which they were written, whatever the end. -/
namespace JvmAttach

inductive Outcome (ε α : Type) where
  | ok (value : α)
  | error (fault : ε)
  | crashed (message : String)
  | aborted
  deriving DecidableEq, Repr

structure Step (ε σ α : Type) where
  outcome : Outcome ε α
  state : σ
  log : List Log.Entry

structure Act (ε σ α : Type) where
  run : σ → Step ε σ α

namespace Act

variable {ε δ σ τ α β : Type}

def pure (a : α) : Act ε σ α := ⟨fun s => ⟨.ok a, s, []⟩⟩

/-- Go on with the value of a first action; any other end of it is the end of both. -/
def bind (act : Act ε σ α) (next : α → Act ε σ β) : Act ε σ β := ⟨fun s =>
  let first := act.run s
  match first.outcome with
  | .ok a =>
    let second := (next a).run first.state
    ⟨second.outcome, second.state, first.log ++ second.log⟩
  | .error e => ⟨.error e, first.state, first.log⟩
  | .crashed m => ⟨.crashed m, first.state, first.log⟩
  | .aborted => ⟨.aborted, first.state, first.log⟩⟩

instance : Monad (Act ε σ) where
  pure := pure
  bind := bind

def fail (e : ε) : Act ε σ α := ⟨fun s => ⟨.error e, s, []⟩⟩

def crash (message : String) : Act ε σ α := ⟨fun s => ⟨.crashed message, s, []⟩⟩

def ofExcept : Except ε α → Act ε σ α
  | .ok a => pure a
  | .error e => fail e

def look (f : σ → α) : Act ε σ α := ⟨fun s => ⟨.ok (f s), s, []⟩⟩

def change (f : σ → σ) : Act ε σ Unit := ⟨fun s => ⟨.ok (), f s, []⟩⟩

def tryChange (f : σ → Except ε σ) : Act ε σ Unit := ⟨fun s =>
  match f s with
  | .ok t => ⟨.ok (), t, []⟩
  | .error e => ⟨.error e, s, []⟩⟩

def tell (entry : Log.Entry) : Act ε σ Unit := ⟨fun s => ⟨.ok (), s, [entry]⟩⟩

def mapError (f : ε → δ) (act : Act ε σ α) : Act δ σ α := ⟨fun s =>
  let step := act.run s
  match step.outcome with
  | .ok a => ⟨.ok a, step.state, step.log⟩
  | .error e => ⟨.error (f e), step.state, step.log⟩
  | .crashed m => ⟨.crashed m, step.state, step.log⟩
  | .aborted => ⟨.aborted, step.state, step.log⟩⟩

/-- Turn an error into a value, so that the caller goes on with it. -/
def attempt (act : Act ε σ α) : Act δ σ (Except ε α) := ⟨fun s =>
  let step := act.run s
  match step.outcome with
  | .ok a => ⟨.ok (.ok a), step.state, step.log⟩
  | .error e => ⟨.ok (.error e), step.state, step.log⟩
  | .crashed m => ⟨.crashed m, step.state, step.log⟩
  | .aborted => ⟨.aborted, step.state, step.log⟩⟩

/-- The end of an action that a cleanup has followed: its own end, unless the cleanup went wrong
behind a better one. A crash of the cleanup behind a crash aborts. -/
def settled : Outcome ε α → Outcome ε Unit → Outcome ε α
  | first, .ok () => first
  | .ok _, .error e => .error e
  | first, .error _ => first
  | .ok _, .crashed m => .crashed m
  | .error _, .crashed m => .crashed m
  | _, _ => .aborted

/-- Follow an action by a cleanup, however it ends. Nothing runs in an aborted process. -/
def ending (act : Act ε σ α) (cleanup : Act ε σ Unit) : Act ε σ α := ⟨fun s =>
  let first := act.run s
  match first.outcome with
  | .aborted => first
  | outcome =>
    let last := cleanup.run first.state
    ⟨settled outcome last.outcome, last.state, first.log ++ last.log⟩⟩

def within (get : τ → σ) (set : σ → τ → τ) (act : Act ε σ α) : Act ε τ α := ⟨fun t =>
  let step := act.run (get t)
  ⟨step.outcome, set step.state t, step.log⟩⟩

/-- Let an action work behind a first component that it does not see. -/
def beside (act : Act ε σ α) : Act ε (τ × σ) α := within Prod.snd (fun s t => (t.1, s)) act

/-- An action that depends on the state it starts in. -/
def depending (f : σ → Act ε σ α) : Act ε σ α := ⟨fun s => (f s).run s⟩

end Act

end JvmAttach
