import JvmAttach.Act

/-! How actions run, one equation for each way to build them, how they fail, when an action on a fine state
does what another does on a coarse one, and which states an action does not tell apart. -/
namespace JvmAttach

/-- A step, of whose state only a view is kept. -/
def Step.seen {ε σ τ α : Type} (view : τ → σ) (step : Step ε τ α) : Step ε σ α :=
  ⟨step.outcome, view step.state, step.log⟩

/-- The end of an action that came to a result. -/
def Outcome.ofExcept {ε α : Type} : Except ε α → Outcome ε α
  | .ok a => .ok a
  | .error e => .error e

theorem Outcome.returned_or_stopped {ε α : Type} (outcome : Outcome ε α) :
    (∃ result, outcome = .ofExcept result) ∨ (∃ message, outcome = .crashed message) ∨
      outcome = .aborted := by
  cases outcome with
  | ok a => exact .inl ⟨.ok a, rfl⟩
  | error e => exact .inl ⟨.error e, rfl⟩
  | crashed message => exact .inr (.inl ⟨message, rfl⟩)
  | aborted => exact .inr (.inr rfl)

theorem Outcome.ofExcept_ne_aborted {ε α : Type} (result : Except ε α) : ofExcept result ≠ .aborted := by
  cases result <;> exact nofun

/-- What ends without a value ends with an error of a kind, or in a crash if it may crash at all. -/
def Outcome.Errs {ε α : Type} (P : ε → Prop) (crashes : Prop) : Outcome ε α → Prop
  | .ok _ => True
  | .error e => P e
  | .crashed _ => crashes
  | .aborted => crashes

theorem Outcome.Errs.mono {ε α : Type} {P Q : ε → Prop} {crashes : Prop} {outcome : Outcome ε α}
    (weaker : ∀ e, P e → Q e) (errs : outcome.Errs P crashes) : outcome.Errs Q crashes := by
  cases outcome with
  | error e => exact weaker e errs
  | _ => exact errs

theorem Outcome.Errs.returned {ε α : Type} {P : ε → Prop} {outcome : Outcome ε α} (errs : outcome.Errs P False) :
    ∃ result, outcome = .ofExcept result ∧ ∀ e, result = .error e → P e := by
  cases outcome with
  | ok a => exact ⟨.ok a, rfl, nofun⟩
  | error e => exact ⟨.error e, rfl, fun _ same => Except.error.inj same ▸ errs⟩
  | crashed message => exact errs.elim
  | aborted => exact errs.elim

namespace Act

variable {ε δ σ τ α β : Type}

@[simp] theorem run_pure (a : α) (s : σ) : (Pure.pure a : Act ε σ α).run s = ⟨.ok a, s, []⟩ := rfl

@[simp] theorem run_fail (e : ε) (s : σ) : (fail e : Act ε σ α).run s = ⟨.error e, s, []⟩ := rfl

@[simp] theorem run_crash (message : String) (s : σ) :
    (crash message : Act ε σ α).run s = ⟨.crashed message, s, []⟩ := rfl

@[simp] theorem run_change (f : σ → σ) (s : σ) : (change f : Act ε σ Unit).run s = ⟨.ok (), f s, []⟩ := rfl

@[simp] theorem run_tell (entry : Log.Entry) (s : σ) :
    (tell entry : Act ε σ Unit).run s = ⟨.ok (), s, [entry]⟩ := rfl

@[simp] theorem run_ofExcept (r : Except ε α) (s : σ) :
    (ofExcept r : Act ε σ α).run s = ⟨.ofExcept r, s, []⟩ := by
  cases r <;> rfl

@[simp] theorem run_look_bind (f : σ → α) (next : α → Act ε σ β) (s : σ) :
    (look f >>= next).run s = (next (f s)).run s := rfl

@[simp] theorem run_change_bind (f : σ → σ) (next : Unit → Act ε σ β) (s : σ) :
    (change f >>= next).run s = (next ()).run (f s) := rfl

@[simp] theorem run_tell_bind (entry : Log.Entry) (next : Unit → Act ε σ β) (s : σ) :
    (tell entry >>= next).run s =
      ⟨((next ()).run s).outcome, ((next ()).run s).state, entry :: ((next ()).run s).log⟩ := rfl

@[simp] theorem run_ofExcept_ok_bind (a : α) (next : α → Act ε σ β) (s : σ) :
    (ofExcept (.ok a) >>= next).run s = (next a).run s := rfl

@[simp] theorem run_ofExcept_error_bind (e : ε) (next : α → Act ε σ β) (s : σ) :
    (ofExcept (.error e) >>= next).run s = ⟨.error e, s, []⟩ := rfl

theorem run_bind_ok {act : Act ε σ α} {s t : σ} {a : α} {log : List Log.Entry}
    (first : act.run s = ⟨.ok a, t, log⟩) (next : α → Act ε σ β) :
    (act >>= next).run s =
      ⟨((next a).run t).outcome, ((next a).run t).state, log ++ ((next a).run t).log⟩ := by
  simp only [Bind.bind, bind, first]

theorem run_bind_error {act : Act ε σ α} {s t : σ} {e : ε} {log : List Log.Entry}
    (first : act.run s = ⟨.error e, t, log⟩) (next : α → Act ε σ β) :
    (act >>= next).run s = ⟨.error e, t, log⟩ := by
  simp only [Bind.bind, bind, first]

theorem state_bind_pure (act : Act ε σ α) (f : α → β) (s : σ) :
    ((act >>= fun a => Pure.pure (f a)).run s).state = (act.run s).state := by
  simp only [Bind.bind, bind]
  cases (act.run s).outcome <;> rfl

theorem run_bind_crashed {act : Act ε σ α} {s t : σ} {message : String} {log : List Log.Entry}
    (first : act.run s = ⟨.crashed message, t, log⟩) (next : α → Act ε σ β) :
    (act >>= next).run s = ⟨.crashed message, t, log⟩ := by
  simp only [Bind.bind, bind, first]

theorem run_bind_aborted {act : Act ε σ α} {s t : σ} {log : List Log.Entry}
    (first : act.run s = ⟨.aborted, t, log⟩) (next : α → Act ε σ β) :
    (act >>= next).run s = ⟨.aborted, t, log⟩ := by
  simp only [Bind.bind, bind, first]

theorem exists_of_run_bind {act : Act ε σ α} {next : α → Act ε σ β} {s t : σ} {b : β} {log : List Log.Entry}
    (ran : (act >>= next).run s = ⟨.ok b, t, log⟩) :
    ∃ a u front back, act.run s = ⟨.ok a, u, front⟩ ∧ (next a).run u = ⟨.ok b, t, back⟩ := by
  rcases first : act.run s with ⟨outcome, u, front⟩
  cases outcome with
  | ok a =>
    rw [run_bind_ok first] at ran
    rcases second : (next a).run u with ⟨ended, v, back⟩
    rw [second] at ran
    cases ran
    exact ⟨a, u, front, back, rfl, second⟩
  | error e => rw [run_bind_error first] at ran; cases ran
  | crashed message => rw [run_bind_crashed first] at ran; cases ran
  | aborted => rw [run_bind_aborted first] at ran; cases ran

theorem ends_bind {act act' : Act ε σ α} {s t : σ} {log : List Log.Entry}
    (alike : act.run s = ⟨(act'.run t).outcome, (act'.run t).state, log⟩) (next : α → Act ε σ β) :
    ((act >>= next).run s).outcome = ((act' >>= next).run t).outcome ∧
      ((act >>= next).run s).state = ((act' >>= next).run t).state := by
  simp only [Bind.bind, bind, alike]
  cases (act'.run t).outcome <;> exact ⟨rfl, rfl⟩

theorem run_attempt {act : Act ε σ α} {s t : σ} {r : Except ε α} {log : List Log.Entry}
    (ran : act.run s = ⟨.ofExcept r, t, log⟩) :
    (act.attempt (δ := δ)).run s = ⟨.ok r, t, log⟩ := by
  cases r <;> simp only [attempt, ran, Outcome.ofExcept]

theorem run_attempt_crashed {act : Act ε σ α} {s t : σ} {message : String} {log : List Log.Entry}
    (ran : act.run s = ⟨.crashed message, t, log⟩) :
    (act.attempt (δ := δ)).run s = ⟨.crashed message, t, log⟩ := by
  simp only [attempt, ran]

theorem run_attempt_aborted {act : Act ε σ α} {s t : σ} {log : List Log.Entry}
    (ran : act.run s = ⟨.aborted, t, log⟩) : (act.attempt (δ := δ)).run s = ⟨.aborted, t, log⟩ := by
  simp only [attempt, ran]

theorem run_mapError_ok {act : Act ε σ α} {s t : σ} {a : α} {log : List Log.Entry}
    (ran : act.run s = ⟨.ok a, t, log⟩) (f : ε → δ) : (act.mapError f).run s = ⟨.ok a, t, log⟩ := by
  simp only [mapError, ran]

theorem run_mapError_crashed {act : Act ε σ α} {s t : σ} {message : String} {log : List Log.Entry}
    (ran : act.run s = ⟨.crashed message, t, log⟩) (f : ε → δ) :
    (act.mapError f).run s = ⟨.crashed message, t, log⟩ := by
  simp only [mapError, ran]

theorem run_mapError_aborted {act : Act ε σ α} {s t : σ} {log : List Log.Entry}
    (ran : act.run s = ⟨.aborted, t, log⟩) (f : ε → δ) : (act.mapError f).run s = ⟨.aborted, t, log⟩ := by
  simp only [mapError, ran]

/-- All values with which an action can end. -/
def Yields (P : α → Prop) (act : Act ε σ α) : Prop := ∀ s a, (act.run s).outcome = .ok a → P a

theorem Yields.pure {P : α → Prop} {a : α} (holds : P a) : Yields P (Pure.pure a : Act ε σ α) := by
  intro s b ended
  cases ended
  exact holds

theorem Yields.bind {P : β → Prop} {act : Act ε σ α} {next : α → Act ε σ β}
    (last : ∀ a, Yields P (next a)) : Yields P (act >>= next) := by
  intro s b ended
  rcases ran : act.run s with ⟨outcome, t, log⟩
  cases outcome with
  | ok a => rw [run_bind_ok ran] at ended; exact last a t b ended
  | error e => rw [run_bind_error ran] at ended; cases ended
  | crashed message => rw [run_bind_crashed ran] at ended; cases ended
  | aborted => rw [run_bind_aborted ran] at ended; cases ended

/-- What is so of nothing done, and of two things done one after the other when it is so of each. -/
structure Lasting (R : σ → σ → Prop) : Prop where
  refl (s : σ) : R s s
  trans {s t u : σ} (first : R s t) (second : R t u) : R s u

theorem Lasting.keeping (inv : σ → Prop) : Lasting fun s t => inv s → inv t where
  refl _ held := held
  trans first second held := second (first held)

theorem Lasting.unchanged (view : σ → τ) : Lasting fun s t => view t = view s where
  refl _ := rfl
  trans first second := second.trans first

/-- Where an action ends, however it ends, is related to where it starts. -/
def Leads (R : σ → σ → Prop) (act : Act ε σ α) : Prop := ∀ s, R s (act.run s).state

namespace Leads

variable {R : σ → σ → Prop} {act : Act ε σ α}

theorem pure (lasting : Lasting R) (a : α) : Leads R (Pure.pure a : Act ε σ α) := lasting.refl

theorem fail (lasting : Lasting R) (e : ε) : Leads R (Act.fail e : Act ε σ α) := lasting.refl

theorem crash (lasting : Lasting R) (message : String) : Leads R (Act.crash message : Act ε σ α) := lasting.refl

theorem ofExcept (lasting : Lasting R) (result : Except ε α) : Leads R (Act.ofExcept result : Act ε σ α) := by
  cases result with
  | ok a => exact .pure lasting a
  | error e => exact .fail lasting e

theorem tell (lasting : Lasting R) (entry : Log.Entry) : Leads R (Act.tell entry : Act ε σ Unit) :=
  lasting.refl

theorem look (lasting : Lasting R) (f : σ → α) : Leads R (Act.look f : Act ε σ α) := lasting.refl

/-- From where the first part ends to where the whole ends. -/
theorem behind (lasting : Lasting R) {next : α → Act ε σ β} (second : ∀ a, Leads R (next a)) (s : σ) :
    R (act.run s).state ((act >>= next).run s).state := by
  rcases ran : act.run s with ⟨outcome, t, log⟩
  cases outcome with
  | ok a => rw [run_bind_ok ran]; exact second a t
  | error e => rw [run_bind_error ran]; exact lasting.refl t
  | crashed message => rw [run_bind_crashed ran]; exact lasting.refl t
  | aborted => rw [run_bind_aborted ran]; exact lasting.refl t

theorem bind (lasting : Lasting R) {next : α → Act ε σ β} (first : Leads R act)
    (second : ∀ a, Leads R (next a)) : Leads R (act >>= next) :=
  fun s => lasting.trans (first s) (behind lasting second s)

theorem attempt (leads : Leads R act) : Leads R (act.attempt : Act δ σ (Except ε α)) := by
  intro s
  have after := leads s
  simp only [Act.attempt]
  cases (act.run s).outcome <;> exact after

theorem mapError (f : ε → δ) (leads : Leads R act) : Leads R (act.mapError f) := by
  intro s
  have after := leads s
  simp only [Act.mapError]
  cases (act.run s).outcome <;> exact after

theorem behind_ending (lasting : Lasting R) {cleanup : Act ε σ Unit} (last : Leads R cleanup) (s : σ) :
    R (act.run s).state ((act.ending cleanup).run s).state := by
  simp only [Act.ending]
  rcases act.run s with ⟨outcome, t, log⟩
  cases outcome with
  | aborted => exact lasting.refl t
  | _ => exact last t

theorem ending (lasting : Lasting R) {cleanup : Act ε σ Unit} (first : Leads R act)
    (last : Leads R cleanup) : Leads R (act.ending cleanup) :=
  fun s => lasting.trans (first s) (behind_ending lasting last s)

end Leads

/-- An action that never ends the process. -/
def Lives (act : Act ε σ α) : Prop := ∀ s, (act.run s).outcome ≠ .aborted

namespace Lives

variable {act : Act ε σ α}

theorem bind {next : α → Act ε σ β} (first : Lives act) (second : ∀ a, Lives (next a)) :
    Lives (act >>= next) := by
  intro s
  have alive := first s
  rcases ran : act.run s with ⟨outcome, t, log⟩
  rw [ran] at alive
  cases outcome with
  | ok a => rw [run_bind_ok ran]; exact second a t
  | error e => rw [run_bind_error ran]; exact nofun
  | crashed message => rw [run_bind_crashed ran]; exact nofun
  | aborted => exact absurd rfl alive

theorem mapError (f : ε → δ) (alive : Lives act) : Lives (act.mapError f) := by
  intro s
  have alive := alive s
  simp only [Act.mapError]
  cases outcome : (act.run s).outcome with
  | aborted => exact absurd outcome alive
  | _ => exact nofun

end Lives

/-- All ways in which an action can end without a value. -/
def Errs (P : ε → Prop) (crashes : Prop) (act : Act ε σ α) : Prop :=
  ∀ s, (act.run s).outcome.Errs P crashes

namespace Errs

variable {P : ε → Prop} {crashes : Prop} {act : Act ε σ α}

theorem pure (a : α) : Errs P crashes (Pure.pure a : Act ε σ α) := fun _ => trivial

theorem tell (entry : Log.Entry) : Errs P crashes (Act.tell entry : Act ε σ Unit) := fun _ => trivial

theorem look (f : σ → α) : Errs P crashes (Act.look f : Act ε σ α) := fun _ => trivial

theorem change (f : σ → σ) : Errs P crashes (Act.change f : Act ε σ Unit) := fun _ => trivial

theorem fail {e : ε} (kind : P e) : Errs P crashes (Act.fail e : Act ε σ α) := fun _ => kind

theorem ofExcept {result : Except ε α} (kind : ∀ e, result = .error e → P e) :
    Errs P crashes (Act.ofExcept result : Act ε σ α) := by
  cases result with
  | ok a => exact .pure a
  | error e => exact .fail (kind e rfl)

/-- What follows an action need be of the kind only where that has ended well. -/
theorem bind_at {next : α → Act ε σ β} {s : σ} (first : (act.run s).outcome.Errs P crashes)
    (second : ∀ a, (act.run s).outcome = .ok a → ((next a).run (act.run s).state).outcome.Errs P crashes) :
    ((act >>= next).run s).outcome.Errs P crashes := by
  rcases ran : act.run s with ⟨outcome, t, log⟩
  rw [ran] at first second
  cases outcome with
  | ok a => rw [run_bind_ok ran]; exact second a rfl
  | error e => rw [run_bind_error ran]; exact first
  | crashed message => rw [run_bind_crashed ran]; exact first
  | aborted => rw [run_bind_aborted ran]; exact first

theorem bind {next : α → Act ε σ β} (first : Errs P crashes act) (second : ∀ a, Errs P crashes (next a)) :
    Errs P crashes (act >>= next) := fun s => bind_at (first s) fun a _ => second a _

theorem attempt {Q : δ → Prop} (errs : Errs P crashes act) :
    Errs Q crashes (act.attempt : Act δ σ (Except ε α)) := by
  intro s
  have kind := errs s
  simp only [Act.attempt]
  cases outcome : (act.run s).outcome with
  | ok a => trivial
  | error e => trivial
  | crashed message => rw [outcome] at kind; exact kind
  | aborted => rw [outcome] at kind; exact kind

theorem mapError {Q : δ → Prop} {f : ε → δ} (errs : Errs (fun e => Q (f e)) crashes act) :
    Errs Q crashes (act.mapError f) := by
  intro s
  have kind := errs s
  simp only [Act.mapError]
  cases outcome : (act.run s).outcome <;> rw [outcome] at kind <;> exact kind

theorem ending {cleanup : Act ε σ Unit} (first : Errs P crashes act) (last : Errs P crashes cleanup) :
    Errs P crashes (act.ending cleanup) := by
  intro s
  have kind := first s
  rcases ran : act.run s with ⟨outcome, t, log⟩
  have kind' := last t
  rw [ran] at kind
  simp only [Act.ending, ran]
  cases outcome <;> cases ended : (cleanup.run t).outcome <;> rw [ended] at kind' <;> first
    | exact kind
    | exact kind'

theorem within (get : τ → σ) (set : σ → τ → τ) (errs : Errs P crashes act) :
    Errs P crashes (act.within get set) := fun t => errs (get t)

end Errs

/-- Behind an action that does not end the process its cleanup is done. -/
theorem state_ending {act : Act ε σ α} (alive : Lives act) (cleanup : Act ε σ Unit) (s : σ) :
    ((act.ending cleanup).run s).state = (cleanup.run (act.run s).state).state := by
  have lives := alive s
  simp only [ending]

theorem exists_of_run_ending {act : Act ε σ α} {cleanup : Act ε σ Unit} {s t : σ} {a : α} {log : List Log.Entry}
    (ran : (act.ending cleanup).run s = ⟨.ok a, t, log⟩) :
    ∃ u front, act.run s = ⟨.ok a, u, front⟩ ∧ t = (cleanup.run u).state := by
  rcases first : act.run s with ⟨outcome, u, front⟩
  simp only [ending, first] at ran
  cases outcome with
  | ok b =>
    cases last : (cleanup.run u).outcome <;> simp only [last, settled] at ran <;> cases ran
    exact ⟨u, front, rfl, rfl⟩
  | error e => cases last : (cleanup.run u).outcome <;> simp only [last, settled] at ran <;> cases ran
  | crashed message => cases last : (cleanup.run u).outcome <;> simp only [last, settled] at ran <;> cases ran
  | aborted => cases ran

/-- An action does not tell related states apart: from both it ends and says the same, and it leaves
related states. -/
def Blind (R : σ → σ → Prop) (act : Act ε σ α) : Prop :=
  ∀ s t, R s t → (act.run s).outcome = (act.run t).outcome ∧ (act.run s).log = (act.run t).log ∧
    R (act.run s).state (act.run t).state

namespace Blind

variable {R : σ → σ → Prop} {act : Act ε σ α}

theorem pure (a : α) : Blind R (Pure.pure a : Act ε σ α) := fun _ _ related => ⟨rfl, rfl, related⟩

theorem fail (e : ε) : Blind R (Act.fail e : Act ε σ α) := fun _ _ related => ⟨rfl, rfl, related⟩

theorem ofExcept (result : Except ε α) : Blind R (Act.ofExcept result : Act ε σ α) := by
  cases result with
  | ok a => exact .pure a
  | error e => exact .fail e

theorem bind {next : α → Act ε σ β} (first : Blind R act) (second : ∀ a, Blind R (next a)) :
    Blind R (act >>= next) := by
  intro s t related
  obtain ⟨same, said, left⟩ := first s t related
  rcases ran : act.run s with ⟨outcome, s', log⟩
  rcases ran' : act.run t with ⟨outcome', t', log'⟩
  simp only [ran, ran'] at same said left
  subst same said
  cases outcome with
  | ok a =>
    obtain ⟨same, said, left⟩ := second a s' t' left
    rw [run_bind_ok ran, run_bind_ok ran']
    exact ⟨same, congrArg (log ++ ·) said, left⟩
  | error e => rw [run_bind_error ran, run_bind_error ran']; exact ⟨rfl, rfl, left⟩
  | crashed message => rw [run_bind_crashed ran, run_bind_crashed ran']; exact ⟨rfl, rfl, left⟩
  | aborted => rw [run_bind_aborted ran, run_bind_aborted ran']; exact ⟨rfl, rfl, left⟩

theorem mapError (f : ε → δ) (blind : Blind R act) : Blind R (act.mapError f) := by
  intro s t related
  obtain ⟨same, said, left⟩ := blind s t related
  simp only [Act.mapError, same]
  cases (act.run t).outcome <;> exact ⟨rfl, said, left⟩

end Blind

/-- `fine` does what `coarse` does, which sees no more of the state than a view. -/
def Mirrors (view : τ → σ) (fine : Act ε τ α) (coarse : Act ε σ α) : Prop :=
  ∀ t, (fine.run t).seen view = coarse.run (view t)

namespace Mirrors

variable {view : τ → σ} {fine : Act ε τ α} {coarse : Act ε σ α}

theorem run (mirrors : Mirrors view fine coarse) {t : τ} {s : σ} (seen : view t = s) :
    (fine.run t).seen view = coarse.run s := seen ▸ mirrors t

theorem pure (a : α) : Mirrors view (Pure.pure a : Act ε τ α) (Pure.pure a) := fun _ => rfl

theorem fail (e : ε) : Mirrors view (Act.fail e : Act ε τ α) (Act.fail e) := fun _ => rfl

theorem tell (entry : Log.Entry) : Mirrors (ε := ε) view (Act.tell entry) (Act.tell entry) :=
  fun _ => rfl

theorem look (f : σ → α) : Mirrors (ε := ε) view (Act.look fun t => f (view t)) (Act.look f) :=
  fun _ => rfl

theorem ofExcept (result : Except ε α) :
    Mirrors view (Act.ofExcept result : Act ε τ α) (Act.ofExcept result) := by
  cases result <;> exact fun _ => rfl

theorem bind {next : α → Act ε τ β} {next' : α → Act ε σ β} (first : Mirrors view fine coarse)
    (second : ∀ a, Mirrors view (next a) (next' a)) :
    Mirrors view (fine >>= next) (coarse >>= next') := by
  intro t
  have same := first t
  rcases ran : fine.run t with ⟨outcome, after, log⟩
  rw [ran] at same
  cases outcome with
  | ok a =>
    rw [run_bind_ok ran, run_bind_ok same.symm, ← second a after]
    rfl
  | error e => rw [run_bind_error ran, run_bind_error same.symm]; rfl
  | crashed message => rw [run_bind_crashed ran, run_bind_crashed same.symm]; rfl
  | aborted => rw [run_bind_aborted ran, run_bind_aborted same.symm]; rfl

theorem attempt (act : Mirrors view fine coarse) :
    Mirrors (ε := δ) view fine.attempt coarse.attempt := by
  intro t
  simp only [Act.attempt, ← act t, Step.seen]
  cases (fine.run t).outcome <;> rfl

theorem mapError (f : ε → δ) (act : Mirrors view fine coarse) :
    Mirrors view (fine.mapError f) (coarse.mapError f) := by
  intro t
  simp only [Act.mapError, ← act t, Step.seen]
  cases (fine.run t).outcome <;> rfl

theorem ending {cleanup : Act ε τ Unit} {cleanup' : Act ε σ Unit} (act : Mirrors view fine coarse)
    (last : Mirrors view cleanup cleanup') :
    Mirrors view (fine.ending cleanup) (coarse.ending cleanup') := by
  intro t
  simp only [Act.ending, ← act t, Step.seen]
  cases ended : (fine.run t).outcome with
  | aborted => simp only [ended]
  | _ => simp only [← last (fine.run t).state, Step.seen]

theorem within {ρ ω : Type} {get : ρ → τ} {set : τ → ρ → ρ} {get' : ω → σ} {set' : σ → ω → ω}
    {whole : ρ → ω} (got : ∀ r, view (get r) = get' (whole r))
    (put : ∀ t r, whole (set t r) = set' (view t) (whole r)) (act : Mirrors view fine coarse) :
    Mirrors whole (fine.within get set) (coarse.within get' set') := by
  intro r
  simp only [Act.within, Step.seen, put, ← got, ← act (get r)]

end Mirrors

end Act

end JvmAttach
