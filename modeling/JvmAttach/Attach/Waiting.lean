import JvmAttach.Act
import JvmAttach.Duration

/-! Waiting for something to become ready. Between two looks there is a nap, each longer than
the one before by the same step, but never past the deadline; after each nap something is
checked that can end the wait early. The last look is at the deadline or later. -/
namespace JvmAttach.Attach

/-- What waiting needs: a clock that does not go back, a look, a nap that lasts at least as long
as asked, and a check. -/
structure Watch (ε σ : Type) where
  now : σ → Duration
  ready : σ → Bool
  nap : Duration → σ → σ
  check : Act ε σ Unit
  /-- What is said in front of a nap that is due for so long. -/
  note : Duration → Log.Entry
  /-- By how much naps grow. -/
  growth : Duration
  growth_pos : 0 < growth.nanos := by decide
  now_nap : ∀ d s, (now s).nanos + d.nanos ≤ (now (nap d s)).nanos
  now_check : ∀ s, (now s).nanos ≤ (now (check.run s).state).nanos

namespace Watch

variable {ε σ : Type}

def elapsed (w : Watch ε σ) (started : Duration) (s : σ) : Duration := (w.now s).less started

/-- The longest nap that does not pass the deadline, up to the one that is due. -/
def napOf (w : Watch ε σ) (timeout started delay : Duration) (s : σ) : Duration :=
  delay.shorter (timeout.less (w.elapsed started s))

def durationOverflow : String := "overflow when adding durations"

theorem napOf_pos (w : Watch ε σ) (timeout started delay longer : Duration) (s : σ)
    (early : ¬ timeout ≤ w.elapsed started s) (grown : delay.add? w.growth = some longer) :
    0 < (w.napOf timeout started longer s).nanos := by
  have long : w.growth.nanos ≤ longer.nanos := by
    simp only [Duration.add?] at grown
    split at grown
    · cases grown; exact Nat.le_add_left _ _
    · cases grown
  have grows := w.growth_pos
  simp only [Duration.le_def] at early
  simp only [napOf, Duration.shorter, Duration.less]
  omega

/-- Wait from a time on. `delay` is the length of the last nap. -/
def await (w : Watch ε σ) (timeout : Duration) (late : ε) (started delay : Duration) (s : σ) :
    Step ε σ Unit :=
  if w.ready s then ⟨.ok (), s, []⟩
  else if _ended : timeout ≤ w.elapsed started s then ⟨.error late, s, []⟩
  else match _grown : delay.add? w.growth with
    | none => ⟨.crashed durationOverflow, s, []⟩
    | some longer =>
      let checked := w.check.run (w.nap (w.napOf timeout started longer s) s)
      match checked.outcome with
      | .ok () =>
        let rest := await w timeout late started longer checked.state
        ⟨rest.outcome, rest.state, w.note longer :: (checked.log ++ rest.log)⟩
      | outcome => ⟨outcome, checked.state, w.note longer :: checked.log⟩
  termination_by started.nanos + timeout.nanos - (w.now s).nanos
  decreasing_by
    have nap := w.napOf_pos timeout started delay longer s _ended _grown
    have asleep := w.now_nap (w.napOf timeout started longer s) s
    have awake := w.now_check (w.nap (w.napOf timeout started longer s) s)
    simp only [Duration.le_def, elapsed, Duration.less] at *
    omega

end Watch

end JvmAttach.Attach
