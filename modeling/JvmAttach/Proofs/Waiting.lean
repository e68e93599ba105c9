import JvmAttach.Proofs.Agenda
import JvmAttach.Proofs.Attaching
import Mathlib.Order.Bounds.Basic
import Mathlib.Tactic.Ring

/-! The looks of a wait. The first is made at once. Behind each look that finds nothing comes a nap that is one
step longer than the nap before, or as long as there is time left, so that look `n` is made when `n * (n + 1) / 2`
steps have passed or at the deadline. This bounds their number, and with naps that last as long as they are asked to
it says when each is made. -/
namespace JvmAttach.Attach

open Act Host

namespace Watch

variable {ε σ : Type}

/-- How long before look `n` the wait has begun, unless the deadline has come by then. -/
def due (w : Watch ε σ) (n : Nat) : Nat := w.growth.nanos * (n * (n + 1) / 2)

theorem due_succ (w : Watch ε σ) (n : Nat) : w.due (n + 1) = w.due n + (n + 1) * w.growth.nanos := by
  have steps : (n + 1) * (n + 1 + 1) = n * (n + 1) + (n + 1) * 2 := by ring
  rw [due, due, steps, Nat.add_mul_div_right _ _ Nat.two_pos]
  ring

/-- Once there were two looks, naps are never longer than what has passed. -/
theorem nap_le_due (w : Watch ε σ) {n : Nat} (some : 2 ≤ n) : (n + 1) * w.growth.nanos ≤ w.due n := by
  have enough : n + 1 ≤ n * (n + 1) / 2 := by
    rw [Nat.le_div_iff_mul_le Nat.two_pos, Nat.mul_comm]
    exact Nat.mul_le_mul_right _ some
  rw [due, Nat.mul_comm]
  exact Nat.mul_le_mul_left _ enough

variable (w : Watch ε σ) (timeout started : Duration)

/-- The nap and the check behind look `n`, when the look is made in a state. -/
def round (n : Nat) (s : σ) : Step ε σ Unit :=
  w.check.run (w.nap (w.napOf timeout started ⟨(n + 1) * w.growth.nanos⟩ s) s)

/-- The state in which look `n` is made, if there is one. -/
def stage (s : σ) : Nat → σ
  | 0 => s
  | n + 1 => (w.round timeout started n (stage s n)).state

/-- The wait goes on behind each of the first `n` looks. -/
def GoesOn (s : σ) (n : Nat) : Prop :=
  ∀ i < n, w.ready (w.stage timeout started s i) = false ∧
    ¬ timeout ≤ w.elapsed started (w.stage timeout started s i) ∧
    (w.round timeout started i (w.stage timeout started s i)).outcome = .ok ()

/-- How a wait can end: at a look, with what was waited for or at the deadline, or behind one. -/
inductive Ends (late : ε) (s : σ) : Outcome ε Unit → σ → Prop
  | ready {n : Nat} (before : w.GoesOn timeout started s n)
      (found : w.ready (w.stage timeout started s n) = true) : Ends late s (.ok ()) (w.stage timeout started s n)
  | late {n : Nat} (before : w.GoesOn timeout started s n)
      (missing : w.ready (w.stage timeout started s n) = false)
      (past : timeout ≤ w.elapsed started (w.stage timeout started s n)) :
      Ends late s (.error late) (w.stage timeout started s n)
  | failed {n : Nat} {outcome : Outcome ε Unit} (before : w.GoesOn timeout started s n)
      (early : ¬ timeout ≤ w.elapsed started (w.stage timeout started s n))
      (checked : (w.round timeout started n (w.stage timeout started s n)).outcome = outcome)
      (other : outcome ≠ .ok ()) : Ends late s outcome (w.stage timeout started s (n + 1))

variable {w timeout started} {s : σ} {n : Nat}

theorem due_le_elapsed (begun : started ≤ w.now s) (n : Nat) :
    started ≤ w.now (w.stage timeout started s n) ∧
      min timeout.nanos (w.due n) ≤ (w.elapsed started (w.stage timeout started s n)).nanos := by
  simp only [Duration.le_def, elapsed, Duration.less] at begun ⊢
  induction n with
  | zero =>
    refine ⟨begun, ?_⟩
    simp only [due, Nat.zero_mul, Nat.zero_div, Nat.mul_zero, Nat.min_zero, Nat.zero_le]
  | succ n ih =>
    generalize before : w.stage timeout started s n = t at ih
    have asleep := w.now_nap (w.napOf timeout started ⟨(n + 1) * w.growth.nanos⟩ t) t
    have awake := w.now_check (w.nap (w.napOf timeout started ⟨(n + 1) * w.growth.nanos⟩ t) t)
    have next : w.stage timeout started s (n + 1) = (w.round timeout started n t).state := by rw [stage, before]
    rw [next, round, due_succ]
    simp only [napOf, Duration.shorter, Duration.less, elapsed] at asleep awake ⊢
    omega

theorem due_lt_of_early (begun : started ≤ w.now s)
    (early : ¬ timeout ≤ w.elapsed started (w.stage timeout started s n)) : w.due n < timeout.nanos := by
  have passed : min timeout.nanos (w.due n) ≤ _ := (due_le_elapsed begun n).2
  simp only [Duration.le_def] at early
  omega

theorem add?_of_early (fits : timeout ≤ Duration.longest) (room : 2 * w.growth.nanos ≤ Duration.longest.nanos)
    (begun : started ≤ w.now s) (early : ¬ timeout ≤ w.elapsed started (w.stage timeout started s n)) :
    Duration.add? ⟨n * w.growth.nanos⟩ w.growth = some ⟨(n + 1) * w.growth.nanos⟩ := by
  have spent := due_lt_of_early begun early
  simp only [Duration.le_def] at fits
  have small : (n + 1) * w.growth.nanos ≤ Duration.longest.nanos := by
    rcases Nat.lt_or_ge n 2 with few | many
    · exact Nat.le_trans (Nat.mul_le_mul_right _ few) room
    · have shorter := w.nap_le_due many
      omega
  have sum : n * w.growth.nanos + w.growth.nanos = (n + 1) * w.growth.nanos := by ring
  simp only [Duration.add?, sum, if_pos small]

theorem ends_await_at {late : ε} (fits : timeout ≤ Duration.longest)
    (room : 2 * w.growth.nanos ≤ Duration.longest.nanos) (begun : started ≤ w.now s) {delay : Duration} {t : σ} :
    ∀ n, w.GoesOn timeout started s n → ⟨n * w.growth.nanos⟩ = delay → w.stage timeout started s n = t →
      w.Ends timeout started late s (w.await timeout late started delay t).outcome
        (w.await timeout late started delay t).state := by
  fun_induction w.await timeout late started delay t with
  | case1 delay t found =>
    rintro n before rfl rfl
    exact .ready before found
  | case2 delay t missing past =>
    rintro n before rfl rfl
    exact .late before (Bool.eq_false_iff.2 missing) past
  | case3 delay t missing early overflow =>
    rintro n before rfl rfl
    rw [add?_of_early fits room begun early] at overflow
    cases overflow
  | case4 delay t missing early longer grown checked passed rest ih =>
    rintro n before rfl rfl
    rw [add?_of_early fits room begun early] at grown
    obtain rfl := Option.some.inj grown
    refine ih (n + 1) (fun i lt => ?_) rfl rfl
    rcases Nat.lt_succ_iff_lt_or_eq.1 lt with lt | rfl
    · exact before i lt
    · exact ⟨Bool.eq_false_iff.2 missing, early, passed⟩
  | case5 delay t missing early longer grown checked failed =>
    rintro n before rfl rfl
    rw [add?_of_early fits room begun early] at grown
    obtain rfl := Option.some.inj grown
    exact .failed before early rfl failed

end Watch

variable {pid : Pid} {socket : Path} {timeout : Duration} {h : Host} {n : Nat}

/-- When look `n` is made. -/
def lookTime (timeout : Duration) (n : Nat) : Nat := min timeout.nanos (20000000 * (n * (n + 1) / 2))

/-- The nap from look `n` to the next. -/
def napAfter (timeout : Duration) (n : Nat) : Duration := ⟨lookTime timeout (n + 1) - lookTime timeout n⟩

/-- The first `n` naps, and the question behind each of them. -/
def rounds (pid : Pid) (timeout : Duration) (n : Nat) : List Event :=
  (List.range n).flatMap fun i => [Event.slept (napAfter timeout i), Event.signal pid.raw 0]

theorem rounds_succ (pid : Pid) (timeout : Duration) (n : Nat) : rounds pid timeout (n + 1) =
    rounds pid timeout n ++ [.slept (napAfter timeout n)] ++ [.signal pid.raw 0] := by
  simp only [rounds, List.range_succ, List.flatMap_append, List.flatMap_cons, List.flatMap_nil, List.append_nil,
    List.append_assoc, List.cons_append, List.nil_append]

theorem signalFault_ne_attachFailed (pid : Pid) (fault : SystemFault) (text : String) :
    signalFault pid fault ≠ .attachFailed text := by
  unfold signalFault
  split
  · exact nofun
  · split <;> exact nofun

theorem probe_ne_attachFailed (pid : Pid) (text : String) (h : Host) :
    ((probe pid).run h).outcome ≠ .error (.attachFailed text) := by
  intro refused
  simp only [probe, signal, mapError] at refused
  cases asked : ((sendSignal pid 0).run h).outcome with
  | error fault =>
    rw [asked] at refused
    exact signalFault_ne_attachFailed pid fault text (Outcome.error.inj refused)
  | ok _ | crashed _ | aborted =>
    rw [asked] at refused
    cases refused

theorem probe_noted (pid : Pid) (h : Host) (journal : List Event) (lags : List Duration) :
    ((probe pid).run { h with journal, lags }).outcome = ((probe pid).run h).outcome := by
  by_cases named : pid.raw ≤ 0
  · simp only [probe, signal, mapError, sendSignal, if_pos named, run_fail]
  · simp only [probe, signal, mapError, sendSignal, if_neg named, kill, run_change_bind, run_look_bind]
    rw [show Host.signalFault pid.raw 0 (record (.signal pid.raw 0) { h with journal, lags }) =
      Host.signalFault pid.raw 0 (record (.signal pid.raw 0) h) from rfl]
    cases Host.signalFault pid.raw 0 (record (.signal pid.raw 0) h) <;> rfl

theorem lookTime_succ (timeout : Duration) (n : Nat) :
    lookTime timeout (n + 1) = min timeout.nanos (20000000 * (n * (n + 1) / 2) + (n + 1) * 20000000) :=
  congrArg (min timeout.nanos ·) ((socketWatch ⟨0⟩ ⟨[]⟩).due_succ n)

theorem lookTime_lt (early : lookTime timeout n < timeout.nanos) :
    lookTime timeout n < lookTime timeout (n + 1) ∧
      (napAfter timeout n).nanos = min ((n + 1) * 20000000) (timeout.nanos - lookTime timeout n) := by
  simp only [napAfter, lookTime_succ]
  simp only [lookTime] at early ⊢
  omega

theorem sleep_after (ordered : Ordered h.agenda) {time later : Nat} (longer : time < later) (journal : List Event)
    {lags : List Duration} (punctual : ∀ lag ∈ lags, lag = .zero) :
    ({ h.after time with journal, lags } : Host).sleep ⟨later - time⟩ =
      { h.after later with journal := journal ++ [.slept ⟨later - time⟩], lags := lags.tail } := by
  have none : (lags.head?.getD .zero).nanos = 0 := by
    cases lags with
    | nil => rfl
    | cons lag rest => exact congrArg Duration.nanos (punctual lag List.mem_cons_self)
  have woken : (⟨(h.after time).clock.nanos + (later - time) + (lags.head?.getD .zero).nanos⟩ : Duration) =
      ⟨h.clock.nanos + later⟩ := by
    rw [none, clock_after]
    congr 1
    omega
  rw [← passed_after ordered longer, ← woken]
  rfl

theorem state_probe (pid : Pid) (h : Host) : ((probe pid).run h).state = probed pid h := by
  rcases run_probe pid h with ⟨fault, ran⟩ | ⟨named, ran⟩ <;> rw [ran]

/-- The host of look `n`, where sleeps are punctual: what it is like at that time, with `n` naps and questions
noted. -/
def seen (pid : Pid) (timeout : Duration) (h : Host) (n : Nat) : Host :=
  { h.after (lookTime timeout n) with journal := h.journal ++ rounds pid timeout n, lags := h.lags.drop n }

theorem round_seen (punctual : ∀ lag ∈ h.lags, lag = .zero) (ordered : Ordered h.agenda)
    (early : lookTime timeout n < timeout.nanos) :
    (socketWatch pid socket).round timeout h.clock n (seen pid timeout h n) =
      (probe pid).run { seen pid timeout h (n + 1) with
        journal := h.journal ++ rounds pid timeout n ++ [.slept (napAfter timeout n)] } := by
  obtain ⟨longer, short⟩ := lookTime_lt early
  have clock : (seen pid timeout h n).clock.nanos = h.clock.nanos + lookTime timeout n := clock_after _ h
  have nap : (socketWatch pid socket).napOf timeout h.clock ⟨(n + 1) * (socketWatch pid socket).growth.nanos⟩
      (seen pid timeout h n) = napAfter timeout n := by
    refine congrArg Duration.mk (Eq.trans ?_ short.symm)
    show min ((n + 1) * 20000000) (timeout.nanos - ((seen pid timeout h n).clock.nanos - h.clock.nanos)) = _
    omega
  have lags : h.lags.drop (n + 1) = (h.lags.drop n).tail := List.tail_drop.symm
  rw [Watch.round, nap, seen, seen, lags]
  refine congrArg (probe pid).run ?_
  exact sleep_after ordered longer _ fun lag mem => punctual lag (List.mem_of_mem_drop mem)

theorem stage_punctual (named : 0 < pid.raw) (punctual : ∀ lag ∈ h.lags, lag = .zero) (ordered : Ordered h.agenda)
    (n : Nat) (early : ∀ i < n, lookTime timeout i < timeout.nanos) :
    (socketWatch pid socket).stage timeout h.clock h n = seen pid timeout h n := by
  induction n with
  | zero =>
    have start : lookTime timeout 0 = 0 := Nat.min_zero _
    simp only [Watch.stage, seen, start, after, ↓reduceIte, rounds, List.range_zero, List.flatMap_nil,
      List.append_nil, List.drop_zero]
  | succ n ih =>
    have before := ih fun i lt => early i (Nat.lt_succ_of_lt lt)
    rw [Watch.stage, before, round_seen punctual ordered (early n (Nat.lt_succ_self n)), state_probe, probed,
      if_pos named, record, seen, rounds_succ, ← List.append_assoc, ← List.append_assoc]

def isNap : Event → Bool
  | .slept _ => true
  | _ => false

theorem journal_probed (pid : Pid) (h : Host) :
    ∃ asked, (probed pid h).journal = h.journal ++ asked ∧ asked.countP isNap = 0 := by
  unfold probed
  split
  · exact ⟨_, rfl, rfl⟩
  · exact ⟨[], (List.append_nil _).symm, rfl⟩

theorem exists_round (pid : Pid) (socket : Path) (timeout started : Duration) (n : Nat) (h : Host) :
    ∃ d, (socketWatch pid socket).round timeout started n h = (probe pid).run (h.sleep d) := ⟨_, rfl⟩

theorem naps_stage (pid : Pid) (socket : Path) (timeout started : Duration) (h : Host) (n : Nat) :
    ∃ events, ((socketWatch pid socket).stage timeout started h n).journal = h.journal ++ events ∧
      events.countP isNap = n := by
  induction n with
  | zero => exact ⟨[], (List.append_nil _).symm, rfl⟩
  | succ n ih =>
    obtain ⟨events, noted, naps⟩ := ih
    rw [Watch.stage]
    generalize (socketWatch pid socket).stage timeout started h n = g at noted
    obtain ⟨d, ran⟩ := exists_round pid socket timeout started n g
    obtain ⟨asked, noted', none⟩ := journal_probed pid (g.sleep d)
    have slept : (g.sleep d).journal = g.journal ++ [.slept d] := rfl
    refine ⟨events ++ [.slept d] ++ asked, ?_, ?_⟩
    · rw [ran, state_probe, noted', slept, noted]
      simp only [List.append_assoc]
    · rw [List.countP_append, List.countP_append, naps, none]
      rfl

theorem le_of_early {N : Nat} (reached : timeout.nanos ≤ 20000000 * (N * (N + 1) / 2))
    (early : ∀ i < n, 20000000 * (i * (i + 1) / 2) < timeout.nanos) : n ≤ N := by
  refine Nat.not_lt.1 fun more => ?_
  have before := early N more
  omega

theorem lookTime_le (timeout : Duration) (n : Nat) : lookTime timeout n ≤ timeout.nanos := Nat.min_le_left _ _

theorem due_lt_of_goesOn (before : (socketWatch pid socket).GoesOn timeout h.clock h n) :
    ∀ i < n, 20000000 * (i * (i + 1) / 2) < timeout.nanos := by
  intro i lt
  have started : h.clock ≤ (socketWatch pid socket).now h := Nat.le_refl _
  exact Watch.due_lt_of_early started (before i lt).2.1

theorem due_lt_of_failed (before : (socketWatch pid socket).GoesOn timeout h.clock h n)
    (early : ¬ timeout ≤
      (socketWatch pid socket).elapsed h.clock ((socketWatch pid socket).stage timeout h.clock h n)) :
    ∀ i < n + 1, 20000000 * (i * (i + 1) / 2) < timeout.nanos := by
  intro i lt
  have started : h.clock ≤ (socketWatch pid socket).now h := Nat.le_refl _
  rcases Nat.lt_succ_iff_lt_or_eq.1 lt with lt | rfl
  · exact due_lt_of_goesOn before i lt
  · exact Watch.due_lt_of_early started early

variable {N : Nat} {outcome : Outcome AttachFault Unit} {host : Host}

/-- A wait naps no more often than it takes for the time to be over, and gives up only then. -/
theorem bounds_of_ends (reached : timeout.nanos ≤ 20000000 * (N * (N + 1) / 2))
    (ends : (socketWatch pid socket).Ends timeout h.clock (notStarted pid socket timeout) h outcome host) :
    (∃ events, host.journal = h.journal ++ events ∧ events.countP isNap ≤ N) ∧
    (∀ why, outcome ≠ .crashed why) ∧
    (∀ text, outcome = .error (.attachFailed text) → h.clock.nanos + timeout.nanos ≤ host.clock.nanos) := by
  cases ends with
  | @ready n before found =>
    obtain ⟨events, noted, naps⟩ := naps_stage pid socket timeout h.clock h n
    exact ⟨⟨events, noted, naps ▸ le_of_early reached (due_lt_of_goesOn before)⟩, fun _ => nofun, fun _ => nofun⟩
  | @late n before missing past =>
    obtain ⟨events, noted, naps⟩ := naps_stage pid socket timeout h.clock h n
    refine ⟨⟨events, noted, naps ▸ le_of_early reached (due_lt_of_goesOn before)⟩, fun _ => nofun, fun _ _ => ?_⟩
    have begun : h.clock ≤ (socketWatch pid socket).now h := Nat.le_refl _
    have started : h.clock.nanos ≤ ((socketWatch pid socket).stage timeout h.clock h n).clock.nanos :=
      (Watch.due_le_elapsed begun n).1
    have past : timeout.nanos ≤ ((socketWatch pid socket).stage timeout h.clock h n).clock.nanos - h.clock.nanos :=
      past
    omega
  | @failed n outcome before early checked other =>
    obtain ⟨events, noted, naps⟩ := naps_stage pid socket timeout h.clock h (n + 1)
    refine ⟨⟨events, noted, naps ▸ le_of_early reached (due_lt_of_failed before early)⟩, fun why crashed => ?_,
      fun text failed => absurd (checked.trans failed) (probe_ne_attachFailed pid text _)⟩
    obtain ⟨d, ran⟩ := exists_round pid socket timeout h.clock n ((socketWatch pid socket).stage timeout h.clock h n)
    have crashed := checked.trans crashed
    rw [ran] at crashed
    rcases run_probe pid _ with ⟨fault, asked⟩ | ⟨_, asked⟩ <;> rw [asked] at crashed <;> cases crashed

theorem lookTime_lt_of_early (early : ∀ i < n, 20000000 * (i * (i + 1) / 2) < timeout.nanos) :
    ∀ i < n, lookTime timeout i < timeout.nanos := fun i lt =>
  Nat.lt_of_le_of_lt (Nat.min_le_right _ _) (early i lt)

/-- Where sleeps are punctual and the target stays, a wait ends at a look, and only the last of all is in vain. -/
theorem punctual_of_ends (least : IsLeast {n | timeout.nanos ≤ 20000000 * (n * (n + 1) / 2)} N)
    (punctual : ∀ lag ∈ h.lags, lag = .zero) (ordered : Ordered h.agenda)
    (alive : ∀ time ≤ timeout.nanos, ((probe pid).run (h.after time)).outcome = .ok ())
    (ends : (socketWatch pid socket).Ends timeout h.clock (notStarted pid socket timeout) h outcome host) :
    ∃ n ≤ N, (∀ i < n, lookTime timeout i < timeout.nanos ∧
        socketExists socket (h.after (lookTime timeout i)) = false) ∧
      host = seen pid timeout h n ∧
      (outcome = .ok () ∧ socketExists socket (h.after (lookTime timeout n)) = true ∨
        outcome = .error (notStarted pid socket timeout) ∧ n = N ∧
          socketExists socket (h.after (lookTime timeout n)) = false) := by
  have named : 0 < pid.raw := by
    rcases run_probe pid (h.after 0) with ⟨fault, ran⟩ | ⟨named, -⟩
    · have answered := alive 0 (Nat.zero_le _)
      rw [ran] at answered
      cases answered
    · exact named
  have stage (n : Nat) (early : ∀ i < n, 20000000 * (i * (i + 1) / 2) < timeout.nanos) :
      (socketWatch pid socket).stage timeout h.clock h n = seen pid timeout h n :=
    stage_punctual named punctual ordered n (lookTime_lt_of_early early)
  have missed {n : Nat} (before : (socketWatch pid socket).GoesOn timeout h.clock h n) : ∀ i < n,
      lookTime timeout i < timeout.nanos ∧ socketExists socket (h.after (lookTime timeout i)) = false := by
    intro i lt
    have early := due_lt_of_goesOn before
    have missing := (before i lt).1
    rw [stage i fun j lt' => early j (lt'.trans lt)] at missing
    exact ⟨lookTime_lt_of_early early i lt, missing⟩
  cases ends with
  | @ready n before found =>
    have early := due_lt_of_goesOn before
    rw [stage n early] at found
    exact ⟨n, le_of_early least.1 early, missed before, stage n early, .inl ⟨rfl, found⟩⟩
  | @late n before missing past =>
    have early := due_lt_of_goesOn before
    rw [stage n early] at missing past
    have clock : (seen pid timeout h n).clock.nanos = h.clock.nanos + lookTime timeout n := clock_after _ h
    have past : timeout.nanos ≤ (seen pid timeout h n).clock.nanos - h.clock.nanos := past
    have reached : timeout.nanos ≤ 20000000 * (n * (n + 1) / 2) := by
      simp only [lookTime] at clock
      omega
    have last : n = N := Nat.le_antisymm (le_of_early least.1 early) (least.2 reached)
    exact ⟨n, last.le, missed before, stage n early, .inr ⟨rfl, last, missing⟩⟩
  | @failed n outcome before early checked other =>
    have soon := due_lt_of_failed before early
    rw [stage n (due_lt_of_goesOn before),
      round_seen punctual ordered (lookTime_lt_of_early soon n (Nat.lt_succ_self n))] at checked
    have asked := alive _ (lookTime_le timeout (n + 1))
    exact absurd (checked.symm.trans ((probe_noted pid (h.after _) _ _).trans asked)) other

/-- A wait ends in time and misses nothing. It takes no more naps than fill the time, never crashes, and does
not give up before the deadline. Where sleeps are punctual and the target stays there, look `n` is made when `n`
naps, each one step longer than the one before, have passed, or else at the deadline; naps go from one look to the
next. The socket is found if it is there at a look, so that one that comes in time and stays is not missed, and the
wait gives up only behind a look at the deadline. -/
theorem wait_in_time (pid : Pid) (socket : Path) (fits : timeout ≤ Duration.longest)
    (least : IsLeast {n | timeout.nanos ≤ 20000000 * (n * (n + 1) / 2)} N) (h : Host) :
    let late : AttachFault := .attachFailed
      s!"attach listener of process {pid} did not start within {timeout.millis} ms ({socket.shown} not found)"
    let step := (awaitSocket pid socket timeout h.clock).run h
    let look := lookTime timeout
    let there (time : Nat) := socketExists socket (h.after time)
    ((∃ events, step.state.journal = h.journal ++ events ∧ events.countP isNap ≤ N) ∧
      (∀ why, step.outcome ≠ .crashed why) ∧
      (∀ text, step.outcome = .error (.attachFailed text) →
        h.clock.nanos + timeout.nanos ≤ step.state.clock.nanos)) ∧
    ((∀ lag ∈ h.lags, lag = .zero) → Ordered h.agenda →
      (∀ time ≤ timeout.nanos, ((probe pid).run (h.after time)).outcome = .ok ()) →
        (∃ n ≤ N, (∀ i < n, look i < timeout.nanos ∧ there (look i) = false) ∧
          step.state.journal = h.journal ++ rounds pid timeout n ∧
          (∀ i < n, look i + (napAfter timeout i).nanos = look (i + 1) ∧ look (i + 1) ≤ timeout.nanos) ∧
          step.state.clock.nanos = h.clock.nanos + look n ∧
          (step.outcome = .ok () ∧ there (look n) = true ∨
            step.outcome = .error late ∧ n = N ∧ there (look n) = false)) ∧
        (∀ time ≤ timeout.nanos, (∀ later, time ≤ later → later ≤ timeout.nanos → there later = true) →
          step.outcome = .ok ()) ∧
        (step.outcome = .error late ↔ ∀ n ≤ N, there (look n) = false) ∧ look N = timeout.nanos) := by
  intro late step look there
  have room : 2 * pollStep.nanos ≤ Duration.longest.nanos := by decide
  have ends : (socketWatch pid socket).Ends timeout h.clock late h step.outcome step.state :=
    Watch.ends_await_at fits room (Nat.le_refl _) 0 (fun i lt => nomatch lt)
      (congrArg Duration.mk (Nat.zero_mul _)) rfl
  refine ⟨bounds_of_ends least.1 ends, fun punctual ordered alive => ?_⟩
  obtain ⟨n, few, missed, state, ended⟩ := punctual_of_ends least punctual ordered alive ends
  have last : look N = timeout.nanos := Nat.min_eq_left least.1
  have naps : ∀ i < n, look i + (napAfter timeout i).nanos = look (i + 1) ∧ look (i + 1) ≤ timeout.nanos := by
    intro i lt
    have longer := (lookTime_lt (missed i lt).1).1
    exact ⟨Nat.add_sub_of_le longer.le, lookTime_le timeout (i + 1)⟩
  refine ⟨⟨n, few, missed, congrArg Host.journal state, naps, ?_, ended⟩, fun time soon stays => ?_, ?_, last⟩
  · rw [state]
    exact clock_after _ h
  · rcases ended with ⟨found, -⟩ | ⟨-, rfl, missing⟩
    · exact found
    · have missing : there (look n) = false := missing
      rw [last, stays timeout.nanos soon (Nat.le_refl _)] at missing
      cases missing
  · constructor
    · intro failed m le
      rcases ended with ⟨found, -⟩ | ⟨-, rfl, missing⟩
      · exact nomatch found.symm.trans failed
      · rcases Nat.lt_or_eq_of_le le with lt | rfl
        · exact (missed m lt).2
        · exact missing
    · intro missing
      rcases ended with ⟨-, found⟩ | ⟨failed, -⟩
      · exact nomatch found.symm.trans (missing n few)
      · exact failed

/-- The making of a socket after 30 ms. -/
def making : Deed where
  time := .ofMillis 30
  act m := m.enter Machine.rootInode (Text.bytesOf "socket") ⟨.socket true, 0, 0o600⟩

/-- A target that answers the signal with it. -/
def prompt : Host := { inhabited sleeper with reaction := fun _ => [making] }

def starting : Host := delivered 7 sigquit prompt

def startingSocket : Path := ⟨Text.bytesOf "/socket"⟩

theorem after_starting (time : Nat) :
    starting.after time = if time < 30000000 then { starting with clock := ⟨time⟩ }
      else { starting with clock := ⟨time⟩, agenda := [], machine := making.act starting.machine } := by
  unfold after
  split
  · rename_i none
    subst none
    rfl
  · have clock : starting.clock.nanos + time = time := Nat.zero_add time
    have due : making.time ≤ ⟨time⟩ ↔ ¬ time < 30000000 := Nat.not_lt.symm
    have agenda : starting.agenda = [making] := rfl
    by_cases early : time < 30000000
    · simp only [passed, clock, agenda, List.filter_cons, due, early]
      rfl
    · simp only [passed, clock, agenda, List.filter_cons, due, early]
      rfl

theorem wait_in_time_starting :
    let timeout := Duration.ofMillis 50
    let step := (awaitSocket ⟨7⟩ startingSocket timeout .zero).run starting
    IsLeast {n | timeout.nanos ≤ 20000000 * (n * (n + 1) / 2)} 2 ∧ socketExists startingSocket starting = false ∧
      step.outcome = .ok () := by
  intro timeout step
  have least : IsLeast {n | timeout.nanos ≤ 20000000 * (n * (n + 1) / 2)} 2 := by
    refine ⟨by decide, fun n reached => ?_⟩
    rcases n with _ | _ | n
    · exact absurd reached (by decide)
    · exact absurd reached (by decide)
    · exact Nat.le_add_left 2 n
  have alive : ∀ time ≤ timeout.nanos, ((probe ⟨7⟩).run (starting.after time)).outcome = .ok () := by
    intro time _
    rw [after_starting]
    split <;> rfl
  have made : ∀ later, 30000000 ≤ later → later ≤ timeout.nanos →
      socketExists startingSocket (starting.after later) = true := by
    intro later behind _
    rw [after_starting, if_neg (Nat.not_lt.2 behind)]
    exact (by decide +kernel : socketExists startingSocket
      { starting with machine := making.act starting.machine } = true)
  have inTime := wait_in_time ⟨7⟩ startingSocket (by decide) least starting
  have ordered : Ordered starting.agenda := ordered_delivered (h := prompt) List.Pairwise.nil 7 sigquit
  have found := (inTime.2 (fun lag mem => nomatch mem) ordered alive).2.1
  exact ⟨least, by decide +kernel, found 30000000 (by decide) made⟩

end JvmAttach.Attach
