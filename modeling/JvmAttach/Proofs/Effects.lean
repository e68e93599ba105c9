import JvmAttach.Attach.Listener
import JvmAttach.Proofs.Act

/-! Attaching changes a host in few ways: it sends signals to its target, sleeps, and makes and
removes a trigger. What lasts over each of these lasts over all of it. -/
namespace JvmAttach.Attach

open Act

namespace Watch

variable {ε σ : Type}

theorem leads_await (w : Watch ε σ) {R : σ → σ → Prop} (lasting : Lasting R)
    (naps : ∀ d s, R s (w.nap d s)) (checks : Leads R w.check) (timeout : Duration) (late : ε)
    (started delay : Duration) (s : σ) : R s (w.await timeout late started delay s).state := by
  fun_induction w.await timeout late started delay s with
  | case1 delay s ready => exact lasting.refl s
  | case2 delay s waiting ended => exact lasting.refl s
  | case3 delay s waiting early overflow => exact lasting.refl s
  | case4 delay s waiting early longer grown checked passed rest ih =>
    exact lasting.trans (lasting.trans (naps _ s) (checks _)) ih
  | case5 delay s waiting early longer grown checked failed =>
    exact lasting.trans (naps _ s) (checks _)

theorem lives_await (w : Watch ε σ) (checks : Lives w.check) (timeout : Duration) (late : ε)
    (started delay : Duration) (s : σ) : (w.await timeout late started delay s).outcome ≠ .aborted := by
  fun_induction w.await timeout late started delay s with
  | case1 delay s ready => exact nofun
  | case2 delay s waiting ended => exact nofun
  | case3 delay s waiting early overflow => exact nofun
  | case4 delay s waiting early longer grown checked passed rest ih => exact ih
  | case5 delay s waiting early longer grown checked failed => exact checks _

theorem ready_of_await (w : Watch ε σ) (timeout : Duration) (late : ε) (started delay : Duration) (s : σ)
    (ended : (w.await timeout late started delay s).outcome = .ok ()) :
    w.ready (w.await timeout late started delay s).state = true := by
  fun_induction w.await timeout late started delay s with
  | case1 delay s ready => exact ready
  | case2 delay s waiting late => cases ended
  | case3 delay s waiting early overflow => cases ended
  | case4 delay s waiting early longer grown checked passed rest ih => exact ih ended
  | case5 delay s waiting early longer grown checked failed => exact absurd ended failed

end Watch

variable {R : Host → Host → Prop} {pid : Pid} {inner : UInt32} {directory : Path}

theorem leads_signal (lasting : Lasting R) (number : Int)
    (sends : 0 < pid.raw → Leads R (Host.kill pid.raw number)) : Leads R (signal pid number) := by
  refine .mapError _ ?_
  by_cases named : pid.raw ≤ 0
  · simp only [sendSignal, if_pos named]
    exact .fail lasting _
  · simp only [sendSignal, if_neg named]
    exact sends (Int.not_le.1 named)

theorem leads_waiting (lasting : Lasting R) (probes : Leads R (probe pid))
    (sleeps : ∀ d h, R h (Host.sleep d h)) (socket : Path) (timeout : Duration) :
    Leads R (do
      awaitSocket pid socket timeout (← Act.look Host.clock)
      Act.tell (listenerUp pid socket)) := by
  refine .bind lasting (.look lasting _) fun started => ?_
  refine .bind lasting ?_ fun _ => .tell lasting _
  exact (socketWatch pid socket).leads_await lasting sleeps probes timeout _ started .zero

theorem leads_summon (lasting : Lasting R) (signals : ∀ number, Leads R (signal pid number))
    (sleeps : ∀ d h, R h (Host.sleep d h)) (socket : Path) (timeout : Duration) (trigger : Path) :
    Leads R (summon pid socket timeout trigger) := by
  refine .bind lasting (.tell lasting _) fun _ => ?_
  exact .bind lasting (signals _) fun _ => leads_waiting lasting (signals 0) sleeps socket timeout

namespace Trigger

theorem leads_create (lasting : Lasting R) (makes : ∀ path, Leads R (Host.createFile path)) :
    Leads R (create pid inner directory) := by
  refine .bind lasting (makes _).attempt fun made => ?_
  cases made with
  | ok done => exact .pure lasting _
  | error fault =>
    refine .bind lasting (.tell lasting _) fun _ => ?_
    exact .bind lasting ((makes _).mapError _) fun _ => .pure lasting _

theorem leads_discard (lasting : Lasting R) {path : Path} (removes : Leads R (Host.removeFile path)) :
    Leads R (discard path) := .bind lasting removes.attempt fun _ => .pure lasting _

end Trigger

theorem lives_signal (pid : Pid) (number : Int) : Lives (signal pid number) := by
  refine .mapError _ fun h => ?_
  by_cases named : pid.raw ≤ 0
  · simp only [sendSignal, if_pos named, run_fail, ne_eq, reduceCtorEq, not_false_eq_true]
  · simp only [sendSignal, if_neg named, Host.kill, run_change_bind, run_look_bind]
    cases Host.signalFault pid.raw number (Host.record (.signal pid.raw number) h) with
    | some fault => simp only [run_fail, ne_eq, reduceCtorEq, not_false_eq_true]
    | none => simp only [run_change, ne_eq, reduceCtorEq, not_false_eq_true]

theorem lives_summon (pid : Pid) (socket : Path) (timeout : Duration) (trigger : Path) :
    Lives (summon pid socket timeout trigger) := by
  refine .bind (fun _ => nofun) fun _ => .bind (lives_signal pid _) fun _ => .bind (fun _ => nofun) fun started => ?_
  refine .bind (fun h => ?_) fun _ _ => nofun
  exact (socketWatch pid socket).lives_await (lives_signal pid 0) timeout _ started .zero h

theorem caller_delivered (target number : Int) (h : Host) :
    (h.delivered target number).caller = h.caller := by
  by_cases quits : number = Host.sigquit
  · simp only [Host.delivered, if_pos quits]; rfl
  · simp only [Host.delivered, if_neg quits]

theorem caller_kill (target number : Int) (h : Host) :
    ((Host.kill target number).run h).state.caller = h.caller := by
  simp only [Host.kill, run_change_bind, run_look_bind]
  cases Host.signalFault target number (Host.record (.signal target number) h) with
  | some fault => rfl
  | none => exact caller_delivered target number _

theorem caller_summon (pid : Pid) (socket : Path) (timeout : Duration) (trigger : Path) :
    Leads (fun s t => t.caller = s.caller) (summon pid socket timeout trigger) := by
  have lasting := Lasting.unchanged Host.caller
  refine leads_summon lasting (fun number => ?_) (fun _ _ => rfl) socket timeout trigger
  exact leads_signal lasting number fun _ => caller_kill pid.raw number

end JvmAttach.Attach
