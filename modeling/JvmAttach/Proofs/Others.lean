import JvmAttach.Proofs.Effects

/-! What others do to the machine while we attach. They act while we sleep; a signal only puts more
of it on the agenda. What none of their deeds undoes is so throughout. -/
namespace JvmAttach

open Act

namespace Host

/-- No deed of the others, whether planned or done on a signal, undoes a property of the machine. -/
structure Undisturbed (P : Machine → Prop) (h : Host) : Prop where
  planned : ∀ deed ∈ h.agenda, ∀ m, P m → P (deed.act m)
  answered : ∀ number, ∀ deed ∈ h.reaction number, ∀ m, P m → P (deed.act m)

/-- A property holds of the machine, and the others leave it so. -/
def Stable (P : Machine → Prop) (h : Host) : Prop := P h.machine ∧ Undisturbed P h

variable {P : Machine → Prop} {h : Host}

theorem mem_scheduled {deed other : Deed} {agenda : List Deed} (mem : other ∈ scheduled deed agenda) :
    other = deed ∨ other ∈ agenda := by
  induction agenda with
  | nil => exact .inl (List.mem_singleton.1 mem)
  | cons first rest ih =>
    simp only [scheduled] at mem
    split at mem
    · rcases List.mem_cons.1 mem with rfl | later
      · exact .inr List.mem_cons_self
      · exact (ih later).imp_right (List.mem_cons_of_mem _)
    · exact List.mem_cons.1 mem

theorem holds_foldl {deeds : List Deed} (keep : ∀ deed ∈ deeds, ∀ m, P m → P (deed.act m)) {m : Machine}
    (holds : P m) : P (deeds.foldl (fun m deed => deed.act m) m) := by
  induction deeds generalizing m with
  | nil => exact holds
  | cons deed deeds ih =>
    have first := keep deed List.mem_cons_self m holds
    exact ih (fun other mem => keep other (List.mem_cons_of_mem _ mem)) first

theorem Stable.sleep (stable : Stable P h) (d : Duration) : Stable P (h.sleep d) := by
  obtain ⟨holds, planned, answered⟩ := stable
  refine ⟨?_, ?_, answered⟩
  · exact holds_foldl (fun deed mem => planned deed (List.mem_filter.1 mem).1) holds
  · exact fun deed mem => planned deed (List.mem_filter.1 mem).1

theorem keep_scheduled {deeds agenda : List Deed} (start : Nat)
    (reacting : ∀ deed ∈ deeds, ∀ m, P m → P (deed.act m))
    (before : ∀ deed ∈ agenda, ∀ m, P m → P (deed.act m)) :
    ∀ deed ∈ deeds.foldl (fun agenda deed => scheduled ⟨⟨start + deed.time.nanos⟩, deed.act⟩ agenda) agenda,
      ∀ m, P m → P (deed.act m) := by
  induction deeds generalizing agenda with
  | nil => exact before
  | cons deed deeds ih =>
    refine ih (fun other mem => reacting other (List.mem_cons_of_mem _ mem)) fun other mem => ?_
    rcases mem_scheduled mem with rfl | earlier
    · exact reacting deed List.mem_cons_self
    · exact before other earlier

theorem Stable.delivered (stable : Stable P h) (target signal : Int) : Stable P (h.delivered target signal) := by
  obtain ⟨holds, planned, answered⟩ := stable
  simp only [Host.delivered]
  split
  · exact ⟨holds, keep_scheduled h.clock.nanos (answered target.toNat) planned, answered⟩
  · exact ⟨holds, planned, answered⟩

theorem Stable.kill (target signal : Int) :
    Leads (fun s t => Stable P s → Stable P t) (kill target signal) := by
  intro h stable
  have noted : Stable P (record (.signal target signal) h) := ⟨stable.1, stable.2.planned, stable.2.answered⟩
  simp only [Host.kill, run_change_bind, run_look_bind]
  cases signalFault target signal (record (.signal target signal) h) with
  | some fault => exact noted
  | none => exact noted.delivered target signal

end Host

namespace Attach

theorem stable_summon (P : Host.Machine → Prop) (pid : Pid) (socket : Path) (timeout : Duration)
    (trigger : Path) :
    Leads (fun s t => Host.Stable P s → Host.Stable P t) (summon pid socket timeout trigger) := by
  have lasting := Lasting.keeping (Host.Stable P)
  refine leads_summon lasting (fun number => ?_) (fun d h stable => stable.sleep d) socket timeout trigger
  exact leads_signal lasting number fun _ => Host.Stable.kill pid.raw number

end Attach

end JvmAttach
