import JvmAttach.Proofs.Others

/-! The agenda of a host in the order of time. It is kept in that order, so that it makes no difference in how many
steps time goes by: at every time the same has been done. -/
namespace JvmAttach.Host

variable {h : Host} {first second : Duration}

/-- What is to be done earlier comes first on the agenda. -/
def Ordered (agenda : List Deed) : Prop := agenda.Pairwise (·.time ≤ ·.time)

theorem ordered_scheduled {agenda : List Deed} (ordered : Ordered agenda) (deed : Deed) :
    Ordered (scheduled deed agenda) := by
  fun_induction scheduled deed agenda with
  | case1 => exact List.pairwise_singleton _ _
  | case2 first rest before ih =>
    obtain ⟨least, ordered⟩ := List.pairwise_cons.1 ordered
    refine List.pairwise_cons.2 ⟨fun other mem => ?_, ih ordered⟩
    rcases mem_scheduled mem with rfl | mem
    · exact before
    · exact least other mem
  | case3 first rest behind =>
    have before : deed.time ≤ first.time := Nat.le_of_lt (Nat.lt_of_not_le behind)
    refine List.pairwise_cons.2 ⟨fun other mem => ?_, ordered⟩
    rcases List.mem_cons.1 mem with rfl | mem
    · exact before
    · exact Nat.le_trans before ((List.pairwise_cons.1 ordered).1 other mem)

theorem ordered_delivered (ordered : Ordered h.agenda) (target signal : Int) :
    Ordered (h.delivered target signal).agenda := by
  unfold delivered
  split
  · exact List.foldlRecOn (h.reaction target.toNat) _ ordered fun agenda ordered deed _ =>
      ordered_scheduled ordered _
  · exact ordered

theorem due_append_later {agenda : List Deed} (ordered : Ordered agenda) (time : Duration) :
    (agenda.filter fun deed => deed.time ≤ time) ++ (agenda.filter fun deed => !decide (deed.time ≤ time)) =
      agenda := by
  induction ordered with
  | nil => rfl
  | @cons deed rest before ordered ih =>
    by_cases due : deed.time ≤ time
    · simp only [List.filter_cons, decide_eq_true due, Bool.not_true, ↓reduceIte, List.cons_append, ih,
        Bool.false_eq_true]
    · have none : ∀ other ∈ deed :: rest, ¬ other.time ≤ time := by
        intro other mem early
        rcases List.mem_cons.1 mem with rfl | mem
        · exact due early
        · exact due (Nat.le_trans (before other mem) early)
      have nothing : (deed :: rest).filter (fun deed => deed.time ≤ time) = [] :=
        List.filter_eq_nil_iff.2 fun other mem => by simpa using none other mem
      have all : (deed :: rest).filter (fun deed => !decide (deed.time ≤ time)) = deed :: rest :=
        List.filter_eq_self.2 fun other mem => by simpa using none other mem
      rw [nothing, all, List.nil_append]

/-- What comes to pass in two steps comes to pass in one. -/
theorem passed_passed (ordered : Ordered h.agenda) (before : first ≤ second) :
    (h.passed first).passed second = h.passed second := by
  have due : (h.agenda.filter fun deed => deed.time ≤ second) =
      (h.agenda.filter fun deed => deed.time ≤ first) ++
        (h.agenda.filter fun deed => !decide (deed.time ≤ first)).filter fun deed => deed.time ≤ second := by
    have early : (h.agenda.filter fun deed => deed.time ≤ first).filter (fun deed => deed.time ≤ second) =
        h.agenda.filter fun deed => deed.time ≤ first := by
      refine List.filter_eq_self.2 fun deed mem => ?_
      have soon : deed.time ≤ first := by simpa using (List.mem_filter.1 mem).2
      exact decide_eq_true (Nat.le_trans soon before)
    rw [← early, ← List.filter_append, due_append_later ordered]
  have later : (h.agenda.filter fun deed => !decide (deed.time ≤ first)).filter
      (fun deed => !decide (deed.time ≤ second)) =
      h.agenda.filter fun deed => !decide (deed.time ≤ second) := by
    rw [List.filter_filter]
    refine List.filter_congr fun deed _ => ?_
    by_cases soon : deed.time ≤ first
    · have late : decide (deed.time ≤ second) = true := decide_eq_true (Nat.le_trans soon before)
      simp only [decide_eq_true soon, late, Bool.not_true, Bool.and_false]
    · simp only [decide_eq_false soon, Bool.not_false, Bool.and_true]
  simp only [passed, due, later, List.foldl_append]

/-- The host when some time has gone by. -/
def after (time : Nat) (h : Host) : Host := if time = 0 then h else h.passed ⟨h.clock.nanos + time⟩

theorem clock_after (time : Nat) (h : Host) : (h.after time).clock.nanos = h.clock.nanos + time := by
  unfold after
  split
  · rename_i none
    rw [none, Nat.add_zero]
  · rfl

theorem passed_after (ordered : Ordered h.agenda) {time later : Nat} (longer : time < later) :
    (h.after time).passed ⟨h.clock.nanos + later⟩ = h.after later := by
  have some : later ≠ 0 := by omega
  rw [after, after, if_neg some]
  split
  · rfl
  · refine passed_passed ordered ?_
    show h.clock.nanos + time ≤ h.clock.nanos + later
    omega

end JvmAttach.Host
