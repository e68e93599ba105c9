import JvmAttach.Proofs.Gone
import JvmAttach.Proofs.Paths
import JvmAttach.Proofs.TriggerMaking

/-! The last name of a path. Where a link at the end is not followed, a path ends at an entry with that
name or nowhere, through whatever links it leads; so what is removed with a trigger has its name. -/
namespace JvmAttach

namespace Host.Machine

variable {m : Machine} {c : Caller} {path : Path} {d : Inode} {name : Bytes}

/-- A walk that does not follow a link at its end ends at the last of its names. -/
theorem Descends.last_name {place directory : Place} {walk : List Bytes} {found : Option Place}
    (walked : Descends m c false place walk (.arrived (.entry directory name found))) :
    walk.getLast? = some name := by
  generalize ended : Course.arrived (.entry directory name found) = course at walked
  induction walked with
  | here | turned => cases ended
  | missing | unfollowed => cases ended; rfl
  | last looked plain ends =>
    cases ended
    split at ends
    · cases ends
    · cases ends; rfl
  | past looked plain more later ih => rw [List.getLast?_cons_of_ne_nil more, ih ended]

theorem Descends.rest_last {place directory : Place} {walk rest : List Bytes} {target : Bytes}
    (walked : Descends m c false place walk (.detour directory target rest)) :
    rest ≠ [] ∧ rest.getLast? = walk.getLast? := by
  generalize ended : Course.detour directory target rest = course at walked
  induction walked with
  | here | missing | unfollowed | last => cases ended
  | turned looked link goes =>
    cases ended
    have more := goes.resolve_right nofun
    exact ⟨more, (List.getLast?_cons_of_ne_nil more).symm⟩
  | past looked plain more later ih =>
    obtain ⟨some, same⟩ := ih ended
    exact ⟨some, by rw [same, List.getLast?_cons_of_ne_nil more]⟩

theorem Resolves.last_name {budget : Nat} {place directory : Place} {walk : List Bytes} {found : Option Place}
    (resolves : Resolves m c false budget place walk (.entry directory name found)) :
    walk.getLast? = some name := by
  generalize ended : Spot.entry directory name found = spot at resolves
  induction resolves with
  | arrived walked => subst ended; exact walked.last_name
  | detour turned later ih =>
    -- the names of a link's target come before those still to go, of which there are some
    obtain ⟨more, same⟩ := turned.rest_last
    have last := ih ended
    rw [List.getLast?_append_of_ne_nil _ more, same] at last
    exact last

theorem Reaches.last_name (reaches : Reaches m c path d name) : (names path.bytes).getLast? = some name := by
  obtain ⟨place, found, _⟩ := reaches.found
  exact (find_eq_ok.1 found).2.2.2.last_name

theorem names_of_pieces {whole name : Bytes} {ps : List Bytes} (plain : name ≠ [])
    (unclosed : whole.getLast? ≠ some Path.slash) (cut : pieces Path.slash whole = ps ++ [name]) :
    (names whole).getLast? = some name := by
  have kept : [name].filter (!·.isEmpty) = [name] := by simp [plain]
  have idle : (whole.getLast? == some Path.slash) = false := beq_eq_false_iff_ne.2 unclosed
  simp only [names, cut, List.filter_append, kept, idle, Bool.false_and, Bool.false_eq_true, ↓reduceIte,
    List.getLast?_concat]

theorem names_join (p : Path) {q : Path} (plain : q.bytes ≠ []) (free : Path.slash ∉ q.bytes) :
    (names (p.join q).bytes).getLast? = some q.bytes := by
  have relative : q.isAbsolute = false := by
    rw [Path.isAbsolute, beq_eq_false_iff_ne]
    exact fun first => free (List.mem_of_head? first)
  have last := pieces_of_free Path.slash q.bytes free
  have unclosed : q.bytes.getLast? ≠ some Path.slash := fun last => free (List.mem_of_getLast? last)
  have behind (front : Bytes) : (names (front ++ Path.slash :: q.bytes)).getLast? = some q.bytes := by
    refine names_of_pieces plain ?_ ((pieces_append Path.slash front q.bytes).trans (by rw [last]))
    rw [List.getLast?_append_of_ne_nil _ (List.cons_ne_nil _ _), List.getLast?_cons_of_ne_nil plain]
    exact unclosed
  simp only [Path.join, relative, Bool.false_eq_true, ↓reduceIte]
  split
  · rename_i closed
    rcases Bool.or_eq_true_iff.1 closed with empty | slashed
    · rw [List.isEmpty_iff.1 empty, List.nil_append]
      exact names_of_pieces plain unclosed (last.trans (List.nil_append _).symm)
    · obtain ⟨front, whole⟩ := List.getLast?_eq_some_iff.1 (beq_iff_eq.1 slashed)
      rw [whole, List.append_assoc, List.singleton_append]
      exact behind front
  · exact behind p.bytes

end Host.Machine

namespace Attach

open Host Host.Machine

theorem plain_name (inner : UInt32) :
    (Trigger.name inner).bytes ≠ [] ∧ Path.slash ∉ (Trigger.name inner).bytes := by
  have stem : Text.bytesOf Trigger.stem ≠ [] ∧ Path.slash ∉ Text.bytesOf Trigger.stem := by decide +kernel
  have digits : Path.slash ∉ Text.bytesOf (toString inner.toNat) :=
    Text.free_of_digits fun _ => Text.isDigit_of_mem_toString
  rw [Trigger.name, Path.ofString, Text.bytesOf_append]
  exact ⟨List.append_ne_nil_of_left_ne_nil stem.1 _, List.not_mem_append stem.2 digits⟩

theorem name_of_reaches {pid : Pid} {inner : UInt32} {directory trigger : Path} {m : Machine} {c : Caller}
    {d : Inode} {name : Bytes} (place : trigger ∈ Trigger.places pid inner directory)
    (reaches : Reaches m c trigger d name) : name = (Trigger.name inner).bytes := by
  obtain ⟨plain, free⟩ := plain_name inner
  have last := reaches.last_name
  rcases List.mem_cons.1 place with rfl | rest
  · rw [Trigger.inDirectory, names_join _ plain free] at last
    exact (Option.some.inj last).symm
  · rw [List.mem_singleton.1 rest, Trigger.inTemporary, names_join _ plain free] at last
    exact (Option.some.inj last).symm

end Attach

end JvmAttach
