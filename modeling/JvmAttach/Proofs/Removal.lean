import JvmAttach.Proofs.Making

/-! Making a file at a free name and removing it again. Removal hits the name as long as the path
leads to it. -/
namespace JvmAttach.Host.Machine

variable {m after : Machine} {c : Caller} {d : Inode} {name : Bytes} {path : Path}

/-- A path leads to a name that can be removed from its directory. -/
structure Reaches (m : Machine) (c : Caller) (path : Path) (d : Inode) (name : Bytes) : Prop where
  found : ∃ place, m.find c false path = .ok (.entry (.node d) name (some place)) ∧
    ∃ attributes, m.attributes place = .ok attributes ∧ attributes.kind ≠ .directory
  writable : m.writable c (.node d) = .ok d

theorem remove_of_reaches (reaches : Reaches m c path d name) : m.remove c path = .ok (m.unlink d name) := by
  obtain ⟨⟨place, found, attributes, known, file⟩, writable⟩ := reaches
  simp only [remove, found, writable, known, if_neg file]

theorem exists_of_remove (removed : m.remove c path = .ok after) :
    ∃ d name, Reaches m c path d name ∧ after = m.unlink d name := by
  unfold remove at removed
  split at removed
  · cases removed
  · cases removed
  · cases removed
  · rename_i directory name place found
    split at removed
    · cases removed
    · rename_i i writable
      obtain ⟨rfl, _⟩ := writable_eq_ok writable
      split at removed
      · cases removed
      · rename_i attributes known
        split at removed
        · cases removed
        · rename_i file
          cases removed
          exact ⟨i, name, ⟨⟨place, found, attributes, known, file⟩, writable⟩, rfl⟩

def removed (m : Machine) (c : Caller) (path : Path) : Machine :=
  match m.remove c path with
  | .ok after => after
  | .error _ => m

theorem named_removed (m : Machine) (c : Caller) (path : Path) (d : Inode) (name : Bytes) :
    (m.removed c path).Named d name ↔ m.Named d name ∧ ¬ Reaches m c path d name := by
  by_cases reaches : Reaches m c path d name
  · rw [removed, remove_of_reaches reaches]
    simp [named_unlink, reaches]
  · cases result : m.remove c path with
    | error fault => simp [removed, result, reaches]
    | ok after =>
      obtain ⟨e, key, hit, rfl⟩ := exists_of_remove result
      have apart : ¬ (e = d ∧ key = name) := by
        rintro ⟨rfl, rfl⟩
        exact reaches hit
      simp [removed, result, named_unlink, reaches, apart]

theorem openFile_free (free : m.find c false path = .ok (.entry (.node d) name none))
    (opened : m.openFile c true path = .ok after) :
    m.writable c (.node d) = .ok d ∧ after = m.enter d name ⟨.file [], c.uid, fileMode⟩ := by
  simp only [openFile, find_following free rfl, make] at opened
  split at opened
  · cases opened
  · rename_i i writable
    obtain ⟨same, _⟩ := writable_eq_ok writable
    cases same
    cases opened
    exact ⟨writable, rfl⟩

theorem reaches_enter (free : m.find c false path = .ok (.entry (.node d) name none))
    (writable : m.writable c (.node d) = .ok d) (bytes : Bytes) (uid : UInt32) (bits : Nat) :
    Reaches (m.enter d name ⟨.file bytes, uid, bits⟩) c path d name := by
  obtain ⟨_, entries, parent, owner, mode, found⟩ := writable_eq_ok writable
  have plain : ∀ target, (⟨.file bytes, uid, bits⟩ : Node).content ≠ .link target := fun _ => nofun
  refine ⟨⟨.node m.fresh, find_enter found plain free, ⟨.file, uid⟩, ?_, nofun⟩, ?_⟩
  · simp only [attributes, node?_enter_fresh found, Content.kind]
  · simp only [Machine.writable, found] at writable
    simp only [Machine.writable, node?_enter_self found]
    exact writable

theorem named_enter (writable : m.writable c (.node d) = .ok d) (name : Bytes) (node : Node) :
    (m.enter d name node).Named d name := by
  obtain ⟨_, entries, parent, owner, mode, found⟩ := writable_eq_ok writable
  rw [Named, entries_of_node? (node?_enter_self found name node), List.lookup_cons_self]
  rfl

end JvmAttach.Host.Machine
