import JvmAttach.Proofs.Removal

/-! What is left as it was when a file is made or removed. Opening a file to write it anew empties at
most one file and takes no name away; a removal takes away one name and changes no file. -/
namespace JvmAttach.Host

/-- A node without the names in it, which are entries of their own. -/
def Node.unlisted (node : Node) : Node :=
  match node.content with
  | .directory _ parent linked => { node with content := .directory [] parent linked }
  | _ => node

/-- What emptying a file does not change. -/
def Node.shape (node : Node) : FileKind × UInt32 × Nat := (node.content.kind, node.owner, node.mode)

theorem Node.shape_unlisted (node : Node) : node.unlisted.shape = node.shape := by
  obtain ⟨content, owner, mode⟩ := node
  cases content <;> rfl

namespace Machine

variable {m after : Machine} {c : Caller} {path : Path} {d i : Inode} {name : Bytes} {node : Node}

/-- A name in a directory stands for a node. -/
def Binds (d : Inode) (name : Bytes) (i : Inode) (m : Machine) : Prop := (m.entries d).lookup name = some i

instance (d : Inode) (name : Bytes) (i : Inode) (m : Machine) : Decidable (Binds d name i m) :=
  inferInstanceAs (Decidable (_ = _))

/-- A node is what it was, whatever names came and went in it. -/
def Keeps (i : Inode) (node : Node) (m : Machine) : Prop := (m.node? i).map Node.unlisted = some node.unlisted

/-- A node is of the kind it was, and of the same owner and mode. -/
def Shapes (i : Inode) (node : Node) (m : Machine) : Prop := (m.node? i).map Node.shape = some node.shape

theorem Keeps.of_node? (found : m.node? i = some node) : Keeps i node m := by rw [Keeps, found]; rfl

theorem Shapes.of_node? (found : m.node? i = some node) : Shapes i node m := by rw [Shapes, found]; rfl

theorem Keeps.shapes (keeps : Keeps i node m) : Shapes i node m := by
  obtain ⟨now, found, same⟩ := Option.map_eq_some_iff.1 keeps
  rw [Shapes, found, Option.map_some, ← now.shape_unlisted, same, node.shape_unlisted]

theorem Binds.lt_fresh (binds : Binds d name i m) : d < m.fresh := by
  obtain ⟨front, back, whole, _⟩ := List.lookup_eq_some_iff.1 binds
  have mem : (name, i) ∈ m.entries d := by simp [whole]
  obtain ⟨entries, parent, linked, owner, mode, found, _⟩ := exists_node?_of_mem mem
  exact lt_fresh_of_node? found

/-- From one machine to another nothing is lost but some names and what was in some files. -/
structure Spares (taken : Inode → Bytes → Prop) (emptied : Inode → Prop) (m after : Machine) : Prop where
  binds {d : Inode} {name : Bytes} {i : Inode} : Binds d name i m → ¬ taken d name → Binds d name i after
  keeps {i : Inode} {node : Node} : Keeps i node m → ¬ emptied i → Keeps i node after
  shapes {i : Inode} {node : Node} : Shapes i node m → Shapes i node after

theorem Spares.of_keeps {taken : Inode → Bytes → Prop}
    (binds : ∀ {d name i}, Binds d name i m → ¬ taken d name → Binds d name i after)
    (keeps : ∀ {i node}, m.node? i = some node → Keeps i node after) : Spares taken (fun _ => False) m after where
  binds := binds
  keeps := by
    intro i node kept _
    obtain ⟨now, found, same⟩ := Option.map_eq_some_iff.1 kept
    rw [Keeps, ← same]
    exact keeps found
  shapes := by
    intro i node shaped
    obtain ⟨now, found, same⟩ := Option.map_eq_some_iff.1 shaped
    rw [Shapes, ← same]
    exact (keeps found).shapes

theorem spares_refl (taken : Inode → Bytes → Prop) (m : Machine) : Spares taken (fun _ => False) m m :=
  .of_keeps (fun binds _ => binds) Keeps.of_node?

theorem spares_empty {bytes : Bytes} (found : m.node? i = some node) (file : node.content = .file bytes) :
    Spares (fun _ _ => False) (· = i) m (m.setNode i { node with content := .file [] }) where
  binds := by
    intro d name j binds _
    have apart : i ≠ d := by
      rintro rfl
      obtain ⟨content, owner, mode⟩ := node
      cases file
      rw [Binds, entries, found] at binds
      cases binds
    rw [Binds, entries_setNode_of_ne m apart]
    exact binds
  keeps := by
    intro j other kept apart
    rw [Keeps, node?_setNode_of_ne m (Ne.symm apart)]
    exact kept
  shapes := by
    intro j other shaped
    by_cases same : i = j
    · subst same
      rw [Shapes, found] at shaped
      rw [Shapes, node?_setNode_self (lt_fresh_of_node? found), ← shaped]
      simp only [Option.map_some, Node.shape, file, Content.kind]
    · rw [Shapes, node?_setNode_of_ne m same]
      exact shaped

theorem spares_enter {entries : List (Bytes × Inode)} {parent : Inode} {linked : Bool} {owner : UInt32} {mode : Nat}
    (found : m.node? d = some ⟨.directory entries parent linked, owner, mode⟩) (free : entries.lookup name = none)
    (node : Node) : Spares (fun _ _ => False) (fun _ => False) m (m.enter d name node) := by
  refine .of_keeps ?_ ?_
  · intro e key i binds _
    by_cases same : e = d
    · subst same
      rw [Binds, entries_of_node? found] at binds
      have apart : key ≠ name := by
        rintro rfl
        rw [free] at binds
        cases binds
      rw [Binds, entries_of_node? (node?_enter_self found name node), List.lookup_cons,
        beq_eq_false_iff_ne.2 apart, lookup_without_of_ne apart]
      exact binds
    · rw [Binds, Machine.entries, node?_enter_of_ne found name node same binds.lt_fresh]
      exact binds
  · intro i old there
    by_cases same : i = d
    · subst same
      cases found.symm.trans there
      rw [Keeps, node?_enter_self found]
      rfl
    · exact .of_node? ((node?_enter_of_ne found name node same (lt_fresh_of_node? there)).trans there)

theorem spares_unlink (m : Machine) (d : Inode) (name : Bytes) :
    Spares (fun e key => e = d ∧ key = name) (fun _ => False) m (m.unlink d name) := by
  unfold unlink
  split
  · rename_i entries parent linked owner mode found
    have inside := lt_fresh_of_node? found
    refine .of_keeps ?_ ?_
    · intro e key i binds apart
      by_cases same : d = e
      · subst same
        have other : key ≠ name := fun equal => apart ⟨rfl, equal⟩
        rw [Binds, entries_setNode_self inside, lookup_without_of_ne other, ← entries_of_node? found]
        exact binds
      · rw [Binds, entries_setNode_of_ne m same]
        exact binds
    · intro i old there
      by_cases same : d = i
      · subst same
        cases found.symm.trans there
        rw [Keeps, node?_setNode_self inside]
        rfl
      · exact .of_node? ((node?_setNode_of_ne m same _).trans there)
  · exact spares_refl _ m

theorem Spares.mono {taken taken' : Inode → Bytes → Prop} {emptied emptied' : Inode → Prop}
    (spares : Spares taken emptied m after) (names : ∀ d name, taken d name → taken' d name)
    (files : ∀ i, emptied i → emptied' i) : Spares taken' emptied' m after where
  binds binds apart := spares.binds binds (mt (names _ _) apart)
  keeps keeps apart := spares.keeps keeps (mt (files _) apart)
  shapes := spares.shapes

/-- Through links, a path leads to a node. -/
def LeadsTo (m : Machine) (c : Caller) (path : Path) (i : Inode) : Prop :=
  ∃ spot, m.find c true path = .ok spot ∧ spot.place? = some (.node i)

theorem openNode_file {place : Place} (opened : m.openNode c true place = .ok after) :
    ∃ i node bytes, place = .node i ∧ m.node? i = some node ∧ node.content = .file bytes ∧
      after = m.setNode i { node with content := .file [] } := by
  cases place with
  | process number table => cases opened
  | status number => cases opened
  | node i =>
    simp only [openNode] at opened
    split at opened
    · cases opened
    · rename_i node found
      split at opened
      · rename_i bytes file
        split at opened
        · cases opened
        · cases opened
          exact ⟨i, node, bytes, rfl, found, file, rfl⟩
      · cases opened
      · cases opened
      · cases opened

theorem openFile_cases (opened : m.openFile c true path = .ok after) :
    (∃ i node bytes, LeadsTo m c path i ∧ m.node? i = some node ∧ node.content = .file bytes ∧
      after = m.setNode i { node with content := .file [] }) ∨
    ∃ d name, m.find c true path = .ok (.entry (.node d) name none) ∧ m.writable c (.node d) = .ok d ∧
      after = m.enter d name ⟨.file [], c.uid, fileMode⟩ := by
  unfold openFile at opened
  split at opened
  · cases opened
  · rename_i place found
    obtain ⟨i, node, bytes, rfl, there, file, emptied⟩ := openNode_file opened
    exact .inl ⟨i, node, bytes, ⟨_, found, rfl⟩, there, file, emptied⟩
  · rename_i place found
    obtain ⟨i, node, bytes, rfl, there, file, emptied⟩ := openNode_file opened
    exact .inl ⟨i, node, bytes, ⟨_, found, rfl⟩, there, file, emptied⟩
  · rename_i directory name found
    simp only [make] at opened
    split at opened
    · cases opened
    · rename_i d writable
      obtain ⟨rfl, _⟩ := writable_eq_ok writable
      cases opened
      exact .inr ⟨d, name, found, writable, rfl⟩

theorem spares_openFile (opened : m.openFile c true path = .ok after) :
    Spares (fun _ _ => False) (LeadsTo m c path) m after := by
  rcases openFile_cases opened with ⟨i, node, bytes, leads, found, file, rfl⟩ | ⟨d, name, found, writable, rfl⟩
  · exact (spares_empty found file).mono (fun _ _ => id) (by rintro _ rfl; exact leads)
  · obtain ⟨_, entries, parent, owner, mode, there⟩ := writable_eq_ok writable
    obtain ⟨_, _, _, free⟩ := lookup_missed there (missed_of_find found)
    exact (spares_enter there free _).mono (fun _ _ => id) (fun _ => False.elim)

theorem emptied_of_leads (opened : m.openFile c true path = .ok after) (leads : LeadsTo m c path i)
    (there : m.node? i = some node) :
    (∃ bytes, node.content = .file bytes) ∧ after.node? i = some { node with content := .file [] } := by
  obtain ⟨spot, found, place⟩ := leads
  rcases openFile_cases opened with
    ⟨j, _, bytes, ⟨spot', found', place'⟩, there', file, rfl⟩ | ⟨d, name, missed, _⟩
  · cases found.symm.trans found'
    cases place.symm.trans place'
    cases there.symm.trans there'
    exact ⟨⟨bytes, file⟩, node?_setNode_self (lt_fresh_of_node? there) _⟩
  · cases found.symm.trans missed
    cases place

theorem spares_removed (m : Machine) (c : Caller) (path : Path) :
    Spares (Reaches m c path) (fun _ => False) m (m.removed c path) := by
  cases result : m.remove c path with
  | error fault =>
    have same : m.removed c path = m := by rw [removed, result]
    rw [same]
    exact spares_refl _ m
  | ok after =>
    obtain ⟨d, name, reaches, rfl⟩ := exists_of_remove result
    have same : m.removed c path = m.unlink d name := by rw [removed, result]
    rw [same]
    exact (spares_unlink m d name).mono (by rintro _ _ ⟨rfl, rfl⟩; exact reaches) (fun _ => id)

end Machine

end JvmAttach.Host
