import JvmAttach.Host.Files

/-! The names in directories, and how making and removing a file changes them. -/
namespace JvmAttach.Host.Machine

theorem lookup_without_self (name : Bytes) (entries : List (Bytes × Inode)) :
    (without name entries).lookup name = none := by
  rw [List.lookup_eq_none_iff]
  intro entry mem
  have kept := (List.mem_filter.1 mem).2
  simp only [bne_iff_ne, ne_eq] at kept
  simp [Ne.symm kept]

theorem lookup_without_of_ne {name other : Bytes} (apart : other ≠ name) (entries : List (Bytes × Inode)) :
    (without name entries).lookup other = entries.lookup other := by
  induction entries with
  | nil => rfl
  | cons entry entries ih =>
    obtain ⟨key, i⟩ := entry
    simp only [without] at ih
    by_cases same : key = name
    · subst same
      have passed : (other == key) = false := beq_eq_false_iff_ne.2 apart
      simp [without, List.lookup_cons, ih, passed]
    · simp [without, same, List.lookup_cons, ih]

/-- A name stands in a directory. -/
def Named (m : Machine) (directory : Inode) (name : Bytes) : Prop :=
  ((m.entries directory).lookup name).isSome = true

instance (m : Machine) (directory : Inode) (name : Bytes) : Decidable (m.Named directory name) :=
  inferInstanceAs (Decidable (_ = true))

theorem entries_setNode_self {m : Machine} {i : Inode} (inside : i < m.fresh)
    (entries : List (Bytes × Inode)) (parent : Inode) (linked : Bool) (owner : UInt32) (mode : Nat) :
    (m.setNode i ⟨.directory entries parent linked, owner, mode⟩).entries i = entries := by
  rw [Machine.entries, node?_setNode_self inside]

theorem entries_setNode_of_ne (m : Machine) {i j : Inode} (apart : i ≠ j) (node : Node) :
    (m.setNode i node).entries j = m.entries j := by
  rw [Machine.entries, node?_setNode_of_ne m apart, Machine.entries]

theorem entries_of_node? {m : Machine} {i parent : Inode} {entries : List (Bytes × Inode)} {linked : Bool}
    {owner : UInt32} {mode : Nat} (node : m.node? i = some ⟨.directory entries parent linked, owner, mode⟩) :
    m.entries i = entries := by
  rw [Machine.entries, node]

theorem exists_node?_of_mem {m : Machine} {i : Inode} {entry : Bytes × Inode} (listed : entry ∈ m.entries i) :
    ∃ entries parent linked owner mode, m.node? i = some ⟨.directory entries parent linked, owner, mode⟩ ∧
      m.entries i = entries := by
  unfold Machine.entries at listed
  split at listed
  · rename_i entries parent linked owner mode node
    exact ⟨entries, parent, linked, owner, mode, node, entries_of_node? node⟩
  · cases listed

theorem named_unlink (m : Machine) (directory other : Inode) (name key : Bytes) :
    (m.unlink directory name).Named other key ↔ m.Named other key ∧ ¬ (directory = other ∧ name = key) := by
  unfold unlink
  split
  · rename_i entries parent linked owner mode node
    by_cases same : directory = other
    · subst same
      rw [Named, Named, entries_setNode_self (lt_fresh_of_node? node), entries_of_node? node]
      by_cases equal : name = key
      · subst equal
        simp [lookup_without_self]
      · simp [lookup_without_of_ne (Ne.symm equal), equal]
    · rw [Named, Named, entries_setNode_of_ne m same]
      simp [same]
  · rename_i other_content
    constructor
    · intro named
      refine ⟨named, ?_⟩
      rintro ⟨rfl, rfl⟩
      obtain ⟨entry, listed, _⟩ := List.lookup_isSome_iff.1 named
      obtain ⟨entries, parent, linked, owner, mode, node, _⟩ := exists_node?_of_mem listed
      exact other_content entries parent linked owner mode node
    · exact And.left

theorem lookup_listed {m : Machine} {i j : Inode} {name : Bytes} (c : Caller)
    (listed : (m.entries i).lookup name = some j) (plain : isDots name = false)
    (short : name.length ≤ longestName) :
    m.lookup c (.node i) name = .ok (some (.node j)) ∨
      m.lookup c (.node i) name = .error Errno.accessDenied := by
  obtain ⟨front, back, whole, _⟩ := List.lookup_eq_some_iff.1 listed
  have mem : (name, j) ∈ m.entries i := by simp [whole]
  obtain ⟨entries, parent, linked, owner, mode, node, rfl⟩ := exists_node?_of_mem mem
  simp only [isDots, Bool.or_eq_false_iff] at plain
  simp only [lookup, node, plain, Nat.not_lt.2 short, listed]
  split
  · exact .inr rfl
  · exact .inl rfl

theorem lookup_missed {m : Machine} {c : Caller} {d parent : Inode} {name : Bytes}
    {entries : List (Bytes × Inode)} {linked : Bool} {owner : UInt32} {mode : Nat}
    (found : m.node? d = some ⟨.directory entries parent linked, owner, mode⟩)
    (missed : m.lookup c (.node d) name = .ok none) :
    Node.permits ⟨.directory entries parent linked, owner, mode⟩ c.uid searchBit = true ∧
      isDots name = false ∧ name.length ≤ longestName ∧ entries.lookup name = none := by
  simp only [lookup, found] at missed
  split at missed
  · cases missed
  · rename_i searched
    split at missed
    · cases missed
    · rename_i undotted
      split at missed
      · cases missed
      · rename_i undoubled
        split at missed
        · cases missed
        · rename_i short
          refine ⟨by simpa using searched, by simp [isDots, undotted, undoubled], Nat.not_lt.1 short, ?_⟩
          exact Option.map_eq_none_iff.1 (Except.ok.inj missed)

theorem writable_eq_ok {m : Machine} {c : Caller} {place : Place} {d : Inode} (writable : m.writable c place = .ok d) :
    place = .node d ∧ ∃ entries parent owner mode,
      m.node? d = some ⟨.directory entries parent true, owner, mode⟩ := by
  cases place with
  | process number table => cases writable
  | status number => cases writable
  | node i =>
    simp only [Machine.writable] at writable
    split at writable
    · rename_i node found
      obtain ⟨content, owner, mode⟩ := node
      split at writable
      · rename_i entries parent linked kind
        cases linked with
        | false => simp at writable
        | true =>
          simp only at kind
          subst kind
          split at writable
          · cases writable
          · split at writable
            · cases writable
              exact ⟨rfl, entries, parent, owner, mode, found⟩
            · cases writable
      · cases writable
    · cases writable

end JvmAttach.Host.Machine
