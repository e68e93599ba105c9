import JvmAttach.Proofs.Entries
import JvmAttach.Proofs.Walk

/-! Walks when a file or a directory is made. They all go as before, but for the one that ended where it was
missing: it now ends at the new node. -/
namespace JvmAttach.Host.Machine

variable {m : Machine} {c : Caller} {d parent : Inode} {name : Bytes} {node : Node}
variable {entries : List (Bytes × Inode)} {linked follow : Bool} {owner : UInt32} {mode : Nat}

theorem enter_of_node? (found : m.node? d = some ⟨.directory entries parent linked, owner, mode⟩)
    (name : Bytes) (node : Node) :
    m.enter d name node =
      (m.setNode d ⟨.directory ((name, m.fresh) :: without name entries) parent linked, owner, mode⟩).addNode
        node := by
  simp only [enter, found]

theorem fresh_setNode (m : Machine) (i : Inode) (node : Node) : (m.setNode i node).fresh = m.fresh :=
  List.length_set

theorem node?_enter_self (found : m.node? d = some ⟨.directory entries parent linked, owner, mode⟩)
    (name : Bytes) (node : Node) :
    (m.enter d name node).node? d =
      some ⟨.directory ((name, m.fresh) :: without name entries) parent linked, owner, mode⟩ := by
  have inside := lt_fresh_of_node? found
  rw [enter_of_node? found, node?_addNode_of_lt (by rw [fresh_setNode]; exact inside),
    node?_setNode_self inside]

theorem node?_enter_fresh (found : m.node? d = some ⟨.directory entries parent linked, owner, mode⟩)
    (name : Bytes) (node : Node) : (m.enter d name node).node? m.fresh = some node := by
  rw [enter_of_node? found]
  simpa only [fresh_setNode] using node?_addNode_fresh (m.setNode d _) node

theorem node?_enter_of_ne (found : m.node? d = some ⟨.directory entries parent linked, owner, mode⟩)
    (name : Bytes) (node : Node) {i : Inode} (apart : i ≠ d) (inside : i < m.fresh) :
    (m.enter d name node).node? i = m.node? i := by
  rw [enter_of_node? found, node?_addNode_of_lt (by rw [fresh_setNode]; exact inside),
    node?_setNode_of_ne m (Ne.symm apart)]

theorem process?_enter (found : m.node? d = some ⟨.directory entries parent linked, owner, mode⟩)
    (name : Bytes) (node : Node) : (m.enter d name node).process? = m.process? := by
  rw [enter_of_node? found]
  rfl

theorem lookup_enter (found : m.node? d = some ⟨.directory entries parent linked, owner, mode⟩)
    (node : Node) {place : Place} {key : Bytes} {result : Option Place}
    (looked : m.lookup c place key = .ok result) (apart : ¬ (place = .node d ∧ key = name)) :
    (m.enter d name node).lookup c place key = .ok result := by
  cases place with
  | status number => cases looked
  | process number table =>
    simp only [lookup, process?_enter found] at looked ⊢
    exact looked
  | node i =>
    by_cases same : i = d
    · subst same
      have other : key ≠ name := fun equal => apart ⟨rfl, equal⟩
      have passed : (key == name) = false := beq_eq_false_iff_ne.2 other
      simp only [lookup, found] at looked
      simp only [lookup, node?_enter_self found, List.lookup_cons, passed, lookup_without_of_ne other]
      exact looked
    · cases there : m.node? i with
      | none => simp [lookup, there] at looked
      | some old =>
        have inside := lt_fresh_of_node? there
        simp only [lookup, there] at looked
        simp only [lookup, node?_enter_of_ne found name node same inside, there, processNumber?,
          process?_enter found]
        exact looked

theorem lookup_enter_new (found : m.node? d = some ⟨.directory entries parent linked, owner, mode⟩)
    (node : Node) (missed : m.lookup c (.node d) name = .ok none) :
    (m.enter d name node).lookup c (.node d) name = .ok (some (.node m.fresh)) ∧ isDots name = false := by
  obtain ⟨searched, plain, short, _⟩ := lookup_missed found missed
  have again : Node.permits ⟨.directory ((name, m.fresh) :: without name entries) parent linked, owner, mode⟩ c.uid
      searchBit = true := searched
  refine ⟨?_, plain⟩
  simp only [isDots, Bool.or_eq_false_iff] at plain
  simp only [lookup, node?_enter_self found, again, plain, Nat.not_lt.2 short, List.lookup_cons_self, Bool.not_true,
    Bool.false_eq_true, ↓reduceIte, Option.map_some]

theorem linkTarget?_enter (found : m.node? d = some ⟨.directory entries parent linked, owner, mode⟩)
    (name : Bytes) (plain : ∀ target, node.content ≠ .link target) (place : Place) :
    (m.enter d name node).linkTarget? place = m.linkTarget? place := by
  cases place with
  | process number table => rfl
  | status number => rfl
  | node i =>
    by_cases same : i = d
    · subst same
      simp only [linkTarget?, node?_enter_self found, found]
    · by_cases inside : i < m.fresh
      · simp only [linkTarget?, node?_enter_of_ne found name _ same inside]
      · have none : m.node? i = none := List.getElem?_eq_none (Nat.le_of_not_lt inside)
        by_cases last : i = m.fresh
        · subst last
          obtain ⟨content, uid, bits⟩ := node
          simp only [linkTarget?, node?_enter_fresh found, none]
          cases content with
          | link target => exact absurd rfl (plain target)
          | _ => rfl
        · have beyond : (m.enter d name node).node? i = Option.none := by
            have past : m.fresh < i := Nat.lt_of_le_of_ne (Nat.le_of_not_lt inside) (Ne.symm last)
            refine List.getElem?_eq_none ?_
            rw [enter_of_node? found]
            simp only [addNode, setNode, List.length_append, List.length_set, List.length_singleton]
            exact past
          simp only [linkTarget?, beyond, none]

/-- Where a walk ends that ended at a missing name, once there is something under that name. -/
def filled (d : Inode) (name : Bytes) (i : Inode) : Course → Course
  | .arrived spot =>
    .arrived (if spot = .entry (.node d) name none then .entry (.node d) name (some (.node i)) else spot)
  | course => course

theorem filled_arrived_of_ne {spot : Spot} (apart : spot ≠ .entry (.node d) name none) (i : Inode) :
    filled d name i (.arrived spot) = .arrived spot := by
  simp only [filled, if_neg apart]

theorem Descends.enter (found : m.node? d = some ⟨.directory entries parent linked, owner, mode⟩)
    (missed : m.lookup c (.node d) name = .ok none) (unlinked : ∀ target, node.content ≠ .link target)
    {place : Place} {walk : List Bytes} {course : Course} (walked : Descends m c follow place walk course) :
    Descends (m.enter d name node) c follow place walk (filled d name m.fresh course) := by
  -- what was found is not what was missing, so that it is found again
  have again {place next : Place} {key : Bytes} (looked : m.lookup c place key = .ok (some next)) :
      (m.enter d name node).lookup c place key = .ok (some next) := by
    refine lookup_enter found _ looked ?_
    rintro ⟨rfl, rfl⟩
    rw [missed] at looked
    cases looked
  have links := linkTarget?_enter found name unlinked
  induction walked with
  | here place => exact .here place
  | @missing place key looked =>
    by_cases new : place = .node d ∧ key = name
    · obtain ⟨rfl, rfl⟩ := new
      obtain ⟨there, undotted⟩ := lookup_enter_new found node missed
      have beyond : m.node? m.fresh = none := List.getElem?_eq_none (Nat.le_refl _)
      have plain : m.linkTarget? (.node m.fresh) = none := by simp only [linkTarget?, beyond]
      refine .last there ((links _).trans plain) ?_
      simp [undotted]
    · have apart : Spot.entry place key none ≠ .entry (.node d) name none := by
        rintro ⟨⟩
        exact new ⟨rfl, rfl⟩
      rw [filled_arrived_of_ne apart]
      exact .missing (lookup_enter found _ looked new)
  | unfollowed looked link stays =>
    rw [filled_arrived_of_ne]
    · exact .unfollowed (again looked) ((links _).trans link) stays
    · exact nofun
  | turned looked link goes => exact .turned (again looked) ((links _).trans link) goes
  | last looked plain ends =>
    rw [filled_arrived_of_ne]
    · exact .last (again looked) ((links _).trans plain) ends
    · subst ends
      split <;> exact nofun
  | past looked plain more later ih => exact .past (again looked) ((links _).trans plain) more ih

theorem Resolves.enter (found : m.node? d = some ⟨.directory entries parent linked, owner, mode⟩)
    (missed : m.lookup c (.node d) name = .ok none) (plain : ∀ target, node.content ≠ .link target)
    {budget : Nat} {place : Place} {walk : List Bytes}
    (resolves : Resolves m c follow budget place walk (.entry (.node d) name none)) :
    Resolves (m.enter d name node) c follow budget place walk (.entry (.node d) name (some (.node m.fresh))) := by
  generalize ended : Spot.entry (.node d) name none = spot at resolves
  induction resolves with
  | arrived walked =>
    subst ended
    have now := walked.enter found missed plain
    simp only [filled, ↓reduceIte] at now
    exact .arrived now
  | detour turned later ih => exact .detour (turned.enter found missed plain) (ih ended)

/-- A path to a missing name leads to what is made there. -/
theorem find_enter (found : m.node? d = some ⟨.directory entries parent linked, owner, mode⟩)
    (plain : ∀ target, node.content ≠ .link target) {path : Path}
    (ended : m.find c follow path = .ok (.entry (.node d) name none)) :
    (m.enter d name node).find c follow path = .ok (.entry (.node d) name (some (.node m.fresh))) := by
  obtain ⟨text, some, short, walked⟩ := find_eq_ok.1 ended
  exact find_eq_ok.2 ⟨text, some, short, walked.enter found (missed_of_find ended) plain⟩

end JvmAttach.Host.Machine
