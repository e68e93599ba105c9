import JvmAttach.Proofs.Removal

/-! Walks when a name is taken away. They go as before, or they end where that name was, so that a path
which still leads somewhere leads where it led before. -/
namespace JvmAttach.Host.Machine

variable {m less : Machine} {c : Caller} {follow : Bool} {place target : Place} {key : Bytes}
variable {walk : List Bytes} {course : Course} {spot : Spot} {budget : Nat} {path : Path}

theorem node?_unlink (m : Machine) (d : Inode) (name : Bytes) (i : Inode) :
    (m.unlink d name).node? i = m.node? i ∨
      ∃ entries parent linked owner mode, m.node? i = some ⟨.directory entries parent linked, owner, mode⟩ ∧
        (m.unlink d name).node? i = some ⟨.directory (without name entries) parent linked, owner, mode⟩ := by
  unfold unlink
  split
  · rename_i entries parent linked owner mode there
    by_cases same : d = i
    · subst same
      exact .inr ⟨entries, parent, linked, owner, mode, there, node?_setNode_self (lt_fresh_of_node? there) _⟩
    · exact .inl (node?_setNode_of_ne m same _)
  · exact .inl rfl

theorem process?_unlink (m : Machine) (d : Inode) (name : Bytes) : (m.unlink d name).process? = m.process? := by
  unfold unlink
  split <;> rfl

/-- In a machine there is no more than in another one. A name that is asked for is missing or stands
for what it stands for there, and what it stands for is the same. -/
structure Thins (m less : Machine) : Prop where
  lookup (c : Caller) (place : Place) (key : Bytes) :
    less.lookup c place key = m.lookup c place key ∨ less.lookup c place key = .ok none
  linkTarget? (place : Place) : less.linkTarget? place = m.linkTarget? place
  attributes (place : Place) : less.attributes place = m.attributes place

theorem thins_refl (m : Machine) : Thins m m := ⟨fun _ _ _ => .inl rfl, fun _ => rfl, fun _ => rfl⟩

theorem lookup_unlink (m : Machine) (d : Inode) (name : Bytes) (c : Caller) (place : Place) (key : Bytes) :
    (m.unlink d name).lookup c place key = m.lookup c place key ∨
      (m.unlink d name).lookup c place key = .ok none := by
  cases place with
  | status number => exact .inl rfl
  | process number table => exact .inl (by simp only [Machine.lookup, process?_unlink])
  | node i =>
    rcases m.node?_unlink d name i with same | ⟨entries, parent, linked, owner, mode, there, now⟩
    · exact .inl (by simp only [Machine.lookup, same, processNumber?, process?_unlink])
    · -- who may search a directory does not depend on the names in it
      have again : Node.permits ⟨.directory (without name entries) parent linked, owner, mode⟩ c.uid searchBit =
          Node.permits ⟨.directory entries parent linked, owner, mode⟩ c.uid searchBit := rfl
      simp only [Machine.lookup, there, now, again]
      by_cases taken : key = name
      · rw [taken, lookup_without_self]
        split
        · exact .inl rfl
        · split
          · exact .inl rfl
          · split
            · exact .inl rfl
            · split
              · exact .inl rfl
              · exact .inr rfl
      · exact .inl (by rw [lookup_without_of_ne taken])

theorem thins_unlink (m : Machine) (d : Inode) (name : Bytes) : Thins m (m.unlink d name) where
  lookup := m.lookup_unlink d name
  linkTarget? place := by
    cases place with
    | process number table => rfl
    | status number => rfl
    | node i =>
      rcases m.node?_unlink d name i with same | ⟨_, _, _, _, _, there, now⟩
      · simp only [Machine.linkTarget?, same]
      · simp only [Machine.linkTarget?, there, now]
  attributes place := by
    cases place with
    | process number table => simp only [Machine.attributes, process?_unlink]
    | status number => simp only [Machine.attributes, process?_unlink]
    | node i =>
      rcases m.node?_unlink d name i with same | ⟨_, _, _, _, _, there, now⟩
      · simp only [Machine.attributes, same]
      · simp only [Machine.attributes, there, now, Content.kind]

theorem thins_removed (m : Machine) (c : Caller) (path : Path) : Thins m (m.removed c path) := by
  cases result : m.remove c path with
  | error fault =>
    rw [removed, result]
    exact thins_refl m
  | ok after =>
    obtain ⟨d, name, _, rfl⟩ := exists_of_remove result
    rw [removed, result]
    exact thins_unlink m d name

namespace Thins

variable (thins : Thins m less)

include thins

theorem found {next : Place} (looked : less.lookup c place key = .ok (some next)) :
    m.lookup c place key = .ok (some next) := by
  rcases thins.lookup c place key with same | missed
  · exact same.symm.trans looked
  · cases missed.symm.trans looked

theorem descends (walked : Descends less c follow place walk course) :
    Descends m c follow place walk course ∨ ∃ last key, course = .arrived (.entry last key none) := by
  induction walked with
  | here place => exact .inl (.here place)
  | missing looked => exact .inr ⟨_, _, rfl⟩
  | unfollowed looked link stays =>
    exact .inl (.unfollowed (thins.found looked) ((thins.linkTarget? _).symm.trans link) stays)
  | turned looked link goes =>
    exact .inl (.turned (thins.found looked) ((thins.linkTarget? _).symm.trans link) goes)
  | last looked plain ends =>
    exact .inl (.last (thins.found looked) ((thins.linkTarget? _).symm.trans plain) ends)
  | past looked plain more later ih =>
    have before := thins.found looked
    exact ih.imp (.past before ((thins.linkTarget? _).symm.trans plain) more) id

theorem resolves (walked : Resolves less c follow budget place walk spot) (leads : spot.place? = some target) :
    Resolves m c follow budget place walk spot := by
  induction walked with
  | arrived walked =>
    rcases thins.descends walked with before | ⟨last, key, missing⟩
    · exact .arrived before
    · cases missing
      cases leads
  | detour turned later ih =>
    rcases thins.descends turned with before | ⟨last, key, missing⟩
    · exact .detour before (ih leads)
    · cases missing

theorem find (ended : less.find c follow path = .ok spot) (leads : spot.place? = some target) :
    m.find c follow path = .ok spot := by
  obtain ⟨text, some, short, walked⟩ := find_eq_ok.1 ended
  exact find_eq_ok.2 ⟨text, some, short, thins.resolves walked leads⟩

end Thins

theorem stat_eq_ok {known : Attributes} : m.stat c path = .ok known ↔
    ∃ spot place, m.find c true path = .ok spot ∧ spot.place? = some place ∧ m.attributes place = .ok known := by
  unfold Machine.stat
  cases m.find c true path with
  | error fault => exact ⟨nofun, fun ⟨_, _, ended, _⟩ => nomatch ended⟩
  | ok spot =>
    cases leads : spot.place? with
    | none => simp [leads]
    | some place => simp [leads, mapError_eq_ok]

theorem Thins.stat (thins : Thins m less) {known : Attributes} (shown : less.stat c path = .ok known) :
    m.stat c path = .ok known := by
  obtain ⟨spot, place, ended, leads, same⟩ := stat_eq_ok.1 shown
  exact stat_eq_ok.2 ⟨spot, place, thins.find ended leads, leads, (thins.attributes place).symm.trans same⟩

end JvmAttach.Host.Machine
