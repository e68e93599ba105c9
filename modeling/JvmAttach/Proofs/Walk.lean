import JvmAttach.Host.Walk

/-! Walks along paths as derivations, one rule for each thing that a step can find. A walk that ends
at a missing name asked for that name, and does not depend on what is done with links at an end. -/
namespace JvmAttach.Host.Machine

variable {m : Machine} {c : Caller} {follow : Bool} {path : Path} {place : Place} {key : Bytes}
variable {walk : List Bytes} {course : Course} {spot : Spot} {budget : Nat}

/-- A walk without detours. -/
inductive Descends (m : Machine) (c : Caller) (follow : Bool) : Place → List Bytes → Course → Prop
  | here (place : Place) : Descends m c follow place [] (.arrived (.here place))
  | missing {place : Place} {key : Bytes} (looked : m.lookup c place key = .ok none) :
      Descends m c follow place [key] (.arrived (.entry place key none))
  | unfollowed {place next : Place} {key target : Bytes}
      (looked : m.lookup c place key = .ok (some next)) (link : m.linkTarget? next = some target)
      (stays : follow = false) : Descends m c follow place [key] (.arrived (.entry place key (some next)))
  | turned {place next : Place} {key target : Bytes} {rest : List Bytes}
      (looked : m.lookup c place key = .ok (some next)) (link : m.linkTarget? next = some target)
      (goes : rest ≠ [] ∨ follow = true) :
      Descends m c follow place (key :: rest) (.detour place target rest)
  | last {place next : Place} {key : Bytes} {spot : Spot}
      (looked : m.lookup c place key = .ok (some next)) (plain : m.linkTarget? next = none)
      (ends : spot = if isDots key then .here next else .entry place key (some next)) :
      Descends m c follow place [key] (.arrived spot)
  | past {place next : Place} {key : Bytes} {rest : List Bytes} {course : Course}
      (looked : m.lookup c place key = .ok (some next)) (plain : m.linkTarget? next = none)
      (more : rest ≠ []) (later : Descends m c follow next rest course) :
      Descends m c follow place (key :: rest) course

theorem Descends.of_descend (walked : m.descend c follow place walk = .ok course) :
    Descends m c follow place walk course := by
  induction walk generalizing place with
  | nil => cases walked; exact .here place
  | cons key rest ih =>
    cases looked : m.lookup c place key with
    | error fault => simp [descend, looked] at walked
    | ok result =>
      cases result with
      | none =>
        cases rest with
        | nil => simp only [descend, looked] at walked; cases walked; exact .missing looked
        | cons next rest => simp [descend, looked] at walked
      | some next =>
        cases link : m.linkTarget? next with
        | some target =>
          simp only [descend, looked, link] at walked
          split at walked
          · rename_i ending
            simp only [Bool.and_eq_true, List.isEmpty_iff, Bool.not_eq_true'] at ending
            obtain ⟨rfl, stays⟩ := ending
            cases walked
            exact .unfollowed looked link stays
          · rename_i going
            cases walked
            refine .turned looked link ?_
            by_cases last : rest = []
            · subst last
              exact .inr (by simpa using going)
            · exact .inl last
        | none =>
          cases rest with
          | nil => simp only [descend, looked, link] at walked; cases walked; exact .last looked link rfl
          | cons following rest =>
            simp only [descend, looked, link, List.isEmpty_cons, Bool.false_eq_true, ↓reduceIte] at walked
            exact .past looked link (List.cons_ne_nil _ _) (ih walked)

theorem Descends.descend (walked : Descends m c follow place walk course) :
    m.descend c follow place walk = .ok course := by
  induction walked with
  | here place => rfl
  | missing looked => simp only [Machine.descend, looked, List.isEmpty_nil, ↓reduceIte]
  | unfollowed looked link stays => simp [Machine.descend, looked, link, stays]
  | turned looked link goes =>
    simp only [Machine.descend, looked, link]
    refine if_neg ?_
    rcases goes with more | follows
    · simp [more]
    · simp [follows]
  | last looked plain ends => simp only [Machine.descend, looked, plain, List.isEmpty_nil, ↓reduceIte, ends]
  | past looked plain more later ih => simp [Machine.descend, looked, plain, more, ih]

theorem Descends.missed {place last : Place}
    (walked : Descends m c follow place walk (.arrived (.entry last key none))) :
    m.lookup c last key = .ok none := by
  generalize ended : Course.arrived (.entry last key none) = course at walked
  induction walked with
  | here | unfollowed | turned => cases ended
  | missing looked => cases ended; exact looked
  | last looked plain ends =>
    cases ended
    split at ends <;> cases ends
  | past looked plain more later ih => exact ih ended

/-- Whether a link at the end is followed does not matter where there is nothing at the end. -/
theorem Descends.following (walked : Descends m c false place walk course)
    (nothing : ∀ spot, course = .arrived spot → spot.place? = none) :
    Descends m c true place walk course := by
  induction walked with
  | here place => exact .here place
  | missing looked => exact .missing looked
  | unfollowed looked link stays => exact nomatch nothing _ rfl
  | turned looked link goes => exact .turned looked link (.inr rfl)
  | last looked plain ends => exact .last looked plain ends
  | past looked plain more later ih => exact .past looked plain more (ih nothing)

/-- A walk of detours over links, as many as the budget lasts for. -/
inductive Resolves (m : Machine) (c : Caller) (follow : Bool) : Nat → Place → List Bytes → Spot → Prop
  | arrived {budget : Nat} {place : Place} {walk : List Bytes} {spot : Spot}
      (walked : Descends m c follow place walk (.arrived spot)) : Resolves m c follow budget place walk spot
  | detour {budget : Nat} {place directory : Place} {walk rest : List Bytes} {target : Bytes} {spot : Spot}
      (turned : Descends m c follow place walk (.detour directory target rest))
      (later : Resolves m c follow budget (startOf directory target) (names target ++ rest) spot) :
      Resolves m c follow (budget + 1) place walk spot

theorem resolve_eq_ok_iff :
    m.resolve c follow budget place walk = .ok spot ↔ Resolves m c follow budget place walk spot := by
  constructor
  · intro resolved
    induction budget generalizing place walk with
    | zero =>
      simp only [resolve] at resolved
      split at resolved
      · cases resolved
      · rename_i walked
        cases resolved
        exact .arrived (.of_descend walked)
      · cases resolved
    | succ budget ih =>
      simp only [resolve] at resolved
      split at resolved
      · cases resolved
      · rename_i walked
        cases resolved
        exact .arrived (.of_descend walked)
      · rename_i turned
        exact .detour (.of_descend turned) (ih resolved)
  · intro resolves
    induction resolves with
    | @arrived budget _ _ _ walked => cases budget <;> simp only [resolve, walked.descend]
    | detour turned later ih => simp only [resolve, turned.descend, ih]

theorem Resolves.missed {place last : Place}
    (resolves : Resolves m c follow budget place walk (.entry last key none)) :
    m.lookup c last key = .ok none := by
  generalize ended : Spot.entry last key none = spot at resolves
  induction resolves with
  | arrived walked => subst ended; exact walked.missed
  | detour turned later ih => exact ih ended

theorem Resolves.following (resolves : Resolves m c false budget place walk spot)
    (nothing : spot.place? = none) : Resolves m c true budget place walk spot := by
  induction resolves with
  | arrived walked => exact .arrived (walked.following (by rintro _ ⟨⟩; exact nothing))
  | detour turned later ih => exact .detour (turned.following nofun) (ih nothing)

theorem mapError_eq_ok {ε δ α : Type} {f : ε → δ} {result : Except ε α} {value : α} :
    result.mapError f = .ok value ↔ result = .ok value := by
  cases result with
  | ok found =>
    constructor
    · intro same; exact congrArg Except.ok (Except.ok.inj same)
    · intro same; exact congrArg Except.ok (Except.ok.inj same)
  | error fault => exact ⟨nofun, nofun⟩

theorem find_eq_ok : m.find c follow path = .ok spot ↔
    path.bytes.contains 0 = false ∧ path.bytes.isEmpty = false ∧ path.bytes.length ≤ longestPath ∧
      Resolves m c follow linkBudget (startOf (.node c.directory) path.bytes) (names path.bytes) spot := by
  unfold find
  split
  · rename_i nul
    refine ⟨nofun, ?_⟩
    rintro ⟨text, _⟩
    rw [nul] at text
    cases text
  · rename_i text
    split
    · rename_i empty
      refine ⟨nofun, ?_⟩
      rintro ⟨_, some, _⟩
      rw [empty] at some
      cases some
    · rename_i some
      split
      · rename_i long
        refine ⟨nofun, ?_⟩
        rintro ⟨_, _, short, _⟩
        exact absurd short (Nat.not_le.2 long)
      · rename_i short
        rw [Bool.not_eq_true] at text some
        simp only [text, some, Nat.not_lt.1 short, true_and, ← resolve_eq_ok_iff]
        exact mapError_eq_ok

theorem missed_of_find (ended : m.find c follow path = .ok (.entry place key none)) :
    m.lookup c place key = .ok none :=
  (find_eq_ok.1 ended).2.2.2.missed

theorem find_following (ended : m.find c false path = .ok spot)
    (missing : spot.place? = none) : m.find c true path = .ok spot := by
  obtain ⟨text, some, short, walked⟩ := find_eq_ok.1 ended
  exact find_eq_ok.2 ⟨text, some, short, walked.following missing⟩

end JvmAttach.Host.Machine
