import JvmAttach.Proofs.Paths

/-! Joined paths and their components. Joining is associative. Behind any path, the components of a second
one that does not start at the root or at a dot come after those of the first, whatever slashes and idle
dots stand between; and the path that holds a path with a step in it has all of its components but the last. -/
namespace JvmAttach.Path

variable {p q : Path} {ps : List Bytes} {back last name : Bytes}

/-- The slash that joining puts behind a first path, where one is missing. -/
def seam (front : Bytes) : Bytes := if front.isEmpty || front.getLast? == some slash then [] else [slash]

theorem join_absolute (p : Path) (absolute : q.isAbsolute = true) : p.join q = q := by
  simp [join, absolute]

theorem join_relative (p : Path) (relative : q.isAbsolute = false) :
    p.join q = ⟨p.bytes ++ seam p.bytes ++ q.bytes⟩ := by
  simp only [join, relative, Bool.false_eq_true, ↓reduceIte, seam]
  split <;> simp

theorem isAbsolute_join_relative (p : Path) (relative : q.isAbsolute = false) :
    (p.join q).isAbsolute = p.isAbsolute := by
  rw [join_relative p relative]
  obtain ⟨bytes⟩ := p
  cases bytes with
  | nil => simpa [isAbsolute, seam] using relative
  | cons b rest => simp [isAbsolute]

theorem seam_append (front : Bytes) (some : back ≠ []) : seam (front ++ back) = seam back := by
  simp [seam, some, List.getLast?_append_of_ne_nil front some]

theorem seam_seam (front : Bytes) : seam (front ++ seam front) = [] := by
  by_cases closed : (front.isEmpty || front.getLast? == some slash) = true
  · simp [seam, closed]
  · simp [seam, closed]

theorem seam_joined (front back : Bytes) : seam (front ++ seam front ++ back) = seam back := by
  by_cases empty : back = []
  · rw [empty, List.append_nil, seam_seam]
    rfl
  · exact seam_append _ empty

/-- It makes no difference which of two joints is made first, even where a later path replaces what is before it. -/
theorem join_assoc (p q r : Path) : (p.join q).join r = p.join (q.join r) := by
  cases last : r.isAbsolute with
  | true => rw [join_absolute _ last, join_absolute q last, join_absolute p last]
  | false =>
    have middle := isAbsolute_join_relative q last
    cases second : q.isAbsolute with
    | true => rw [join_absolute p second, join_absolute p (middle.trans second)]
    | false =>
      rw [join_relative p second, join_relative p (middle.trans second), join_relative q last,
        join_relative _ last, seam_joined]
      simp only [List.append_assoc]

theorem head_join (some : p.bytes ≠ []) (relative : q.isAbsolute = false) : (p.join q).head = p.head := by
  rw [join_relative p relative]
  obtain ⟨bytes⟩ := p
  cases bytes with
  | nil => exact absurd rfl some
  | cons b rest =>
    cases rest with
    | nil =>
      by_cases dotted : b = dot
      · subst dotted; rfl
      · simp [head, dotted]
    | cons c rest => simp [head]

theorem relative_of_headless (headless : q.head = []) : q.isAbsolute = false := by
  obtain ⟨bytes⟩ := q
  cases bytes with
  | nil => rfl
  | cons b rest =>
    by_cases slashed : b = slash
    · simp [head, slashed] at headless
    · simp [isAbsolute, slashed]

/-- The steps among the pieces of a path. -/
def steps (p : Path) : List Bytes := p.limbs.filter fun piece => !isIdle piece

theorem filter_rdropWhile (ps : List Bytes) :
    (ps.rdropWhile isIdle).filter (fun piece => !isIdle piece) = ps.filter fun piece => !isIdle piece := by
  have idle : (ps.rtakeWhile isIdle).filter (fun piece => !isIdle piece) = [] := by
    rw [List.filter_eq_nil_iff]
    intro piece mem
    simp [List.mem_rtakeWhile_imp mem]
  conv => rhs; rw [← List.rdropWhile_append_rtakeWhile (p := isIdle) (l := ps)]
  rw [List.filter_append, idle, List.append_nil]

theorem components_eq (p : Path) : p.components = opening p.head ++ p.steps.map component := by
  rw [components, body_eq, filter_rdropWhile, steps]

theorem behind_dot (front : p.head = [dot]) :
    p.bytes.drop p.head.length = [] ∨ ∃ rest, p.bytes.drop p.head.length = slash :: rest := by
  rw [front]
  obtain ⟨bytes⟩ := p
  cases bytes with
  | nil => exact .inl rfl
  | cons b rest =>
    cases rest with
    | nil => exact .inl rfl
    | cons c rest =>
      simp only [head] at front
      split at front
      · exact absurd front (by decide)
      · split at front
        · rename_i dotted
          exact .inr ⟨rest, by simpa using (Bool.and_eq_true_iff.1 dotted).2⟩
        · cases front

theorem steps_eq (p : Path) : p.steps = (pieces slash p.bytes).filter fun piece => !isIdle piece := by
  have whole := head_append_drop p
  rw [steps, limbs]
  rcases p.head_cases with front | front | front
  · rw [front, List.length_nil, List.drop_zero]
  · rw [front] at whole ⊢
    rw [← whole, List.singleton_append, pieces_sep_cons]
    rfl
  · rcases behind_dot front with last | ⟨rest, more⟩
    · rw [last] at whole ⊢
      rw [← whole, front]
      decide
    · rw [more] at whole ⊢
      rw [← whole, front, pieces_sep_cons, pieces_append_sep slash [dot] rest (by decide)]
      rfl

/-- What is joined to a path comes behind its steps, whatever slashes and idle dots stand between. -/
theorem steps_join (p : Path) (relative : q.isAbsolute = false) : (p.join q).steps = p.steps ++ q.steps := by
  rw [steps_eq, steps_eq p, steps_eq q, join_relative p relative]
  by_cases empty : p.bytes = []
  · simp [empty, seam, isIdle]
  by_cases closed : p.bytes.getLast? = some slash
  · have none : seam p.bytes = [] := by simp [seam, closed]
    obtain ⟨front, whole⟩ := List.getLast?_eq_some_iff.1 closed
    rw [none, List.append_nil, whole, List.append_assoc, List.singleton_append, pieces_append, pieces_append]
    simp [isIdle]
  · have one : seam p.bytes = [slash] := by simp [seam, closed, empty]
    rw [one, List.append_assoc, List.singleton_append, pieces_append, List.filter_append]

theorem components_join (p : Path) (headless : q.head = []) :
    (p.join q).components = p.components ++ q.components := by
  by_cases empty : p.bytes = []
  · have same : p.join q = q := by simp [join, relative_of_headless headless, empty]
    have none : p.components = [] := by
      obtain ⟨bytes⟩ := p
      subst empty
      rfl
    rw [same, none, List.nil_append]
  · have relative := relative_of_headless headless
    rw [components_eq, components_eq p, components_eq q, headless, steps_join p relative, head_join empty relative]
    simp [opening]

theorem steps_body (ended : p.body = ps ++ [last]) : ∃ before, p.steps = before ++ [last] := by
  refine ⟨ps.filter fun piece => !isIdle piece, ?_⟩
  rw [steps, ← filter_rdropWhile, ← body_eq, ended, List.filter_append]
  simp [(last_step ended).1]

theorem steps_bodiless (nothing : p.body = []) : p.steps = [] := by
  rw [steps, ← filter_rdropWhile, ← body_eq, nothing]
  rfl

theorem fileName?_eq_some_iff : p.fileName? = some name ↔ p.components.getLast? = some (.name name) := by
  rw [components_eq]
  rcases List.eq_nil_or_concat' p.body with nothing | ⟨ps, last, ended⟩
  · rw [steps_bodiless nothing, fileName?, nothing]
    rcases p.head_cases with front | front | front <;> rw [front] <;> simp [opening, slash, dot]
  · obtain ⟨before, steps⟩ := steps_body ended
    rw [fileName?, ended, steps]
    by_cases up : last = [dot, dot]
    · simp [up, component]
    · simp [up, component]

theorem Cut.empty (cut : Cut p) (none : p.components = []) : p.bytes = [] := by
  rw [components_eq, List.append_eq_nil_iff, List.map_eq_nil_iff] at none
  have bodiless : p.body = [] := by
    rcases List.eq_nil_or_concat' p.body with nothing | ⟨ps, last, ended⟩
    · exact nothing
    · obtain ⟨before, steps⟩ := steps_body ended
      simp [steps] at none
  have headless : p.head = [] := by
    rcases p.head_cases with front | front | front
    · exact front
    · simp [front, opening] at none
    · simp [front, opening, slash, dot] at none
  rw [cut, headless, bodiless]
  rfl

theorem exists_parent (ended : p.body = ps ++ [last]) : ∃ parent, p.parent? = some parent ∧
    p.components = parent.components ++ [component last] := by
  obtain ⟨front, body⟩ := shape_parent ended
  have step : isIdle last = false := (last_step ended).1
  refine ⟨_, parent?_of_body ended, ?_⟩
  rw [components, components, front, body, ended, filter_rdropWhile]
  simp [step]

/-- A single step of a path, which leads down. -/
structure Plain (name : Bytes) : Prop where
  free : slash ∉ name
  step : isIdle name = false
  down : name ≠ [dot, dot]

theorem Plain.head (plain : Plain name) : head ⟨name⟩ = [] := by
  cases name with
  | nil => rfl
  | cons b rest =>
    have free := plain.free
    have step := plain.step
    simp only [List.mem_cons, not_or] at free
    have slashed : rest.head? ≠ some slash := fun first => free.2 (List.mem_of_head? first)
    simp only [isIdle, List.isEmpty_cons, Bool.false_or, beq_eq_false_iff_ne, ne_eq, List.cons.injEq] at step
    simpa [Path.head, Ne.symm free.1, slashed] using step

theorem Plain.component (plain : Plain name) : component name = .name name := by
  simp [Path.component, plain.down]

theorem Plain.components (plain : Plain name) : components ⟨name⟩ = [.name name] := by
  rw [components_eq, plain.head, steps_eq, pieces_of_free slash name plain.free]
  simp [opening, plain.step, plain.component]

theorem body_of_name (named : p.fileName? = some name) : ∃ ps, p.body = ps ++ [name] := by
  unfold fileName? at named
  split at named
  · rename_i piece last
    split at named <;> cases named
    exact List.getLast?_eq_some_iff.1 last
  · cases named

theorem Plain.of_fileName? (named : p.fileName? = some name) : Plain name := by
  obtain ⟨ps, ended⟩ := body_of_name named
  obtain ⟨step, free⟩ := last_step ended
  refine ⟨free, step, ?_⟩
  rintro rfl
  simp [fileName?, ended] at named

theorem fileName?_eq_self_iff : fileName? ⟨name⟩ = some name ↔ Plain name := by
  refine ⟨.of_fileName?, fun plain => fileName?_eq_some_iff.2 ?_⟩
  rw [plain.components]
  rfl

theorem Plain.components_join (plain : Plain name) (p : Path) :
    (p.join ⟨name⟩).components = p.components ++ [.name name] := by
  rw [Path.components_join p plain.head, plain.components]

theorem Plain.fileName?_join (plain : Plain name) (p : Path) : (p.join ⟨name⟩).fileName? = some name := by
  rw [fileName?_eq_some_iff, plain.components_join, List.getLast?_concat]

/-- What holds a name in a directory goes where the directory goes, step by step. -/
theorem Plain.parent_join (plain : Plain name) (p : Path) :
    ∃ parent, (p.join ⟨name⟩).parent? = some parent ∧ parent.components = p.components := by
  obtain ⟨front, body⟩ := body_of_name (plain.fileName?_join p)
  obtain ⟨parent, found, shown⟩ := exists_parent body
  refine ⟨parent, found, ?_⟩
  rw [plain.components_join, plain.component] at shown
  exact (List.append_cancel_right shown).symm

end JvmAttach.Path
