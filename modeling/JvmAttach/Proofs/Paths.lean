import JvmAttach.Path
import Mathlib.Data.List.DropRight

/-! Paths and the paths that hold them. A path that is cut behind its last step is one of those that hold a
longer path, and it is what is left of any path to a name in it. -/
namespace JvmAttach

section Pieces

variable {α : Type} [DecidableEq α]

theorem glue_append (sep x : α) {ps : List (List α)} (more : ps ≠ []) (qs : List (List α)) :
    glue sep x (ps ++ qs) = glue sep x ps ++ qs := by
  cases ps with
  | nil => exact absurd rfl more
  | cons p ps =>
    simp only [List.cons_append, glue]
    split <;> rfl

theorem pieces_append (sep : α) (xs ys : List α) :
    pieces sep (xs ++ sep :: ys) = pieces sep xs ++ pieces sep ys := by
  induction xs with
  | nil => exact pieces_sep_cons sep ys
  | cons x xs ih => rw [List.cons_append, pieces_cons, ih, glue_append sep x (pieces_ne_nil sep xs), ← pieces_cons]

theorem free_of_mem_pieces {sep : α} {xs piece : List α} (mem : piece ∈ pieces sep xs) : sep ∉ piece := by
  induction xs generalizing piece with
  | nil =>
    rw [List.mem_singleton.1 mem]
    exact List.not_mem_nil
  | cons x xs ih =>
    rw [pieces_cons] at mem
    cases cut : pieces sep xs with
    | nil => exact absurd cut (pieces_ne_nil sep xs)
    | cons p ps =>
      rw [cut] at mem ih
      simp only [glue] at mem
      split at mem
      · rcases List.mem_cons.1 mem with rfl | mem
        · exact List.not_mem_nil
        · exact ih mem
      · rename_i other
        rcases List.mem_cons.1 mem with rfl | mem
        · rintro (_ | ⟨_, inside⟩)
          · exact other rfl
          · exact ih List.mem_cons_self inside
        · exact ih (List.mem_cons_of_mem p mem)

end Pieces

namespace Path

variable {p q : Path} {ps more : List Bytes} {last name : Bytes}

theorem joined_cons (piece : Bytes) (some : ps ≠ []) : joined (piece :: ps) = piece ++ slash :: joined ps := by
  cases ps with
  | nil => exact absurd rfl some
  | cons next ps => rfl

theorem joined_append (some : ps ≠ []) (some' : more ≠ []) :
    joined (ps ++ more) = joined ps ++ slash :: joined more := by
  induction ps with
  | nil => exact absurd rfl some
  | cons piece ps ih =>
    by_cases single : ps = []
    · subst single
      exact joined_cons piece some'
    · rw [List.cons_append, joined_cons piece (List.append_ne_nil_of_left_ne_nil single more), ih single,
        joined_cons piece single, List.append_assoc, List.cons_append]

theorem pieces_joined (some : ps ≠ []) (free : ∀ piece ∈ ps, slash ∉ piece) : pieces slash (joined ps) = ps := by
  induction ps with
  | nil => exact absurd rfl some
  | cons piece ps ih =>
    have first := free piece List.mem_cons_self
    by_cases single : ps = []
    · subst single
      exact pieces_of_free slash piece first
    · rw [joined_cons piece single, pieces_append_sep slash piece _ first,
        ih single fun other mem => free other (List.mem_cons_of_mem piece mem)]

theorem joined_pieces (bytes : Bytes) : joined (pieces slash bytes) = bytes := by
  induction bytes with
  | nil => rfl
  | cons b bytes ih =>
    cases cut : pieces slash bytes with
    | nil => exact absurd cut (pieces_ne_nil slash bytes)
    | cons piece ps =>
      rw [cut] at ih
      rw [pieces_cons, cut, glue]
      split
      · rename_i same
        rw [joined_cons [] (List.cons_ne_nil _ _), ih, same]
        rfl
      · cases ps with
        | nil => exact congrArg (b :: ·) ih
        | cons next ps => exact congrArg (b :: ·) ih

/-- The pieces behind the head of a path, idle ones at the end included. -/
def limbs (p : Path) : List Bytes := pieces slash (p.bytes.drop p.head.length)

theorem body_eq (p : Path) : p.body = p.limbs.rdropWhile isIdle := rfl

theorem head_append_drop (p : Path) : p.head ++ p.bytes.drop p.head.length = p.bytes := by
  obtain ⟨bytes⟩ := p
  cases bytes with
  | nil => rfl
  | cons b rest =>
    simp only [head]
    split
    · rename_i slashed
      rw [beq_iff_eq.1 slashed]
      rfl
    · split
      · rename_i dotted
        rw [beq_iff_eq.1 (Bool.and_eq_true_iff.1 dotted).1]
        rfl
      · rfl

theorem head_of_prefix {front back : Bytes} (nonempty : front ≠ []) (whole : p.bytes = front ++ back)
    (cut : back = [] ∨ back.head? = some slash) : head ⟨front⟩ = p.head := by
  cases front with
  | nil => exact absurd rfl nonempty
  | cons b front =>
    have same : (front.isEmpty || front.head? == some slash) =
        ((front ++ back).isEmpty || (front ++ back).head? == some slash) := by
      cases front with
      | nil =>
        rcases cut with rfl | slashed
        · rfl
        · rw [List.nil_append, slashed, beq_self_eq_true, Bool.or_true]
          rfl
      | cons c front => rfl
    simp only [head, whole, List.cons_append, same]

theorem of_limbs (nonempty : ps ≠ []) (cut : p.limbs = ps ++ more) (step : ps.rdropWhile isIdle = ps) :
    head ⟨p.head ++ joined ps⟩ = p.head ∧ body ⟨p.head ++ joined ps⟩ = ps := by
  have free : ∀ piece ∈ ps, slash ∉ piece := fun piece mem =>
    free_of_mem_pieces (cut ▸ List.mem_append_left more mem : piece ∈ p.limbs)
  have shown : joined ps ≠ [] := by
    intro empty
    have pieces := pieces_joined nonempty free
    rw [empty] at pieces
    rw [← pieces] at step
    exact absurd step (by decide)
  have rest : p.bytes.drop p.head.length = joined p.limbs := (joined_pieces _).symm
  have front : head ⟨p.head ++ joined ps⟩ = p.head := by
    have nonempty' : p.head ++ joined ps ≠ [] := List.append_ne_nil_of_right_ne_nil _ shown
    by_cases ended : more = []
    · have whole : p.bytes = p.head ++ joined ps ++ [] := by
        rw [← head_append_drop p, rest, cut, ended, List.append_nil, List.append_nil]
      exact head_of_prefix nonempty' whole (.inl rfl)
    · have whole : p.bytes = p.head ++ joined ps ++ slash :: joined more := by
        rw [← head_append_drop p, rest, cut, joined_append nonempty ended, List.append_assoc]
      exact head_of_prefix nonempty' whole (.inr rfl)
  refine ⟨front, ?_⟩
  rw [body_eq, limbs, front]
  simp only [List.drop_left, pieces_joined nonempty free, step]

theorem head?_above (front : Bytes) (rev : List Bytes) :
    (above front rev).head? = some ⟨front ++ joined (rev.dropWhile isIdle).reverse⟩ := by
  induction rev with
  | nil =>
    rw [above]
    split <;> simp [joined]
  | cons piece rest ih =>
    rw [above, List.dropWhile_cons]
    split
    · exact ih
    · rfl

theorem head_cases (p : Path) : p.head = [] ∨ p.head = [slash] ∨ p.head = [dot] := by
  unfold head
  split
  · exact .inl rfl
  · split
    · exact .inr (.inl rfl)
    · split
      · exact .inr (.inr rfl)
      · exact .inl rfl

/-- A path that ends with its last step: nothing idle stands behind it. -/
def Cut (p : Path) : Prop := p.bytes = p.head ++ joined p.body

instance (p : Path) : Decidable (Cut p) := inferInstanceAs (Decidable (_ = _))

theorem body_dropWhile (p : Path) : (p.body.reverse.dropWhile isIdle).reverse = p.body := by
  show p.body.rdropWhile isIdle = p.body
  rw [body_eq, List.rdropWhile_idempotent]

theorem Cut.ancestry (cut : Cut p) : ∃ outer, p.ancestry = p :: outer := by
  have first : p.ancestry.head? = some p := by
    rw [Path.ancestry, head?_above, body_dropWhile, ← cut]
  exact ⟨p.ancestry.tail, List.eq_cons_of_mem_head? first⟩

theorem last_step (ended : p.body = ps ++ [last]) : isIdle last = false ∧ slash ∉ last := by
  have some : p.limbs.rdropWhile isIdle ≠ [] := by
    rw [← body_eq, ended]
    exact List.append_ne_nil_of_right_ne_nil ps (List.cons_ne_nil last [])
  have step := List.rdropWhile_last_not isIdle p.limbs some
  have mem : last ∈ p.limbs := (List.rdropWhile_prefix isIdle p.limbs).subset (by rw [← body_eq, ended]; simp)
  simp only [← body_eq, ended, List.getLast_append_singleton, Bool.not_eq_true] at step
  exact ⟨step, free_of_mem_pieces mem⟩

theorem parent?_of_body (ended : p.body = ps ++ [last]) :
    p.parent? = some ⟨p.head ++ joined (ps.rdropWhile isIdle)⟩ := by
  have step := (last_step ended).1
  rw [parent?, Path.ancestry, ended, List.reverse_append, List.reverse_singleton, List.singleton_append, above, step]
  exact head?_above p.head ps.reverse

/-- The path that holds a path has the same head, and the pieces up to the last step before that of the path. -/
theorem shape_parent (ended : p.body = ps ++ [last]) :
    head ⟨p.head ++ joined (ps.rdropWhile isIdle)⟩ = p.head ∧
      body ⟨p.head ++ joined (ps.rdropWhile isIdle)⟩ = ps.rdropWhile isIdle := by
  by_cases nothing : ps.rdropWhile isIdle = []
  · rw [nothing]
    rcases p.head_cases with front | front | front <;> rw [front] <;> decide
  · obtain ⟨idle, whole⟩ := List.rdropWhile_prefix isIdle ps
    obtain ⟨idle', whole'⟩ := List.rdropWhile_prefix isIdle p.limbs
    have cut : p.limbs = ps.rdropWhile isIdle ++ (idle ++ [last] ++ idle') := by
      rw [← body_eq, ended] at whole'
      rw [← whole', ← List.append_assoc, ← List.append_assoc, whole]
    exact of_limbs nothing cut (List.rdropWhile_idempotent isIdle ps)

theorem cut_parent (ended : p.body = ps ++ [last]) : Cut ⟨p.head ++ joined (ps.rdropWhile isIdle)⟩ := by
  obtain ⟨front, body⟩ := shape_parent ended
  rw [Cut, front, body]

theorem getLast?_joined (ps : List Bytes) (nonempty : last ≠ []) :
    (joined (ps ++ [last])).getLast? = last.getLast? := by
  by_cases single : ps = []
  · rw [single]
    rfl
  · rw [joined_append single (List.cons_ne_nil last []), List.getLast?_append_of_ne_nil _ (List.cons_ne_nil _ _)]
    exact List.getLast?_cons_of_ne_nil nonempty

theorem Cut.unclosed (cut : Cut p) (closed : p.bytes.getLast? = some slash) : p = ⟨[slash]⟩ := by
  rw [cut] at closed
  rcases List.eq_nil_or_concat' p.body with nothing | ⟨ps, last, ended⟩
  · rw [nothing, joined, List.append_nil] at closed
    have whole : p.bytes = p.head := by rw [cut, nothing, joined, List.append_nil]
    rcases p.head_cases with front | front | front <;> rw [front] at closed whole
    · cases closed
    · exact congrArg mk whole
    · exact absurd closed (by decide)
  · obtain ⟨step, free⟩ := last_step ended
    have nonempty : last ≠ [] := by rintro rfl; exact absurd step (by decide)
    have nonempty' : joined (ps ++ [last]) ≠ [] := by
      intro empty
      have same := getLast?_joined ps nonempty
      rw [empty] at same
      exact nonempty (List.getLast?_eq_none_iff.1 same.symm)
    rw [ended, List.getLast?_append_of_ne_nil _ nonempty', getLast?_joined ps nonempty] at closed
    exact absurd (List.mem_of_getLast? closed) free

theorem parent?_join (cut : Cut p) (nonempty : p.bytes ≠ []) (free : slash ∉ name) (step : isIdle name = false) :
    (p.join ⟨name⟩).parent? = some p := by
  have relative : isAbsolute ⟨name⟩ = false := by
    rw [isAbsolute, beq_eq_false_iff_ne]
    exact fun first => free (List.mem_of_head? first)
  have bodied {ps : List Bytes} : (ps ++ [name]).rdropWhile isIdle = ps ++ [name] :=
    List.rdropWhile_concat_neg isIdle ps name (by simp [step])
  by_cases closed : p.bytes.getLast? = some slash
  · obtain rfl := cut.unclosed closed
    have whole : (mk [slash]).join ⟨name⟩ = ⟨slash :: name⟩ := by
      simp [join, relative]
    have body : (mk (slash :: name)).body = [] ++ [name] := by
      have limbs : (mk (slash :: name)).limbs = [] ++ [name] := pieces_of_free slash name free
      rw [body_eq, limbs, bodied]
    rw [whole, parent?_of_body body]
    rfl
  · have whole : p.join ⟨name⟩ = ⟨p.bytes ++ slash :: name⟩ := by
      simp [join, relative, nonempty, closed]
    have front : p.head = head ⟨p.bytes ++ slash :: name⟩ := head_of_prefix nonempty rfl (.inr rfl)
    have limbs : (mk (p.bytes ++ slash :: name)).limbs = p.limbs ++ [name] := by
      have within : p.head.length ≤ p.bytes.length := by
        rw [← head_append_drop p, List.length_append]
        exact Nat.le_add_right _ _
      rw [Path.limbs, ← front, List.drop_append_of_le_length within, pieces_append, pieces_of_free slash name free]
      rfl
    have body : (mk (p.bytes ++ slash :: name)).body = p.limbs ++ [name] := by rw [body_eq, limbs, bodied]
    rw [whole, parent?_of_body body, ← front, ← body_eq, ← cut]

end Path

end JvmAttach
