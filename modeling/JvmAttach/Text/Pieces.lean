/-! Cutting a list at every occurrence of a separator. A list with n separators has n + 1
pieces, empty ones included; putting the separators back restores it. -/
namespace JvmAttach

variable {α : Type} [DecidableEq α]

/-- The first element of a piece is glued to the piece that follows it. -/
def glue (sep x : α) : List (List α) → List (List α)
  | [] => if x = sep then [[], []] else [[x]]
  | p :: ps => if x = sep then [] :: p :: ps else (x :: p) :: ps

def pieces (sep : α) (xs : List α) : List (List α) := xs.foldr (glue sep) [[]]

@[simp] theorem pieces_nil (sep : α) : pieces sep ([] : List α) = [[]] := rfl

theorem pieces_cons (sep x : α) (xs : List α) :
    pieces sep (x :: xs) = glue sep x (pieces sep xs) := rfl

theorem pieces_ne_nil (sep : α) (xs : List α) : pieces sep xs ≠ [] := by
  cases xs with
  | nil => simp
  | cons x xs =>
    rw [pieces_cons]
    cases pieces sep xs <;> simp only [glue] <;> split <;> simp

theorem pieces_sep_cons (sep : α) (xs : List α) :
    pieces sep (sep :: xs) = [] :: pieces sep xs := by
  rw [pieces_cons]
  cases h : pieces sep xs with
  | nil => exact absurd h (pieces_ne_nil sep xs)
  | cons p ps => simp [glue]

theorem pieces_append_sep (sep : α) (xs ys : List α) (free : sep ∉ xs) :
    pieces sep (xs ++ sep :: ys) = xs :: pieces sep ys := by
  induction xs with
  | nil => exact pieces_sep_cons sep ys
  | cons x xs ih =>
    have hx : x ≠ sep := fun h => free (h ▸ List.mem_cons_self)
    rw [List.cons_append, pieces_cons, ih (fun h => free (List.mem_cons_of_mem _ h))]
    simp [glue, hx]

theorem pieces_of_free (sep : α) (xs : List α) (free : sep ∉ xs) : pieces sep xs = [xs] := by
  induction xs with
  | nil => rfl
  | cons x xs ih =>
    have hx : x ≠ sep := fun h => free (h ▸ List.mem_cons_self)
    rw [pieces_cons, ih (fun h => free (List.mem_cons_of_mem _ h))]
    simp [glue, hx]

end JvmAttach
