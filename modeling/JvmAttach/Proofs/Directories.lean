import JvmAttach.Host.Basic
import JvmAttach.Proofs.Act
import JvmAttach.Proofs.Making
import JvmAttach.Proofs.Paths

/-! Making directories. Once the directories on the way to a path have been made, the path leads to a
directory; and where there is one, nothing is done. -/
namespace JvmAttach.Host

open Act

namespace Machine

variable {m after : Machine} {c : Caller} {path : Path} {place : Place} {walk : List Bytes} {course : Course}
variable {spot : Spot} {budget : Nat}

/-- A walk that would not follow a link at its end goes the same way, or it ends at a link before. -/
theorem Descends.unfollowing (walked : Descends m c true place walk course) :
    Descends m c false place walk course ∨
      ∃ spot, Descends m c false place walk (.arrived spot) ∧ spot.place? ≠ none := by
  induction walked with
  | here place => exact .inl (.here place)
  | missing looked => exact .inl (.missing looked)
  | unfollowed looked link stays => cases stays
  | @turned place next key target rest looked link goes =>
    by_cases last : rest = []
    · subst last
      exact .inr ⟨_, .unfollowed looked link rfl, nofun⟩
    · exact .inl (.turned looked link (.inl last))
  | last looked plain ends => exact .inl (.last looked plain ends)
  | past looked plain more later ih =>
    rcases ih with same | ⟨spot, ended, there⟩
    · exact .inl (.past looked plain more same)
    · exact .inr ⟨spot, .past looked plain more ended, there⟩

theorem Resolves.unfollowing (resolves : Resolves m c true budget place walk spot) (there : spot.place? ≠ none) :
    ∃ end', Resolves m c false budget place walk end' ∧ end'.place? ≠ none := by
  induction resolves with
  | arrived walked =>
    rcases walked.unfollowing with same | ⟨end', ended, there'⟩
    · exact ⟨_, .arrived same, there⟩
    · exact ⟨end', .arrived ended, there'⟩
  | detour turned later ih =>
    rcases turned.unfollowing with same | ⟨end', ended, there'⟩
    · obtain ⟨end', ended, there'⟩ := ih there
      exact ⟨end', .detour same ended, there'⟩
    · exact ⟨end', .arrived ended, there'⟩

theorem find_unfollowing (found : m.find c true path = .ok spot) (there : spot.place? ≠ none) :
    ∃ end', m.find c false path = .ok end' ∧ end'.place? ≠ none := by
  obtain ⟨text, some, short, walked⟩ := find_eq_ok.1 found
  obtain ⟨end', ended, there'⟩ := walked.unfollowing there
  exact ⟨end', find_eq_ok.2 ⟨text, some, short, ended⟩, there'⟩

theorem isDirectory_iff : m.isDirectory c path = true ↔ ∃ spot place attributes, m.find c true path = .ok spot ∧
    spot.place? = some place ∧ m.attributes place = .ok attributes ∧ attributes.kind = .directory := by
  unfold isDirectory stat
  cases found : m.find c true path with
  | error fault => simp
  | ok spot =>
    cases there : spot.place? with
    | none => simp [there]
    | some place =>
      cases known : m.attributes place with
      | error fault => simp [there, known, Except.mapError]
      | ok attributes => simp [there, known, Except.mapError]

theorem makeDirectory_there (plain : withoutSlashes path = path) (there : m.isDirectory c path = true) :
    m.makeDirectory c path = .error (.os Errno.alreadyExists) := by
  obtain ⟨spot, place, _, found, placed, _⟩ := isDirectory_iff.1 there
  obtain ⟨end', found', there'⟩ := find_unfollowing found (by rw [placed]; exact nofun)
  rw [makeDirectory, plain, found']
  cases end' with
  | here => rfl
  | entry directory name place =>
    cases place with
    | none => exact absurd rfl there'
    | some place => cases directory <;> rfl

theorem isDirectory_of_makeDirectory (plain : withoutSlashes path = path) (made : m.makeDirectory c path = .ok after) :
    after.isDirectory c path = true := by
  rw [makeDirectory, plain] at made
  split at made
  · cases made
  · rename_i parent name found
    unfold make at made
    split at made
    · cases made
    · rename_i i writable
      obtain ⟨same, entries, up, owner, mode, node⟩ := writable_eq_ok writable
      cases same
      cases made
      have unlinked : ∀ target, (⟨.directory [] parent true, c.uid, directoryMode⟩ : Node).content ≠ .link target :=
        fun _ => nofun
      have reached := find_enter node unlinked (find_following found rfl)
      refine isDirectory_iff.2 ⟨_, .node m.fresh, ⟨.directory, c.uid⟩, reached, rfl, ?_, rfl⟩
      simp only [attributes, node?_enter_fresh node, Content.kind]
  · cases made
  · cases made

end Machine

open Machine

variable {h t : Host} {path : Path} {outer : List Path} {R : Host → Host → Prop}

theorem run_changing_ok {event : Event} {f : Machine → Caller → Except SystemFault Machine} {machine : Machine}
    (changed : f h.machine h.caller = .ok machine) :
    (changing event f).run h = ⟨.ok (), record event { h with machine }, []⟩ := by
  simp only [changing, tryChange, changed, Except.map]

theorem run_changing_error {event : Event} {f : Machine → Caller → Except SystemFault Machine} {fault : SystemFault}
    (refused : f h.machine h.caller = .error fault) : (changing event f).run h = ⟨.error fault, h, []⟩ := by
  simp only [changing, tryChange, refused, Except.map]

/-- What is done about a fault: nothing where there is a directory. -/
def settling (path : Path) (fault : SystemFault) : Act SystemFault Host Unit := do
  if ← Act.look fun h => h.machine.isDirectory h.caller path then return ()
  else Act.fail fault

theorem run_settling (path : Path) (fault : SystemFault) (h : Host) : (settling path fault).run h =
    ⟨if h.machine.isDirectory h.caller path then .ok () else .error fault, h, []⟩ := by
  simp only [settling, run_look_bind]
  split <;> rfl

theorem makeNested_cons (some : path.bytes.isEmpty = false) : makeNested (path :: outer) = (do
    match ← (makeDirectory path).attempt with
    | .ok () => return ()
    | .error fault =>
      if fault = .os Errno.noEntry then
        makeNested outer
        match ← (makeDirectory path).attempt with
        | .ok () => return ()
        | .error fault => settling path fault
      else settling path fault) := by
  rw [makeNested, some]
  rfl

/-- What holds of each step in making directories, and of steps in a row, holds of making them all. -/
theorem makeNested_of_steps {P : Act SystemFault Host Unit → Prop} (done : P (Pure.pure ()))
    (lost : ∀ fault, P (Act.fail fault)) (settles : ∀ path fault, P (settling path fault))
    (tries : ∀ path next, (∀ made, P (next made)) → P ((makeDirectory path).attempt >>= next))
    (both : ∀ first second, P first → P second → P (first >>= fun _ => second)) (paths : List Path) :
    P (makeNested paths) := by
  induction paths with
  | nil => exact lost _
  | cons path outer ih =>
    cases empty : path.bytes.isEmpty with
    | true =>
      rw [makeNested, empty]
      exact done
    | false =>
      rw [makeNested_cons empty]
      refine tries path _ fun made => ?_
      cases made with
      | ok made => exact done
      | error fault =>
        dsimp only
        split
        · refine both _ _ ih (tries path _ fun again => ?_)
          cases again with
          | ok made => exact done
          | error fault => exact settles path fault
        · exact settles path fault

theorem leads_makeNested (lasting : Lasting R) (makes : ∀ path, Leads R (makeDirectory path)) (paths : List Path) :
    Leads R (makeNested paths) := by
  refine makeNested_of_steps (.pure lasting _) (.fail lasting) (fun path fault h => ?_)
    (fun path next rest => .bind lasting (makes path).attempt rest)
    (fun first second before behind => .bind lasting before fun _ => behind) paths
  rw [run_settling]
  exact lasting.refl h

theorem makeNested_there (plain : withoutSlashes path = path) (there : h.machine.isDirectory h.caller path = true) :
    (makeNested (path :: outer)).run h = ⟨.ok (), h, []⟩ := by
  cases empty : path.bytes.isEmpty with
  | true =>
    rw [makeNested, empty]
    rfl
  | false =>
    have refused : (makeDirectory path).run h = ⟨.error (.os Errno.alreadyExists), h, []⟩ :=
      run_changing_error (makeDirectory_there plain there)
    have other : SystemFault.os Errno.alreadyExists ≠ .os Errno.noEntry := by decide
    rw [makeNested_cons empty, run_bind_ok (run_attempt (r := .error _) refused)]
    simp only [if_neg other, run_settling, there, ↓reduceIte, List.nil_append]

theorem isDirectory_of_attempt (plain : withoutSlashes path = path) {log : List Log.Entry}
    (made : ((makeDirectory path).attempt : Act SystemFault Host _).run h = ⟨.ok (.ok ()), t, log⟩) :
    t.machine.isDirectory t.caller path = true := by
  cases result : h.machine.makeDirectory h.caller path with
  | ok machine =>
    have ran : (makeDirectory path).run h = _ := run_changing_ok result
    rw [run_attempt (r := .ok ()) ran] at made
    cases made
    exact isDirectory_of_makeDirectory plain result
  | error fault =>
    have ran : (makeDirectory path).run h = _ := run_changing_error result
    rw [run_attempt (r := .error fault) ran] at made
    cases made

theorem isDirectory_of_settling {fault : SystemFault} {log : List Log.Entry}
    (settled : (settling path fault).run h = ⟨.ok (), t, log⟩) : t.machine.isDirectory t.caller path = true := by
  rw [run_settling] at settled
  split at settled <;> cases settled
  assumption

theorem isDirectory_of_makeNested (plain : withoutSlashes path = path) (some : path.bytes.isEmpty = false)
    {log : List Log.Entry} (made : (makeNested (path :: outer)).run h = ⟨.ok (), t, log⟩) :
    t.machine.isDirectory t.caller path = true := by
  rw [makeNested_cons some] at made
  obtain ⟨result, g, _, _, tried, rest⟩ := exists_of_run_bind made
  cases result with
  | ok done =>
    cases rest
    exact isDirectory_of_attempt plain tried
  | error fault =>
    dsimp only at rest
    split at rest
    · obtain ⟨_, g', _, _, _, rest⟩ := exists_of_run_bind rest
      obtain ⟨result, g'', _, _, tried, rest⟩ := exists_of_run_bind rest
      cases result with
      | ok done =>
        cases rest
        exact isDirectory_of_attempt plain tried
      | error fault => exact isDirectory_of_settling rest
    · exact isDirectory_of_settling rest

theorem withoutSlashes_of_cut (cut : path.Cut) : withoutSlashes path = path := by
  by_cases closed : path.bytes.getLast? = some Path.slash
  · rw [cut.unclosed closed]
    rfl
  · have kept : (path.bytes.reverse.dropWhile (· == Path.slash)).reverse = path.bytes := by
      refine List.rdropWhile_eq_self_iff.2 fun nonempty slashed => closed ?_
      rw [List.getLast?_eq_some_getLast nonempty, beq_iff_eq.1 slashed]
    rw [withoutSlashes, kept]
    obtain ⟨bytes⟩ := path
    cases bytes <;> rfl

theorem makeDirectories_there (cut : path.Cut) (there : h.machine.isDirectory h.caller path = true) :
    (makeDirectories path).run h = ⟨.ok (), h, []⟩ := by
  obtain ⟨outer, whole⟩ := cut.ancestry
  rw [makeDirectories, whole]
  exact makeNested_there (withoutSlashes_of_cut cut) there

theorem isDirectory_of_makeDirectories (cut : path.Cut) (some : path.bytes.isEmpty = false)
    (made : ((makeDirectories path).run h).outcome = .ok ()) :
    let t := ((makeDirectories path).run h).state
    t.machine.isDirectory t.caller path = true := by
  obtain ⟨outer, whole⟩ := cut.ancestry
  rcases ran : (makeDirectories path).run h with ⟨outcome, t, log⟩
  obtain rfl : outcome = .ok () := by rw [ran] at made; exact made
  rw [makeDirectories, whole] at ran
  exact isDirectory_of_makeNested (withoutSlashes_of_cut cut) some ran

end JvmAttach.Host
