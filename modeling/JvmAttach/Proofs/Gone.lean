import JvmAttach.Attach.Trigger
import JvmAttach.Proofs.Encoding
import JvmAttach.Proofs.Entries
import JvmAttach.Proofs.Walk

/-! Paths through the directory of a process lead nowhere when there is no such process. -/
namespace JvmAttach

namespace Text

theorem toString_injective {m n : Nat} (same : toString m = toString n) : m = n := by
  have digits := congrArg (fun s : String => Nat.ofDigitChars 10 s.toList 0) same
  simpa [Nat.toString_eq_ofList_toDigits] using digits

theorem isDigit_of_mem_toString {n : Nat} {c : Char} (mem : c ∈ (toString n).toList) : c.isDigit = true := by
  rw [Nat.toString_eq_ofList_toDigits, String.toList_ofList] at mem
  exact Nat.isDigit_of_mem_toDigits (by decide) (by decide) mem

theorem free_of_digits {s : String} (digits : ∀ c ∈ s.toList, c.isDigit = true) : Path.slash ∉ bytesOf s := by
  intro mem
  exact absurd (digits _ ((mem_encode (by decide)).1 mem)) (by decide)

end Text

namespace Host.Machine

variable {m : Machine} {c : Caller} {follow : Bool} {number : Nat} {path : Path}

def numbered (number : Nat) : Bytes := Text.bytesOf (toString number)

def procName : Bytes := Text.bytesOf "proc"

theorem numbered_ne {s : String} {c : Char} (mem : c ∈ s.toList) (letter : c.isDigit = false) (number : Nat) :
    numbered number ≠ Text.bytesOf s := by
  intro same
  have whole := Text.bytesOf_injective same
  have digit := Text.isDigit_of_mem_toString (whole.symm ▸ mem : c ∈ (toString number).toList)
  rw [letter] at digit
  cases digit

/-- The directory of processes is where it usually is. -/
def Mounted (m : Machine) : Prop :=
  ∃ table owner mode, (m.entries rootInode).lookup procName = some table ∧
    m.node? table = some ⟨.processes, owner, mode⟩

/-- A path through the directory of a process. -/
def Through (number : Nat) (path : Path) : Prop :=
  ∃ rest, path.bytes = Path.slash :: (procName ++ Path.slash :: (numbered number ++ Path.slash :: rest))

theorem names_through (through : Through number path) :
    startOf (.node c.directory) path.bytes = .node rootInode ∧
      ∃ more, names path.bytes = procName :: numbered number :: more := by
  obtain ⟨rest, whole⟩ := through
  have proc_free : Path.slash ∉ procName := by decide +kernel
  have digits_free : Path.slash ∉ numbered number :=
    Text.free_of_digits fun _ => Text.isDigit_of_mem_toString
  have proc_some : procName.isEmpty = false := by decide +kernel
  have digits_some : (numbered number).isEmpty = false := by
    rw [List.isEmpty_eq_false_iff]
    intro none
    have empty : toString number = "" := Text.bytesOf_injective (none.trans (by rfl))
    have digits := congrArg String.toList empty
    rw [Nat.toString_eq_ofList_toDigits, String.toList_ofList] at digits
    exact Nat.toDigits_ne_nil digits
  have cut : pieces Path.slash path.bytes = [] :: procName :: numbered number :: pieces Path.slash rest := by
    rw [whole, pieces_sep_cons, pieces_append_sep _ _ _ proc_free, pieces_append_sep _ _ _ digits_free]
  refine ⟨by simp [startOf, whole], ?_⟩
  simp only [names, cut, List.filter_cons, List.isEmpty_nil, proc_some, digits_some, Bool.not_true,
    Bool.not_false, Bool.false_eq_true, ↓reduceIte]
  split
  · exact ⟨_, rfl⟩
  · exact ⟨_, rfl⟩

theorem processNumber?_numbered (gone : m.process? number = none) :
    m.processNumber? c (numbered number) = none := by
  have unself : (numbered number == Text.bytesOf "self") = false :=
    beq_eq_false_iff_ne.2 (numbered_ne (c := 's') (by decide) (by decide) number)
  simp only [processNumber?, unself, Bool.false_eq_true, ↓reduceIte]
  split
  · rename_i n read
    split
    · rename_i found
      simp only [Bool.and_eq_true, beq_iff_eq] at found
      have same : n = number := Text.toString_injective (Text.bytesOf_injective found.1)
      rw [same, gone] at found
      cases found.2
    · rfl
  · rfl

theorem lookup_numbered {table : Inode} {owner : UInt32} {mode : Nat}
    (shows : m.node? table = some ⟨.processes, owner, mode⟩) (gone : m.process? number = none) :
    m.lookup c (.node table) (numbered number) = .ok none := by
  have undotted : (numbered number == dotName) = false :=
    beq_eq_false_iff_ne.2 (numbered_ne (s := ".") (c := '.') (by decide) (by decide) number)
  have undoubled : (numbered number == dotDotName) = false :=
    beq_eq_false_iff_ne.2 (numbered_ne (s := "..") (c := '.') (by decide) (by decide) number)
  simp only [lookup, shows, undotted, undoubled, processNumber?_numbered gone, Bool.false_eq_true,
    ↓reduceIte, Option.map_none]

/-- A walk through the directory of a process that does not exist ends there, at a missing name. -/
theorem Descends.gone {table : Inode} {owner : UInt32} {mode : Nat} {more : List Bytes} {course : Course}
    (listed : (m.entries rootInode).lookup procName = some table)
    (shows : m.node? table = some ⟨.processes, owner, mode⟩) (gone : m.process? number = none)
    (walked : Descends m c follow (.node rootInode) (procName :: numbered number :: more) course) :
    course = .arrived (.entry (.node table) (numbered number) none) := by
  have names : procName.length ≤ longestName ∧ isDots procName = false := by decide +kernel
  have plain : m.linkTarget? (.node table) = none := by simp only [linkTarget?, shows]
  have missed := lookup_numbered (c := c) shows gone
  have only {next : Option Place} (looked : m.lookup c (.node rootInode) procName = .ok next) :
      next = some (.node table) := by
    rcases lookup_listed c listed names.2 names.1 with there | barred
    · rw [there] at looked
      cases looked
      rfl
    · rw [barred] at looked
      cases looked
  cases walked with
  | turned looked link goes =>
    cases only looked
    rw [plain] at link
    cases link
  | past looked _ _ later =>
    cases only looked
    cases later with
    | missing _ => rfl
    | unfollowed looked | turned looked | last looked | past looked =>
      rw [missed] at looked
      cases looked

theorem find_through (mounted : Mounted m) (gone : m.process? number = none) (through : Through number path)
    {spot : Spot} (found : m.find c follow path = .ok spot) : spot.place? = none := by
  obtain ⟨table, owner, mode, listed, shows⟩ := mounted
  obtain ⟨start, more, steps⟩ := names_through (c := c) through
  have walked := (find_eq_ok.1 found).2.2.2
  rw [start, steps] at walked
  cases walked with
  | arrived descended => cases descended.gone listed shows gone; rfl
  | detour turned later => cases turned.gone listed shows gone

end Host.Machine

namespace Attach

theorem through_append (pid : Pid) (rest : String) {behind : String} (whole : behind = "/" ++ rest) :
    Host.Machine.Through pid.number.toNat (Path.ofString (processDirectory pid ++ behind)) := by
  subst whole
  refine ⟨Text.bytesOf rest, ?_⟩
  have front : processDirectory pid = "/proc/" ++ toString pid.number.toNat := by
    simp [processDirectory, ToString.toString, Pid.shown]
  have slashes : Text.bytesOf "/proc/" = Path.slash :: (Host.Machine.procName ++ [Path.slash]) := by
    decide +kernel
  have slash : Text.bytesOf "/" = [Path.slash] := by decide +kernel
  simp [Path.ofString, front, Text.bytesOf_append, slashes, slash, Host.Machine.numbered]

theorem through_join {number : Nat} {p q : Path} (through : Host.Machine.Through number p)
    (relative : q.isAbsolute = false) : Host.Machine.Through number (p.join q) := by
  obtain ⟨rest, whole⟩ := through
  simp only [Path.join, relative, Bool.false_eq_true, ↓reduceIte]
  split
  · exact ⟨rest ++ q.bytes, by simp [whole]⟩
  · exact ⟨rest ++ Path.slash :: q.bytes, by simp [whole]⟩

theorem relative_name (inner : UInt32) : (Trigger.name inner).isAbsolute = false := by
  have dotted : Text.bytesOf Trigger.stem = 46 :: (Text.bytesOf Trigger.stem).tail := by decide +kernel
  simp only [Trigger.name, Path.isAbsolute, Path.ofString, Text.bytesOf_append]
  rw [dotted]
  rfl

theorem through_inDirectory (pid : Pid) (inner : UInt32) :
    Host.Machine.Through pid.number.toNat (Trigger.inDirectory pid inner) :=
  through_join (through_append pid "cwd" rfl) (relative_name inner)

end Attach

end JvmAttach
