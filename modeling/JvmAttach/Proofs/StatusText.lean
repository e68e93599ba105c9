import JvmAttach.ProcessStatus
import JvmAttach.Proofs.Decimal
import Mathlib.Data.List.Basic
import Mathlib.Data.Nat.Bitwise

/-! Status texts read back. Of the lines of a text the first that begins with a label counts, whatever the other
lines hold and however each of them ends. Behind one label stand numbers, of which the last is read, and behind
the other a mask. -/
namespace JvmAttach

namespace Text

/-- The words of a text in front of others; the first of them may go on to the left. -/
def openWords (others : List (List Char)) (s : List Char) : List Char × List (List Char) :=
  s.foldr (fun c state => if isBlank c then ([], addWord state.1 state.2) else (c :: state.1, state.2)) ([], others)

theorem words_eq (s : List Char) : words s = addWord (openWords [] s).1 (openWords [] s).2 := rfl

theorem openWords_cons (others : List (List Char)) (c : Char) (s : List Char) :
    openWords others (c :: s) = if isBlank c then ([], addWord (openWords others s).1 (openWords others s).2)
      else (c :: (openWords others s).1, (openWords others s).2) := by
  unfold openWords
  rw [List.foldr_cons]

theorem addWord_append (w : List Char) (ws others : List (List Char)) :
    addWord w (ws ++ others) = addWord w ws ++ others := by
  cases w <;> rfl

theorem openWords_eq (others : List (List Char)) (s : List Char) :
    openWords others s = ((openWords [] s).1, (openWords [] s).2 ++ others) := by
  induction s with
  | nil => rfl
  | cons c s ih =>
    rw [openWords_cons, openWords_cons, ih]
    split
    · rw [addWord_append]
    · rfl

/-- Words on the two sides of a blank character are apart. -/
theorem words_append_blank {c : Char} (blank : isBlank c) (s t : List Char) :
    words (s ++ c :: t) = words s ++ words t := by
  have tail : openWords [] (c :: t) = ([], words t) := by rw [openWords_cons, if_pos blank, words_eq]
  have whole : openWords [] (s ++ c :: t) = openWords (words t) s := by
    unfold openWords at tail ⊢
    rw [List.foldr_append, tail]
  rw [words_eq, whole, openWords_eq, addWord_append, ← words_eq]

theorem words_of_blank {s : List Char} (blank : ∀ c ∈ s, isBlank c) : words s = [] := by
  induction s with
  | nil => rfl
  | cons c s ih =>
    have rest := ih fun d mem => blank d (List.mem_cons_of_mem _ mem)
    rw [← List.nil_append (c :: s), words_append_blank (blank c List.mem_cons_self), rest]
    rfl

theorem words_append_blanks (s : List Char) {back : List Char} (blank : ∀ c ∈ back, isBlank c) :
    words (s ++ back) = words s := by
  cases back with
  | nil => rw [List.append_nil]
  | cons c back =>
    have none := words_of_blank fun d mem => blank d (List.mem_cons_of_mem _ mem)
    rw [words_append_blank (blank c List.mem_cons_self), none, List.append_nil]

theorem words_blanks_append {front : List Char} (blank : ∀ c ∈ front, isBlank c) (s : List Char) :
    words (front ++ s) = words s := by
  induction front with
  | nil => rfl
  | cons c front ih =>
    have rest := ih fun d mem => blank d (List.mem_cons_of_mem _ mem)
    rw [List.cons_append, ← List.nil_append (c :: _), words_append_blank (blank c List.mem_cons_self), rest]
    rfl

theorem openWords_of_unblank {s : List Char} (unblank : ∀ c ∈ s, isBlank c = false) : openWords [] s = (s, []) := by
  induction s with
  | nil => rfl
  | cons c s ih =>
    rw [openWords_cons, ih fun d mem => unblank d (List.mem_cons_of_mem _ mem), unblank c List.mem_cons_self]
    rfl

theorem words_of_unblank {s : List Char} (some : s ≠ []) (unblank : ∀ c ∈ s, isBlank c = false) :
    words s = [s] := by
  rw [words_eq, openWords_of_unblank unblank, addWord, List.isEmpty_eq_false_iff.2 some]
  rfl

theorem lines_cons {row : List Char} (free : '\n' ∉ row) (text : List Char) :
    lines (row ++ '\n' :: text) = dropReturn row :: lines text := by
  obtain ⟨piece, others, cut⟩ := List.exists_cons_of_ne_nil (pieces_ne_nil '\n' text)
  simp only [lines, pieces_append_sep '\n' row text free, cut, List.dropLast_cons_cons, List.map_cons,
    List.getLast?_cons_cons, List.cons_append]

theorem lines_last {row : List Char} (free : '\n' ∉ row) (some : row ≠ []) : lines row = [row] := by
  simp [lines, pieces_of_free '\n' row free, some]

theorem dropReturn_cases (row : List Char) : dropReturn row = row ∨ row = dropReturn row ++ ['\r'] := by
  unfold dropReturn
  split
  · rename_i ended
    obtain ⟨front, rfl⟩ := List.getLast?_eq_some_iff.1 ended
    exact .inr (by rw [List.dropLast_concat])
  · exact .inl rfl

theorem dropReturn_append (row : List Char) : dropReturn (row ++ ['\r']) = row := by
  simp [dropReturn]

/-- A text made of lines. Each ends in a newline, with a carriage return before it or without; the last one may
also end where the text does. -/
inductive Lined : List (List Char) → List Char → Prop
  | nothing : Lined [] []
  | last {row : List Char} (free : '\n' ∉ row) (some : row ≠ []) : Lined [row] row
  | ended {row : List Char} {rows : List (List Char)} {text : List Char} (free : '\n' ∉ row)
      (others : Lined rows text) : Lined (row :: rows) (row ++ '\n' :: text)
  | returned {row : List Char} {rows : List (List Char)} {text : List Char} (free : '\n' ∉ row)
      (others : Lined rows text) : Lined (row :: rows) (row ++ '\r' :: '\n' :: text)

variable {row : List Char} {rows : List (List Char)} {text head : List Char}

theorem Lined.lines_cons (lined : Lined (row :: rows) text) :
    ∃ kept rest, lines text = kept :: lines rest ∧ Lined rows rest ∧ (kept = row ∨ row = kept ++ ['\r']) := by
  cases lined with
  | last free some => exact ⟨row, [], lines_last free some, .nothing, .inl rfl⟩
  | @ended _ _ rest free others =>
    exact ⟨dropReturn row, rest, Text.lines_cons free rest, others, dropReturn_cases row⟩
  | @returned _ _ rest free others =>
    have apart : '\n' ∉ row ++ ['\r'] := by simp [free]
    have whole : row ++ '\r' :: '\n' :: rest = (row ++ ['\r']) ++ '\n' :: rest := by simp
    refine ⟨row, rest, ?_, others, .inl rfl⟩
    rw [whole, Text.lines_cons apart, dropReturn_append]

theorem lineAfter_nothing (lined : Lined [] text) : lineAfter head text = none := by
  cases lined
  rfl

theorem lineAfter_other (lined : Lined (row :: rows) text) (other : ¬ head <+: row) :
    ∃ rest, Lined rows rest ∧ lineAfter head text = lineAfter head rest := by
  obtain ⟨kept, rest, read, others, same⟩ := lined.lines_cons
  have unlabelled : head.isPrefixOf kept = false := by
    rw [Bool.eq_false_iff, ne_eq, List.isPrefixOf_iff_prefix]
    intro labelled
    apply other
    rcases same with rfl | rfl
    · exact labelled
    · exact labelled.trans (List.prefix_append kept _)
  refine ⟨rest, others, ?_⟩
  simp only [lineAfter, read, List.findSome?_cons, unlabelled, Bool.false_eq_true, ↓reduceIte]

theorem lineAfter_label {value : List Char} (lined : Lined ((head ++ value) :: rows) text) (apart : '\r' ∉ head) :
    ∃ kept, lineAfter head text = some kept ∧ (kept = value ∨ value = kept ++ ['\r']) := by
  obtain ⟨line, rest, read, -, same⟩ := lined.lines_cons
  have behind : ∃ kept, line = head ++ kept ∧ (kept = value ∨ value = kept ++ ['\r']) := by
    rcases same with rfl | shorter
    · exact ⟨value, rfl, .inl rfl⟩
    · -- the carriage return is not the label's
      rcases List.eq_nil_or_concat' value with rfl | ⟨kept, c, rfl⟩
      · rw [List.append_nil] at shorter
        exact absurd (by simp [shorter]) apart
      · rw [← List.append_assoc] at shorter
        obtain ⟨rfl, ends⟩ := List.append_inj' shorter rfl
        exact ⟨kept, rfl, .inr (by rw [ends])⟩
  obtain ⟨kept, rfl, either⟩ := behind
  have labelled : head.isPrefixOf (head ++ kept) = true :=
    List.isPrefixOf_iff_prefix.2 (List.prefix_append head kept)
  refine ⟨kept, ?_, either⟩
  simp only [lineAfter, read, List.findSome?_cons, labelled, ↓reduceIte, List.drop_left]

theorem digit_hexadecimal : ∀ d < 16, hexDigit (Nat.digitChar d) = some d := by decide

theorem written_hexadecimal (n k : Nat) : hexadecimal.Written (List.replicate k '0' ++ Nat.toDigits 16 n) n := by
  have worth : hexadecimal.Worth (Nat.toDigits 16 n) n := Radix.worth_toDigits (by decide) digit_hexadecimal n
  exact .bare (Radix.worth_zeros rfl worth k)

theorem unblank_of_hexDigit {c : Char} {d : Nat} (digit : hexDigit c = some d) : isBlank c = false := by
  have range : (48 ≤ c.toNat ∧ c.toNat ≤ 57) ∨ (97 ≤ c.toNat ∧ c.toNat ≤ 102) ∨ (65 ≤ c.toNat ∧ c.toNat ≤ 70) := by
    simp only [hexDigit] at digit
    split at digit
    · rename_i within
      exact .inl within
    · split at digit
      · rename_i within
        exact .inr (.inl within)
      · split at digit
        · rename_i within
          exact .inr (.inr within)
        · cases digit
  simp only [isBlank, Bool.or_eq_false_iff, Bool.and_eq_false_iff, decide_eq_false_iff_not, beq_eq_false_iff_ne]
  omega

end Text

namespace ProcessStatus

open Text

/-- Numbers between blank characters. -/
inductive Lists : List UInt32 → List Char → Prop
  | last {front word back : List Char} {id : UInt32} (before : ∀ c ∈ front, isBlank c)
      (written : decimal.Written word id.toNat) (behind : ∀ c ∈ back, isBlank c) :
      Lists [id] (front ++ word ++ back)
  | more {front word rest : List Char} {id : UInt32} {ids : List UInt32} {gap : Char}
      (before : ∀ c ∈ front, isBlank c) (written : decimal.Written word id.toNat) (blank : isBlank gap)
      (others : Lists ids rest) : Lists (id :: ids) (front ++ word ++ gap :: rest)

/-- A mask between blank characters. -/
inductive Masks : UInt64 → List Char → Prop
  | mask {front digits back : List Char} {mask : UInt64} (before : ∀ c ∈ front, isBlank c)
      (written : hexadecimal.Written digits mask.toNat) (behind : ∀ c ∈ back, isBlank c) :
      Masks mask (front ++ digits ++ back)

/-- The lines of a status, with the innermost id and the mask that they show, if they show any. -/
inductive Shows : List (List Char) → Option UInt32 → Option UInt64 → Prop
  | nothing : Shows [] none none
  | other {row : List Char} {rows : List (List Char)} {id : Option UInt32} {mask : Option UInt64}
      (noIds : ¬ namespaceLabel <+: row) (noMask : ¬ caughtLabel <+: row) (others : Shows rows id mask) :
      Shows (row :: rows) id mask
  | ids {ids : List UInt32} {value : List Char} {rows : List (List Char)} {mask : Option UInt64}
      (lists : Lists ids value) (others : Shows rows none mask) :
      Shows ((namespaceLabel ++ value) :: rows) ids.getLast? mask
  | caught {mask : UInt64} {value : List Char} {rows : List (List Char)} {id : Option UInt32}
      (masks : Masks mask value) (others : Shows rows id none) :
      Shows ((caughtLabel ++ value) :: rows) id (some mask)

variable {rows : List (List Char)} {text : List Char} {id : Option UInt32} {mask : Option UInt64}

theorem words_of_written {word : List Char} {n : Nat} (written : decimal.Written word n) : words word = [word] := by
  refine words_of_unblank ?_ (unblank_of_written unblank_of_digit written)
  cases written with
  | bare worth => exact worth.1
  | plus worth => exact List.cons_ne_nil _ _

theorem Lists.last_word {ids : List UInt32} {value : List Char} (lists : Lists ids value) :
    ∃ word last, (words value).getLast? = some word ∧ decimal.Written word last.toNat ∧ ids.getLast? = some last := by
  induction lists with
  | @last front word back id before written behind =>
    refine ⟨word, id, ?_, written, rfl⟩
    rw [words_append_blanks _ behind, words_blanks_append before, words_of_written written]
    rfl
  | @more front word rest id ids gap before written blank others ih =>
    obtain ⟨final, last, found, final_written, ends⟩ := ih
    refine ⟨final, last, ?_, final_written, ?_⟩
    · rw [words_append_blank blank, List.getLast?_append, found]
      rfl
    · rw [List.getLast?_cons, ends]
      rfl

theorem words_kept {kept value : List Char} (same : kept = value ∨ value = kept ++ ['\r']) :
    words kept = words value := by
  rcases same with rfl | rfl
  · rfl
  · exact (words_append_blanks kept (List.forall_mem_singleton.2 (by decide))).symm

theorem trim_kept {kept value : List Char} (same : kept = value ∨ value = kept ++ ['\r']) :
    trim kept = trim value := by
  rcases same with rfl | rfl
  · rfl
  · exact (trim_append_blank kept (List.forall_mem_singleton.2 (by decide))).symm

theorem innermostPid_of_lists {ids : List UInt32} {value kept : List Char} (lists : Lists ids value)
    (read : lineAfter namespaceLabel text = some kept) (same : kept = value ∨ value = kept ++ ['\r']) :
    innermostPid text = ids.getLast? := by
  obtain ⟨word, last, found, written, ends⟩ := lists.last_word
  have bounded : last.toNat ≤ 0xffffffff := Nat.le_of_lt_succ last.toNat_lt
  have number : natural decimal 0xffffffff word = .ok last.toNat :=
    (natural_eq_ok_iff decimal_positive rfl _ _ _).2 ⟨written, bounded⟩
  simp only [innermostPid, read, words_kept same, found, number, ends]
  exact congrArg some UInt32.ofNat_toNat

theorem caughtSignals_of_masks {mask : UInt64} {value kept : List Char} (masks : Masks mask value)
    (read : lineAfter caughtLabel text = some kept) (same : kept = value ∨ value = kept ++ ['\r']) :
    caughtSignals text = some mask := by
  cases masks with
  | @mask front digits back _ before written behind =>
    have bounded : mask.toNat ≤ 0xffffffffffffffff := Nat.le_of_lt_succ mask.toNat_lt
    have number : natural hexadecimal 0xffffffffffffffff digits = .ok mask.toNat :=
      (natural_eq_ok_iff (by decide) rfl _ _ _).2 ⟨written, bounded⟩
    have inner : trim (front ++ digits ++ back) = digits := by
      rw [trim_append_blank _ behind, trim_blank_append before,
        trim_of_unblank (unblank_of_written unblank_of_hexDigit written)]
    simp only [caughtSignals, read, trim_kept same, inner, number]
    exact congrArg some UInt64.ofNat_toNat

theorem labels_apart (value : List Char) :
    ¬ namespaceLabel <+: caughtLabel ++ value ∧ ¬ caughtLabel <+: namespaceLabel ++ value := by
  constructor
  · rintro ⟨rest, same⟩
    have first : some 'N' = some 'S' := congrArg List.head? same
    exact absurd first (by decide)
  · rintro ⟨rest, same⟩
    have first : some 'S' = some 'N' := congrArg List.head? same
    exact absurd first (by decide)

theorem innermostPid_of_other {row : List Char} (lined : Lined (row :: rows) text) (other : ¬ namespaceLabel <+: row) :
    ∃ rest, Lined rows rest ∧ innermostPid text = innermostPid rest := by
  obtain ⟨rest, others, same⟩ := lineAfter_other lined other
  exact ⟨rest, others, by rw [innermostPid, same, innermostPid]⟩

theorem caughtSignals_of_other {row : List Char} (lined : Lined (row :: rows) text) (other : ¬ caughtLabel <+: row) :
    ∃ rest, Lined rows rest ∧ caughtSignals text = caughtSignals rest := by
  obtain ⟨rest, others, same⟩ := lineAfter_other lined other
  exact ⟨rest, others, by rw [caughtSignals, same, caughtSignals]⟩

theorem innermostPid_of_shows (shows : Shows rows id mask) (lined : Lined rows text) : innermostPid text = id := by
  induction shows generalizing text with
  | nothing => rw [innermostPid, lineAfter_nothing lined]
  | other noIds noMask others ih =>
    obtain ⟨rest, below, same⟩ := innermostPid_of_other lined noIds
    rw [same, ih below]
  | ids lists others ih =>
    obtain ⟨kept, read, same⟩ := lineAfter_label lined (by decide +kernel)
    exact innermostPid_of_lists lists read same
  | @caught _ value _ _ masks others ih =>
    obtain ⟨rest, below, same⟩ := innermostPid_of_other lined (labels_apart value).1
    rw [same, ih below]

theorem caughtSignals_of_shows (shows : Shows rows id mask) (lined : Lined rows text) :
    caughtSignals text = mask := by
  induction shows generalizing text with
  | nothing => rw [caughtSignals, lineAfter_nothing lined]
  | other noIds noMask others ih =>
    obtain ⟨rest, below, same⟩ := caughtSignals_of_other lined noMask
    rw [same, ih below]
  | @ids _ value _ _ lists others ih =>
    obtain ⟨rest, below, same⟩ := caughtSignals_of_other lined (labels_apart value).2
    rw [same, ih below]
  | caught masks others ih =>
    obtain ⟨kept, read, same⟩ := lineAfter_label lined (by decide +kernel)
    exact caughtSignals_of_masks masks read same

theorem catchesQuit_iff (mask : UInt64) : catchesQuit mask = true ↔ mask &&& 4 ≠ 0 := by
  have words : mask &&& 4 = 0 ↔ mask.toNat &&& 2 ^ 2 = 0 := by
    rw [← UInt64.toNat_inj, UInt64.toNat_and]
    rfl
  rw [ne_eq, words, Nat.and_two_pow]
  have same : catchesQuit mask = mask.toNat.testBit 2 := rfl
  cases bit : mask.toNat.testBit 2 <;> simp [same, bit]

/-- Of a status with the ids and the mask among any other lines, in either order and with either kind of line
ends, the innermost id and the mask are read, and nothing where the status does not show them. -/
theorem status_read {rows : List (List Char)} {text : List Char} {id : Option UInt32} {mask : Option UInt64}
    (lined : Lined rows text) (shows : Shows rows id mask) :
    innermostPid text = id ∧ caughtSignals text = mask ∧
      ∀ signals, mask = some signals → (catchesQuit signals = true ↔ signals &&& 4 ≠ 0) :=
  ⟨innermostPid_of_shows shows lined, caughtSignals_of_shows shows lined, fun signals _ => catchesQuit_iff signals⟩

/-- The mask before the ids, behind a process that has their labels in its name. -/
def crossed : List (List Char) :=
  ["Name:\tNSpid:9 SigCgt:0".toList, caughtLabel ++ ("\t".toList ++ "0000000000004004".toList ++ []), [],
    namespaceLabel ++ ("\t".toList ++ "4711".toList ++ '\u3000' :: ([] ++ "17".toList ++ " ".toList))]

def crossedText : List Char := "Name:\tNSpid:9 SigCgt:0\r\nSigCgt:\t0000000000004004\n\r\nNSpid:\t4711\u300017 ".toList

theorem status_read_crossed :
    Lined crossed crossedText ∧ Shows crossed (some 17) (some 0x4004) ∧ innermostPid crossedText = some 17 ∧
      caughtSignals crossedText = some 0x4004 ∧ catchesQuit 0x4004 = true := by
  have lined : Lined crossed crossedText := by
    refine .returned ?_ (.ended ?_ (.returned ?_ (.last ?_ ?_))) <;> decide +kernel
  have tab : ∀ c ∈ "\t".toList, isBlank c := List.all_eq_true.1 (by decide +kernel)
  have space : ∀ c ∈ " ".toList, isBlank c := List.all_eq_true.1 (by decide +kernel)
  have mask : Masks 0x4004 ("\t".toList ++ "0000000000004004".toList ++ []) :=
    .mask tab (written_hexadecimal 0x4004 12) nofun
  have ids : Lists [4711, 17] ("\t".toList ++ "4711".toList ++ '\u3000' :: ([] ++ "17".toList ++ " ".toList)) :=
    .more tab (.bare (worth_toDigits 4711)) (by decide) (.last nofun (.bare (worth_toDigits 17)) space)
  have shows : Shows crossed (some 17) (some 0x4004) := by
    refine .other ?_ ?_ (.caught mask (.other ?_ ?_ (.ids ids .nothing))) <;> decide +kernel
  obtain ⟨innermost, caught, quit⟩ := status_read lined shows
  exact ⟨lined, shows, innermost, caught, (quit _ rfl).2 (by decide)⟩

end ProcessStatus

end JvmAttach
