import JvmAttach.Proofs.ReplyGrammar

/-! The message behind a status. Its lines are decoded one by one and put together, and that is the same as to
decode all of it at once and to take out the line ends: no character reaches from one line into the next, and no
line end is decoded from anything else. -/
namespace JvmAttach.Wire

open Text Source

/-- Nothing but carriage returns stands before the next newline or the end of the text. -/
def atLineEnd : List Char → Bool
  | [] => true
  | c :: text => c == '\n' || c == '\r' && atLineEnd text

/-- A text without its newlines, the carriage returns right before each of them, and those at the very end. -/
def unbroken : List Char → List Char
  | [] => []
  | c :: text => if atLineEnd (c :: text) then unbroken text else c :: unbroken text

variable {ends text tail : List Char}

theorem atLineEnd_append (returns : ∀ c ∈ ends, c = '\r') (ended : atLineEnd tail = true) :
    atLineEnd (ends ++ tail) = true := by
  induction ends with
  | nil => exact ended
  | cons c ends ih =>
    have rest := ih fun d mem => returns d (List.mem_cons_of_mem _ mem)
    rw [List.cons_append, atLineEnd, returns c List.mem_cons_self, rest]
    rfl

theorem unbroken_returns (returns : ∀ c ∈ ends, c = '\r') (ended : atLineEnd tail = true) :
    unbroken (ends ++ tail) = unbroken tail := by
  induction ends with
  | nil => rfl
  | cons c ends ih =>
    have here : atLineEnd (c :: (ends ++ tail)) = true := atLineEnd_append returns ended
    rw [List.cons_append, unbroken, if_pos here]
    exact ih fun d mem => returns d (List.mem_cons_of_mem _ mem)

theorem atLineEnd_of_text (nonempty : text ≠ []) (free : '\n' ∉ text) (last : text.getLast? ≠ some '\r')
    (tail : List Char) : atLineEnd (text ++ tail) = false := by
  induction text with
  | nil => exact absurd rfl nonempty
  | cons c text ih =>
    have apart : c ≠ '\n' := fun same => free (same ▸ List.mem_cons_self)
    have below : c = '\r' → atLineEnd (text ++ tail) = false := by
      rintro rfl
      have more : text ≠ [] := by
        rintro rfl
        exact last rfl
      rw [List.getLast?_cons_of_ne_nil more] at last
      exact ih more (fun mem => free (List.mem_cons_of_mem _ mem)) last
    simpa [atLineEnd, apart] using below

theorem unbroken_append (free : '\n' ∉ text) (last : text.getLast? ≠ some '\r') (tail : List Char) :
    unbroken (text ++ tail) = text ++ unbroken tail := by
  induction text with
  | nil => rfl
  | cons c text ih =>
    have here : atLineEnd (c :: (text ++ tail)) = false :=
      atLineEnd_of_text (List.cons_ne_nil c text) free last tail
    have still : text.getLast? ≠ some '\r' := by
      intro ended
      have more : text ≠ [] := by
        rintro rfl
        cases ended
      exact last ((List.getLast?_cons_of_ne_nil more).trans ended)
    rw [List.cons_append, unbroken, here, ih (fun mem => free (List.mem_cons_of_mem _ mem)) still]
    rfl

/-- The text of a line is not at a line end: no character of it stands for a newline, and none at its end for a
carriage return. -/
theorem wording_plain {line : Bytes} (free : newline ∉ line) :
    '\n' ∉ wording line ∧ (wording line).getLast? ≠ some '\r' := by
  constructor
  · intro mem
    obtain ⟨b, inside, same⟩ := byte_of_mem_decode mem (by decide)
    have own : b = newline := UInt8.toNat_inj.1 same
    exact free (own ▸ (List.rdropWhile_prefix _ line).subset inside)
  · intro ended
    by_cases none : line.rdropWhile (· == carriageReturn) = []
    · rw [wording, none] at ended
      cases ended
    · have last := List.rdropWhile_last_not _ _ none
      rw [wording, ← List.dropLast_concat_getLast none] at ended
      have same := byte_of_getLast?_decode ended (by decide)
      have own : (line.rdropWhile (· == carriageReturn)).getLast none = carriageReturn := UInt8.toNat_inj.1 same
      exact last (by simp [own])

theorem unbroken_line {line : Bytes} (free : newline ∉ line) (ended : atLineEnd tail = true) :
    unbroken (decode line ++ tail) = wording line ++ unbroken tail := by
  obtain ⟨plain, last⟩ := wording_plain free
  have cut : line.rdropWhile (· == carriageReturn) ++ line.rtakeWhile (· == carriageReturn) = line :=
    List.rdropWhile_append_rtakeWhile
  have returns : ∀ b ∈ line.rtakeWhile (· == carriageReturn), b = carriageReturn :=
    fun b mem => beq_iff_eq.1 (List.mem_rtakeWhile_imp (p := (· == carriageReturn)) mem)
  have ascii : ∀ b ∈ line.rtakeWhile (· == carriageReturn), b < 0x80 := by
    intro b mem
    rw [returns b mem]
    decide
  have whole : decode line = wording line ++
      (line.rtakeWhile (· == carriageReturn)).map fun b => Char.ofNat b.toNat := by
    rw [wording, ← decode_append_ascii _ _ ascii, cut]
  rw [whole, List.append_assoc, unbroken_append plain last, unbroken_returns _ ended]
  intro c mem
  obtain ⟨b, inside, rfl⟩ := List.mem_map.1 mem
  rw [returns b inside]
  rfl

theorem Lines.eq_unbroken {data : Bytes} {text : List Char} (lines : Lines data text) :
    text = unbroken (decode data) := by
  induction lines with
  | none => rfl
  | @more _ line rest text first others ih =>
    cases first with
    | ended rest free =>
      have cut : decode (line ++ newline :: rest) = decode line ++ '\n' :: decode rest :=
        decode_append_cons line (by decide) rest
      have taken : unbroken ('\n' :: decode rest) = unbroken (decode rest) := rfl
      rw [cut, unbroken_line free rfl, taken, ih]
    | last some free =>
      have ended : atLineEnd [] = true := rfl
      have alone := unbroken_line free ended
      rw [List.append_nil] at alone
      rw [ih, alone]
      rfl

namespace Reply

/-- Behind any status but zero and the one for another version, the error holds the whole rest of the reply,
decoded at once and without its line ends. -/
theorem refusal_text {s : Source} (intact : Intact s) {status : Int} {rest : Bytes}
    (opens : Opens s.data status rest) (nonzero : status ≠ 0) (other : status ≠ 101) :
    let message := unbroken (decode rest)
    (readLoad.run s).outcome = .error (.agentLoad (if message = [] then "Failed to load agent library"
      else "Failed to load agent library: " ++ String.ofList message)) := by
  intro message
  obtain ⟨text, lines⟩ := exists_lines rest
  have same : text = message := lines.eq_unbroken
  have told := (outcome_readLoad_iff intact).2 (.refused opens nonzero other lines)
  rw [told, same]
  have words : "Failed to load agent library" ++ behind message =
      if message = [] then "Failed to load agent library"
      else "Failed to load agent library: " ++ String.ofList message := by
    by_cases nothing : message = []
    · simp only [behind, nothing, List.isEmpty_nil, ↓reduceIte, String.append_empty]
    · rw [behind, List.isEmpty_eq_false_iff.2 nothing, if_neg nothing, if_neg Bool.false_ne_true,
        ← String.append_assoc]
      rfl
  rw [words]
  rfl

/-- A refusal with characters that are broken off at line ends and carriage returns of every kind. -/
def garbled : Source :=
  [.bytes (bytesOf "-7\r"), .bytes (newline :: 0xE2 :: 0x82 :: carriageReturn :: carriageReturn :: newline :: [0xAC]),
    .interrupted, .bytes (carriageReturn :: bytesOf "x\r")]

theorem refusal_text_garbled :
    Intact garbled ∧ Opens garbled.data (-7) (garbled.data.drop 4) ∧
    (readLoad.run garbled).outcome =
      .error (.agentLoad "Failed to load agent library: \uFFFD\uFFFD\rx") := by
  have intact : Intact garbled := by
    intro fault mem
    simp [garbled] at mem
  have opens : Opens garbled.data (-7) (garbled.data.drop 4) :=
    ⟨bytesOf "-7\r", .ended (garbled.data.drop 4) (by decide +kernel), (integer32_eq_ok_iff _ _).1 (by rfl)⟩
  exact ⟨intact, opens, refusal_text intact opens (by decide) (by decide)⟩

end Reply

end JvmAttach.Wire
