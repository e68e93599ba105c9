import JvmAttach.Proofs.Encoding
import JvmAttach.Wire.Request

/-! Requests as a code. A request that can be told apart from all others is written as five fields, which
cutting it gives back; any other is refused for the number of its arguments or for the first field that
holds a NUL. What two requests with the same bytes ask for differs in empty arguments at the end alone. -/
namespace JvmAttach.Wire

variable {command : String} {arguments : List Bytes} {request : Bytes}

/-- One list of arguments is the other with empty arguments behind it. -/
def UpToEmpty (arguments arguments' : List Bytes) : Prop :=
  ∃ n, arguments' = arguments ++ List.replicate n [] ∨ arguments = arguments' ++ List.replicate n []

/-- Filling up with empty arguments forgets how many there were at the end, and nothing else. -/
theorem rightpad_eq_iff {arguments arguments' : List Bytes} {n : Nat} (few : arguments.length ≤ n)
    (few' : arguments'.length ≤ n) :
    arguments.rightpad n [] = arguments'.rightpad n [] ↔ UpToEmpty arguments arguments' := by
  constructor
  · intro same
    rcases List.append_eq_append_iff.1 same with ⟨more, longer, rest⟩ | ⟨more, longer, rest⟩
    · exact ⟨more.length, .inl (by rw [longer, ← (List.replicate_eq_append_iff.1 rest).2.1])⟩
    · exact ⟨more.length, .inr (by rw [longer, ← (List.replicate_eq_append_iff.1 rest).2.1])⟩
  · have filled (front : List Bytes) (k : Nat) (room : (front ++ List.replicate k []).length ≤ n) :
        (front ++ List.replicate k []).rightpad n [] = front.rightpad n [] := by
      simp only [List.length_append, List.length_replicate] at room
      simp only [List.rightpad, List.append_assoc, List.replicate_append_replicate, List.length_append,
        List.length_replicate]
      congr 2
      omega
    rintro ⟨k, rfl | rfl⟩
    · exact (filled arguments k few').symm
    · exact filled arguments' k few

theorem length_fields (few : arguments.length ≤ argumentCount) : (fields command arguments).length = 5 := by
  simp only [argumentCount] at few
  simp only [fields, argumentCount, List.length_cons, List.length_append, List.length_replicate]
  omega

theorem find?_fields (command : String) (arguments : List Bytes) :
    (fields command arguments).find? (·.contains nul) =
      (Text.bytesOf command :: arguments).find? (·.contains nul) := by
  have front (rest : List Bytes) : (Text.bytesOf version :: rest).find? (·.contains nul) =
      rest.find? (·.contains nul) := by
    have clear : (Text.bytesOf version).contains nul = false := by decide +kernel
    simp only [List.find?_cons, clear]
  have padding (k : Nat) : (List.replicate k ([] : Bytes)).find? (·.contains nul) = none := by
    rw [List.find?_eq_none]
    intro field mem
    rw [List.eq_of_mem_replicate mem]
    exact Bool.false_ne_true
  rw [fields, front, ← List.cons_append, List.find?_append, padding,
    Option.or_none]

theorem encode_eq_ok_iff : encode command arguments = .ok request ↔
    arguments.length ≤ argumentCount ∧ (∀ field ∈ Text.bytesOf command :: arguments, nul ∉ field) ∧
      request = (fields command arguments).flatMap terminated := by
  have clear : (Text.bytesOf command :: arguments).find? (·.contains nul) = none ↔
      ∀ field ∈ Text.bytesOf command :: arguments, nul ∉ field := by
    simp only [List.find?_eq_none, List.contains_iff_mem]
  unfold encode
  rw [find?_fields]
  split
  · rename_i many
    exact ⟨nofun, fun few => absurd few.1 (Nat.not_le.2 many)⟩
  · rename_i few
    split
    · rename_i field found
      refine ⟨nofun, fun written => ?_⟩
      rw [clear.2 written.2.1] at found
      cases found
    · rename_i none
      refine ⟨?_, ?_⟩
      · rintro ⟨⟩
        exact ⟨Nat.not_lt.1 few, clear.1 none, rfl⟩
      · rintro ⟨_, _, rfl⟩
        rfl

theorem free_fields (free : ∀ field ∈ Text.bytesOf command :: arguments, nul ∉ field) :
    ∀ field ∈ fields command arguments, nul ∉ field := by
  have none : (fields command arguments).find? (·.contains nul) = none := by
    rw [find?_fields, List.find?_eq_none]
    exact fun field mem held => free field mem (List.contains_iff_mem.1 held)
  intro field mem held
  exact List.find?_eq_none.1 none field mem (List.contains_iff_mem.2 held)

theorem encode_eq_error {fault : AttachFault} (refused : encode command arguments = .error fault) :
    argumentCount < arguments.length ∧ fault = tooManyArguments command arguments.length ∨
    arguments.length ≤ argumentCount ∧ ∃ front field back,
      Text.bytesOf command :: arguments = front ++ field :: back ∧ (∀ other ∈ front, nul ∉ other) ∧
        nul ∈ field ∧ fault = nulInField field := by
  unfold encode at refused
  rw [find?_fields] at refused
  split at refused
  · rename_i many
    cases refused
    exact .inl ⟨many, rfl⟩
  · rename_i few
    split at refused
    · rename_i field found
      cases refused
      obtain ⟨held, front, back, whole, clear⟩ := List.find?_eq_some_iff_append.1 found
      refine .inr ⟨Nat.not_lt.1 few, front, field, back, whole, fun other mem inside => ?_,
        List.contains_iff_mem.1 held, rfl⟩
      have without := clear other mem
      rw [List.contains_iff_mem.2 inside] at without
      cases without
    · cases refused

theorem tooManyArguments_eq (command : String) (count : Nat) : tooManyArguments command count =
    .invalidArgument s!"attach command '{command}' takes at most 3 arguments, got {count}" := by
  have middle : "' takes at most " ++ toString argumentCount ++ " arguments, got " =
      "' takes at most 3 arguments, got " := by decide +kernel
  have whole (front back : String) : front ++ "' takes at most " ++ toString argumentCount ++
      " arguments, got " ++ back = front ++ "' takes at most 3 arguments, got " ++ back := by
    rw [← middle]
    simp only [String.append_assoc]
  exact congrArg AttachFault.invalidArgument (whole _ _)

theorem fields_inj {command' : String} {arguments' : List Bytes} (few : arguments.length ≤ argumentCount)
    (few' : arguments'.length ≤ argumentCount) : fields command arguments = fields command' arguments' ↔
      command = command' ∧ UpToEmpty arguments arguments' := by
  rw [← rightpad_eq_iff few few']
  simp only [fields, List.rightpad, List.cons.injEq, true_and]
  exact and_congr_left' ⟨Text.bytesOf_injective, congrArg _⟩

/-- A request of a command with at most three arguments, none of which holds a NUL, is five fields that
cutting gives back, so that its bytes tell what it asks for. Any other is refused, for the number of its
arguments before anything else and then for the first field with a NUL. -/
theorem encode_faithful (command : String) (arguments : List Bytes) :
    ((∃ request, encode command arguments = .ok request) ↔
      arguments.length ≤ 3 ∧ nul ∉ Text.bytesOf command ∧ ∀ argument ∈ arguments, nul ∉ argument) ∧
    (∀ request, encode command arguments = .ok request →
      let written := Text.bytesOf "1" :: Text.bytesOf command :: arguments.rightpad 3 []
      written.length = 5 ∧ (∀ field ∈ written, nul ∉ field) ∧
        request = written.flatMap (· ++ [nul]) ∧ fieldsOf request = written) ∧
    (∀ command' arguments' request request', encode command arguments = .ok request →
      encode command' arguments' = .ok request' →
        (request = request' ↔ command = command' ∧ UpToEmpty arguments arguments')) ∧
    ∀ fault, encode command arguments = .error fault →
      3 < arguments.length ∧ fault = .invalidArgument
        s!"attach command '{command}' takes at most 3 arguments, got {arguments.length}" ∨
      arguments.length ≤ 3 ∧ ∃ front field back,
        Text.bytesOf command :: arguments = front ++ field :: back ∧ (∀ other ∈ front, nul ∉ other) ∧
          nul ∈ field ∧ fault = .invalidArgument
            s!"attach request field contains a NUL byte: {Text.shown field}" := by
  refine ⟨?_, ?_, ?_, fun fault refused => ?_⟩
  · simp only [encode_eq_ok_iff, exists_and_left, exists_eq, and_true, List.forall_mem_cons, argumentCount]
  · intro request sent written
    obtain ⟨few, free, rfl⟩ := encode_eq_ok_iff.1 sent
    have clear : ∀ field ∈ written, nul ∉ field := free_fields free
    exact ⟨length_fields few, clear, rfl, fieldsOf_terminated written clear⟩
  · intro command' arguments' request request' sent sent'
    obtain ⟨few, free, rfl⟩ := encode_eq_ok_iff.1 sent
    obtain ⟨few', free', rfl⟩ := encode_eq_ok_iff.1 sent'
    rw [← fields_inj few few']
    refine ⟨fun same => ?_, fun same => by rw [same]⟩
    have cut := congrArg fieldsOf same
    rwa [fieldsOf_terminated _ (free_fields free), fieldsOf_terminated _ (free_fields free')] at cut
  · rw [← tooManyArguments_eq]
    exact encode_eq_error refused

example : encode "load" [Text.bytesOf "/a"] = encode "load" [Text.bytesOf "/a", [], []] := by rfl

end JvmAttach.Wire
