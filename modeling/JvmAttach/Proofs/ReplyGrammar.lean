import JvmAttach.Proofs.ReplyMeaning
import JvmAttach.Proofs.Stretches
import Mathlib.Data.List.DropRight

/-! The grammar of replies to a load. What a reply says is read off its lines: a status, and behind a status
of zero what the entry point returned or some other text. Every reply tells one thing, and reading it gives
that. A text of the listener is passed on as it is, so that it may be one that is given for other replies. -/
namespace JvmAttach.Wire

open Text

namespace Source

/-- The text of a line, without the carriage returns at its end. -/
def wording (line : Bytes) : List Char := decode (line.rdropWhile (· == carriageReturn))

theorem rdropWhile_isLineEnd {line : Bytes} (free : newline ∉ line) :
    line.rdropWhile isLineEnd = line.rdropWhile (· == carriageReturn) := by
  induction line using List.reverseRecOn with
  | nil => rfl
  | append_singleton line b ih =>
    simp only [List.mem_append, List.mem_singleton, not_or] at free
    have same : isLineEnd b = (b == carriageReturn) := by
      simp only [isLineEnd, beq_eq_false_iff_ne.2 (Ne.symm free.2), Bool.false_or]
    rw [List.rdropWhile_concat, List.rdropWhile_concat, same, ih free.1]

theorem content_of_free {line : Bytes} (free : newline ∉ line) : content line = wording line := by
  rw [wording, ← rdropWhile_isLineEnd free]
  rfl

end Source

theorem FirstLine.free {data line rest : Bytes} (first : FirstLine data line rest) : newline ∉ line := by
  cases first with
  | ended rest free => exact free
  | last some free => exact free

theorem FirstLine.nonempty {data line rest : Bytes} (first : FirstLine data line rest) : data ≠ [] := by
  cases first with
  | ended rest free => simp
  | last some free => exact some

theorem FirstLine.shorter {data line rest : Bytes} (first : FirstLine data line rest) :
    rest.length < data.length := by
  cases first with
  | ended rest free => simp only [List.length_append, List.length_cons]; omega
  | last some free => exact List.length_pos_iff.2 some

open Source

inductive Lines : Bytes → List Char → Prop
  | none : Lines [] []
  | more {data line rest : Bytes} {text : List Char} (first : FirstLine data line rest)
      (others : Lines rest text) : Lines data (wording line ++ text)

theorem exists_lines (data : Bytes) : ∃ text, Lines data text := by
  induction size : data.length using Nat.strongRecOn generalizing data with
  | _ n ih =>
    by_cases nothing : data = []
    · exact ⟨[], nothing ▸ .none⟩
    · obtain ⟨line, rest, first⟩ := exists_firstLine nothing
      obtain ⟨text, others⟩ := ih _ (size ▸ first.shorter) rest rfl
      exact ⟨_, .more first others⟩

theorem remaining_lines {s : Source} (intact : Intact s) {text : List Char} (lines : Lines s.data text) :
    ∃ t, s.remaining = (.ok text, t) ∧ t.data = [] := by
  generalize whole : s.data = bytes at lines
  induction lines generalizing s with
  | none =>
    obtain ⟨t, read, _, left⟩ := nextLine_of_free intact (by simp [whole])
    rw [whole] at read
    exact ⟨t, remaining_end read, left⟩
  | more first others ih =>
    obtain ⟨line, t, read, some, same, still, left⟩ := nextLine_firstLine intact (whole ▸ first)
    obtain ⟨u, rest, ended⟩ := ih still left
    refine ⟨u, ?_, ended⟩
    rw [remaining_line some read, rest, same, content_of_free first.free]
    rfl

namespace Reply

/-- The first line is an integer, and `rest` stands behind it. -/
def Opens (data : Bytes) (status : Int) (rest : Bytes) : Prop :=
  ∃ first, FirstLine data first rest ∧ Integer32 (trim (decode first)) status

/-- The first line is the integer zero, and the second is none, with the label or without. -/
def Objects (data : Bytes) (text : String) : Prop :=
  ∃ rest second back, Opens data 0 rest ∧ FirstLine rest second back ∧
    (∀ code, ¬ Integer32 (trim (withoutLabel (decode second))) code) ∧ text = String.ofList (wording second)

/-- How a message is put behind the words that stand before it. -/
def behind (message : List Char) : String := if message.isEmpty then "" else ": " ++ String.ofList message

/-- What a reply tells of a load. -/
inductive Tells (data : Bytes) : Except AttachFault Unit → Prop
  | loaded (returns : Returns data 0) : Tells data (.ok ())
  | failed {code : Int} (nonzero : code ≠ 0) (returns : Returns data code) :
      Tells data (.error (.agentInitialization "Agent_OnAttach failed" code))
  | mute (opens : Opens data 0 []) : Tells data (.error (.agentLoad "Target VM did not respond"))
  | objecting {text : String} (objects : Objects data text) : Tells data (.error (.agentLoad text))
  | refused {status : Int} {rest : Bytes} {message : List Char} (opens : Opens data status rest)
      (nonzero : status ≠ 0) (other : status ≠ 101) (lines : Lines rest message) :
      Tells data (.error (.agentLoad ("Failed to load agent library" ++ behind message)))
  | mismatched {rest : Bytes} (opens : Opens data 101 rest) :
      Tells data (.error (.protocol "Protocol mismatch with target VM"))
  | unreadable {first rest : Bytes} (top : FirstLine data first rest)
      (unwritten : ∀ status, ¬ Integer32 (trim (decode first)) status) :
      Tells data (.error (.protocol
        s!"Non-numeric value found - int expected, got '{String.ofList (wording first)}'"))
  | missing (nothing : data = []) : Tells data (.error (.protocol "Premature EOF"))

variable {data rest : Bytes} {status : Int} {s : Source} {said : Except AttachFault Unit}

theorem failure_of_status (nonzero : status ≠ 101) (message : List Char) :
    failure status message = .agentLoad ("Failed to load agent library" ++ behind message) := by
  have kept : failure status message =
      .agentLoad (if message.isEmpty then refusal else refusal ++ ": " ++ String.ofList message) := if_neg nonzero
  rw [kept, behind]
  split
  · rw [String.append_empty]; rfl
  · rw [String.append_assoc]; rfl

theorem exists_tells (data : Bytes) : ∃ said, Tells data said := by
  by_cases nothing : data = []
  · exact ⟨_, .missing nothing⟩
  obtain ⟨first, rest, top⟩ := exists_firstLine nothing
  by_cases written : ∃ status, Integer32 (trim (decode first)) status
  · obtain ⟨status, written⟩ := written
    have opens : Opens data status rest := ⟨first, top, written⟩
    by_cases zero : status = 0
    · subst zero
      by_cases ended : rest = []
      · exact ⟨_, .mute (ended ▸ opens)⟩
      obtain ⟨second, back, next⟩ := exists_firstLine ended
      by_cases coded : ∃ code, Integer32 (trim (withoutLabel (decode second))) code
      · obtain ⟨code, coded⟩ := coded
        have returns : Returns data code := ⟨first, rest, second, back, top, written, next, coded⟩
        by_cases fine : code = 0
        · exact ⟨_, .loaded (fine ▸ returns)⟩
        · exact ⟨_, .failed fine returns⟩
      · exact ⟨_, .objecting ⟨rest, second, back, opens, next, not_exists.1 coded, rfl⟩⟩
    · by_cases mismatch : status = 101
      · exact ⟨_, .mismatched (mismatch ▸ opens)⟩
      · obtain ⟨message, lines⟩ := exists_lines rest
        exact ⟨_, .refused opens zero mismatch lines⟩
  · exact ⟨_, .unreadable top (not_exists.1 written)⟩

theorem readStatus_opens (intact : Intact s) (opens : Opens s.data status rest) :
    ∃ t, readStatus.run s = ⟨.ok status, t, []⟩ ∧ Intact t ∧ t.data = rest := by
  obtain ⟨first, top, written⟩ := opens
  obtain ⟨t, read, still, left⟩ := readLine_firstLine intact top
  rw [← integer32_eq_ok_iff, ← integer_content] at written
  exact ⟨t, run_readStatus_ok read written, still, left⟩

theorem integer_of_unwritten {line : Bytes} (unwritten : ∀ status, ¬ Integer32 (trim (decode line)) status) :
    ∃ fault, integer (content line) = .error fault := by
  cases read : integer (content line) with
  | error fault => exact ⟨fault, rfl⟩
  | ok status =>
    rw [integer_content, integer32_eq_ok_iff] at read
    exact absurd read (unwritten status)

theorem integer_of_uncoded {line : Bytes}
    (uncoded : ∀ code, ¬ Integer32 (trim (withoutLabel (decode line))) code) :
    ∃ fault, integer (withoutLabel (content line)) = .error fault := by
  cases read : integer (withoutLabel (content line)) with
  | error fault => exact ⟨fault, rfl⟩
  | ok code =>
    rw [integer_withoutLabel_content, integer32_eq_ok_iff] at read
    exact absurd read (uncoded code)

theorem readLoad_answered (intact : Intact s) (opens : Opens s.data 0 rest) {second back : Bytes}
    (next : FirstLine rest second back) :
    ∃ t, readLoad.run s = ⟨.ofExcept (result (content second)), t, []⟩ ∧ t.data = back := by
  obtain ⟨t, read, still, left⟩ := readStatus_opens intact opens
  obtain ⟨u, read', _, left'⟩ := readLine_firstLine still (left ▸ next)
  exact ⟨u, run_readLoad_zero read read', left'⟩

theorem readLoad_opens (intact : Intact s) (opens : Opens s.data status rest) (nonzero : status ≠ 0)
    {message : List Char} (lines : Lines rest message) :
    ∃ t, readLoad.run s = ⟨.error (failure status message), t, []⟩ ∧ t.data = [] := by
  obtain ⟨t, read, still, left⟩ := readStatus_opens intact opens
  obtain ⟨u, whole, ended⟩ := remaining_lines still (left ▸ lines)
  refine ⟨u, ?_, ended⟩
  rw [run_readLoad_refused read nonzero, whole]
  rfl

theorem readLoad_of_tells (intact : Intact s) (tells : Tells s.data said) :
    ∃ t, readLoad.run s = ⟨.ofExcept said, t, []⟩ := by
  cases tells with
  | loaded returns => exact readLoad_returns intact returns
  | @failed code nonzero returns =>
    obtain ⟨t, read⟩ := readLoad_returns intact returns
    refine ⟨t, ?_⟩
    rw [read, returned, if_neg nonzero]
    rfl
  | mute opens =>
    obtain ⟨t, read, still, left⟩ := readStatus_opens intact opens
    obtain ⟨u, read', _, _⟩ := readLine_end still left
    exact ⟨u, run_readLoad_end read read'⟩
  | objecting objects =>
    obtain ⟨rest, second, back, opens, next, uncoded, rfl⟩ := objects
    obtain ⟨t, read, _⟩ := readLoad_answered intact opens next
    obtain ⟨fault, none⟩ := integer_of_uncoded uncoded
    refine ⟨t, ?_⟩
    rw [read, result_of_text none, content_of_free next.free]
  | @refused status rest message opens nonzero other lines =>
    obtain ⟨t, read, _⟩ := readLoad_opens intact opens nonzero lines
    refine ⟨t, ?_⟩
    rw [read, failure_of_status other]
    rfl
  | @mismatched rest opens =>
    obtain ⟨message, lines⟩ := exists_lines rest
    obtain ⟨t, read, _⟩ := readLoad_opens intact opens (by decide) lines
    exact ⟨t, read⟩
  | unreadable top unwritten =>
    obtain ⟨t, read, _, _⟩ := readLine_firstLine intact top
    obtain ⟨fault, none⟩ := integer_of_unwritten unwritten
    refine ⟨t, ?_⟩
    rw [readLoad, Act.run_bind_error (run_readStatus_error read none), content_of_free top.free]
    rfl
  | missing nothing =>
    obtain ⟨t, read, _, _⟩ := readLine_end intact nothing
    refine ⟨t, ?_⟩
    rw [readLoad, Act.run_bind_error (run_readStatus_end read)]
    rfl

theorem Tells.unique {other : Except AttachFault Unit} (tells : Tells data said) (tells' : Tells data other) :
    said = other := by
  have intact : Intact [.bytes data] := by simp [Intact]
  have whole : Source.data [.bytes data] = data := List.append_nil data
  obtain ⟨t, read⟩ := readLoad_of_tells intact (whole.symm ▸ tells)
  obtain ⟨t', read'⟩ := readLoad_of_tells intact (whole.symm ▸ tells')
  have same := congrArg Step.outcome (read.symm.trans read')
  cases said <;> cases other <;> cases same <;> rfl

theorem outcome_readLoad_iff (intact : Intact s) :
    (readLoad.run s).outcome = .ofExcept said ↔ Tells s.data said := by
  obtain ⟨sure, tells⟩ := exists_tells s.data
  obtain ⟨t, read⟩ := readLoad_of_tells intact tells
  rw [read]
  constructor
  · intro same
    have : sure = said := by cases sure <;> cases said <;> cases same <;> rfl
    exact this ▸ tells
  · intro tells'
    rw [tells.unique tells']

theorem no_response_ne (more : String) : "Target VM did not respond" ≠ "Failed to load agent library" ++ more := by
  intro same
  have first := congrArg (fun s : String => s.toList.head?) same
  simp only [String.toList_append] at first
  cases first

theorem tells_agentLoad_iff {text : String} : Tells data (.error (.agentLoad text)) ↔
    text = "Target VM did not respond" ∧ Opens data 0 [] ∨ Objects data text ∨
      ∃ status rest message, Opens data status rest ∧ status ≠ 0 ∧ status ≠ 101 ∧ Lines rest message ∧
        text = "Failed to load agent library" ++ behind message := by
  constructor
  · intro tells
    cases tells with
    | mute opens => exact .inl ⟨rfl, opens⟩
    | objecting objects => exact .inr (.inl objects)
    | refused opens nonzero other lines => exact .inr (.inr ⟨_, _, _, opens, nonzero, other, lines, rfl⟩)
  · rintro (⟨rfl, opens⟩ | objects | ⟨status, rest, message, opens, nonzero, other, lines, rfl⟩)
    · exact .mute opens
    · exact .objecting objects
    · exact .refused opens nonzero other lines

theorem Opens.unique {status' : Int} {rest' : Bytes} (opens : Opens data status rest)
    (opens' : Opens data status' rest') : status = status' ∧ rest = rest' := by
  obtain ⟨first, top, written⟩ := opens
  obtain ⟨first', top', written'⟩ := opens'
  obtain ⟨rfl, rfl⟩ := top.unique top'
  rw [← integer32_eq_ok_iff] at written written'
  exact ⟨Except.ok.inj (written.symm.trans written'), rfl⟩

/-- The message behind a status is longer than its first line, so that it cannot be that line. -/
theorem wording_ne_refusal {second back : Bytes} {message : List Char} (next : FirstLine rest second back)
    (lines : Lines rest message) :
    String.ofList (wording second) ≠ "Failed to load agent library" ++ behind message := by
  cases lines with
  | none => exact absurd rfl next.nonempty
  | @more _ line rest' text first others =>
    obtain ⟨rfl, rfl⟩ := first.unique next
    intro same
    have sizes := congrArg String.length same
    rw [String.length_append, String.length_ofList] at sizes
    have label : 0 < "Failed to load agent library".length := by decide
    have longer : (wording line).length ≤ (behind (wording line ++ text)).length := by
      rw [behind]
      split
      · rename_i nothing
        rw [(List.append_eq_nil_iff.1 (List.isEmpty_iff.1 nothing)).1]
        exact Nat.zero_le _
      · simp only [String.length_append, String.length_ofList, List.length_append]
        omega
    omega

theorem tells_second_iff {first second back : Bytes} (top : FirstLine data first rest)
    (next : FirstLine rest second back) :
    Tells data (.error (.agentLoad (String.ofList (wording second)))) ↔
      Integer32 (trim (decode first)) 0 ∧ ∀ code, ¬ Integer32 (trim (withoutLabel (decode second))) code := by
  rw [tells_agentLoad_iff]
  constructor
  · rintro (⟨-, opens⟩ | ⟨rest', second', back', ⟨first', top', zero⟩, next', uncoded, -⟩ |
      ⟨status, rest', message, opens, -, -, lines, same⟩)
    · obtain ⟨first', top', -⟩ := opens
      exact absurd (top'.unique top).2.symm next.nonempty
    · obtain ⟨rfl, rfl⟩ := top'.unique top
      obtain ⟨rfl, rfl⟩ := next'.unique next
      exact ⟨zero, uncoded⟩
    · obtain ⟨first', top', -⟩ := opens
      obtain ⟨rfl, rfl⟩ := top'.unique top
      exact absurd same (wording_ne_refusal next lines)
  · rintro ⟨zero, uncoded⟩
    exact .inr (.inl ⟨rest, second, back, ⟨first, top, zero⟩, next, uncoded, rfl⟩)

theorem tells_protocol_iff : (∃ why, Tells data (.error (.protocol why))) ↔
    data = [] ∨ (∃ first rest, FirstLine data first rest ∧ ∀ status, ¬ Integer32 (trim (decode first)) status) ∨
      ∃ rest, Opens data 101 rest := by
  constructor
  · rintro ⟨why, tells⟩
    cases tells with
    | mismatched opens => exact .inr (.inr ⟨_, opens⟩)
    | unreadable top unwritten => exact .inr (.inl ⟨_, _, top, unwritten⟩)
    | missing nothing => exact .inl nothing
  · rintro (nothing | ⟨first, rest, top, unwritten⟩ | ⟨rest, opens⟩)
    · exact ⟨_, .missing nothing⟩
    · exact ⟨_, .unreadable top unwritten⟩
    · exact ⟨_, .mismatched opens⟩

theorem tells_refusal_iff : (∃ more, Tells data (.error (.agentLoad ("Failed to load agent library" ++ more)))) ↔
    (∃ status rest, Opens data status rest ∧ status ≠ 0 ∧ status ≠ 101) ∨
      ∃ more, Objects data ("Failed to load agent library" ++ more) := by
  constructor
  · rintro ⟨more, tells⟩
    rcases tells_agentLoad_iff.1 tells with ⟨same, -⟩ | objects | ⟨status, rest, _, opens, nonzero, other, -, -⟩
    · exact absurd same.symm (no_response_ne more)
    · exact .inr ⟨more, objects⟩
    · exact .inl ⟨status, rest, opens, nonzero, other⟩
  · rintro (⟨status, rest, opens, nonzero, other⟩ | ⟨more, objects⟩)
    · obtain ⟨message, lines⟩ := exists_lines rest
      exact ⟨_, .refused opens nonzero other lines⟩
    · exact ⟨more, .objecting objects⟩

/-- Whatever bytes a reply consists of, it is of one kind, by its lines alone. The two texts that the reader
itself writes into the error of a load are also given for a listener that sends them. -/
theorem reply_grammar {s : Source} (intact : Intact s) :
    let outcome := (readLoad.run s).outcome
    (∃ said, outcome = .ofExcept said ∧ Tells s.data said) ∧
    (outcome = .ok () ↔ Returns s.data 0) ∧
    (∀ code, outcome = .error (.agentInitialization "Agent_OnAttach failed" code) ↔
      code ≠ 0 ∧ Returns s.data code) ∧
    (outcome = .error (.agentLoad "Target VM did not respond") ↔
      Opens s.data 0 [] ∨ Objects s.data "Target VM did not respond") ∧
    (∀ first rest second back, FirstLine s.data first rest → FirstLine rest second back →
      (outcome = .error (.agentLoad (String.ofList (wording second))) ↔
        Integer32 (trim (decode first)) 0 ∧ ∀ code, ¬ Integer32 (trim (withoutLabel (decode second))) code)) ∧
    ((∃ why, outcome = .error (.protocol why)) ↔ s.data = [] ∨
      (∃ first rest, FirstLine s.data first rest ∧ ∀ status, ¬ Integer32 (trim (decode first)) status) ∨
      ∃ rest, Opens s.data 101 rest) ∧
    ((∃ more, outcome = .error (.agentLoad ("Failed to load agent library" ++ more))) ↔
      (∃ status rest, Opens s.data status rest ∧ status ≠ 0 ∧ status ≠ 101) ∨
      ∃ more, Objects s.data ("Failed to load agent library" ++ more)) := by
  intro outcome
  have told (said : Except AttachFault Unit) : outcome = .ofExcept said ↔ Tells s.data said :=
    outcome_readLoad_iff intact
  have fails (fault : AttachFault) : outcome = .error fault ↔ Tells s.data (.error fault) := told (.error fault)
  obtain ⟨said, tells⟩ := exists_tells s.data
  refine ⟨⟨said, (told said).2 tells, tells⟩, ?_, fun code => ?_, ?_, fun first rest second back top next => ?_,
    ?_, ?_⟩
  · rw [show outcome = .ok () ↔ _ from told (.ok ())]
    exact ⟨fun | .loaded returns => returns, .loaded⟩
  · rw [fails]
    exact ⟨fun | .failed nonzero returns => ⟨nonzero, returns⟩, fun ⟨nonzero, returns⟩ => .failed nonzero returns⟩
  · rw [fails, tells_agentLoad_iff]
    refine ⟨?_, fun either => either.elim (fun opens => .inl ⟨rfl, opens⟩) fun objects => .inr (.inl objects)⟩
    rintro (⟨-, opens⟩ | objects | ⟨_, _, message, -, -, -, -, same⟩)
    · exact .inl opens
    · exact .inr objects
    · exact absurd same (no_response_ne _)
  · rw [fails, tells_second_iff top next]
  · simp only [fails, tells_protocol_iff]
  · simp only [fails, tells_refusal_iff]

/-- A reply with signs, carriage returns and a label, interrupted behind its first sign. -/
def signed : Source := [.bytes [43], .interrupted, .bytes (bytesOf "0\r\nreturn code: -0")]

theorem reply_grammar_signed :
    Intact signed ∧ (readLoad.run signed).outcome = .ok () ∧ Returns signed.data 0 := by
  have intact : Intact signed := by
    intro fault mem
    simp [signed] at mem
  have loaded : (readLoad.run signed).outcome = .ok () := by decide +kernel
  exact ⟨intact, loaded, (reply_grammar intact).2.1.1 loaded⟩

/-- A reply whose second line is what is given where a second line is missing. -/
def disguised : Bytes := bytesOf "0\nTarget VM did not respond\n"

theorem no_response_of_disguised :
    ¬ ((readLoad.run [.bytes disguised]).outcome = .error (.agentLoad "Target VM did not respond") ↔
      Opens disguised 0 []) := by
  intro either
  have ended : Opens disguised 0 [] := either.1 (by decide +kernel)
  have longer : Opens disguised 0 (bytesOf "Target VM did not respond\n") :=
    ⟨bytesOf "0", .ended _ (by decide +kernel), (integer32_eq_ok_iff _ _).1 (by rfl)⟩
  exact absurd (ended.unique longer).2 (by decide +kernel)

end Reply

end JvmAttach.Wire
