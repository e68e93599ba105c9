import JvmAttach.Proofs.Decimal
import JvmAttach.Proofs.ReplyMeaning
import Mathlib.Data.List.Infix

/-! Replies that end too early. What is left of a number other than zero is another such number or none at
all, so that a reply that reports a failure is still an error wherever it is cut off. -/
namespace JvmAttach.Wire

open Text Source

/-- The first line of what is cut off is the first line, cut off, and only if that is whole does anything
stand behind it. -/
theorem FirstLine.of_cut {data line rest front back : Bytes} (first : FirstLine data line rest)
    (cut : data <+: front ++ newline :: back) (free : newline ∉ front) : line <+: front ∧ rest <+: back := by
  cases first with
  | ended rest free' =>
    obtain ⟨more, whole⟩ := cut
    rw [List.append_assoc, List.cons_append] at whole
    obtain ⟨rfl, rfl⟩ := first_newline free' free whole
    exact ⟨List.prefix_rfl, List.prefix_append rest more⟩
  | last some free' =>
    refine ⟨?_, List.nil_prefix⟩
    rcases List.prefix_or_prefix_of_prefix cut (List.prefix_append front _) with short | ⟨more, rfl⟩
    · exact short
    · rw [List.prefix_append_right_inj, List.prefix_cons_iff] at cut
      obtain rfl | ⟨more, rfl, -⟩ := cut
      · rw [List.append_nil]
      · exact absurd (by simp) free'

namespace Reply

/-- What a listener writes about a load that failed, and the status that it begins with. -/
inductive Failing : Bytes → Int → Prop
  | refused {status : Int} (nonzero : status ≠ 0) (message : Bytes) :
      Failing (bytesOf (toString status) ++ newline :: message) status
  | returned {code : Int} (nonzero : code ≠ 0) {label : String} (labels : label = "" ∨ label = "return code: ") :
      Failing (bytesOf "0" ++ newline :: (bytesOf (label ++ toString code) ++ newline :: [])) 0

variable {status code : Int} {line reply : Bytes} {label : String} {s : Source}

theorem free_of_text {text : List Char} (free : '\n' ∉ text) : newline ∉ Text.encode text :=
  fun mem => free ((mem_encode (by decide)).1 mem)

theorem unwritten_of_cut (nonzero : status ≠ 0) (cut : line <+: bytesOf (toString status)) :
    ¬ Integer32 (trim (decode line)) 0 :=
  not_zero_of_cut nonzero (decode_cut (fun _ => ascii_form) cut)

theorem withoutLabel_of_unlabelled {text : List Char} (apart : 'r' ∉ text) : withoutLabel text = text := by
  refine if_neg fun labelled => apart ?_
  exact (List.isPrefixOf_iff_prefix.1 labelled).subset (by decide)

theorem withoutLabel_label (text : List Char) : withoutLabel (resultLabel ++ text) = text := by
  have labelled : resultLabel.isPrefixOf (resultLabel ++ text) = true :=
    List.isPrefixOf_iff_prefix.2 (List.prefix_append _ _)
  rw [withoutLabel, if_pos labelled, List.drop_left]

theorem unwritten_label : ∀ front ∈ resultLabel.inits, integer32 (trim (withoutLabel front)) ≠ .ok 0 := by
  decide +kernel

theorem uncoded_of_cut (nonzero : code ≠ 0) (labels : label = "" ∨ label = "return code: ") {front : List Char}
    (cut : front <+: (label ++ toString code).toList) : ¬ Integer32 (trim (withoutLabel front)) 0 := by
  rw [String.toList_append] at cut
  rcases labels with rfl | rfl
  · have apart : 'r' ∉ front := fun mem => not_mem_form (by decide) (by decide) (cut.subset mem)
    rw [withoutLabel_of_unlabelled apart]
    exact not_zero_of_cut nonzero cut
  · rcases List.prefix_or_prefix_of_prefix cut (List.prefix_append resultLabel _) with short | ⟨more, rfl⟩
    · rw [← integer32_eq_ok_iff]
      exact unwritten_label front ((List.mem_inits _ _).2 short)
    · rw [withoutLabel_label]
      exact not_zero_of_cut nonzero ((List.prefix_append_right_inj _).1 cut)

theorem ascii_result (code : Int) (labels : label = "" ∨ label = "return code: ") :
    ∀ c ∈ (label ++ toString code).toList, c.toNat < 0x80 ∧ c ≠ '\n' := by
  intro c mem
  rw [String.toList_append, List.mem_append] at mem
  rcases mem with inside | inside
  · have plain : ∀ c ∈ "return code: ".toList, c.toNat < 0x80 ∧ c ≠ '\n' := by simp
    rcases labels with rfl | rfl
    · cases inside
    · exact plain c inside
  · exact ⟨ascii_form inside, fun same => not_mem_form (by decide) (by decide) (same ▸ inside)⟩

/-- What is left of the reply to a load that failed does not return zero; with another status it does not
return anything. -/
theorem returns_of_cut (failing : Failing reply status) {data : Bytes} (cut : data <+: reply)
    (returns : Returns data code) : code ≠ 0 ∧ status = 0 := by
  obtain ⟨first, rest, second, back, top, zero, next, coded⟩ := returns
  cases failing with
  | refused nonzero message =>
    have short := (top.of_cut cut (free_of_text (not_mem_form (by decide) (by decide)))).1
    exact absurd zero (unwritten_of_cut nonzero short)
  | @returned code' nonzero label labels =>
    have plain := ascii_result code' labels
    have below := (top.of_cut cut (by decide)).2
    have short := (next.of_cut below (free_of_text fun mem => (plain _ mem).2 rfl)).1
    refine ⟨?_, rfl⟩
    rintro rfl
    exact uncoded_of_cut nonzero labels (decode_cut (fun c mem => (plain c mem).1) short) coded

/-- Wherever the reply to a load that failed is cut off, reading it is an error; with a status other than zero
it is not the error that counts as success. -/
theorem cut_off_fails (failing : Failing reply status) (intact : Intact s) (cut : s.data <+: reply) :
    ∃ fault t, readLoad.run s = ⟨.error fault, t, []⟩ ∧ (status ≠ 0 → fault.isIgnorable = false) := by
  obtain ⟨said, t, read, meant⟩ := readLoad_meant intact
  cases meant with
  | @returns code returns =>
    obtain ⟨nonzero, zero⟩ := returns_of_cut failing cut returns
    rw [returned, if_neg nonzero] at read
    exact ⟨_, t, read, fun other => absurd zero other⟩
  | fails other serious => exact ⟨_, t, read, fun _ => serious⟩

/-- A status of -101 that reads -10, its sign and its digits apart. -/
def curtailed : Source := [.bytes (bytesOf "-"), .interrupted, .bytes (bytesOf "10")]

theorem cut_off_curtailed :
    ∃ reply, Failing reply (-101) ∧ Intact curtailed ∧ curtailed.data <+: reply ∧
      ∃ fault t, readLoad.run curtailed = ⟨.error fault, t, []⟩ ∧
        ((-101 : Int) ≠ 0 → fault.isIgnorable = false) := by
  have failing : Failing (bytesOf (toString (-101 : Int)) ++ newline :: []) (-101) := .refused (by decide) []
  have intact : Intact curtailed := by
    intro fault mem
    simp [curtailed] at mem
  have cut : curtailed.data <+: bytesOf (toString (-101 : Int)) ++ newline :: [] :=
    List.isPrefixOf_iff_prefix.1 (by decide +kernel)
  exact ⟨_, failing, intact, cut, cut_off_fails failing intact cut⟩

end Reply

end JvmAttach.Wire
