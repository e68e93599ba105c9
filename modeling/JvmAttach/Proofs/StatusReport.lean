import JvmAttach.Proofs.BrokenReading

/-! What is reported of a status other than zero. All that stands behind it is read before the verdict, so that a
status which has come through whole is reported if everything behind it comes through as well. Otherwise the first
failure there is reported in its place. -/
namespace JvmAttach.Wire

open Text Source

namespace Source

theorem exists_failure {s : Source} (broken : ¬ Intact s) :
    ∃ front fault back, s = front ++ .failed fault :: back ∧ Intact front := by
  induction s with
  | nil => exact absurd nofun broken
  | cons a s ih =>
    have later (whole : ∀ fault, a ≠ .failed fault) :
        ∃ front fault back, a :: s = front ++ .failed fault :: back ∧ Intact front := by
      have below : ¬ Intact s := fun intact => broken fun fault mem =>
        (List.mem_cons.1 mem).elim (fun same => whole fault same.symm) (intact fault)
      obtain ⟨front, fault, back, rfl, intact⟩ := ih below
      refine ⟨a :: front, fault, back, rfl, fun other mem => ?_⟩
      exact (List.mem_cons.1 mem).elim (fun same => whole other same.symm) (intact other)
    cases a with
    | failed fault => exact ⟨[], fault, s, rfl, nofun⟩
    | bytes stretch => exact later nofun
    | interrupted => exact later nofun

end Source

namespace Reply

/-- The errors that stand for a status other than zero, the second of them with any message behind it. -/
inductive Reports : Int → AttachFault → Prop
  | mismatched : Reports 101 (.protocol "Protocol mismatch with target VM")
  | refused {status : Int} (other : status ≠ 101) (more : String) :
      Reports status (.agentLoad ("Failed to load agent library" ++ more))

variable {s t : Source} {line : Bytes} {status : Int}

theorem reports_failure (status : Int) (message : List Char) : Reports status (failure status message) := by
  by_cases mismatch : status = 101
  · subst mismatch
    exact .mismatched
  · rw [failure_of_status mismatch]
    exact .refused mismatch (behind message)

theorem nonempty_of_integer (written : Integer32 (trim (decode line)) status) : line ≠ [] := by
  rintro rfl
  rw [← integer32_eq_ok_iff] at written
  cases written

theorem run_readStatus_line (read : s.nextLine = (.ok line, t)) (written : Integer32 (trim (decode line)) status) :
    readStatus.run s = ⟨.ok status, t, []⟩ := by
  have text : Source.readLine.run s = ⟨.ok (some (content line)), t, []⟩ := by
    rw [Source.run_readLine read, if_neg]
    rw [List.isEmpty_iff]
    exact nonempty_of_integer written
  apply run_readStatus_ok text
  rwa [integer_content, integer32_eq_ok_iff]

theorem outcome_of_failure (read : readStatus.run s = ⟨.ok status, t, []⟩) (nonzero : status ≠ 0) {front back : Source}
    {fault : SystemFault} (broken : t = front ++ .failed fault :: back) (intact : Intact front) :
    (readLoad.run s).outcome = .error (.io fault) := by
  have first : t.remaining.1 = .error fault := by
    rw [broken]
    exact (remaining_over intact).1 fault back
  rw [run_readLoad_refused read nonzero, first]
  rfl

/-- A status other than zero that has come through whole is reported if and only if everything behind it comes
through. Otherwise the first failure behind it is the error. -/
theorem status_reported_iff (read : s.nextLine = (.ok line, t)) (written : Integer32 (trim (decode line)) status)
    (nonzero : status ≠ 0) :
    ((∃ fault, (readLoad.run s).outcome = .error fault ∧ Reports status fault) ↔ Intact t) ∧
      ∀ front fault back, t = front ++ .failed fault :: back → Intact front →
        (readLoad.run s).outcome = .error (.io fault) := by
  have opened := run_readStatus_line read written
  refine ⟨⟨fun reported => ?_, fun intact => ?_⟩, fun front fault back => outcome_of_failure opened nonzero⟩
  · obtain ⟨fault, ended, reports⟩ := reported
    by_contra broken
    obtain ⟨front, failed, back, whole, before⟩ := exists_failure broken
    rw [outcome_of_failure opened nonzero whole before] at ended
    cases ended
    cases reports
  · obtain ⟨message, lines⟩ := exists_lines t.data
    obtain ⟨u, whole, -⟩ := remaining_lines intact lines
    refine ⟨failure status message, ?_, reports_failure status message⟩
    rw [run_readLoad_refused opened nonzero, whole]
    rfl

/-- The connection is reset within the message behind a status. -/
def hungUp : Source := broken 4 5 (.failed reset) (bytesOf "-1\nno such library\n")

theorem status_reported_of_hungUp :
    hungUp.nextLine = (.ok (bytesOf "-1\n"), .bytes (bytesOf "n") :: hungUp.drop 1) ∧
    Integer32 (trim (decode (bytesOf "-1\n"))) (-1) ∧ (readLoad.run hungUp).outcome = .error (.io reset) := by
  have read : hungUp.nextLine = (.ok (bytesOf "-1\n"), .bytes (bytesOf "n") :: hungUp.drop 1) := by decide +kernel
  have written : Integer32 (trim (decode (bytesOf "-1\n"))) (-1) := (integer32_eq_ok_iff _ _).1 (by decide +kernel)
  have before : Intact [.bytes (bytesOf "n"), .bytes (bytesOf "o")] := by simp [Intact]
  have failed := (status_reported_iff read written (by decide)).2 _ reset [.bytes (bytesOf " suc"),
    .bytes (bytesOf "h li"), .bytes (bytesOf "brar"), .bytes (bytesOf "y\n")] (by decide +kernel) before
  exact ⟨read, written, failed⟩

/-- A status of another version, behind which nothing more comes in time. -/
def silent : Source := broken 0 4 (.failed (.os 11)) (bytesOf "101\n")

theorem status_lost :
    silent.nextLine = (.ok (bytesOf "101\n"), [.bytes [], .failed (.os 11)]) ∧
    Integer32 (trim (decode (bytesOf "101\n"))) 101 ∧
    ¬ ∃ fault, (readLoad.run silent).outcome = .error fault ∧ Reports 101 fault := by
  have ended : (readLoad.run silent).outcome = .error (.io (.os 11)) := by decide +kernel
  refine ⟨by decide +kernel, (integer32_eq_ok_iff _ _).1 (by decide +kernel), ?_⟩
  rintro ⟨fault, same, reports⟩
  rw [ended] at same
  cases same
  cases reports

end Reply

end JvmAttach.Wire
