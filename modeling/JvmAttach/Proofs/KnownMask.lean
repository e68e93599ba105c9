import JvmAttach.Attach.Attachment
import JvmAttach.Proofs.Decoding
import JvmAttach.Proofs.StatusText
import JvmAttach.Proofs.TriggerRemoval

/-! What is known of the signals that a target catches, and whom SIGQUIT is sent to. A status file reveals a mask
in its first line with the label, if it can be read and all of it is text; one byte in the name of the process that
belongs to no character hides the mask behind it. Only a mask that is known holds SIGQUIT back. -/
namespace JvmAttach

namespace Text

theorem exists_lined (text : List Char) : ∃ rows, Lined rows text := by
  induction n_eq : text.length using Nat.strongRecOn generalizing text with
  | ind n ih =>
    by_cases free : '\n' ∈ text
    · obtain ⟨row, rest, rfl, apart⟩ := List.eq_append_cons_of_mem free
      have shorter : rest.length < n := by rw [← n_eq, List.length_append, List.length_cons]; omega
      obtain ⟨rows, others⟩ := ih _ shorter rest rfl
      exact ⟨row :: rows, .ended apart others⟩
    · by_cases nothing : text = []
      · subst nothing
        exact ⟨[], .nothing⟩
      · exact ⟨[text], .last free nothing⟩

end Text

namespace ProcessStatus

open Text

/-- The mask behind the first label, if there is one. -/
inductive FirstMask : List (List Char) → Option UInt64 → Prop
  | nothing : FirstMask [] none
  | other {row : List Char} {rows : List (List Char)} {shown : Option UInt64} (unlabelled : ¬ caughtLabel <+: row)
      (others : FirstMask rows shown) : FirstMask (row :: rows) shown
  | mask {mask : UInt64} {value : List Char} {rows : List (List Char)} (masks : Masks mask value) :
      FirstMask ((caughtLabel ++ value) :: rows) (some mask)
  | garbled {value : List Char} {rows : List (List Char)} (unmasked : ∀ mask, ¬ Masks mask value) :
      FirstMask ((caughtLabel ++ value) :: rows) none

/-- The mask that a status file shows. It shows none if it cannot be read or is no text. -/
inductive Reveals : Except SystemFault Bytes → Option UInt64 → Prop
  | unreadable {fault : SystemFault} : Reveals (.error fault) none
  | undecodable {bytes : Bytes} (noText : ∀ text, bytes ≠ encode text) : Reveals (.ok bytes) none
  | text {rows : List (List Char)} {text : List Char} {shown : Option UInt64} (lined : Lined rows text)
      (first : FirstMask rows shown) : Reveals (.ok (encode text)) shown

variable {rows : List (List Char)} {text : List Char} {shown : Option UInt64}

theorem exists_firstMask (rows : List (List Char)) : ∃ shown, FirstMask rows shown := by
  induction rows with
  | nil => exact ⟨none, .nothing⟩
  | cons row rows ih =>
    by_cases labelled : caughtLabel <+: row
    · obtain ⟨value, rfl⟩ := labelled
      by_cases masks : ∃ mask, Masks mask value
      · obtain ⟨mask, masks⟩ := masks
        exact ⟨some mask, .mask masks⟩
      · exact ⟨none, .garbled (not_exists.1 masks)⟩
    · obtain ⟨shown, others⟩ := ih
      exact ⟨shown, .other labelled others⟩

theorem exists_reveals (status : Except SystemFault Bytes) : ∃ shown, Reveals status shown := by
  cases status with
  | error fault => exact ⟨none, .unreadable⟩
  | ok bytes =>
    by_cases readable : ∃ text, bytes = encode text
    · obtain ⟨text, rfl⟩ := readable
      obtain ⟨rows, lined⟩ := exists_lined text
      obtain ⟨shown, first⟩ := exists_firstMask rows
      exact ⟨shown, .text lined first⟩
    · exact ⟨none, .undecodable (not_exists.1 readable)⟩

theorem caughtSignals_of_garbled {value kept : List Char} (unmasked : ∀ mask, ¬ Masks mask value)
    (read : lineAfter caughtLabel text = some kept) (same : kept = value ∨ value = kept ++ ['\r']) :
    caughtSignals text = none := by
  simp only [caughtSignals, read, trim_kept same]
  cases number : natural hexadecimal 0xffffffffffffffff (trim value) with
  | error fault => rfl
  | ok n =>
    obtain ⟨written, bounded⟩ := (natural_eq_ok_iff (by decide) rfl _ _ _).1 number
    obtain ⟨front, back, whole, before, behind⟩ := exists_trim value
    have fits : (UInt64.ofNat n).toNat = n := UInt64.toNat_ofNat_of_lt' (Nat.lt_succ_of_le bounded)
    have masks : Masks (UInt64.ofNat n) (front ++ trim value ++ back) :=
      .mask before (fits.symm ▸ written) behind
    rw [← whole] at masks
    exact absurd masks (unmasked _)

theorem caughtSignals_of_firstMask (first : FirstMask rows shown) (lined : Lined rows text) :
    caughtSignals text = shown := by
  induction first generalizing text with
  | nothing => rw [caughtSignals, lineAfter_nothing lined]
  | other unlabelled others ih =>
    obtain ⟨rest, below, same⟩ := caughtSignals_of_other lined unlabelled
    rw [same, ih below]
  | mask masks =>
    obtain ⟨kept, read, same⟩ := lineAfter_label lined (by decide +kernel)
    exact caughtSignals_of_masks masks read same
  | garbled unmasked =>
    obtain ⟨kept, read, same⟩ := lineAfter_label lined (by decide +kernel)
    exact caughtSignals_of_garbled unmasked read same

end ProcessStatus

namespace Attach

open Act Host ProcessStatus

variable {pid : Pid} {inner : UInt32} {directory socket : Path} {timeout : Duration} {h : Host} {process : Process}
variable {shown : Option UInt64}

theorem caughtBy_of_reveals (runs : h.machine.process? pid.number.toNat = some process)
    (reveals : Reveals process.status shown) : caughtBy pid h = shown := by
  simp only [caughtBy, statusText, runs]
  cases status : process.status with
  | error fault =>
    rw [status] at reveals
    cases reveals
    rfl
  | ok bytes =>
    rw [status] at reveals
    cases reveals with
    | undecodable noText =>
      have unread : Text.decode? bytes = none :=
        Option.eq_none_iff_forall_ne_some.2 fun text read => noText text (Text.decode?_eq_some_iff.1 read)
      simp only [unread, Option.bind_none]
    | text lined first =>
      simp only [Text.decode?_encode, Option.bind_some, caughtSignals_of_firstMask first lined]

/-- A trigger can be made by one of its paths. -/
def Triggerable (pid : Pid) (inner : UInt32) (directory : Path) (h : Host) : Prop :=
  ∃ trigger ∈ Trigger.places pid inner directory, ∃ machine, h.machine.openFile h.caller true trigger = .ok machine

/-- Without a trigger nothing is noted, and with one the target is sent SIGQUIT. -/
theorem quit_of_allowed (inner : UInt32) (directory socket : Path) (timeout : Duration)
    (allowed : (caughtBy pid h).any (!catchesQuit ·) = false) :
    ∃ events, ((startListener pid inner directory socket timeout).run h).state.journal = h.journal ++ events ∧
      (.signal pid.raw Host.sigquit ∈ events ↔ Triggerable pid inner directory h ∧ 0 < pid.raw) := by
  obtain ⟨events, noted, only⟩ := notes_startListener pid inner directory socket timeout h
  refine ⟨events, noted, ?_⟩
  rcases Trigger.create_cases pid inner directory h with
    ⟨path, place, machine, log, opened, created⟩ | ⟨first, second, log, near, far, untriggered⟩
  · have triggerable : Triggerable pid inner directory h := ⟨path, place, machine, opened⟩
    constructor
    · intro sent
      exact ⟨triggerable, (only _ sent _ rfl).1⟩
    · rintro ⟨-, named⟩
      obtain ⟨later, noted', sent⟩ := quit_of_created socket timeout allowed named created
      have whole : h.journal ++ events = h.journal ++ .created path :: later := by
        rw [← noted, noted', record, List.append_assoc]
        rfl
      rw [List.append_cancel_left whole]
      exact List.mem_cons_of_mem _ sent
  · have untouched : events = [] := by
      rw [startListener_allowed allowed, Trigger.holding, run_bind_error untriggered] at noted
      exact List.self_eq_append_right.1 noted
    have closed : ¬ Triggerable pid inner directory h := by
      rintro ⟨trigger, place, machine, opened⟩
      rcases List.mem_cons.1 place with rfl | rest
      · rw [near] at opened
        cases opened
      · cases List.mem_singleton.1 rest
        rw [far] at opened
        cases opened
    simp only [untouched, closed, List.not_mem_nil, false_and]

theorem startListener_clear {mask : UInt64} (known : caughtBy pid h = some mask) (clear : mask &&& 4 = 0) :
    (startListener pid inner directory socket timeout).run h = ⟨.error (notCatching pid), h, []⟩ := by
  have uncaught : catchesQuit mask = false := by
    rw [Bool.eq_false_iff, ne_eq, catchesQuit_iff, not_not]
    exact clear
  exact startListener_refused known uncaught

theorem allowed_of_caught (known : caughtBy pid h = shown) (caught : ∀ mask, shown = some mask → mask &&& 4 ≠ 0) :
    (caughtBy pid h).any (!catchesQuit ·) = false := by
  rw [known]
  cases shown with
  | none => rfl
  | some mask =>
    rw [Option.any_some, (catchesQuit_iff mask).2 (caught mask rfl)]
    rfl

theorem quit_of_known (inner : UInt32) (directory socket : Path) (timeout : Duration) (known : caughtBy pid h = shown) :
    let step := (startListener pid inner directory socket timeout).run h
    ∃ events, step.state.journal = h.journal ++ events ∧
      (.signal pid.raw Host.sigquit ∈ events ↔
        0 < pid.raw ∧ (∀ mask, shown = some mask → mask &&& 4 ≠ 0) ∧ Triggerable pid inner directory h) ∧
      ∀ mask, shown = some mask → mask &&& 4 = 0 → step = ⟨.error (notCatching pid), h, []⟩ := by
  intro step
  by_cases barred : ∃ mask, shown = some mask ∧ mask &&& 4 = 0
  · obtain ⟨mask, rfl, clear⟩ := barred
    have refused : step = ⟨.error (notCatching pid), h, []⟩ := startListener_clear known clear
    refine ⟨[], by rw [refused, List.append_nil], ⟨nofun, ?_⟩, fun _ _ _ => refused⟩
    rintro ⟨-, caught, -⟩
    exact absurd clear (caught mask rfl)
  · have caught : ∀ mask, shown = some mask → mask &&& 4 ≠ 0 := fun mask same clear => barred ⟨mask, same, clear⟩
    obtain ⟨events, noted, sent⟩ := quit_of_allowed inner directory socket timeout (allowed_of_caught known caught)
    refine ⟨events, noted, sent.trans ⟨?_, ?_⟩, fun mask same clear => absurd clear (caught mask same)⟩
    · rintro ⟨triggerable, named⟩
      exact ⟨named, caught, triggerable⟩
    · rintro ⟨named, -, triggerable⟩
      exact ⟨triggerable, named⟩

/-- SIGQUIT goes to the target alone, and to the target exactly if a trigger can be made and the status file does
not show a mask without the bit. Where it shows one the target is refused and everything left as it is; where it
shows none, be it for a byte in the name of the process, the target is sent SIGQUIT whatever it catches. So if the
masks that are shown are true, one that does not catch SIGQUIT is sent it only if the file shows none. -/
theorem quit_sent_iff (pid : Pid) (inner : UInt32) (directory socket : Path) (timeout : Duration) {h : Host}
    {process : Process} (runs : h.machine.process? pid.number.toNat = some process) :
    let step := (startListener pid inner directory socket timeout).run h
    let near := (Path.ofString s!"/proc/{pid}/cwd").join (Path.ofString (".attach_pid" ++ toString inner.toNat))
    let far := directory.join (Path.ofString (".attach_pid" ++ toString inner.toNat))
    ∃ events, step.state.journal = h.journal ++ events ∧ (∀ target, .signal target 3 ∈ events → target = pid.raw) ∧
      (∃ shown, Reveals process.status shown) ∧
      (∀ shown, Reveals process.status shown →
        (.signal pid.raw 3 ∈ events ↔ 0 < pid.raw ∧ (∀ mask, shown = some mask → mask &&& 4 ≠ 0) ∧
          ∃ trigger ∈ [near, far], ∃ machine, h.machine.openFile h.caller true trigger = .ok machine) ∧
        ∀ mask, shown = some mask → mask &&& 4 = 0 → step.state = h ∧
          step.outcome = .error (.attachFailed s!"process {pid} does not catch SIGQUIT; not a HotSpot VM")) ∧
      ((∀ mask, Reveals process.status (some mask) → mask = process.caught) → .signal pid.raw 3 ∈ events →
        process.caught &&& 4 ≠ 0 ∨ Reveals process.status none) := by
  intro step near far
  obtain ⟨events, noted, only⟩ := notes_startListener pid inner directory socket timeout h
  have treated (shown : Option UInt64) (reveals : Reveals process.status shown) :
      (.signal pid.raw 3 ∈ events ↔ 0 < pid.raw ∧ (∀ mask, shown = some mask → mask &&& 4 ≠ 0) ∧
        Triggerable pid inner directory h) ∧
      ∀ mask, shown = some mask → mask &&& 4 = 0 → step = ⟨.error (notCatching pid), h, []⟩ := by
    obtain ⟨others, noted', sent, refused⟩ :=
      quit_of_known inner directory socket timeout (caughtBy_of_reveals runs reveals)
    obtain rfl : events = others := List.append_cancel_left (noted.symm.trans noted')
    exact ⟨sent, refused⟩
  refine ⟨events, noted, fun target sent => (only _ sent _ rfl).2, exists_reveals _, fun shown reveals => ?_,
    fun honest sent => ?_⟩
  · obtain ⟨sent, refused⟩ := treated shown reveals
    refine ⟨sent, fun mask same clear => ?_⟩
    rw [refused mask same clear]
    exact ⟨rfl, rfl⟩
  · obtain ⟨shown, reveals⟩ := exists_reveals process.status
    cases shown with
    | none => exact .inr reveals
    | some mask =>
      obtain ⟨_, caught, _⟩ := (treated _ reveals).1.1 sent
      exact .inl (honest mask reveals ▸ caught mask rfl)

/-- The status file of a process that catches nothing. -/
def statusOf (name : Bytes) : Bytes :=
  Text.bytesOf "Name:\t" ++ name ++ Text.bytesOf "\nSigCgt:\t0000000000000000\n"

/-- A process with a name, in a directory of its own. It does not catch SIGQUIT. -/
def sleeping (name : Bytes) : Process := ⟨0, 2, 0, .ok (statusOf name), 0⟩

/-- Such a process beside us. It ends when it gets SIGQUIT. -/
def endangered (name : Bytes) : Host := { mortal with machine := workplace.setProcess 7 (some (sleeping name)) }

/-- A name of one byte, which begins no character. -/
def brokenName : Bytes := [0xff]

theorem reveals_sleep : Reveals (sleeping (Text.bytesOf "sleep")).status (some 0) := by
  have written : statusOf (Text.bytesOf "sleep") =
      Text.encode ("Name:\tsleep".toList ++ '\n' :: (caughtLabel ++ ("\t".toList ++ "0000000000000000".toList ++ []) ++
        '\n' :: [])) := by
    decide +kernel
  have tab : ∀ c ∈ "\t".toList, Text.isBlank c := List.all_eq_true.1 (by decide +kernel)
  have masks : Masks 0 ("\t".toList ++ "0000000000000000".toList ++ []) :=
    .mask tab (Text.written_hexadecimal 0 15) nofun
  rw [sleeping, written]
  refine .text (.ended ?_ (.ended ?_ .nothing)) (.other ?_ (.mask masks)) <;> decide +kernel

theorem reveals_brokenName : Reveals (sleeping brokenName).status none := by
  refine .undecodable fun text same => ?_
  have unread : Text.decode? (statusOf brokenName) = none := by decide +kernel
  rw [Text.decode?_eq_some_iff.2 same] at unread
  cases unread

/-- One is refused, and the other is sent SIGQUIT. -/
theorem quit_sent_iff_endangered :
    (endangered (Text.bytesOf "sleep")).machine.process? 7 = some (sleeping (Text.bytesOf "sleep")) ∧
      (endangered brokenName).machine.process? 7 = some (sleeping brokenName) ∧
      ((startListener ⟨7⟩ 7 ⟨[Path.slash]⟩ ⟨[]⟩ .zero).run (endangered (Text.bytesOf "sleep"))).outcome =
        .error (.attachFailed "process 7 does not catch SIGQUIT; not a HotSpot VM") ∧
      .signal 7 3 ∈ ((startListener ⟨7⟩ 7 ⟨[Path.slash]⟩ ⟨[]⟩ .zero).run (endangered brokenName)).state.journal := by
  have runs (name : Bytes) : (endangered name).machine.process? 7 = some (sleeping name) := rfl
  obtain ⟨_, _, _, _, known, _⟩ :=
    quit_sent_iff ⟨7⟩ 7 ⟨[Path.slash]⟩ ⟨[]⟩ .zero (runs (Text.bytesOf "sleep"))
  obtain ⟨_, noted, _, _, unknown, _⟩ := quit_sent_iff ⟨7⟩ 7 ⟨[Path.slash]⟩ ⟨[]⟩ .zero (runs brokenName)
  refine ⟨runs _, runs _, ((known _ reveals_sleep).2 0 rfl rfl).2, ?_⟩
  have sent := (unknown _ reveals_brokenName).1.2 ⟨by decide, nofun, _, List.mem_cons_self, _, rfl⟩
  rw [noted]
  exact List.mem_append_right _ sent

/-- The status of a target says that it catches nothing, and still the target is sent SIGQUIT, and ends. -/
theorem quit_for_brokenName :
    let step := (attach Config.standard ⟨7⟩).run (endangered brokenName)
    (endangered brokenName).machine.process? 7 = some (sleeping brokenName) ∧ (sleeping brokenName).caught &&& 4 = 0 ∧
      .signal 7 3 ∈ step.state.journal ∧ step.outcome = .error (.processNotFound 7) ∧
        (step.state.machine.process? 7).isNone :=
  ⟨rfl, by decide +kernel⟩

end Attach

end JvmAttach
