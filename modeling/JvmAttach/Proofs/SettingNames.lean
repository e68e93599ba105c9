import JvmAttach.Logging.Setup
import JvmAttach.Proofs.Decoding
import JvmAttach.Proofs.LowerCase
import JvmAttach.Proofs.Trimming

/-! The names by which the settings of the log are recognised. A format or a level is given by its name in any
case of ASCII. No other text is taken for one, although case is ignored by the full rules of Unicode; the error
quotes the text as it was written. Blank characters are taken off a format, and not off a level. -/
namespace JvmAttach

open Text

section Tables

variable {α : Type} {names : List (List Char × α)} {unknown : String → String} {written : String} {value : α}

theorem lookup_eq_some_iff_mem (distinct : (names.map Prod.fst).Nodup) {key : List Char} :
    names.lookup key = some value ↔ (key, value) ∈ names := by
  induction names with
  | nil => simp
  | cons entry names ih =>
    obtain ⟨first, found⟩ := entry
    rw [List.map_cons, List.nodup_cons] at distinct
    rw [List.lookup_cons, List.mem_cons, ← ih distinct.2]
    by_cases same : key = first
    · subst same
      have nowhere : names.lookup key ≠ some value := fun later =>
        distinct.1 (List.mem_map.2 ⟨(key, value), (ih distinct.2).1 later, rfl⟩)
      simp [nowhere, eq_comm]
    · simp [same, beq_eq_false_iff_ne.2 same]

theorem toList_toLower (written : String) : written.toLower.toList = written.toList.map Char.toLower :=
  String.toList_map

/-- A table whose names differ and are unmistakable. -/
structure Clear (names : List (List Char × α)) : Prop where
  words : ∀ entry ∈ names, Unmistakable entry.1
  distinct : (names.map Prod.fst).Nodup

theorem Clear.recognise_eq_ok_iff (clear : Clear names) :
    recognise names unknown written = .ok value ↔ (written.toLower.toList, value) ∈ names := by
  rw [recognise, lookup_lower clear.words, toList_toLower, ← lookup_eq_some_iff_mem clear.distinct]
  cases names.lookup (written.toList.map Char.toLower) <;> simp

theorem Clear.ascii (clear : Clear names) (found : recognise names unknown written = .ok value) :
    ∀ c ∈ written.toList, c.toNat < 0x80 := by
  have listed := clear.recognise_eq_ok_iff.1 found
  rw [toList_toLower] at listed
  exact ascii_of_toLower fun c mem => (clear.words _ listed c mem).2

theorem recognise_eq_error (refused : ∀ value, recognise names unknown written ≠ .ok value) :
    recognise names unknown written = .error (unknown written) := by
  unfold recognise at refused ⊢
  split <;> rename_i found
  · simp [found] at refused
  · rfl

end Tables

namespace LogFormat

def spellings : LogFormat → List String
  | .pretty => ["pretty", "dev", "development"]
  | .json => ["json", "prod", "production"]

theorem clear : Clear names := ⟨by decide +kernel, by decide⟩

theorem mem_names_iff {name : String} {format : LogFormat} :
    (name.toList, format) ∈ names ↔ name ∈ format.spellings := by
  cases format <;> simp only [names, spellings, List.mem_cons, List.not_mem_nil, Prod.mk.injEq, String.toList_inj,
    reduceCtorEq, and_true, and_false, or_false, false_or]

theorem parse_eq_ok_iff {written : String} {format : LogFormat} :
    parse written = .ok format ↔ written.toLower ∈ format.spellings :=
  clear.recognise_eq_ok_iff.trans mem_names_iff

end LogFormat

namespace Level

def spellings : Level → List String
  | .error => ["error", "err"]
  | .warn => ["warn", "warning"]
  | .info => ["info"]
  | .debug => ["debug", "dbg"]
  | .trace => ["trace"]

theorem clear : Clear names := ⟨by decide +kernel, by decide⟩

theorem mem_names_iff {name : String} {level : Level} : (name.toList, level) ∈ names ↔ name ∈ level.spellings := by
  cases level <;> simp only [names, spellings, List.mem_cons, List.not_mem_nil, Prod.mk.injEq, String.toList_inj,
    reduceCtorEq, and_true, and_false, or_false, false_or]

theorem parse_eq_ok_iff {written : String} {level : Level} :
    parse written = .ok level ↔ written.toLower ∈ level.spellings :=
  clear.recognise_eq_ok_iff.trans mem_names_iff

end Level

namespace Logging

variable {environment : Environment} {written : String} {format : LogFormat}

theorem text?_of_lookup {name : String} (given : environment.lookup name = some (bytesOf written)) :
    environment.text? name = some written.toList := by
  rw [Environment.text?, given]
  exact decode?_encode written.toList

/-- The name of a format: what is left of a text without the blank characters around it. -/
def named (written : String) : String := String.ofList (trim written.toList)

theorem named_eq_empty_iff : named written = "" ↔ (trim written.toList).isEmpty = true := by
  rw [named, ← String.toList_inj, String.toList_ofList, List.isEmpty_iff]
  rfl

theorem formatOf_given (given : environment.lookup formatVariable = some (bytesOf written)) :
    formatOf environment =
      if named written = "" then .ok .pretty else (LogFormat.parse (named written)).mapError .invalidFormat := by
  rw [formatOf, text?_of_lookup given, LogFormat.ofSetting]
  simp only [named_eq_empty_iff]
  rfl

theorem formatOf_eq_ok_iff (given : environment.lookup formatVariable = some (bytesOf written)) :
    formatOf environment = .ok format ↔
      named written = "" ∧ format = .pretty ∨ (named written).toLower ∈ format.spellings := by
  rw [formatOf_given given]
  split
  · rename_i nothing
    have none : "".toLower ∉ format.spellings := by cases format <;> decide +kernel
    simp [nothing, none, eq_comm]
  · rename_i some
    rw [← LogFormat.parse_eq_ok_iff]
    cases LogFormat.parse (named written) <;> simp [Except.mapError, some]

theorem formatOf_eq_error (given : environment.lookup formatVariable = some (bytesOf written))
    (refused : ∀ format, formatOf environment ≠ .ok format) :
    formatOf environment = .error (.invalidFormat (LogFormat.unknown (named written))) := by
  have read := formatOf_given given
  split at read
  · exact absurd read (refused _)
  · have other (format : LogFormat) : LogFormat.parse (named written) ≠ .ok format := by
      intro found
      rw [found] at read
      exact refused format read
    rw [read, LogFormat.parse, recognise_eq_error other]
    rfl

theorem ascii_of_formatOf (given : environment.lookup formatVariable = some (bytesOf written))
    (found : formatOf environment = .ok format) {c : Char} (mem : c ∈ written.toList) (unblank : isBlank c = false) :
    c.toNat < 0x80 := by
  have inside : c ∈ (named written).toList := by
    rw [named, String.toList_ofList]
    exact mem_trim mem unblank
  rcases (formatOf_eq_ok_iff given).1 found with ⟨nothing, -⟩ | listed
  · rw [nothing] at inside
    cases inside
  · exact LogFormat.clear.ascii (LogFormat.parse_eq_ok_iff.2 listed) c inside

/-- A format is recognised between blank characters by one of its names in any case of ASCII, and the format for
people also where there is nothing between them; a level by one of its names in any case of ASCII, as it stands.
Anything else is refused, with an error that quotes it in its own case: so is a format with a character beyond ASCII
that is not blank, and a level with any, although case is ignored by the full rules of Unicode. -/
theorem names_recognised :
    (∀ (environment : Environment) (v : String),
      environment.lookup "PERFMAP_ATTACH_LOG_FORMAT" = some (bytesOf v) →
      let name := String.ofList (trim v.toList)
      (formatOf environment = .ok .pretty ↔ name = "" ∨ name.toLower ∈ ["pretty", "dev", "development"]) ∧
      (formatOf environment = .ok .json ↔ name.toLower ∈ ["json", "prod", "production"]) ∧
      ((∀ format, formatOf environment ≠ .ok format) →
        formatOf environment = .error (.invalidFormat s!"Unknown log format: {name}. Use 'pretty' or 'json'")) ∧
      ((∃ c ∈ v.toList, 0x80 ≤ c.toNat ∧ isBlank c = false) → ∀ format, formatOf environment ≠ .ok format)) ∧
    ∀ s : String,
      (∀ level, Level.parse s = .ok level ↔ s.toLower ∈ level.spellings) ∧
      ((∀ level, Level.parse s ≠ .ok level) →
        Level.parse s = .error s!"Unknown log level: {s}. Use 'error', 'warn', 'info', 'debug', or 'trace'") ∧
      ((∃ c ∈ s.toList, 0x80 ≤ c.toNat) → ∀ level, Level.parse s ≠ .ok level) := by
  refine ⟨fun environment v given => ⟨?_, ?_, formatOf_eq_error given, ?_⟩, fun s =>
    ⟨fun level => Level.parse_eq_ok_iff, fun refused => recognise_eq_error refused, ?_⟩⟩
  · simp only [formatOf_eq_ok_iff given, and_true, named, LogFormat.spellings]
  · simp only [formatOf_eq_ok_iff given, reduceCtorEq, and_false, false_or, named, LogFormat.spellings]
  · rintro ⟨c, mem, foreign, unblank⟩ format found
    exact absurd (ascii_of_formatOf given found mem unblank) (Nat.not_lt.2 foreign)
  · rintro ⟨c, mem, foreign⟩ level found
    exact absurd (Level.clear.ascii found c mem) (Nat.not_lt.2 foreign)

/-- Blank characters beyond ASCII around a format, and a level whose lower-case form begins with an i. -/
theorem names_recognised_spaced :
    let environment : Environment := [("PERFMAP_ATTACH_LOG_FORMAT", bytesOf "\u3000PROD\n")]
    formatOf environment = .ok .json ∧ ∀ level, Level.parse "\u0130NFO" ≠ .ok level := by
  intro environment
  obtain ⟨formats, levels⟩ := names_recognised
  obtain ⟨-, json, -⟩ := formats environment "\u3000PROD\n" (by decide +kernel)
  exact ⟨json.2 (by decide +kernel), (levels "\u0130NFO").2.2 ⟨'\u0130', by decide, by decide⟩⟩

end Logging

end JvmAttach
