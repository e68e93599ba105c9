import JvmAttach.Logging.Directive

/-! Filters of the log: directives with commas between them. Of the directives that concern an
entry the one with the longest target decides how grave the entry has to be, and of those with
equal targets the one with a field. -/
namespace JvmAttach

structure Filter where
  directives : List Directive
  deriving DecidableEq, Repr

namespace Filter

def gravest : Filter := ⟨[⟨none, none, Level.error.verbosity⟩]⟩

def upTo (level : Level) : Filter := ⟨[⟨none, none, level.verbosity⟩]⟩

/-- Read a filter; the first directive with a fault decides. Nothing written at all asks for the
gravest entries. -/
def read (written : List Char) : Except DirectiveFault Filter :=
  match (pieces ',' written).filter (!·.isEmpty) with
  | [] => .ok gravest
  | parts => (parts.mapM Directive.read).map fun directives => ⟨directives.flatten⟩

/-- The directive for an entry: the narrowest, and of equals the last. -/
def decisive (f : Filter) (e : Log.Entry) : Option Directive :=
  (f.directives.filter (·.concerns e)).foldl
    (fun best d => match best with
      | none => some d
      | some b => if b.yields d then some d else some b) none

def admits (f : Filter) (e : Log.Entry) : Bool :=
  match f.decisive e with
  | some d => e.level.verbosity ≤ d.verbosity
  | none => false

end Filter

end JvmAttach
