import JvmAttach.Proofs.Verdict
import JvmAttach.Scripted

/-! Which failure of a load counts where several meet, and what is logged. The first one does, but a
failed detach never stands before a failed load, and the failure of the entry point that is expected
is none. Only a load that comes to a value says that it has detached. -/
namespace JvmAttach.Load

open Act Guard

variable {τ σ : Type} {a : Attacher τ σ} {outlook : Outlook σ} {pid : Pid} {library : AgentLibrary}
variable {s : σ} {path : Path} {loaded ended : Except AttachFault Unit}
variable {result : Except AttachFault LoadResult} {before between behind words log : List Log.Entry}

/-- The library is there, attaching succeeds, and load and detach come to results. Each of the three
calls has words of its own for the log. -/
structure Round (a : Attacher τ σ) (outlook : Outlook σ) (pid : Pid) (library : AgentLibrary) (s : σ)
    (path : Path) (loaded ended : Except AttachFault Unit) (before between behind : List Log.Entry) :
    Prop where
  resolved : library.resolve (outlook.workingDirectory s) = .ok path
  present : outlook.present path s = true
  called : ∃ handle t u v, (a.attach pid).run s = ⟨.ok handle, t, before⟩ ∧
    (a.load path "").run (handle, t) = ⟨.ofExcept loaded, u, between⟩ ∧
    a.detach.run u = ⟨.ofExcept ended, v, behind⟩

/-- Any fault but the one that is expected. -/
def Serious (fault : AttachFault) : Prop :=
  ∀ code, fault ≠ .agentInitialization "Agent_OnAttach failed" code

/-- The end of a load whose calls all return, by what they come to: its result, the words of the
calls, and the whole log. -/
inductive Ends (a : Attacher τ σ) (outlook : Outlook σ) (pid : Pid) (library : AgentLibrary) (s : σ) :
    Except AttachFault LoadResult → List Log.Entry → List Log.Entry → Prop
  | unresolved {fault : AttachFault}
      (failed : library.resolve (outlook.workingDirectory s) = .error fault) :
      Ends a outlook pid library s (.error fault) [] []
  | missing {path : Path} (resolved : library.resolve (outlook.workingDirectory s) = .ok path)
      (absent : outlook.present path s = false) :
      Ends a outlook pid library s (.error (.libraryMissing library.name path)) [] []
  | unattached {path : Path} {fault : AttachFault} {t : σ} {words : List Log.Entry}
      (resolved : library.resolve (outlook.workingDirectory s) = .ok path)
      (present : outlook.present path s = true)
      (failed : (a.attach pid).run s = ⟨.error fault, t, words⟩) :
      Ends a outlook pid library s (.error fault) words (attaching pid path :: words)
  | refused {path : Path} {fault : AttachFault} {before between behind : List Log.Entry}
      (round : Round a outlook pid library s path (.error fault) (.ok ()) before between behind)
      (serious : Serious fault) :
      Ends a outlook pid library s (.error fault) (before ++ (between ++ behind))
        (attaching pid path :: (before ++ (between ++ behind)))
  /-- Detaching fails as well; this is logged and not returned. -/
  | refusedTwice {path : Path} {fault second : AttachFault} {before between behind : List Log.Entry}
      (round : Round a outlook pid library s path (.error fault) (.error second) before between behind)
      (serious : Serious fault) :
      Ends a outlook pid library s (.error fault) (before ++ (between ++ behind))
        (attaching pid path :: (before ++ (between ++ (behind ++ [detachFailed pid second]))))
  | undetached {path : Path} {fault : AttachFault} {before between behind : List Log.Entry}
      (round : Round a outlook pid library s path (.ok ()) (.error fault) before between behind) :
      Ends a outlook pid library s (.error fault) (before ++ (between ++ behind))
        (attaching pid path :: (before ++ (between ++ behind)))
  /-- The failure that is expected is passed over, and the one of the detach is not. -/
  | signalledUndetached {path : Path} {expected fault : AttachFault} {code : Int}
      {before between behind : List Log.Entry}
      (round : Round a outlook pid library s path (.error expected) (.error fault) before between behind)
      (swallowed : expected = .agentInitialization "Agent_OnAttach failed" code) :
      Ends a outlook pid library s (.error fault) (before ++ (between ++ behind))
        (attaching pid path :: (before ++ (between ++ signalled pid expected :: behind)))
  | loaded {path : Path} {before between behind : List Log.Entry}
      (round : Round a outlook pid library s path (.ok ()) (.ok ()) before between behind) :
      Ends a outlook pid library s (.ok .loaded) (before ++ (between ++ behind))
        (attaching pid path :: (before ++ (between ++ (behind ++ [detached pid .loaded]))))
  | signalled {path : Path} {expected : AttachFault} {code : Int} {before between behind : List Log.Entry}
      (round : Round a outlook pid library s path (.error expected) (.ok ()) before between behind)
      (swallowed : expected = .agentInitialization "Agent_OnAttach failed" code) :
      Ends a outlook pid library s (.ok .initializationSignalled) (before ++ (between ++ behind))
        (attaching pid path :: (before ++ (between ++ signalled pid expected ::
          (behind ++ [detached pid .initializationSignalled]))))

theorem serious_or_expected (fault : AttachFault) :
    (Serious fault ∧ fault.isIgnorable = false) ∨
      ∃ code, fault = .agentInitialization "Agent_OnAttach failed" code := by
  cases fault with
  | agentInitialization text code =>
    by_cases expected : text = "Agent_OnAttach failed"
    · exact .inr ⟨code, by rw [expected]⟩
    · refine .inl ⟨fun _ same => ?_, beq_eq_false_iff_ne.2 expected⟩
      cases same
      exact expected rfl
  | _ => exact .inl ⟨nofun, rfl⟩

theorem Round.comes (round : Round a outlook pid library s path loaded ended before between behind) :
    ∃ t, (run a outlook pid library).run s =
      ⟨.ofExcept (verdict (worth loaded) ended), t, attaching pid path ::
        (before ++ (between ++ (remarks pid loaded ++ (behind ++ lastWords pid (worth loaded) ended))))⟩ := by
  obtain ⟨resolved, present, handle, t, u, v, attach, load, detach⟩ := round
  have ran := run_present resolved present (congrArg Step.outcome attach)
  simp only [attach, run_holding pid load detach] at ran
  exact ⟨v.2, ran⟩

theorem Round.ends (round : Round a outlook pid library s path loaded ended before between behind) :
    ∃ result words, ((run a outlook pid library).run s).outcome = .ofExcept result ∧
      Ends a outlook pid library s result words ((run a outlook pid library).run s).log := by
  obtain ⟨t, ran⟩ := round.comes
  rw [ran]
  refine ⟨verdict (worth loaded) ended, before ++ (between ++ behind), rfl, ?_⟩
  cases loaded with
  | ok done =>
    cases ended with
    | ok done => exact .loaded round
    | error fault => simpa [worth, verdict, remarks, lastWords] using Ends.undetached round
  | error fault =>
    rcases serious_or_expected fault with ⟨serious, counts⟩ | ⟨code, rfl⟩
    · cases ended with
      | ok done => simpa [worth, verdict, remarks, lastWords, counts] using Ends.refused round serious
      | error second =>
        simpa [worth, verdict, remarks, lastWords, counts] using Ends.refusedTwice round serious
    · cases ended with
      | ok done => exact .signalled round rfl
      | error second =>
        have passed := Ends.signalledUndetached round rfl
        simpa [worth, verdict, remarks, lastWords, AttachFault.isIgnorable, AttachFault.entryPointFailed]
          using passed

/-- Load and detach both failed, and the failure of the load counts. -/
def FailsTwice (a : Attacher τ σ) (outlook : Outlook σ) (pid : Pid) (library : AgentLibrary) (s : σ) :
    Prop :=
  ∃ path fault second before between behind,
    Round a outlook pid library s path (.error fault) (.error second) before between behind ∧ Serious fault

theorem FailsTwice.logged (fails : FailsTwice a outlook pid library s) :
    ∃ second, detachFailed pid second ∈ ((run a outlook pid library).run s).log := by
  obtain ⟨path, fault, second, before, between, behind, round, serious⟩ := fails
  obtain ⟨t, ran⟩ := round.comes
  have counts : fault.isIgnorable = false := by
    rcases serious_or_expected fault with ⟨_, counts⟩ | ⟨code, same⟩
    · exact counts
    · exact absurd same (serious code)
  refine ⟨second, ?_⟩
  rw [ran]
  simp [worth, counts, lastWords]

end JvmAttach.Load
