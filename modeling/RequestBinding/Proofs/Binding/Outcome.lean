import RequestBinding.Binding.Resolve
import RequestBinding.Proofs.Coercion.Cases

/-! What parameters come to. An outcome that fails says why, and every problem bears the parameter's location and
its name, alone or in front of a property. -/

namespace RequestBinding

/-- A problem with a parameter or with a property of it, at the parameter's location. -/
def Problem.Concerns (e : Problem) (p : Parameter) : Prop :=
  e.location = p.location ∧ (e.parameter = p.name ∨ ∃ path, e.parameter = p.name ++ "." ++ path)

/-- An outcome that fails has problems, all of them with the parameter. -/
def Outcome.Accounts (p : Parameter) (o : Outcome) : Prop :=
  ∀ problems, o = .failed problems → problems ≠ [] ∧ ∀ e ∈ problems, e.Concerns p

namespace Parameter

variable (p : Parameter)

private theorem accounts_bound (value : Value) : (Outcome.bound value).Accounts p := by
  rintro problems ⟨⟩

private theorem accounts_absent : Outcome.absent.Accounts p := by
  rintro problems ⟨⟩

private theorem accounts_one {e : Problem} (hl : e.location = p.location) (hn : e.parameter = p.name) :
    (Outcome.failed [e]).Accounts p := by
  rintro problems ⟨⟩
  refine ⟨by simp, ?_⟩
  intro other hm
  rw [List.mem_singleton.1 hm]
  exact ⟨hl, .inl hn⟩

private theorem accounts_fails (kind : Kind) (details : String) :
    (p.fails kind details).Accounts p := p.accounts_one rfl rfl

private theorem accounts_failsFor (fault : SourceFault) : (p.failsFor fault).Accounts p := p.accounts_fails _ _

private theorem accounts_lacking : p.lacking.Accounts p := by
  unfold lacking
  split
  · exact p.accounts_one rfl rfl
  · exact p.accounts_absent

private theorem problemOf_concerns (failure : Coercion.Failure) : (p.problemOf failure).Concerns p := by
  refine ⟨rfl, ?_⟩
  simp only [problemOf, Problem.of]
  split
  · exact .inl rfl
  · exact .inr ⟨_, rfl⟩

private theorem accounts_outcomeOf {result : Except (List Coercion.Failure) Value} (h : Coercion.Explained result) :
    (p.outcomeOf result).Accounts p := by
  cases result with
  | ok value => exact p.accounts_bound value
  | error failures =>
    rintro problems ⟨⟩
    refine ⟨by simpa using h failures rfl, ?_⟩
    intro e hm
    obtain ⟨failure, -, rfl⟩ := List.mem_map.1 hm
    exact p.problemOf_concerns failure

private theorem accounts_ofJson (value : Json) : (p.outcomeOf (Coercion.ofJson p.schema value)).Accounts p :=
  p.accounts_outcomeOf (.coerce _ _)

private theorem accounts_fallback : p.fallback.Accounts p := by
  unfold fallback
  split
  · exact p.accounts_ofJson _
  · exact p.accounts_lacking

private theorem accounts_given (texts : Option (List String)) : (p.given texts).Accounts p := by
  unfold given
  split
  · exact p.accounts_fallback
  · split
    · rw [givenItems]
      split
      · exact p.accounts_lacking
      · apply p.accounts_outcomeOf
        rw [Coercion.ofItems, Coercion.coerceItems_eq]
        exact (Coercion.Explained.each (fun input => .coerce input _) 0 _).map _
    · rw [givenText]
      split
      · exact p.accounts_lacking
      · exact p.accounts_outcomeOf (.coerce _ _)

private theorem accounts_misdeclared {problem : Problem} (h : p.misdeclared? = some problem) :
    (Outcome.failed [problem]).Accounts p := by
  rw [misdeclared?] at h
  split at h
  · exact Option.some.inj h ▸ p.accounts_fails _ _
  · split at h
    · exact Option.some.inj h ▸ p.accounts_fails _ _
    · split at h
      · exact Option.some.inj h ▸ p.accounts_fails _ _
      · cases h

private theorem accounts_fromRoute (hl : p.location = .path) (route : Route) : (p.fromRoute route).Accounts p := by
  unfold fromRoute
  split
  · next problem h =>
    rw [Route.value?] at h
    split at h
    · cases h
    · split at h
      · cases h
        exact p.accounts_one hl.symm rfl
      · cases h
  · exact p.accounts_given _

private theorem accounts_fromHeaders (headers : Headers) : (p.fromHeaders headers).Accounts p := by
  unfold fromHeaders
  split
  · exact p.accounts_fails _ _
  · exact p.accounts_given _

private theorem accounts_fromForm (form : Except SourceFault LoadedForm) : (p.fromForm form).Accounts p := by
  unfold fromForm
  split
  · exact p.accounts_failsFor _
  · exact p.accounts_given _

private theorem accounts_fromFiles (form : Except SourceFault LoadedForm) : (p.fromFiles form).1.Accounts p := by
  unfold fromFiles
  split
  · exact p.accounts_failsFor _
  · split
    · exact p.accounts_fails _ _
    · dsimp only
      split
      · exact p.accounts_bound _
      · exact p.accounts_fails _ _
      · exact p.accounts_one rfl rfl
      · exact p.accounts_fails _ _

private theorem accounts_fromBody (body : Except SourceFault (Option Json)) : (p.fromBody body).Accounts p := by
  unfold fromBody
  split
  · exact p.accounts_failsFor _
  · exact p.accounts_ofJson _
  · exact p.accounts_fallback

/-- Whatever a parameter is taken from, a failure is told by problems with that parameter. -/
theorem accounts_resolve (c : Context) (field : String) (i : Intake) : (p.resolve c field i).1.Accounts p := by
  unfold resolve
  split
  · next h => exact p.accounts_misdeclared h
  · split
    · next hl => exact p.accounts_fromRoute hl _
    · exact p.accounts_given _
    · exact p.accounts_fromHeaders _
    all_goals try dsimp only
    · split
      · exact p.accounts_fromFiles _
      · exact p.accounts_fromForm _
    · split
      · exact p.accounts_fromFiles _
      · exact p.accounts_fromForm _
    · split
      · exact p.accounts_fails _ _
      · exact p.accounts_fromBody _
    · exact p.accounts_absent

end Parameter
end RequestBinding
