import RequestBinding.Proofs.Binding.Calls
import RequestBinding.Proofs.Coercion.Conformance

/-! Values that reach a destination are as their parameters declare them. -/

namespace RequestBinding

/-- Values that a parameter may take: a file where it declares one, else what conforms to its schema. Of the
parameters whose schema is that of a file only those of forms take values. -/
def Parameter.Admits (p : Parameter) (value : Value) : Prop :=
  (p.isFile = true → ∃ upload, value = .file upload) ∧
  (p.isFile = false → value.Conforms p.schema) ∧
  (p.schema.type = .file → p.location = .form ∨ p.location = .file)

namespace Parameter

variable (p : Parameter)

private theorem bound_of_outcomeOf {result : Except (List Coercion.Failure) Value} {value : Value}
    (h : p.outcomeOf result = .bound value) : result = .ok value := by
  cases result with
  | ok found => exact congrArg Except.ok (Outcome.bound.inj h)
  | error failures => cases h

private theorem bound_of_ofJson {json : Json} {value : Value}
    (h : p.outcomeOf (Coercion.ofJson p.schema json) = .bound value) : value.Conforms p.schema :=
  Coercion.coerce_conforms _ _ _ (p.bound_of_outcomeOf h)

private theorem lacking_ne_bound (value : Value) : p.lacking ≠ .bound value := by
  unfold lacking
  split <;> simp

private theorem fallback_conforms {value : Value} (h : p.fallback = .bound value) : value.Conforms p.schema := by
  unfold fallback at h
  split at h
  · exact p.bound_of_ofJson h
  · exact absurd h (p.lacking_ne_bound value)

private theorem given_conforms {texts : Option (List String)} {value : Value} (h : p.given texts = .bound value) :
    value.Conforms p.schema := by
  unfold given at h
  split at h
  · exact p.fallback_conforms h
  · split at h
    · next ha =>
      unfold givenItems at h
      split at h
      · exact absurd h (p.lacking_ne_bound value)
      · exact Coercion.ofItems_conforms (by simpa [isArray] using ha) (p.bound_of_outcomeOf h)
    · unfold givenText at h
      split at h
      · exact absurd h (p.lacking_ne_bound value)
      · exact Coercion.coerce_conforms _ _ _ (p.bound_of_outcomeOf h)

private theorem fromRoute_conforms {route : Route} {value : Value} (h : p.fromRoute route = .bound value) :
    value.Conforms p.schema := by
  unfold fromRoute at h
  split at h
  · cases h
  · exact p.given_conforms h

private theorem fromHeaders_conforms {headers : Headers} {value : Value} (h : p.fromHeaders headers = .bound value) :
    value.Conforms p.schema := by
  unfold fromHeaders at h
  split at h
  · cases h
  · exact p.given_conforms h

private theorem fromForm_conforms {form : Except SourceFault LoadedForm} {value : Value}
    (h : p.fromForm form = .bound value) :
    value.Conforms p.schema := by
  unfold fromForm at h
  split at h
  · cases h
  · exact p.given_conforms h

private theorem fromBody_conforms {body : Except SourceFault (Option Json)} {value : Value}
    (h : p.fromBody body = .bound value) : value.Conforms p.schema := by
  unfold fromBody at h
  split at h
  · cases h
  · exact p.bound_of_ofJson h
  · exact p.fallback_conforms h

private theorem fromFiles_file {form : Except SourceFault LoadedForm} {value : Value}
    (h : (p.fromFiles form).1 = .bound value) : ∃ upload, value = .file upload := by
  unfold fromFiles at h
  split at h
  · cases h
  · split at h
    · cases h
    · dsimp only at h
      split at h
      · next upload _ =>
        cases h
        exact ⟨upload, rfl⟩
      · cases h
      · cases h
      · cases h

private theorem location_of_file (h : p.misdeclared? = none) (hf : p.schema.type = .file) :
    p.location = .form ∨ p.location = .file := by
  unfold misdeclared? at h
  split at h
  · cases h
  · split at h
    · cases h
    · split at h
      · cases h
      · next hn => simpa [hf, or_iff_not_imp_left] using hn

private theorem admits_of_conforms (h : p.misdeclared? = none) {value : Value} (hv : value.Conforms p.schema)
    (hl : p.isFile = false) : p.Admits value :=
  ⟨fun hf => absurd hf (by simp [hl]), fun _ => hv, p.location_of_file h⟩

private theorem isFile_eq_false (h : p.misdeclared? = none) (hform : p.location ≠ .form) (hfile : p.location ≠ .file) :
    p.isFile = false := by
  have ht : p.schema.type ≠ .file := fun hf => (p.location_of_file h hf).elim hform hfile
  simp [isFile, hfile, ht]

private theorem admits_outside_forms (h : p.misdeclared? = none) (hform : p.location ≠ .form)
    (hfile : p.location ≠ .file)
    {value : Value} (hv : value.Conforms p.schema) : p.Admits value :=
  p.admits_of_conforms h hv (p.isFile_eq_false h hform hfile)

private theorem admits_of_form (h : p.misdeclared? = none) (form : Except SourceFault LoadedForm) {value : Value}
    (hv : (if p.isFile then (p.fromFiles form).1 else p.fromForm form) = .bound value) : p.Admits value := by
  by_cases hf : p.isFile
  · rw [if_pos hf] at hv
    exact ⟨fun _ => p.fromFiles_file hv, fun hn => absurd hf (by simp [hn]), p.location_of_file h⟩
  · rw [if_neg hf] at hv
    exact p.admits_of_conforms h (p.fromForm_conforms hv) (by simpa using hf)

private theorem resolve_admits (c : Context) (field : String) (i : Intake) {value : Value}
    (h : (p.resolve c field i).1 = .bound value) : p.Admits value := by
  unfold resolve at h
  split at h
  · cases h
  · next hd =>
    split at h
    · next hl => exact p.admits_outside_forms hd (by simp [hl]) (by simp [hl]) (p.fromRoute_conforms h)
    · next hl => exact p.admits_outside_forms hd (by simp [hl]) (by simp [hl]) (p.given_conforms h)
    · next hl => exact p.admits_outside_forms hd (by simp [hl]) (by simp [hl]) (p.fromHeaders_conforms h)
    · apply p.admits_of_form hd (i.getForm c.limits).1
      dsimp only at h
      split at h <;> simp_all
    · apply p.admits_of_form hd (i.getForm c.limits).1
      dsimp only at h
      split at h <;> simp_all
    · next hl =>
      split at h
      · cases h
      · exact p.admits_outside_forms hd (by simp [hl]) (by simp [hl]) (p.fromBody_conforms h)
    · cases h

end Parameter

namespace Binder

variable {σ : Type}

private theorem bindOne_admits (c : Context) (d : Destination σ) (field : String) (p : Parameter) (i : Intake) (s : σ)
    {call : Call} (h : call ∈ (bindOne c d field p i s).1.calls) : call.field = field ∧ p.Admits call.value := by
  cases hf : d.hasField field with
  | false => simp [bindOne_noField c d hf, Binding.calls] at h
  | true =>
    rw [bindOne_hasField c d hf] at h
    cases ho : (p.resolve c field i).1 with
    | bound value =>
      simp only [ho, Binding.calls_ofAssignment] at h
      obtain rfl := List.mem_singleton.1 h
      exact ⟨rfl, p.resolve_admits c field i ho⟩
    | absent => simp [ho, Binding.calls] at h
    | failed problems => simp [ho, Binding.calls] at h

private theorem bindEach_admits (c : Context) (d : Destination σ) (parameters : List (String × Parameter))
    (i : Intake) (s : σ)
    {x : Binding} (hx : x ∈ (bindEach c d parameters i s).1) {call : Call} (h : call ∈ x.calls) :
    ∃ p, (call.field, p) ∈ parameters ∧ p.Admits call.value := by
  induction parameters generalizing i s with
  | nil => simp [bindEach] at hx
  | cons declaration rest ih =>
    obtain ⟨field, p⟩ := declaration
    rw [bindEach_cons] at hx
    rcases List.mem_cons.1 hx with rfl | hx
    · obtain ⟨rfl, hv⟩ := bindOne_admits c d field p i s h
      exact ⟨p, List.mem_cons_self .., hv⟩
    · obtain ⟨q, hq, hv⟩ := ih _ _ hx
      exact ⟨q, List.mem_cons_of_mem _ hq, hv⟩

/-- Every value that a destination is given, kept or refused, is one that the parameter of its field admits. -/
theorem assigned_values_conform {σ : Type} (b : Binder) (r : Request) (route : Route) (consumer : Consumer)
    (d : Destination σ) (s : σ) :
    (b.bind r route consumer d.recording (s, [])).destination.1 = (b.bind r route consumer d s).destination ∧
    ∀ call ∈ (b.bind r route consumer d.recording (s, [])).destination.2,
      ∃ p, (call.field, p) ∈ b.parameters ∧ p.Admits call.value := by
  rw [bind_recording]
  refine ⟨rfl, ?_⟩
  intro call h
  obtain ⟨x, hx, hcall⟩ := List.mem_flatMap.1 h
  exact bindEach_admits _ d _ _ s hx hcall

end Binder
end RequestBinding
