import RequestBinding.Proofs.Binding.Forms

/-! Files of a form. Of all parameters that ask for the file of one name the first one has it, and none after it; the
texts of the form are not touched by that. -/

namespace RequestBinding

namespace FormData

variable {d : FormData}

end FormData

namespace Parameter

/-- What a parameter comes to by what the look for its file finds. -/
def fileOutcome (p : Parameter) : FileLookup → Outcome
  | .found file => .bound (.file file)
  | .textField => p.fails .malformedValue "expected a file part, found a text field"
  | .missing => .failed [.missing p.location p.name]
  | .alreadyClaimed => p.fails .configuration "file part is already bound to another parameter"

private theorem fromFiles_parts (p : Parameter) {form : LoadedForm} (hp : form.inParts = true) :
    p.fromFiles (.ok form) =
      (p.fileOutcome (form.data.takeFile p.name).1, .ok { form with data := (form.data.takeFile p.name).2 }) := by
  obtain ⟨data, inParts⟩ := form
  obtain rfl : inParts = true := hp
  rfl

end Parameter

namespace Binding

/-- The parameter asks for the file of a name. -/
def asksFile (x : Binding) (hasField : String → Bool) (name : String) : Bool :=
  x.asksForm hasField && x.parameter.bindsFile && x.parameter.name == name

variable {hasField : String → Bool} {name : String} {x : Binding} {bindings : List Binding} {form : LoadedForm}

private theorem asksFile_iff :
    x.asksFile hasField name = true ↔
      x.asksForm hasField = true ∧ x.parameter.bindsFile = true ∧ x.parameter.name = name := by
  rw [asksFile, Bool.and_eq_true, Bool.and_eq_true, beq_iff_eq, and_assoc]

private theorem formOutcome_of_asksFile (hp : form.inParts = true) (h : x.asksFile hasField name = true) :
    x.parameter.formOutcome (.ok form) = x.parameter.fileOutcome (form.data.takeFile name).1 ∧
      x.parameter.formAfter (.ok form) = .ok { form with data := (form.data.takeFile name).2 } := by
  obtain ⟨-, hfile, rfl⟩ := asksFile_iff.1 h
  rw [Parameter.formOutcome, Parameter.formAfter, if_pos hfile, if_pos hfile, Parameter.fromFiles_parts _ hp]
  exact ⟨rfl, rfl⟩

private theorem formAfter_of_not_asksFile (hasks : x.asksForm hasField = true) (h : x.asksFile hasField name = false)
    (form : LoadedForm) : ∃ left, x.parameter.formAfter (.ok form) = .ok left ∧ left.inParts = form.inParts ∧
      left.data.values = form.data.values ∧
      Entries.get? name left.data.files = Entries.get? name form.data.files := by
  obtain ⟨left, hleft, hparts, hvalues, hfiles⟩ := x.parameter.formAfter_ok form
  refine ⟨left, hleft, hparts, hvalues, hfiles name fun hfile hname => ?_⟩
  rw [asksFile_iff.2 ⟨hasks, hfile, hname.symm⟩] at h
  cases h

private theorem Served.idle (h : Served hasField (.ok form) bindings) (hp : form.inParts = true)
    (hidle : ∀ file, Entries.get? name form.data.files ≠ some (.ready file)) :
    ∀ x ∈ bindings, x.asksFile hasField name = true →
      (x.parameter.fileOutcome (form.data.takeFile name).1).Leads x.result := by
  generalize hloaded : (Except.ok form : Except SourceFault LoadedForm) = loaded at h
  induction h generalizing form with
  | done _ => simp
  | other hother _ ih =>
    refine List.forall_mem_cons.2 ⟨fun hfile => ?_, ih hp hidle hloaded⟩
    rw [(asksFile_iff.1 hfile).1] at hother
    cases hother
  | @asking loaded x rest hasks hleads _ ih =>
    subst hloaded
    rw [List.forall_mem_cons]
    cases hfile : x.asksFile hasField name with
    | true =>
      obtain ⟨houtcome, hafter⟩ := formOutcome_of_asksFile hp hfile
      rw [FormData.takeFile_idle hidle] at hafter
      exact ⟨fun _ => houtcome ▸ hleads, ih hp hidle hafter.symm⟩
    | false =>
      obtain ⟨left, hleft, hparts, hvalues, hfiles⟩ := formAfter_of_not_asksFile hasks hfile form
      have hlater := ih (hparts.trans hp) (by rwa [hfiles]) hleft.symm
      rw [FormData.takeFile_congr (congrArg _ hvalues) hfiles] at hlater
      exact ⟨nofun, hlater⟩

/-- A file that is there goes to the first parameter that asks for it, and all others are told so. -/
theorem Served.ready {file : Upload} (h : Served hasField (.ok form) bindings) (hp : form.inParts = true)
    (hready : Entries.get? name form.data.files = some (.ready file)) {first : Binding} {later : List Binding}
    (hasking : bindings.filter (·.asksFile hasField name) = first :: later) :
    (Outcome.bound (.file file)).Leads first.result ∧ ∀ x ∈ later, x.result =
      .failed [x.parameter.problem .configuration "file part is already bound to another parameter"] := by
  generalize hloaded : (Except.ok form : Except SourceFault LoadedForm) = loaded at h
  induction h generalizing form with
  | done _ => cases hasking
  | other hother _ ih =>
    rw [List.filter_cons_of_neg] at hasking
    · exact ih hp hready hasking hloaded
    · intro hfile
      rw [(asksFile_iff.1 hfile).1] at hother
      cases hother
  | @asking loaded x rest hasks hleads hrest ih =>
    subst hloaded
    cases hfile : x.asksFile hasField name with
    | true =>
      obtain ⟨houtcome, hafter⟩ := formOutcome_of_asksFile hp hfile
      rw [FormData.takeFile_ready hready] at houtcome hafter
      rw [List.filter_cons_of_pos (by simp [hfile])] at hasking
      obtain ⟨rfl, rfl⟩ := List.cons.inj hasking
      rw [houtcome] at hleads
      refine ⟨hleads, fun y hy => ?_⟩
      obtain ⟨hy, hasksFile⟩ := List.mem_filter.1 hy
      rw [hafter] at hrest
      have hclaimed : Entries.get? name (Entries.put name .claimed form.data.files) = some .claimed := by
        rw [Entries.get?_put, if_pos rfl]
      have hlook := hrest.idle hp (fun other hother => by cases hclaimed.symm.trans hother) y hy hasksFile
      rw [FormData.takeFile_claimed hclaimed] at hlook
      exact hlook.failed_eq
    | false =>
      obtain ⟨left, hleft, hparts, -, hfiles⟩ := formAfter_of_not_asksFile hasks hfile form
      rw [List.filter_cons_of_neg (by simp [hfile])] at hasking
      exact ih (hparts.trans hp) (hfiles.trans hready) hasking hleft.symm

end Binding

namespace Binder

end Binder
end RequestBinding
