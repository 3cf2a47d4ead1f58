import RequestBinding.Proofs.Binding.Session
import RequestBinding.Proofs.Form.Parts

/-! The form of a binding. The first parameter that asks for the form has it loaded, and all parameters that ask for it
later are served from what was loaded then, be it a form or the reason why there is none. -/

namespace RequestBinding

namespace Request

variable {r : Request} {limits : Limits} {parts : List SentPart}

/-- The parts of the form that a request carries, none without a body. -/
def SendsParts (r : Request) (limits : PartLimits) (parts : List SentPart) : Prop :=
  match (r.multipart limits).1 with
  | .ok reader => reader.Reads parts
  | .error fault => fault = .emptyBody ∧ parts = []

end Request

namespace Parameter

/-- The form is needed for the parameter: the destination has its field, the declaration can be followed, and it is one
of a form. -/
def asksForm (p : Parameter) (hasField : String → Bool) (field : String) : Bool :=
  hasField field && p.misdeclared?.isNone && p.readsForm

/-- What a parameter of a form comes to, be it a file or a text. -/
def formOutcome (p : Parameter) (form : Except SourceFault LoadedForm) : Outcome :=
  if p.bindsFile then (p.fromFiles form).1 else p.fromForm form

/-- The form after such a parameter. -/
def formAfter (p : Parameter) (form : Except SourceFault LoadedForm) : Except SourceFault LoadedForm :=
  if p.bindsFile then (p.fromFiles form).2 else form

variable {p : Parameter} {hasField : String → Bool} {field : String}

theorem asksForm_iff : p.asksForm hasField field = true ↔ hasField field = true ∧ p.Sound ∧ p.readsForm = true := by
  rw [asksForm, Bool.and_eq_true, Bool.and_eq_true, Option.isNone_iff_eq_none, misdeclared?_eq_none_iff, and_assoc]

theorem resolve_asking (h : p.asksForm hasField field = true) (c : Context) (i : Intake) :
    p.resolve c field i = (p.formOutcome (i.getForm c.limits).1,
      ⟨(i.getForm c.limits).2.request, some (p.formAfter (i.getForm c.limits).1)⟩) := by
  obtain ⟨-, hs, hread⟩ := asksForm_iff.1 h
  have hloaded : (i.getForm c.limits).2 = ⟨(i.getForm c.limits).2.request, some (i.getForm c.limits).1⟩ := by
    obtain ⟨r, _ | form⟩ := i <;> rfl
  rw [p.resolve_form (p.misdeclared?_eq_none_iff.2 hs) hread, formOutcome, formAfter]
  split
  · rfl
  · exact Prod.ext rfl hloaded

private theorem resolve_not_asking (hf : hasField field = true) (h : p.asksForm hasField field = false) (c : Context)
    (i : Intake) : (p.resolve c field i).2.form = i.form := by
  cases hm : p.misdeclared? with
  | some problem => rw [p.resolve_misdeclared hm]
  | none =>
    have hread : p.readsForm = false := by simpa [asksForm, hf, hm] using h
    by_cases hl : p.location = .body
    · unfold resolve
      simp only [hm, hl]
      split <;> rfl
    · obtain ⟨-, hi⟩ := p.resolve_frame hl hread c c rfl field (i := i) rfl rfl
      rw [hi]

/-- A form that was loaded stays one, with its texts and with all files but the one that the parameter asks for. -/
theorem formAfter_ok (p : Parameter) (form : LoadedForm) :
    ∃ left, p.formAfter (.ok form) = .ok left ∧ left.inParts = form.inParts ∧ left.data.values = form.data.values ∧
      ∀ name, (p.bindsFile = true → name ≠ p.name) →
        Entries.get? name left.data.files = Entries.get? name form.data.files := by
  unfold formAfter fromFiles
  split
  · next hfile =>
    dsimp only
    split
    · exact ⟨form, rfl, rfl, rfl, fun _ _ => rfl⟩
    · obtain ⟨hvalues, hfiles⟩ := form.data.takeFile_frame p.name
      exact ⟨_, rfl, rfl, hvalues, fun name hne => hfiles name (hne hfile)⟩
  · exact ⟨form, rfl, rfl, rfl, fun _ _ => rfl⟩

end Parameter

namespace Binding

def asksForm (x : Binding) (hasField : String → Bool) : Bool := x.parameter.asksForm hasField x.field

/-- Parameters are served from a form one after the other: each that asks for it, from what those before it left. -/
inductive Served (hasField : String → Bool) : Except SourceFault LoadedForm → List Binding → Prop
  | done (form) : Served hasField form []
  | other {form x rest} : x.asksForm hasField = false → Served hasField form rest → Served hasField form (x :: rest)
  | asking {form x rest} : x.asksForm hasField = true → (x.parameter.formOutcome form).Leads x.result →
      Served hasField (x.parameter.formAfter form) rest → Served hasField form (x :: rest)

variable {hasField : String → Bool} {bindings : List Binding}

/-- Why there is no form is what every parameter says that asks for one. -/
theorem Served.fault {fault : SourceFault} (h : Served hasField (.error fault) bindings) :
    ∀ x ∈ bindings, x.asksForm hasField = true →
      x.result = .failed [x.parameter.problem fault.kind fault.message] := by
  generalize hform : (Except.error fault : Except SourceFault LoadedForm) = form at h
  induction h with
  | done _ => simp
  | other hother _ ih => exact List.forall_mem_cons.2 ⟨fun hasks => by simp [hother] at hasks, ih hform⟩
  | @asking form x rest _ hleads _ ih =>
    subst hform
    have hsame : x.parameter.formAfter (.error fault) = .error fault := by
      unfold Parameter.formAfter
      split <;> rfl
    have hfails : x.parameter.formOutcome (.error fault) = x.parameter.failsFor fault := by
      unfold Parameter.formOutcome
      split <;> rfl
    rw [hfails] at hleads
    exact List.forall_mem_cons.2 ⟨fun _ => hleads.failed_eq, ih hsame.symm⟩

/-- The texts of a form are there for every parameter that asks for one, whatever files were handed out before. -/
theorem Served.texts {form : LoadedForm} (h : Served hasField (.ok form) bindings) :
    ∀ x ∈ bindings, x.asksForm hasField = true → x.parameter.bindsFile = false →
      (x.parameter.given ((form.data.values.first? x.parameter.name).map fun text => [text])).Leads x.result := by
  generalize hloaded : (Except.ok form : Except SourceFault LoadedForm) = loaded at h
  induction h generalizing form with
  | done _ => simp
  | other hother _ ih => exact List.forall_mem_cons.2 ⟨fun hasks => by simp [hother] at hasks, ih hloaded⟩
  | @asking loaded x rest _ hleads _ ih =>
    subst hloaded
    obtain ⟨left, hleft, -, hvalues, -⟩ := x.parameter.formAfter_ok form
    have hlater := ih hleft.symm
    rw [hvalues] at hlater
    refine List.forall_mem_cons.2 ⟨fun _ hno => ?_, hlater⟩
    rwa [Parameter.formOutcome, hno] at hleads

end Binding

namespace Binder

variable {σ : Type} {c : Context} {d : Destination σ} {parameters : List (String × Parameter)} {i j : Intake}

/-- The request as it is when a parameter asks for the form for the first time, if any does. -/
def formIntake (c : Context) (hasField : String → Bool) : List (String × Parameter) → Intake → Option Intake
  | [], _ => none
  | (field, p) :: rest, i =>
    if p.asksForm hasField field then some i
    else formIntake c hasField rest (if hasField field then (p.resolve c field i).2 else i)

/-- Until then no form is loaded, and the body is there as before or was taken for another parameter. -/
theorem formIntake_frame {hasField : String → Bool} (h : formIntake c hasField parameters i = some j) :
    j.form = i.form ∧ (j.request = i.request ∨ j.request = i.request.takeBody.2) := by
  induction parameters generalizing i with
  | nil => cases h
  | cons declaration rest ih =>
    obtain ⟨field, p⟩ := declaration
    rw [formIntake] at h
    split at h
    · obtain rfl := Option.some.inj h
      exact ⟨rfl, .inl rfl⟩
    · next hnot =>
      obtain ⟨hform, hrequest⟩ := ih h
      split at hform
      · next hf =>
        rw [if_pos hf] at hrequest
        refine ⟨hform.trans (Parameter.resolve_not_asking hf (by simpa using hnot) c i), ?_⟩
        rcases p.resolve_request c field i with hsame | htaken
        · rwa [hsame] at hrequest
        · rw [htaken, Request.takeBody_takeBody, or_self] at hrequest
          exact .inr hrequest
      · next hf => exact ⟨hform, by rwa [if_neg hf] at hrequest⟩

/-- The run of a binding: once loaded, the form is what all parameters are served from. -/
theorem bindEach_served {form : Except SourceFault LoadedForm}
    (h : ∀ j, formIntake c d.hasField parameters i = some j → (j.getForm c.limits).1 = form) (s : σ) :
    Binding.Served d.hasField form (bindEach c d parameters i s).1 := by
  induction parameters generalizing i form s with
  | nil => exact .done form
  | cons declaration rest ih =>
    obtain ⟨field, p⟩ := declaration
    obtain ⟨hfield, hparameter⟩ := bindOne_binding c d field p i s
    have hasks : (bindOne c d field p i s).1.asksForm d.hasField = p.asksForm d.hasField field := by
      rw [Binding.asksForm, hfield, hparameter]
    simp only [formIntake] at h
    rw [bindEach_cons]
    cases hask : p.asksForm d.hasField field with
    | false =>
      refine .other (hasks.trans hask) (ih (fun j hj => h j ?_) _)
      rw [bindOne_intake] at hj
      simpa [hask] using hj
    | true =>
      obtain rfl := h i (if_pos hask)
      have hf := (Parameter.asksForm_iff.1 hask).1
      have hresolve := Parameter.resolve_asking hask c i
      have hleads := bindOne_leads c d hf p i s
      rw [hresolve] at hleads
      refine .asking (hasks.trans hask) (by rwa [hparameter]) (ih (fun j hj => ?_) _)
      obtain ⟨hloaded, -⟩ := formIntake_frame hj
      rw [bindOne_intake, if_pos hf, hresolve] at hloaded
      rw [hparameter, Intake.getForm, hloaded]

variable (b : Binder) (r : Request) (route : Route) (consumer : Consumer) (d : Destination σ)

/-- The request as a binding meets it where the form is loaded, if any parameter asks for one. -/
def formIntake? : Option Intake :=
  formIntake ⟨route, consumer, b.limits, b.bodyField?⟩ d.hasField b.parameters (.ofRequest r)

/-- The form that a binding loads, or why there is none. -/
def loadedForm? : Option (Except SourceFault LoadedForm) :=
  (b.formIntake? r route consumer d).map fun i => (i.getForm b.limits).1

variable {b r route consumer d} {form : Except SourceFault LoadedForm}

theorem bind_served (h : b.loadedForm? r route consumer d = some form) (s : σ) :
    Binding.Served d.hasField form (b.bind r route consumer d s).bindings := by
  obtain ⟨j, hj, hform⟩ := Option.map_eq_some_iff.1 h
  refine bindEach_served (fun other hother => ?_) s
  obtain rfl := Option.some.inj (hj.symm.trans hother)
  exact hform

/-- The form is loaded of the request as it was at first, or as it was without its body. -/
theorem loadForm_of_formIntake? {i : Intake} (h : b.formIntake? r route consumer d = some i) :
    (i.request = r ∨ i.request = r.takeBody.2) ∧ (i.getForm b.limits).1 = (i.request.loadForm b.limits).1 := by
  obtain ⟨hnone, hrequest⟩ := formIntake_frame h
  have hnone : i.form = none := hnone
  exact ⟨hrequest, by rw [Intake.getForm, hnone]⟩

end Binder
end RequestBinding
