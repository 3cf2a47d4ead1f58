import RequestBinding.Proofs.Binding.Forms

/-! Forms that cannot be loaded. What keeps a form from being loaded is met once, and every parameter that asks for the
form says it: the first one, for which it was tried, as well as all later ones. -/

namespace RequestBinding

namespace Request

/-- Why the form of a request is not loaded, by its content type and by what is in its body. Where the form is one in
parts, the parts are read to their end, so that a breach of limits, a breach of the format and a text that is no text
all count. -/
inductive RefusesForm (r : Request) (limits : Limits) : SourceFault → Prop
  | missingContentType : r.headers.first? "content-type" = none → RefusesForm r limits .missingContentType
  | invalidContentType (value : List UInt8) : r.headers.first? "content-type" = some value →
      (Header.text? value).bind MediaType.ofText? = none → RefusesForm r limits (.invalidContentType value)
  | noForm (m : MediaType) : r.mediaType = .ok m → m.isUrlEncoded = false → m.isMultipart = false →
      RefusesForm r limits (.noForm m)
  | textConsumed (m : MediaType) : r.mediaType = .ok m → m.isUrlEncoded = true → r.body = .taken →
      RefusesForm r limits .formConsumed
  | textUnread (m : MediaType) (chunks : List Chunk) (fault : BodyFault) : r.mediaType = .ok m →
      m.isUrlEncoded = true → r.body = .ready chunks → Chunk.readWithin limits.bodySize chunks = .error fault →
      RefusesForm r limits (.body fault)
  | badText (m : MediaType) (chunks : List Chunk) (bytes : List UInt8) (fault : UrlEncoded.Fault) :
      r.mediaType = .ok m → m.isUrlEncoded = true → r.body = .ready chunks →
      Chunk.readWithin limits.bodySize chunks = .ok bytes → UrlEncoded.parseForm bytes = .error fault →
      RefusesForm r limits (.urlEncoded fault)
  | noBoundary (m : MediaType) : r.mediaType = .ok m → m.isMultipart = true → m.parameter? "boundary" = none →
      RefusesForm r limits (.multipart .notMultipart)
  | partsConsumed (m : MediaType) (boundary : String) : r.mediaType = .ok m → m.isMultipart = true →
      m.parameter? "boundary" = some boundary → r.body = .taken → RefusesForm r limits (.multipart .bodyConsumed)
  | badParts (m : MediaType) (boundary : String) (chunks : List Chunk) (fault : MultipartFault) :
      r.mediaType = .ok m → m.isMultipart = true → m.parameter? "boundary" = some boundary → r.body = .ready chunks →
      (Multipart.ofChunks boundary limits.parts chunks).collect = .error fault →
      RefusesForm r limits (.multipart fault)

variable {r : Request} {limits : Limits} {fault : SourceFault}

theorem mediaType_eq_error_iff :
    r.mediaType = .error fault ↔
      r.headers.first? "content-type" = none ∧ fault = .missingContentType ∨
        ∃ value, r.headers.first? "content-type" = some value ∧
          (Header.text? value).bind MediaType.ofText? = none ∧ fault = .invalidContentType value := by
  unfold mediaType
  cases hv : r.headers.first? "content-type" with
  | none => simp [eq_comm]
  | some value =>
    cases hm : (Header.text? value).bind MediaType.ofText? with
    | none =>
      simp only [hm, reduceCtorEq, false_and, false_or, Option.some.injEq, exists_eq_left', true_and, Except.error.injEq]
      exact eq_comm
    | some m =>
      simp only [hm, reduceCtorEq, false_and, false_or, Option.some.injEq, exists_eq_left']

private theorem refusesForm_text {m : MediaType} (hm : r.mediaType = .ok m) (hu : m.isUrlEncoded = true)
    (h : (r.loadForm limits).1 = .error fault) : r.RefusesForm limits fault := by
  cases hbody : r.body with
  | empty => simp [loadForm, hm, hu, urlEncodedForm, hbody, Body.isTaken, takeBody, Body.take, Except.map] at h
  | taken =>
    simp only [loadForm, hm, hu, urlEncodedForm, hbody, Body.isTaken] at h
    cases h
    exact .textConsumed m hm hu hbody
  | ready chunks =>
    rw [loadForm_text limits hbody hm hu] at h
    cases hread : Chunk.readWithin limits.bodySize chunks with
    | error cause =>
      rw [hread] at h
      cases h
      exact .textUnread m chunks cause hm hu hbody hread
    | ok bytes =>
      cases hparse : UrlEncoded.parseForm bytes with
      | error cause =>
        simp only [hread, hparse] at h
        cases h
        exact .badText m chunks bytes cause hm hu hbody hread hparse
      | ok values => simp [hread, hparse, Except.mapError, Except.map] at h

private theorem refusesForm_parts {m : MediaType} (hm : r.mediaType = .ok m) (hp : m.isMultipart = true)
    (h : (r.loadForm limits).1 = .error fault) : r.RefusesForm limits fault := by
  have hu := MediaType.isMultipart_not_urlEncoded hp
  cases hb : m.parameter? "boundary" with
  | none =>
    have hboundary : r.boundary = .error .notMultipart := by rw [boundary_of_mediaType hm, hp, hb]
    simp only [loadForm, hm, hu, hp, partsForm, multipart, hboundary] at h
    cases h
    exact .noBoundary m hm hp hb
  | some boundary =>
    have hboundary : r.boundary = .ok boundary := by rw [boundary_of_mediaType hm, hp, hb]
    cases hbody : r.body with
    | empty =>
      simp [loadForm, hm, hu, hp, partsForm, multipart, hboundary, hbody, Body.isTaken, takeBody, Body.take,
        Except.map] at h
    | taken =>
      simp only [loadForm, hm, hu, hp, partsForm, multipart, hboundary, hbody, Body.isTaken] at h
      cases h
      exact .partsConsumed m boundary hm hp hb hbody
    | ready chunks =>
      rw [loadForm_parts limits hbody hm hp hboundary] at h
      cases hcollect : (Multipart.ofChunks boundary limits.parts chunks).collect with
      | error cause =>
        rw [hcollect] at h
        cases h
        exact .badParts m boundary chunks cause hm hp hb hbody hcollect
      | ok data => simp [hcollect, Except.mapError, Except.map] at h

/-- These are the reasons why a form is not loaded, and there are no others. -/
private theorem loadForm_eq_error_iff : (r.loadForm limits).1 = .error fault ↔ r.RefusesForm limits fault := by
  constructor
  · intro h
    cases hm : r.mediaType with
    | error cause =>
      obtain rfl : cause = fault := by simpa [loadForm, hm] using h
      rcases mediaType_eq_error_iff.1 hm with ⟨hnone, rfl⟩ | ⟨value, hvalue, htype, rfl⟩
      · exact .missingContentType hnone
      · exact .invalidContentType value hvalue htype
    | ok m =>
      cases hu : m.isUrlEncoded with
      | true => exact refusesForm_text hm hu h
      | false =>
        cases hp : m.isMultipart with
        | true => exact refusesForm_parts hm hp h
        | false =>
          obtain rfl : SourceFault.noForm m = fault := by simpa [loadForm, hm, hu, hp] using h
          exact .noForm m hm hu hp
  · intro h
    cases h with
    | missingContentType hnone =>
      rw [loadForm, mediaType_eq_error_iff.2 (.inl ⟨hnone, rfl⟩)]
    | invalidContentType value hvalue htype =>
      rw [loadForm, mediaType_eq_error_iff.2 (.inr ⟨value, hvalue, htype, rfl⟩)]
    | noForm m hm hu hp => simp [loadForm, hm, hu, hp]
    | textConsumed m hm hu hbody => simp [loadForm, hm, hu, urlEncodedForm, hbody, Body.isTaken, Except.map]
    | textUnread m chunks cause hm hu hbody hread =>
      rw [loadForm_text limits hbody hm hu, hread]
      rfl
    | badText m chunks bytes cause hm hu hbody hread hparse =>
      rw [loadForm_text limits hbody hm hu, hread]
      simp only [hparse]
      rfl
    | noBoundary m hm hp hb =>
      have hboundary : r.boundary = .error .notMultipart := by rw [boundary_of_mediaType hm, hp, hb]
      simp [loadForm, hm, hp, MediaType.isMultipart_not_urlEncoded hp, partsForm, multipart, hboundary, Except.map]
    | partsConsumed m boundary hm hp hb hbody =>
      have hboundary : r.boundary = .ok boundary := by rw [boundary_of_mediaType hm, hp, hb]
      simp [loadForm, hm, hp, MediaType.isMultipart_not_urlEncoded hp, partsForm, multipart, hboundary, hbody,
        Body.isTaken, Except.map]
    | badParts m boundary chunks cause hm hp hb hbody hcollect =>
      have hboundary : r.boundary = .ok boundary := by rw [boundary_of_mediaType hm, hp, hb]
      rw [loadForm_parts limits hbody hm hp hboundary, hcollect]
      rfl

end Request

namespace Binder

variable {σ : Type}

/-- A form is tried to be loaded exactly if some parameter asks for it. -/
theorem formIntake_eq_none_iff {c : Context} {hasField : String → Bool} {parameters : List (String × Parameter)}
    {i : Intake} : formIntake c hasField parameters i = none ↔
      parameters.filter (fun (field, p) => p.asksForm hasField field) = [] := by
  induction parameters generalizing i with
  | nil => simp [formIntake]
  | cons declaration rest ih =>
    obtain ⟨field, p⟩ := declaration
    cases hasks : p.asksForm hasField field with
    | true => simp [formIntake, hasks]
    | false => simp [formIntake, hasks, ih]

/-- Parameters that ask for the form are found among the bindings in the order in which they were declared. -/
theorem bind_asking (b : Binder) (r : Request) (route : Route) (consumer : Consumer) (d : Destination σ) (s : σ) :
    ((b.bind r route consumer d s).bindings.filter (·.asksForm d.hasField)).map (fun x => (x.field, x.parameter)) =
      b.parameters.filter (fun (field, p) => p.asksForm d.hasField field) := by
  rw [← bind_declarations d b r route consumer s, List.filter_map]
  rfl

/-- A form that cannot be loaded fails every parameter that asks for it. Where a binding finds that the form is refused,
by the request as it came or after its body was taken for another parameter, each parameter that asks for the form,
wherever it is declared, has one problem: with its own name and location, and of the same kind and with the same details
as all others. None of them is assigned anything, and none is absent. -/
theorem bind_repeats_form_fault (b : Binder) (r : Request) (route : Route) (consumer : Consumer) (d : Destination σ)
    (s : σ) {fault : SourceFault} (h : b.loadedForm? r route consumer d = some (.error fault)) :
    let asking := (b.bind r route consumer d s).bindings.filter (·.asksForm d.hasField)
    (r.RefusesForm b.limits fault ∨ r.takeBody.2.RefusesForm b.limits fault) ∧
    asking ≠ [] ∧
    asking.map (fun x => (x.field, x.parameter)) =
      b.parameters.filter (fun (field, p) => p.asksForm d.hasField field) ∧
    ∀ x ∈ asking,
      x.problems = [⟨x.parameter.name, x.parameter.location, fault.kind,
        Problem.sentence fault.kind x.parameter.location.label x.parameter.name fault.message⟩] ∧
      x.calls = [] ∧ x.result ≠ .absent := by
  intro asking
  obtain ⟨i, hi, hform⟩ := Option.map_eq_some_iff.1 h
  obtain ⟨hrequest, hload⟩ := loadForm_of_formIntake? hi
  have hrefused : i.request.RefusesForm b.limits fault := Request.loadForm_eq_error_iff.1 (hload.symm.trans hform)
  have hdeclared := bind_asking b r route consumer d s
  refine ⟨?_, ?_, hdeclared, fun x hx => ?_⟩
  · rcases hrequest with hsame | htaken
    · exact .inl (hsame ▸ hrefused)
    · exact .inr (htaken ▸ hrefused)
  · intro hnone
    rw [show (b.bind r route consumer d s).bindings.filter (·.asksForm d.hasField) = [] from hnone] at hdeclared
    rw [formIntake?, formIntake_eq_none_iff.2 hdeclared.symm] at hi
    cases hi
  · obtain ⟨hx, hasks⟩ := List.mem_filter.1 hx
    have hresult := (bind_served h s).fault x hx hasks
    simp [Binding.problems, Binding.calls, hresult, Parameter.problem, Problem.of]

/-- Behind a bad escape neither a default nor a file is of any help. -/
theorem bind_repeats_form_fault_of_escape :
    let b : Binder := ⟨[("name", .form "name"), ("page", .query "page"), ("photo", .file "photo"),
      ("note", (Parameter.form "note").withDefault (.string "none"))], .standard, by decide, by decide⟩
    let r : Request := ⟨"POST", .root, ⟨[("content-type", [Utf8.encode "application/x-www-form-urlencoded"])]⟩,
      .ready [.data (Utf8.encode "name=%3&note=1")]⟩
    let fault : SourceFault := .urlEncoded ⟨Utf8.encode "%3&"⟩
    b.loadedForm? r ⟨[]⟩ .json .sorted = some (.error fault) ∧
      ∀ x ∈ (b.bind r ⟨[]⟩ .json .sorted []).bindings.filter (·.asksForm fun _ => true),
        x.problems = [⟨x.parameter.name, x.parameter.location, .decodeFailure,
          Problem.sentence .decodeFailure x.parameter.location.label x.parameter.name fault.message⟩] := by
  intro b r fault
  have h : b.loadedForm? r ⟨[]⟩ .json .sorted = some (.error fault) := by rfl
  exact ⟨h, fun x hx => ((bind_repeats_form_fault b r ⟨[]⟩ .json .sorted [] h).2.2.2 x hx).1⟩

end Binder
end RequestBinding
