import RequestBinding.Binding.Source
import RequestBinding.Proofs.Form.Data

/-! Form and body as sources that several parameters share. No media type is that of JSON and that of a form, so
what one of them takes from the request the other would have refused to read. -/

namespace RequestBinding

namespace MediaType

variable {m : MediaType}

private theorem suffix_not_urlEncoded (h : m.suffix = some "json") : m.isUrlEncoded = false := by
  rw [isUrlEncoded, beq_eq_false_iff_ne, essence, h]
  intro he
  have hlast := congrArg (fun text : String => text.toList.reverse.head?) he
  simp at hlast

private theorem subtype_not_urlEncoded (ht : m.type = "application") (hs : m.subtype = "json") :
    m.isUrlEncoded = false := by
  rw [isUrlEncoded, beq_eq_false_iff_ne, essence, ht, hs]
  intro he
  have hplace := congrArg (fun text : String => text.toList[12]?) he
  simp at hplace

/-- What is JSON is no form in either way of writing one. -/
theorem isJson_not_form (h : m.isJson = true) : m.isUrlEncoded = false ∧ m.isMultipart = false := by
  simp only [isJson, Bool.and_eq_true, Bool.or_eq_true, beq_iff_eq] at h
  obtain ⟨ht, hs⟩ := h
  refine ⟨?_, by simp [isMultipart, ht]⟩
  rcases hs with hs | hs
  · exact subtype_not_urlEncoded ht hs
  · exact suffix_not_urlEncoded hs

theorem isMultipart_not_urlEncoded (h : m.isMultipart = true) : m.isUrlEncoded = false := by
  simp only [isMultipart, Bool.and_eq_true, beq_iff_eq] at h
  rw [isUrlEncoded, beq_eq_false_iff_ne, essence, h.1]
  intro he
  have hfirst := congrArg (fun text : String => text.toList.head?) he
  simp at hfirst

end MediaType

namespace Request

variable (limits : Limits) (consumer : Consumer) (r : Request)

theorem mediaType_congr {r r' : Request} (h : r'.headers = r.headers) : r'.mediaType = r.mediaType := by
  unfold mediaType
  rw [h]

/-- The media type says that the body is a form. -/
def CarriesForm : Prop := ∃ m, r.mediaType = .ok m ∧ (m.isUrlEncoded = true ∨ m.isMultipart = true)

theorem takeBody_not_ready (h : r.body.isReady = false) : r.takeBody = (none, r) := by
  obtain ⟨method, address, headers, body⟩ := r
  cases body with
  | empty => rfl
  | ready chunks => simp [Body.isReady] at h
  | taken => rfl

theorem takeBody_isTaken (h : r.body.isReady = true) : r.takeBody.2.body.isTaken = true := by
  obtain ⟨method, address, headers, body⟩ := r
  cases body with
  | empty => simp [Body.isReady] at h
  | ready chunks => rfl
  | taken => simp [Body.isReady] at h

section Ready

variable {r : Request} {chunks : List Chunk} (h : r.body = .ready chunks)
include h

theorem takeBody_ready : r.takeBody = (some chunks, r.withBody .taken) := by
  simp only [takeBody, h, Body.take, withBody]

/-- A form in one text is parsed from the bytes of all chunks, if they are within the limit. -/
theorem loadForm_text {m : MediaType} (hm : r.mediaType = .ok m) (hu : m.isUrlEncoded = true) :
    r.loadForm limits =
      ((match Chunk.readWithin limits.bodySize chunks with
        | .error fault => .error (.body fault)
        | .ok bytes => (UrlEncoded.parseForm bytes).mapError .urlEncoded : Except SourceFault NamedValues).map
          fun values => ⟨.ofValues values, false⟩, r.withBody .taken) := by
  simp only [loadForm, hm, hu, urlEncodedForm, takeBody_ready h, h, Body.isTaken]
  rfl

/-- A form in parts is what the reader of its chunks collects. -/
theorem loadForm_parts {m : MediaType} (hm : r.mediaType = .ok m) (hp : m.isMultipart = true) {boundary : String}
    (hb : r.boundary = .ok boundary) : r.loadForm limits =
      (((Multipart.ofChunks boundary limits.parts chunks).collect.mapError .multipart).map fun data => ⟨data, true⟩,
        r.withBody .taken) := by
  simp only [loadForm, hm, MediaType.isMultipart_not_urlEncoded hp, hp, partsForm, multipart, hb, takeBody_ready h, h,
    Body.isTaken]
  rfl

/-- The consumer reads the bytes of all chunks, if they are within the limit. -/
theorem readBody_ready {m : MediaType} (hm : r.mediaType = .ok m) (hs : consumer.supports m = true) :
    r.readBody limits consumer =
      (match Chunk.readWithin limits.bodySize chunks with
        | .error fault => .error (.body fault)
        | .ok bytes => valueOf consumer bytes, r.withBody .taken) := by
  simp only [readBody, takeBody_ready h, h, Body.isTaken, Body.isReady, hm, hs]
  rfl

end Ready

theorem multipart_request (parts : PartLimits) :
    (r.multipart parts).2 = r ∨ (r.multipart parts).2 = r.takeBody.2 := by
  unfold multipart
  split
  · exact .inl rfl
  · split
    · exact .inl rfl
    · rcases r.takeBody with ⟨_ | chunks, after⟩ <;> exact .inr rfl

private theorem urlEncodedForm_request :
    (r.urlEncodedForm limits).2 = r ∨ (r.urlEncodedForm limits).2 = r.takeBody.2 := by
  unfold urlEncodedForm
  split
  · exact .inl rfl
  · rcases r.takeBody with ⟨_ | chunks, after⟩ <;> exact .inr rfl

private theorem partsForm_request : (r.partsForm limits).2 = r ∨ (r.partsForm limits).2 = r.takeBody.2 := by
  have h := r.multipart_request limits.parts
  unfold partsForm
  split <;> simp_all

/-- Loading a form takes the body or leaves the request as it is, and takes none but that of a form. -/
theorem loadForm_request :
    (r.loadForm limits).2 = r ∨ (r.loadForm limits).2 = r.takeBody.2 ∧ r.CarriesForm := by
  unfold loadForm
  split
  · exact .inl rfl
  · next m hm =>
    split
    · next hu => exact (r.urlEncodedForm_request limits).imp_right fun h => ⟨h, m, hm, .inl hu⟩
    · split
      · next hp => exact (r.partsForm_request limits).imp_right fun h => ⟨h, m, hm, .inr hp⟩
      · exact .inl rfl

private theorem loadForm_not_form (h : ¬ r.CarriesForm) :
    r.loadForm limits = (match r.mediaType with
      | .error fault => .error fault
      | .ok m => .error (.noForm m), r) := by
  unfold loadForm
  cases hm : r.mediaType with
  | error fault => rfl
  | ok m =>
    have hu : m.isUrlEncoded ≠ true := fun hu => h ⟨m, hm, .inl hu⟩
    have hp : m.isMultipart ≠ true := fun hp => h ⟨m, hm, .inr hp⟩
    simp only [hu, hp]
    rfl

/-- Reading the body takes it or leaves the request as it is, and takes none but what the consumer supports. -/
theorem readBody_request :
    (r.readBody limits consumer).2 = r ∨
      (r.readBody limits consumer).2 = r.takeBody.2 ∧ ∃ m, r.mediaType = .ok m ∧ consumer.supports m = true := by
  unfold readBody
  split
  · exact .inl rfl
  · split
    · exact .inl rfl
    · split
      · exact .inl rfl
      · next m hm =>
        split
        · exact .inl rfl
        · next hs =>
          refine .inr ⟨?_, m, hm, by simpa using hs⟩
          rcases r.takeBody with ⟨_ | chunks, after⟩ <;> rfl

private theorem loadForm_frame :
    (r.loadForm limits).2.headers = r.headers ∧ (r.loadForm limits).2.address = r.address := by
  rcases r.loadForm_request limits with h | ⟨h, -⟩ <;> rw [h] <;> exact ⟨rfl, rfl⟩

theorem readBody_frame :
    (r.readBody limits consumer).2.headers = r.headers ∧ (r.readBody limits consumer).2.address = r.address := by
  rcases r.readBody_request limits consumer with h | ⟨h, -⟩ <;> rw [h] <;> exact ⟨rfl, rfl⟩

private theorem CarriesForm.not_json {r : Request} (h : r.CarriesForm) {m : MediaType} (hm : r.mediaType = .ok m) :
    Consumer.json.supports m = false := by
  obtain ⟨m', hm', hform⟩ := h
  obtain rfl : m' = m := Except.ok.inj (hm'.symm.trans hm)
  by_contra hj
  obtain ⟨hu, hp⟩ := MediaType.isJson_not_form (show m'.isJson = true by simpa [Consumer.json] using hj)
  simp [hu, hp] at hform

private theorem loadForm_after_readBody :
    ((r.readBody limits .json).2.loadForm limits).1 = (r.loadForm limits).1 := by
  rcases r.readBody_request limits .json with h | ⟨h, m, hm, hs⟩
  · rw [h]
  · have hm' : r.takeBody.2.mediaType = r.mediaType := mediaType_congr rfl
    have hnot : ¬ r.CarriesForm := fun hf => by simp [hf.not_json hm] at hs
    have hnot' : ¬ r.takeBody.2.CarriesForm := by
      unfold CarriesForm
      rwa [hm']
    rw [h, loadForm_not_form limits _ hnot, loadForm_not_form limits _ hnot', hm']

/-- Once a form was loaded, the body reads as JSON as it did before, unless neither is possible. -/
theorem readBody_after_loadForm :
    ((r.loadForm limits).2.readBody limits .json).1 = (r.readBody limits .json).1 ∨
      (∃ fault, ((r.loadForm limits).2.readBody limits .json).1 = .error fault) ∧
        ∃ fault, (r.readBody limits .json).1 = .error fault := by
  rcases r.loadForm_request limits with h | ⟨h, hform⟩
  · exact .inl (by rw [h])
  · cases hr : r.body.isReady with
    | false => exact .inl (by rw [h, takeBody_not_ready r hr])
    | true =>
      have htaken := takeBody_isTaken r hr
      obtain ⟨m, hm, -⟩ := id hform
      have hopen : r.body.isTaken = false := by
        cases hb : r.body <;> simp [hb, Body.isReady, Body.isTaken] at hr ⊢
      refine .inr ⟨⟨.bodyConsumed, ?_⟩, .noConsumer m, ?_⟩
      · rw [h]
        simp [readBody, htaken]
      · simp [readBody, hopen, hr, hm, hform.not_json hm]

end Request

/-- Forms that are one and the same but for the files of some names. -/
inductive FormsAgree (claimed : List String) :
    Except SourceFault LoadedForm → Except SourceFault LoadedForm → Prop
  | error (fault : SourceFault) : FormsAgree claimed (.error fault) (.error fault)
  | ok {f g : LoadedForm} : f.inParts = g.inParts → f.data.values = g.data.values →
      (∀ name, name ∉ claimed → Entries.get? name f.data.files = Entries.get? name g.data.files) →
      FormsAgree claimed (.ok f) (.ok g)

namespace FormsAgree

variable {claimed : List String} {f g : Except SourceFault LoadedForm}

theorem refl (claimed : List String) (f : Except SourceFault LoadedForm) : FormsAgree claimed f f := by
  cases f with
  | error fault => exact .error fault
  | ok form => exact .ok rfl rfl fun _ _ => rfl

theorem mono {more : List String} (h : FormsAgree claimed f g) (hsub : claimed ⊆ more) : FormsAgree more f g := by
  cases h with
  | error fault => exact .error fault
  | ok hp hv hf => exact .ok hp hv fun name hn => hf name fun hm => hn (hsub hm)

end FormsAgree

namespace Intake

variable (limits : Limits) (i : Intake)

theorem getForm_getForm : (i.getForm limits).2.getForm limits = i.getForm limits := by
  obtain ⟨r, _ | form⟩ := i <;> rfl

theorem getForm_frame :
    (i.getForm limits).2.request.headers = i.request.headers ∧
      (i.getForm limits).2.request.address = i.request.address := by
  obtain ⟨r, _ | form⟩ := i
  · exact r.loadForm_frame limits
  · exact ⟨rfl, rfl⟩

/-- The form of a binding is the same before and after the body is read as JSON. -/
theorem getForm_getBody : ((i.getBody limits .json).2.getForm limits).1 = (i.getForm limits).1 := by
  obtain ⟨r, _ | form⟩ := i
  · exact r.loadForm_after_readBody limits
  · rfl

end Intake
end RequestBinding
