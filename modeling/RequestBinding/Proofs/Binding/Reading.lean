import RequestBinding.Proofs.Binding.Isolation

/-! What a binding takes of its request. The body is taken exactly when there is a parameter for which it is read;
otherwise it stays as it was, and nothing depends on what is in it. -/

namespace RequestBinding

/-- A declaration that can be followed: the location is known, texts that stand by themselves are in the query, and
files are in forms. -/
structure Parameter.Sound (p : Parameter) : Prop where
  recognized : p.location.isRecognized = true
  multi : p.schema.type = .array → p.schema.collectionFormat = .multi → p.location = .query
  file : p.schema.type = .file → p.location = .form ∨ p.location = .file

theorem Parameter.misdeclared?_eq_none_iff (p : Parameter) : p.misdeclared? = none ↔ p.Sound := by
  constructor
  · intro h
    unfold misdeclared? at h
    split at h
    · cases h
    · next hr =>
      split at h
      · cases h
      · next hm =>
        split at h
        · cases h
        · next hf =>
          refine ⟨by simpa using hr, fun ha hc => ?_, fun ht => ?_⟩
          · exact not_not.1 fun hq => hm ⟨by simpa [isArray] using ha, hc, hq⟩
          · exact or_iff_not_imp_left.2 fun hform => not_not.1 fun hfile => hf ⟨ht, hform, hfile⟩
  · rintro ⟨hr, hm, hf⟩
    unfold misdeclared?
    rw [if_neg (by simp [hr]), if_neg, if_neg]
    · rintro ⟨ht, hform, hfile⟩
      exact (hf ht).elim hform hfile
    · rintro ⟨ha, hmulti, hq⟩
      exact hq (hm (by simpa [isArray] using ha) hmulti)

namespace Request

variable (limits : Limits) (consumer : Consumer) {r : Request}

/-- The content type is that of a form in one text, or of one in parts whose boundary it names. -/
def FormReadable (r : Request) : Prop :=
  ∃ m, r.mediaType = .ok m ∧
    (m.isUrlEncoded = true ∨ m.isMultipart = true ∧ ∃ boundary, m.parameter? "boundary" = some boundary)

/-- The content type is one that the consumer reads. -/
def BodyReadable (r : Request) (consumer : Consumer) : Prop := ∃ m, r.mediaType = .ok m ∧ consumer.supports m = true

theorem isTaken_eq_false (h : r.body.isReady = true) : r.body.isTaken = false := by
  cases hb : r.body <;> simp_all [Body.isReady, Body.isTaken]

private theorem exists_takeBody (h : r.body.isReady = true) : ∃ chunks, r.takeBody = (some chunks, r.takeBody.2) := by
  obtain ⟨method, address, headers, body⟩ := r
  cases body with
  | empty => simp [Body.isReady] at h
  | ready chunks => exact ⟨chunks, rfl⟩
  | taken => simp [Body.isReady] at h

/-- What was taken once is not taken again. -/
@[simp] theorem takeBody_takeBody (r : Request) : r.takeBody.2.takeBody.2 = r.takeBody.2 := by
  obtain ⟨method, address, headers, body⟩ := r
  cases body <;> rfl

/-- The boundary of a form in parts is that of its media type. -/
theorem boundary_of_mediaType {m : MediaType} (h : r.mediaType = .ok m) :
    r.boundary = match m.isMultipart, m.parameter? "boundary" with
      | true, some boundary => .ok boundary
      | _, _ => .error .notMultipart := by
  unfold mediaType at h
  unfold boundary contentType?
  split at h
  · cases h
  · next value hv =>
    cases ht : Header.text? value with
    | none => simp [ht] at h
    | some text =>
      cases hm : MediaType.ofText? text with
      | none => simp [ht, hm] at h
      | some found =>
        obtain rfl : found = m := by simpa [ht, hm] using h
        cases hp : found.isMultipart <;> cases hb : found.parameter? "boundary" <;> simp [hv, ht, hm, hp, hb]

private theorem loadForm_readable (hr : r.body.isReady = true) (h : r.FormReadable) :
    (r.loadForm limits).2 = r.takeBody.2 := by
  obtain ⟨m, hm, hform⟩ := h
  obtain ⟨chunks, htake⟩ := exists_takeBody hr
  have hopen := isTaken_eq_false hr
  unfold loadForm
  rw [hm]
  dsimp only
  by_cases hu : m.isUrlEncoded = true
  · simp only [if_pos hu, urlEncodedForm, hopen]
    rw [htake]
    rfl
  · obtain ⟨hp, boundary, hb⟩ := hform.resolve_left hu
    have hboundary : r.boundary = .ok boundary := by rw [boundary_of_mediaType hm, hp, hb]
    simp only [if_neg hu, if_pos hp, partsForm, multipart, hboundary, hopen]
    rw [htake]
    rfl

/-- A form that cannot be read is refused for its content type, and the body is left alone. -/
theorem loadForm_unreadable (h : ¬ r.FormReadable) :
    r.loadForm limits = (match r.mediaType with
      | .error fault => .error fault
      | .ok m => if m.isMultipart then .error (.multipart .notMultipart) else .error (.noForm m), r) := by
  unfold loadForm
  cases hm : r.mediaType with
  | error fault => rfl
  | ok m =>
    have hu : m.isUrlEncoded ≠ true := fun hu => h ⟨m, hm, .inl hu⟩
    dsimp only
    rw [if_neg hu]
    by_cases hp : m.isMultipart = true
    · have hb : m.parameter? "boundary" = none :=
        Option.eq_none_iff_forall_ne_some.2 fun boundary hb => h ⟨m, hm, .inr ⟨hp, boundary, hb⟩⟩
      have hboundary : r.boundary = .error .notMultipart := by rw [boundary_of_mediaType hm, hp, hb]
      simp only [if_pos hp, partsForm, multipart, hboundary]
      rfl
    · simp only [if_neg hp]

private theorem multipart_refused (r : Request) (parts : PartLimits)
    (h : (r.multipart parts).1 = .error .missingContentType ∨ (r.multipart parts).1 = .error .notMultipart) :
    (r.multipart parts).2 = r := by
  unfold multipart at h ⊢
  split
  · rfl
  · next hb =>
    simp only [hb] at h
    split
    · rfl
    · next ht =>
      rw [if_neg ht] at h
      rcases htake : r.takeBody with ⟨_ | chunks, after⟩ <;> simp [htake] at h

theorem readBody_readable (hr : r.body.isReady = true) (h : r.BodyReadable consumer) :
    (r.readBody limits consumer).2 = r.takeBody.2 := by
  obtain ⟨m, hm, hs⟩ := h
  obtain ⟨chunks, htake⟩ := exists_takeBody hr
  simp only [readBody, isTaken_eq_false hr, hr, hm, hs]
  rw [htake]
  rfl

theorem readBody_unreadable (hr : r.body.isReady = true) (h : ¬ r.BodyReadable consumer) :
    r.readBody limits consumer = (match r.mediaType with
      | .error fault => .error fault
      | .ok m => .error (.noConsumer m), r) := by
  simp only [readBody, isTaken_eq_false hr, hr]
  cases hm : r.mediaType with
  | error fault => rfl
  | ok m =>
    have hs : consumer.supports m = false := by
      by_contra hs
      exact h ⟨m, hm, by simpa using hs⟩
    simp [hs]

end Request

namespace Intake

theorem getForm_request (limits : Limits) (i : Intake) :
    (i.getForm limits).2.request = i.request ∨ (i.getForm limits).2.request = i.request.takeBody.2 := by
  obtain ⟨r, _ | loaded⟩ := i
  · exact (r.loadForm_request limits).imp_right And.left
  · exact .inl rfl

/-- The intake of a request with another body. -/
def withBody (body : Body) (i : Intake) : Intake := { i with request := i.request.withBody body }

variable (limits : Limits) (consumer : Consumer) {i : Intake}

theorem getForm_readable (hr : i.request.body.isReady = true) (h : i.request.FormReadable) (hf : i.form = none) :
    (i.getForm limits).2.request = i.request.takeBody.2 := by
  obtain ⟨r, form⟩ := i
  obtain rfl : form = none := hf
  exact r.loadForm_readable limits hr h

theorem getForm_unreadable (h : ¬ i.request.FormReadable) :
    (i.getForm limits).2.request = i.request ∧
      ∀ body, (i.withBody body).getForm limits = ((i.getForm limits).1, (i.getForm limits).2.withBody body) := by
  obtain ⟨r, _ | loaded⟩ := i
  · refine ⟨congrArg Prod.snd (r.loadForm_unreadable limits h), fun body => ?_⟩
    have hm : (r.withBody body).mediaType = r.mediaType := Request.mediaType_congr rfl
    have h' : ¬ (r.withBody body).FormReadable := by
      unfold Request.FormReadable
      rwa [hm]
    simp only [getForm, withBody, Request.loadForm_unreadable limits h, Request.loadForm_unreadable limits h', hm]
  · exact ⟨rfl, fun _ => rfl⟩

theorem getBody_unreadable (hr : i.request.body.isReady = true) (h : ¬ i.request.BodyReadable consumer) :
    (i.getBody limits consumer).2 = i ∧ ∀ chunks, (i.withBody (.ready chunks)).getBody limits consumer =
      ((i.getBody limits consumer).1, i.withBody (.ready chunks)) := by
  obtain ⟨r, form⟩ := i
  have hread := Request.readBody_unreadable limits consumer hr h
  refine ⟨by simp only [getBody, hread], fun chunks => ?_⟩
  have hm : (r.withBody (.ready chunks)).mediaType = r.mediaType := Request.mediaType_congr rfl
  have h' : ¬ (r.withBody (.ready chunks)).BodyReadable consumer := by
    unfold Request.BodyReadable
    rwa [hm]
  have hread' := Request.readBody_unreadable limits consumer (r := r.withBody (.ready chunks)) rfl h'
  simp only [getBody, withBody, hread, hread', hm]

end Intake

namespace Parameter

/-- The parameter is one for which a binding reads the body of the request: one of a form that can be read, or the
one that the body goes to, if the consumer reads it. -/
def Draws (p : Parameter) (c : Context) (field : String) (r : Request) : Prop :=
  p.Sound ∧ (p.readsForm = true ∧ r.FormReadable ∨
    p.location = .body ∧ c.bodyField = some field ∧ r.BodyReadable c.consumer)

variable {p : Parameter} {c : Context} {field : String} {i : Intake}

theorem resolve_other_body {owner : String} (h : p.Sound) (hl : p.location = .body) (ho : c.bodyField = some owner)
    (hne : owner ≠ field) (i : Intake) :
    p.resolve c field i =
      (p.fails .configuration ("the request body is already bound to field '" ++ owner ++ "'"), i) := by
  have hown : c.bodyField.filter (· ≠ field) = some owner := by simp [ho, Option.filter_some, hne]
  unfold resolve
  simp only [p.misdeclared?_eq_none_iff.2 h, hl]
  rw [hown]

/-- The body is taken for a parameter that needs it. -/
theorem resolve_draws (hr : i.request.body.isReady = true) (hf : i.request.FormReadable → i.form = none)
    (h : p.Draws c field i.request) : (p.resolve c field i).2.request = i.request.takeBody.2 := by
  obtain ⟨hs, ⟨hread, hform⟩ | ⟨hl, ho, hbody⟩⟩ := h
  · rw [p.resolve_form (p.misdeclared?_eq_none_iff.2 hs) hread]
    have htaken := Intake.getForm_readable c.limits hr hform (hf hform)
    split <;> exact htaken
  · rw [p.resolve_body (p.misdeclared?_eq_none_iff.2 hs) hl c ho]
    exact i.request.readBody_readable c.limits c.consumer hr hbody

/-- No other parameter touches the body, and what is in it plays no part. -/
private theorem resolve_undrawn (hr : i.request.body.isReady = true) (hbody : p.location = .body → c.bodyField ≠ none)
    (h : ¬ p.Draws c field i.request) :
    (p.resolve c field i).2.request = i.request ∧
      (i.request.FormReadable → (p.resolve c field i).2.form = i.form) ∧
      ∀ chunks, p.resolve c field (i.withBody (.ready chunks)) =
        ((p.resolve c field i).1, (p.resolve c field i).2.withBody (.ready chunks)) := by
  cases hm : p.misdeclared? with
  | some problem => simp only [p.resolve_misdeclared hm, implies_true, and_self]
  | none =>
    have hs := p.misdeclared?_eq_none_iff.1 hm
    cases hread : p.readsForm with
    | true =>
      have hform : ¬ i.request.FormReadable := fun hform => h ⟨hs, .inl ⟨hread, hform⟩⟩
      obtain ⟨hrequest, hbodies⟩ := Intake.getForm_unreadable c.limits hform
      simp only [p.resolve_form hm hread, hbodies]
      refine ⟨?_, fun hf => absurd hf hform, fun chunks => ?_⟩
      · split <;> exact hrequest
      · split <;> rfl
    | false =>
      by_cases hl : p.location = .body
      · obtain ⟨owner, ho⟩ := Option.ne_none_iff_exists'.1 (hbody hl)
        by_cases hown : owner = field
        · subst hown
          have hunread : ¬ i.request.BodyReadable c.consumer := fun hb => h ⟨hs, .inr ⟨hl, ho, hb⟩⟩
          obtain ⟨hsame, hbodies⟩ := Intake.getBody_unreadable c.limits c.consumer hr hunread
          simp only [p.resolve_body hm hl c ho, hsame, hbodies, implies_true, and_self]
        · simp only [resolve_other_body hs hl ho hown, implies_true, and_self]
      · have hframe (j : Intake) (hh : j.request.headers = i.request.headers) (ha : j.request.address = i.request.address) :=
          p.resolve_frame hl hread c c rfl field hh ha
        obtain ⟨-, hi⟩ := hframe i rfl rfl
        refine ⟨by rw [hi], fun _ => by rw [hi], fun chunks => ?_⟩
        obtain ⟨ho, hj⟩ := hframe (i.withBody (.ready chunks)) rfl rfl
        exact Prod.ext ho (by rw [hj, hi])

/-- Whatever a parameter is taken from, the request is left as it was, or without its body. -/
theorem resolve_request (p : Parameter) (c : Context) (field : String) (i : Intake) :
    (p.resolve c field i).2.request = i.request ∨ (p.resolve c field i).2.request = i.request.takeBody.2 := by
  cases hm : p.misdeclared? with
  | some problem => exact .inl (by rw [p.resolve_misdeclared hm])
  | none =>
    cases hread : p.readsForm with
    | true =>
      have hform := i.getForm_request c.limits
      rw [p.resolve_form hm hread]
      split <;> exact hform
    | false =>
      by_cases hl : p.location = .body
      · unfold resolve
        simp only [hm, hl]
        split
        · exact .inl rfl
        · exact (i.request.readBody_request c.limits c.consumer).imp_right And.left
      · obtain ⟨-, hi⟩ := p.resolve_frame hl hread c c rfl field (i := i) rfl rfl
        exact .inl (by rw [hi])

end Parameter

namespace Binder

variable {σ : Type} {c : Context} {d : Destination σ} {field : String} {p : Parameter} {i : Intake}

theorem bindOne_intake (c : Context) (d : Destination σ) (field : String) (p : Parameter) (i : Intake) (s : σ) :
    (bindOne c d field p i s).2.1 = if d.hasField field then (p.resolve c field i).2 else i := by
  cases hf : d.hasField field with
  | false => simp [bindOne_noField c d hf]
  | true =>
    rw [bindOne_hasField c d hf]
    cases (p.resolve c field i).1 <;> rfl

theorem bindOne_request (c : Context) (d : Destination σ) (field : String) (p : Parameter) (i : Intake) (s : σ) :
    (bindOne c d field p i s).2.1.request = i.request ∨
      (bindOne c d field p i s).2.1.request = i.request.takeBody.2 := by
  rw [bindOne_intake]
  split
  · exact p.resolve_request c field i
  · exact .inl rfl

/-- Each binding of a run is a step on the request as it was at first, or as it was without its body. -/
theorem exists_bindOne (c : Context) (d : Destination σ) {parameters : List (String × Parameter)} {i : Intake} {s : σ}
    {x : Binding} (hx : x ∈ (bindEach c d parameters i s).1) :
    ∃ j s', (j.request = i.request ∨ j.request = i.request.takeBody.2) ∧
      x = (bindOne c d x.field x.parameter j s').1 := by
  induction parameters generalizing i s with
  | nil => simp [bindEach] at hx
  | cons declaration rest ih =>
    obtain ⟨field, p⟩ := declaration
    obtain ⟨hfield, hparameter⟩ := bindOne_binding c d field p i s
    rw [bindEach_cons] at hx
    rcases List.mem_cons.1 hx with rfl | hx
    · exact ⟨i, s, .inl rfl, by rw [hfield, hparameter]⟩
    · obtain ⟨j, s', hj, he⟩ := ih hx
      refine ⟨j, s', ?_, he⟩
      rcases bindOne_request c d field p i s with h | h
      · rwa [h] at hj
      · rw [h, Request.takeBody_takeBody, or_self] at hj
        exact .inr hj

/-- A parameter of neither form nor body comes to what it comes to with the request as it was at first. -/
theorem bindEach_frame (c : Context) (d : Destination σ) (parameters : List (String × Parameter)) (i : Intake)
    (s : σ) : ∀ x ∈ (bindEach c d parameters i s).1, d.hasField x.field = true → x.parameter.location ≠ .body →
      x.parameter.readsForm = false → (x.parameter.resolve c x.field i).1.Leads x.result := by
  intro x hx hf hb hread
  obtain ⟨j, s', hj, he⟩ := exists_bindOne c d hx
  have hleads := bindOne_leads c d hf x.parameter j s'
  have hframe : j.request.headers = i.request.headers ∧ j.request.address = i.request.address := by
    rcases hj with h | h <;> rw [h] <;> exact ⟨rfl, rfl⟩
  rw [← he] at hleads
  rwa [(x.parameter.resolve_frame hb hread c c rfl x.field hframe.1 hframe.2).1] at hleads

/-- A step that reads no body keeps the form unloaded where one could be read, and takes every body alike. -/
theorem bindOne_undrawn (hr : i.request.body.isReady = true) (hbody : p.location = .body → c.bodyField ≠ none)
    (h : d.hasField field = true → ¬ p.Draws c field i.request) (s : σ) :
    (bindOne c d field p i s).2.1.request = i.request ∧
      (i.request.FormReadable → (bindOne c d field p i s).2.1.form = i.form) ∧
      ∀ chunks, bindOne c d field p (i.withBody (.ready chunks)) s =
        ((bindOne c d field p i s).1, (bindOne c d field p i s).2.1.withBody (.ready chunks),
          (bindOne c d field p i s).2.2) := by
  cases hf : d.hasField field with
  | false => simp [bindOne_noField c d hf]
  | true =>
    obtain ⟨hrequest, hform, hbodies⟩ := p.resolve_undrawn hr hbody (h hf)
    rw [bindOne_intake, if_pos hf]
    refine ⟨hrequest, hform, fun chunks => ?_⟩
    rw [bindOne_hasField c d hf, bindOne_hasField c d hf, hbodies]
    cases (p.resolve c field i).1 <;> rfl

/-- A run of a binding takes the body once, or not at all. -/
theorem bindEach_request (c : Context) (d : Destination σ) (parameters : List (String × Parameter)) (i : Intake)
    (s : σ) :
    (bindEach c d parameters i s).2.1.request = i.request ∨
      (bindEach c d parameters i s).2.1.request = i.request.takeBody.2 := by
  induction parameters generalizing i s with
  | nil => exact .inl rfl
  | cons declaration rest ih =>
    obtain ⟨field, p⟩ := declaration
    rw [bindEach_cons]
    have hlater := ih (bindOne c d field p i s).2.1 (bindOne c d field p i s).2.2
    rcases bindOne_request c d field p i s with h | h
    · rwa [h] at hlater
    · rw [h, Request.takeBody_takeBody, or_self] at hlater
      exact .inr hlater

section Run

variable {parameters : List (String × Parameter)} (hr : i.request.body.isReady = true)
  (hbody : ∀ declaration ∈ parameters, declaration.2.location = .body → c.bodyField ≠ none)
include hr hbody

private theorem bindEach_undrawn
    (h : ∀ declaration ∈ parameters, d.hasField declaration.1 = true →
      ¬ declaration.2.Draws c declaration.1 i.request) (s : σ) :
    (bindEach c d parameters i s).2.1.request = i.request ∧
      ∀ chunks, bindEach c d parameters (i.withBody (.ready chunks)) s =
        ((bindEach c d parameters i s).1, (bindEach c d parameters i s).2.1.withBody (.ready chunks),
          (bindEach c d parameters i s).2.2) := by
  induction parameters generalizing i s with
  | nil => exact ⟨rfl, fun _ => rfl⟩
  | cons declaration rest ih =>
    obtain ⟨field, p⟩ := declaration
    obtain ⟨hhead, hrest⟩ := List.forall_mem_cons.1 h
    obtain ⟨hbodyHead, hbodyRest⟩ := List.forall_mem_cons.1 hbody
    obtain ⟨hrequest, -, hbodies⟩ := bindOne_undrawn hr hbodyHead hhead s
    obtain ⟨hafter, hall⟩ := ih (i := (bindOne c d field p i s).2.1) (by rwa [hrequest]) hbodyRest
      (by rwa [hrequest]) (bindOne c d field p i s).2.2
    refine ⟨hafter.trans hrequest, fun chunks => ?_⟩
    simp only [bindEach_cons, hbodies, hall]

private theorem bindEach_drawn (hform : i.request.FormReadable → i.form = none)
    (h : ∃ declaration ∈ parameters, d.hasField declaration.1 = true ∧
      declaration.2.Draws c declaration.1 i.request) (s : σ) :
    (bindEach c d parameters i s).2.1.request = i.request.takeBody.2 := by
  induction parameters generalizing i s with
  | nil => simp at h
  | cons declaration rest ih =>
    obtain ⟨field, p⟩ := declaration
    obtain ⟨hbodyHead, hbodyRest⟩ := List.forall_mem_cons.1 hbody
    rw [bindEach_cons]
    by_cases hhead : d.hasField field = true ∧ p.Draws c field i.request
    · have htaken : (bindOne c d field p i s).2.1.request = i.request.takeBody.2 := by
        rw [bindOne_intake, if_pos hhead.1]
        exact p.resolve_draws hr hform hhead.2
      have hlater := bindEach_request c d rest (bindOne c d field p i s).2.1 (bindOne c d field p i s).2.2
      rwa [htaken, Request.takeBody_takeBody, or_self] at hlater
    · obtain ⟨hrequest, hsame, -⟩ := bindOne_undrawn hr hbodyHead (fun hf hd => hhead ⟨hf, hd⟩) s
      have hlater : ∃ declaration ∈ rest, d.hasField declaration.1 = true ∧
          declaration.2.Draws c declaration.1 i.request := by
        rwa [List.exists_mem_cons_iff, or_iff_right hhead] at h
      rw [← hrequest] at hlater ⊢
      exact ih (by rwa [hrequest]) hbodyRest (fun hf => (hsame (hrequest ▸ hf)).trans (hform (hrequest ▸ hf))) hlater _

end Run

/-- The field that the body goes to is that of the first parameter in the body. -/
theorem bodyField?_eq_some {b : Binder} (h : (field, p) ∈ b.parameters) :
    p.location = .body ∧ b.bodyField? = some field ↔
      b.parameters.find? (fun (_, q) => q.location == .body) = some (field, p) := by
  unfold bodyField?
  constructor
  · rintro ⟨-, hfield⟩
    obtain ⟨⟨owner, q⟩, hfound, rfl⟩ := Option.map_eq_some_iff.1 hfield
    rw [hfound, List.inj_on_of_nodup_map b.fields_nodup (List.mem_of_find?_eq_some hfound) h rfl]
  · intro hfound
    refine ⟨by simpa using List.find?_some hfound, ?_⟩
    rw [hfound, Option.map_some]

theorem bodyField?_ne_none {b : Binder} {declaration : String × Parameter} (h : declaration ∈ b.parameters)
    (hl : declaration.2.location = .body) : b.bodyField? ≠ none := by
  rw [bodyField?, Ne, Option.map_eq_none_iff, List.find?_eq_none]
  exact fun hall => hall declaration h (by simp [hl])

/-- A parameter of the binder can have the body: its field is one of the destination, its declaration can be followed,
and it is of a form while the content type is that of a form, or the first one in the body while the consumer reads
the content type. -/
def Draws (b : Binder) (r : Request) (consumer : Consumer) (d : Destination σ) : Prop :=
  ∃ field p, (field, p) ∈ b.parameters ∧ d.hasField field = true ∧ p.Sound ∧
    ((p.location = .form ∨ p.location = .file) ∧ r.FormReadable ∨
      b.parameters.find? (fun (_, q) => q.location == .body) = some (field, p) ∧ r.BodyReadable consumer)

variable (b : Binder) {r : Request} (route : Route) (consumer : Consumer) (d : Destination σ) (s : σ)

private theorem draws_iff : b.Draws r consumer d ↔
    ∃ declaration ∈ b.parameters, d.hasField declaration.1 = true ∧
      declaration.2.Draws ⟨route, consumer, b.limits, b.bodyField?⟩ declaration.1 r := by
  rw [Prod.exists]
  refine exists₂_congr fun field p => and_congr_right fun hp => and_congr_right fun _ => ?_
  rw [Parameter.Draws, ← bodyField?_eq_some hp, and_assoc]
  simp only [Parameter.readsForm, Bool.or_eq_true, beq_iff_eq]

private theorem bind_drawn (hr : r.body.isReady = true) (h : b.Draws r consumer d) :
    (b.bind r route consumer d s).request = r.takeBody.2 :=
  bindEach_drawn (i := .ofRequest r) hr (fun _ => bodyField?_ne_none) (fun _ => rfl)
    ((draws_iff b route consumer d).1 h) s

private theorem bind_undrawn (hr : r.body.isReady = true) (h : ¬ b.Draws r consumer d) :
    (b.bind r route consumer d s).request = r ∧
      ∀ chunks, b.bind (r.withBody (.ready chunks)) route consumer d s =
        { b.bind r route consumer d s with request := r.withBody (.ready chunks) } := by
  have hnone : ∀ declaration ∈ b.parameters, d.hasField declaration.1 = true →
      ¬ declaration.2.Draws ⟨route, consumer, b.limits, b.bodyField?⟩ declaration.1 r := by
    intro declaration hd hf hdraws
    exact h ((draws_iff b route consumer d).2 ⟨declaration, hd, hf, hdraws⟩)
  obtain ⟨hsame, hall⟩ := bindEach_undrawn (i := .ofRequest r) hr (fun _ => bodyField?_ne_none) hnone s
  refine ⟨hsame, fun chunks => ?_⟩
  have hstart : Intake.ofRequest (r.withBody (.ready chunks)) = (Intake.ofRequest r).withBody (.ready chunks) := rfl
  simp only [bind, hstart, hall]
  exact congrArg (Bound.mk _ · _) (congrArg (Request.withBody · (.ready chunks)) hsame)

/-- A binding takes a body that is there exactly when one of its parameters can have it. Otherwise the request stays
as it was, whatever is in its body, as it does where a reader of parts is refused for the content type. The rest of a
request never changes. -/
theorem bind_takes_body_iff {σ : Type} (b : Binder) (r : Request) (hr : r.body.isReady = true) (route : Route)
    (consumer : Consumer) (d : Destination σ) (s : σ) :
    let after := b.bind r route consumer d s
    (after.request.body.isTaken = true ↔ b.Draws r consumer d) ∧
    (after.request.body.isTaken = false → after.request = r ∧
      ∀ chunks, b.bind (r.withBody (.ready chunks)) route consumer d s =
        { after with request := r.withBody (.ready chunks) }) ∧
    (after.request.method = r.method ∧ after.request.address = r.address ∧ after.request.headers = r.headers) ∧
    ∀ limits : PartLimits,
      let parts := r.multipart limits
      (parts.1 = .error .missingContentType ∨ parts.1 = .error .notMultipart → parts.2 = r) ∧
      parts.2.method = r.method ∧ parts.2.address = r.address ∧ parts.2.headers = r.headers := by
  intro after
  have hopen := Request.isTaken_eq_false hr
  have htakes : after.request.body.isTaken = true ↔ b.Draws r consumer d := by
    constructor
    · intro htaken
      by_contra hnone
      rw [(bind_undrawn b route consumer d s hr hnone).1, hopen] at htaken
      cases htaken
    · intro h
      rw [bind_drawn b route consumer d s hr h]
      exact r.takeBody_isTaken hr
  refine ⟨htakes, fun hleft => ?_, ?_, fun limits => ⟨r.multipart_refused limits, ?_⟩⟩
  · exact bind_undrawn b route consumer d s hr fun h => by simp [htakes.2 h] at hleft
  · have hrequest : after.request = r ∨ after.request = r.takeBody.2 := bindEach_request _ d b.parameters (.ofRequest r) s
    rcases hrequest with h | h <;> rw [h] <;> exact ⟨rfl, rfl, rfl⟩
  · rcases r.multipart_request limits with h | h <;> rw [h] <;> exact ⟨rfl, rfl, rfl⟩

/-- A text of a form is read, so that no body is left. -/
theorem bind_takes_body_of_form :
    let b : Binder := ⟨[("note", .form "note"), ("data", .body "data" .string)], .standard, by decide, by decide⟩
    let r : Request := ⟨"POST", .root, ⟨[("content-type", [Utf8.encode "application/x-www-form-urlencoded"])]⟩,
      .ready [.data (Utf8.encode "note=1")]⟩
    r.body.isReady = true ∧ (b.bind r ⟨[]⟩ .json .sorted []).request.body.isTaken = true := by
  intro b r
  refine ⟨rfl, (bind_takes_body_iff b r rfl ⟨[]⟩ .json .sorted []).1.2 ?_⟩
  refine ⟨"note", .form "note", List.mem_cons_self .., rfl, (Parameter.misdeclared?_eq_none_iff _).1 (by decide), ?_⟩
  refine .inl ⟨.inl rfl, ⟨"application", "x-www-form-urlencoded", none, [], ""⟩, ?_, .inl (by decide)⟩
  rfl

end Binder
end RequestBinding
