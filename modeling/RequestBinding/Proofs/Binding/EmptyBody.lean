import RequestBinding.Proofs.Binding.FormFaults
import RequestBinding.Proofs.Request.Body

/-! Bodies without bytes. A stream that yields no bytes is read like no body at all, but it is there to be read: it is
refused for its content type, and it can be had only once. -/

namespace RequestBinding

namespace Request

variable (limits : Limits) {r : Request} {m : MediaType} {chunks : List Chunk}

/-- The content type is that of a form in parts, and names a boundary. -/
def PartsReadable (r : Request) : Prop :=
  ∃ m, r.mediaType = .ok m ∧ m.isMultipart = true ∧ ∃ boundary, m.parameter? "boundary" = some boundary

private theorem readWithin_blank (h : ∀ chunk ∈ chunks, chunk = .data []) (limit : Nat) :
    Chunk.readWithin limit chunks = .ok [] := by
  refine Chunk.readWithin_eq_ok_iff.2 ⟨List.replicate chunks.length [], ?_, by simp, Nat.zero_le _⟩
  rw [List.map_replicate]
  exact List.eq_replicate_iff.2 ⟨rfl, h⟩

private theorem loadForm_withBody (h : ¬ r.FormReadable) (body : Body) :
    ((r.withBody body).loadForm limits).1 = (r.loadForm limits).1 := by
  have hm : (r.withBody body).mediaType = r.mediaType := mediaType_congr rfl
  have h' : ¬ (r.withBody body).FormReadable := h
  rw [loadForm_unreadable limits h, loadForm_unreadable limits h', hm]

private theorem loadForm_text_empty (hm : r.mediaType = .ok m) (hu : m.isUrlEncoded = true) :
    ((r.withBody .empty).loadForm limits).1 = .ok ⟨.empty, false⟩ := by
  have hm' : (r.withBody .empty).mediaType = .ok m := (mediaType_congr rfl).trans hm
  unfold loadForm
  simp only [hm', hu]
  rfl

private theorem loadForm_text_blank (h : ∀ chunk ∈ chunks, chunk = .data []) (hm : r.mediaType = .ok m)
    (hu : m.isUrlEncoded = true) : ((r.withBody (.ready chunks)).loadForm limits).1 = .ok ⟨.empty, false⟩ := by
  have hm' : (r.withBody (.ready chunks)).mediaType = .ok m := (mediaType_congr rfl).trans hm
  rw [loadForm_text limits rfl hm' hu, readWithin_blank h]
  rfl

private theorem loadForm_text_taken (hm : r.mediaType = .ok m) (hu : m.isUrlEncoded = true) :
    ((r.withBody .taken).loadForm limits).1 = .error .formConsumed := by
  have hm' : (r.withBody .taken).mediaType = .ok m := (mediaType_congr rfl).trans hm
  unfold loadForm
  simp only [hm', hu]
  rfl

private theorem loadForm_blank (h : ∀ chunk ∈ chunks, chunk = .data []) (hp : ¬ r.PartsReadable) :
    ((r.withBody (.ready chunks)).loadForm limits).1 = ((r.withBody .empty).loadForm limits).1 := by
  by_cases hform : r.FormReadable
  · obtain ⟨m, hm, hu | ⟨hparts, hboundary⟩⟩ := hform
    · rw [loadForm_text_blank limits h hm hu, loadForm_text_empty limits hm hu]
    · exact absurd ⟨m, hm, hparts, hboundary⟩ hp
  · rw [loadForm_withBody limits hform, loadForm_withBody limits hform]

private theorem readBody_blank (h : ∀ chunk ∈ chunks, chunk = .data []) {consumer : Consumer}
    (hb : r.BodyReadable consumer) :
    ((r.withBody (.ready chunks)).readBody limits consumer).1 = .ok none := by
  obtain ⟨m, hm, hs⟩ := hb
  have hm' : (r.withBody (.ready chunks)).mediaType = .ok m := (mediaType_congr rfl).trans hm
  rw [readBody_ready limits consumer rfl hm' hs, readWithin_blank h]
  rfl

end Request

/-- A form without files. -/
def Fileless (form : Except SourceFault LoadedForm) : Prop := ∀ loaded, form = .ok loaded → loaded.data.files = []

private theorem fileless_error (fault : SourceFault) : Fileless (.error fault) := by
  rintro loaded ⟨⟩

namespace Request

private theorem fileless_empty (limits : Limits) (r : Request) : Fileless ((r.withBody .empty).loadForm limits).1 := by
  by_cases hform : r.FormReadable
  · obtain ⟨m, hm, hu | ⟨hp, boundary, hb⟩⟩ := hform
    · rw [loadForm_text_empty limits hm hu]
      rintro loaded ⟨⟩
      rfl
    · have hm' : (r.withBody .empty).mediaType = .ok m := (mediaType_congr rfl).trans hm
      have hboundary : (r.withBody .empty).boundary = .ok boundary := by rw [boundary_of_mediaType hm', hp, hb]
      unfold loadForm
      simp only [hm', MediaType.isMultipart_not_urlEncoded hp, hp, partsForm, multipart, hboundary]
      rintro loaded ⟨⟩
      rfl
  · have h' : ¬ (r.withBody .empty).FormReadable := hform
    rw [loadForm_unreadable limits h']
    dsimp only
    split
    · exact fileless_error _
    · split <;> exact fileless_error _

end Request

namespace Parameter

/-- The body is needed for the parameter: the destination has its field, the declaration can be followed, and it is the
one that the body goes to. -/
def asksBody (p : Parameter) (owner : Option String) (hasField : String → Bool) (field : String) : Bool :=
  hasField field && p.misdeclared?.isNone && p.location == .body && owner == some field

variable {p : Parameter} {owner : Option String} {hasField : String → Bool} {field : String} {c : Context}

private theorem asksBody_iff : p.asksBody owner hasField field = true ↔
    hasField field = true ∧ p.misdeclared? = none ∧ p.location = .body ∧ owner = some field := by
  simp only [asksBody, Bool.and_eq_true, Option.isNone_iff_eq_none, beq_iff_eq, and_assoc]

private theorem asksBody_unique {q : Parameter} {other : String} (h : p.asksBody owner hasField field = true)
    (h' : q.asksBody owner hasField other = true) : field = other := by
  obtain ⟨-, -, -, howner⟩ := asksBody_iff.1 h
  obtain ⟨-, -, -, howner'⟩ := asksBody_iff.1 h'
  exact Option.some.inj (howner.symm.trans howner')

private theorem resolve_asking_body (h : p.asksBody c.bodyField hasField field = true) (i : Intake) :
    p.resolve c field i = (p.fromBody (i.getBody c.limits c.consumer).1, (i.getBody c.limits c.consumer).2) := by
  obtain ⟨-, hm, hl, ho⟩ := asksBody_iff.1 h
  exact p.resolve_body hm hl c ho i

private theorem resolve_bystander (hf : hasField field = true) (hform : p.asksForm hasField field = false)
    (hbody : p.asksBody c.bodyField hasField field = false) (howned : p.location = .body → c.bodyField ≠ none)
    {i j : Intake} (hh : i.request.headers = j.request.headers) (ha : i.request.address = j.request.address) :
    (p.resolve c field i).1 = (p.resolve c field j).1 ∧ (p.resolve c field i).2 = i := by
  cases hm : p.misdeclared? with
  | some problem => simp only [p.resolve_misdeclared hm, and_self]
  | none =>
    have hread : p.readsForm = false := by simpa [asksForm, hf, hm] using hform
    by_cases hl : p.location = .body
    · obtain ⟨owner, ho⟩ := Option.ne_none_iff_exists'.1 (howned hl)
      have hne : owner ≠ field := by simpa [asksBody, hf, hm, hl, ho] using hbody
      simp only [resolve_other_body (p.misdeclared?_eq_none_iff.1 hm) hl ho hne, and_self]
    · exact p.resolve_frame hl hread c c rfl field hh ha

private theorem intake_bystander (hform : p.asksForm hasField field = false)
    (hbody : p.asksBody c.bodyField hasField field = false) (howned : p.location = .body → c.bodyField ≠ none)
    (i : Intake) : (if hasField field then (p.resolve c field i).2 else i) = i := by
  split
  · next hf => exact (resolve_bystander hf hform hbody howned (i := i) rfl rfl).2
  · rfl

private theorem formAfter_fileless {form : Except SourceFault LoadedForm} (h : Fileless form) :
    p.formAfter form = form := by
  unfold formAfter fromFiles
  split
  · cases form with
    | error fault => rfl
    | ok loaded =>
      have hnone : Entries.get? p.name loaded.data.files = none := by
        rw [h loaded rfl]
        exact Entries.get?_nil p.name
      dsimp only
      split
      · rfl
      · simp only [FormData.takeFile, hnone]
  · rfl

end Parameter

namespace Binding

/-- What the parameter came to, whatever the destination made of it. -/
def outcome? (x : Binding) : Option Outcome :=
  match x.result with
  | .noField => none
  | .bound value | .refused value _ => some (.bound value)
  | .absent => some .absent
  | .failed problems => some (.failed problems)

def asksBody (x : Binding) (owner : Option String) (hasField : String → Bool) : Bool :=
  x.parameter.asksBody owner hasField x.field

private theorem outcome?_of_leads {x : Binding} {o : Outcome} (h : o.Leads x.result) : x.outcome? = some o := by
  unfold outcome?
  cases hr : x.result <;> rw [hr] at h <;> cases h <;> rfl

private theorem result_of_outcome? {x : Binding} {problems : List Problem} (h : x.outcome? = some (.failed problems)) :
    x.result = .failed problems := by
  unfold outcome? at h
  cases hr : x.result <;> simp_all

private theorem Served.fileless {hasField : String → Bool} {form : Except SourceFault LoadedForm}
    {bindings : List Binding}
    (h : Served hasField form bindings) (hf : Fileless form) :
    ∀ x ∈ bindings, x.asksForm hasField = true → x.outcome? = some (x.parameter.formOutcome form) := by
  induction h with
  | done _ => simp
  | other hother _ ih => exact List.forall_mem_cons.2 ⟨fun hasks => by simp [hother] at hasks, ih hf⟩
  | asking _ hleads _ ih =>
    rw [Parameter.formAfter_fileless hf] at ih
    exact List.forall_mem_cons.2 ⟨fun _ => outcome?_of_leads hleads, ih hf⟩

end Binding

namespace Binder

variable {σ : Type} {c : Context} {d : Destination σ} {hasField : String → Bool}
  {parameters : List (String × Parameter)} {i j : Intake} {s : σ}

theorem bindOne_outcome? (c : Context) (d : Destination σ) (field : String) (p : Parameter) (i : Intake) (s : σ) :
    (bindOne c d field p i s).1.outcome? = if d.hasField field then some (p.resolve c field i).1 else none := by
  cases hf : d.hasField field with
  | false => rw [bindOne_noField c d hf]; rfl
  | true => exact Binding.outcome?_of_leads (bindOne_leads c d hf p i s)

private theorem bindOne_asking_body {x : Binding} (hasks : x.asksBody c.bodyField d.hasField = true)
    (hx : x = (bindOne c d x.field x.parameter i s).1) :
    x.outcome? = some (x.parameter.fromBody (i.request.readBody c.limits c.consumer).1) := by
  rw [hx, bindOne_outcome?, ← hx, if_pos (Parameter.asksBody_iff.1 hasks).1, Parameter.resolve_asking_body hasks]
  rfl

private theorem bindEach_congr {parameters : List (String × Parameter)} {i j : Intake}
    (h : List.Forall₂ (fun x y : Binding => x.outcome? = y.outcome?) (bindEach c d parameters i s).1
      (bindEach c d parameters j s).1) :
    (bindEach c d parameters i s).1 = (bindEach c d parameters j s).1 ∧
      (bindEach c d parameters i s).2.2 = (bindEach c d parameters j s).2.2 := by
  induction parameters generalizing i j s with
  | nil => exact ⟨rfl, rfl⟩
  | cons declaration rest ih =>
    obtain ⟨field, p⟩ := declaration
    rw [bindEach_cons, bindEach_cons] at h ⊢
    obtain ⟨hhead, hrest⟩ := List.forall₂_cons.1 h
    have hone : (bindOne c d field p i s).1 = (bindOne c d field p j s).1 ∧
        (bindOne c d field p i s).2.2 = (bindOne c d field p j s).2.2 := by
      rw [bindOne_outcome?, bindOne_outcome?] at hhead
      cases hf : d.hasField field with
      | false => simp [bindOne_noField c d hf]
      | true =>
        obtain hsame : (p.resolve c field i).1 = (p.resolve c field j).1 := by simpa [hf] using hhead
        rw [bindOne_hasField c d hf, bindOne_hasField c d hf, hsame]
        cases (p.resolve c field j).1 <;> exact ⟨rfl, rfl⟩
    dsimp only at hrest ⊢
    rw [hone.2] at hrest ⊢
    obtain ⟨hbindings, hstate⟩ := ih hrest
    exact ⟨by rw [hone.1, hbindings], hstate⟩

/-- What a parameter may ask for that is in the body of a request. -/
inductive Asking
  | form
  | body
deriving DecidableEq

/-- What is asked for first by the parameters, if anything is. -/
def firstAsking? (owner : Option String) (hasField : String → Bool) : List (String × Parameter) → Option Asking
  | [] => none
  | (field, p) :: rest =>
    if p.asksForm hasField field then some .form
    else if p.asksBody owner hasField field then some .body
    else firstAsking? owner hasField rest

private theorem firstAsking?_form {owner : Option String} {field : String} {p : Parameter}
    (h : p.asksForm hasField field = true) (rest : List (String × Parameter)) :
    firstAsking? owner hasField ((field, p) :: rest) = some .form := if_pos h

private theorem firstAsking?_body {owner : Option String} {field : String} {p : Parameter}
    (h : p.asksBody owner hasField field = true) (rest : List (String × Parameter)) :
    firstAsking? owner hasField ((field, p) :: rest) = some .body := by
  have hform : p.asksForm hasField field = false := by
    simp [Parameter.asksForm, Parameter.readsForm, (Parameter.asksBody_iff.1 h).2.2.1]
  rw [firstAsking?, hform, h]
  rfl

private theorem firstAsking?_bystander {owner : Option String} {field : String} {p : Parameter}
    (hform : p.asksForm hasField field = false) (hbody : p.asksBody owner hasField field = false)
    (rest : List (String × Parameter)) :
    firstAsking? owner hasField ((field, p) :: rest) = firstAsking? owner hasField rest := by
  rw [firstAsking?, hform, hbody]
  rfl

/-- Where the form is loaded, the body is gone exactly if it was asked for as a whole before, and the consumer read
it. -/
private theorem formIntake_request (hr : i.request.body.isReady = true)
    (howned : ∀ declaration ∈ parameters, declaration.2.location = .body → c.bodyField ≠ none)
    (h : formIntake c hasField parameters i = some j) :
    (firstAsking? c.bodyField hasField parameters = some .body ∧ i.request.BodyReadable c.consumer →
      j.request = i.request.takeBody.2) ∧
    (¬ (firstAsking? c.bodyField hasField parameters = some .body ∧ i.request.BodyReadable c.consumer) →
      j.request = i.request) := by
  induction parameters generalizing i with
  | nil => cases h
  | cons declaration rest ih =>
    obtain ⟨field, p⟩ := declaration
    obtain ⟨hownedHead, hownedRest⟩ := List.forall_mem_cons.1 howned
    rw [formIntake] at h
    cases hform : p.asksForm hasField field with
    | true =>
      obtain rfl : i = j := by simpa [hform] using h
      simp [firstAsking?_form hform]
    | false =>
      rw [if_neg (by simp [hform])] at h
      cases hbody : p.asksBody c.bodyField hasField field with
      | false =>
        rw [Parameter.intake_bystander hform hbody hownedHead] at h
        rw [firstAsking?_bystander hform hbody]
        exact ih hr hownedRest h
      | true =>
        rw [if_pos (Parameter.asksBody_iff.1 hbody).1, Parameter.resolve_asking_body hbody] at h
        rw [firstAsking?_body hbody]
        by_cases hread : i.request.BodyReadable c.consumer
        · have htaken : (i.getBody c.limits c.consumer).2.request = i.request.takeBody.2 :=
            i.request.readBody_readable c.limits c.consumer hr hread
          obtain ⟨-, hlater⟩ := formIntake_frame h
          rw [htaken, Request.takeBody_takeBody, or_self] at hlater
          simp [hread, hlater]
        · rw [(Intake.getBody_unreadable c.limits c.consumer hr hread).1] at h
          have hsame := (ih hr hownedRest h).2 fun hfirst => hread hfirst.2
          simp [hread, hsame]

/-- Where the body is read as a whole, it is gone exactly if it was asked for as a form before, and is one by its
content type. -/
private theorem bindEach_asking_body (hr : i.request.body.isReady = true)
    (hempty : i.request.FormReadable → i.form = none)
    (howned : ∀ declaration ∈ parameters, declaration.2.location = .body → c.bodyField ≠ none)
    (hd : (parameters.map Prod.fst).Nodup) {x : Binding} (hx : x ∈ (bindEach c d parameters i s).1)
    (hasks : x.asksBody c.bodyField d.hasField = true) :
    ∃ r : Request, x.outcome? = some (x.parameter.fromBody (r.readBody c.limits c.consumer).1) ∧
      (firstAsking? c.bodyField d.hasField parameters = some .form ∧ i.request.FormReadable →
        r = i.request.takeBody.2) ∧
      (¬ (firstAsking? c.bodyField d.hasField parameters = some .form ∧ i.request.FormReadable) → r = i.request) := by
  induction parameters generalizing i s with
  | nil => cases hx
  | cons declaration rest ih =>
    obtain ⟨field, p⟩ := declaration
    obtain ⟨hownedHead, hownedRest⟩ := List.forall_mem_cons.1 howned
    obtain ⟨hfresh, hdRest⟩ := List.nodup_cons.1 hd
    obtain ⟨hfield, hparameter⟩ := bindOne_binding c d field p i s
    rw [bindEach_cons] at hx
    rcases List.mem_cons.1 hx with hx | hx
    · have hself : x = (bindOne c d x.field x.parameter i s).1 := by rw [hx, hfield, hparameter]
      have hbody : p.asksBody c.bodyField d.hasField field = true := by
        rwa [Binding.asksBody, hx, hfield, hparameter] at hasks
      refine ⟨i.request, bindOne_asking_body hasks hself, ?_⟩
      simp [firstAsking?_body hbody]
    · have hne : field ≠ x.field := by
        rintro rfl
        apply hfresh
        rw [← bindEach_declarations c d rest _ _, List.map_map]
        exact List.mem_map.2 ⟨x, hx, rfl⟩
      have hbody : p.asksBody c.bodyField d.hasField field = false := by
        rw [Bool.eq_false_iff]
        intro hother
        exact hne (Parameter.asksBody_unique hother hasks)
      have hintake := bindOne_intake c d field p i s
      cases hform : p.asksForm d.hasField field with
      | false =>
        rw [Parameter.intake_bystander hform hbody hownedHead] at hintake
        rw [hintake] at hx
        rw [firstAsking?_bystander hform hbody]
        exact ih hr hempty hownedRest hdRest hx
      | true =>
        rw [if_pos (Parameter.asksForm_iff.1 hform).1, Parameter.resolve_asking hform] at hintake
        rw [firstAsking?_form hform]
        by_cases hreadable : i.request.FormReadable
        · have htaken : (bindOne c d field p i s).2.1.request = i.request.takeBody.2 := by
            rw [hintake]
            exact Intake.getForm_readable c.limits hr hreadable (hempty hreadable)
          obtain ⟨j, s', hj, hself⟩ := exists_bindOne c d hx
          rw [htaken, Request.takeBody_takeBody, or_self] at hj
          exact ⟨j.request, bindOne_asking_body hasks hself, fun _ => hj, fun hnot => absurd ⟨rfl, hreadable⟩ hnot⟩
        · have hsame : (bindOne c d field p i s).2.1.request = i.request := by
            rw [hintake]
            exact (Intake.getForm_unreadable c.limits hreadable).1
          obtain ⟨r, ho, -, hr'⟩ := ih (by rwa [hsame]) (fun h => absurd (hsame ▸ h) hreadable) hownedRest hdRest hx
          rw [hsame] at hr'
          exact ⟨r, ho, fun h => absurd h.2 hreadable, fun _ => hr' fun h => hreadable h.2⟩

/-- The parameter of a binding may come to something else without bytes than without a body: it needs a body that its
consumer is not to read, a form in parts, or what another parameter had before it. -/
inductive Excepts (b : Binder) (r : Request) (consumer : Consumer) (hasField : String → Bool) (x : Binding) : Prop
  | refusedBody : x.asksBody b.bodyField? hasField = true → ¬ r.BodyReadable consumer → Excepts b r consumer hasField x
  | lateBody : x.asksBody b.bodyField? hasField = true → r.FormReadable →
      firstAsking? b.bodyField? hasField b.parameters = some .form → Excepts b r consumer hasField x
  | lateForm : x.asksForm hasField = true → r.FormReadable → r.BodyReadable consumer →
      firstAsking? b.bodyField? hasField b.parameters = some .body → Excepts b r consumer hasField x
  | parts : x.asksForm hasField = true → r.PartsReadable → Excepts b r consumer hasField x

variable (b : Binder) (r : Request) (route : Route) (consumer : Consumer) (d : Destination σ) (s : σ)
  {chunks : List Chunk} {x : Binding}

private theorem exists_formIntake? (hx : x ∈ (b.bind r route consumer d s).bindings)
    (hasks : x.asksForm d.hasField = true) :
    ∃ i, b.formIntake? r route consumer d = some i := by
  refine Option.ne_none_iff_exists'.1 fun hnone => ?_
  have hdeclared := bind_asking b r route consumer d s
  rw [formIntake_eq_none_iff.1 hnone, List.map_eq_nil_iff, List.filter_eq_nil_iff] at hdeclared
  exact hdeclared x hx hasks

private theorem bind_form_of_empty (hx : x ∈ (b.bind (r.withBody .empty) route consumer d s).bindings)
    (hasks : x.asksForm d.hasField = true) :
    x.outcome? = some (x.parameter.formOutcome ((r.withBody .empty).loadForm b.limits).1) := by
  obtain ⟨i, hi⟩ := exists_formIntake? b (r.withBody .empty) route consumer d s hx hasks
  obtain ⟨hrequest, hload⟩ := loadForm_of_formIntake? hi
  have hsame : i.request = r.withBody .empty := hrequest.elim id id
  have hform : b.loadedForm? (r.withBody .empty) route consumer d = some ((r.withBody .empty).loadForm b.limits).1 := by
    rw [loadedForm?, hi, Option.map_some, hload, hsame]
  exact (bind_served hform s).fileless (r.fileless_empty b.limits) x hx hasks

private theorem bind_body_of_empty (hx : x ∈ (b.bind (r.withBody .empty) route consumer d s).bindings)
    (hasks : x.asksBody b.bodyField? d.hasField = true) : x.outcome? = some x.parameter.fallback := by
  obtain ⟨i, s', hi, hself⟩ := exists_bindOne _ d hx
  have hrequest : i.request = r.withBody .empty := hi.elim id id
  obtain ⟨hf, -⟩ := Parameter.asksBody_iff.1 hasks
  rw [hself, bindOne_outcome?, ← hself, if_pos hf,
    Parameter.resolve_asking_body (c := ⟨route, consumer, b.limits, b.bodyField?⟩) hasks, Intake.getBody, hrequest]
  rfl

private theorem loadedForm?_stream (hx : x ∈ (b.bind (r.withBody (.ready chunks)) route consumer d s).bindings)
    (hasks : x.asksForm d.hasField = true) :
    ∃ body, b.loadedForm? (r.withBody (.ready chunks)) route consumer d = some ((r.withBody body).loadForm b.limits).1 ∧
      (firstAsking? b.bodyField? d.hasField b.parameters = some .body ∧ r.BodyReadable consumer → body = .taken) ∧
      (¬ (firstAsking? b.bodyField? d.hasField b.parameters = some .body ∧ r.BodyReadable consumer) →
        body = .ready chunks) := by
  obtain ⟨i, hi⟩ := exists_formIntake? b (r.withBody (.ready chunks)) route consumer d s hx hasks
  obtain ⟨-, hload⟩ := loadForm_of_formIntake? hi
  obtain ⟨hgone, hthere⟩ := formIntake_request (c := ⟨route, consumer, b.limits, b.bodyField?⟩)
    (i := .ofRequest (r.withBody (.ready chunks))) rfl (fun _ => bodyField?_ne_none) hi
  rw [loadedForm?, hi, Option.map_some, hload]
  by_cases hlate : firstAsking? b.bodyField? d.hasField b.parameters = some .body ∧ r.BodyReadable consumer
  · rw [hgone hlate]
    exact ⟨.taken, rfl, fun _ => rfl, fun hnot => absurd hlate hnot⟩
  · rw [hthere hlate]
    exact ⟨.ready chunks, rfl, fun h => absurd h hlate, fun _ => rfl⟩

/-- What the parameter that the body goes to comes to: what is read of the stream, unless that was read as a form
before. -/
private theorem bind_body_of_stream (hx : x ∈ (b.bind (r.withBody (.ready chunks)) route consumer d s).bindings)
    (hasks : x.asksBody b.bodyField? d.hasField = true) :
    ∃ body, x.outcome? = some (x.parameter.fromBody ((r.withBody body).readBody b.limits consumer).1) ∧
      (firstAsking? b.bodyField? d.hasField b.parameters = some .form ∧ r.FormReadable → body = .taken) ∧
      (¬ (firstAsking? b.bodyField? d.hasField b.parameters = some .form ∧ r.FormReadable) → body = .ready chunks) := by
  obtain ⟨r', ho, hgone, hthere⟩ := bindEach_asking_body (c := ⟨route, consumer, b.limits, b.bodyField?⟩)
    (i := .ofRequest (r.withBody (.ready chunks))) rfl (fun _ => rfl) (fun _ => bodyField?_ne_none) b.fields_nodup hx hasks
  by_cases hlate : firstAsking? b.bodyField? d.hasField b.parameters = some .form ∧ r.FormReadable
  · rw [hgone hlate] at ho
    exact ⟨.taken, ho, fun _ => rfl, fun hnot => absurd hlate hnot⟩
  · rw [hthere hlate] at ho
    exact ⟨.ready chunks, ho, fun h => absurd h hlate, fun _ => rfl⟩

private theorem bind_bystander {body other : Body} {y : Binding}
    (hx : x ∈ (b.bind (r.withBody body) route consumer d s).bindings)
    (hy : y ∈ (b.bind (r.withBody other) route consumer d s).bindings) (hfield : x.field = y.field)
    (hparameter : x.parameter = y.parameter) (hform : x.asksForm d.hasField = false)
    (hbody : x.asksBody b.bodyField? d.hasField = false) : x.outcome? = y.outcome? := by
  obtain ⟨i, t, hi, hself⟩ := exists_bindOne _ d hx
  obtain ⟨j, u, hj, hother⟩ := exists_bindOne _ d hy
  have hframe {k : Intake} {body : Body}
      (hk : k.request = r.withBody body ∨ k.request = (r.withBody body).takeBody.2) :
      k.request.headers = r.headers ∧ k.request.address = r.address := by
    rcases hk with hk | hk <;> rw [hk] <;> exact ⟨rfl, rfl⟩
  rw [Binding.asksForm, hfield, hparameter] at hform
  rw [Binding.asksBody, hfield, hparameter] at hbody
  rw [hself, hother, bindOne_outcome?, bindOne_outcome?, hfield, hparameter]
  cases hf : d.hasField y.field with
  | false => rfl
  | true =>
    have hh := (hframe hi).1.trans (hframe hj).1.symm
    have ha := (hframe hi).2.trans (hframe hj).2.symm
    have hdeclared : (y.field, y.parameter) ∈ b.parameters := by
      rw [← bind_declarations d b (r.withBody other) route consumer s]
      exact List.mem_map.2 ⟨y, hy, rfl⟩
    have howned : y.parameter.location = .body → b.bodyField? ≠ none := bodyField?_ne_none hdeclared
    exact congrArg (fun o => if true then some o else none)
      (Parameter.resolve_bystander (c := ⟨route, consumer, b.limits, b.bodyField?⟩) hf hform hbody howned hh ha).1

section Blank

variable (h : ∀ chunk ∈ chunks, chunk = .data [])
include h

private theorem bind_form_of_blank (hx : x ∈ (b.bind (r.withBody (.ready chunks)) route consumer d s).bindings)
    (hasks : x.asksForm d.hasField = true) (hnot : ¬ b.Excepts r consumer d.hasField x) :
    x.outcome? = some (x.parameter.formOutcome ((r.withBody .empty).loadForm b.limits).1) := by
  obtain ⟨body, hform, -, hthere⟩ := loadedForm?_stream b r route consumer d s hx hasks
  have hparts : ¬ r.PartsReadable := fun hp => hnot (.parts hasks hp)
  have hsame : ((r.withBody body).loadForm b.limits).1 = ((r.withBody .empty).loadForm b.limits).1 := by
    by_cases hread : r.FormReadable
    · rw [hthere fun hlate => hnot (.lateForm hasks hread hlate.2 hlate.1)]
      exact r.loadForm_blank b.limits h hparts
    · rw [r.loadForm_withBody b.limits hread, r.loadForm_withBody b.limits hread]
  rw [hsame] at hform
  exact (bind_served hform s).fileless (r.fileless_empty b.limits) x hx hasks

private theorem bind_body_of_blank (hx : x ∈ (b.bind (r.withBody (.ready chunks)) route consumer d s).bindings)
    (hasks : x.asksBody b.bodyField? d.hasField = true) (hnot : ¬ b.Excepts r consumer d.hasField x) :
    x.outcome? = some x.parameter.fallback := by
  obtain ⟨body, ho, -, hthere⟩ := bind_body_of_stream b r route consumer d s hx hasks
  have hread : r.BodyReadable consumer := by
    by_contra hunread
    exact hnot (.refusedBody hasks hunread)
  rw [hthere fun hlate => hnot (.lateBody hasks hlate.2 hlate.1), Request.readBody_blank b.limits h hread] at ho
  exact ho

private theorem outcome?_of_blank {y : Binding}
    (hx : x ∈ (b.bind (r.withBody (.ready chunks)) route consumer d s).bindings)
    (hy : y ∈ (b.bind (r.withBody .empty) route consumer d s).bindings) (hfield : x.field = y.field)
    (hparameter : x.parameter = y.parameter) (hnot : ¬ b.Excepts r consumer d.hasField x) :
    x.outcome? = y.outcome? := by
  have hforms : y.asksForm d.hasField = x.asksForm d.hasField := by
    rw [Binding.asksForm, Binding.asksForm, hfield, hparameter]
  have hbodies : y.asksBody b.bodyField? d.hasField = x.asksBody b.bodyField? d.hasField := by
    rw [Binding.asksBody, Binding.asksBody, hfield, hparameter]
  cases hform : x.asksForm d.hasField with
  | true =>
    rw [bind_form_of_blank b r route consumer d s h hx hform hnot,
      bind_form_of_empty b r route consumer d s hy (hforms.trans hform), hparameter]
  | false =>
    cases hbody : x.asksBody b.bodyField? d.hasField with
    | true =>
      rw [bind_body_of_blank b r route consumer d s h hx hbody hnot,
        bind_body_of_empty b r route consumer d s hy (hbodies.trans hbody), hparameter]
    | false =>
      exact bind_bystander b r route consumer d s hx hy hfield hparameter hform hbody

end Blank

private theorem bind_late_body (hx : x ∈ (b.bind (r.withBody (.ready chunks)) route consumer d s).bindings)
    (hasks : x.asksBody b.bodyField? d.hasField = true) (hread : r.FormReadable)
    (hfirst : firstAsking? b.bodyField? d.hasField b.parameters = some .form) :
    x.result = .failed [x.parameter.problem .decodeFailure "request body was already consumed"] := by
  obtain ⟨body, ho, hgone, -⟩ := bind_body_of_stream b r route consumer d s hx hasks
  rw [hgone ⟨hfirst, hread⟩] at ho
  exact Binding.result_of_outcome? ho

private theorem bind_refused_body (hx : x ∈ (b.bind (r.withBody (.ready chunks)) route consumer d s).bindings)
    (hasks : x.asksBody b.bodyField? d.hasField = true) (hunread : ¬ r.BodyReadable consumer)
    (hfirst : ¬ (r.FormReadable ∧ firstAsking? b.bodyField? d.hasField b.parameters = some .form)) :
    ∃ details, x.result = .failed [x.parameter.problem .unsupportedMediaType details] := by
  obtain ⟨body, ho, -, hthere⟩ := bind_body_of_stream b r route consumer d s hx hasks
  have hunread' : ¬ (r.withBody (.ready chunks)).BodyReadable consumer := hunread
  rw [hthere fun hlate => hfirst hlate.symm, Request.readBody_unreadable b.limits consumer rfl hunread'] at ho
  cases hm : (r.withBody (.ready chunks)).mediaType with
  | ok m =>
    rw [hm] at ho
    exact ⟨_, Binding.result_of_outcome? ho⟩
  | error fault =>
    rw [hm] at ho
    rcases Request.mediaType_eq_error_iff.1 hm with ⟨-, rfl⟩ | ⟨value, -, -, rfl⟩ <;>
      exact ⟨_, Binding.result_of_outcome? ho⟩

private theorem bind_late_form (hx : x ∈ (b.bind (r.withBody (.ready chunks)) route consumer d s).bindings)
    (hasks : x.asksForm d.hasField = true) (hform : r.FormReadable) (hparts : ¬ r.PartsReadable)
    (hread : r.BodyReadable consumer) (hfirst : firstAsking? b.bodyField? d.hasField b.parameters = some .body) :
    x.result = .failed [x.parameter.problem .unsupportedMediaType "form body was already consumed"] := by
  obtain ⟨body, hload, hgone, -⟩ := loadedForm?_stream b r route consumer d s hx hasks
  obtain ⟨m, hm, hu | ⟨hp, hboundary⟩⟩ := hform
  · rw [hgone ⟨hfirst, hread⟩, Request.loadForm_text_taken b.limits hm hu] at hload
    exact (bind_served hload s).fault x hx hasks
  · exact absurd ⟨m, hm, hp, hboundary⟩ hparts

/-- A stream that yields no bytes is an absent body. Each parameter comes to the same with such a stream as without a
body, so that all in all there are the same problems and the same assignments, and the parameter that the body goes to
falls back on its default. But the stream is there to be read: the body is refused where the consumer does not read its
content type, and where the content type is that of a form too, only one of the body and the form can have it. Nothing
is said of the forms in parts that such a stream may be. -/
theorem bind_blank_as_empty {σ : Type} (b : Binder) (r : Request) (chunks : List Chunk)
    (h : ∀ chunk ∈ chunks, chunk = .data []) (route : Route) (consumer : Consumer) (d : Destination σ) (s : σ) :
    let streamed := b.bind (r.withBody (.ready chunks)) route consumer d s
    let bare := b.bind (r.withBody .empty) route consumer d s
    let first := firstAsking? b.bodyField? d.hasField b.parameters
    List.Forall₂ (fun x y => x.field = y.field ∧ x.parameter = y.parameter ∧
      (¬ b.Excepts r consumer d.hasField x → x.outcome? = y.outcome?)) streamed.bindings bare.bindings ∧
    ((∀ x ∈ streamed.bindings, ¬ b.Excepts r consumer d.hasField x) →
      streamed.bindings = bare.bindings ∧ streamed.report = bare.report ∧ streamed.destination = bare.destination) ∧
    (∀ y ∈ bare.bindings, y.asksBody b.bodyField? d.hasField = true → y.outcome? = some y.parameter.fallback) ∧
    ∀ x ∈ streamed.bindings,
      (x.asksBody b.bodyField? d.hasField = true → r.FormReadable → first = some .form →
        x.result = .failed [x.parameter.problem .decodeFailure "request body was already consumed"]) ∧
      (x.asksBody b.bodyField? d.hasField = true → ¬ r.BodyReadable consumer →
        ¬ (r.FormReadable ∧ first = some .form) →
        ∃ details, x.result = .failed [x.parameter.problem .unsupportedMediaType details]) ∧
      (x.asksForm d.hasField = true → r.FormReadable → ¬ r.PartsReadable → r.BodyReadable consumer →
        first = some .body →
        x.result = .failed [x.parameter.problem .unsupportedMediaType "form body was already consumed"]) := by
  intro streamed bare first
  have hpairs : List.Forall₂ (fun x y => x.field = y.field ∧ x.parameter = y.parameter ∧
      (¬ b.Excepts r consumer d.hasField x → x.outcome? = y.outcome?)) streamed.bindings bare.bindings := by
    have hdeclared : streamed.bindings.map (fun x => (x.field, x.parameter)) =
        bare.bindings.map (fun x => (x.field, x.parameter)) :=
      (bind_declarations ..).trans (bind_declarations ..).symm
    rw [← List.forall₂_eq_eq_eq, List.forall₂_map_left_iff, List.forall₂_map_right_iff, List.forall₂_iff_zip] at hdeclared
    refine List.forall₂_iff_zip.2 ⟨hdeclared.1, fun {x y} hmem => ?_⟩
    obtain ⟨hfield, hparameter⟩ := Prod.mk.inj (hdeclared.2 hmem)
    obtain ⟨hx, hy⟩ := List.of_mem_zip hmem
    exact ⟨hfield, hparameter, outcome?_of_blank b r route consumer d s h hx hy hfield hparameter⟩
  refine ⟨hpairs, fun hnone => ?_, fun y hy => bind_body_of_empty b r route consumer d s hy, fun x hx => ⟨?_, ?_, ?_⟩⟩
  · have hsame : List.Forall₂ (fun x y : Binding => x.outcome? = y.outcome?) streamed.bindings bare.bindings := by
      rw [List.forall₂_iff_zip] at hpairs ⊢
      exact ⟨hpairs.1, fun hmem => (hpairs.2 hmem).2.2 (hnone _ (List.of_mem_zip hmem).1)⟩
    obtain ⟨hbindings, hstate⟩ := bindEach_congr hsame
    exact ⟨hbindings, congrArg (fun bindings => Report.mk (bindings.flatMap Binding.problems)) hbindings, hstate⟩
  · exact bind_late_body b r route consumer d s hx
  · exact bind_refused_body b r route consumer d s hx
  · exact bind_late_form b r route consumer d s hx

/-- Two empty chunks in place of a text in JSON, for which there is a default. -/
theorem bind_blank_as_empty_of_json :
    let b : Binder := ⟨[("note", .form "note"), ("data", (Parameter.body "data" .string).withDefault (.string "none"))],
      .standard, by decide, by decide⟩
    let r : Request := ⟨"POST", .root, ⟨[("content-type", [Utf8.encode "application/json"])]⟩, .empty⟩
    let chunks : List Chunk := [.data [], .data []]
    (∀ chunk ∈ chunks, chunk = .data []) ∧
      (b.bind (r.withBody (.ready chunks)) ⟨[]⟩ .json .sorted []).destination =
        (b.bind (r.withBody .empty) ⟨[]⟩ .json .sorted []).destination := by
  intro b r chunks
  have h : ∀ chunk ∈ chunks, chunk = .data [] := by decide
  have hm : r.mediaType = .ok ⟨"application", "json", none, [], ""⟩ := by rfl
  have hother := MediaType.isJson_not_form (m := ⟨"application", "json", none, [], ""⟩) (by decide)
  refine ⟨h, ((bind_blank_as_empty b r chunks h ⟨[]⟩ .json .sorted []).2.1 fun x _ hexcept => ?_).2.2⟩
  cases hexcept with
  | refusedBody _ hunread => exact hunread ⟨_, hm, by decide⟩
  | lateBody _ hform _ | lateForm _ hform _ _ =>
    obtain ⟨m, hm', hform⟩ := hform
    obtain rfl := Except.ok.inj (hm.symm.trans hm')
    simp [hother] at hform
  | parts _ hparts =>
    obtain ⟨m, hm', hp, -⟩ := hparts
    obtain rfl := Except.ok.inj (hm.symm.trans hm')
    cases hp

/-- A stream without bytes and without a content type is refused, where no body at all is none. -/
theorem bind_blank_not_as_empty :
    ¬ ∀ (b : Binder) (r : Request) (chunks : List Chunk), (∀ chunk ∈ chunks, chunk = .data []) →
      ∀ (route : Route) (consumer : Consumer) (d : Destination (List (String × Value))) (s : List (String × Value)),
        (b.bind (r.withBody (.ready chunks)) route consumer d s).report =
          (b.bind (r.withBody .empty) route consumer d s).report := by
  intro h
  have hsame := h ⟨[("data", .body "data" .string)], .standard, by decide, by decide⟩ ⟨"POST", .root, ⟨[]⟩, .empty⟩ []
    (by simp) ⟨[]⟩ .json .sorted []
  have hcount := congrArg (fun report => report.problems.length) hsame
  revert hcount
  decide

end Binder
end RequestBinding
