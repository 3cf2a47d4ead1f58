import RequestBinding.Proofs.Binding.Reading

/-! Requests that are used more than once. Whatever is done with a request and in which order, its body is handed out
once at most, and a binding that comes too late says so for every parameter that needs the body. -/

namespace RequestBinding

namespace Body

/-- The chunks that are handed out where one body becomes another. -/
def released : Body → Body → List (List Chunk)
  | .ready chunks, .taken => [chunks]
  | _, _ => []

/-- What may become of a body, and what is handed out of it: it is kept, or all of it is taken. -/
inductive Handover : Body → List (List Chunk) → Body → Prop
  | kept (body : Body) : Handover body [] body
  | taken (chunks : List Chunk) : Handover (.ready chunks) [chunks] .taken

variable {before between after : Body} {handed later : List (List Chunk)}

/-- Nothing can be handed out of a body that was. -/
theorem Handover.trans (h : Handover before handed between) (h' : Handover between later after) :
    Handover before (handed ++ later) after := by
  cases h with
  | kept => exact h'
  | taken chunks =>
    cases h' with
    | kept => exact .taken chunks

private theorem Handover.isTaken_iff (h : Handover before handed after) :
    after.isTaken = true ↔ before.isTaken = true ∨ handed ≠ [] := by
  cases h with
  | kept => simp
  | taken chunks => simp [isTaken]

private theorem released_self (body : Body) : body.released body = [] := by cases body <;> rfl

end Body

namespace Request

private theorem takeBody_handover (r : Request) : Body.Handover r.body r.takeBody.1.toList r.takeBody.2.body := by
  obtain ⟨method, address, headers, body⟩ := r
  cases body with
  | empty => exact .kept _
  | ready chunks => exact .taken chunks
  | taken => exact .kept _

private theorem released_takeBody (r : Request) : r.body.released r.takeBody.2.body = r.takeBody.1.toList := by
  obtain ⟨method, address, headers, body⟩ := r
  cases body <;> rfl

private theorem handover {r after : Request} (h : after = r ∨ after = r.takeBody.2) :
    Body.Handover r.body (r.body.released after.body) after.body := by
  rcases h with rfl | rfl
  · rw [Body.released_self]
    exact .kept _
  · rw [released_takeBody]
    exact r.takeBody_handover

private theorem multipart_handover (r : Request) (limits : PartLimits) :
    Body.Handover r.body (match (r.multipart limits).1 with
      | .ok _ => r.takeBody.1.toList
      | .error _ => []) (r.multipart limits).2.body := by
  unfold multipart
  cases r.boundary with
  | error fault => exact .kept _
  | ok boundary =>
    obtain ⟨method, address, headers, body⟩ := r
    cases body with
    | empty => exact .kept _
    | ready chunks => exact .taken chunks
    | taken => exact .kept _

end Request

namespace Binder

variable {σ : Type}

/-- What the parameters of a binding hand out of the body, one after the other. -/
def handsOut (c : Context) (d : Destination σ) : List (String × Parameter) → Intake → σ → List (List Chunk)
  | [], _, _ => []
  | (field, p) :: rest, i, s =>
    let first := bindOne c d field p i s
    i.request.body.released first.2.1.request.body ++ handsOut c d rest first.2.1 first.2.2

private theorem bindEach_handover (c : Context) (d : Destination σ) (parameters : List (String × Parameter))
    (i : Intake)
    (s : σ) : Body.Handover i.request.body (handsOut c d parameters i s)
      (bindEach c d parameters i s).2.1.request.body := by
  induction parameters generalizing i s with
  | nil => exact .kept _
  | cons declaration rest ih =>
    obtain ⟨field, p⟩ := declaration
    exact (Request.handover (bindOne_request c d field p i s)).trans (ih ..)

end Binder

/-- What can be done with a request that has to do with its body. -/
inductive Operation : Type 1
  | takeBody
  | multipart (limits : PartLimits)
  | bind {σ : Type} (b : Binder) (route : Route) (consumer : Consumer) (d : Destination σ) (s : σ)

namespace Operation

def after : Operation → Request → Request
  | takeBody, r => r.takeBody.2
  | multipart limits, r => (r.multipart limits).2
  | bind b route consumer d s, r => (b.bind r route consumer d s).request

/-- What is handed out of the body: to the caller, to the reader of parts, or to the parameters of a binding. -/
def handsOut : Operation → Request → List (List Chunk)
  | takeBody, r => r.takeBody.1.toList
  | multipart limits, r =>
    match (r.multipart limits).1 with
    | .ok _ => r.takeBody.1.toList
    | .error _ => []
  | bind b route consumer d s, r =>
    Binder.handsOut ⟨route, consumer, b.limits, b.bodyField?⟩ d b.parameters (.ofRequest r) s

private theorem handover (operation : Operation) (r : Request) :
    Body.Handover r.body (operation.handsOut r) (operation.after r).body := by
  cases operation with
  | takeBody => exact r.takeBody_handover
  | multipart limits => exact r.multipart_handover limits
  | bind b route consumer d s => exact Binder.bindEach_handover _ d b.parameters (.ofRequest r) s

/-- The request after some operations, one after the other. -/
def run : List Operation → Request → Request
  | [], r => r
  | operation :: rest, r => run rest (operation.after r)

/-- What some operations hand out of the body, one after the other. -/
def runHandsOut : List Operation → Request → List (List Chunk)
  | [], _ => []
  | operation :: rest, r => operation.handsOut r ++ runHandsOut rest (operation.after r)

private theorem run_handover (operations : List Operation) (r : Request) :
    Body.Handover r.body (runHandsOut operations r) (run operations r).body := by
  induction operations generalizing r with
  | nil => exact .kept _
  | cons operation rest ih => exact (operation.handover r).trans (ih _)

end Operation

/-- The body is gone, and the form cannot be loaded or could not be, for a reason that counts as the media type's. -/
structure Intake.Spent (limits : Limits) (i : Intake) : Prop where
  taken : i.request.body.isTaken = true
  form : ∃ fault, (i.getForm limits).1 = .error fault ∧ fault.kind = .unsupportedMediaType

namespace Request

variable (limits : Limits) {r : Request} (h : r.body.isTaken = true)
include h

private theorem takeBody_taken : r.takeBody.2 = r := by
  obtain ⟨method, address, headers, body⟩ := r
  cases body with
  | empty => rfl
  | ready chunks => cases h
  | taken => rfl

private theorem multipart_taken (parts : PartLimits) : ∃ fault, r.multipart parts =
    (.error fault, r) ∧ fault.isMediaType = true := by
  unfold multipart
  split
  · next fault hb =>
    refine ⟨fault, rfl, ?_⟩
    unfold boundary at hb
    split at hb
    · cases hb
      rfl
    · split at hb
      · cases hb
        rfl
      · split at hb <;> cases hb
        rfl
  · rw [if_pos h]
    exact ⟨.bodyConsumed, rfl, rfl⟩

/-- No form is loaded of a body that is gone. -/
theorem loadForm_taken : ∃ fault, r.loadForm limits = (.error fault, r) ∧ fault.kind = .unsupportedMediaType := by
  unfold loadForm
  split
  · next fault hm =>
    refine ⟨fault, rfl, ?_⟩
    unfold mediaType at hm
    split at hm
    · cases hm
      rfl
    · split at hm <;> cases hm
      rfl
  · next m hm =>
    split
    · simp only [urlEncodedForm, if_pos h]
      exact ⟨.formConsumed, rfl, rfl⟩
    · split
      · obtain ⟨fault, hp, hkind⟩ := multipart_taken h limits.parts
        have hparts : r.partsForm limits = (.error (.multipart fault), r) := by
          rw [partsForm, hp]
          cases fault <;> first | rfl | cases hkind
        exact ⟨.multipart fault, by rw [hparts]; rfl, if_pos hkind⟩
      · exact ⟨.noForm m, rfl, rfl⟩

theorem readBody_taken (consumer : Consumer) : r.readBody limits consumer = (.error .bodyConsumed, r) := by
  rw [readBody, if_pos h]

end Request

namespace Intake.Spent

variable {limits : Limits} {i : Intake}

theorem ofRequest (limits : Limits) {r : Request} (h : r.body.isTaken = true) : (Intake.ofRequest r).Spent limits := by
  obtain ⟨fault, hform, hkind⟩ := Request.loadForm_taken limits h
  exact ⟨h, fault, congrArg Prod.fst hform, hkind⟩

theorem getForm (h : i.Spent limits) : (i.getForm limits).2.Spent limits := by
  refine ⟨?_, by rw [getForm_getForm]; exact h.form⟩
  rcases i.getForm_request limits with he | he <;> rw [he]
  · exact h.taken
  · rw [Request.takeBody_taken h.taken]
    exact h.taken

theorem getBody (h : i.Spent limits) (consumer : Consumer) :
    i.getBody limits consumer = (.error .bodyConsumed, i) := by
  rw [Intake.getBody, Request.readBody_taken limits h.taken]

end Intake.Spent

namespace Parameter

variable {p : Parameter} {c : Context} {field : String} {i : Intake} (h : i.Spent c.limits)
include h

private theorem resolve_spent_form (field : String) (hs : p.Sound) (hread : p.readsForm = true) :
    ∃ details, p.resolve c field i = (p.fails .unsupportedMediaType details, (i.getForm c.limits).2) := by
  obtain ⟨fault, hform, hkind⟩ := h.form
  refine ⟨fault.message, ?_⟩
  rw [p.resolve_form (p.misdeclared?_eq_none_iff.2 hs) hread, hform, ← hkind]
  split
  · have hloaded : (i.getForm c.limits).2.form = some (.error fault) := by
      obtain ⟨r, _ | loaded⟩ := i
      · exact congrArg some hform
      · exact congrArg some hform
    simp only [fromFiles, failsFor, ← hloaded]
  · rfl

private theorem resolve_spent_body (hs : p.Sound) (hl : p.location = .body) (ho : c.bodyField = some field) :
    p.resolve c field i = (p.fails .decodeFailure "request body was already consumed", i) := by
  rw [p.resolve_body (p.misdeclared?_eq_none_iff.2 hs) hl c ho, h.getBody]
  rfl

private theorem resolve_spent (p : Parameter) (field : String) : (p.resolve c field i).2.Spent c.limits := by
  cases hm : p.misdeclared? with
  | some problem => rwa [p.resolve_misdeclared hm]
  | none =>
    have hs := p.misdeclared?_eq_none_iff.1 hm
    cases hread : p.readsForm with
    | true =>
      obtain ⟨details, hr⟩ := resolve_spent_form h field hs hread
      rw [hr]
      exact h.getForm
    | false =>
      by_cases hl : p.location = .body
      · unfold resolve
        simp only [hm, hl, h.getBody]
        split <;> exact h
      · obtain ⟨-, hi⟩ := p.resolve_frame hl hread c c rfl field (i := i) rfl rfl
        rwa [hi]

end Parameter

namespace Binding

/-- The parameter needs a body that is gone, and says so: one problem of the form, or one of the body. -/
def ReportsSpent (x : Binding) (owner : Option String) : Prop :=
  (x.parameter.readsForm = true → ∃ details, x.result = .failed [x.parameter.problem .unsupportedMediaType details]) ∧
    (x.parameter.location = .body ∧ owner = some x.field →
      x.result = .failed [x.parameter.problem .decodeFailure "request body was already consumed"])

end Binding

namespace Binder

variable {σ : Type} (c : Context) (d : Destination σ) {i : Intake} (h : i.Spent c.limits)
include h

private theorem bindOne_spent (field : String) (p : Parameter) (s : σ) :
    (bindOne c d field p i s).2.1.Spent c.limits ∧ (d.hasField field = true → p.Sound →
      (bindOne c d field p i s).1.ReportsSpent c.bodyField) := by
  constructor
  · rw [bindOne_intake]
    split
    · exact p.resolve_spent h field
    · exact h
  · intro hf hs
    obtain ⟨hfield, hparameter⟩ := bindOne_binding c d field p i s
    rw [Binding.ReportsSpent, hfield, hparameter, bindOne_hasField c d hf]
    constructor
    · intro hread
      obtain ⟨details, hr⟩ := Parameter.resolve_spent_form h field hs hread
      rw [hr]
      exact ⟨details, rfl⟩
    · rintro ⟨hl, ho⟩
      rw [p.resolve_spent_body h hs hl ho]
      rfl

private theorem bindEach_spent (parameters : List (String × Parameter)) (s : σ) :
    ∀ x ∈ (bindEach c d parameters i s).1, d.hasField x.field = true → x.parameter.Sound →
      x.ReportsSpent c.bodyField := by
  induction parameters generalizing i s with
  | nil => simp [bindEach]
  | cons declaration rest ih =>
    obtain ⟨field, p⟩ := declaration
    obtain ⟨hafter, hreports⟩ := bindOne_spent c d h field p s
    obtain ⟨hfield, hparameter⟩ := bindOne_binding c d field p i s
    rw [bindEach_cons, List.forall_mem_cons, hfield, hparameter]
    exact ⟨hreports, ih hafter _⟩

end Binder

/-- Whatever is done with a request in turn, its body is handed out once at most: either it is kept as it was, or it
was there at the start and all of it is handed out to one of the operations. It is taken in the end exactly if it was
to begin with or some operation had it. A binding that comes after that reports, for every parameter of a form, one
problem with the media type, and for the one that the body goes to, that the body could not be decoded. -/
theorem Operation.run_hands_out_body_once (operations : List Operation) (r : Request) :
    let handed := runHandsOut operations r
    let after := run operations r
    (handed = [] ∧ after.body = r.body ∨
      ∃ chunks, r.body = .ready chunks ∧ handed = [chunks] ∧ after.body = .taken) ∧
    (after.body.isTaken = true ↔ r.body.isTaken = true ∨ handed ≠ []) ∧
    (after.body.isTaken = true → ∀ {σ : Type} (b : Binder) (route : Route) (consumer : Consumer) (d : Destination σ)
      (s : σ), ∀ x ∈ (b.bind after route consumer d s).bindings, d.hasField x.field = true → x.parameter.Sound →
      (x.parameter.location = .form ∨ x.parameter.location = .file →
        ∃ details, x.result = .failed [x.parameter.problem .unsupportedMediaType details]) ∧
      (b.parameters.find? (fun (_, q) => q.location == .body) = some (x.field, x.parameter) →
        x.result = .failed [x.parameter.problem .decodeFailure "request body was already consumed"])) := by
  intro handed after
  have hover : Body.Handover r.body handed after.body := run_handover operations r
  refine ⟨?_, hover.isTaken_iff, fun htaken σ b route consumer d s x hx hf hs => ?_⟩
  · generalize handed = chunks, after.body = body, r.body = start at hover
    cases hover with
    | kept => exact .inl ⟨rfl, rfl⟩
    | taken chunks => exact .inr ⟨chunks, rfl, rfl, rfl⟩
  · obtain ⟨hform, hbody⟩ := Binder.bindEach_spent ⟨route, consumer, b.limits, b.bodyField?⟩ d
      (.ofRequest b.limits htaken) b.parameters s x hx hf hs
    refine ⟨fun hl => hform (by simpa [Parameter.readsForm] using hl), fun hfirst => hbody ?_⟩
    exact (Binder.bodyField?_eq_some (List.mem_of_find?_eq_some hfirst)).2 hfirst

/-- A file and a text with a default, behind a reader of parts: both come too late. -/
theorem Operation.run_hands_out_body_once_of_parts :
    let b : Binder := ⟨[("photo", .file "photo"), ("note", (Parameter.form "note").withDefault .null)], .standard,
      by decide, by decide⟩
    let r : Request := ⟨"POST", .root, ⟨[("content-type", [Utf8.encode "multipart/form-data; boundary=b"])]⟩,
      .ready [.data (Utf8.encode "--b--")]⟩
    let after := run [.multipart .standard] r
    after.body.isTaken = true ∧ ∀ x ∈ (b.bind after ⟨[]⟩ .json .sorted []).bindings,
      ∃ details, x.result = .failed [x.parameter.problem .unsupportedMediaType details] := by
  intro b r after
  have htaken : after.body.isTaken = true := rfl
  have hdeclared : ∀ declaration ∈ b.parameters, declaration.2.misdeclared? = none ∧
      (declaration.2.location = .form ∨ declaration.2.location = .file) := by decide
  refine ⟨htaken, fun x hx => ?_⟩
  have hmem : (x.field, x.parameter) ∈ b.parameters := by
    rw [← Binder.bind_declarations .sorted b after ⟨[]⟩ .json []]
    exact List.mem_map.2 ⟨x, hx, rfl⟩
  obtain ⟨hm, hl⟩ := hdeclared _ hmem
  have hs := x.parameter.misdeclared?_eq_none_iff.1 hm
  exact ((run_hands_out_body_once [.multipart .standard] r).2.2 htaken b ⟨[]⟩ .json .sorted [] x hx rfl hs).1 hl

end RequestBinding
