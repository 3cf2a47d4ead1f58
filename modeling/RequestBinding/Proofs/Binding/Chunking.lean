import RequestBinding.Proofs.Binding.Reading
import RequestBinding.Proofs.Request.Body

/-! How a body is cut into chunks. Whoever reads a body reads all of it, so that a binding comes to the same whichever
way its bytes arrive. -/

namespace RequestBinding

/-- Bodies of the same bytes: two streams without a failure, or a stream and the bytes as a whole. -/
inductive Body.SameBytes : Body → Body → Prop
  | streams (pieces pieces' : List (List UInt8)) : pieces.flatten = pieces'.flatten →
      SameBytes (.ready (pieces.map .data)) (.ready (pieces'.map .data))
  | whole (pieces : List (List UInt8)) : pieces.flatten ≠ [] →
      SameBytes (.ready (pieces.map .data)) (.ofBytes pieces.flatten)

/-- Bytes given as a whole are a stream of one chunk. -/
theorem Body.SameBytes.exists_pieces {body body' : Body} (h : body.SameBytes body') :
    ∃ pieces pieces' : List (List UInt8), body = .ready (pieces.map .data) ∧ body' = .ready (pieces'.map .data) ∧
      pieces.flatten = pieces'.flatten := by
  cases h with
  | streams pieces pieces' h => exact ⟨pieces, pieces', rfl, rfl, h⟩
  | whole pieces h =>
    refine ⟨pieces, [pieces.flatten], rfl, ?_, by rw [List.flatten_cons, List.flatten_nil, List.append_nil]⟩
    rw [ofBytes, if_neg h]
    rfl

section Recut

variable {pieces pieces' : List (List UInt8)} (hbytes : pieces.flatten = pieces'.flatten)
include hbytes

namespace Request

variable (limits : Limits) {r : Request} (hr : r.body = .ready (pieces.map .data))
include hr

private theorem loadForm_recut (h : r.FormReadable) :
    (r.withBody (.ready (pieces'.map .data))).loadForm limits = r.loadForm limits := by
  obtain ⟨m, hm, hform⟩ := h
  have hm' : (r.withBody (.ready (pieces'.map .data))).mediaType = .ok m := (mediaType_congr rfl).trans hm
  rcases hform with hu | ⟨hp, boundary, hb⟩
  · rw [loadForm_text limits hr hm hu, loadForm_text limits rfl hm' hu, Chunk.readWithin_pieces,
      Chunk.readWithin_pieces, hbytes]
    rfl
  · have hboundary : r.boundary = .ok boundary := by rw [boundary_of_mediaType hm, hp, hb]
    have hboundary' : (r.withBody (.ready (pieces'.map .data))).boundary = .ok boundary := by
      rw [boundary_of_mediaType hm', hp, hb]
    rw [loadForm_parts limits hr hm hp hboundary, loadForm_parts limits rfl hm' hp hboundary', Multipart.ofChunks,
      Multipart.ofChunks, Multipart.gather_pieces (Nat.zero_le _), Multipart.gather_pieces (Nat.zero_le _),
      List.nil_append, List.nil_append, hbytes]
    rfl

private theorem readBody_recut {consumer : Consumer} (h : r.BodyReadable consumer) :
    (r.withBody (.ready (pieces'.map .data))).readBody limits consumer = r.readBody limits consumer := by
  obtain ⟨m, hm, hs⟩ := h
  have hm' : (r.withBody (.ready (pieces'.map .data))).mediaType = .ok m := (mediaType_congr rfl).trans hm
  rw [readBody_ready limits consumer hr hm hs, readBody_ready limits consumer rfl hm' hs, Chunk.readWithin_pieces,
    Chunk.readWithin_pieces, hbytes]
  rfl

end Request

variable {i : Intake} (hr : i.request.body = .ready (pieces.map .data))
  (hform : i.request.FormReadable → i.form = none)
include hr hform

private theorem Parameter.resolve_recut {p : Parameter} {c : Context} {field : String} (h : p.Draws c field i.request) :
    p.resolve c field (i.withBody (.ready (pieces'.map .data))) = p.resolve c field i := by
  obtain ⟨hs, ⟨hread, hreadable⟩ | ⟨hl, ho, hreadable⟩⟩ := h
  · have hget : (i.withBody (.ready (pieces'.map .data))).getForm c.limits = i.getForm c.limits := by
      obtain ⟨r, form⟩ := i
      obtain rfl : form = none := hform hreadable
      simp only [Intake.getForm, Intake.withBody, Request.loadForm_recut hbytes c.limits hr hreadable]
    rw [p.resolve_form (p.misdeclared?_eq_none_iff.2 hs) hread, p.resolve_form (p.misdeclared?_eq_none_iff.2 hs) hread,
      hget]
  · have hget : (i.withBody (.ready (pieces'.map .data))).getBody c.limits c.consumer =
        i.getBody c.limits c.consumer := by
      simp only [Intake.getBody, Intake.withBody, Request.readBody_recut hbytes c.limits hr hreadable]
    rw [p.resolve_body (p.misdeclared?_eq_none_iff.2 hs) hl c ho, p.resolve_body (p.misdeclared?_eq_none_iff.2 hs) hl c ho,
      hget]

namespace Binder

variable {σ : Type} {c : Context} {d : Destination σ} {field : String} {p : Parameter}

private theorem bindOne_recut (hf : d.hasField field = true) (h : p.Draws c field i.request) (s : σ) :
    bindOne c d field p (i.withBody (.ready (pieces'.map .data))) s = bindOne c d field p i s := by
  rw [bindOne_hasField c d hf, bindOne_hasField c d hf, Parameter.resolve_recut hbytes hr hform h]

private theorem bindEach_recut {parameters : List (String × Parameter)}
    (hbody : ∀ declaration ∈ parameters, declaration.2.location = .body → c.bodyField ≠ none) (s : σ) :
    let first := bindEach c d parameters i s
    let second := bindEach c d parameters (i.withBody (.ready (pieces'.map .data))) s
    second.1 = first.1 ∧ second.2.2 = first.2.2 ∧
      (first.2.1.request = i.request ∧ second.2.1.request = i.request.withBody (.ready (pieces'.map .data)) ∨
        first.2.1.request = i.request.withBody .taken ∧ second.2.1.request = i.request.withBody .taken) := by
  have hready : i.request.body.isReady = true := by rw [hr]; rfl
  induction parameters generalizing i s with
  | nil => exact ⟨rfl, rfl, .inl ⟨rfl, rfl⟩⟩
  | cons declaration rest ih =>
    obtain ⟨field, p⟩ := declaration
    obtain ⟨hbodyHead, hbodyRest⟩ := List.forall_mem_cons.1 hbody
    simp only [bindEach_cons]
    by_cases hhead : d.hasField field = true ∧ p.Draws c field i.request
    · have htaken : (bindOne c d field p i s).2.1.request = i.request.withBody .taken := by
        rw [bindOne_intake, if_pos hhead.1, p.resolve_draws hready hform hhead.2, Request.takeBody_ready hr]
      have hlater := bindEach_request c d rest (bindOne c d field p i s).2.1 (bindOne c d field p i s).2.2
      have hgone : (i.request.withBody .taken).takeBody.2 = i.request.withBody .taken := rfl
      rw [htaken, hgone, or_self] at hlater
      rw [bindOne_recut hbytes hr hform hhead.1 hhead.2]
      exact ⟨rfl, rfl, .inr ⟨hlater, hlater⟩⟩
    · obtain ⟨hsame, hkept, hbodies⟩ := bindOne_undrawn hready hbodyHead (fun hf hd => hhead ⟨hf, hd⟩) s
      have hform' : (bindOne c d field p i s).2.1.request.FormReadable → (bindOne c d field p i s).2.1.form = none := by
        rw [hsame]
        exact fun hf => (hkept hf).trans (hform hf)
      obtain ⟨hbindings, hstate, hrequest⟩ := ih (i := (bindOne c d field p i s).2.1) (by rwa [hsame]) hform' hbodyRest
        (bindOne c d field p i s).2.2 (by rwa [hsame])
      rw [hsame] at hrequest
      rw [hbodies]
      exact ⟨by rw [hbindings], hstate, hrequest⟩

end Binder

end Recut

namespace Binder

/-- How a body arrives is not seen by a binding. Requests that differ only in how the bytes of their bodies are cut, be
it in streams or in one whole, come to the same for each parameter and make the same assignments, and either both keep
their bodies or both bodies are taken. -/
theorem bind_ignores_chunking {σ : Type} (b : Binder) (r : Request) {body body' : Body} (h : body.SameBytes body')
    (route : Route) (consumer : Consumer) (d : Destination σ) (s : σ) :
    let first := b.bind (r.withBody body) route consumer d s
    let second := b.bind (r.withBody body') route consumer d s
    second.bindings = first.bindings ∧ second.report = first.report ∧
    second.destination = first.destination ∧
    (first.request = r.withBody body ∧ second.request = r.withBody body' ∨
      first.request = r.withBody .taken ∧ second.request = r.withBody .taken) := by
  obtain ⟨pieces, pieces', rfl, rfl, hbytes⟩ := h.exists_pieces
  obtain ⟨hbindings, hstate, hrequest⟩ := bindEach_recut (i := .ofRequest (r.withBody (.ready (pieces.map .data))))
    (c := ⟨route, consumer, b.limits, b.bodyField?⟩) (d := d) hbytes rfl (fun _ => rfl) (fun _ => bodyField?_ne_none) s
  have hreport := congrArg (fun bindings => Report.mk (bindings.flatMap Binding.problems)) hbindings
  exact ⟨hbindings, hreport, hstate, hrequest⟩

/-- A form in three chunks, one of them empty and none of them a pair, and the same form as a whole. -/
theorem bind_ignores_chunking_of_form :
    let b : Binder := ⟨[("note", .form "note"), ("data", .body "data" .string)], .standard, by decide, by decide⟩
    let r : Request := ⟨"POST", .root, ⟨[("content-type", [Utf8.encode "application/x-www-form-urlencoded"])]⟩, .empty⟩
    let pieces : List (List UInt8) := [Utf8.encode "no", [], Utf8.encode "te=1"]
    Body.SameBytes (.ready (pieces.map .data)) (.ofBytes pieces.flatten) ∧
      (b.bind (r.withBody (.ofBytes pieces.flatten)) ⟨[]⟩ .json .sorted []).bindings =
        (b.bind (r.withBody (.ready (pieces.map .data))) ⟨[]⟩ .json .sorted []).bindings := by
  intro b r pieces
  have h : Body.SameBytes (.ready (pieces.map .data)) (.ofBytes pieces.flatten) := .whole pieces (by decide)
  exact ⟨h, (bind_ignores_chunking b r h ⟨[]⟩ .json .sorted []).1⟩

end Binder
end RequestBinding
