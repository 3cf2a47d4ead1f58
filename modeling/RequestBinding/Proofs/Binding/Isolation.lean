import RequestBinding.Proofs.Binding.Calls
import RequestBinding.Proofs.Binding.Sources

/-! Parameters do not meddle with each other. What a parameter comes to beside others is what it comes to alone,
except that the problem with a body may be another one where forms are declared too. -/

namespace RequestBinding

namespace Parameter

/-- A file of a form is bound. -/
def bindsFile (p : Parameter) : Bool := p.location == .file || p.location == .form && p.schema.type == .file

/-- The names of the files that are taken out of the form. -/
def claims (p : Parameter) : List String := if p.bindsFile then [p.name] else []

/-- A form is needed. -/
def readsForm (p : Parameter) : Bool := p.location == .form || p.location == .file

/-- Two parameters want what only one of them can have: the body, or a file. -/
def contends (p q : Parameter) : Bool :=
  p.location == .body && q.location == .body || p.bindsFile && q.bindsFile && p.name == q.name

variable (p : Parameter)

private theorem fromForm_agree {claimed : List String} {f g : Except SourceFault LoadedForm}
    (h : FormsAgree claimed f g) :
    p.fromForm f = p.fromForm g := by
  cases h with
  | error fault => rfl
  | ok _ hv _ =>
    unfold fromForm
    simp only [hv]

private theorem fromFiles_agree {claimed : List String} {f g : Except SourceFault LoadedForm}
    (h : FormsAgree claimed f g)
    (hn : p.name ∉ claimed) :
    (p.fromFiles f).1 = (p.fromFiles g).1 ∧ FormsAgree (p.name :: claimed) (p.fromFiles f).2 g := by
  cases h with
  | error fault => exact ⟨rfl, .error fault⟩
  | @ok f g hp hv hf =>
    have hfound := FormData.takeFile_congr (congrArg _ hv) (hf p.name hn)
    obtain ⟨hvalues, hfiles⟩ := FormData.takeFile_frame p.name f.data
    unfold fromFiles
    simp only [← hp]
    split
    · exact ⟨rfl, .ok hp hv fun name hm => hf name fun h => hm (List.mem_cons_of_mem _ h)⟩
    · refine ⟨by simp only [hfound], .ok hp (hvalues.trans hv) fun name hm => ?_⟩
      rw [List.mem_cons, not_or] at hm
      exact (hfiles name hm.1).trans (hf name hm.2)

private theorem contends_comm (p q : Parameter) : p.contends q = q.contends p := by
  simp only [contends, Bool.and_comm, BEq.comm (a := p.name)]

private theorem claims_disjoint {q : Parameter} (h : p.contends q = false) {name : String} (hq : name ∈ q.claims) :
    name ∉ p.claims := by
  intro hp
  simp only [claims] at hp hq
  split at hp <;> split at hq <;> simp_all [contends]

/-- The form as a parameter reads it. -/
theorem resolve_form (h : p.misdeclared? = none) (hl : p.readsForm = true) (c : Context) (field : String) (i : Intake) :
    p.resolve c field i = if p.bindsFile then
      ((p.fromFiles (i.getForm c.limits).1).1,
        { (i.getForm c.limits).2 with form := some (p.fromFiles (i.getForm c.limits).1).2 })
    else (p.fromForm (i.getForm c.limits).1, (i.getForm c.limits).2) := by
  simp only [readsForm, Bool.or_eq_true, beq_iff_eq] at hl
  unfold resolve
  rcases hl with hl | hl <;> simp only [h, hl, isFile, bindsFile] <;> split <;> simp_all

/-- The body as the parameter reads it that owns it. -/
theorem resolve_body (h : p.misdeclared? = none) (hl : p.location = .body) (c : Context) {field : String}
    (ho : c.bodyField = some field) (i : Intake) :
    p.resolve c field i = (p.fromBody (i.getBody c.limits c.consumer).1, (i.getBody c.limits c.consumer).2) := by
  have hown : c.bodyField.filter (· ≠ field) = none := by simp [ho, Option.filter_some]
  unfold resolve
  simp only [h, hl]
  rw [hown]

theorem resolve_misdeclared {problem : Problem} (h : p.misdeclared? = some problem) (c : Context) (field : String)
    (i : Intake) : p.resolve c field i = (.failed [problem], i) := by
  unfold resolve
  simp only [h]

/-- A parameter of neither form nor body looks at the route, the headers and the address. -/
theorem resolve_frame (hb : p.location ≠ .body) (hf : p.readsForm = false) (c c' : Context) (hr : c.route = c'.route)
    (field : String) {i i' : Intake} (hh : i.request.headers = i'.request.headers)
    (ha : i.request.address = i'.request.address) :
    (p.resolve c field i).1 = (p.resolve c' field i').1 ∧ (p.resolve c field i).2 = i := by
  simp only [readsForm, Bool.or_eq_false_iff, beq_eq_false_iff_ne] at hf
  cases hm : p.misdeclared? with
  | some problem => simp only [p.resolve_misdeclared hm, and_self]
  | none =>
    unfold resolve
    cases hl : p.location with
    | path => simp [hm, hr]
    | query => simp [hm, ha]
    | header => simp [hm, hh]
    | form => exact absurd hl hf.1
    | file => exact absurd hl hf.2
    | body => exact absurd hl hb
    | unrecognized name => simp [hm]

end Parameter

/-- A request in the course of a binding that has read no more of the original request than parameters may share:
its form is the same but for the files that were claimed. -/
structure Intake.Tracks (limits : Limits) (r : Request) (claimed : List String) (i : Intake) : Prop where
  headers : i.request.headers = r.headers
  address : i.request.address = r.address
  form : FormsAgree claimed (i.getForm limits).1 (r.loadForm limits).1

/-- The body was not read for a body parameter. Where forms are declared it may have been read for one. -/
def Intake.Unread (limits : Limits) (r : Request) (forms : Bool) (i : Intake) : Prop :=
  i.form = none ∧ i.request = r ∨ forms = true ∧ i.form ≠ none ∧ i.request = (r.loadForm limits).2

namespace Intake

variable {limits : Limits} {r : Request} {claimed : List String} {i : Intake}

private theorem tracks_ofRequest (limits : Limits) (r : Request) : Tracks limits r [] (.ofRequest r) :=
  ⟨rfl, rfl, .refl ..⟩

private theorem ofRequest_getBody (limits : Limits) (r : Request) :
    ((ofRequest r).getBody limits .json).1 = (r.readBody limits .json).1 := rfl

theorem Tracks.mono {more : List String} (h : Tracks limits r claimed i) (hsub : claimed ⊆ more) :
    Tracks limits r more i := ⟨h.headers, h.address, h.form.mono hsub⟩

theorem Tracks.getForm (h : Tracks limits r claimed i) : Tracks limits r claimed (i.getForm limits).2 := by
  obtain ⟨hh, ha⟩ := i.getForm_frame limits
  exact ⟨hh.trans h.headers, ha.trans h.address, by rw [getForm_getForm]; exact h.form⟩

private theorem Tracks.putForm {more : List String} {form : Except SourceFault LoadedForm}
    (h : Tracks limits r claimed i)
    (hf : FormsAgree more form (r.loadForm limits).1) :
    Tracks limits r more { (i.getForm limits).2 with form := some form } :=
  ⟨h.getForm.headers, h.getForm.address, hf⟩

theorem Tracks.getBody (h : Tracks limits r claimed i) : Tracks limits r claimed (i.getBody limits .json).2 := by
  obtain ⟨hh, ha⟩ := i.request.readBody_frame limits .json
  exact ⟨hh.trans h.headers, ha.trans h.address, by rw [getForm_getBody]; exact h.form⟩

private theorem Unread.putForm {forms : Bool} (h : Unread limits r forms i) (hf : forms = true)
    (form : Except SourceFault LoadedForm) :
    Unread limits r forms { (i.getForm limits).2 with form := some form } := by
  obtain ⟨request, _ | loaded⟩ := i
  · rcases h with ⟨-, rfl⟩ | ⟨-, hn, -⟩
    · exact .inr ⟨hf, by simp, rfl⟩
    · exact absurd rfl hn
  · rcases h with ⟨hn, -⟩ | ⟨-, -, hr⟩
    · cases hn
    · exact .inr ⟨hf, by simp, hr⟩

theorem Unread.getForm {forms : Bool} (h : Unread limits r forms i) (hf : forms = true) :
    Unread limits r forms (i.getForm limits).2 := by
  have hself : (i.getForm limits).2 = { (i.getForm limits).2 with form := some (i.getForm limits).1 } := by
    obtain ⟨request, _ | loaded⟩ := i <;> rfl
  rw [hself]
  exact h.putForm hf _

/-- What a body that was not read reads as, or else no form and no JSON is in it. -/
theorem Unread.getBody {forms : Bool} (h : Unread limits r forms i) :
    (i.getBody limits .json).1 = (r.readBody limits .json).1 ∨
      forms = true ∧ (∃ fault, (i.getBody limits .json).1 = .error fault) ∧
        ∃ fault, (r.readBody limits .json).1 = .error fault := by
  rcases h with ⟨-, hr⟩ | ⟨hf, -, hr⟩
  · exact .inl (by rw [← hr]; rfl)
  · refine (r.readBody_after_loadForm limits).imp (fun h => ?_) fun ⟨hl, hb⟩ => ⟨hf, ?_, hb⟩
    · rw [← h, ← hr]
      rfl
    · rw [← hr] at hl
      exact hl

end Intake

/-- One problem with a parameter, under its own name and location. -/
def Parameter.Reports (p : Parameter) (problems : List Problem) : Prop :=
  ∃ problem, problems = [problem] ∧ problem.parameter = p.name ∧ problem.location = p.location

/-- Outcomes of a parameter that are one and the same, or one problem on both sides where those may differ. -/
def Outcome.Agree (p : Parameter) (excused : Bool) (o o' : Outcome) : Prop :=
  o = o' ∨ excused = true ∧ (∃ problems, o = .failed problems ∧ p.Reports problems) ∧
    ∃ problems, o' = .failed problems ∧ p.Reports problems

namespace Parameter

variable {limits : Limits} {r : Request} {claimed : List String} {i : Intake}

/-- What a parameter comes to where nothing was read for another one. -/
def alone (p : Parameter) (limits : Limits) (route : Route) (r : Request) (field : String) : Outcome :=
  (p.resolve ⟨route, .json, limits, if p.location = .body then some field else none⟩ field (.ofRequest r)).1

private theorem resolve_isolated (p : Parameter) (hb : p.location ≠ .body) (ht : i.Tracks limits r claimed)
    (hn : ∀ name ∈ p.claims, name ∉ claimed) (route : Route) (owner : Option String) (field : String) :
    (p.resolve ⟨route, .json, limits, owner⟩ field i).1 = p.alone limits route r field ∧
      (p.resolve ⟨route, .json, limits, owner⟩ field i).2.Tracks limits r (p.claims ++ claimed) := by
  have hsub : claimed ⊆ p.claims ++ claimed := List.subset_append_right _ _
  rw [alone]
  cases hf : p.readsForm with
  | false =>
    have hh : i.request.headers = (Intake.ofRequest r).request.headers := ht.headers
    have ha : i.request.address = (Intake.ofRequest r).request.address := ht.address
    obtain ⟨ho, hi⟩ := p.resolve_frame hb hf ⟨route, .json, limits, owner⟩
      ⟨route, .json, limits, if p.location = .body then some field else none⟩ rfl field hh ha
    rw [hi]
    exact ⟨ho, ht.mono hsub⟩
  | true =>
    cases hm : p.misdeclared? with
    | some problem =>
      simp only [p.resolve_misdeclared hm]
      exact ⟨trivial, ht.mono hsub⟩
    | none =>
      rw [p.resolve_form hm hf, p.resolve_form hm hf]
      split
      · next hbinds =>
        have hclaims : p.claims = [p.name] := if_pos hbinds
        obtain ⟨ho, hform⟩ := p.fromFiles_agree ht.form (hn p.name (by simp [hclaims]))
        rw [hclaims]
        exact ⟨ho, ht.putForm hform⟩
      · exact ⟨p.fromForm_agree ht.form, ht.getForm.mono hsub⟩

private theorem resolve_unread (p : Parameter) (hb : p.location ≠ .body) {forms : Bool} (hu : i.Unread limits r forms)
    (hf : p.readsForm = true → forms = true) (route : Route) (owner : Option String) (field : String) :
    (p.resolve ⟨route, .json, limits, owner⟩ field i).2.Unread limits r forms := by
  cases hread : p.readsForm with
  | false =>
    obtain ⟨-, hi⟩ := p.resolve_frame hb hread ⟨route, .json, limits, owner⟩ ⟨route, .json, limits, owner⟩ rfl field
      (i := i) rfl rfl
    rw [hi]
    exact hu
  | true =>
    cases hm : p.misdeclared? with
    | some problem =>
      rw [p.resolve_misdeclared hm]
      exact hu
    | none =>
      rw [p.resolve_form hm hread]
      split
      · exact hu.putForm (hf hread) _
      · exact hu.getForm (hf hread)

private theorem resolve_body_isolated (p : Parameter) (hb : p.location = .body) (ht : i.Tracks limits r claimed)
    {forms : Bool} (hu : i.Unread limits r forms) (route : Route) (field : String) :
    Outcome.Agree p forms (p.resolve ⟨route, .json, limits, some field⟩ field i).1 (p.alone limits route r field) ∧
      (p.resolve ⟨route, .json, limits, some field⟩ field i).2.Tracks limits r claimed := by
  rw [alone, if_pos hb]
  cases hm : p.misdeclared? with
  | some problem =>
    simp only [p.resolve_misdeclared hm]
    exact ⟨.inl rfl, ht⟩
  | none =>
    rw [p.resolve_body hm hb _ rfl, p.resolve_body hm hb _ rfl]
    refine ⟨?_, ht.getBody⟩
    rcases hu.getBody with he | ⟨hf, ⟨fault, hi⟩, fault', hr⟩
    · exact .inl (congrArg p.fromBody he)
    · rw [hi, Intake.ofRequest_getBody, hr]
      exact .inr ⟨hf, ⟨_, rfl, _, rfl, rfl, rfl⟩, _, rfl, _, rfl, rfl, rfl⟩

end Parameter

/-- The result of an outcome in a destination that accepts every value. -/
def Outcome.result : Outcome → Result
  | .bound value => .bound value
  | .absent => .absent
  | .failed problems => .failed problems

/-- Bindings of one parameter that came to the same result, or to one problem each where the problems may differ. -/
def Binding.Agrees (excused : Bool) (x y : Binding) : Prop :=
  x.field = y.field ∧ x.parameter = y.parameter ∧
    (x.result = y.result ∨ excused = true ∧ (∃ problems, x.result = .failed problems ∧ x.parameter.Reports problems) ∧
      ∃ problems, y.result = .failed problems ∧ x.parameter.Reports problems)

namespace Binder

variable {limits : Limits} {r : Request} {m : Destination (List (String × Value))}

private theorem bindOne_isMap (hm : m.IsMap) (c : Context) (field : String) (p : Parameter) (i : Intake)
    (s : List (String × Value)) :
    (bindOne c m field p i s).1 = ⟨field, p, (p.resolve c field i).1.result⟩ ∧
      (bindOne c m field p i s).2.1 = (p.resolve c field i).2 := by
  rw [bindOne_hasField c m (hm.hasField field)]
  cases (p.resolve c field i).1 with
  | bound value => simp [hm.accepts, Result.ofAssignment, Outcome.result]
  | absent => exact ⟨rfl, rfl⟩
  | failed problems => exact ⟨rfl, rfl⟩

/-- A binding that came to what its parameter comes to alone, or failed as that does where this is excused. -/
def Isolated (limits : Limits) (route : Route) (r : Request) (forms : Bool) (x : Binding) : Prop :=
  ∃ o : Outcome, x.result = o.result ∧
    o.Agree x.parameter (x.parameter.location == .body && forms) (x.parameter.alone limits route r x.field)

private theorem bindEach_isolated (hm : m.IsMap) (route : Route) (owner : Option String) {forms : Bool}
    {parameters : List (String × Parameter)} (hfree : parameters.Pairwise fun d e => d.2.contends e.2 = false)
    (howner : ∀ d ∈ parameters, d.2.location = .body → owner = some d.1)
    (hforms : ∀ d ∈ parameters, d.2.readsForm = true → forms = true) {claimed : List String} {i : Intake}
    (ht : i.Tracks limits r claimed) (hclaimed : ∀ d ∈ parameters, ∀ name ∈ d.2.claims, name ∉ claimed)
    (hu : (∃ d ∈ parameters, d.2.location = .body) → i.Unread limits r forms) (s : List (String × Value)) :
    ∀ x ∈ (bindEach ⟨route, .json, limits, owner⟩ m parameters i s).1, Isolated limits route r forms x := by
  induction parameters generalizing claimed i s with
  | nil => simp [bindEach]
  | cons declaration rest ih =>
    obtain ⟨field, p⟩ := declaration
    obtain ⟨hhead, hrest⟩ := List.pairwise_cons.1 hfree
    obtain ⟨hownerHead, hownerRest⟩ := List.forall_mem_cons.1 howner
    obtain ⟨hformsHead, hformsRest⟩ := List.forall_mem_cons.1 hforms
    obtain ⟨hclaimedHead, hclaimedRest⟩ := List.forall_mem_cons.1 hclaimed
    obtain ⟨hbinding, hintake⟩ := bindOne_isMap hm ⟨route, .json, limits, owner⟩ field p i s
    rw [bindEach_cons, List.forall_mem_cons, hbinding, hintake]
    by_cases hb : p.location = .body
    · -- The body goes to this parameter, so that none of those after it reads it.
      obtain rfl : owner = some field := hownerHead hb
      obtain ⟨hagree, htracks⟩ := p.resolve_body_isolated hb ht (hu ⟨_, List.mem_cons_self .., hb⟩) route field
      refine ⟨⟨_, rfl, by simpa [hb] using hagree⟩, ih hrest hownerRest hformsRest htracks hclaimedRest ?_ _⟩
      rintro ⟨d, hd, hbody⟩
      simpa [Parameter.contends, hb, hbody] using hhead d hd
    · obtain ⟨hsame, htracks⟩ := p.resolve_isolated hb ht hclaimedHead route owner field
      refine ⟨⟨_, rfl, .inl hsame⟩, ih hrest hownerRest hformsRest htracks (fun d hd name hname => ?_) ?_ _⟩
      · rw [List.mem_append, not_or]
        exact ⟨p.claims_disjoint (hhead d hd) hname, hclaimedRest d hd name hname⟩
      · rintro ⟨d, hd, hbody⟩
        exact p.resolve_unread hb (hu ⟨d, List.mem_cons_of_mem _ hd, hbody⟩) hformsHead route owner field

private theorem find?_body {parameters : List (String × Parameter)}
    (hfree : parameters.Pairwise fun d e => d.2.contends e.2 = false) {d : String × Parameter} (hd : d ∈ parameters)
    (hb : d.2.location = .body) : parameters.find? (fun (_, p) => p.location == .body) = some d := by
  induction parameters with
  | nil => cases hd
  | cons head rest ih =>
    obtain ⟨hhead, hrest⟩ := List.pairwise_cons.1 hfree
    rcases List.mem_cons.1 hd with rfl | hd
    · rw [List.find?_cons_of_pos (by simp [hb])]
    · have hne : head.2.location ≠ .body := fun h => by simpa [Parameter.contends, h, hb] using hhead d hd
      rw [List.find?_cons_of_neg (by simpa using hne)]
      exact ih hrest hd

private theorem bodyField?_of_mem {b : Binder} (hfree : b.parameters.Pairwise fun d e => d.2.contends e.2 = false)
    {d : String × Parameter} (hd : d ∈ b.parameters) (hb : d.2.location = .body) : b.bodyField? = some d.1 := by
  rw [bodyField?, find?_body hfree hd hb, Option.map_some]

/-- The binder of one parameter, within the same limits. -/
def only (b : Binder) (field : String) (p : Parameter) : Binder :=
  ⟨[(field, p)], b.limits, List.nodup_singleton field, b.limits_valid⟩

/-- Some parameter needs a form. -/
def declaresForm (b : Binder) : Bool := b.parameters.any fun (_, p) => p.readsForm

/-- The problem with a parameter may be another one than that of the parameter alone: it is in the body beside forms. -/
def excuses (b : Binder) (p : Parameter) : Bool := p.location == .body && b.declaresForm

variable (b : Binder) (route : Route)

private theorem bind_only (hm : m.IsMap) (field : String) (p : Parameter) :
    ((b.only field p).bind r route .json m []).bindings = [⟨field, p, (p.alone b.limits route r field).result⟩] := by
  have howner : (b.only field p).bodyField? = if p.location = .body then some field else none := by
    by_cases hb : p.location = .body <;> simp [bodyField?, only, hb]
  obtain ⟨hbinding, -⟩ := bindOne_isMap hm ⟨route, .json, b.limits, (b.only field p).bodyField?⟩ field p (.ofRequest r) []
  rw [Parameter.alone, ← howner, ← hbinding]
  rfl

private theorem bind_isolated (hm : m.IsMap) (hfree : b.parameters.Pairwise fun d e => d.2.contends e.2 = false) :
    ∀ x ∈ (b.bind r route .json m []).bindings, Isolated b.limits route r b.declaresForm x := by
  refine bindEach_isolated hm route b.bodyField? hfree (fun d hd hb => bodyField?_of_mem hfree hd hb) ?_
    (Intake.tracks_ofRequest b.limits r) (by simp) (fun _ => .inl ⟨rfl, rfl⟩) []
  intro d hd hf
  exact List.any_eq_true.2 ⟨d, hd, hf⟩

private theorem bind_get?_iff (hm : m.IsMap) (hfree : b.parameters.Pairwise fun d e => d.2.contends e.2 = false)
    (field : String) (value : Value) :
    Entries.get? field (b.bind r route .json m []).destination = some value ↔
      ∃ p, (field, p) ∈ b.parameters ∧ p.alone b.limits route r field = .bound value := by
  rw [bind_isMap b r route .json hm, ← bind_declarations m b r route .json []]
  have hisolated := bind_isolated (r := r) b route hm hfree
  constructor
  · rintro ⟨x, hx, rfl, hr⟩
    obtain ⟨o, ho, hagree⟩ := hisolated x hx
    refine ⟨x.parameter, List.mem_map.2 ⟨x, hx, rfl⟩, ?_⟩
    rcases hagree with he | ⟨-, ⟨problems, hf, -⟩, -⟩
    · rw [← he]
      cases o <;> simp_all [Outcome.result]
    · rw [ho, hf] at hr
      cases hr
  · rintro ⟨p, hp, ha⟩
    obtain ⟨x, hx, he⟩ := List.mem_map.1 hp
    obtain ⟨rfl, rfl⟩ := Prod.mk.inj he
    obtain ⟨o, ho, hagree⟩ := hisolated x hx
    refine ⟨x, hx, rfl, ?_⟩
    rcases hagree with he | ⟨-, -, problems, hf, -⟩
    · rw [ho, he, ha]
      rfl
    · rw [ha] at hf
      cases hf

private theorem bind_unexcused (hm : m.IsMap) (hfree : b.parameters.Pairwise fun d e => d.2.contends e.2 = false) :
    (b.bind r route .json m []).bindings.filter (fun x => !b.excuses x.parameter) =
      (b.parameters.filter fun (_, p) => !b.excuses p).map fun (field, p) =>
        ⟨field, p, (p.alone b.limits route r field).result⟩ := by
  have hisolated := bind_isolated (r := r) b route hm hfree
  conv_rhs => rw [← bind_declarations m b r route .json []]
  rw [List.filter_map, List.map_map, eq_comm]
  refine Eq.trans (List.map_congr_left ?_) (List.map_id _)
  intro x hx
  obtain ⟨hx, hnot⟩ := List.mem_filter.1 hx
  obtain ⟨o, ho, hagree⟩ := hisolated x hx
  rcases hagree with he | ⟨hexcused, -⟩
  · simp only [Function.comp_apply, ← he, ← ho, id_eq]
  · have hyes : b.excuses x.parameter = true := hexcused
    simp [hyes] at hnot

variable {b : Binder} {route : Route}

private theorem Isolated.agrees_only (hm : m.IsMap) {x : Binding} (h : Isolated b.limits route r b.declaresForm x) :
    ∃ y, ((b.only x.field x.parameter).bind r route .json m []).bindings = [y] ∧
      x.Agrees (b.excuses x.parameter) y := by
  refine ⟨_, bind_only b route hm x.field x.parameter, rfl, rfl, ?_⟩
  obtain ⟨o, ho, rfl | ⟨hexcused, ⟨problems, rfl, hx⟩, problems', hfails, hy⟩⟩ := h
  · exact .inl ho
  · rw [ho, hfails]
    exact .inr ⟨hexcused, ⟨problems, rfl, hx⟩, problems', rfl, hy⟩

private theorem excuses_perm {b' : Binder} (h : b'.parameters.Perm b.parameters) : b'.excuses = b.excuses := by
  funext p
  rw [excuses, excuses, declaresForm, declaresForm, h.any_eq]

/-- Parameters do not meddle with each other, as long as no two of them want the body or the same file. In a map,
each comes to what it comes to in a binder of its own: a value, nothing, or problems. For a body beside forms the problem
may be another one, but there is one on both sides, under the name and location of the parameter. So the order of
declaration matters neither to the fields nor, that body apart, to the problems as a whole. -/
theorem bind_isolates_parameters (b : Binder) (hfree : b.parameters.Pairwise fun d e => d.2.contends e.2 = false)
    (r : Request) (route : Route) (m : Destination (List (String × Value))) (hm : m.IsMap) :
    let after := b.bind r route .json m []
    after.bindings.map (fun x => (x.field, x.parameter)) = b.parameters ∧
    (∀ x ∈ after.bindings, ∃ y, ((b.only x.field x.parameter).bind r route .json m []).bindings = [y] ∧
      x.Agrees (b.excuses x.parameter) y) ∧
    ∀ b' : Binder, b'.limits = b.limits → b'.parameters.Perm b.parameters →
      let other := b'.bind r route .json m []
      (∀ field, Entries.get? field other.destination = Entries.get? field after.destination) ∧
      ((other.bindings.filter fun x => !b'.excuses x.parameter).flatMap Binding.problems).Perm
        ((after.bindings.filter fun x => !b.excuses x.parameter).flatMap Binding.problems) := by
  refine ⟨bind_declarations .., fun x hx => (bind_isolated b route hm hfree x hx).agrees_only hm, ?_⟩
  intro b' hlimits hperm
  have hfree' : b'.parameters.Pairwise fun d e => d.2.contends e.2 = false :=
    hperm.symm.pairwise hfree fun {d e} h => (Parameter.contends_comm e.2 d.2).trans h
  constructor
  · intro field
    apply Option.ext
    intro value
    rw [bind_get?_iff b' route hm hfree', bind_get?_iff b route hm hfree, hlimits]
    simp only [hperm.mem_iff]
  · rw [bind_unexcused b' route hm hfree', bind_unexcused b route hm hfree, hlimits, excuses_perm hperm]
    exact ((hperm.filter _).map _).flatMap_right _

/-- A text, a file and a body in any order: the body is the only one whose problem depends on the others. -/
theorem bind_isolates_text_file_and_body :
    let b : Binder := ⟨[("note", .form "note"), ("photo", .file "photo"), ("data", .body "data" .string)], .standard,
      by decide, by decide⟩
    let b' : Binder := ⟨[("data", .body "data" .string), ("photo", .file "photo"), ("note", .form "note")], .standard,
      by decide, by decide⟩
    let r : Request := ⟨"POST", .root, ⟨[("content-type", [Utf8.encode "application/json"])]⟩,
      .ready [.data (Utf8.encode "1")]⟩
    (b.parameters.Pairwise fun d e => d.2.contends e.2 = false) ∧ Destination.sorted.IsMap ∧
      b'.parameters.Perm b.parameters ∧
      ∀ field, Entries.get? field (b'.bind r ⟨[]⟩ .json .sorted []).destination =
        Entries.get? field (b.bind r ⟨[]⟩ .json .sorted []).destination := by
  intro b b' r
  have hfree : b.parameters.Pairwise fun d e => d.2.contends e.2 = false := by decide
  have hperm : b'.parameters.Perm b.parameters := List.reverse_perm b.parameters
  refine ⟨hfree, Destination.sorted_isMap, hperm, ?_⟩
  exact ((bind_isolates_parameters b hfree r ⟨[]⟩ .sorted Destination.sorted_isMap).2.2 b' rfl hperm).1

end Binder
end RequestBinding
