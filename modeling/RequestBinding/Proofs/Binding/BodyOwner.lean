import RequestBinding.Proofs.Binding.EmptyBody

/-! Binders as they are made of declarations, and the one parameter that the body goes to. Limits have to be valid and
fields distinct; of all parameters in the body the first that is declared is the only one for which it is read, and the
others come to a problem each and leave the request alone. -/

namespace RequestBinding

/-- Limits that can be: none but that of a part is zero, and a part is no larger than its form. -/
structure Limits.Valid (l : Limits) : Prop where
  bodySize : 0 < l.bodySize
  partsSize : 0 < l.parts.bodySize
  parts : 0 < l.parts.fields
  partSize : l.parts.fieldSize ≤ l.parts.bodySize

private theorem Limits.fault?_eq_none_iff (l : Limits) : l.fault? = none ↔ l.Valid := by
  unfold fault?
  constructor
  · intro h
    split_ifs at h with hbody hparts hfields hfield
    exact ⟨by omega, by omega, by omega, by omega⟩
  · rintro ⟨hbody, hparts, hfields, hfield⟩
    rw [if_neg (by omega), if_neg (by omega), if_neg (by omega), if_neg (by omega)]

namespace Binder

/-- The first name of a list that occurred earlier in it. -/
def FirstRepeated (name : String) (names : List String) : Prop :=
  ∃ earlier later, names = earlier ++ name :: later ∧ earlier.Nodup ∧ name ∈ earlier

private theorem firstRepeated_eq_some_iff {before names : List String} {name : String} :
    firstRepeated before names = some name ↔ ∃ earlier later, names = earlier ++ name :: later ∧
      earlier.Nodup ∧ (∀ other ∈ earlier, other ∉ before) ∧ (name ∈ before ∨ name ∈ earlier) := by
  induction names generalizing before with
  | nil => simp [firstRepeated]
  | cons first rest ih =>
    rw [firstRepeated]
    split
    · next hfirst =>
      constructor
      · intro h
        obtain rfl := Option.some.inj h
        exact ⟨[], rest, rfl, List.nodup_nil, by simp, .inl hfirst⟩
      · rintro ⟨_ | ⟨other, earlier⟩, later, hnames, -, hfresh, -⟩
        · rw [(List.cons.inj hnames).1]
        · obtain ⟨rfl, -⟩ := List.cons.inj hnames
          exact absurd hfirst (hfresh first (List.mem_cons_self ..))
    · next hfirst =>
      rw [ih]
      constructor
      · rintro ⟨earlier, later, rfl, hnodup, hfresh, hname⟩
        refine ⟨first :: earlier, later, rfl, List.nodup_cons.2 ⟨fun h => ?_, hnodup⟩, ?_, ?_⟩
        · exact hfresh first h (List.mem_cons_self ..)
        · exact List.forall_mem_cons.2 ⟨hfirst, fun other h hb => hfresh other h (List.mem_cons_of_mem _ hb)⟩
        · grind
      · rintro ⟨_ | ⟨other, earlier⟩, later, hnames, hnodup, hfresh, hname⟩
        · obtain ⟨rfl, -⟩ := List.cons.inj hnames
          simp [hfirst] at hname
        · obtain ⟨rfl, hrest⟩ := List.cons.inj hnames
          obtain ⟨hnot, hnodup⟩ := List.nodup_cons.1 hnodup
          refine ⟨earlier, later, hrest, hnodup, fun other h hb => ?_, ?_⟩
          · grind
          · grind

private theorem firstRepeated_iff {names : List String} {name : String} :
    firstRepeated [] names = some name ↔ FirstRepeated name names := by
  rw [firstRepeated_eq_some_iff]
  simp [FirstRepeated]

private theorem FirstRepeated.not_nodup {name : String} {names : List String} (h : FirstRepeated name names) :
    ¬ names.Nodup := by
  obtain ⟨earlier, later, rfl, -, hname⟩ := h
  intro hnodup
  exact List.disjoint_of_nodup_append hnodup hname (List.mem_cons_self ..)

section Building

variable {parameters : List (String × Parameter)} {limits : Limits}

private theorem ofParameters_invalid {fault : LimitFault} (h : limits.fault? = some fault) :
    ofParameters parameters limits = .error (.limit fault) := by
  unfold ofParameters
  split <;> simp_all

private theorem ofParameters_repeated (hv : limits.fault? = none) {name : String}
    (h : firstRepeated [] (parameters.map Prod.fst) = some name) :
    ofParameters parameters limits = .error (.duplicateField name) := by
  unfold ofParameters
  split
  · simp_all
  · split <;> simp_all

private theorem ofParameters_distinct (hv : limits.fault? = none)
    (h : firstRepeated [] (parameters.map Prod.fst) = none) :
    ofParameters parameters limits = .ok ⟨parameters, limits, (nodup_of_firstRepeated h).1, hv⟩ := by
  unfold ofParameters
  split
  · simp_all
  · split
    · simp_all
    · rfl

private theorem ofParameters_cases (parameters : List (String × Parameter)) (limits : Limits) :
    match ofParameters parameters limits with
    | .error (.limit _) => ¬ limits.Valid
    | .error (.duplicateField name) => limits.Valid ∧ FirstRepeated name (parameters.map Prod.fst)
    | .ok b => limits.Valid ∧ (parameters.map Prod.fst).Nodup ∧ b.parameters = parameters ∧ b.limits = limits := by
  cases hv : limits.fault? with
  | some fault =>
    rw [ofParameters_invalid hv]
    intro hvalid
    rw [limits.fault?_eq_none_iff.2 hvalid] at hv
    cases hv
  | none =>
    have hvalid := limits.fault?_eq_none_iff.1 hv
    cases hr : firstRepeated [] (parameters.map Prod.fst) with
    | some name =>
      rw [ofParameters_repeated hv hr]
      exact ⟨hvalid, firstRepeated_iff.1 hr⟩
    | none =>
      rw [ofParameters_distinct hv hr]
      exact ⟨hvalid, (nodup_of_firstRepeated hr).1, rfl, rfl⟩

private theorem ofParameters_limit_iff :
    (∃ fault, ofParameters parameters limits = .error (.limit fault)) ↔ ¬ limits.Valid := by
  constructor
  · rintro ⟨fault, h⟩
    have hcases := ofParameters_cases parameters limits
    rw [h] at hcases
    exact hcases
  · intro h
    obtain ⟨fault, hfault⟩ := Option.ne_none_iff_exists'.1 (mt limits.fault?_eq_none_iff.1 h)
    exact ⟨fault, ofParameters_invalid hfault⟩

private theorem ofParameters_duplicate_iff {name : String} :
    ofParameters parameters limits = .error (.duplicateField name) ↔
    limits.Valid ∧ FirstRepeated name (parameters.map Prod.fst) := by
  constructor
  · intro h
    have hcases := ofParameters_cases parameters limits
    rw [h] at hcases
    exact hcases
  · rintro ⟨hvalid, hname⟩
    exact ofParameters_repeated (limits.fault?_eq_none_iff.2 hvalid) (firstRepeated_iff.2 hname)

private theorem ofParameters_ok_iff {b : Binder} : ofParameters parameters limits = .ok b ↔
    limits.Valid ∧ (parameters.map Prod.fst).Nodup ∧ b.parameters = parameters ∧ b.limits = limits := by
  have hcases := ofParameters_cases parameters limits
  constructor
  · intro h
    rw [h] at hcases
    exact hcases
  · rintro ⟨hvalid, hnodup, hparameters, hlimits⟩
    cases hmade : ofParameters parameters limits with
    | error fault =>
      rw [hmade] at hcases
      cases fault with
      | limit fault => exact absurd hvalid hcases
      | duplicateField name => exact absurd hnodup hcases.2.not_nodup
    | ok made =>
      rw [hmade] at hcases
      obtain ⟨-, -, hsame, hsameLimits⟩ := hcases
      cases b
      cases made
      simp_all

end Building

end Binder

namespace Parameter

variable {p : Parameter} {c : Context} {field owner : String}

private theorem misdeclared?_of_body (hl : p.location = .body) : p.misdeclared? =
    if p.isArray ∧ p.schema.collectionFormat = .multi then
      some (p.problem .malformedCollection "collection format 'multi' is only valid for query parameters")
    else if p.schema.type = .file then
      some (p.problem .configuration "file parameters cannot be read from the body")
    else none := by
  unfold misdeclared?
  simp [hl, Location.isRecognized]
  rfl

private theorem resolve_passed_over (hl : p.location = .body) (ho : c.bodyField = some owner) (hne : owner ≠ field)
    (i : Intake) :
    ∃ problem, p.resolve c field i = (.failed [problem], i) ∧ problem.kind =
      if p.isArray ∧ p.schema.collectionFormat = .multi then .malformedCollection else .configuration := by
  have hm := misdeclared?_of_body hl
  split_ifs at hm with hmulti hfile
  · exact ⟨_, p.resolve_misdeclared hm c field i, (if_pos hmulti).symm⟩
  · exact ⟨_, p.resolve_misdeclared hm c field i, (if_neg hmulti).symm⟩
  · exact ⟨_, resolve_other_body (p.misdeclared?_eq_none_iff.1 hm) hl ho hne i, (if_neg hmulti).symm⟩

end Parameter

namespace Binder

/-- A parameter in the body that the body does not go to. -/
def passesOver (owner : Option String) (declaration : String × Parameter) : Bool :=
  declaration.2.location == .body && owner != some declaration.1

variable {σ : Type} {c : Context} {d : Destination σ} {field : String} {p : Parameter}

private theorem passesOver_iff {owner : Option String} : passesOver owner (field, p) = true ↔
    p.location = .body ∧ owner ≠ some field := by
  simp [passesOver]

private theorem bindOne_passed_over (h : passesOver c.bodyField (field, p) = true) (hc : c.bodyField ≠ none)
    (i : Intake) (s : σ) :
    (bindOne c d field p i s).2 = (i, s) ∧ (d.hasField field = true →
      ∃ problem, (bindOne c d field p i s).1.result = .failed [problem] ∧ problem.kind =
        if p.isArray ∧ p.schema.collectionFormat = .multi then .malformedCollection else .configuration) := by
  obtain ⟨hl, hne⟩ := passesOver_iff.1 h
  obtain ⟨owner, ho⟩ := Option.ne_none_iff_exists'.1 hc
  obtain ⟨problem, hresolve, hkind⟩ :=
    Parameter.resolve_passed_over hl ho (fun he : owner = field => hne (he ▸ ho)) i
  cases hf : d.hasField field with
  | false =>
    rw [bindOne_noField c d hf]
    exact ⟨rfl, nofun⟩
  | true =>
    rw [bindOne_hasField c d hf, hresolve]
    exact ⟨rfl, fun _ => ⟨problem, rfl, hkind⟩⟩

private theorem bindEach_passed_over (parameters : List (String × Parameter))
    (hc : ∀ declaration ∈ parameters, declaration.2.location = .body → c.bodyField ≠ none) (i : Intake) (s : σ) :
    bindEach c d (parameters.filter fun declaration => !passesOver c.bodyField declaration) i s =
      ((bindEach c d parameters i s).1.filter fun x => !passesOver c.bodyField (x.field, x.parameter),
        (bindEach c d parameters i s).2) := by
  induction parameters generalizing i s with
  | nil => rfl
  | cons declaration rest ih =>
    obtain ⟨field, p⟩ := declaration
    obtain ⟨hhead, hrest⟩ := List.forall_mem_cons.1 hc
    obtain ⟨hfield, hparameter⟩ := bindOne_binding c d field p i s
    rw [bindEach_cons]
    cases h : passesOver c.bodyField (field, p) with
    | true =>
      -- Nothing was done for the first one, so that the rest starts from the same intake and destination without it.
      have hframe := (bindOne_passed_over (d := d) h (hhead (passesOver_iff.1 h).1) i s).1
      simp only [List.filter_cons, h, hfield, hparameter, hframe, Bool.not_true, Bool.false_eq_true, if_false,
        ih hrest]
    | false =>
      simp only [List.filter_cons, h, hfield, hparameter, Bool.not_false, if_true, bindEach_cons, ih hrest]

/-- The binder without the parameters that the body does not go to. -/
def withoutPassedOver (b : Binder) : Binder where
  parameters := b.parameters.filter fun declaration => !passesOver b.bodyField? declaration
  limits := b.limits
  fields_nodup := b.fields_nodup.sublist ((List.filter_sublist ..).map _)
  limits_valid := b.limits_valid

private theorem find?_filter_of_kept {α : Type} {items : List α} {test keep : α → Bool}
    (h : ∀ a, items.find? test = some a → keep a = true) : (items.filter keep).find? test = items.find? test := by
  rw [List.find?_filter]
  cases hf : items.find? test with
  | none =>
    rw [List.find?_eq_none] at hf ⊢
    grind
  | some a =>
    have hkept := h a hf
    rw [List.find?_eq_some_iff_append] at hf ⊢
    grind

private theorem bodyField?_withoutPassedOver (b : Binder) : b.withoutPassedOver.bodyField? = b.bodyField? := by
  unfold bodyField? withoutPassedOver
  rw [find?_filter_of_kept]
  intro declaration hfound
  simp [passesOver, bodyField?, hfound]

private theorem bind_withoutPassedOver (b : Binder) (r : Request) (route : Route) (consumer : Consumer)
    (d : Destination σ)
    (s : σ) : b.withoutPassedOver.bind r route consumer d s =
      ⟨(b.bind r route consumer d s).bindings.filter fun x => !passesOver b.bodyField? (x.field, x.parameter),
        (b.bind r route consumer d s).request, (b.bind r route consumer d s).destination⟩ := by
  have hall := bindEach_passed_over (c := ⟨route, consumer, b.limits, b.bodyField?⟩) (d := d) b.parameters
    (fun _ => bodyField?_ne_none) (.ofRequest r) s
  unfold bind
  rw [bodyField?_withoutPassedOver, withoutPassedOver]
  simp only [hall]

private theorem bind_passed_over {b : Binder} {r : Request} {route : Route} {consumer : Consumer} {s : σ} {x : Binding}
    (hx : x ∈ (b.bind r route consumer d s).bindings) (h : passesOver b.bodyField? (x.field, x.parameter) = true) :
    if d.hasField x.field then ∃ problem, x.result = .failed [problem] ∧ problem.kind =
      (if x.parameter.isArray ∧ x.parameter.schema.collectionFormat = .multi then .malformedCollection else .configuration)
    else x.result = .noField := by
  obtain ⟨i, t, -, hself⟩ := exists_bindOne _ d hx
  have hdeclared := declared_of_mem d b r route consumer s hx
  have hc := bodyField?_ne_none hdeclared (passesOver_iff.1 h).1
  split
  · next hf =>
    obtain ⟨problem, hresult, hkind⟩ :=
      (bindOne_passed_over (c := ⟨route, consumer, b.limits, b.bodyField?⟩) h hc i t).2 hf
    rw [← hself] at hresult
    exact ⟨problem, hresult, hkind⟩
  · next hf =>
    rw [hself, bindOne_noField _ d (by simpa using hf)]

/-- Declarations and limits make no binder exactly if the limits are not valid, which is said first, or a field is
repeated, of which the first is named; else they make the binder with just these declarations, in their order. In every
binding of such a binder the first parameter in the body is the only one in the body that may come to a value, to its
default or to nothing. Every other one comes to exactly one problem if the destination has its field, with the
declaration, or with the collection where that is an array whose items stand by themselves; and nothing is read or
assigned for it: without all of them the others come to the same, and so do the request and the destination. -/
theorem ofParameters_gives_body_to_first (parameters : List (String × Parameter)) (limits : Limits) :
    ((∃ fault, ofParameters parameters limits = .error (.limit fault)) ↔ ¬ limits.Valid) ∧
    (∀ name, ofParameters parameters limits = .error (.duplicateField name) ↔
      limits.Valid ∧ FirstRepeated name (parameters.map Prod.fst)) ∧
    ((∃ b, ofParameters parameters limits = .ok b) ↔ limits.Valid ∧ (parameters.map Prod.fst).Nodup) ∧
    ∀ b, ofParameters parameters limits = .ok b → b.parameters = parameters ∧ b.limits = limits ∧
      ∀ {σ : Type} (r : Request) (route : Route) (consumer : Consumer) (d : Destination σ) (s : σ),
        let bound := b.bind r route consumer d s
        let isFirst (x : Binding) := parameters.find? (fun (_, p) => p.location == .body) = some (x.field, x.parameter)
        (∀ x ∈ bound.bindings, x.parameter.location = .body →
          x.outcome? = some .absent ∨ (∃ value, x.outcome? = some (.bound value)) → isFirst x) ∧
        (∀ x ∈ bound.bindings, x.parameter.location = .body → d.hasField x.field = true → ¬ isFirst x →
          ∃ problem, x.result = .failed [problem] ∧ problem.kind =
            if x.parameter.isArray ∧ x.parameter.schema.collectionFormat = .multi then .malformedCollection
            else .configuration) ∧
        b.withoutPassedOver.bind r route consumer d s =
          ⟨bound.bindings.filter fun x => !passesOver b.bodyField? (x.field, x.parameter), bound.request,
            bound.destination⟩ := by
  refine ⟨ofParameters_limit_iff, fun _ => ofParameters_duplicate_iff, ?_, ?_⟩
  · constructor
    · rintro ⟨b, hb⟩
      obtain ⟨hvalid, hnodup, -⟩ := ofParameters_ok_iff.1 hb
      exact ⟨hvalid, hnodup⟩
    · rintro ⟨hvalid, hnodup⟩
      exact ⟨⟨parameters, limits, hnodup, limits.fault?_eq_none_iff.2 hvalid⟩,
        ofParameters_ok_iff.2 ⟨hvalid, hnodup, rfl, rfl⟩⟩
  · intro b hb
    obtain ⟨-, -, rfl, rfl⟩ := ofParameters_ok_iff.1 hb
    refine ⟨rfl, rfl, fun r route consumer d s => ?_⟩
    intro bound isFirst
    have hpassed (x : Binding) (hx : x ∈ bound.bindings) (hl : x.parameter.location = .body) (hnot : ¬ isFirst x) :
        passesOver b.bodyField? (x.field, x.parameter) = true := by
      have hdeclared := declared_of_mem d b r route consumer s hx
      exact passesOver_iff.2 ⟨hl, fun howner => hnot ((bodyField?_eq_some hdeclared).1 ⟨hl, howner⟩)⟩
    refine ⟨fun x hx hl ho => ?_, fun x hx hl hf hnot => ?_, bind_withoutPassedOver b r route consumer d s⟩
    · by_contra hnot
      have hresult := bind_passed_over hx (hpassed x hx hl hnot)
      split at hresult
      · obtain ⟨problem, hresult, -⟩ := hresult
        simp [Binding.outcome?, hresult] at ho
      · simp [Binding.outcome?, hresult] at ho
    · have hresult := bind_passed_over hx (hpassed x hx hl hnot)
      rwa [if_pos hf] at hresult

/-- A file is no parameter in the body, yet the body goes to none of those behind it. -/
theorem ofParameters_gives_body_to_first_of_file :
    let file := Parameter.body "file" (.ofType .file)
    let data := Parameter.body "data" (.ofType .object)
    let ids := (Parameter.body "ids" .string).collectionOf .string .multi
    let r : Request := ⟨"POST", ⟨none, none, "/", none⟩, .empty, .ready [.data (Utf8.encode "7")]⟩
    ∃ b, ofParameters [("File", file), ("Data", data), ("Ids", ids)] .standard = .ok b ∧
      ∃ (first : Result) (second third : Problem), (b.bind r ⟨[]⟩ .json .sorted []).bindings =
        [⟨"File", file, first⟩, ⟨"Data", data, .failed [second]⟩, ⟨"Ids", ids, .failed [third]⟩] ∧
        second.kind = .configuration ∧ third.kind = .malformedCollection := by
  intro file data ids r
  obtain ⟨-, -, hmade, hbodies⟩ :=
    ofParameters_gives_body_to_first [("File", file), ("Data", data), ("Ids", ids)] .standard
  obtain ⟨b, hb⟩ := hmade.2 ⟨⟨by decide, by decide, by decide, by decide⟩, by decide⟩
  obtain ⟨hparameters, -, hall⟩ := hbodies b hb
  obtain ⟨-, hothers, -⟩ := hall r ⟨[]⟩ .json .sorted []
  have hdeclared := bind_declarations .sorted b r ⟨[]⟩ .json []
  rw [hparameters] at hdeclared
  obtain ⟨⟨field, p, first⟩, rest, hbindings, hfirst, hrest⟩ := List.map_eq_cons_iff.1 hdeclared
  obtain ⟨⟨field', p', second⟩, rest, rfl, hsecond, hrest⟩ := List.map_eq_cons_iff.1 hrest
  obtain ⟨⟨field'', p'', third⟩, rest, rfl, hthird, hrest⟩ := List.map_eq_cons_iff.1 hrest
  obtain rfl := List.map_eq_nil_iff.1 hrest
  obtain ⟨rfl, rfl⟩ : field = "File" ∧ p = file := Prod.mk.inj hfirst
  obtain ⟨rfl, rfl⟩ : field' = "Data" ∧ p' = data := Prod.mk.inj hsecond
  obtain ⟨rfl, rfl⟩ : field'' = "Ids" ∧ p'' = ids := Prod.mk.inj hthird
  rw [hbindings] at hothers
  have hnot {field : String} {p : Parameter} (hne : "File" ≠ field) : some ("File", file) ≠ some (field, p) :=
    fun h => hne (Prod.mk.inj (Option.some.inj h)).1
  obtain ⟨problem, hproblem, hkind⟩ := hothers ⟨"Data", data, second⟩ (by simp) rfl rfl (hnot (by simp))
  obtain ⟨other, hother, hkind'⟩ := hothers ⟨"Ids", ids, third⟩ (by simp) rfl rfl (hnot (by simp))
  obtain rfl : second = _ := hproblem
  obtain rfl : third = _ := hother
  exact ⟨b, hb, first, problem, other, hbindings, hkind, hkind'⟩

end Binder
end RequestBinding
