import RequestBinding.Binding.Run
import RequestBinding.Proofs.Binding.Outcome
import RequestBinding.Proofs.Entries

/-! What a binding does to its destination. Every parameter is evaluated once, in the order of declaration, and
either calls its destination once or leaves it alone; a problem stands for every call that is refused and for every
parameter that fails. -/

namespace RequestBinding

variable {σ : Type}

/-- An assignment as a destination meets it: the field, the value, and what the destination has against it. -/
structure Call where
  field : String
  value : Value
  refusal : Option FieldFault

/-- A destination that keeps a record of its assignments. -/
def Destination.recording (d : Destination σ) : Destination (σ × List Call) :=
  ⟨d.hasField, fun field value (s, calls) =>
    (((d.assign field value s).1, calls ++ [⟨field, value, (d.assign field value s).2⟩]), (d.assign field value s).2)⟩

/-- A map of fields: every name is a field, and an assignment replaces what stands under its name. -/
structure Destination.IsMap (d : Destination (List (String × Value))) : Prop where
  hasField (field : String) : d.hasField field = true
  accepts (field : String) (value : Value) (s : List (String × Value)) : (d.assign field value s).2 = none
  get?_assign (field other : String) (value : Value) (s : List (String × Value)) :
    Entries.get? other (d.assign field value s).1 = if other = field then some value else Entries.get? other s

theorem Destination.sorted_isMap : sorted.IsMap :=
  ⟨fun _ => rfl, fun _ _ _ => rfl, fun field other value s => Entries.get?_insert field other value s⟩

namespace Binding

/-- The assignments that were made for a parameter. -/
def calls (x : Binding) : List Call :=
  match x.result with
  | .bound value => [⟨x.field, value, none⟩]
  | .refused value fault => [⟨x.field, value, some fault⟩]
  | .noField | .absent | .failed _ => []

/-- What a parameter may do: one assignment and no problem, one that is refused and one problem, nothing at all,
or problems alone. -/
inductive Settled (x : Binding) : Prop
  | assigned (value : Value) : x.calls = [⟨x.field, value, none⟩] → x.problems = [] → Settled x
  | refused (value : Value) (fault : FieldFault) (problem : Problem) :
      x.calls = [⟨x.field, value, some fault⟩] → x.problems = [problem] → Settled x
  | absent : x.result = .absent → x.calls = [] → x.problems = [] → Settled x
  | failed : x.calls = [] → x.problems ≠ [] → Settled x

end Binding

private theorem Binding.Settled.bound_iff {x : Binding} (h : x.Settled) :
    x.result ≠ .absent ∧ x.problems = [] ↔ ∃ value, x.result = .bound value := by
  constructor
  · rintro ⟨ha, hp⟩
    cases hr : x.result with
    | bound value => exact ⟨value, rfl⟩
    | absent => exact absurd hr ha
    | noField => simp [Binding.problems, hr] at hp
    | refused value fault => simp [Binding.problems, hr] at hp
    | failed problems =>
      cases h with
      | failed _ hne => exact absurd hp hne
      | assigned _ hc _ => simp [Binding.calls, hr] at hc
      | refused _ _ _ hc _ => simp [Binding.calls, hr] at hc
      | absent hab _ _ => exact absurd hab ha
  · rintro ⟨value, hr⟩
    simp [Binding.problems, hr]

/-- A result that an outcome has. A value may still be refused. -/
inductive Outcome.Leads : Outcome → Result → Prop
  | bound (value : Value) : Leads (.bound value) (.bound value)
  | refused (value : Value) (fault : FieldFault) : Leads (.bound value) (.refused value fault)
  | absent : Leads .absent .absent
  | failed (problems : List Problem) : Leads (.failed problems) (.failed problems)

theorem Outcome.Leads.failed_eq {problems : List Problem} {result : Result} (h : (Outcome.failed problems).Leads result) :
    result = .failed problems := by
  cases h
  rfl

/-- The result of an assignment, by what the destination has against it. -/
def Result.ofAssignment (value : Value) : Option FieldFault → Result
  | none => .bound value
  | some fault => .refused value fault

theorem Binding.calls_ofAssignment (field : String) (p : Parameter) (value : Value) (refusal : Option FieldFault) :
    (Binding.mk field p (.ofAssignment value refusal)).calls = [⟨field, value, refusal⟩] := by
  cases refusal <;> rfl

namespace Binder

/-- Parameters evaluated one after the other, each on the request as those before it left it and whatever came of
them. A field that the destination lacks costs nothing. -/
inductive Evaluates (c : Context) (hasField : String → Bool) :
    Intake → List (String × Parameter) → List Binding → Intake → Prop
  | done (i : Intake) : Evaluates c hasField i [] [] i
  | noField {field p rest bindings i j} : hasField field = false → Evaluates c hasField i rest bindings j →
      Evaluates c hasField i ((field, p) :: rest) (⟨field, p, .noField⟩ :: bindings) j
  | resolved {field p rest bindings result i j} : hasField field = true → (p.resolve c field i).1.Leads result →
      Evaluates c hasField (p.resolve c field i).2 rest bindings j →
      Evaluates c hasField i ((field, p) :: rest) (⟨field, p, result⟩ :: bindings) j

variable (c : Context) (d : Destination σ)

theorem bindOne_noField {field : String} (hf : d.hasField field = false) (p : Parameter) (i : Intake) (s : σ) :
    bindOne c d field p i s = (⟨field, p, .noField⟩, i, s) := by
  simp [bindOne, hf]

/-- A field that the destination has takes the outcome of its parameter. -/
theorem bindOne_hasField {field : String} (hf : d.hasField field = true) (p : Parameter) (i : Intake) (s : σ) :
    bindOne c d field p i s = match (p.resolve c field i).1 with
      | .bound value => (⟨field, p, .ofAssignment value (d.assign field value s).2⟩, (p.resolve c field i).2,
          (d.assign field value s).1)
      | .absent => (⟨field, p, .absent⟩, (p.resolve c field i).2, s)
      | .failed problems => (⟨field, p, .failed problems⟩, (p.resolve c field i).2, s) := by
  simp only [bindOne, hf, Bool.not_true, Bool.false_eq_true, if_false]
  obtain ⟨outcome, j⟩ := p.resolve c field i
  cases outcome with
  | bound value =>
    dsimp only
    rcases d.assign field value s with ⟨after, _ | fault⟩ <;> rfl
  | absent => rfl
  | failed problems => rfl

theorem bindOne_binding (field : String) (p : Parameter) (i : Intake) (s : σ) :
    (bindOne c d field p i s).1.field = field ∧ (bindOne c d field p i s).1.parameter = p := by
  cases hf : d.hasField field with
  | false => simp [bindOne_noField c d hf]
  | true =>
    rw [bindOne_hasField c d hf]
    cases (p.resolve c field i).1 <;> exact ⟨rfl, rfl⟩

/-- The result of a parameter is one that its outcome has. -/
theorem bindOne_leads {field : String} (hf : d.hasField field = true) (p : Parameter) (i : Intake) (s : σ) :
    (p.resolve c field i).1.Leads (bindOne c d field p i s).1.result := by
  rw [bindOne_hasField c d hf]
  cases (p.resolve c field i).1 with
  | bound value =>
    dsimp only
    cases (d.assign field value s).2 with
    | none => exact .bound value
    | some fault => exact .refused value fault
  | absent => exact .absent
  | failed problems => exact .failed problems

private theorem bindOne_settled (field : String) (p : Parameter) (i : Intake) (s : σ) :
    (bindOne c d field p i s).1.Settled := by
  cases hf : d.hasField field with
  | false =>
    rw [bindOne_noField c d hf]
    exact .failed rfl (by simp [Binding.problems])
  | true =>
    rw [bindOne_hasField c d hf]
    cases ho : (p.resolve c field i).1 with
    | bound value =>
      dsimp only
      cases (d.assign field value s).2 with
      | none => exact .assigned value rfl rfl
      | some fault => exact .refused value fault _ rfl rfl
    | absent => exact .absent rfl rfl rfl
    | failed problems => exact .failed rfl (p.accounts_resolve c field i problems ho).1

private theorem bindOne_concerns (field : String) (p : Parameter) (i : Intake) (s : σ) {e : Problem}
    (he : e ∈ (bindOne c d field p i s).1.problems) : e.Concerns p := by
  cases hf : d.hasField field with
  | false =>
    rw [bindOne_noField c d hf] at he
    obtain rfl := List.mem_singleton.1 he
    exact ⟨rfl, .inl rfl⟩
  | true =>
    rw [bindOne_hasField c d hf] at he
    cases ho : (p.resolve c field i).1 with
    | bound value =>
      simp only [ho] at he
      cases hr : (d.assign field value s).2 with
      | none => simp [hr, Result.ofAssignment, Binding.problems] at he
      | some fault =>
        rw [hr] at he
        obtain rfl := List.mem_singleton.1 he
        exact ⟨rfl, .inl rfl⟩
    | absent => simp [ho, Binding.problems] at he
    | failed problems =>
      rw [ho] at he
      exact (p.accounts_resolve c field i problems ho).2 e he

private theorem bindOne_recording (field : String) (p : Parameter) (i : Intake) (s : σ) (calls : List Call) :
    bindOne c d.recording field p i (s, calls) =
      ((bindOne c d field p i s).1, (bindOne c d field p i s).2.1,
        (bindOne c d field p i s).2.2, calls ++ (bindOne c d field p i s).1.calls) := by
  cases hf : d.hasField field with
  | false =>
    rw [bindOne_noField c d hf, bindOne_noField c d.recording hf]
    simp [Binding.calls]
  | true =>
    rw [bindOne_hasField c d hf, bindOne_hasField c d.recording hf]
    cases (p.resolve c field i).1 with
    | bound value => simp only [Destination.recording, Binding.calls_ofAssignment]
    | absent => simp [Binding.calls]
    | failed problems => simp [Binding.calls]

theorem bindEach_cons (field : String) (p : Parameter) (rest : List (String × Parameter)) (i : Intake) (s : σ) :
    bindEach c d ((field, p) :: rest) i s =
      let first := bindOne c d field p i s
      let later := bindEach c d rest first.2.1 first.2.2
      (first.1 :: later.1, later.2.1, later.2.2) := rfl

private theorem bindEach_evaluates (parameters : List (String × Parameter)) (i : Intake) (s : σ) :
    Evaluates c d.hasField i parameters (bindEach c d parameters i s).1 (bindEach c d parameters i s).2.1 := by
  induction parameters generalizing i s with
  | nil => exact .done i
  | cons declaration rest ih =>
    obtain ⟨field, p⟩ := declaration
    rw [bindEach_cons]
    cases hf : d.hasField field with
    | false =>
      rw [bindOne_noField c d hf]
      exact .noField hf (ih ..)
    | true =>
      rw [bindOne_hasField c d hf]
      cases ho : (p.resolve c field i).1 with
      | bound value =>
        refine .resolved hf ?_ (ih ..)
        rw [ho]
        cases (d.assign field value s).2 with
        | none => exact .bound value
        | some fault => exact .refused value fault
      | absent => exact .resolved hf (ho ▸ .absent) (ih ..)
      | failed problems => exact .resolved hf (ho ▸ .failed problems) (ih ..)

theorem bindEach_declarations (parameters : List (String × Parameter)) (i : Intake) (s : σ) :
    (bindEach c d parameters i s).1.map (fun x => (x.field, x.parameter)) = parameters := by
  induction parameters generalizing i s with
  | nil => rfl
  | cons declaration rest ih =>
    obtain ⟨field, p⟩ := declaration
    obtain ⟨hf, hp⟩ := bindOne_binding c d field p i s
    rw [bindEach_cons]
    simp only [List.map_cons, hf, hp, ih]

private theorem bindEach_settled (parameters : List (String × Parameter)) (i : Intake) (s : σ) {x : Binding}
    (hx : x ∈ (bindEach c d parameters i s).1) : x.Settled ∧ ∀ e ∈ x.problems, e.Concerns x.parameter := by
  induction parameters generalizing i s with
  | nil => simp [bindEach] at hx
  | cons declaration rest ih =>
    obtain ⟨field, p⟩ := declaration
    rw [bindEach_cons] at hx
    rcases List.mem_cons.1 hx with rfl | hx
    · refine ⟨bindOne_settled .., ?_⟩
      rw [(bindOne_binding c d field p i s).2]
      intro e he
      exact bindOne_concerns c d field p i s he
    · exact ih _ _ hx

private theorem bindEach_recording (parameters : List (String × Parameter)) (i : Intake) (s : σ) (calls : List Call) :
    bindEach c d.recording parameters i (s, calls) =
      ((bindEach c d parameters i s).1, (bindEach c d parameters i s).2.1,
        (bindEach c d parameters i s).2.2, calls ++ (bindEach c d parameters i s).1.flatMap Binding.calls) := by
  induction parameters generalizing i s calls with
  | nil => simp [bindEach]
  | cons declaration rest ih =>
    obtain ⟨field, p⟩ := declaration
    rw [bindEach_cons, bindEach_cons, bindOne_recording]
    simp only [ih, List.flatMap_cons, List.append_assoc]

/-- A map holds the value of each parameter that came to one, and keeps the other fields. -/
private theorem bindEach_isMap {m : Destination (List (String × Value))} (hm : m.IsMap)
    (parameters : List (String × Parameter))
    (hd : (parameters.map Prod.fst).Nodup) (i : Intake) (s : List (String × Value)) (field : String) (value : Value) :
    Entries.get? field (bindEach c m parameters i s).2.2 = some value ↔
      (∃ x ∈ (bindEach c m parameters i s).1, x.field = field ∧ x.result = .bound value) ∨
        (∀ x ∈ (bindEach c m parameters i s).1, x.field = field → ∀ found, x.result ≠ .bound found) ∧
          Entries.get? field s = some value := by
  induction parameters generalizing i s with
  | nil => simp [bindEach]
  | cons declaration rest ih =>
    obtain ⟨own, p⟩ := declaration
    rw [List.map_cons, List.nodup_cons] at hd
    have hlater (i : Intake) (s : List (String × Value)) : ∀ x ∈ (bindEach c m rest i s).1, x.field ≠ own := by
      rintro x hx rfl
      apply hd.1
      rw [← bindEach_declarations c m rest i s, List.map_map]
      exact List.mem_map.2 ⟨x, hx, rfl⟩
    rw [bindEach_cons, bindOne_hasField c m (hm.hasField own)]
    cases (p.resolve c own i).1 with
    | bound found =>
      simp only [hm.accepts, Result.ofAssignment, ih hd.2, hm.get?_assign, List.mem_cons, exists_eq_or_imp,
        forall_eq_or_imp]
      have hx := hlater (p.resolve c own i).2 (m.assign own found s).1
      by_cases he : own = field
      · subst he
        have hnone : ¬ ∃ x ∈ (bindEach c m rest (p.resolve c own i).2 (m.assign own found s).1).1,
            x.field = own ∧ x.result = .bound value := fun ⟨x, hm, hf, _⟩ => hx x hm hf
        have hall : ∀ x ∈ (bindEach c m rest (p.resolve c own i).2 (m.assign own found s).1).1,
            x.field = own → ∀ found, x.result ≠ .bound found := fun x hm hf => absurd hf (hx x hm)
        simp only [hnone, false_or, and_iff_right hall, if_true]
        simp
      · simp [he, Ne.symm he]
    | absent => simp [ih hd.2]
    | failed problems => simp [ih hd.2]

variable (b : Binder) (r : Request) (route : Route) (consumer : Consumer)

theorem bind_declarations (s : σ) :
    (b.bind r route consumer d s).bindings.map (fun x => (x.field, x.parameter)) = b.parameters :=
  bindEach_declarations ..

/-- What is bound was declared. -/
theorem declared_of_mem (s : σ) {x : Binding} (hx : x ∈ (b.bind r route consumer d s).bindings) :
    (x.field, x.parameter) ∈ b.parameters := by
  rw [← bind_declarations d b r route consumer s]
  exact List.mem_map.2 ⟨x, hx, rfl⟩

/-- The record of a binding: the calls of each parameter in turn, beside what the binding comes to without it. -/
theorem bind_recording (s : σ) :
    b.bind r route consumer d.recording (s, []) =
      ⟨(b.bind r route consumer d s).bindings, (b.bind r route consumer d s).request,
        (b.bind r route consumer d s).destination, (b.bind r route consumer d s).bindings.flatMap Binding.calls⟩ := by
  simp only [bind, bindEach_recording, List.nil_append]

theorem bind_settled (s : σ) {x : Binding} (hx : x ∈ (b.bind r route consumer d s).bindings) :
    x.Settled ∧ ∀ e ∈ x.problems, e.Concerns x.parameter :=
  bindEach_settled _ _ _ _ _ hx

private theorem bind_fields_nodup (s : σ) : ((b.bind r route consumer d s).bindings.map Binding.field).Nodup := by
  have h := b.fields_nodup
  rw [← bind_declarations d b r route consumer s, List.map_map] at h
  exact h

theorem bind_isMap {m : Destination (List (String × Value))} (hm : m.IsMap) (field : String) (value : Value) :
    Entries.get? field (b.bind r route consumer m []).destination = some value ↔
      ∃ x ∈ (b.bind r route consumer m []).bindings, x.field = field ∧ x.result = .bound value := by
  have h := bindEach_isMap ⟨route, consumer, b.limits, b.bodyField?⟩ hm b.parameters b.fields_nodup (.ofRequest r) []
    field value
  simp only [Entries.get?_nil, reduceCtorEq, and_false, or_false] at h
  exact h

private theorem bind_has_iff {m : Destination (List (String × Value))} (hm : m.IsMap) (field : String) :
    Entries.has field (b.bind r route consumer m []).destination = true ↔
      ∃ x ∈ (b.bind r route consumer m []).bindings, x.field = field ∧ x.result ≠ .absent ∧ x.problems = [] := by
  rw [Entries.has, Option.isSome_iff_exists]
  simp only [bind_isMap b r route consumer hm]
  constructor
  · rintro ⟨value, x, hx, hf, hr⟩
    exact ⟨x, hx, hf, ((bind_settled m b r route consumer [] hx).1.bound_iff).2 ⟨value, hr⟩⟩
  · rintro ⟨x, hx, hf, hp⟩
    obtain ⟨value, hr⟩ := ((bind_settled m b r route consumer [] hx).1.bound_iff).1 hp
    exact ⟨value, x, hx, hf, hr⟩

/-- Binding evaluates every declared parameter once, in the order of declaration and whatever came of those before
it. The problems are those of each parameter in turn, and the destination meets the calls of each in turn: one
that it accepts, one that it refuses and that is reported, or none. A map in the end has the fields of those
parameters that are neither absent nor in error, and a problem bears the location of its parameter and its name. -/
theorem bind_settles_each_parameter {σ : Type} (b : Binder) (r : Request) (route : Route) (consumer : Consumer)
    (d : Destination σ) (s : σ) :
    let after := b.bind r route consumer d s
    (∃ i, Evaluates ⟨route, consumer, b.limits, b.bodyField?⟩ d.hasField (.ofRequest r) b.parameters after.bindings i ∧
      i.request = after.request) ∧
    after.bindings.map (fun x => (x.field, x.parameter)) = b.parameters ∧
    after.report.problems = after.bindings.flatMap Binding.problems ∧
    (b.bind r route consumer d.recording (s, [])).bindings = after.bindings ∧
    (b.bind r route consumer d.recording (s, [])).destination =
      (after.destination, after.bindings.flatMap Binding.calls) ∧
    (∀ x ∈ after.bindings, x.Settled ∧ ∀ e ∈ x.problems, e.Concerns x.parameter) ∧
    ∀ m : Destination (List (String × Value)), m.IsMap →
      let filled := b.bind r route consumer m []
      (∀ field, Entries.has field filled.destination = true ↔
        ∃ x ∈ filled.bindings, x.field = field ∧ x.result ≠ .absent ∧ x.problems = []) ∧
      ∀ x ∈ filled.bindings, Entries.has x.field filled.destination = true → x.problems = [] := by
  rw [bind_recording]
  refine ⟨⟨_, bindEach_evaluates .., rfl⟩, bind_declarations .., rfl, rfl, rfl,
    fun x hx => bind_settled d b r route consumer s hx, fun m hm => ⟨?_, ?_⟩⟩
  · exact bind_has_iff b r route consumer hm
  · intro x hx hhas
    obtain ⟨y, hy, hf, -, hp⟩ := (bind_has_iff b r route consumer hm x.field).1 hhas
    rwa [List.inj_on_of_nodup_map (bind_fields_nodup m b r route consumer []) hy hx hf] at hp

end Binder
end RequestBinding
