import RequestBinding.Proofs.Coercion.Walk

/-! Required properties. Coercion comes to every value that a schema has a say in, and a property that is declared,
required and absent there is reported as missing; no other one is. -/

namespace RequestBinding.Coercion

/-- An input meets a schema within another one, at the end of some steps through its items and declared properties. -/
inductive Meets : Input → Schema → List Step → Input → Schema → Prop
  | here (input : Input) (s : Schema) : Meets input s [] input s
  | item {input inner : Input} {s t : Schema} {inputs : List Input} {index : Nat} {item : Input} {steps : List Step} :
      s.type = .array → input.items? s.collectionFormat = some inputs → inputs[index]? = some item →
      Meets item s.itemSchema steps inner t → Meets input s (.item index :: steps) inner t
  | property {input inner : Input} {s t : Schema} {members : List (String × Json)} {property : String × Schema}
      {value : Json} {steps : List Step} :
      s.type = .object → input.members? = some members → property ∈ s.properties →
      Entries.get? property.1 members = some value → value ≠ .null → Meets (.json value) property.2 steps inner t →
      Meets input s (.property property.1 :: steps) inner t

/-- A property of an object that its schema declares and requires, and that is absent or null. -/
def Lacks (input : Input) (s : Schema) (name : String) : Prop :=
  s.type = .object ∧ ∃ members, input.members? = some members ∧ name ∈ s.properties.map Prod.fst ∧
    name ∈ s.required ∧ ∀ value, Entries.get? name members = some value → value = .null

section Walks

variable {input inner : Input} {s t : Schema} {steps : List Step}

private theorem mem_walk_item (ha : s.type = .array) {inputs : List Input}
    (hi : input.items? s.collectionFormat = some inputs)
    {index : Nat} {item : Input} (hindex : inputs[index]? = some item) {p : Position} (hp : p ∈ walk item s.itemSchema) :
    p.within (.item index) ∈ walk input s := by
  rw [walk_array ha, hi]
  refine List.mem_cons_of_mem _ (List.mem_flatMap.2 ⟨(item, index), ?_, List.mem_map_of_mem hp⟩)
  exact List.mem_zipIdx_iff_getElem?.2 hindex

private theorem mem_walk_property (ho : s.type = .object) {members : List (String × Json)}
    (hm : input.members? = some members) {property : String × Schema} (hs : property ∈ s.properties) {p : Position}
    (hp : p ∈ walkProperty s.required members property) : p.within (.property property.1) ∈ walk input s := by
  rw [walk_object ho, hm]
  exact List.mem_cons_of_mem _ (List.mem_flatMap.2 ⟨property, hs, List.mem_map_of_mem hp⟩)

private theorem Meets.mem_walk (h : Meets input s steps inner t) {p : Position} (hp : p ∈ walk inner t) :
    { p with steps := steps ++ p.steps } ∈ walk input s := by
  induction h with
  | here => exact hp
  | item ha hi hindex _ ih => exact mem_walk_item ha hi hindex (ih hp)
  | @property input inner s t members property value steps ho hm hs hget hnull _ ih =>
    have hwalk : walkProperty s.required members property = walk (.json value) property.2 := by
      rw [walkProperty_eq, present?_eq_some_iff.2 ⟨hget, hnull⟩]
    exact mem_walk_property ho hm hs (hwalk ▸ ih hp)

private theorem Lacks.mem_walk {name : String} (h : Lacks input s name) : ⟨[.property name], none⟩ ∈ walk input s := by
  obtain ⟨ho, members, hm, hname, hr, habsent⟩ := h
  obtain ⟨property, hs, rfl⟩ := List.mem_map.1 hname
  have hlacking : Position.lacking ∈ walkProperty s.required members property := by
    rw [walkProperty_eq, present?_eq_none_iff.2 habsent]
    simp [hr]
  exact mem_walk_property ho hm hs hlacking

/-- Where the walk has a position with nothing at it, a property is lacking. -/
private theorem lacks_of_mem_walk {p : Position} (hp : p ∈ walk input s) (hnone : p.found = none) :
    ∃ steps name inner t, p.steps = steps ++ [.property name] ∧ Meets input s steps inner t ∧ Lacks inner t name := by
  induction s using Schema.itemInduction generalizing input p with
  | scalar s ha ho =>
    rw [walk_scalar ha ho] at hp
    obtain rfl := List.mem_singleton.1 hp
    cases hnone
  | array s ha ih =>
    rw [walk_array ha] at hp
    rcases List.mem_cons.1 hp with rfl | hp
    · cases hnone
    · split at hp
      · cases hp
      · next inputs hi =>
        obtain ⟨⟨item, index⟩, hitem, hp⟩ := List.mem_flatMap.1 hp
        obtain ⟨q, hq, rfl⟩ := List.mem_map.1 hp
        obtain ⟨steps, name, inner, t, hsteps, hmeets, hlacks⟩ := ih hq hnone
        refine ⟨.item index :: steps, name, inner, t, congrArg (Step.item index :: ·) hsteps, ?_, hlacks⟩
        exact .item ha hi (List.mem_zipIdx_iff_getElem?.1 hitem) hmeets
  | object s ho ih =>
    rw [walk_object ho] at hp
    rcases List.mem_cons.1 hp with rfl | hp
    · cases hnone
    · split at hp
      · cases hp
      · next members hm =>
        obtain ⟨property, hs, hp⟩ := List.mem_flatMap.1 hp
        obtain ⟨q, hq, rfl⟩ := List.mem_map.1 hp
        rw [walkProperty_eq] at hq
        split at hq
        · next value hpresent =>
          obtain ⟨steps, name, inner, t, hsteps, hmeets, hlacks⟩ := ih property hs hq hnone
          refine ⟨.property property.1 :: steps, name, inner, t, congrArg (Step.property property.1 :: ·) hsteps, ?_, hlacks⟩
          obtain ⟨hget, hnull⟩ := present?_eq_some_iff.1 hpresent
          exact .property ho hm hs hget hnull hmeets
        · next habsent =>
          split at hq
          · next hr =>
            obtain rfl := List.mem_singleton.1 hq
            exact ⟨[], property.1, input, s, rfl, .here input s, ho, members, hm, List.mem_map_of_mem hs, hr,
              present?_eq_none_iff.1 habsent⟩
          · cases hq

private theorem mem_walk_lacking_iff {name : String} :
    ⟨steps ++ [.property name], none⟩ ∈ walk input s ↔ ∃ inner t, Meets input s steps inner t ∧ Lacks inner t name := by
  constructor
  · intro hp
    obtain ⟨steps', name', inner, t, hsteps, hmeets, hlacks⟩ := lacks_of_mem_walk hp rfl
    obtain ⟨rfl, hlast⟩ := List.append_inj' hsteps rfl
    obtain rfl : name = name' := by simpa using hlast
    exact ⟨inner, t, hmeets, hlacks⟩
  · rintro ⟨inner, t, hmeets, hlacks⟩
    exact hmeets.mem_walk hlacks.mem_walk

end Walks

section Failures

variable {input : Input} {s : Schema} {steps : List Step} {name : String}

private theorem pathOf_property (steps : List Step) (name : String) :
    Failure.pathOf (steps ++ [.property name]) =
      if name = "" then Failure.pathOf steps else ".".intercalate (steps.map Step.segment ++ [name]) := by
  rw [pathOf_eq_intercalate, List.map_append, List.map_singleton, Step.segment]
  split
  · next he =>
    rw [List.rdropWhile_concat_pos _ _ _ (by simpa using he), pathOf_eq_intercalate]
  · next hne => rw [List.rdropWhile_concat_neg _ _ _ (by simpa using hne)]

private theorem missing_of_reported {f : Failure} (hf : f ∈ reported (coerce input s))
    (hk : f.kind = .missingRequired) :
    ⟨f.steps, none⟩ ∈ walk input s := by
  rw [reported_coerce] at hf
  obtain ⟨p, hp, hf⟩ := List.mem_filterMap.1 hf
  have hreports := Position.reports_of_failure? hf
  have hfound : p.found = none := by
    have hkind := hreports.kind
    rw [hk] at hkind
    split at hkind
    · next hnone => exact Option.isNone_iff_eq_none.1 hnone
    · split at hkind <;> cases hkind
  rw [hreports.steps, ← hfound]
  exact hp

private theorem reported_of_missing (hp : ⟨steps, none⟩ ∈ walk input s) :
    .along steps .missing ∈ reported (coerce input s) := by
  rw [reported_coerce]
  exact List.mem_filterMap.2 ⟨_, hp, rfl⟩

private theorem reported_iff {α : Type} {result : Except (List Failure) α} {f : Failure} :
    f ∈ reported result ↔ ∃ failures, result = .error failures ∧ f ∈ failures := by
  cases result with
  | ok a => simp [reported]
  | error failures => simp [reported]

/-- Required properties are enforced where they are declared. Wherever an object of a schema is met, coercion fails for
a property that is declared, required and absent or null there, and says that it is missing, with its name behind the
path of the object. It says so of no other property. -/
theorem coerce_reports_missing_iff (s : Schema) (input : Input) (steps : List Step) (name : String) :
    (∃ failures f, coerce input s = .error failures ∧ f ∈ failures ∧ f.kind = .missingRequired ∧
        f.steps = steps ++ [.property name] ∧
        f.path = if name = "" then Failure.pathOf steps else ".".intercalate (steps.map Step.segment ++ [name])) ↔
      ∃ inner t, Meets input s steps inner t ∧ Lacks inner t name := by
  rw [← mem_walk_lacking_iff]
  constructor
  · rintro ⟨failures, f, h, hf, hk, hsteps, -⟩
    rw [← hsteps]
    exact missing_of_reported (reported_iff.2 ⟨failures, h, hf⟩) hk
  · intro hp
    obtain ⟨failures, h, hf⟩ := reported_iff.1 (reported_of_missing hp)
    refine ⟨failures, _, h, hf, ?_, Failure.steps_along .., ?_⟩
    · rw [Failure.kind_along, if_neg (by simp [Cause.kind])]
      rfl
    · rw [Failure.path_along, pathOf_property]

/-- A name that is required and that no property declares is not enforced, whether other properties are declared or
not. -/
theorem coerce_passes_required_undeclared :
    let s : Schema := { Schema.ofType .object with required := ["id"] }
    let s' : Schema := s.withProperty "age" (.ofType .integer)
    ("id" ∈ s.required ∧ coerce (.json (.object [])) s = .ok (.json (.object []))) ∧
      "id" ∈ s'.required ∧ coerce (.json (.object [])) s' = .ok (.object []) := by
  refine ⟨⟨by decide, ?_⟩, by decide, ?_⟩
  · rw [coerce_object rfl]
    rfl
  · rw [coerce_object rfl]
    rfl

end Failures

end RequestBinding.Coercion
