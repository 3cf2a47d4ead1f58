import RequestBinding.Coercion.Basic
import RequestBinding.Proofs.Except
import RequestBinding.Proofs.Schema.Basic
import Mathlib.Data.List.Forall2

/-! The cases of coercion. A success says what every part of the value was read from; a failure names at least
one place. -/

namespace RequestBinding

namespace Coercion

variable {α β : Type}

theorem atPlace_eq_ok {result : Except Cause α} {a : α} : atPlace result = .ok a ↔ result = .ok a :=
  mapError_eq_ok

private theorem within_eq_ok {step : Step} {result : Except (List Failure) α} {a : α} :
    within step result = .ok a ↔ result = .ok a :=
  mapError_eq_ok

private theorem both_eq_ok {first : Except (List Failure) α} {second : Except (List Failure) β} {a : α} {b : β} :
    both first second = .ok (a, b) ↔ first = .ok a ∧ second = .ok b := by
  cases first <;> cases second <;> simp [both]

/-- Items are read one by one, each into the value in its place. -/
theorem each_eq_ok {read : Input → Except (List Failure) α} {index : Nat} {inputs : List Input} {values : List α} :
    each read index inputs = .ok values ↔ List.Forall₂ (fun input value => read input = .ok value) inputs values := by
  induction inputs generalizing index values with
  | nil => cases values <;> simp [each]
  | cons input rest ih =>
    rw [each, map_eq_ok]
    constructor
    · rintro ⟨⟨a, b⟩, h, rfl⟩
      obtain ⟨ha, hb⟩ := both_eq_ok.1 h
      exact .cons (within_eq_ok.1 ha) (ih.1 hb)
    · rintro (_ | ⟨ha, hb⟩)
      exact ⟨(_, _), both_eq_ok.2 ⟨within_eq_ok.2 ha, ih.2 hb⟩, rfl⟩

section Inputs

/-- The items of an array, or those that a text stands for. -/
def Input.items? (format : CollectionFormat) : Input → Option (List Input)
  | .json (.array items) => some (items.map .json)
  | .text t | .json (.string t) => some ((format.inOneText.split [t]).map .text)
  | .json _ => none

/-- The members of an object, or of the one that a text stands for. -/
def Input.members? : Input → Option (List (String × Json))
  | .json (.object members) => some members
  | .text t | .json (.string t) =>
    match unwrap t with
    | .ok (.object members) => some members
    | _ => none
  | .json _ => none

variable {format : CollectionFormat} {label : String} {input : Input}

theorem toOption_itemsOf (label : String) : (itemsOf format label input).toOption = input.items? format := by
  cases input with
  | text t => rfl
  | json value => cases value <;> rfl

private theorem itemsOf_eq_ok_iff {inputs : List Input} :
    itemsOf format label input = .ok inputs ↔ input.items? format = some inputs := by
  rw [← toOption_itemsOf label, toOption_eq_some]

theorem toOption_membersOf (label : String) : (membersOf label input).toOption = input.members? := by
  have htext (t : String) : (membersOf label (.text t)).toOption = Input.members? (.text t) := by
    simp only [membersOf, Input.members?]
    cases unwrap t with
    | error message => rfl
    | ok value => cases value <;> rfl
  cases input with
  | text t => exact htext t
  | json value =>
    cases value with
    | string t => exact htext t
    | _ => rfl

private theorem membersOf_eq_ok_iff {members : List (String × Json)} :
    membersOf label input = .ok members ↔ input.members? = some members := by
  rw [← toOption_membersOf label, toOption_eq_some]

variable {name : String} {members : List (String × Json)}

theorem present?_eq_some_iff {value : Json} :
    present? name members = some value ↔ Entries.get? name members = some value ∧ value ≠ .null := by
  unfold present?
  split
  · next hnull => simp [hnull, eq_comm]
  · next hother =>
    constructor
    · intro h
      exact ⟨h, fun hv => hother (hv ▸ h)⟩
    · exact fun h => h.1

theorem present?_eq_none_iff :
    present? name members = none ↔ ∀ value, Entries.get? name members = some value → value = .null := by
  simp only [Option.eq_none_iff_forall_ne_some, ne_eq, present?_eq_some_iff, not_and, not_not]

end Inputs

/-- What declared properties come to: each one that is there and not null to a value, in the order of declaration, and
no other one is required. -/
inductive Declared (required : List String) (members : List (String × Json)) :
    List (String × Schema) → List (String × Value) → Prop
  | nil : Declared required members [] []
  | present {name schema rest value found later} : Entries.get? name members = some value → value ≠ .null →
      coerce (.json value) schema = .ok found → Declared required members rest later →
      Declared required members ((name, schema) :: rest) ((name, found) :: later)
  | absent {name schema rest later} : (∀ value, Entries.get? name members = some value → value = .null) →
      name ∉ required → Declared required members rest later →
      Declared required members ((name, schema) :: rest) later

private theorem coerceProperties_eq_ok {required : List String} {members : List (String × Json)}
    {properties : List (String × Schema)} {declared : List (String × Value)} :
    coerceProperties required members properties = .ok declared ↔ Declared required members properties declared := by
  induction properties generalizing declared with
  | nil =>
    rw [coerceProperties, Except.ok.injEq]
    constructor
    · rintro rfl
      exact .nil
    · rintro ⟨⟩
      rfl
  | cons property rest ih =>
    obtain ⟨name, schema⟩ := property
    rw [coerceProperties]
    constructor
    · intro h
      split at h
      · next value hp =>
        obtain ⟨⟨a, b⟩, hboth, rfl⟩ := map_eq_ok.1 h
        obtain ⟨ha, hb⟩ := both_eq_ok.1 hboth
        obtain ⟨hget, hnull⟩ := present?_eq_some_iff.1 hp
        exact .present hget hnull (within_eq_ok.1 ha) (ih.1 hb)
      · next hp =>
        split at h
        · obtain ⟨⟨a, b⟩, hboth, rfl⟩ := map_eq_ok.1 h
          exact absurd (within_eq_ok.1 (both_eq_ok.1 hboth).1) (by simp)
        · next hr => exact .absent (present?_eq_none_iff.1 hp) (by simpa using hr) (ih.1 h)
    · rintro (_ | ⟨hget, hnull, ha, hb⟩ | ⟨hp, hr, hb⟩)
      · simp only [present?_eq_some_iff.2 ⟨hget, hnull⟩]
        exact map_eq_ok.2 ⟨(_, _), both_eq_ok.2 ⟨within_eq_ok.2 ha, ih.2 hb⟩, rfl⟩
      · simp only [present?_eq_none_iff.2 hp]
        rw [if_neg (by simpa using hr)]
        exact ih.2 hb

namespace Declared

variable {required : List String} {members : List (String × Json)} {properties : List (String × Schema)}
  {declared : List (String × Value)} {name : String}

/-- Only names of properties are among the declared ones, in the order of the properties. -/
theorem sublist (h : Declared required members properties declared) :
    (declared.map Prod.fst).Sublist (properties.map Prod.fst) := by
  induction h with
  | nil => exact .slnil
  | present _ _ _ _ ih => exact ih.cons_cons _
  | absent _ _ _ ih => exact ih.cons _

/-- A property that is there and not null has the value read under its schema. -/
theorem get?_present (h : Declared required members properties declared) {schema : Schema} {value : Json}
    (hs : Entries.get? name properties = some schema) (hget : Entries.get? name members = some value)
    (hnull : value ≠ .null) : ∃ found, Entries.get? name declared = some found ∧ coerce (.json value) schema = .ok found := by
  induction h with
  | nil => cases hs
  | present hown _ hc _ ih =>
    rw [Entries.get?_cons] at hs
    split at hs
    · next he =>
      subst he
      obtain rfl := Option.some.inj hs
      obtain rfl := Option.some.inj (hown.symm.trans hget)
      exact ⟨_, by simp, hc⟩
    · next hne => simpa [Entries.get?_cons, hne] using ih hs
  | absent hown _ _ ih =>
    rw [Entries.get?_cons] at hs
    split at hs
    · next he =>
      subst he
      exact absurd (hown value hget) hnull
    · exact ih hs

/-- Any other property has no value. -/
theorem get?_absent (h : Declared required members properties declared)
    (hp : ∀ value, Entries.get? name members = some value → value = .null) : Entries.get? name declared = none := by
  induction h with
  | nil => rfl
  | present hown hnull _ _ ih =>
    rw [Entries.get?_cons, if_neg]
    · exact ih
    · rintro rfl
      exact hnull (hp _ hown)
  | absent _ _ _ ih => exact ih

/-- A property that is required is there and not null. -/
theorem present_of_required (h : Declared required members properties declared) (hr : name ∈ required)
    (hs : name ∈ properties.map Prod.fst) : ∃ value, Entries.get? name members = some value ∧ value ≠ .null := by
  induction h with
  | nil => simp at hs
  | present hown hnull _ _ ih =>
    rcases List.mem_cons.1 hs with rfl | hs
    · exact ⟨_, hown, hnull⟩
    · exact ih hs
  | absent _ hnot _ ih =>
    rcases List.mem_cons.1 hs with rfl | hs
    · exact absurd hr hnot
    · exact ih hs

end Declared

/-- What stands behind the declared properties of an object: every member that no property declares, as it is and in
its place among the others. -/
inductive Undeclared (properties : List (String × Schema)) : List (String × Json) → List (String × Value) → Prop
  | nil : Undeclared properties [] []
  | kept {name value members rest} : name ∉ properties.map Prod.fst → Undeclared properties members rest →
      Undeclared properties ((name, value) :: members) ((name, .json value) :: rest)
  | passed {name value members rest} : name ∈ properties.map Prod.fst → Undeclared properties members rest →
      Undeclared properties ((name, value) :: members) rest

theorem undeclared_iff {properties : List (String × Schema)} {members : List (String × Json)}
    {rest : List (String × Value)} : Undeclared properties members rest ↔ undeclared properties members = rest := by
  have hcons (name : String) (value : Json) (members : List (String × Json)) :
      undeclared properties ((name, value) :: members) = if name ∈ properties.map Prod.fst then
        undeclared properties members else (name, .json value) :: undeclared properties members := by
    simp only [undeclared, List.filter_cons, Bool.not_eq_true', ← Bool.not_eq_true, Entries.has_iff]
    by_cases hname : name ∈ properties.map Prod.fst <;> simp [hname]
  constructor
  · intro h
    induction h with
    | nil => rfl
    | kept hname _ ih => rw [hcons, if_neg hname, ih]
    | passed hname _ ih => rw [hcons, if_pos hname, ih]
  · rintro rfl
    induction members with
    | nil => exact .nil
    | cons member members ih =>
      obtain ⟨name, value⟩ := member
      rw [hcons]
      split
      · next hname => exact .passed hname ih
      · next hname => exact .kept hname ih

theorem get?_undeclared (properties : List (String × Schema)) (members : List (String × Json)) (name : String) :
    Entries.get? name (undeclared properties members) =
      if Entries.has name properties then none else (Entries.get? name members).map .json := by
  rw [undeclared, Entries.get?_map Value.json, Entries.get?_filter fun own => !Entries.has own properties]
  cases Entries.has name properties <;> simp

/-- What a schema reads in an input, one case for each form of schema. -/
inductive Reads (input : Input) (s : Schema) : Value → Prop
  | scalar {value} : s.type ≠ .array → s.type ≠ .object → Coercion.scalar s.type s.format input = .ok value →
      Reads input s value
  | array {inputs values} : s.type = .array → input.items? s.collectionFormat = some inputs →
      List.Forall₂ (fun input value => coerce input s.itemSchema = .ok value) inputs values →
      Reads input s (.array values)
  | json {members} : s.type = .object → s.properties = [] → input.members? = some members →
      Reads input s (.json (.object members))
  | object {members declared rest} : s.type = .object → s.properties ≠ [] → input.members? = some members →
      Declared s.required members s.properties declared → Undeclared s.properties members rest →
      Reads input s (.object (declared ++ rest))

theorem coerce_scalar {s : Schema} (ha : s.type ≠ .array) (ho : s.type ≠ .object) (input : Input) :
    coerce input s = atPlace (scalar s.type s.format input) := by
  obtain ⟨type, format, collectionFormat, items, properties, required⟩ := s
  cases type <;> simp_all [coerce]

theorem coerceItems_eq (inputs : List Input) (items : Option Schema) :
    coerceItems inputs items = each (fun input => coerce input (items.getD .string)) 0 inputs := by
  cases items with
  | none =>
    have hs (input : Input) : coerce input .string = atPlace (scalar .string none input) :=
      coerce_scalar (by simp [Schema.string, Schema.ofType]) (by simp [Schema.string, Schema.ofType]) input
    simp only [coerceItems, Option.getD_none, hs]
  | some schema => simp only [coerceItems, Option.getD_some]

theorem coerce_array {s : Schema} (h : s.type = .array) (input : Input) :
    coerce input s = match itemsOf s.collectionFormat s.label input with
      | .error cause => .error [.here cause]
      | .ok inputs => (each (fun input => coerce input s.itemSchema) 0 inputs).map .array := by
  obtain ⟨type, format, collectionFormat, items, properties, required⟩ := s
  obtain rfl : type = .array := h
  simp only [coerce, coerceItems_eq, Schema.itemSchema]
  rfl

theorem coerce_object {s : Schema} (h : s.type = .object) (input : Input) :
    coerce input s = match membersOf s.label input with
      | .error cause => .error [.here cause]
      | .ok members =>
        if s.properties = [] then .ok (.json (.object members))
        else (coerceProperties s.required members s.properties).map fun declared =>
          .object (declared ++ undeclared s.properties members) := by
  obtain ⟨type, format, collectionFormat, items, properties, required⟩ := s
  obtain rfl : type = .object := h
  simp only [coerce, List.isEmpty_iff]
  rfl

theorem coerce_eq_ok {input : Input} {s : Schema} {value : Value} :
    coerce input s = .ok value ↔ Reads input s value := by
  constructor
  · intro h
    by_cases ha : s.type = .array
    · rw [coerce_array ha] at h
      split at h
      · cases h
      · next inputs hi =>
        obtain ⟨values, hv, rfl⟩ := map_eq_ok.1 h
        exact .array ha (itemsOf_eq_ok_iff.1 hi) (each_eq_ok.1 hv)
    · by_cases ho : s.type = .object
      · rw [coerce_object ho] at h
        split at h
        · cases h
        · next members hm =>
          split at h
          · next hp =>
            cases h
            exact .json ho hp (membersOf_eq_ok_iff.1 hm)
          · next hp =>
            obtain ⟨declared, hd, rfl⟩ := map_eq_ok.1 h
            exact .object ho hp (membersOf_eq_ok_iff.1 hm) (coerceProperties_eq_ok.1 hd) (undeclared_iff.2 rfl)
      · rw [coerce_scalar ha ho] at h
        exact .scalar ha ho (atPlace_eq_ok.1 h)
  · intro h
    cases h with
    | scalar ha ho h => rw [coerce_scalar ha ho, atPlace_eq_ok.2 h]
    | array ha hi hv =>
      rw [coerce_array ha, itemsOf_eq_ok_iff.2 hi]
      exact map_eq_ok.2 ⟨_, each_eq_ok.2 hv, rfl⟩
    | json ho hp hm =>
      rw [coerce_object ho, membersOf_eq_ok_iff.2 hm]
      exact if_pos hp
    | object ho hp hm hd hrest =>
      obtain rfl := undeclared_iff.1 hrest
      rw [coerce_object ho, membersOf_eq_ok_iff.2 hm]
      simp only [if_neg hp]
      exact map_eq_ok.2 ⟨_, coerceProperties_eq_ok.2 hd, rfl⟩

/-- A failure comes with at least one place that fails. -/
def Explained (result : Except (List Failure) α) : Prop := ∀ failures, result = .error failures → failures ≠ []

theorem Explained.ok (a : α) : Explained (.ok a) := by
  rintro failures ⟨⟩

theorem Explained.atPlace (result : Except Cause α) : Explained (atPlace result) := by
  rintro failures h rfl
  cases result with
  | ok a => cases h
  | error cause => cases h

theorem Explained.map {result : Except (List Failure) α} (f : α → β) (h : Explained result) :
    Explained (result.map f) := by
  cases result with
  | ok a => exact .ok (f a)
  | error failures =>
    rintro _ ⟨⟩
    exact h failures rfl

theorem Explained.within {result : Except (List Failure) α} (step : Step) (h : Explained result) :
    Explained (within step result) := by
  cases result with
  | ok a => exact .ok a
  | error failures =>
    rintro _ ⟨⟩
    simpa using h failures rfl

theorem Explained.both {first : Except (List Failure) α} {second : Except (List Failure) β}
    (hf : Explained first) (hs : Explained second) : Explained (both first second) := by
  cases first with
  | ok a =>
    cases second with
    | ok b => exact .ok (a, b)
    | error more =>
      rintro _ ⟨⟩
      exact hs more rfl
  | error failures =>
    cases second with
    | ok b =>
      rintro _ ⟨⟩
      exact hf failures rfl
    | error more =>
      rintro _ ⟨⟩
      simp [hf failures rfl]

theorem Explained.each {read : Input → Except (List Failure) α} (h : ∀ input, Explained (read input)) (index : Nat)
    (inputs : List Input) : Explained (each read index inputs) := by
  induction inputs generalizing index with
  | nil => exact .ok []
  | cons input rest ih => exact (((h input).within _).both (ih (index + 1))).map _

theorem Explained.properties {properties : List (String × Schema)} (required : List String)
    (members : List (String × Json)) (h : ∀ entry ∈ properties, ∀ input, Explained (coerce input entry.2)) :
    Explained (coerceProperties required members properties) := by
  induction properties with
  | nil =>
    rw [coerceProperties]
    exact .ok []
  | cons property rest ih =>
    obtain ⟨name, schema⟩ := property
    have hrest := ih fun entry hm => h entry (List.mem_cons_of_mem _ hm)
    rw [coerceProperties]
    split
    · exact (((h _ (List.mem_cons_self ..) _).within _).both hrest).map _
    · split
      · exact ((Explained.within _ (.atPlace (.error .missing))).both hrest).map _
      · exact hrest

/-- Coercion never fails without naming a place. -/
theorem Explained.coerce (input : Input) (s : Schema) : Explained (coerce input s) := by
  induction s using Schema.itemInduction generalizing input with
  | scalar s ha ho =>
    rw [coerce_scalar ha ho]
    exact .atPlace _
  | array s ha ih =>
    rw [coerce_array ha]
    split
    · exact .atPlace (.error _)
    · exact (Explained.each ih 0 _).map _
  | object s ho ih =>
    rw [coerce_object ho]
    split
    · exact .atPlace (.error _)
    · split
      · exact .ok _
      · exact (Explained.properties _ _ fun entry hm input => ih entry hm input).map _

end Coercion
end RequestBinding
