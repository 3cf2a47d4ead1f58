import RequestBinding.Proofs.Coercion.Cases

/-! Values that conform to a schema, and that coercion gives no others. -/

namespace RequestBinding

/-- The values of a scalar type in a format. Floating-point numbers are finite, and nothing is a scalar of any
other type. -/
def Value.FitsScalar (type : ValueType) (format : Option Format) (value : Value) : Prop :=
  match type, format with
  | .integer, some .int32 => ∃ n, value = .int32 n
  | .integer, _ => ∃ n, value = .int64 n
  | .number, some .float => ∃ x : Single, value = .float x ∧ x.isFinite = true
  | .number, _ => ∃ x : Double, value = .double x ∧ x.isFinite = true
  | .boolean, _ => ∃ b, value = .boolean b
  | .string, some .date => ∃ day, value = .date day
  | .string, some .dateTime => ∃ moment, value = .timestamp moment
  | .string, some .byte => ∃ bytes, value = .bytes bytes
  | .string, _ => ∃ text, value = .string text
  | .file, _ | .array, _ | .object, _ => False

/-- Values that are as a schema has them. An object with declared properties has those that are required, each
declared one that it has is as its own schema has it, and the others are kept as JSON. -/
inductive Value.Conforms : Schema → Value → Prop
  | scalar {s value} : value.FitsScalar s.type s.format → Conforms s value
  | array {s items} : s.type = .array → (∀ item ∈ items, Conforms s.itemSchema item) → Conforms s (.array items)
  | json {s members} : s.type = .object → s.properties = [] → Conforms s (.json (.object members))
  | object {s members} : s.type = .object → s.properties ≠ [] →
      (∀ name ∈ s.required, Entries.has name s.properties = true → Entries.has name members = true) →
      (∀ name schema value, Entries.get? name s.properties = some schema → Entries.get? name members = some value →
        Conforms schema value) →
      (∀ name value, (name, value) ∈ members → Entries.has name s.properties = false → ∃ json, value = .json json) →
      Conforms s (.object members)

namespace Coercion

private theorem finiteOfText_isFinite {p : Precision} {text : String} {x : Binary p} (h : finiteOfText p text = .ok x) :
    x.isFinite = true := by
  unfold finiteOfText at h
  split at h
  · cases h
  · split at h
    · next hx => exact Except.ok.inj h ▸ hx
    · cases h

private theorem integerOfText_fits {format : Option Format} {text : String} {value : Value}
    (h : integerOfText format text = .ok value) : value.FitsScalar .integer format := by
  unfold integerOfText at h
  split at h
  · obtain ⟨n, -, rfl⟩ := map_eq_ok.1 (mapError_eq_ok.1 h)
    exact ⟨n, rfl⟩
  · obtain ⟨n, -, rfl⟩ := map_eq_ok.1 (mapError_eq_ok.1 h)
    simp [Value.FitsScalar]

private theorem numberOfText_fits {format : Option Format} {text : String} {value : Value}
    (h : numberOfText format text = .ok value) : value.FitsScalar .number format := by
  unfold numberOfText at h
  split at h
  · obtain ⟨x, hx, rfl⟩ := map_eq_ok.1 h
    exact ⟨x, rfl, finiteOfText_isFinite hx⟩
  · obtain ⟨x, hx, rfl⟩ := map_eq_ok.1 h
    simp [Value.FitsScalar, finiteOfText_isFinite hx]

private theorem stringOfText_fits {format : Option Format} {text : String} {value : Value}
    (h : stringOfText format text = .ok value) : value.FitsScalar .string format := by
  unfold stringOfText at h
  split at h
  · obtain ⟨day, -, rfl⟩ := map_eq_ok.1 (mapError_eq_ok.1 h)
    exact ⟨day, rfl⟩
  · obtain ⟨moment, -, rfl⟩ := map_eq_ok.1 (mapError_eq_ok.1 h)
    exact ⟨moment, rfl⟩
  · obtain ⟨bytes, -, rfl⟩ := map_eq_ok.1 (mapError_eq_ok.1 h)
    exact ⟨bytes, rfl⟩
  · cases h
    simp [Value.FitsScalar]

private theorem scalarOfText_fits {type : ValueType} {format : Option Format} {text : String} {value : Value}
    (h : scalarOfText type format text = .ok value) : value.FitsScalar type format := by
  unfold scalarOfText at h
  cases type with
  | integer => exact integerOfText_fits (mapError_eq_ok.1 h)
  | number => exact numberOfText_fits (mapError_eq_ok.1 h)
  | boolean =>
    obtain ⟨b, -, rfl⟩ := map_eq_ok.1 (mapError_eq_ok.1 h)
    exact ⟨b, rfl⟩
  | string => exact stringOfText_fits (mapError_eq_ok.1 h)
  | file => cases h
  | array => cases h
  | object => cases h

private theorem integerOfNumber_fits {format : Option Format} {number : Json.Number} {value : Value}
    (h : integerOfNumber format number = .ok value) : value.FitsScalar .integer format := by
  unfold integerOfNumber at h
  split at h
  · cases h
  · split at h
    · cases h
      exact ⟨_, rfl⟩
    · cases h
  · cases h
    simp [Value.FitsScalar]

private theorem decimalOfNumber_fits {format : Option Format} {number : Json.Number} {value : Value}
    (h : decimalOfNumber format number = .ok value) : value.FitsScalar .number format := by
  unfold decimalOfNumber at h
  dsimp only at h
  split at h
  · next hx =>
    split at h
    · split at h
      · next hf =>
        cases h
        exact ⟨_, rfl, hf⟩
      · cases h
    · cases h
      simp [Value.FitsScalar, hx]
  · cases h

private theorem scalarOfJson_fits {type : ValueType} {format : Option Format} {json : Json} {value : Value}
    (h : scalarOfJson type format json = .ok value) : value.FitsScalar type format := by
  unfold scalarOfJson at h
  split at h
  · cases h
  · exact scalarOfText_fits h
  · exact integerOfNumber_fits h
  · exact decimalOfNumber_fits h
  · cases h
    exact ⟨_, rfl⟩
  · cases h

theorem scalar_fits {type : ValueType} {format : Option Format} {input : Input} {value : Value}
    (h : scalar type format input = .ok value) : value.FitsScalar type format := by
  cases input with
  | text t => exact scalarOfText_fits h
  | json v => exact scalarOfJson_fits h

private theorem items_conform {s : Schema}
    (ih : ∀ input value, coerce input s.itemSchema = .ok value → value.Conforms s.itemSchema)
    {inputs : List Input} {values : List Value}
    (h : List.Forall₂ (fun input value => coerce input s.itemSchema = .ok value) inputs values) :
    ∀ item ∈ values, item.Conforms s.itemSchema := by
  induction h with
  | nil => simp
  | cons hfirst _ ihrest =>
    intro item hm
    rcases List.mem_cons.1 hm with rfl | hm
    · exact ih _ _ hfirst
    · exact ihrest item hm

private theorem members_conform {s : Schema} (ht : s.type = .object) (hp : s.properties ≠ [])
    (ih : ∀ entry ∈ s.properties, ∀ input value, coerce input entry.2 = .ok value → value.Conforms entry.2)
    {members : List (String × Json)} {declared : List (String × Value)}
    {rest : List (String × Value)} (hd : Declared s.required members s.properties declared)
    (hrest : Undeclared s.properties members rest) : (Value.object (declared ++ rest)).Conforms s := by
  obtain rfl := undeclared_iff.1 hrest
  apply Value.Conforms.object ht hp
  · intro name hr hs
    obtain ⟨value, hv, hnull⟩ := hd.present_of_required hr ((Entries.has_iff ..).1 hs)
    obtain ⟨schema, hschema⟩ := Option.isSome_iff_exists.1 hs
    obtain ⟨found, hf, -⟩ := hd.get?_present hschema hv hnull
    simp [Entries.has, hf]
  · intro name schema value hs hv
    have hhas : Entries.has name s.properties = true := by simp [Entries.has, hs]
    rw [Entries.get?_append, get?_undeclared, if_pos hhas, Option.or_none] at hv
    cases hpresent : present? name members with
    | none =>
      rw [hd.get?_absent (present?_eq_none_iff.1 hpresent)] at hv
      cases hv
    | some json =>
      obtain ⟨hget, hnull⟩ := present?_eq_some_iff.1 hpresent
      obtain ⟨found, hf, hc⟩ := hd.get?_present hs hget hnull
      obtain rfl := Option.some.inj (hf.symm.trans hv)
      exact ih (name, schema) (Entries.mem_of_get? hs) _ _ hc
  · intro name value hm hs
    rcases List.mem_append.1 hm with hm | hm
    · have hname : name ∈ s.properties.map Prod.fst := hd.sublist.subset (List.mem_map.2 ⟨_, hm, rfl⟩)
      rw [(Entries.has_iff ..).2 hname] at hs
      cases hs
    · obtain ⟨⟨own, json⟩, -, he⟩ := List.mem_map.1 hm
      exact ⟨json, (Prod.mk.inj he).2.symm⟩

/-- Coercion gives values that conform to the schema, whatever it reads them from. -/
theorem coerce_conforms (s : Schema) (input : Input) (value : Value) (h : coerce input s = .ok value) :
    value.Conforms s := by
  induction s using Schema.itemInduction generalizing input value with
  | scalar s ha ho =>
    rw [coerce_scalar ha ho] at h
    exact .scalar (scalar_fits (atPlace_eq_ok.1 h))
  | array s ha ih =>
    cases coerce_eq_ok.1 h with
    | scalar hna _ _ => exact absurd ha hna
    | array _ _ hv => exact .array ha (items_conform ih hv)
    | json ht _ _ => simp [ha] at ht
    | object ht _ _ _ _ => simp [ha] at ht
  | object s ho ih =>
    cases coerce_eq_ok.1 h with
    | scalar _ hno _ => exact absurd ho hno
    | array ht _ _ => simp [ho] at ht
    | json _ hp _ => exact .json ho hp
    | object _ hp _ hd hrest => exact members_conform ho hp ih hd hrest

/-- An array read item by item conforms as one read at once. -/
theorem ofItems_conforms {s : Schema} (hs : s.type = .array) {items : List String} {value : Value}
    (h : ofItems s items = .ok value) : value.Conforms s := by
  rw [ofItems, coerceItems_eq] at h
  obtain ⟨values, hv, rfl⟩ := map_eq_ok.1 h
  exact .array hs (items_conform (fun input value => coerce_conforms _ input value) (each_eq_ok.1 hv))

end Coercion
end RequestBinding
