import RequestBinding.Proofs.Entries
import RequestBinding.Schema.Basic

/-! Schemas by induction over those of their items and properties, and schemas that declare no property twice. -/

namespace RequestBinding

/-- The schema of the items of an array, plain strings where none is declared. -/
def Schema.itemSchema (s : Schema) : Schema := s.items.getD .string

/-- Induction over the schemas of items and of properties. -/
theorem Schema.induction {motive : Schema → Prop}
    (step : ∀ s : Schema, (∀ item, s.items = some item → motive item) →
      (∀ entry ∈ s.properties, motive entry.2) → motive s) (s : Schema) : motive s :=
  @Schema.rec motive (fun items => ∀ item, items = some item → motive item)
    (fun properties => ∀ entry ∈ properties, motive entry.2) (fun entry => motive entry.2)
    (fun type format collectionFormat items properties required hitems hproperties =>
      step ⟨type, format, collectionFormat, items, properties, required⟩ hitems hproperties)
    (fun _ h => by cases h)
    (fun _ hitem _ h => Option.some.inj h ▸ hitem)
    (fun _ h => by cases h)
    (fun _ _ hhead htail entry hm => (List.mem_cons.1 hm).elim (fun he => he ▸ hhead) (htail entry))
    (fun _ _ h => h) s

/-- Induction in which the schema of items counts as declared even where it is that of plain strings. -/
theorem Schema.itemInduction {motive : Schema → Prop}
    (scalar : ∀ s : Schema, s.type ≠ .array → s.type ≠ .object → motive s)
    (array : ∀ s : Schema, s.type = .array → motive s.itemSchema → motive s)
    (object : ∀ s : Schema, s.type = .object → (∀ entry ∈ s.properties, motive entry.2) → motive s)
    (s : Schema) : motive s := by
  induction s using Schema.induction with
  | step s hitems hproperties =>
    by_cases ha : s.type = .array
    · apply array s ha
      cases hi : s.items with
      | none =>
        rw [itemSchema, hi]
        exact scalar .string (by simp [Schema.string, ofType]) (by simp [Schema.string, ofType])
      | some item =>
        rw [itemSchema, hi]
        exact hitems item hi
    · by_cases ho : s.type = .object
      · exact object s ho hproperties
      · exact scalar s ha ho

/-- No property is declared twice, in the schema itself and in those of its items and properties. -/
inductive Schema.Distinct : Schema → Prop
  | mk {s : Schema} : (s.properties.map Prod.fst).Nodup → (∀ item, s.items = some item → Distinct item) →
      (∀ entry ∈ s.properties, Distinct entry.2) → Distinct s

namespace Schema.Distinct

variable {s : Schema}

theorem properties_nodup (h : s.Distinct) : (s.properties.map Prod.fst).Nodup := by
  cases h with
  | mk hd _ _ => exact hd

theorem property (h : s.Distinct) {entry : String × Schema} (hm : entry ∈ s.properties) : entry.2.Distinct := by
  cases h with
  | mk _ _ hp => exact hp entry hm

theorem ofType (type : ValueType) : (Schema.ofType type).Distinct :=
  .mk .nil (by simp [Schema.ofType]) (by simp [Schema.ofType])

theorem array (h : s.Distinct) : (Schema.array s).Distinct :=
  .mk .nil (fun _ hi => Option.some.inj hi ▸ h) (by simp [Schema.array, Schema.ofType])

theorem withFormat (h : s.Distinct) (format : Format) : (s.withFormat format).Distinct := by
  obtain ⟨hd, hitems, hproperties⟩ := h
  exact .mk hd hitems hproperties

theorem withCollectionFormat (h : s.Distinct) (format : CollectionFormat) :
    (s.withCollectionFormat format).Distinct := by
  obtain ⟨hd, hitems, hproperties⟩ := h
  exact .mk hd hitems hproperties

theorem itemSchema (h : s.Distinct) : s.itemSchema.Distinct := by
  rw [Schema.itemSchema]
  cases hi : s.items with
  | none => exact ofType .string
  | some item =>
    cases h with
    | mk _ hitems _ => exact hitems item hi

/-- Declaring a property keeps names distinct. -/
theorem withProperty (h : s.Distinct) (name : String) {property : Schema} (hp : property.Distinct) :
    (s.withProperty name property).Distinct := by
  obtain ⟨hd, hitems, hproperties⟩ := h
  refine .mk (Entries.nodup_put hd name property) hitems ?_
  intro entry hm
  rcases Entries.mem_of_mem_put hm with rfl | hm
  · exact hp
  · exact hproperties entry hm

theorem withRequiredProperty (h : s.Distinct) (name : String) {property : Schema} (hp : property.Distinct) :
    (s.withRequiredProperty name property).Distinct := by
  obtain ⟨hd, hitems, hproperties⟩ := h.withProperty name hp
  exact .mk hd hitems hproperties

end Schema.Distinct

end RequestBinding
