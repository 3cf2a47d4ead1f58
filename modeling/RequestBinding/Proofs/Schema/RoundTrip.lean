import RequestBinding.Proofs.Json.Standing
import RequestBinding.Proofs.Schema.Document

/-! Schemas that are written as text and read again. -/

namespace RequestBinding

private theorem ValueType.get?_name (type : ValueType) : Entries.get? type.name variants = some type := by
  cases type <;> decide

private theorem CollectionFormat.get?_name (format : CollectionFormat) :
    Entries.get? format.name variants = some format := by
  cases format <;> decide

namespace Schema

private theorem propertiesToJson_eq_map (properties : List (String × Schema)) :
    propertiesToJson properties = properties.map fun (name, property) => (name, property.toJson) := by
  induction properties with
  | nil => rfl
  | cons entry rest ih => rw [propertiesToJson, ih, List.map_cons]

private theorem toJson_eq (type : ValueType) (format : Option Format) (collectionFormat : CollectionFormat)
    (items : Option Schema)
    (properties : List (String × Schema)) (required : List String) :
    toJson ⟨type, format, collectionFormat, items, properties, required⟩ =
      .object ([("type", .string type.name)] ++
        ((format.map fun f => ("format", .string f.name)).toList ++
          ([("collectionFormat", .string collectionFormat.name)] ++
            ((items.map fun item => ("items", item.toJson)).toList ++
              ((if properties = [] then [] else [("properties", .object (propertiesToJson properties))]) ++
                ((if required = [] then [] else [("required", .array (required.map .string))]) ++ [])))))) := by
  rw [toJson.eq_def]
  cases format <;> cases items <;> cases properties <;> cases required <;> rfl

private theorem toJson_ne_null (s : Schema) : s.toJson ≠ .null := by
  obtain ⟨type, format, collectionFormat, items, properties, required⟩ := s
  rw [toJson_eq]
  nofun

/-- A schema is written without floating-point numbers. -/
theorem toJson_exact (s : Schema) : s.toJson.Exact := by
  induction s using Schema.induction with
  | step s hitems hproperties =>
    obtain ⟨type, format, collectionFormat, items, properties, required⟩ := s
    rw [toJson_eq]
    refine .object ?_
    simp only [List.mem_append, List.mem_singleton, Option.mem_toList, Option.map_eq_some_iff]
    rintro member (rfl | ⟨f, -, rfl⟩ | rfl | ⟨item, hitem, rfl⟩ | hm | hm | hm)
    · exact .string type.name
    · exact .string f.name
    · exact .string collectionFormat.name
    · exact hitems item hitem
    · rw [propertiesToJson_eq_map] at hm
      split at hm
      · cases hm
      · obtain rfl := List.mem_singleton.1 hm
        refine .object (List.forall_mem_map.2 ?_)
        exact hproperties
    · split at hm
      · cases hm
      · obtain rfl := List.mem_singleton.1 hm
        exact .array (List.forall_mem_map.2 fun name _ => .string name)
    · cases hm

/-- What is written for a schema that has room where it is written. -/
def Written (depth : Nat) (s : Schema) (json : Json) : Prop := s.Readable depth ∧ json = s.toJson

/-- What is written for a schema stands for it, member by member. -/
theorem document_unfolds : document.Unfolds Written := by
  rintro depth s json ⟨⟨hd, hformat, hitems, hroom, hproperties⟩, rfl⟩
  obtain ⟨type, format, collectionFormat, items, properties, required⟩ := s
  refine ⟨_, _, rfl, toJson_eq .., by decide,
    (type, format.map Format.name, collectionFormat, items, properties, required, ()), ?_, ?_⟩
  · have hnames : (format.map Format.name).map Format.ofName = format := by
      cases format with
      | none => rfl
      | some f => exact congrArg some (hformat f rfl)
    simp only [hnames]
  · refine Json.Fields.withDefault_stands (.inr ⟨_, rfl, _, rfl, type.get?_name⟩) ?_
    refine Json.Fields.optional_stands ?_ ?_
    · cases format with
      | none => exact .inl ⟨rfl, rfl⟩
      | some f => exact .inr ⟨_, _, rfl, rfl, nofun, rfl⟩
    refine Json.Fields.withDefault_stands (.inr ⟨_, rfl, _, rfl, collectionFormat.get?_name⟩) ?_
    refine Json.Fields.optional_stands ?_ ?_
    · cases items with
      | none => exact .inl ⟨rfl, rfl⟩
      | some item => exact .inr ⟨_, _, rfl, rfl, item.toJson_ne_null, hitems item rfl, rfl⟩
    refine Json.Fields.withDefault_stands ?_ (Json.Fields.withDefault_stands ?_ rfl)
    · split
      · next h => exact .inl ⟨rfl, h⟩
      · next h =>
        obtain ⟨inner, rfl⟩ := Nat.exists_eq_succ_of_ne_zero (hroom (.inl h)).ne'
        refine .inr ⟨_, rfl, inner, _, rfl, rfl, hd, ?_⟩
        rw [propertiesToJson_eq_map, List.forall₂_map_right_iff, List.forall₂_same]
        intro entry hm
        exact ⟨rfl, hproperties entry hm, rfl⟩
    · split
      · next h => exact .inl ⟨rfl, h⟩
      · next h =>
        obtain ⟨inner, rfl⟩ := Nat.exists_eq_succ_of_ne_zero (hroom (.inr h)).ne'
        refine .inr ⟨_, rfl, inner, _, rfl, rfl, ?_⟩
        rw [List.forall₂_map_right_iff, List.forall₂_same]
        intro name _
        rfl

/-- The schemas that are read again from what is written for them are those that can be read at all. -/
theorem ofText_toJson_iff {s : Schema} : ofText s.toJson.text = .ok s ↔ s.Readable Json.nestingLimit := by
  constructor
  · exact ofText_readable
  · intro h
    exact Json.Document.readWith_text document_unfolds ⟨h, rfl⟩ s.toJson_exact

end Schema
end RequestBinding
