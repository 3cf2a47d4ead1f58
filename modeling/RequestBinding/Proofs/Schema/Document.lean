import RequestBinding.Proofs.Json.Shape
import RequestBinding.Proofs.Schema.Basic
import RequestBinding.Schema.Document

/-! Schemas that are read from text: they have room to nest in text again, their formats are what their names say, and
they declare no property twice. -/

namespace RequestBinding

theorem Format.ofName_name (name : String) : ofName (ofName name).name = ofName name := by
  fun_cases ofName name with
  | case8 => simp_all [ofName, Format.name]
  | _ => rfl

namespace Schema

/-- Schemas that can be read from text that nests to some depth. -/
inductive Readable : Nat → Schema → Prop
  | mk {depth : Nat} {s : Schema} : (s.properties.map Prod.fst).Nodup →
      (∀ format, s.format = some format → Format.ofName format.name = format) →
      (∀ item, s.items = some item → Readable depth item) →
      (s.properties ≠ [] ∨ s.required ≠ [] → 0 < depth) →
      (∀ entry ∈ s.properties, Readable (depth - 1) entry.2) → Readable (depth + 1) s

theorem Readable.distinct {depth : Nat} {s : Schema} (h : s.Readable depth) : s.Distinct := by
  induction s using Schema.induction generalizing depth with
  | step s ihitems ihproperties =>
    obtain ⟨hd, -, hitems, -, hproperties⟩ := h
    exact .mk hd (fun item hi => ihitems item hi (hitems item hi)) fun entry hm =>
      ihproperties entry hm (hproperties entry hm)

theorem Readable.ofType (depth : Nat) (type : ValueType) : (Schema.ofType type).Readable (depth + 1) :=
  .mk .nil nofun nofun (by simp [Schema.ofType]) nofun

theorem document_closed : document.Closed Readable := by
  constructor
  · intro depth
    refine Json.Fields.withDefault_sound (by trivial) (by trivial) ?_ "type"
    refine Json.Fields.optional_sound (by trivial) ?_ "format"
    refine Json.Fields.withDefault_sound (by trivial) (by trivial) ?_ "collectionFormat"
    refine Json.Fields.optional_sound (by trivial) ?_ "items"
    refine Json.Fields.withDefault_sound (by intro _ _; trivial) (by simp [Json.Shape.Holds]) ?_ "properties"
    exact Json.Fields.withDefault_sound (by intro _ _; trivial) (by simp [Json.Shape.Holds]) (by trivial) "required"
  · rintro depth value ⟨⟨type, format, collectionFormat, items, properties, required, ⟨⟩⟩, hf, rfl⟩
    obtain ⟨-, -, -, hitems, ⟨hd, hproperties⟩, hrequired, -⟩ := hf
    refine .mk hd ?_ (fun item hi => (hitems item hi).1) ?_ ?_
    · rintro f hf
      obtain ⟨name, -, rfl⟩ := Option.map_eq_some_iff.1 hf
      exact Format.ofName_name name
    · rintro (hne | hne)
      · obtain ⟨entry, hm⟩ := List.exists_mem_of_ne_nil properties hne
        obtain ⟨inner, rfl, -⟩ := hproperties entry hm
        exact Nat.succ_pos inner
      · obtain ⟨name, hm⟩ := List.exists_mem_of_ne_nil required hne
        obtain ⟨inner, rfl, -⟩ := hrequired name hm
        exact Nat.succ_pos inner
    · intro entry hm
      obtain ⟨inner, rfl, hp⟩ := hproperties entry hm
      exact hp

theorem ofText_readable {text : String} {s : Schema} (h : ofText text = .ok s) : s.Readable Json.nestingLimit :=
  document.readText_holds document_closed h

end Schema
end RequestBinding
