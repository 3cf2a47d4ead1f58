import Mathlib
import RequestBinding.Parameter
import RequestBinding.Proofs.Schema.RoundTrip

/-! Declared parameters that are read from text, written, and read again. -/

namespace RequestBinding

theorem Location.ofName_name (name : String) : ofName (ofName name).name = ofName name := by
  fun_cases ofName name with
  | case8 => simp_all [ofName, Location.name]
  | _ => rfl

namespace Parameter

/-- Parameters that can be read from text that nests to some depth below them. -/
structure Readable (depth : Nat) (p : Parameter) : Prop where
  location : Location.ofName p.location.name = p.location
  schema : p.schema.Readable depth
  default : ∀ given, p.default = some given → given.Fits depth ∧ given ≠ .null

private theorem document_holds {depth : Nat} {p : Parameter} (h : document.Holds Schema.Readable depth p) :
    p.Readable depth := by
  obtain ⟨⟨name, location, schema, required, default, ⟨⟩⟩, ⟨-, -, hschema, -, hdefault, -⟩, rfl⟩ := h
  exact ⟨Location.ofName_name location, hschema, hdefault⟩

private theorem document_sound (depth : Nat) : document.Sound Schema.Readable (depth + 1) := by
  refine ⟨trivial, trivial, nofun, trivial, trivial, nofun, ?_⟩
  refine Json.Fields.withDefault_sound (by trivial) (by exact .ofType depth .string) ?_ "schema"
  refine Json.Fields.withDefault_sound (by trivial) (by trivial) ?_ "required"
  exact Json.Fields.optional_sound (by trivial) (by trivial) "default"

theorem ofText_readable {text : String} {p : Parameter} (h : ofText text = .ok p) :
    ∃ depth, Json.nestingLimit = depth + 1 ∧ p.Readable depth := by
  obtain ⟨hroot, -⟩ := Json.Document.readWith_eq_ok.1 h
  have hsound : (Json.Shape.record document).Sound Schema.Readable Json.nestingLimit := by
    intro inner hinner
    obtain rfl : inner = 125 + 1 := Nat.succ.inj hinner.symm
    exact document_sound 125
  obtain ⟨⟨depth, hdepth, hp⟩, -⟩ := Json.Outline.read_holds Schema.document_closed _ _ hsound p hroot
  exact ⟨depth, hdepth, document_holds hp⟩

private theorem toJson_stands {depth : Nat} {p : Parameter} (h : p.Readable depth) :
    (Json.Shape.record document).Stands Schema.Written (depth + 1) p p.toJson := by
  obtain ⟨name, location, schema, required, default⟩ := p
  obtain ⟨hlocation, hschema, hdefault⟩ := h
  refine ⟨depth, _, rfl, rfl, by decide, (name, location.name, schema, required, default, ()), ?_, ?_⟩
  · simp only [hlocation]
  · refine .inr ⟨rfl, _, _, rfl, rfl, .inr ⟨rfl, _, _, rfl, rfl, .inr ⟨rfl, _, _, rfl, ⟨hschema, rfl⟩, ?_⟩⟩⟩
    refine .inr ⟨rfl, _, _, rfl, rfl, ?_⟩
    cases default with
    | none => exact .inl ⟨rfl, rfl⟩
    | some given =>
      obtain ⟨hfits, hne⟩ := hdefault given rfl
      exact .inr ⟨rfl, _, _, rfl, hne, ⟨given, rfl, rfl, hfits⟩, rfl⟩

/-- A parameter is written without floating-point numbers if its default is. -/
theorem toJson_exact {p : Parameter} (h : ∀ given, p.default = some given → given.Exact) : p.toJson.Exact := by
  obtain ⟨name, location, schema, required, default⟩ := p
  refine .object ?_
  intro member hm
  rcases List.mem_append.1 hm with hm | hm
  · simp only [List.mem_cons, List.not_mem_nil, or_false] at hm
    rcases hm with rfl | rfl | rfl | rfl
    · exact .string name
    · exact .string location.name
    · exact schema.toJson_exact
    · exact .bool required
  · cases default with
    | none => cases hm
    | some given =>
      obtain rfl := List.mem_singleton.1 hm
      exact h given rfl

/-- The parameters that are read again from what is written for them are those that can be read at all. -/
theorem ofText_toJson_iff {p : Parameter} (hexact : ∀ given, p.default = some given → given.Exact) :
    ofText p.toJson.text = .ok p ↔ ∃ depth, Json.nestingLimit = depth + 1 ∧ p.Readable depth := by
  constructor
  · exact ofText_readable
  · rintro ⟨depth, hdepth, hreadable⟩
    have hstands := toJson_stands hreadable
    rw [← hdepth] at hstands
    exact Json.Document.readWith_text Schema.document_unfolds hstands (toJson_exact hexact)

end Parameter

/-- What is read as a schema, or as a parameter whose default has no floating-point number, is read again from the text
that is written for it, and written again as that text. -/
theorem written_declarations_read_back (text : String) :
    (∀ s, Schema.ofText text = .ok s →
      Schema.ofText s.toJson.text = .ok s ∧
        (Schema.ofText s.toJson.text).map (fun again => again.toJson.text) = .ok s.toJson.text) ∧
    (∀ p, Parameter.ofText text = .ok p → (∀ given, p.default = some given → given.Exact) →
      Parameter.ofText p.toJson.text = .ok p ∧
        (Parameter.ofText p.toJson.text).map (fun again => again.toJson.text) = .ok p.toJson.text) := by
  constructor
  · intro s hs
    have hback : Schema.ofText s.toJson.text = .ok s := Schema.ofText_toJson_iff.2 (Schema.ofText_readable hs)
    exact ⟨hback, by rw [hback]; rfl⟩
  · intro p hp hexact
    have hback : Parameter.ofText p.toJson.text = .ok p :=
      (Parameter.ofText_toJson_iff hexact).2 (Parameter.ofText_readable hp)
    exact ⟨hback, by rw [hback]; rfl⟩

/-- A schema that stands in an array, and a parameter with such a schema, a location by another name and a default. -/
theorem written_declarations_read_back_of_positions :
    (Schema.ofText "[\"array\",null,\"csv\",\x7b\"format\":\"int32\"\x7d]" =
        .ok (.array (Schema.string.withFormat .int32)) ∧
      Schema.ofText (Schema.array (Schema.string.withFormat .int32)).toJson.text =
        .ok (.array (Schema.string.withFormat .int32))) ∧
    Parameter.ofText "\x7b\"in\":\"form\",\"schema\":[\"integer\"],\"name\":\"limit\",\"default\":20\x7d" =
        .ok (((Parameter.form "limit").typed .integer none).withDefault (.ofInt 20)) ∧
      Parameter.ofText (((Parameter.form "limit").typed .integer none).withDefault (.ofInt 20)).toJson.text =
        .ok (((Parameter.form "limit").typed .integer none).withDefault (.ofInt 20)) := by
  have hschema : Schema.ofText "[\"array\",null,\"csv\",\x7b\"format\":\"int32\"\x7d]" =
      .ok (.array (Schema.string.withFormat .int32)) := by cbv
  have hparameter : Parameter.ofText
      "\x7b\"in\":\"form\",\"schema\":[\"integer\"],\"name\":\"limit\",\"default\":20\x7d" =
        .ok (((Parameter.form "limit").typed .integer none).withDefault (.ofInt 20)) := by cbv
  refine ⟨⟨hschema, ((written_declarations_read_back _).1 _ hschema).1⟩, hparameter,
    ((written_declarations_read_back _).2 _ hparameter ?_).1⟩
  intro given hgiven
  exact Option.some.inj hgiven ▸ .whole ⟨20, by decide, by decide⟩

end RequestBinding
