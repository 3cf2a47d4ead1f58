import RequestBinding.Destination.Conversion
import RequestBinding.Proofs.Coercion.RoundTrip

/-! Conversion of values to the types of fields, typed or in JSON. A field of a type that JSON has holds the same after
it took a value and after it took the rendering of that value. -/

namespace RequestBinding

/-- Types of fields that JSON has: truth values, numbers, strings and JSON itself, in lists and optional. -/
inductive FieldType.Plain : FieldType → Prop
  | bool : Plain .bool
  | int32 : Plain .int32
  | int64 : Plain .int64
  | float : Plain .float
  | double : Plain .double
  | string : Plain .string
  | json : Plain .json
  | list {item : FieldType} : Plain item → Plain (.list item)
  | optional {held : FieldType} : Plain held → Plain (.optional held)

/-- A value in which no number is infinite or undefined, at any depth. -/
inductive Value.Finite : Value → Prop
  | boolean (b : Bool) : Finite (.boolean b)
  | int32 (n : Int32) : Finite (.int32 n)
  | int64 (n : Int64) : Finite (.int64 n)
  | float {x : Single} : x.isFinite = true → Finite (.float x)
  | double {x : Double} : x.isFinite = true → Finite (.double x)
  | string (s : String) : Finite (.string s)
  | date (d : Date) : Finite (.date d)
  | timestamp (t : Timestamp) : Finite (.timestamp t)
  | bytes (b : List UInt8) : Finite (.bytes b)
  | array {items : List Value} : (∀ item ∈ items, Finite item) → Finite (.array items)
  | object {members : List (String × Value)} : (∀ member ∈ members, Finite member.2) → Finite (.object members)
  | json (v : Json) : Finite (.json v)
  | file (u : Upload) : Finite (.file u)

namespace Json.Number

private theorem toInt64?_ofInt64 (n : Int64) : (ofInt64 n).toInt64? = some n := by
  have hg := n.toInt_lt
  rw [ofInt64, toInt64?, if_pos (by dsimp only; omega), Int64.ofInt_toInt]

private theorem toInt64?_ofInt32 (n : Int32) : (ofInt32 n).toInt64? = some n.toInt64 := by
  have hg := n.toInt_lt
  rw [ofInt32, toInt64?, if_pos (by dsimp only; omega), Int64.ofInt_int32ToInt]

end Json.Number

namespace Value

variable {value : Value}

/-- The rendering of a value, as a value of its own. -/
def untyped (value : Value) : Value := .json value.toJson

private theorem narrow?_toInt64 (n : Int32) : narrow? n.toInt64 = some n := by
  have hl := n.le_toInt
  have hg := n.toInt_lt
  rw [narrow?, Int32.toInt_toInt64, if_pos ⟨by omega, by omega⟩, Int32.ofInt_toInt]

private theorem toBool_untyped {b : Bool} (h : value.toBool = .ok b) : value.untyped.toBool = .ok b := by
  unfold toBool at h
  split at h
  · exact h
  · exact h
  · cases h

private theorem toText_untyped {s : String} (h : value.toText = .ok s) : value.untyped.toText = .ok s := by
  unfold toText at h
  split at h
  · exact h
  · exact h
  · cases h

private theorem toInt64_untyped {n : Int64} (h : value.toInt64 = .ok n) : value.untyped.toInt64 = .ok n := by
  unfold toInt64 at h
  split at h
  · simp only [untyped, toJson, toInt64, Json.Number.toInt64?_ofInt64, h]
  · simp only [untyped, toJson, toInt64, Json.Number.toInt64?_ofInt32, h]
  · exact h
  · cases h

private theorem toInt32_untyped {n : Int32} (h : value.toInt32 = .ok n) : value.untyped.toInt32 = .ok n := by
  unfold toInt32 at h
  split at h
  · simp only [untyped, toJson, toInt32, Json.Number.toInt64?_ofInt32, Option.bind_some, narrow?_toInt64, h]
  · next wide =>
    simp only [untyped, toJson, toInt32, Json.Number.toInt64?_ofInt64, Option.bind_some]
    split at h
    · exact h
    · cases h
  · exact h
  · cases h

private theorem toDouble_untyped (hf : value.Finite) {x : Double} (h : value.toDouble = .ok x) :
    value.untyped.toDouble = .ok x := by
  cases hf with
  | double hx =>
    rw [untyped, toJson, doubleToJson_finite hx]
    exact h
  | float hx =>
    rw [untyped, toJson, doubleToJson_finite (Binary.convert_convert_single hx).1]
    exact h
  | json v => exact h
  | _ => cases h

private theorem toSingle_untyped (hf : value.Finite) {x : Single} (h : value.toSingle = .ok x) :
    value.untyped.toSingle = .ok x := by
  cases hf with
  | @float y hy =>
    obtain rfl : y = x := Except.ok.inj h
    obtain ⟨hwide, hnarrow⟩ := Binary.convert_convert_single hy
    simp only [untyped, toJson, doubleToJson_finite hwide, toSingle, Json.Number.toDouble, hnarrow, hy, if_true]
  | json v => exact h
  | _ => cases h

private theorem toItems_untyped {items : List Value} (h : value.toItems = .ok items) :
    value.untyped.toItems = .ok (items.map untyped) := by
  unfold toItems at h
  split at h
  · obtain rfl := Except.ok.inj h
    rw [untyped, toJson, itemsToJson_eq_map, toItems, List.map_map]
    rfl
  · obtain rfl := Except.ok.inj h
    rw [List.map_map]
    rfl
  · cases h

theorem Finite.toItems (hf : value.Finite) {items : List Value} (h : value.toItems = .ok items) :
    ∀ item ∈ items, item.Finite := by
  unfold Value.toItems at h
  split at h
  · obtain rfl := Except.ok.inj h
    cases hf with
    | array hitems => exact hitems
  · obtain rfl := Except.ok.inj h
    rintro item hm
    obtain ⟨v, -, rfl⟩ := List.mem_map.1 hm
    exact .json v
  · cases h

private theorem isNull_untyped (hf : value.Finite) : value.untyped.isNull = value.isNull := by
  cases hf with
  | double hx =>
    rw [untyped, toJson, doubleToJson_finite hx]
    rfl
  | float hx =>
    rw [untyped, toJson, doubleToJson_finite (Binary.convert_convert_single hx).1]
    rfl
  | _ => rfl

/-- What a field of a type that JSON has holds after it took a finite value, it holds after it took the rendering of
that value instead. -/
theorem convert_untyped {type : FieldType} (ht : type.Plain) (hf : value.Finite) {content : type.Content}
    (h : convert type value = .ok content) : convert type (.json value.toJson) = .ok content := by
  induction ht generalizing value with
  | bool => exact toBool_untyped h
  | int32 => exact toInt32_untyped h
  | int64 => exact toInt64_untyped h
  | float => exact toSingle_untyped hf h
  | double => exact toDouble_untyped hf h
  | string => exact toText_untyped h
  | json => exact h
  | list _ ih =>
    obtain ⟨items, hitems, hfound⟩ := bind_eq_ok.1 h
    have hfinite := hf.toItems hitems
    exact bind_eq_ok.2 ⟨_, toItems_untyped hitems,
      mapM_map_eq_ok (fun item hm _ hitem => ih (hfinite item hm) hitem) hfound⟩
  | optional _ ih =>
    rw [convert] at h ⊢
    have hnull : (Value.json value.toJson).isNull = value.isNull := isNull_untyped hf
    rw [hnull]
    split at h
    · next hv => rw [if_pos hv, h]
    · next hv =>
      obtain ⟨held, hheld, rfl⟩ := map_eq_ok.1 h
      rw [if_neg hv, ih hf hheld]
      rfl

/-- A typed number of single precision, a null and a list that is rendered already. -/
theorem convert_untyped_of_mixed_items :
    let type : FieldType := .list (.optional (.list .float))
    let tenth : Single := .ofBits .single 0x3DCCCCCD
    let value : Value := .array [.array [.float tenth], .json .null, .json (.array [])]
    type.Plain ∧ value.Finite ∧ convert type value = .ok [some [tenth], none, some []] ∧
      convert type (.json value.toJson) = .ok [some [tenth], none, some []] := by
  intro type tenth value
  have ht : type.Plain := .list (.optional (.list .float))
  have htenth : (Value.float tenth).Finite := .float (by decide)
  have hinner : (Value.array [.float tenth]).Finite := .array (by simpa using htenth)
  have hf : value.Finite := .array (by simpa using ⟨hinner, .json _, .json _⟩)
  have h : convert type value = .ok [some [tenth], none, some []] := rfl
  exact ⟨ht, hf, h, convert_untyped ht hf h⟩

end Value
end RequestBinding
