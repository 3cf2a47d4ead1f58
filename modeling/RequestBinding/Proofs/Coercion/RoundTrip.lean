import RequestBinding.Proofs.Base64
import RequestBinding.Proofs.Calendar.Timestamp
import RequestBinding.Proofs.Coercion.Conformance
import RequestBinding.Proofs.Json.Sorted
import RequestBinding.Proofs.Number.Rounding

/-! A value that was coerced is coerced from its own rendering as JSON once more. -/

namespace RequestBinding

namespace Value

theorem itemsToJson_eq_map (items : List Value) : itemsToJson items = items.map toJson := by
  induction items with
  | nil => rfl
  | cons item rest ih => rw [itemsToJson, ih, List.map_cons]

private theorem membersToJson_eq_map (members : List (String × Value)) :
    membersToJson members = members.map fun (name, value) => (name, value.toJson) := by
  induction members with
  | nil => rfl
  | cons member rest ih =>
    obtain ⟨name, value⟩ := member
    rw [membersToJson, ih, List.map_cons]

/-- A finite number is rendered as itself. -/
theorem doubleToJson_finite {x : Double} (h : x.isFinite = true) :
    doubleToJson x = .number (.fractional ⟨x, h⟩) := by
  rw [doubleToJson, Json.Number.ofDouble?, dif_pos h]

end Value

namespace Coercion

variable {type : ValueType} {format : Option Format} {value : Value}

private theorem integerOfNumber_toJson (h : value.FitsScalar .integer format) :
    ∃ n, value.toJson = .number n ∧ integerOfNumber format n = .ok value := by
  by_cases hf : format = some .int32
  · subst hf
    obtain ⟨n, rfl⟩ := h
    have hl := n.le_toInt
    have hg := n.toInt_lt
    have hwide : (Int64.ofInt n.toInt).toInt = n.toInt := Int64.toInt_ofInt_of_le (by omega) (by omega)
    have hn : (Json.Number.ofInt32 n).toInt64? = some (Int64.ofInt n.toInt) := by
      rw [Json.Number.ofInt32, Json.Number.toInt64?]
      exact if_pos (by dsimp only; omega)
    refine ⟨_, rfl, ?_⟩
    simp only [integerOfNumber, hn, hwide, Int32.ofInt_toInt]
    exact if_pos ⟨by omega, by omega⟩
  · obtain ⟨n, rfl⟩ : ∃ n, value = .int64 n := by simpa [Value.FitsScalar, hf] using h
    have hg := n.toInt_lt
    have hn : (Json.Number.ofInt64 n).toInt64? = some n := by
      rw [Json.Number.ofInt64, Json.Number.toInt64?, if_pos (by dsimp only; omega), Int64.ofInt_toInt]
    refine ⟨_, rfl, ?_⟩
    simp [integerOfNumber, hn]

private theorem decimalOfNumber_toJson (h : value.FitsScalar .number format) :
    ∃ n, value.toJson = .number n ∧ decimalOfNumber format n = .ok value := by
  by_cases hf : format = some .float
  · subst hf
    obtain ⟨x, rfl, hx⟩ := h
    obtain ⟨hwide, hnarrow⟩ := Binary.convert_convert_single hx
    refine ⟨_, Value.doubleToJson_finite hwide, ?_⟩
    simp only [decimalOfNumber, Json.Number.toDouble, hwide, hnarrow, hx, if_true]
  · obtain ⟨x, rfl, hx⟩ : ∃ x, value = .double x ∧ x.isFinite = true := by
      simpa [Value.FitsScalar, hf] using h
    refine ⟨_, Value.doubleToJson_finite hx, ?_⟩
    simp [decimalOfNumber, Json.Number.toDouble, hx]

private theorem stringOfText_toJson {text : String} (h : stringOfText format text = .ok value) :
    ∃ rendered, value.toJson = .string rendered ∧ stringOfText format rendered = .ok value := by
  unfold stringOfText at h
  split at h
  · obtain ⟨day, hday, rfl⟩ := map_eq_ok.1 (mapError_eq_ok.1 h)
    refine ⟨day.text, rfl, ?_⟩
    rw [stringOfText, Date.ofText_text hday]
    rfl
  · obtain ⟨moment, hmoment, rfl⟩ := map_eq_ok.1 (mapError_eq_ok.1 h)
    refine ⟨moment.text, rfl, ?_⟩
    rw [stringOfText, Timestamp.ofText_text hmoment]
    rfl
  · obtain ⟨bytes, -, rfl⟩ := map_eq_ok.1 (mapError_eq_ok.1 h)
    refine ⟨Base64.text bytes, rfl, ?_⟩
    rw [stringOfText, Base64.ofText_text]
    rfl
  · cases h
    refine ⟨text, rfl, ?_⟩
    simp_all [stringOfText]

private theorem scalar_string {input : Input} (h : scalar .string format input = .ok value) :
    ∃ text, stringOfText format text = .ok value := by
  cases input with
  | text t => exact ⟨t, mapError_eq_ok.1 h⟩
  | json found =>
    cases found with
    | string t => exact ⟨t, mapError_eq_ok.1 h⟩
    | null => cases h
    | bool b => cases h
    | number n => cases h
    | array items => cases h
    | object members => cases h

private theorem scalar_toJson {input : Input} (h : scalar type format input = .ok value) :
    value.toJson ≠ .null ∧ scalarOfJson type format value.toJson = .ok value := by
  have hfits := scalar_fits h
  cases type with
  | integer =>
    obtain ⟨n, hn, hread⟩ := integerOfNumber_toJson hfits
    rw [hn]
    exact ⟨nofun, hread⟩
  | number =>
    obtain ⟨n, hn, hread⟩ := decimalOfNumber_toJson hfits
    rw [hn]
    exact ⟨nofun, hread⟩
  | boolean =>
    obtain ⟨b, rfl⟩ := hfits
    exact ⟨nofun, rfl⟩
  | string =>
    obtain ⟨text, htext⟩ := scalar_string h
    obtain ⟨rendered, hr, hread⟩ := stringOfText_toJson htext
    rw [hr]
    exact ⟨nofun, mapError_eq_ok.2 hread⟩
  | file => cases hfits
  | array => cases hfits
  | object => cases hfits

/-- A value that a schema reads is read by it from its own rendering, which is not null. -/
def Fixed (s : Schema) (value : Value) : Prop := value.toJson ≠ .null ∧ ofJson s value.toJson = .ok value

/-- An input that holds no JSON but sorted one. -/
def Input.Sorted : Input → Prop
  | .text _ => True
  | .json value => value.Sorted

private theorem members?_eq_some {input : Input} {members : List (String × Json)} (h : input.members? = some members) :
    (∃ text, unwrap text = .ok (.object members)) ∨ input = .json (.object members) := by
  have htext {t : String} (h : Input.members? (.text t) = some members) : unwrap t = .ok (.object members) := by
    simp only [Input.members?] at h
    split at h
    · next hu =>
      cases h
      exact hu
    · cases h
  cases input with
  | text t => exact .inl ⟨t, htext h⟩
  | json value =>
    cases value with
    | string t => exact .inl ⟨t, htext h⟩
    | object found =>
      cases h
      exact .inr rfl
    | null => cases h
    | bool b => cases h
    | number n => cases h
    | array items => cases h

private theorem members?_sorted {input : Input} {members : List (String × Json)} (h : input.members? = some members)
    (hi : input.Sorted) : Entries.Ascending members ∧ ∀ member ∈ members, member.2.Sorted := by
  have hobject : (Json.object members).Sorted := by
    rcases members?_eq_some h with ⟨text, hu⟩ | rfl
    · exact unwrap_sorted hu
    · exact hi
  cases hobject with
  | object ha hm => exact ⟨ha, hm⟩

private theorem items?_sorted {format : CollectionFormat} {input : Input} {inputs : List Input}
    (h : input.items? format = some inputs) (hi : input.Sorted) : ∀ item ∈ inputs, item.Sorted := by
  have htexts (texts : List String) : ∀ item ∈ texts.map Input.text, item.Sorted := by
    intro item hm
    obtain ⟨t, -, rfl⟩ := List.mem_map.1 hm
    trivial
  cases input with
  | text t =>
    cases h
    exact htexts _
  | json found =>
    cases found with
    | string t =>
      cases h
      exact htexts _
    | array items =>
      cases h
      cases hi with
      | array hitems =>
        intro item hm
        obtain ⟨value, hv, rfl⟩ := List.mem_map.1 hm
        exact hitems value hv
    | null => cases h
    | bool b => cases h
    | number n => cases h
    | object members => cases h

private theorem fixed_array {s : Schema} (ht : s.type = .array) {values : List Value}
    (h : ∀ value ∈ values, Fixed s.itemSchema value) : Fixed s (.array values) := by
  have hinputs : Input.items? s.collectionFormat (.json (Value.array values).toJson) =
      some (values.map fun value => .json value.toJson) := by
    rw [Value.toJson, Value.itemsToJson_eq_map, Input.items?, List.map_map]
    rfl
  refine ⟨nofun, coerce_eq_ok.2 (.array ht hinputs ?_)⟩
  rw [List.forall₂_map_left_iff, List.forall₂_same]
  exact fun value hv => (h value hv).2

private theorem fixed_items {s : Schema} {inputs : List Input} {values : List Value}
    (ih : ∀ input : Input, input.Sorted → ∀ value, coerce input s = .ok value → Fixed s value)
    (hi : ∀ input ∈ inputs, input.Sorted)
    (h : List.Forall₂ (fun input value => coerce input s = .ok value) inputs values) :
    ∀ value ∈ values, Fixed s value := by
  induction h with
  | nil => simp
  | cons hfirst _ ihrest =>
    rw [List.forall_mem_cons] at hi
    rw [List.forall_mem_cons]
    exact ⟨ih _ hi.1 _ hfirst, ihrest hi.2⟩

/-- Declared properties are read again from members among which those stand that were present, each as its own
rendering, and no other property does. -/
theorem Declared.again {required : List String} {members rendered : List (String × Json)}
    {properties : List (String × Schema)} {declared : List (String × Value)}
    (h : Declared required members properties declared) (hd : (properties.map Prod.fst).Nodup)
    (hs : ∀ member ∈ members, member.2.Sorted)
    (ih : ∀ entry ∈ properties, ∀ input : Input, input.Sorted → ∀ value, coerce input entry.2 = .ok value →
      Fixed entry.2 value)
    (hr : ∀ name ∈ properties.map Prod.fst,
      Entries.get? name rendered = (Entries.get? name declared).map Value.toJson) :
    Declared required rendered properties declared := by
  induction h with
  | nil => exact .nil
  | @present name schema rest value found later hp hnone hc hlater ihrest =>
    obtain ⟨hname, hrest⟩ := List.nodup_cons.1 hd
    obtain ⟨ihhead, ihtail⟩ := List.forall_mem_cons.1 ih
    obtain ⟨hnull, hfixed⟩ := ihhead (.json value) (hs _ (Entries.mem_of_get? hp)) found hc
    have hget : Entries.get? name rendered = some found.toJson := by
      rw [hr name (List.mem_cons_self ..), Entries.get?_cons, if_pos rfl, Option.map_some]
    refine .present hget hnull hfixed (ihrest hrest ihtail fun other hm => ?_)
    have hne : other ≠ name := fun he => hname (he ▸ hm)
    rw [hr other (List.mem_cons_of_mem _ hm), Entries.get?_cons, if_neg hne]
  | @absent name schema rest later hp hrequired hlater ihrest =>
    obtain ⟨hname, hrest⟩ := List.nodup_cons.1 hd
    have hget : Entries.get? name rendered = none := by
      have hnone : Entries.get? name later = none :=
        (Entries.get?_eq_none_iff ..).2 fun hm => hname (hlater.sublist.subset hm)
      rw [hr name (List.mem_cons_self ..), hnone, Option.map_none]
    exact .absent (by simp [hget]) hrequired
      (ihrest hrest (List.forall_mem_cons.1 ih).2 fun other hm => hr other (List.mem_cons_of_mem _ hm))

private theorem members_nodup {required : List String} {members : List (String × Json)}
    {properties : List (String × Schema)} {declared : List (String × Value)}
    (h : Declared required members properties declared) (hd : (properties.map Prod.fst).Nodup)
    (ha : Entries.Ascending members) : ((declared ++ undeclared properties members).map Prod.fst).Nodup := by
  rw [List.map_append, List.nodup_append]
  refine ⟨h.sublist.nodup hd, ?_, ?_⟩
  · exact ((ha.filter _).map Value.json).nodup
  · rintro name hdeclared _ hother rfl
    have hhas : Entries.has name properties = true := (Entries.has_iff ..).2 (h.sublist.subset hdeclared)
    have hnone : Entries.get? name (undeclared properties members) = none := by
      rw [get?_undeclared, if_pos hhas]
    exact (Entries.get?_eq_none_iff ..).1 hnone hother

/-- An object whose declared properties are fixed is fixed, and its other members stay. -/
private theorem fixed_object {s : Schema} (ht : s.type = .object) (hp : s.properties ≠ [])
    (hd : (s.properties.map Prod.fst).Nodup) {members : List (String × Json)} {declared : List (String × Value)}
    (ha : Entries.Ascending members) (hs : ∀ member ∈ members, member.2.Sorted)
    (ih : ∀ entry ∈ s.properties, ∀ input : Input, input.Sorted → ∀ value, coerce input entry.2 = .ok value →
      Fixed entry.2 value)
    (h : Declared s.required members s.properties declared) :
    Fixed s (.object (declared ++ undeclared s.properties members)) := by
  refine ⟨nofun, ?_⟩
  have hnodup := members_nodup h hd ha
  rw [Value.toJson, Value.membersToJson_eq_map]
  generalize hrendered : Entries.sorted ((declared ++ undeclared s.properties members).map
    fun (name, value) => (name, value.toJson)) = rendered
  have hascending : Entries.Ascending rendered := hrendered ▸ Entries.ascending_sorted _
  have hget (name : String) : Entries.get? name rendered =
      (Entries.get? name (declared ++ undeclared s.properties members)).map Value.toJson := by
    rw [← hrendered, Entries.get?_sorted, Entries.get?_map]
    rw [List.map_map]
    exact hnodup
  -- A rendering is sorted, while declared properties come first in the value: both are compared name by name.
  have hagain : Declared s.required rendered s.properties declared := by
    apply h.again hd hs ih
    intro name hm
    rw [hget, Entries.get?_append, get?_undeclared, if_pos ((Entries.has_iff ..).2 hm), Option.or_none]
  have hothers : undeclared s.properties rendered = undeclared s.properties members := by
    apply Entries.Ascending.ext ((hascending.filter _).map Value.json) ((ha.filter _).map Value.json)
    intro name
    have hfirst := get?_undeclared s.properties rendered name
    have hsecond := get?_undeclared s.properties members name
    cases hhas : Entries.has name s.properties with
    | true =>
      rw [hhas] at hfirst hsecond
      exact hfirst.trans hsecond.symm
    | false =>
      have hnone : Entries.get? name declared = none := (Entries.get?_eq_none_iff ..).2 fun hm => by
        rw [(Entries.has_iff ..).2 (h.sublist.subset hm)] at hhas
        cases hhas
      rw [hhas] at hfirst hsecond
      rw [hget, Entries.get?_append, hnone, Option.none_or, hsecond] at hfirst
      refine hfirst.trans (Eq.trans ?_ hsecond.symm)
      cases Entries.get? name members <;> rfl
  have hread : Reads (.json (.object rendered)) s (.object (declared ++ undeclared s.properties rendered)) :=
    .object ht hp rfl hagain (undeclared_iff.2 rfl)
  rw [hothers] at hread
  exact coerce_eq_ok.2 hread

private theorem coerce_fixed {s : Schema} (hd : s.Distinct) (input : Input) (hi : input.Sorted) (value : Value)
    (h : coerce input s = .ok value) : Fixed s value := by
  induction s using Schema.itemInduction generalizing input value with
  | scalar s ha ho =>
    rw [coerce_scalar ha ho] at h
    obtain ⟨hnull, hread⟩ := scalar_toJson (atPlace_eq_ok.1 h)
    refine ⟨hnull, ?_⟩
    rw [ofJson, coerce_scalar ha ho]
    exact atPlace_eq_ok.2 hread
  | array s ha ih =>
    cases coerce_eq_ok.1 h with
    | scalar hna _ _ => exact absurd ha hna
    | array _ hitems hv =>
      exact fixed_array ha (fixed_items (ih hd.itemSchema) (items?_sorted hitems hi) hv)
    | json ht _ _ => simp [ha] at ht
    | object ht _ _ _ _ => simp [ha] at ht
  | object s ho ih =>
    cases coerce_eq_ok.1 h with
    | scalar _ hno _ => exact absurd ho hno
    | array ht _ _ => simp [ho] at ht
    | json _ hp hm => exact ⟨nofun, coerce_eq_ok.2 (.json ho hp rfl)⟩
    | object _ hp hm hdeclared hrest =>
      obtain rfl := undeclared_iff.1 hrest
      obtain ⟨ha, hs⟩ := members?_sorted hm hi
      exact fixed_object ho hp hd.properties_nodup ha hs
        (fun entry hentry => ih entry hentry (hd.property hentry)) hdeclared

/-- Every value that is coerced, from a text or from a JSON value, is what coercion makes of its rendering as JSON:
with the same items and properties in the same order, the same other members, the same moments to the offset and
the same numbers. As in all that is read, property names are distinct and members of an object sorted. -/
theorem ofJson_toJson {s : Schema} (hd : s.Distinct) :
    (∀ text value, ofText s text = .ok value → ofJson s value.toJson = .ok value) ∧
      ∀ json value, json.Sorted → ofJson s json = .ok value → ofJson s value.toJson = .ok value :=
  ⟨fun text value h => (coerce_fixed hd (.text text) trivial value h).2,
    fun json value hj h => (coerce_fixed hd (.json json) hj value h).2⟩

/-- A leap second with an offset and a fraction, beside a member that is not declared. -/
theorem ofJson_toJson_of_leap_second :
    let s := (Schema.ofType .object).withProperty "at" (Schema.string.withFormat .dateTime)
    let json := Json.object [("at", .string "2016-12-31T23:59:60.50-05:30"), ("note", .null)]
    s.Distinct ∧ json.Sorted ∧ ∃ value, ofJson s json = .ok value ∧ ofJson s value.toJson = .ok value := by
  intro s json
  have hd : s.Distinct :=
    (Schema.Distinct.ofType .object).withProperty "at" (.mk .nil nofun nofun)
  have hj : json.Sorted := .object (by unfold Entries.Ascending; decide) (by simp [Json.Sorted.string, Json.Sorted.null])
  obtain ⟨value, h⟩ : ∃ value, ofJson s json = .ok value := ⟨_, rfl⟩
  exact ⟨hd, hj, value, h, (ofJson_toJson hd).2 json value hj h⟩

end Coercion
end RequestBinding
