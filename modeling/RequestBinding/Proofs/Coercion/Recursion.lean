import RequestBinding.Proofs.Coercion.Spelling
import RequestBinding.Proofs.Coercion.Unwrapping
import Mathlib.Data.Prod.Lex

/-! Coercion as five functions that call one another. A text is given on as the JSON value in it, and a JSON string as
the text in it, so that neither the schema nor the value alone gets smaller along the calls; the depth of the schema
does, and the text in hand where the depth stays. -/

namespace RequestBinding

mutual

/-- How deep the items and properties nest that a schema is read with. -/
def Schema.depth : Schema → Nat
  | ⟨type, _, _, items, properties, _⟩ =>
    match type with
    | .array => Schema.depthOfItems items + 1
    | .object => Schema.depthOfProperties properties
    | _ => 0

def Schema.depthOfItems : Option Schema → Nat
  | none => 0
  | some item => item.depth

def Schema.depthOfProperties : List (String × Schema) → Nat
  | [] => 0
  | (_, property) :: rest => max (property.depth + 1) (Schema.depthOfProperties rest)

end

private theorem Schema.depth_items (s : Schema) : s.itemSchema.depth < { s with type := .array : Schema }.depth := by
  obtain ⟨type, format, collectionFormat, items, properties, required⟩ := s
  simp only [depth, itemSchema]
  cases items with
  | none => exact Nat.succ_pos _
  | some item => exact Nat.lt_succ_self _

private theorem Schema.depth_property {s : Schema} {entry : String × Schema} (h : entry ∈ s.properties) :
    entry.2.depth < { s with type := .object : Schema }.depth := by
  obtain ⟨type, format, collectionFormat, items, properties, required⟩ := s
  simp only [depth]
  induction properties with
  | nil => cases h
  | cons first rest ih =>
    rw [depthOfProperties]
    rcases List.mem_cons.1 h with rfl | h
    · exact Nat.lt_of_lt_of_le (Nat.lt_succ_self _) (Nat.le_max_left ..)
    · exact Nat.lt_of_lt_of_le (ih h) (Nat.le_max_right ..)

private theorem Schema.with_type {s : Schema} {type : ValueType} (h : s.type = type) : { s with type := type } = s := by
  obtain ⟨own, format, collectionFormat, items, properties, required⟩ := s
  obtain rfl : own = type := h
  rfl

namespace Coercion

/-- What a call comes back with. -/
abbrev Answer := Except (List Failure) Value

/-- A call of one of the functions: for a text, for a JSON value, for the items that a text was split into, for those of
a JSON array, and for the members of a JSON object. -/
inductive Call
  | text (text : String) (schema : Schema)
  | json (value : Json) (schema : Schema)
  | items (texts : List String) (schema : Schema)
  | jsonItems (values : List Json) (schema : Schema)
  | object (members : List (String × Json)) (schema : Schema)

inductive Routine
  | text
  | json
  | items
  | jsonItems
  | object
deriving DecidableEq

/-- Functions in the order in which a text in hand is given on, the last ones first. -/
def Routine.rank : Routine → Nat
  | json => 2
  | text => 1
  | _ => 0

/-- Properties one by one, each with the value that is read for it. -/
def eachProperty (read : Json → Schema → Answer) (required : List String) (members : List (String × Json)) :
    List (String × Schema) → Except (List Failure) (List (String × Value))
  | [] => .ok []
  | (name, schema) :: rest =>
    let later := eachProperty read required members rest
    match present? name members with
    | some value => (both (within (.property name) (read value schema)) later).map fun (a, b) => (name, a) :: b
    | none =>
      if required.contains name then
        (both (within (.property name) (.error [.here .missing])) later).map fun ((_ : Unit), b) => b
      else later

namespace Call

def routine : Call → Routine
  | text .. => .text
  | json .. => .json
  | items .. => .items
  | jsonItems .. => .jsonItems
  | object .. => .object

/-- The call for an item. -/
def ofInput (schema : Schema) : Input → Call
  | .text t => text t schema
  | .json value => json value schema

/-- What a call comes back with, given what the calls come back with that it makes itself. -/
def run (call : Call → Answer) : Call → Answer
  | text t s =>
    match s.type with
    | .array => call (items (s.collectionFormat.inOneText.split [t]) s)
    | .object =>
      match Json.read (Utf8.encode t) with
      | .error message => .error [.here (.notJson message)]
      | .ok value => call (json value s)
    | type => atPlace (scalarOfText type s.format t)
  | json value s =>
    match s.type, value with
    | .object, .object members => call (object members s)
    | .array, .array values => call (jsonItems values s)
    | .file, _ => .error [.here (.mismatch s.label value.kind)]
    | _, .string t => call (text t s)
    | .integer, .number n => atPlace (integerOfNumber s.format n)
    | .number, .number n => atPlace (decimalOfNumber s.format n)
    | .boolean, .bool b => .ok (.boolean b)
    | _, _ => .error [.here (.mismatch s.label value.kind)]
  | items texts s => (each (fun input => call (ofInput s.itemSchema input)) 0 (texts.map .text)).map .array
  | jsonItems values s => (each (fun input => call (ofInput s.itemSchema input)) 0 (values.map .json)).map .array
  | object members s =>
    if s.properties = [] then .ok (.json (.object members))
    else (eachProperty (fun value schema => call (json value schema)) s.required members s.properties).map
      fun declared => .object (declared ++ undeclared s.properties members)

/-- The calls that a call makes. -/
def made : Call → List Call
  | text t s =>
    match s.type with
    | .array => [items (s.collectionFormat.inOneText.split [t]) s]
    | .object =>
      match Json.read (Utf8.encode t) with
      | .error _ => []
      | .ok value => [json value s]
    | _ => []
  | json value s =>
    match s.type, value with
    | .object, .object members => [object members s]
    | .array, .array values => [jsonItems values s]
    | .file, _ => []
    | _, .string t => [text t s]
    | _, _ => []
  | items texts s => texts.map fun t => text t s.itemSchema
  | jsonItems values s => values.map fun value => json value s.itemSchema
  | object members s => s.properties.filterMap fun (name, property) =>
      (present? name members).map fun value => json value property

def Makes (c c' : Call) : Prop := c' ∈ c.made

/-- A call comes back with a result once all the calls have that it makes. -/
inductive Returns : Call → Answer → Prop
  | intro (c : Call) (call : Call → Answer) : (∀ c', Makes c c' → Returns c' (call c')) → Returns c (run call c)

/-- What coercion has for a call. -/
def result : Call → Answer
  | text t s => ofText s t
  | json value s => ofJson s value
  | items texts s => ofItems s texts
  | jsonItems values s => (coerceItems (values.map .json) s.items).map .array
  | object members s => ofJson { s with type := .object } (.object members)

/-- The schema of a call; items are read with one of an array, and members with one of an object. -/
def schema : Call → Schema
  | text _ s | json _ s => s
  | items _ s | jsonItems _ s => { s with type := .array }
  | object _ s => { s with type := .object }

/-- The length of the text in hand, which is the one in a JSON string too. -/
def inHand : Call → Nat
  | text t _ | json (.string t) _ => t.utf8ByteSize
  | _ => 0

section Run

variable {read read' : Input → Answer} {call call' : Call → Answer}

private theorem each_congr {inputs : List Input} (h : ∀ input ∈ inputs, read input = read' input) (index : Nat) :
    each read index inputs = each read' index inputs := by
  induction inputs generalizing index with
  | nil => rfl
  | cons input rest ih =>
    rw [each, each, h input (List.mem_cons_self ..), ih (fun other hm => h other (List.mem_cons_of_mem _ hm))]

private theorem eachProperty_congr {read read' : Json → Schema → Answer} {required : List String}
    {members : List (String × Json)} {properties : List (String × Schema)}
    (h : ∀ entry ∈ properties, ∀ value, present? entry.1 members = some value →
      read value entry.2 = read' value entry.2) :
    eachProperty read required members properties = eachProperty read' required members properties := by
  induction properties with
  | nil => rfl
  | cons property rest ih =>
    obtain ⟨name, schema⟩ := property
    rw [eachProperty, eachProperty, ih fun entry hm => h entry (List.mem_cons_of_mem _ hm)]
    cases hp : present? name members with
    | none => rfl
    | some value =>
      dsimp only
      rw [h (name, schema) (List.mem_cons_self ..) value hp]

private theorem run_congr {c : Call} (h : ∀ c', Makes c c' → call c' = call' c') : run call c = run call' c := by
  cases c with
  | text t s =>
    simp only [run, Makes, made] at *
    split
    · simp_all
    · split <;> simp_all
    · rfl
  | json value s =>
    simp only [run, Makes, made] at *
    split <;> simp_all
  | items texts s =>
    simp only [run]
    rw [each_congr]
    simp only [List.forall_mem_map]
    exact fun t ht => h _ (List.mem_map_of_mem ht)
  | jsonItems values s =>
    simp only [run]
    rw [each_congr]
    simp only [List.forall_mem_map]
    exact fun value hv => h _ (List.mem_map_of_mem hv)
  | object members s =>
    simp only [run]
    rw [eachProperty_congr]
    exact fun entry hm value hp => h _ (List.mem_filterMap.2 ⟨entry, hm, by simp [hp]⟩)

end Run

private theorem coerceProperties_eq (required : List String) (members : List (String × Json))
    (properties : List (String × Schema)) : coerceProperties required members properties =
      eachProperty (fun value schema => (json value schema).result) required members properties := by
  induction properties with
  | nil => rw [coerceProperties, eachProperty]
  | cons property rest ih =>
    obtain ⟨name, schema⟩ := property
    rw [coerceProperties, eachProperty, ih]
    rfl

private theorem result_ofInput (s : Schema) (input : Input) : (ofInput s input).result = coerce input s := by
  cases input <;> rfl

private theorem coerceItems_eq_each (s : Schema) (inputs : List Input) :
    coerceItems inputs s.items = each (fun input => (ofInput s.itemSchema input).result) 0 inputs := by
  simp only [coerceItems_eq, result_ofInput, Schema.itemSchema]

private theorem result_text_object {s : Schema} (ho : s.type = .object) (t : String) :
    (text t s).result = match Json.read (Utf8.encode t) with
      | .error message => .error [.here (.notJson message)]
      | .ok value => (json value s).result := by
  simp only [result, ofText, ofJson, coerce_object ho, membersOf_text]
  cases Json.read (Utf8.encode t) <;> rfl

private theorem result_json (value : Json) (s : Schema) : (json value s).result = run result (json value s) := by
  obtain ⟨type, format, collectionFormat, items, properties, required⟩ := s
  cases type with
  | array =>
    cases value with
    | string t => exact coerce_string (by simp) t
    | array values =>
      simp only [result, ofJson, coerce_array, coerceItems_eq, run]
      rfl
    | _ => rfl
  | object =>
    cases value with
    | string t => exact coerce_string (by simp) t
    | _ => rfl
  | _ => cases value <;> rfl

private theorem result_eq (c : Call) : c.result = run result c := by
  cases c with
  | text t s =>
    rw [run]
    split
    · next ha =>
      simp only [result, ofText, ofItems, coerce_array ha, coerceItems_eq]
      rfl
    · next ho => exact result_text_object ho t
    · next ha ho => exact coerce_scalar ha ho (.text t)
  | json value s => exact result_json value s
  | items texts s => rw [run, result, ofItems, coerceItems_eq_each]
  | jsonItems values s => rw [run, result, coerceItems_eq_each]
  | object members s =>
    rw [result, run, ofJson, coerce_object rfl, ← coerceProperties_eq]
    rfl

/-- The depth of the schema and the text in hand, and where both stay the rank of the function. -/
def measure (c : Call) : Nat ×ₗ Nat ×ₗ Nat := toLex (c.schema.depth, toLex (c.inHand, c.routine.rank))

section Measure

variable {c c' : Call}

private theorem measure_of_depth (h : c'.schema.depth < c.schema.depth) : c'.measure < c.measure :=
  Prod.Lex.toLex_lt_toLex.2 (.inl h)

private theorem measure_of_inHand (hs : c'.schema = c.schema) (h : c'.inHand < c.inHand) : c'.measure < c.measure :=
  Prod.Lex.toLex_lt_toLex.2 (.inr ⟨congrArg Schema.depth hs, Prod.Lex.toLex_lt_toLex.2 (.inl h)⟩)

private theorem measure_of_rank (hs : c'.schema = c.schema) (hh : c'.inHand ≤ c.inHand)
    (h : c'.routine.rank < c.routine.rank) :
    c'.measure < c.measure := by
  rcases Nat.lt_or_eq_of_le hh with hlt | heq
  · exact measure_of_inHand hs hlt
  · exact Prod.Lex.toLex_lt_toLex.2 (.inr ⟨congrArg Schema.depth hs, Prod.Lex.toLex_lt_toLex.2 (.inr ⟨heq, h⟩)⟩)

private theorem inHand_read {t : String} {value : Json} (h : Json.read (Utf8.encode t) = .ok value) (s : Schema) :
    (json value s).inHand < (text t s).inHand := by
  cases value with
  | string inner => exact Wraps.shorter h
  -- No other value has a text in hand, but the text that it was read from is not empty.
  | _ => exact Json.read_pos h

/-- A call that keeps its schema has less text in hand than the call that makes it, or as much and is further on. -/
private theorem measure_of_makes (h : Makes c c') : c'.measure < c.measure := by
  unfold Makes at h
  cases c with
  | text t s =>
    rw [made] at h
    split at h
    · next ha =>
      obtain rfl := List.mem_singleton.1 h
      exact measure_of_rank (Schema.with_type ha) (Nat.zero_le _) Nat.zero_lt_one
    · split at h
      · cases h
      · next value hr =>
        obtain rfl := List.mem_singleton.1 h
        exact measure_of_inHand rfl (inHand_read hr s)
    · cases h
  | json value s =>
    unfold made at h
    dsimp only at h
    split at h
    · next members ho =>
      obtain rfl := List.mem_singleton.1 h
      exact measure_of_rank (Schema.with_type ho) (Nat.zero_le _) Nat.zero_lt_two
    · next values ha =>
      obtain rfl := List.mem_singleton.1 h
      exact measure_of_rank (Schema.with_type ha) (Nat.zero_le _) Nat.zero_lt_two
    · cases h
    · obtain rfl := List.mem_singleton.1 h
      exact measure_of_rank rfl (Nat.le_refl _) Nat.one_lt_two
    · cases h
  | items texts s =>
    obtain ⟨t, -, rfl⟩ := List.mem_map.1 h
    exact measure_of_depth s.depth_items
  | jsonItems values s =>
    obtain ⟨value, -, rfl⟩ := List.mem_map.1 h
    exact measure_of_depth s.depth_items
  | object members s =>
    obtain ⟨entry, hm, hentry⟩ := List.mem_filterMap.1 h
    obtain ⟨value, -, rfl⟩ := Option.map_eq_some_iff.1 hentry
    exact measure_of_depth (Schema.depth_property hm)

private theorem measure_of_transGen (h : Relation.TransGen Makes c c') : c'.measure < c.measure := by
  induction h with
  | single h => exact measure_of_makes h
  | tail _ h ih => exact (measure_of_makes h).trans ih

/-- Around a cycle of calls, back to the function that it starts from, the schema gets less deep, or it stays as deep
and the text in hand gets shorter. -/
private theorem cycle_decreases (h : Relation.TransGen Makes c c') (hr : c'.routine = c.routine) :
    toLex (c'.schema.depth, c'.inHand) < toLex (c.schema.depth, c.inHand) := by
  have hlt := measure_of_transGen h
  simp only [measure, Prod.Lex.toLex_lt_toLex, hr, Nat.lt_irrefl, and_false, or_false] at hlt
  exact Prod.Lex.toLex_lt_toLex.2 hlt

end Measure

private theorem makes_wellFounded : WellFounded (flip Makes) :=
  Subrelation.wf measure_of_makes (InvImage.wf measure wellFounded_lt)

private theorem returns_iff {c : Call} {answer : Answer} : Returns c answer ↔ answer = c.result := by
  constructor
  · intro h
    induction h with
    | intro c call _ ih => rw [result_eq, run_congr ih]
  · rintro rfl
    induction c using makes_wellFounded.induction with
    | _ c ih =>
      rw [result_eq]
      exact .intro c result ih

end Call

/-- JSON strings in JSON strings come to an end. Every call comes back with one answer; what is wrapped in a text is
shorter than it, so that unwrapping ends with one text, and what this holds decides what a schema of an object makes of
the text: no JSON, an object, or something else than was expected. Around every cycle of calls the schema gets less
deep, or it stays as deep and the text in hand gets shorter. -/
theorem ofText_unwraps {s : Schema} (ho : s.type = .object) (text : String) :
    (∀ c answer, Call.Returns c answer ↔ answer = c.result) ∧
    (∀ outer inner, Wraps outer inner → inner.utf8ByteSize < outer.utf8ByteSize) ∧
    (∃! last, Unwraps text last) ∧
    (∀ last, Unwraps text last → ofText s text = match Json.read (Utf8.encode last) with
      | .error message => .error [.here (.notJson message)]
      | .ok (.object members) => ofJson s (.object members)
      | .ok other => .error [.here (.mismatch s.label other.kind)]) ∧
    ∀ c c', Relation.TransGen Call.Makes c c' → c'.routine = c.routine →
      toLex (c'.schema.depth, c'.inHand) < toLex (c.schema.depth, c.inHand) := by
  obtain ⟨last, hlast⟩ := exists_unwraps text
  exact ⟨fun _ _ => Call.returns_iff, fun _ _ => Wraps.shorter, ⟨last, hlast, fun _ => hlast.unique⟩,
    fun _ => ofText_object ho, fun _ _ => Call.cycle_decreases⟩

theorem ofText_unwraps_of_string :
    let s := (Schema.ofType .object).withRequiredProperty "name" .string
    let outer := "\"\x7b\x7d\""
    let inner := "\x7b\x7d"
    let lacking : Failure := ⟨[.property "name"], "name", .missingRequired, "missing required property"⟩
    Unwraps outer inner ∧ ofText s outer = .error [lacking] ∧ (Call.text outer s).Returns (.error [lacking]) ∧
      Relation.TransGen Call.Makes (.text outer s) (.text inner s) ∧
      toLex ((Call.text inner s).schema.depth, (Call.text inner s).inHand) <
        toLex ((Call.text outer s).schema.depth, (Call.text outer s).inHand) := by
  intro s outer inner lacking
  have houter : Json.read (Utf8.encode outer) = .ok (.string inner) :=
    (by decide +kernel : outer = (Json.string inner).text) ▸ wraps_text inner
  have hinner : Json.read (Utf8.encode inner) = .ok (.object []) :=
    (by decide +kernel : inner = (Json.object []).text) ▸ Json.read_text (.object nofun) (.object .nil nofun)
  have hunwraps : Unwraps outer inner :=
    ⟨.single houter, fun text h => by cases hinner.symm.trans h⟩
  have hread : Call.Makes (.text outer s) (.json (.string inner) s) := by
    have hmade : (Call.text outer s).made = match Json.read (Utf8.encode outer) with
      | .error _ => []
      | .ok value => [.json value s] := rfl
    rw [Call.Makes, hmade, houter]
    exact List.mem_singleton_self _
  have hcalls : Relation.TransGen Call.Makes (.text outer s) (.text inner s) :=
    .tail (.single hread) (List.mem_singleton_self _)
  obtain ⟨hreturns, -, -, hresult, hcycle⟩ := ofText_unwraps (s := s) rfl outer
  have hanswer : ofText s outer = .error [lacking] := by
    rw [hresult inner hunwraps, hinner]
    rfl
  exact ⟨hunwraps, hanswer, (hreturns _ _).2 hanswer.symm, hcalls, hcycle _ _ hcalls rfl⟩

end Coercion
end RequestBinding
