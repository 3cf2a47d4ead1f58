import RequestBinding.Proofs.Coercion.Cases
import Mathlib.Data.List.DropRight

/-! The walk of coercion through an input: the positions that it comes to, in order. Every position that fails is
reported once, with its path and its kind, and coercion succeeds where no position fails. -/

namespace RequestBinding

namespace Coercion

/-- A position in an input: the steps that lead to it, and what input meets what schema there. Where a required
property is not there, nothing is met. -/
structure Position where
  steps : List Step
  found : Option (Input × Schema)

namespace Position

def here (input : Input) (s : Schema) : Position := ⟨[], some (input, s)⟩

/-- A property that is required and not there, as seen from itself. -/
def lacking : Position := ⟨[], none⟩

/-- A position seen from one step further out. -/
def within (step : Step) (p : Position) : Position := { p with steps := step :: p.steps }

end Position

mutual

/-- The positions of an input under a schema: its own, then those in the items of an array, or in the properties of
an object in the order of their declaration. -/
def walk (input : Input) : Schema → List Position
  | ⟨type, format, collectionFormat, items, properties, required⟩ =>
    .here input ⟨type, format, collectionFormat, items, properties, required⟩ ::
      match type with
      | .array =>
        match input.items? collectionFormat with
        | none => []
        | some inputs => inputs.zipIdx.flatMap fun (item, index) => (walkItem item items).map (.within (.item index))
      | .object =>
        match input.members? with
        | none => []
        | some members => walkProperties required members properties
      | _ => []

/-- The positions of an item, a plain string where items have no schema. -/
def walkItem (input : Input) : Option Schema → List Position
  | none => [.here input .string]
  | some schema => walk input schema

/-- The positions in declared properties, and those of required ones that are not there or null. -/
def walkProperties (required : List String) (members : List (String × Json)) : List (String × Schema) → List Position
  | [] => []
  | (name, schema) :: rest =>
    (match Entries.get? name members with
      | none | some .null => if required.contains name then [Position.lacking] else []
      | some value => walk (.json value) schema).map (.within (.property name))
      ++ walkProperties required members rest

end

/-- What a result fails with. -/
def fault? {ε α : Type} : Except ε α → Option ε
  | .ok _ => none
  | .error fault => some fault

/-- What is wrong with an input itself, whatever its items or properties are. -/
def ownFault? (input : Input) (s : Schema) : Option Cause :=
  match s.type with
  | .array => fault? (itemsOf s.collectionFormat s.label input)
  | .object => fault? (membersOf s.label input)
  | _ => fault? (scalar s.type s.format input)

def Step.isItem : Step → Bool
  | property _ => false
  | item _ => true

namespace Position

def fault? (p : Position) : Option Cause :=
  match p.found with
  | some (input, s) => ownFault? input s
  | none => some .missing

def fails (p : Position) : Bool := p.fault?.isSome

/-- The item that the path of some steps ends in: nothing but properties without a name lead on from it. -/
def lastItem? (steps : List Step) : Option Nat :=
  match (steps.rdropWhile (· == .property "")).getLast? with
  | some (.item index) => some index
  | _ => none

/-- A failure that reports a position, with what is wrong there. The segments of its steps are joined by dots up to the
last one that is not empty. What is missing is missing, and anything else is malformed, as a collection where an item
is on the way. The message names the item that the path ends in. -/
structure Reports (p : Position) (f : Failure) : Prop where
  steps : f.steps = p.steps
  path : f.path = ".".intercalate ((p.steps.map Step.segment).rdropWhile (· == ""))
  kind : f.kind = if p.found.isNone then .missingRequired
    else if p.steps.any Step.isItem then .malformedCollection else .malformedValue
  message : ∃ cause, p.fault? = some cause ∧ f.message = match lastItem? p.steps with
    | some index => "item " ++ toString index ++ ": " ++ cause.message
    | none => cause.message

end Position

namespace Failure

/-- The dotted path of some steps. -/
def pathOf : List Step → String
  | [] => ""
  | step :: rest => if pathOf rest = "" then step.segment else step.segment ++ "." ++ pathOf rest

/-- The failure at the end of some steps, seen from their start. -/
def along (steps : List Step) (cause : Cause) : Failure := steps.foldr within (.here cause)

end Failure

section Path

private theorem rdropWhile_cons {α : Type} (test : α → Bool) (a : α) (rest : List α) :
    (a :: rest).rdropWhile test =
      if rest.rdropWhile test = [] then (if test a then [] else [a]) else a :: rest.rdropWhile test := by
  simp only [List.rdropWhile, List.reverse_cons, List.dropWhile_append, List.isEmpty_iff, List.reverse_eq_nil_iff]
  split
  · cases h : test a <;> simp [List.dropWhile, h]
  · simp

private theorem intercalate_eq_empty_iff {segments : List String}
    (h : ∀ hne : segments ≠ [], segments.getLast hne ≠ "") : ".".intercalate segments = "" ↔ segments = [] := by
  match segments with
  | [] => simp
  | [segment] => simpa using h
  | segment :: next :: rest =>
    rw [String.intercalate_cons_cons]
    simp

/-- The path has the segments of all steps, but for empty ones at the end. -/
theorem pathOf_eq_intercalate (steps : List Step) :
    Failure.pathOf steps = ".".intercalate ((steps.map Step.segment).rdropWhile (· == "")) := by
  induction steps with
  | nil => simp [Failure.pathOf]
  | cons step rest ih =>
    have hlast : ".".intercalate ((rest.map Step.segment).rdropWhile (· == "")) = "" ↔
        (rest.map Step.segment).rdropWhile (· == "") = [] :=
      intercalate_eq_empty_iff fun hne => by simpa using List.rdropWhile_last_not _ _ hne
    rw [Failure.pathOf, ih, List.map_cons, rdropWhile_cons]
    simp only [hlast]
    split
    · by_cases hs : step.segment = "" <;> simp [hs]
    · next hne =>
      obtain ⟨next, more, he⟩ := List.exists_cons_of_ne_nil hne
      rw [he, String.intercalate_cons_cons]

private theorem pathOf_eq_empty_iff (steps : List Step) :
    Failure.pathOf steps = "" ↔ steps.rdropWhile (· == .property "") = [] := by
  induction steps with
  | nil => simp [Failure.pathOf]
  | cons step rest ih =>
    rw [Failure.pathOf, rdropWhile_cons]
    simp only [← ih]
    by_cases hrest : Failure.pathOf rest = ""
    · cases step with
      | property name => by_cases hname : name = "" <;> simp [hrest, hname, Step.segment]
      | item index => simp [hrest, Step.segment]
    · simp [hrest]

open Position

private theorem lastItem?_property (name : String) (rest : List Step) :
    lastItem? (.property name :: rest) = lastItem? rest := by
  unfold lastItem?
  rw [rdropWhile_cons]
  by_cases hrest : rest.rdropWhile (· == .property "") = []
  · by_cases hname : name = "" <;> simp [hrest, hname]
  · rw [if_neg hrest, List.getLast?_cons_of_ne_nil hrest]

private theorem lastItem?_item (index : Nat) (rest : List Step) :
    lastItem? (.item index :: rest) = if Failure.pathOf rest = "" then some index else lastItem? rest := by
  unfold lastItem?
  rw [rdropWhile_cons]
  simp only [pathOf_eq_empty_iff]
  by_cases hrest : rest.rdropWhile (· == .property "") = []
  · simp [hrest]
  · rw [if_neg hrest, if_neg hrest, List.getLast?_cons_of_ne_nil hrest]

private theorem lastItem?_of_pathOf {steps : List Step} (h : Failure.pathOf steps = "") : lastItem? steps = none := by
  rw [lastItem?, (pathOf_eq_empty_iff steps).1 h]
  rfl

end Path

section Along

variable (steps : List Step) (cause : Cause)

theorem Failure.steps_along : (along steps cause).steps = steps := by
  induction steps with
  | nil => rfl
  | cons step rest ih => cases step <;> exact congrArg (_ :: ·) ih

theorem Failure.path_along : (along steps cause).path = pathOf steps := by
  induction steps with
  | nil => rfl
  | cons step rest ih =>
    rw [pathOf, ← ih]
    cases step <;> rfl

/-- What is malformed is malformed as a collection from the innermost item outwards. -/
theorem Failure.kind_along : (along steps cause).kind =
    if cause.kind = .malformedValue ∧ steps.any Step.isItem then .malformedCollection else cause.kind := by
  induction steps with
  | nil => simp [along, here]
  | cons step rest ih =>
    cases step with
    | property name =>
      have hsame : (along (.property name :: rest) cause).kind = (along rest cause).kind := rfl
      simp only [hsame, ih, List.any_cons, Step.isItem, Bool.false_or]
    | item index =>
      have hitem : (along (.item index :: rest) cause).kind =
          if (along rest cause).kind = .malformedValue then .malformedCollection else (along rest cause).kind := rfl
      rw [hitem, ih]
      split <;> split <;> simp_all [Step.isItem]

private theorem Failure.message_along : (along steps cause).message = match Position.lastItem? steps with
    | some index => "item " ++ toString index ++ ": " ++ cause.message
    | none => cause.message := by
  induction steps with
  | nil => rfl
  | cons step rest ih =>
    cases step with
    | property name => rwa [lastItem?_property]
    | item index =>
      have hitem : (along (.item index :: rest) cause).message = if (along rest cause).path = "" then
          "item " ++ toString index ++ ": " ++ (along rest cause).message else (along rest cause).message := rfl
      rw [hitem, path_along, lastItem?_item, ih]
      split
      · next hempty => rw [lastItem?_of_pathOf hempty]
      · rfl

end Along

section Equations

variable {s : Schema}

theorem walk_scalar (ha : s.type ≠ .array) (ho : s.type ≠ .object) (input : Input) :
    walk input s = [.here input s] := by
  obtain ⟨type, format, collectionFormat, items, properties, required⟩ := s
  cases type <;> simp_all [walk]

private theorem walkItem_eq (input : Input) (items : Option Schema) :
    walkItem input items = walk input (items.getD .string) := by
  cases items with
  | none =>
    rw [walkItem, Option.getD_none, walk_scalar] <;> simp [Schema.string, Schema.ofType]
  | some schema => rw [walkItem, Option.getD_some]

theorem walk_array (h : s.type = .array) (input : Input) :
    walk input s = .here input s :: match input.items? s.collectionFormat with
      | none => []
      | some inputs => inputs.zipIdx.flatMap fun (item, index) =>
          (walk item s.itemSchema).map (.within (.item index)) := by
  obtain ⟨type, format, collectionFormat, items, properties, required⟩ := s
  obtain rfl : type = .array := h
  simp only [walk, walkItem_eq]
  rfl

/-- The positions below a declared property, as seen from the property itself. -/
def walkProperty (required : List String) (members : List (String × Json)) (property : String × Schema) : List Position :=
  match Entries.get? property.1 members with
  | none | some .null => if property.1 ∈ required then [.lacking] else []
  | some value => walk (.json value) property.2

theorem walkProperty_eq (required : List String) (members : List (String × Json)) (property : String × Schema) :
    walkProperty required members property = match present? property.1 members with
      | some value => walk (.json value) property.2
      | none => if property.1 ∈ required then [.lacking] else [] := by
  unfold walkProperty present?
  cases Entries.get? property.1 members with
  | none => rfl
  | some value => cases value <;> rfl

private theorem walkProperties_eq (required : List String) (members : List (String × Json))
    (properties : List (String × Schema)) :
    walkProperties required members properties =
      properties.flatMap fun property => (walkProperty required members property).map (.within (.property property.1)) := by
  induction properties with
  | nil => rw [walkProperties, List.flatMap_nil]
  | cons property rest ih =>
    rw [walkProperties, ih, List.flatMap_cons, walkProperty]
    simp only [List.contains_iff_mem]

theorem walk_object (h : s.type = .object) (input : Input) :
    walk input s = .here input s :: match input.members? with
      | none => []
      | some members => s.properties.flatMap fun property =>
          (walkProperty s.required members property).map (.within (.property property.1)) := by
  obtain ⟨type, format, collectionFormat, items, properties, required⟩ := s
  obtain rfl : type = .object := h
  simp only [walk, walkProperties_eq]

end Equations

section OwnFault

variable {s : Schema} {input : Input}

private theorem ownFault?_scalar (ha : s.type ≠ .array) (ho : s.type ≠ .object) :
    ownFault? input s = fault? (scalar s.type s.format input) := by
  unfold ownFault?
  split <;> simp_all

private theorem ownFault?_array (h : s.type = .array) :
    ownFault? input s = fault? (itemsOf s.collectionFormat s.label input) := by
  unfold ownFault?
  rw [h]

private theorem ownFault?_object (h : s.type = .object) : ownFault? input s = fault? (membersOf s.label input) := by
  unfold ownFault?
  rw [h]

end OwnFault

/-- The failures that a result comes with. -/
def reported {α : Type} : Except (List Failure) α → List Failure
  | .ok _ => []
  | .error failures => failures

section Reported

variable {α β : Type}

@[simp] private theorem reported_map (f : α → β) (result : Except (List Failure) α) :
    reported (result.map f) = reported result := by
  cases result <;> rfl

@[simp] private theorem reported_within (step : Step) (result : Except (List Failure) α) :
    reported (within step result) = (reported result).map (.within step) := by
  cases result <;> rfl

@[simp] private theorem reported_both (first : Except (List Failure) α) (second : Except (List Failure) β) :
    reported (both first second) = reported first ++ reported second := by
  cases first <;> cases second <;> simp [both, reported]

@[simp] private theorem reported_atPlace (result : Except Cause α) : reported (atPlace result) =
    ((fault? result).map .here).toList := by
  cases result <;> rfl

private theorem reported_each (read : Input → Except (List Failure) α) (index : Nat) (inputs : List Input) :
    reported (each read index inputs) = (inputs.zipIdx index).flatMap fun (input, index) =>
      (reported (read input)).map (.within (.item index)) := by
  induction inputs generalizing index with
  | nil => rfl
  | cons input rest ih => rw [each, reported_map, reported_both, reported_within, ih, List.zipIdx_cons, List.flatMap_cons]

end Reported

namespace Position

/-- The failure of a position, where it fails. -/
def failure? (p : Position) : Option Failure := p.fault?.map (.along p.steps)

private theorem failures_within (step : Step) (positions : List Position) :
    (positions.map (within step)).filterMap failure? = (positions.filterMap failure?).map (.within step) := by
  rw [List.filterMap_map, List.map_filterMap]
  refine List.filterMap_congr fun p _ => ?_
  simp only [failure?, Function.comp_apply, Option.map_map]
  rfl

end Position

private theorem reported_properties (required : List String) (members : List (String × Json))
    {properties : List (String × Schema)} (h : ∀ property ∈ properties, ∀ input,
      reported (coerce input property.2) = (walk input property.2).filterMap Position.failure?) :
    reported (coerceProperties required members properties) = properties.flatMap fun property =>
      ((walkProperty required members property).filterMap Position.failure?).map (.within (.property property.1)) := by
  induction properties with
  | nil => rw [coerceProperties, List.flatMap_nil, reported]
  | cons property rest ih =>
    obtain ⟨hown, hrest⟩ := List.forall_mem_cons.1 h
    rw [List.flatMap_cons, ← ih hrest, coerceProperties, walkProperty_eq]
    cases present? property.1 members with
    | some value => simp only [reported_map, reported_both, reported_within, hown]
    | none =>
      by_cases hr : property.1 ∈ required
      · simp only [List.contains_iff_mem, hr, if_true, reported_map, reported_both, reported_within]
        rfl
      · simp [hr]

/-- Coercion reports the failing positions of its walk, in the order of the walk. -/
theorem reported_coerce (input : Input) (s : Schema) :
    reported (coerce input s) = (walk input s).filterMap Position.failure? := by
  induction s using Schema.itemInduction generalizing input with
  | scalar s ha ho =>
    rw [coerce_scalar ha ho, walk_scalar ha ho, reported_atPlace, ← ownFault?_scalar ha ho]
    simp only [Position.failure?, Position.fault?, Position.here, List.filterMap_cons]
    cases ownFault? input s <;> rfl
  | array s ha ih =>
    rw [coerce_array ha, walk_array ha, List.filterMap_cons, ← toOption_itemsOf s.label]
    simp only [Position.failure?, Position.fault?, Position.here, ownFault?_array ha]
    cases itemsOf s.collectionFormat s.label input with
    | error cause => rfl
    | ok inputs =>
      simp only [fault?, Except.toOption, Option.map_none, reported_map, reported_each, List.filterMap_flatMap,
        Position.failures_within, ih]
  | object s ho ih =>
    rw [coerce_object ho, walk_object ho, List.filterMap_cons, ← toOption_membersOf s.label]
    simp only [Position.failure?, Position.fault?, Position.here, ownFault?_object ho]
    cases membersOf s.label input with
    | error cause => rfl
    | ok members =>
      simp only [fault?, Except.toOption, Option.map_none, List.filterMap_flatMap, Position.failures_within]
      rw [← reported_properties s.required members ih]
      split
      · next hp => rw [hp, coerceProperties, reported, reported]
      · rw [reported_map]

section Missing

theorem scalarOfText_ne_missing (type : ValueType) (format : Option Format) (text : String) :
    scalarOfText type format text ≠ .error .missing := by
  have htyped (result : Except TextFault Value) :
      (result.mapError fun fault => Cause.notText text (labelOf type format) fault) ≠ .error .missing := by
    cases result <;> simp [Except.mapError]
  unfold scalarOfText
  cases type <;> first | exact htyped _ | simp

theorem scalarOfJson_ne_missing (type : ValueType) (format : Option Format) (value : Json) :
    scalarOfJson type format value ≠ .error .missing := by
  unfold scalarOfJson
  split
  · simp
  · exact scalarOfText_ne_missing _ _ _
  · unfold integerOfNumber
    split
    · simp
    · split <;> simp
    · simp
  · unfold decimalOfNumber
    dsimp only
    split
    · split
      · split <;> simp
      · simp
    · simp
  · simp
  · simp

private theorem ownFault?_ne_missing (input : Input) (s : Schema) : ownFault? input s ≠ some .missing := by
  have hfault {α : Type} {result : Except Cause α} (h : result ≠ .error .missing) : fault? result ≠ some .missing := by
    cases result with
    | ok a => simp [fault?]
    | error cause => simpa [fault?] using h
  unfold ownFault?
  split
  · apply hfault
    unfold itemsOf
    split <;> simp
  · apply hfault
    unfold membersOf
    dsimp only
    split <;> simp
  · apply hfault
    cases input with
    | text t => exact scalarOfText_ne_missing _ _ _
    | json v => exact scalarOfJson_ne_missing _ _ _

end Missing

section Distinct

variable {α : Type}

private theorem branches_nodup (step : α → Step) (below : α → List Position) {branches : List α}
    (hsteps : (branches.map step).Nodup) (hbelow : ∀ a ∈ branches, ((below a).map Position.steps).Nodup) :
    ([] :: (branches.flatMap fun a => (below a).map (.within (step a))).map Position.steps).Nodup := by
  have hcons (a : α) : ((below a).map (.within (step a))).map Position.steps =
      ((below a).map Position.steps).map (step a :: ·) := by
    rw [List.map_map, List.map_map]
    rfl
  simp only [List.map_flatMap, hcons, List.nodup_cons, List.mem_flatMap, List.mem_map, List.nodup_flatMap]
  refine ⟨by simp, fun a ha => (hbelow a ha).map (List.cons_injective), ?_⟩
  refine (List.pairwise_map.1 hsteps).imp fun {a b} hne => ?_
  intro steps hs ht
  obtain ⟨_, _, rfl⟩ := List.mem_map.1 hs
  obtain ⟨_, _, he⟩ := List.mem_map.1 ht
  exact hne (List.cons.inj he).1.symm

/-- The walk comes to no position twice. -/
private theorem walk_nodup (input : Input) {s : Schema} (h : s.Distinct) :
    ((walk input s).map Position.steps).Nodup := by
  induction s using Schema.itemInduction generalizing input with
  | scalar s ha ho =>
    rw [walk_scalar ha ho]
    exact List.nodup_singleton _
  | array s ha ih =>
    rw [walk_array ha]
    cases input.items? s.collectionFormat with
    | none => exact List.nodup_singleton _
    | some inputs =>
      refine branches_nodup (fun (item : Input × Nat) => .item item.2) (fun item => walk item.1 s.itemSchema) ?_
        fun item _ => ih item.1 h.itemSchema
      have hindex : inputs.zipIdx.map (fun (item : Input × Nat) => Step.item item.2) =
          (List.range' 0 inputs.length).map .item := by
        rw [← List.zipIdx_map_snd, List.map_map]
        rfl
      rw [hindex]
      exact (List.nodup_range' ..).map fun _ _ => Step.item.inj
  | object s ho ih =>
    rw [walk_object ho]
    cases input.members? with
    | none => exact List.nodup_singleton _
    | some members =>
      refine branches_nodup (fun (property : String × Schema) => .property property.1)
        (walkProperty s.required members) ?_ fun property hp => ?_
      · have hnames : ((s.properties.map Prod.fst).map Step.property).Nodup :=
          h.properties_nodup.map fun _ _ => Step.property.inj
        rwa [List.map_map] at hnames
      · rw [walkProperty_eq]
        split
        · exact ih property hp _ (h.property hp)
        · split
          · exact List.nodup_singleton _
          · exact .nil

end Distinct

namespace Position

theorem reports_of_failure? {p : Position} {f : Failure} (h : p.failure? = some f) : p.Reports f := by
  obtain ⟨cause, hc, rfl⟩ := Option.map_eq_some_iff.1 h
  have hmissing : cause.kind = if p.found.isNone then .missingRequired else .malformedValue := by
    unfold fault? at hc
    split at hc
    · next input s hfound =>
      rw [hfound]
      cases cause with
      | missing => exact absurd hc (ownFault?_ne_missing input s)
      | _ => rfl
    · next hfound =>
      obtain rfl := Option.some.inj hc
      rw [hfound]
      rfl
  refine ⟨Failure.steps_along .., ?_, ?_, cause, hc, Failure.message_along ..⟩
  · rw [Failure.path_along, pathOf_eq_intercalate]
  · rw [Failure.kind_along, hmissing]
    cases p.found.isNone <;> simp

private theorem forall₂_reports (positions : List Position) :
    List.Forall₂ Reports (positions.filter fails) (positions.filterMap failure?) := by
  induction positions with
  | nil => exact .nil
  | cons p rest ih =>
    rw [List.filter_cons, List.filterMap_cons]
    cases hf : p.failure? with
    | none =>
      have hfails : p.fails = false := by simpa [failure?, fails] using hf
      simpa [hfails] using ih
    | some f =>
      have hfails : p.fails = true := by
        obtain ⟨cause, hc, -⟩ := Option.map_eq_some_iff.1 hf
        simp [fails, hc]
      simpa [hfails] using ⟨reports_of_failure? hf, ih⟩

end Position

/-- Coercion walks through its input, item by item and property by property in the order of the schema. It succeeds
where no position fails, and else reports each failing position once, in the order of the walk and with its path, its
kind and its message. A value that it gives has its items in order, and its declared properties before all other
members. -/
theorem coerce_reports_failing_positions (s : Schema) (input : Input) :
    (s.Distinct → ((walk input s).map Position.steps).Nodup) ∧
    match coerce input s with
    | .ok value => (walk input s).filter Position.fails = [] ∧ Reads input s value
    | .error failures =>
      failures ≠ [] ∧ List.Forall₂ Position.Reports ((walk input s).filter Position.fails) failures := by
  refine ⟨walk_nodup input, ?_⟩
  have hreports := Position.forall₂_reports (walk input s)
  rw [← reported_coerce] at hreports
  split
  · next value h =>
    rw [h] at hreports
    exact ⟨List.forall₂_nil_right_iff.1 hreports, coerce_eq_ok.1 h⟩
  · next failures h =>
    rw [h] at hreports
    exact ⟨Explained.coerce input s failures h, hreports⟩

theorem coerce_reports_failing_positions_of_item :
    let s := Schema.array (((Schema.ofType .object).withRequiredProperty "name" .string).withProperty "age"
      ((Schema.ofType .integer).withFormat .int32))
    let input := Input.json (.array [.object [("age", .string "old"), ("note", .null)], .bool true])
    s.Distinct ∧ ((walk input s).map Position.steps).Nodup ∧
      ((walk input s).filter Position.fails).map Position.steps =
        [[.item 0, .property "name"], [.item 0, .property "age"], [.item 1]] ∧
      (reported (coerce input s)).map (fun f => (f.path, f.kind, f.message)) =
        [("0.name", .missingRequired, "missing required property"),
          ("0.age", .malformedCollection, "'old' is not a valid integer/int32: invalid digit found in string"),
          ("1", .malformedCollection, "item 1: expected object, found boolean")] := by
  intro s input
  have hs : s.Distinct := .array (.withProperty (.withRequiredProperty (.ofType _) _ (.ofType _)) _
    (.withFormat (.ofType _) _))
  exact ⟨hs, (coerce_reports_failing_positions s input).1 hs, by decide +kernel, by decide +kernel⟩

end Coercion
end RequestBinding
