import RequestBinding.Json.ShapeText
import RequestBinding.Proofs.Entries
import RequestBinding.Proofs.Json.Nesting

/-! What is read as a value of some shape: names in dictionaries are distinct, JSON values have room where they are
read, and a predicate that holds of a record when it holds of those within holds of the whole document. -/

namespace RequestBinding.Json

/-- What stands for a field that is not given is as a predicate has it. -/
def Absence.Holds {α : Type} (Q : α → Prop) : Absence α → Prop
  | .refused => True
  | .inObject value | .always value => Q value

variable {σ : Type} (P : Nat → σ → Prop)

/-- A value that null does not stand for where a field may be null. -/
def Shape.Given : {α : Type} → Shape σ α → α → Prop
  | _, .json, value => value ≠ .null
  | _, _, _ => True

mutual

/-- Values of a shape that have some room to nest: no name stands twice in a dictionary, and the predicate holds of what
the shape refers to. -/
def Shape.Holds : {α : Type} → Shape σ α → Nat → α → Prop
  | _, .list item, depth, values => ∀ value ∈ values, ∃ inner, depth = inner + 1 ∧ item.Holds inner value
  | _, .dictionary shape, depth, entries => (entries.map Prod.fst).Nodup ∧
      ∀ entry ∈ entries, ∃ inner, depth = inner + 1 ∧ shape.Holds inner entry.2
  | _, .record r, depth, value => ∃ inner, depth = inner + 1 ∧ r.Holds inner value
  | _, .itself, depth, value => P depth value
  | _, .json, depth, value => value.Fits depth
  | _, .nothing, _, _ => True
  | _, .bool, _, _ => True
  | _, .string, _, _ => True
  | _, .size, _, _ => True
  | _, .int32, _, _ => True
  | _, .int64, _, _ => True
  | _, .choice _, _, _ => True

def Record.Holds : {α : Type} → Record σ α → Nat → α → Prop
  | _, .mk _ _ fields build, depth, value => ∃ found, fields.Holds depth found ∧ build found = value

def Fields.Holds : {β : Type} → Fields σ β → Nat → β → Prop
  | _, .nil, _, _ => True
  | _, .field _ shape _ _ rest, depth, (value, values) => shape.Holds depth value ∧ rest.Holds depth values
  | _, .nullable _ shape _ _ rest, depth, (value, values) =>
      (∀ given, value = some given → shape.Holds depth given ∧ shape.Given given) ∧ rest.Holds depth values

end

mutual

/-- Shapes whose fields stand for what they have to where they are not given or given already. -/
def Shape.Sound : {α : Type} → Shape σ α → Nat → Prop
  | _, .list item, depth => ∀ inner, depth = inner + 1 → item.Sound inner
  | _, .dictionary shape, depth => ∀ inner, depth = inner + 1 → shape.Sound inner
  | _, .record r, depth => ∀ inner, depth = inner + 1 → r.Sound inner
  | _, .itself, _ => True
  | _, .nothing, _ => True
  | _, .bool, _ => True
  | _, .string, _ => True
  | _, .size, _ => True
  | _, .int32, _ => True
  | _, .int64, _ => True
  | _, .json, _ => True
  | _, .choice _, _ => True

def Record.Sound : {α : Type} → Record σ α → Nat → Prop
  | _, .mk _ _ fields _, depth => fields.Sound depth

def Fields.Sound : {β : Type} → Fields σ β → Nat → Prop
  | _, .nil, _ => True
  | _, .field _ shape absence found rest, depth => shape.Sound depth ∧ absence.Holds (shape.Holds P depth) ∧
      (∀ given, found = some given → shape.Holds P depth given) ∧ rest.Sound depth
  | _, .nullable _ shape absence found rest, depth => shape.Sound depth ∧
      absence.Holds (fun value => ∀ given, value = some given → shape.Holds P depth given ∧ shape.Given given) ∧
      (∀ given, found = some (some given) → shape.Holds P depth given ∧ shape.Given given) ∧ rest.Sound depth

end

variable {P} {depth : Nat}

theorem Fields.withDefault_sound {α β : Type} {shape : Shape σ α} {value : α} {rest : Fields σ β}
    (hshape : shape.Sound P depth) (hv : shape.Holds P depth value) (hrest : rest.Sound P depth) (name : String) :
    (Fields.withDefault name shape value rest).Sound P depth := ⟨hshape, hv, nofun, hrest⟩

theorem Fields.optional_sound {α β : Type} {shape : Shape σ α} {rest : Fields σ β} (hshape : shape.Sound P depth)
    (hrest : rest.Sound P depth) (name : String) : (Fields.optional name shape rest).Sound P depth :=
  ⟨hshape, nofun, nofun, hrest⟩

private theorem complete_holds {α : Type} {Q : α → Prop} {name : String} {absence : Absence α} {found : Option α}
    {value : α}
    (ha : absence.Holds Q) (hf : ∀ given, found = some given → Q given)
    (h : Fields.complete name absence found = .ok value) : Q value := by
  cases found with
  | some given => exact Except.ok.inj h ▸ hf given rfl
  | none =>
    cases absence with
    | refused => cases h
    | inObject given => exact Except.ok.inj h ▸ ha
    | always given => exact Except.ok.inj h ▸ ha

private theorem beyond_holds {α : Type} {Q : α → Prop} {mismatch : Mismatch} {absence : Absence α} {value : α}
    (ha : absence.Holds Q) (h : Fields.beyond mismatch absence = .ok value) : Q value := by
  cases absence with
  | refused => cases h
  | inObject given => cases h
  | always given => exact Except.ok.inj h ▸ ha

private theorem Fields.finish_holds : {β : Type} → (fields : Fields σ β) → fields.Sound P depth → {values : β} →
    fields.finish = .ok values → fields.Holds P depth values
  | _, .nil, _, _, _ => trivial
  | _, .field name shape absence found rest, hs, _, h => by
    obtain ⟨-, ha, hf, hrest⟩ := hs
    obtain ⟨value, hv, h⟩ := bind_eq_ok.1 h
    obtain ⟨values, hvs, h⟩ := bind_eq_ok.1 h
    cases h
    exact ⟨complete_holds ha hf hv, rest.finish_holds hrest hvs⟩
  | _, .nullable name shape absence found rest, hs, _, h => by
    obtain ⟨-, ha, hf, hrest⟩ := hs
    obtain ⟨value, hv, h⟩ := bind_eq_ok.1 h
    obtain ⟨values, hvs, h⟩ := bind_eq_ok.1 h
    cases h
    refine ⟨complete_holds ha ?_ hv, rest.finish_holds hrest hvs⟩
    rintro given hg inner rfl
    exact hf inner hg

private theorem Fields.finishArray_holds : {β : Type} → (fields : Fields σ β) → fields.Sound P depth →
    {expected : String} →
    {index : Nat} → {values : β} → fields.finishArray expected index = .ok values → fields.Holds P depth values
  | _, .nil, _, _, _, _, _ => trivial
  | _, .field name shape absence found rest, hs, _, _, _, h => by
    obtain ⟨-, ha, hf, hrest⟩ := hs
    obtain ⟨value, hv, h⟩ := bind_eq_ok.1 h
    obtain ⟨values, hvs, h⟩ := bind_eq_ok.1 h
    cases h
    exact ⟨beyond_holds ha hv, rest.finishArray_holds hrest hvs⟩
  | _, .nullable name shape absence found rest, hs, _, _, _, h => by
    obtain ⟨-, ha, hf, hrest⟩ := hs
    obtain ⟨value, hv, h⟩ := bind_eq_ok.1 h
    obtain ⟨values, hvs, h⟩ := bind_eq_ok.1 h
    cases h
    exact ⟨beyond_holds ha hv, rest.finishArray_holds hrest hvs⟩

/-- Given fields are sound and have the values that the fields had before. -/
def Fields.Refines {β : Type} (P : Nat → σ → Prop) (depth : Nat) (given fields : Fields σ β) : Prop :=
  given.Sound P depth ∧ ∀ values, given.Holds P depth values → fields.Holds P depth values

theorem give_eq_taken {ε β γ : Type} {f : Fields σ β → Fields σ γ} {result : Except ε (Fields.Given σ β)}
    {given : Fields σ γ} (h : result.map (Fields.Given.map f) = .ok (.taken given)) :
    ∃ inner, result = .ok (.taken inner) ∧ f inner = given := by
  obtain ⟨outcome, ho, h⟩ := map_eq_ok.1 h
  cases outcome with
  | unknown => cases h
  | twice => cases h
  | taken inner => exact ⟨inner, ho, Fields.Given.taken.inj h⟩

private theorem Fields.give_refines {ε : Type} {read : {α : Type} → Shape σ α → Except ε α} {isNull : Bool}
    (hread : ∀ {α : Type} (shape : Shape σ α), shape.Sound P depth → ∀ value, read shape = .ok value →
      shape.Holds P depth value ∧ (isNull = false → shape.Given value))
    {name : String} : {β : Type} → (fields : Fields σ β) → fields.Sound P depth → {given : Fields σ β} →
    fields.give read isNull name = .ok (.taken given) → given.Refines P depth fields
  | _, .nil, _, _, h => nomatch h
  | _, .field own shape absence found rest, hs, _, h => by
    obtain ⟨hshape, ha, hf, hrest⟩ := hs
    rw [Fields.give] at h
    split at h
    · split at h
      · cases h
      · obtain ⟨value, hv, h⟩ := map_eq_ok.1 h
        obtain rfl := Fields.Given.taken.inj h
        refine ⟨⟨hshape, ha, ?_, hrest⟩, fun _ hh => hh⟩
        intro other ho
        exact Option.some.inj ho ▸ (hread shape hshape value hv).1
    · obtain ⟨inner, hi, rfl⟩ := give_eq_taken h
      obtain ⟨hsound, hholds⟩ := rest.give_refines hread hrest hi
      exact ⟨⟨hshape, ha, hf, hsound⟩, fun values hh => ⟨hh.1, hholds _ hh.2⟩⟩
  | _, .nullable own shape absence found rest, hs, _, h => by
    obtain ⟨hshape, ha, hf, hrest⟩ := hs
    rw [Fields.give] at h
    split at h
    · split at h
      · cases h
      · split at h
        · obtain rfl := Fields.Given.taken.inj (Except.ok.inj h)
          exact ⟨⟨hshape, ha, nofun, hrest⟩, fun _ hh => hh⟩
        · next hn =>
          obtain ⟨value, hv, h⟩ := map_eq_ok.1 h
          obtain rfl := Fields.Given.taken.inj h
          obtain ⟨hvalue, hgiven⟩ := hread shape hshape value hv
          refine ⟨⟨hshape, ha, ?_, hrest⟩, fun _ hh => hh⟩
          intro other ho
          exact Option.some.inj (Option.some.inj ho) ▸ ⟨hvalue, hgiven (Bool.eq_false_iff.2 hn)⟩
    · obtain ⟨inner, hi, rfl⟩ := give_eq_taken h
      obtain ⟨hsound, hholds⟩ := rest.give_refines hread hrest hi
      exact ⟨⟨hshape, ha, hf, hsound⟩, fun values hh => ⟨hh.1, hholds _ hh.2⟩⟩

private theorem Record.build_holds {ε α : Type} {run : {β : Type} → Fields σ β → Except ε β}
    (hrun : ∀ {β : Type} (fields : Fields σ β), fields.Sound P depth → ∀ values, run fields = .ok values →
      fields.Holds P depth values)
    {r : Record σ α} (hs : r.Sound P depth) {value : α} (h : r.build run = .ok value) : r.Holds P depth value := by
  cases r with
  | mk name strict fields make =>
    obtain ⟨values, hv, rfl⟩ := map_eq_ok.1 h
    exact ⟨values, hrun fields hs values hv, rfl⟩

section Leaves

variable {self : Record σ σ} {α : Type} {shape : Shape σ α} {value : α}

private theorem Shape.ofNullText_holds {start : Nat} (h : shape.ofNullText self start = .ok value) :
    shape.Holds P depth value := by
  cases shape with
  | json =>
    cases h
    exact .null depth
  | list item => cases h
  | dictionary shape => cases h
  | record r => cases h
  | itself => cases h
  | _ => trivial

private theorem Shape.ofBoolText_holds {b : Bool} {start : Nat} (h : shape.ofBoolText self b start = .ok value) :
    shape.Holds P depth value ∧ shape.Given value := by
  cases shape with
  | json =>
    cases h
    exact ⟨.bool depth b, nofun⟩
  | list item => cases h
  | dictionary shape => cases h
  | record r => cases h
  | itself => cases h
  | _ => exact ⟨trivial, trivial⟩

private theorem Shape.ofNumberText_holds {start : Nat} {literal : NumberLiteral} {stop : Nat}
    (h : shape.ofNumberText self start literal stop = .ok value) : shape.Holds P depth value ∧ shape.Given value := by
  cases shape with
  | json =>
    obtain ⟨n, -, rfl⟩ := map_eq_ok.1 h
    exact ⟨.number depth n, nofun⟩
  | list item =>
    obtain ⟨n, -, h⟩ := bind_eq_ok.1 h
    cases h
  | dictionary shape =>
    obtain ⟨n, -, h⟩ := bind_eq_ok.1 h
    cases h
  | record r =>
    obtain ⟨n, -, h⟩ := bind_eq_ok.1 h
    cases h
  | itself =>
    obtain ⟨n, -, h⟩ := bind_eq_ok.1 h
    cases h
  | _ => exact ⟨trivial, trivial⟩

private theorem Shape.ofStringText_holds {start : Place} (h : shape.ofStringText self start = .ok value) :
    shape.Holds P depth value ∧ shape.Given value := by
  cases shape with
  | json =>
    obtain ⟨⟨s, stop⟩, -, rfl⟩ := map_eq_ok.1 h
    exact ⟨.string depth s, nofun⟩
  | list item =>
    obtain ⟨n, -, h⟩ := bind_eq_ok.1 h
    cases h
  | dictionary shape =>
    obtain ⟨n, -, h⟩ := bind_eq_ok.1 h
    cases h
  | record r =>
    obtain ⟨n, -, h⟩ := bind_eq_ok.1 h
    cases h
  | itself =>
    obtain ⟨n, -, h⟩ := bind_eq_ok.1 h
    cases h
  | _ => exact ⟨trivial, trivial⟩

end Leaves

/-- A record of documents whose values are as a predicate has them when those that they refer to are. -/
def Record.Closed (P : Nat → σ → Prop) (self : Record σ σ) : Prop :=
  (∀ depth, self.Sound P depth) ∧ ∀ depth value, self.Holds P depth value → P (depth + 1) value

variable {self : Record σ σ}

private theorem Record.Closed.holds (hself : self.Closed P) {value : σ} (h : (Shape.record self).Holds P depth value) :
    P depth value := by
  obtain ⟨inner, rfl, h⟩ := h
  exact hself.2 inner value h

/-- A shape that refers to the record reads what the record reads. -/
theorem Outline.read_itself (outline : Outline) :
    outline.read self depth .itself = outline.read self depth (.record self) := by
  cases outline <;> rfl

mutual

/-- What a shape reads in an outline is a value of that shape, and not null where the outline is not. -/
theorem Outline.read_holds (hself : self.Closed P) : (outline : Outline) → {depth : Nat} → {α : Type} →
    (shape : Shape σ α) → shape.Sound P depth → ∀ value, outline.read self depth shape = .ok value →
    shape.Holds P depth value ∧ (outline.isNull = false → shape.Given value)
  | .null _, _, _, _, _, _, h => by
    rw [Outline.read] at h
    exact ⟨Shape.ofNullText_holds h, nofun⟩
  | .bool _ _, _, _, _, _, _, h => by
    rw [Outline.read] at h
    exact (Shape.ofBoolText_holds h).imp_right fun hg _ => hg
  | .number _ _ _, _, _, _, _, _, h => by
    rw [Outline.read] at h
    exact (Shape.ofNumberText_holds h).imp_right fun hg _ => hg
  | .string _ _, _, _, _, _, _, h => by
    rw [Outline.read] at h
    exact (Shape.ofStringText_holds h).imp_right fun hg _ => hg
  | .array start items finish, depth, _, shape, hs, value, h => by
    have hrecord {α : Type} (r : Record σ α) (value : α) (hs : (Shape.record r).Sound P depth)
        (h : Outline.read self depth (.array start items finish) (.record r) = .ok value) :
        (Shape.record r).Holds P depth value := by
      rw [Outline.read] at h
      obtain ⟨inner, hn, h⟩ := bind_eq_ok.1 h
      obtain rfl := nest_eq_ok.1 hn
      refine ⟨inner, rfl, Record.build_holds ?_ (hs inner rfl) h⟩
      intro β fields hfields values hvalues
      exact readPositions_holds hself items fields hfields hvalues
    cases shape with
    | json =>
      rw [Outline.read] at h
      exact ⟨Outline.value_fits _ h, fun _ => Outline.value_array_ne_null h⟩
    | list item =>
      rw [Outline.read] at h
      obtain ⟨inner, hn, h⟩ := bind_eq_ok.1 h
      obtain ⟨values, hv, h⟩ := bind_eq_ok.1 h
      obtain ⟨-, -, h⟩ := bind_eq_ok.1 h
      cases h
      obtain rfl := nest_eq_ok.1 hn
      exact ⟨fun value hm => ⟨inner, rfl, readItems_holds hself items item (hs inner rfl) hv value hm⟩, fun _ => trivial⟩
    | record r => exact ⟨hrecord r value hs h, fun _ => trivial⟩
    | itself =>
      rw [Outline.read_itself] at h
      exact ⟨hself.holds (hrecord self value (fun inner _ => hself.1 inner) h), fun _ => trivial⟩
    | dictionary shape => cases h
    | _ => exact ⟨trivial, fun _ => trivial⟩
  | .object start members finish, depth, _, shape, hs, value, h => by
    have hrecord {α : Type} (r : Record σ α) (value : α) (hs : (Shape.record r).Sound P depth)
        (h : Outline.read self depth (.object start members finish) (.record r) = .ok value) :
        (Shape.record r).Holds P depth value := by
      rw [Outline.read] at h
      obtain ⟨inner, hn, h⟩ := bind_eq_ok.1 h
      obtain rfl := nest_eq_ok.1 hn
      refine ⟨inner, rfl, Record.build_holds ?_ (hs inner rfl) h⟩
      intro β fields hfields values hvalues
      exact readMembers_holds hself members fields hfields hvalues
    cases shape with
    | json =>
      rw [Outline.read] at h
      exact ⟨Outline.value_fits _ h, fun _ => Outline.value_object_ne_null h⟩
    | dictionary shape =>
      rw [Outline.read] at h
      obtain ⟨inner, hn, h⟩ := bind_eq_ok.1 h
      obtain ⟨entries, hv, h⟩ := bind_eq_ok.1 h
      obtain ⟨-, -, h⟩ := bind_eq_ok.1 h
      cases h
      obtain rfl := nest_eq_ok.1 hn
      obtain ⟨hd, he⟩ :=
        readEntries_holds hself members shape (hs inner rfl) [] List.nodup_nil (fun _ hm => nomatch hm) hv
      exact ⟨⟨hd, fun entry hm => ⟨inner, rfl, he entry hm⟩⟩, fun _ => trivial⟩
    | record r => exact ⟨hrecord r value hs h, fun _ => trivial⟩
    | itself =>
      rw [Outline.read_itself] at h
      exact ⟨hself.holds (hrecord self value (fun inner _ => hself.1 inner) h), fun _ => trivial⟩
    | list item => cases members <;> cases h
    | _ => exact ⟨trivial, fun _ => trivial⟩
  | .broken _, _, _, shape, _, _, h => by
    cases shape <;> cases h

private theorem readItems_holds (hself : self.Closed P) : (items : List (Nat × Outline)) → {depth : Nat} → {α : Type} →
    (shape : Shape σ α) → shape.Sound P depth → {values : List α} → readItems self depth items shape = .ok values →
    ∀ value ∈ values, shape.Holds P depth value
  | [], _, _, _, _, _, h => by
    cases h
    simp
  | (_, item) :: rest, _, _, shape, hs, _, h => by
    rw [readItems] at h
    obtain ⟨value, hv, h⟩ := bind_eq_ok.1 h
    obtain ⟨values, hvs, h⟩ := bind_eq_ok.1 h
    cases h
    exact List.forall_mem_cons.2 ⟨(item.read_holds hself shape hs value hv).1, readItems_holds hself rest shape hs hvs⟩

private theorem readPositions_holds (hself : self.Closed P) : (items : List (Nat × Outline)) → {depth : Nat} →
    {expected : String} → {finish : Finish} → {index : Nat} → {β : Type} → (fields : Fields σ β) →
    fields.Sound P depth → {values : β} →
    readPositions self depth expected finish index items fields = .ok values → fields.Holds P depth values
  | [], _, _, finish, _, _, fields, hs, _, h => by
    cases fields with
    | nil => trivial
    | field name shape absence found rest =>
      cases finish with
      | closed stop => exact Fields.finishArray_holds _ hs (mapError_eq_ok.1 h)
      | broken b => cases h
    | nullable name shape absence found rest =>
      cases finish with
      | closed stop => exact Fields.finishArray_holds _ hs (mapError_eq_ok.1 h)
      | broken b => cases h
  | (_, item) :: more, _, _, _, _, _, fields, hs, _, h => by
    cases fields with
    | nil => trivial
    | field name shape absence found rest =>
      obtain ⟨hshape, -, -, hrest⟩ := hs
      rw [readPositions] at h
      obtain ⟨value, hv, h⟩ := bind_eq_ok.1 h
      obtain ⟨values, hvs, h⟩ := bind_eq_ok.1 h
      cases h
      exact ⟨(item.read_holds hself shape hshape value hv).1, readPositions_holds hself more rest hrest hvs⟩
    | nullable name shape absence found rest =>
      obtain ⟨hshape, -, -, hrest⟩ := hs
      rw [readPositions] at h
      split at h
      · obtain ⟨given, hn, h⟩ := bind_eq_ok.1 h
        obtain ⟨values, hvs, h⟩ := bind_eq_ok.1 h
        cases hn
        cases h
        exact ⟨nofun, readPositions_holds hself more rest hrest hvs⟩
      · next hnull =>
        obtain ⟨given, hg, h⟩ := bind_eq_ok.1 h
        obtain ⟨values, hvs, h⟩ := bind_eq_ok.1 h
        obtain ⟨value, hv, rfl⟩ := map_eq_ok.1 hg
        cases h
        obtain ⟨hvalue, hgiven⟩ := item.read_holds hself shape hshape value hv
        refine ⟨?_, readPositions_holds hself more rest hrest hvs⟩
        rintro other ho
        exact Option.some.inj ho ▸ ⟨hvalue, hgiven (Bool.eq_false_iff.2 hnull)⟩

private theorem readEntries_holds (hself : self.Closed P) : (members : List (Key × Outline)) → {depth : Nat} →
    {α : Type} →
    (shape : Shape σ α) → shape.Sound P depth → (done : List (String × α)) → {entries : List (String × α)} →
    (done.map Prod.fst).Nodup → (∀ entry ∈ done, shape.Holds P depth entry.2) →
    readEntries self depth members shape done = .ok entries →
    (entries.map Prod.fst).Nodup ∧ ∀ entry ∈ entries, shape.Holds P depth entry.2
  | [], _, _, _, _, _, _, hd, he, h => by
    cases h
    exact ⟨hd, he⟩
  | (key, member) :: rest, _, _, shape, hs, done, _, hd, he, h => by
    rw [readEntries] at h
    obtain ⟨⟨name, stop⟩, -, h⟩ := bind_eq_ok.1 h
    obtain ⟨value, hv, h⟩ := bind_eq_ok.1 h
    refine readEntries_holds hself rest shape hs _ (Entries.nodup_put hd name value) ?_ h
    intro entry hm
    rcases Entries.mem_of_mem_put hm with rfl | hm
    · exact (member.read_holds hself shape hs value hv).1
    · exact he entry hm

private theorem readMembers_holds (hself : self.Closed P) : (members : List (Key × Outline)) → {depth : Nat} →
    {strict : Bool} → {finish : Finish} → {β : Type} → (fields : Fields σ β) → fields.Sound P depth → {values : β} →
    readMembers self depth strict finish members fields = .ok values → fields.Holds P depth values
  | [], _, _, finish, _, fields, hs, _, h => by
    cases finish with
    | closed stop => exact fields.finish_holds hs (mapError_eq_ok.1 h)
    | broken b => cases h
  | (key, member) :: rest, _, _, _, _, fields, hs, _, h => by
    rw [readMembers] at h
    obtain ⟨⟨name, stop⟩, -, h⟩ := bind_eq_ok.1 h
    dsimp only at h
    split at h
    · cases h
    · next given hg =>
      obtain ⟨hsound, hholds⟩ := fields.give_refines (fun shape hs => member.read_holds hself shape hs) hs hg
      exact hholds _ (readMembers_holds hself rest given hsound h)
    · cases h
    · split at h
      · cases h
      · obtain ⟨-, -, h⟩ := bind_eq_ok.1 h
        exact readMembers_holds hself rest fields hs h

end

/-- What is read as a record is as a predicate has it that the record is closed under. -/
theorem Record.readText_holds (hself : self.Closed P) {text : List UInt8} {value : σ}
    (h : self.readText text = .ok value) : P nestingLimit value :=
  (Outline.read_holds hself _ .itself True.intro value (Document.readWith_eq_ok.1 h).1).1

end RequestBinding.Json
