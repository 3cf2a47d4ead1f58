import Mathlib.Data.List.Forall2
import RequestBinding.Proofs.Json.Shape
import RequestBinding.Proofs.Json.Written

/-! JSON values that stand for values of a shape. Text that is written for such a value is read as what it stands for. -/

namespace RequestBinding.Json

variable {σ : Type}

section

variable (W : Nat → σ → Json → Prop)

mutual

/-- A JSON value stands for a value of a shape where it has some room to nest. Records stand as objects with their
fields in order, and a relation says what stands for the record that the shape refers to. -/
def Shape.Stands : {α : Type} → Shape σ α → Nat → α → Json → Prop
  | _, .nothing, _, _, json => json = .null
  | _, .bool, _, b, json => json = .bool b
  | _, .string, _, s, json => json = .string s
  | _, .size, _, n, json => ∃ whole : Whole, whole.value = n ∧ json = .number (.whole whole)
  | _, .int32, _, n, json => json = .number (.ofInt32 n)
  | _, .int64, _, n, json => json = .number (.ofInt64 n)
  | _, .json, depth, value, json => json = value ∧ value.Fits depth
  | _, .list item, depth, values, json =>
      ∃ inner items, depth = inner + 1 ∧ json = .array items ∧ List.Forall₂ (item.Stands inner) values items
  | _, .dictionary shape, depth, entries, json =>
      ∃ inner members, depth = inner + 1 ∧ json = .object members ∧ (entries.map Prod.fst).Nodup ∧
        List.Forall₂ (fun entry member => entry.1 = member.1 ∧ shape.Stands inner entry.2 member.2) entries members
  | _, .choice variants, _, value, json => ∃ name, json = .string name ∧ Entries.get? name variants = some value
  | _, .record r, depth, value, json =>
      ∃ inner members, depth = inner + 1 ∧ json = .object members ∧ r.Stands inner value members
  | _, .itself, depth, value, json => W depth value json

def Record.Stands : {α : Type} → Record σ α → Nat → α → List (String × Json) → Prop
  | _, .mk _ _ fields build, depth, value, members =>
      fields.names.Nodup ∧ ∃ found, build found = value ∧ fields.Stands depth found members

/-- The members that are left for fields, of which some may have been found. -/
def Fields.Stands : {β : Type} → Fields σ β → Nat → β → List (String × Json) → Prop
  | _, .nil, _, _, members => members = []
  | _, .field name shape absence found rest, depth, (value, values), members =>
      Fields.complete name absence found = .ok value ∧ rest.Stands depth values members ∨
      found = none ∧ ∃ member more, members = (name, member) :: more ∧ shape.Stands depth value member ∧
        rest.Stands depth values more
  | _, .nullable name shape absence found rest, depth, (value, values), members =>
      Fields.complete name absence found = .ok value ∧ rest.Stands depth values members ∨
      found = none ∧ ∃ member more, members = (name, member) :: more ∧ member ≠ .null ∧
        (∃ given, value = some given ∧ shape.Stands depth given member) ∧ rest.Stands depth values more

end

end

variable {W : Nat → σ → Json → Prop} {depth : Nat}

theorem Fields.withDefault_stands {α β : Type} {name : String} {shape : Shape σ α} {default value : α}
    {rest : Fields σ β} {values : β} {own more : List (String × Json)}
    (hown : own = [] ∧ value = default ∨ ∃ member, own = [(name, member)] ∧ shape.Stands W depth value member)
    (hrest : rest.Stands W depth values more) :
    (Fields.withDefault name shape default rest).Stands W depth (value, values) (own ++ more) := by
  rcases hown with ⟨rfl, rfl⟩ | ⟨member, rfl, hmember⟩
  · exact .inl ⟨rfl, hrest⟩
  · exact .inr ⟨rfl, member, more, rfl, hmember, hrest⟩

theorem Fields.optional_stands {α β : Type} {name : String} {shape : Shape σ α} {value : Option α}
    {rest : Fields σ β} {values : β} {own more : List (String × Json)}
    (hown : own = [] ∧ value = none ∨ ∃ given member, own = [(name, member)] ∧ value = some given ∧ member ≠ .null ∧
      shape.Stands W depth given member)
    (hrest : rest.Stands W depth values more) :
    (Fields.optional name shape rest).Stands W depth (value, values) (own ++ more) := by
  rcases hown with ⟨rfl, rfl⟩ | ⟨given, member, rfl, rfl, hne, hmember⟩
  · exact .inl ⟨rfl, hrest⟩
  · exact .inr ⟨rfl, member, more, rfl, hne, ⟨given, rfl, hmember⟩, hrest⟩

private theorem Fields.finish_of_stands : {β : Type} → (fields : Fields σ β) → {values : β} →
    fields.Stands W depth values [] → fields.finish = .ok values
  | _, .nil, _, _ => rfl
  | _, .field name shape absence found rest, (value, values), h => by
    rcases h with ⟨hvalue, hrest⟩ | ⟨-, member, more, h, -⟩
    · rw [Fields.finish, hvalue, rest.finish_of_stands hrest]
      rfl
    · cases h
  | _, .nullable name shape absence found rest, (value, values), h => by
    rcases h with ⟨hvalue, hrest⟩ | ⟨-, member, more, h, -⟩
    · rw [Fields.finish, hvalue, rest.finish_of_stands hrest]
      rfl
    · cases h

private theorem Fields.mem_names_of_stands {name : String} {member : Json} {more : List (String × Json)} :
    {β : Type} → (fields : Fields σ β) → {values : β} → fields.Stands W depth values ((name, member) :: more) →
    name ∈ fields.names
  | _, .nil, _, h => by cases h
  | _, .field own shape absence found rest, (value, values), h => by
    rcases h with ⟨-, hrest⟩ | ⟨-, member, more, h, -⟩
    · exact List.mem_cons_of_mem own (rest.mem_names_of_stands hrest)
    · cases h
      exact List.mem_cons_self ..
  | _, .nullable own shape absence found rest, (value, values), h => by
    rcases h with ⟨-, hrest⟩ | ⟨-, member, more, h, -⟩
    · exact List.mem_cons_of_mem own (rest.mem_names_of_stands hrest)
    · cases h
      exact List.mem_cons_self ..

section Give

variable {ε : Type} {read : {α : Type} → Shape σ α → Except ε α} {isNull : Bool} {name : String} {member : Json}
  {more : List (String × Json)}

private theorem Fields.give_of_stands
    (hread : ∀ {α : Type} (shape : Shape σ α) (value : α), shape.Stands W depth value member → read shape = .ok value)
    (hnull : member ≠ .null → isNull = false) : {β : Type} → (fields : Fields σ β) → fields.names.Nodup →
    {values : β} → fields.Stands W depth values ((name, member) :: more) →
    ∃ given, fields.give read isNull name = .ok (.taken given) ∧ given.names = fields.names ∧
      given.Stands W depth values more
  | _, .nil, _, _, h => by cases h
  | _, .field own shape absence found rest, hd, (value, values), h => by
    obtain ⟨hown, hd⟩ := List.nodup_cons.1 hd
    rcases h with ⟨hvalue, hrest⟩ | ⟨rfl, _, _, h, hmember, hrest⟩
    · have hne : name ≠ own := fun he => hown (he ▸ rest.mem_names_of_stands hrest)
      obtain ⟨given, hg, hnames, hgiven⟩ := rest.give_of_stands hread hnull hd hrest
      refine ⟨.field own shape absence found given, ?_, congrArg (own :: ·) hnames, .inl ⟨hvalue, hgiven⟩⟩
      rw [Fields.give, if_neg hne, hg]
      rfl
    · cases h
      refine ⟨.field name shape absence (some value) rest, ?_, rfl, .inl ⟨rfl, hrest⟩⟩
      rw [Fields.give, if_pos rfl, hread shape value hmember]
      rfl
  | _, .nullable own shape absence found rest, hd, (value, values), h => by
    obtain ⟨hown, hd⟩ := List.nodup_cons.1 hd
    rcases h with ⟨hvalue, hrest⟩ | ⟨rfl, _, _, h, hne, ⟨given, rfl, hmember⟩, hrest⟩
    · have hne : name ≠ own := fun he => hown (he ▸ rest.mem_names_of_stands hrest)
      obtain ⟨given, hg, hnames, hgiven⟩ := rest.give_of_stands hread hnull hd hrest
      refine ⟨.nullable own shape absence found given, ?_, congrArg (own :: ·) hnames, .inl ⟨hvalue, hgiven⟩⟩
      rw [Fields.give, if_neg hne, hg]
      rfl
    · cases h
      refine ⟨.nullable name shape absence (some (some given)) rest, ?_, rfl, .inl ⟨rfl, hrest⟩⟩
      rw [Fields.give, if_pos rfl, hnull hne, hread shape given hmember]
      rfl

end Give

mutual

/-- A value that has room is read from a layout of it as it is. -/
theorem Outline.value_of_shows : (outline : Outline) → {depth : Nat} → {value : Json} → outline.Shows value →
    value.Fits depth → outline.value depth = .ok value
  | .null _, _, _, hshow, _ => by
    cases hshow
    rfl
  | .bool _ _, _, _, hshow, _ => by
    cases hshow
    rfl
  | .number _ _ _, _, _, hshow, _ => by
    cases hshow with
    | number _ hvalue => exact map_eq_ok.2 ⟨_, hvalue, rfl⟩
  | .string _ _, _, _, hshow, _ => by
    cases hshow with
    | string hs => exact map_eq_ok.2 ⟨_, hs, rfl⟩
  | .array _ items _, _, _, hshow, hfits => by
    cases hshow with
    | array _ stop hitems =>
      cases hfits with
      | array hfits =>
        rw [Outline.value, if_neg (Nat.succ_ne_zero _)]
        exact bind_eq_ok.2 ⟨_, itemValues_of_show items hitems hfits, rfl⟩
  | .object _ members _, _, _, hshow, hfits => by
    cases hshow with
    | object _ stop hmembers =>
      cases hfits with
      | object hascending hfits =>
        rw [Outline.value, if_neg (Nat.succ_ne_zero _)]
        refine bind_eq_ok.2 ⟨_, memberValues_of_show members hmembers hfits, ?_⟩
        exact congrArg (fun sorted => Except.ok (Json.object sorted)) hascending.sorted_eq
  | .broken _, _, _, hshow, _ => by cases hshow

private theorem itemValues_of_show : (items : List (Nat × Outline)) → {depth : Nat} → {values : List Json} →
    ItemsShow items values → (∀ value ∈ values, value.Fits depth) → itemValues depth items = .ok values
  | [], _, _, hshow, _ => by
    cases hshow
    rfl
  | (_, item) :: rest, _, _, hshow, hfits => by
    cases hshow with
    | cons _ hitem hrest =>
      obtain ⟨hvalue, hvalues⟩ := List.forall_mem_cons.1 hfits
      rw [itemValues, item.value_of_shows hitem hvalue, itemValues_of_show rest hrest hvalues]
      rfl

private theorem memberValues_of_show : (members : List (Key × Outline)) → {depth : Nat} →
    {values : List (String × Json)} →
    MembersShow members values → (∀ value ∈ values, value.2.Fits depth) → memberValues depth members = .ok values
  | [], _, _, hshow, _ => by
    cases hshow
    rfl
  | (_, member) :: rest, _, _, hshow, hfits => by
    cases hshow with
    | cons hname hmember hrest =>
      obtain ⟨hvalue, hvalues⟩ := List.forall_mem_cons.1 hfits
      rw [memberValues, hname, member.value_of_shows hmember hvalue, memberValues_of_show rest hrest hvalues]
      rfl

end

private theorem Outline.isNull_of_shows {outline : Outline} {json : Json} (h : outline.Shows json)
    (hne : json ≠ .null) :
    outline.isNull = false := by
  cases h with
  | null start => exact absurd rfl hne
  | _ => rfl

/-- The relation for the record that a shape refers to is that of the fields of the record. -/
def Record.Unfolds (W : Nat → σ → Json → Prop) (self : Record σ σ) : Prop :=
  ∀ {depth : Nat} {value : σ} {json : Json}, W depth value json → (Shape.record self).Stands W depth value json

variable {self : Record σ σ}

private theorem Outline.read_json (outline : Outline) : outline.read self depth .json = outline.value depth := by
  cases outline <;> rfl

section Leaves

variable {α : Type} {shape : Shape σ α} {value : α}

private theorem Shape.ofNullText_of_stands {start : Nat} (hself : self.Unfolds W)
    (h : shape.Stands W depth value .null) :
    shape.ofNullText self start = .ok value := by
  cases shape with
  | nothing => rfl
  | json =>
    obtain ⟨rfl, -⟩ := h
    rfl
  | itself =>
    obtain ⟨_, _, -, h, -⟩ := hself h
    cases h
  | _ => simp [Shape.Stands] at h

private theorem Shape.ofBoolText_of_stands {b : Bool} {start : Nat} (hself : self.Unfolds W)
    (h : shape.Stands W depth value (.bool b)) : shape.ofBoolText self b start = .ok value := by
  cases shape with
  | bool =>
    cases h
    rfl
  | json =>
    obtain ⟨rfl, -⟩ := h
    rfl
  | itself =>
    obtain ⟨_, _, -, h, -⟩ := hself h
    cases h
  | _ => simp [Shape.Stands] at h

private theorem boundedWhole_eq_ok {low high : Int} {expected : String} {n : Whole} (hl : low ≤ n.value)
    (hh : n.value ≤ high) :
    boundedWhole low high expected (.whole n) = .ok n.value := if_pos ⟨hl, hh⟩

private theorem Shape.ofNumberText_of_stands {start stop : Nat} {literal : NumberLiteral} {n : Number}
    (hn : literal.value stop = .ok n) (hself : self.Unfolds W) (h : shape.Stands W depth value (.number n)) :
    shape.ofNumberText self start literal stop = .ok value := by
  cases shape with
  | size =>
    obtain ⟨whole, hwhole, h⟩ := h
    cases h
    refine bind_eq_ok.2 ⟨_, hn, mapError_eq_ok.2 (map_eq_ok.2 ⟨_, boundedWhole_eq_ok ?_ ?_, ?_⟩)⟩
    · omega
    · exact Int.le_of_lt_add_one whole.greatest
    · rw [hwhole, Int.toNat_natCast]
  | int32 =>
    cases h
    refine bind_eq_ok.2 ⟨_, hn, mapError_eq_ok.2 (map_eq_ok.2 ⟨_, boundedWhole_eq_ok value.le_toInt ?_, ?_⟩)⟩
    · exact Int.le_of_lt_add_one value.toInt_lt
    · exact Int32.ofInt_toInt value
  | int64 =>
    cases h
    refine bind_eq_ok.2 ⟨_, hn, mapError_eq_ok.2 (map_eq_ok.2 ⟨_, boundedWhole_eq_ok value.le_toInt ?_, ?_⟩)⟩
    · exact Int.le_of_lt_add_one value.toInt_lt
    · exact Int64.ofInt_toInt value
  | json =>
    obtain ⟨rfl, -⟩ := h
    exact map_eq_ok.2 ⟨n, hn, rfl⟩
  | itself =>
    obtain ⟨_, _, -, h, -⟩ := hself h
    cases h
  | _ => simp [Shape.Stands] at h

private theorem Shape.ofStringText_of_stands {start : Place} {s : String} {stop : Nat}
    (hs : readString start = .ok (s, stop)) (hself : self.Unfolds W) (h : shape.Stands W depth value (.string s)) :
    shape.ofStringText self start = .ok value := by
  cases shape with
  | string =>
    cases h
    exact map_eq_ok.2 ⟨_, hs, rfl⟩
  | json =>
    obtain ⟨rfl, -⟩ := h
    exact map_eq_ok.2 ⟨_, hs, rfl⟩
  | choice variants =>
    obtain ⟨name, h, hvariant⟩ := h
    cases h
    refine bind_eq_ok.2 ⟨_, hs, mapError_eq_ok.2 ?_⟩
    rw [variantOf, hvariant]
  | itself =>
    obtain ⟨_, _, -, h, -⟩ := hself h
    cases h
  | _ => simp [Shape.Stands] at h

end Leaves

private theorem Record.build_of_stands {ε α : Type} {run : {β : Type} → Fields σ β → Except ε β}
    {members : List (String × Json)}
    (hrun : ∀ {β : Type} (fields : Fields σ β) (values : β), fields.names.Nodup →
      fields.Stands W depth values members → run fields = .ok values)
    {r : Record σ α} {value : α} (h : r.Stands W depth value members) : r.build run = .ok value := by
  cases r with
  | mk name strict fields make =>
    obtain ⟨hd, values, rfl, hvalues⟩ := h
    exact map_eq_ok.2 ⟨values, hrun fields values hd hvalues, rfl⟩

mutual

/-- What stands for a value of a shape is read as that value, from any layout of it. -/
private theorem Outline.read_of_stands (hself : self.Unfolds W) : (outline : Outline) → {depth : Nat} → {α : Type} →
    (shape : Shape σ α) → (value : α) → {json : Json} → outline.Shows json → shape.Stands W depth value json →
    outline.read self depth shape = .ok value
  | .null _, _, _, _, _, _, hshow, h => by
    cases hshow
    rw [Outline.read]
    exact Shape.ofNullText_of_stands hself h
  | .bool _ _, _, _, _, _, _, hshow, h => by
    cases hshow
    rw [Outline.read]
    exact Shape.ofBoolText_of_stands hself h
  | .number _ _ _, _, _, _, _, _, hshow, h => by
    cases hshow with
    | number _ hn =>
      rw [Outline.read]
      exact Shape.ofNumberText_of_stands hn hself h
  | .string _ _, _, _, _, _, _, hshow, h => by
    cases hshow with
    | string hs =>
      rw [Outline.read]
      exact Shape.ofStringText_of_stands hs hself h
  | .array start items _, _, _, shape, _, _, hshow, h => by
    cases hshow with
    | array _ stop hitems =>
      cases shape with
      | json =>
        obtain ⟨rfl, hfits⟩ := h
        rw [Outline.read_json]
        exact Outline.value_of_shows _ (.array start stop hitems) hfits
      | list item =>
        obtain ⟨inner, _, rfl, h, hvalues⟩ := h
        cases h
        rw [Outline.read]
        refine bind_eq_ok.2 ⟨inner, nest_eq_ok.2 rfl, ?_⟩
        exact bind_eq_ok.2 ⟨_, readItems_of_stand hself items item hitems hvalues, rfl⟩
      | itself =>
        obtain ⟨_, _, -, h, -⟩ := hself h
        cases h
      | _ => simp [Shape.Stands] at h
  | .object start members _, depth, _, shape, value, json, hshow, h => by
    cases hshow with
    | @object _ stop _ entries hmembers =>
      have hrecord {α : Type} (r : Record σ α) (value : α)
          (h : (Shape.record r).Stands W depth value (.object entries)) :
          Outline.read self depth (.object start members (.closed stop)) (.record r) = .ok value := by
        obtain ⟨inner, _, rfl, h, hvalue⟩ := h
        cases h
        rw [Outline.read]
        refine bind_eq_ok.2 ⟨inner, nest_eq_ok.2 rfl, Record.build_of_stands ?_ hvalue⟩
        intro β fields values hd hfields
        exact readMembers_of_stand hself members fields hd hmembers hfields
      cases shape with
      | json =>
        obtain ⟨rfl, hfits⟩ := h
        rw [Outline.read_json]
        exact Outline.value_of_shows _ (.object start stop hmembers) hfits
      | dictionary shape =>
        obtain ⟨inner, _, rfl, h, hd, hvalues⟩ := h
        cases h
        rw [Outline.read]
        refine bind_eq_ok.2 ⟨inner, nest_eq_ok.2 rfl, ?_⟩
        exact bind_eq_ok.2 ⟨_, readEntries_of_stand hself members shape hmembers hvalues [] hd, rfl⟩
      | record r => exact hrecord r value h
      | itself =>
        rw [Outline.read_itself]
        exact hrecord self value (hself h)
      | _ => simp [Shape.Stands] at h
  | .broken _, _, _, _, _, _, hshow, _ => by cases hshow

private theorem readItems_of_stand (hself : self.Unfolds W) : (items : List (Nat × Outline)) → {depth : Nat} →
    {α : Type} →
    (shape : Shape σ α) → {values : List α} → {jsons : List Json} → ItemsShow items jsons →
    List.Forall₂ (shape.Stands W depth) values jsons → readItems self depth items shape = .ok values
  | [], _, _, _, _, _, hshow, h => by
    cases hshow
    cases h
    rfl
  | (_, item) :: rest, _, _, shape, _, _, hshow, h => by
    cases hshow with
    | cons _ hitem hrest =>
      cases h with
      | cons hvalue hvalues =>
        rw [readItems, item.read_of_stands hself shape _ hitem hvalue, readItems_of_stand hself rest shape hrest hvalues]
        rfl

private theorem readEntries_of_stand (hself : self.Unfolds W) : (members : List (Key × Outline)) → {depth : Nat} →
    {α : Type} →
    (shape : Shape σ α) → {entries : List (String × α)} → {jsons : List (String × Json)} → MembersShow members jsons →
    List.Forall₂ (fun entry json => entry.1 = json.1 ∧ shape.Stands W depth entry.2 json.2) entries jsons →
    (done : List (String × α)) → ((done ++ entries).map Prod.fst).Nodup →
    readEntries self depth members shape done = .ok (done ++ entries)
  | [], _, _, _, _, _, hshow, h, done, _ => by
    cases hshow
    cases h
    rw [List.append_nil]
    rfl
  | (key, member) :: rest, _, _, shape, _, _, hshow, h, done, hd => by
    cases hshow with
    | cons hname hmember hrest =>
      cases h with
      | @cons entry _ entries _ hvalue hvalues =>
        obtain ⟨name, value⟩ := entry
        obtain ⟨rfl, hvalue⟩ := hvalue
        have hfresh : Entries.has name done = false := by
          rw [Bool.eq_false_iff, ne_eq, Entries.has_iff]
          intro hm
          rw [List.map_append] at hd
          exact List.disjoint_of_nodup_append hd hm (List.mem_cons_self ..)
        rw [List.append_cons] at hd ⊢
        rw [readEntries, hname]
        refine bind_eq_ok.2 ⟨_, rfl, bind_eq_ok.2 ⟨value, member.read_of_stands hself shape value hmember hvalue, ?_⟩⟩
        rw [Entries.put_fresh hfresh]
        exact readEntries_of_stand hself rest shape hrest hvalues _ hd

private theorem readMembers_of_stand (hself : self.Unfolds W) : (members : List (Key × Outline)) → {depth : Nat} →
    {strict : Bool} → {stop : Nat} → {β : Type} → (fields : Fields σ β) → fields.names.Nodup → {values : β} →
    {jsons : List (String × Json)} → MembersShow members jsons → fields.Stands W depth values jsons →
    readMembers self depth strict (.closed stop) members fields = .ok values
  | [], _, _, _, _, fields, _, _, _, hshow, h => by
    cases hshow
    exact mapError_eq_ok.2 (fields.finish_of_stands h)
  | (key, member) :: rest, _, _, _, _, fields, hd, _, _, hshow, h => by
    cases hshow with
    | cons hname hmember hrest =>
      obtain ⟨given, hgive, hnames, hgiven⟩ :=
        fields.give_of_stands (fun shape value hv => member.read_of_stands hself shape value hmember hv)
          (Outline.isNull_of_shows hmember) hd h
      rw [readMembers, hname]
      refine bind_eq_ok.2 ⟨_, rfl, ?_⟩
      simp only [hgive]
      exact readMembers_of_stand hself rest given (hnames ▸ hd) hrest hgiven

end

/-- Text that is written for a value of a shape is read as that value. -/
theorem Document.readWith_text (hself : self.Unfolds W) {α : Type} {shape : Shape σ α} {value : α} {json : Json}
    (h : shape.Stands W depth value json) (hexact : json.Exact) :
    Document.readWith (fun root => root.read self depth shape) (Utf8.encode json.text) = .ok value := by
  obtain ⟨hshow, htrailing⟩ := Document.ofBytes_text hexact
  exact Document.readWith_eq_ok.2 ⟨Outline.read_of_stands hself _ shape value hshow h, htrailing⟩

end RequestBinding.Json
