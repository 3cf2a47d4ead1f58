import RequestBinding.Json.ShapeValue
import RequestBinding.Proofs.Json.Shape

/-! Records read in JSON values. What a field comes to depends on what stands under its name, be the record an object or
an array of its fields in order, and a strict record has no other names. -/

namespace RequestBinding.Json

variable {σ : Type} {self : Record σ σ}

/-- A value that may be null. -/
def readNullable {α : Type} (self : Record σ σ) (shape : Shape σ α) (json : Json) : Except Mismatch (Option α) :=
  if json.isNull then .ok none else (readAs self json shape).map some

/-- The value of one field: what is given is read, once, and what is not given is what stands for it. -/
def FieldReads {α : Type} (name : String) (absence : Absence α) (found : Option α) (read : Json → Except Mismatch α)
    (given : Option Json) (value : α) : Prop :=
  match given with
  | some json => found = none ∧ read json = .ok value
  | none => Fields.complete name absence found = .ok value

/-- A field that was given before keeps that value and is not given again. -/
theorem FieldReads.found_some {α : Type} {name : String} {absence : Absence α} {read : Json → Except Mismatch α}
    {given : Option Json} {first value : α} (h : FieldReads name absence (some first) read given value) :
    value = first := by
  unfold FieldReads at h
  split at h
  · exact absurd h.1 (Option.some_ne_none first)
  · exact (Except.ok.inj h).symm

namespace Fields

/-- The values of fields, by what is found under their names. -/
def Reads (self : Record σ σ) (find : String → Option Json) : {β : Type} → Fields σ β → β → Prop
  | _, .nil, _ => True
  | _, .field name shape absence found rest, (value, values) =>
    FieldReads name absence found (fun json => readAs self json shape) (find name) value ∧ rest.Reads self find values
  | _, .nullable name shape absence found rest, (value, values) =>
    FieldReads name absence found (readNullable self shape) (find name) value ∧ rest.Reads self find values

/-- No field was given before. -/
def Fresh : {β : Type} → Fields σ β → Prop
  | _, .nil => True
  | _, .field _ _ _ found rest => found = none ∧ rest.Fresh
  | _, .nullable _ _ _ found rest => found = none ∧ rest.Fresh

/-- Only the names of the fields are looked up. -/
theorem Reads.congr {find find' : String → Option Json} : {β : Type} → {fields : Fields σ β} → {values : β} →
    fields.Reads self find values → (∀ name ∈ fields.names, find' name = find name) → fields.Reads self find' values
  | _, .nil, _, _, _ => trivial
  | _, .field name shape absence found rest, _, h, hsame => by
    obtain ⟨hname, hrest⟩ := List.forall_mem_cons.1 hsame
    exact ⟨by rw [hname]; exact h.1, h.2.congr hrest⟩
  | _, .nullable name shape absence found rest, _, h, hsame => by
    obtain ⟨hname, hrest⟩ := List.forall_mem_cons.1 hsame
    exact ⟨by rw [hname]; exact h.1, h.2.congr hrest⟩

private theorem finish_reads : {β : Type} → {fields : Fields σ β} → {values : β} → fields.finish = .ok values →
    fields.Reads self (fun _ => none) values
  | _, .nil, _, _ => trivial
  | _, .field name shape absence found rest, _, h => by
    obtain ⟨value, hvalue, h⟩ := bind_eq_ok.1 h
    obtain ⟨values, hvalues, h⟩ := bind_eq_ok.1 h
    cases h
    exact ⟨hvalue, finish_reads hvalues⟩
  | _, .nullable name shape absence found rest, _, h => by
    obtain ⟨value, hvalue, h⟩ := bind_eq_ok.1 h
    obtain ⟨values, hvalues, h⟩ := bind_eq_ok.1 h
    cases h
    exact ⟨hvalue, finish_reads hvalues⟩

private theorem complete_of_beyond {α : Type} {mismatch : Mismatch} {absence : Absence α} {value : α} (name : String)
    (h : beyond mismatch absence = .ok value) : complete name absence none = .ok value := by
  cases absence with
  | refused => cases h
  | inObject other => cases h
  | always other => exact h

private theorem finishArray_reads {expected : String} : {β : Type} → {fields : Fields σ β} → {index : Nat} →
    {values : β} →
    fields.Fresh → fields.finishArray expected index = .ok values → fields.Reads self (fun _ => none) values
  | _, .nil, _, _, _, _ => trivial
  | _, .field name shape absence found rest, _, _, hfresh, h => by
    obtain ⟨rfl, hrest⟩ := hfresh
    obtain ⟨value, hvalue, h⟩ := bind_eq_ok.1 h
    obtain ⟨values, hvalues, h⟩ := bind_eq_ok.1 h
    cases h
    exact ⟨complete_of_beyond name hvalue, finishArray_reads hrest hvalues⟩
  | _, .nullable name shape absence found rest, _, _, hfresh, h => by
    obtain ⟨rfl, hrest⟩ := hfresh
    obtain ⟨value, hvalue, h⟩ := bind_eq_ok.1 h
    obtain ⟨values, hvalues, h⟩ := bind_eq_ok.1 h
    cases h
    exact ⟨complete_of_beyond name hvalue, finishArray_reads hrest hvalues⟩

/-- A look up that finds something under one name, and else what another one finds. -/
def finding (name : String) (json : Json) (find : String → Option Json) (other : String) : Option Json :=
  if other = name then some json else find other

/-- What is given to a field is what it reads under its name. -/
private theorem give_reads {name : String} {json : Json} (find : String → Option Json) : {β : Type} →
    {fields given : Fields σ β} →
    fields.names.Nodup → fields.give (fun shape => readAs self json shape) json.isNull name = .ok (.taken given) →
    given.names = fields.names ∧ name ∈ fields.names ∧
      ∀ values, given.Reads self find values → fields.Reads self (finding name json find) values
  | _, .nil, _, _, h => by cases h
  | _, .field own shape absence found rest, _, hnodup, h => by
    obtain ⟨hown, hrest⟩ := List.nodup_cons.1 hnodup
    have hlater {other : String} (hm : other ∈ rest.names) (he : name = own) : finding name json find other = find other := by
      rw [finding, if_neg]
      rintro rfl
      exact hown (he ▸ hm)
    rw [give] at h
    split at h
    · next he =>
      split at h
      · cases h
      · next hnone =>
        obtain ⟨value, hvalue, h⟩ := map_eq_ok.1 h
        cases h
        refine ⟨rfl, he ▸ List.mem_cons_self .., ?_⟩
        rintro ⟨first, values⟩ ⟨hfirst, hvalues⟩
        obtain rfl := hfirst.found_some
        refine ⟨?_, hvalues.congr fun other hm => hlater hm he⟩
        rw [finding, if_pos he.symm]
        exact ⟨by simpa using hnone, hvalue⟩
    · next hne =>
      obtain ⟨inner, hgive, rfl⟩ := give_eq_taken h
      obtain ⟨hnames, hmem, hreads⟩ := give_reads find hrest hgive
      refine ⟨congrArg (own :: ·) hnames, List.mem_cons_of_mem _ hmem, ?_⟩
      rintro ⟨first, values⟩ ⟨hfirst, hvalues⟩
      refine ⟨?_, hreads values hvalues⟩
      rwa [finding, if_neg (Ne.symm hne)]
  | _, .nullable own shape absence found rest, given, hnodup, h => by
    obtain ⟨hown, hrest⟩ := List.nodup_cons.1 hnodup
    have hlater {other : String} (hm : other ∈ rest.names) (he : name = own) : finding name json find other = find other := by
      rw [finding, if_neg]
      rintro rfl
      exact hown (he ▸ hm)
    rw [give] at h
    split at h
    · next he =>
      split at h
      · cases h
      · next hnone =>
        have hgiven : ∃ value, given = .nullable own shape absence (some value) rest ∧
            readNullable self shape json = .ok value := by
          unfold readNullable
          split at h
          · next hnull =>
            cases h
            exact ⟨none, rfl, if_pos hnull⟩
          · next hnull =>
            obtain ⟨value, hvalue, h⟩ := map_eq_ok.1 h
            cases h
            refine ⟨some value, rfl, ?_⟩
            rw [if_neg hnull, hvalue]
            rfl
        obtain ⟨value, rfl, hvalue⟩ := hgiven
        refine ⟨rfl, he ▸ List.mem_cons_self .., ?_⟩
        rintro ⟨first, values⟩ ⟨hfirst, hvalues⟩
        obtain rfl := hfirst.found_some
        refine ⟨?_, hvalues.congr fun other hm => hlater hm he⟩
        rw [finding, if_pos he.symm]
        exact ⟨by simpa using hnone, hvalue⟩
    · next hne =>
      obtain ⟨inner, hgive, rfl⟩ := give_eq_taken h
      obtain ⟨hnames, hmem, hreads⟩ := give_reads find hrest hgive
      refine ⟨congrArg (own :: ·) hnames, List.mem_cons_of_mem _ hmem, ?_⟩
      rintro ⟨first, values⟩ ⟨hfirst, hvalues⟩
      refine ⟨?_, hreads values hvalues⟩
      rwa [finding, if_neg (Ne.symm hne)]

private theorem map_unknown {ε β γ : Type} {f : Fields σ β → Fields σ γ} {result : Except ε (Given σ β)}
    (h : result.map (Given.map f) = .ok .unknown) : result = .ok .unknown := by
  obtain ⟨outcome, ho, h⟩ := map_eq_ok.1 h
  cases outcome with
  | unknown => exact ho
  | twice => cases h
  | taken inner => cases h

private theorem not_mem_of_give {ε : Type} {read : {α : Type} → Shape σ α → Except ε α} {isNull : Bool}
    {name : String} :
    {β : Type} → {fields : Fields σ β} → fields.give read isNull name = .ok .unknown → name ∉ fields.names
  | _, .nil, _ => List.not_mem_nil
  | _, .field own shape absence found rest, h => by
    rw [give] at h
    split at h
    · split at h
      · cases h
      · obtain ⟨value, -, h⟩ := map_eq_ok.1 h
        cases h
    · next hne => exact List.not_mem_cons_of_ne_of_not_mem hne (not_mem_of_give (map_unknown h))
  | _, .nullable own shape absence found rest, h => by
    rw [give] at h
    split at h
    · split at h
      · cases h
      · split at h
        · cases h
        · obtain ⟨value, -, h⟩ := map_eq_ok.1 h
          cases h
    · next hne => exact List.not_mem_cons_of_ne_of_not_mem hne (not_mem_of_give (map_unknown h))

end Fields

private theorem membersAs_reads {strict : Bool} {members : List (String × Json)} {β : Type} {fields : Fields σ β}
    (hnodup : fields.names.Nodup) {values : β} (h : membersAs self strict members fields = .ok values) :
    fields.Reads self (fun name => Entries.get? name members) values ∧
      (strict = true → ∀ member ∈ members, member.1 ∈ fields.names) := by
  induction members generalizing fields with
  | nil =>
    rw [membersAs] at h
    exact ⟨Fields.finish_reads h, by simp⟩
  | cons member rest ih =>
    obtain ⟨name, json⟩ := member
    rw [membersAs] at h
    split at h
    · cases h
    · next given hgive =>
      obtain ⟨hnames, hmem, hreads⟩ := Fields.give_reads (fun name => Entries.get? name rest) hnodup hgive
      obtain ⟨hrest, hall⟩ := ih (hnames ▸ hnodup) h
      exact ⟨hreads values hrest, fun hs => List.forall_mem_cons.2 ⟨hmem, hnames ▸ hall hs⟩⟩
    · cases h
    · next hgive =>
      have hname := Fields.not_mem_of_give hgive
      split at h
      · cases h
      · next hs =>
        refine ⟨(ih hnodup h).1.congr fun other hm => ?_, fun hstrict => absurd hstrict hs⟩
        rw [Entries.get?_cons, if_neg]
        rintro rfl
        exact hname hm

/-- The items of an array give each field what stands in its place. -/
private theorem positionsAs_reads {expected : String} {length index : Nat} {items : List Json} {β : Type}
    {fields : Fields σ β}
    (hnodup : fields.names.Nodup) (hfresh : fields.Fresh) {values : β}
    (h : positionsAs self expected length index items fields = .ok values) :
    fields.Reads self (fun name => Entries.get? name (fields.names.zip items)) values := by
  induction items generalizing β index with
  | nil =>
    rw [positionsAs] at h
    exact (Fields.finishArray_reads hfresh h).congr fun name _ => by simp
  | cons item rest ih =>
    have hlater {name other : String} {names : List String} (hname : name ∉ names) (hm : other ∈ names) :
        Entries.get? other ((name :: names).zip (item :: rest)) = Entries.get? other (names.zip rest) := by
      rw [List.zip_cons_cons, Entries.get?_cons, if_neg]
      rintro rfl
      exact hname hm
    cases fields with
    | nil => trivial
    | field name shape absence found more =>
      obtain ⟨hname, hmore⟩ := List.nodup_cons.1 hnodup
      rw [positionsAs] at h
      obtain ⟨value, hvalue, h⟩ := bind_eq_ok.1 h
      obtain ⟨others, hothers, h⟩ := bind_eq_ok.1 h
      cases h
      refine ⟨?_, (ih hmore hfresh.2 hothers).congr fun other hm => hlater hname hm⟩
      simp only [Fields.names, List.zip_cons_cons, Entries.get?_cons, if_true]
      exact ⟨hfresh.1, hvalue⟩
    | nullable name shape absence found more =>
      obtain ⟨hname, hmore⟩ := List.nodup_cons.1 hnodup
      have hread : (readNullable self shape item >>= fun value =>
          positionsAs self expected length (index + 1) rest more >>= fun values => .ok (value, values)) = .ok values := by
        rw [← h, positionsAs, readNullable]
        split <;> rfl
      obtain ⟨value, hvalue, h⟩ := bind_eq_ok.1 hread
      obtain ⟨others, hothers, h⟩ := bind_eq_ok.1 h
      cases h
      refine ⟨?_, (ih hmore hfresh.2 hothers).congr fun other hm => hlater hname hm⟩
      simp only [Fields.names, List.zip_cons_cons, Entries.get?_cons, if_true]
      exact ⟨hfresh.1, hvalue⟩

/-- What the fields of a record are found in: the members of an object, or the items of an array, in order. -/
def recordMembers? (names : List String) : Json → Option (List (String × Json))
  | .object members => some members
  | .array items => some (names.zip items)
  | _ => none

/-- A record is read field by field, and a strict one that is an object has no names but those of its fields. -/
theorem readAs_record {α β : Type} {name : String} {strict : Bool} {fields : Fields σ β} {build : β → α}
    (hnodup : fields.names.Nodup) (hfresh : fields.Fresh) {json : Json} {value : α}
    (h : readAs self json (.record (.mk name strict fields build)) = .ok value) :
    ∃ members, json.recordMembers? fields.names = some members ∧
      (∃ values, fields.Reads self (fun name => Entries.get? name members) values ∧ build values = value) ∧
      (strict = true → ∀ found, json = .object found → ∀ member ∈ found, member.1 ∈ fields.names) := by
  cases json with
  | null => cases h
  | bool b => cases h
  | number n => cases h
  | string s => cases h
  | array items =>
    obtain ⟨values, hvalues, hbuild⟩ := map_eq_ok.1 h
    exact ⟨_, rfl, ⟨values, positionsAs_reads hnodup hfresh hvalues, hbuild⟩, fun _ found hf => by cases hf⟩
  | object members =>
    obtain ⟨values, hvalues, hbuild⟩ := map_eq_ok.1 h
    obtain ⟨hreads, hall⟩ := membersAs_reads hnodup hvalues
    refine ⟨members, rfl, ⟨values, hreads, hbuild⟩, ?_⟩
    rintro hs found hf
    obtain rfl := Json.object.inj hf
    exact hall hs

end RequestBinding.Json
