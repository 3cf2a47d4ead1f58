import RequestBinding.Proofs.Json.Fields
import RequestBinding.Proofs.Json.Path

/-! Records in sections. A document is laid over what was written for an old record, and the new record is read from
both: each field from what the document has for it, and else from its old value. -/

namespace RequestBinding

namespace Json

section Sections

/-- A value with another one laid over it, if there is one. -/
def under (below : Json) : Option Json → Json
  | none => below
  | some value => below.overlay value

private theorem under_object (start : List (String × Json)) (given : Option Json) :
    (Json.object start).under given = (Json.object start).overlay (given.getD (.object [])) := by
  cases given <;> rfl

/-- The part of a document for a section, which is empty if there is none. -/
def sectionOf (name : String) (members : List (String × Json)) : Json :=
  (Entries.get? name members).getD (.object [])

theorem sectionOf_sorted {members : List (String × Json)} (h : (Json.object members).Sorted) (name : String) :
    (sectionOf name members).Sorted := by
  unfold sectionOf
  cases hg : Entries.get? name members with
  | none => exact .object List.Pairwise.nil fun _ hm => absurd hm List.not_mem_nil
  | some value => exact h.members.2 _ (Entries.mem_of_get? hg)

private theorem at?_sectionOf (members : List (String × Json)) (name next : String) (rest : List String) :
    (Json.object members).at? (name :: next :: rest) = (sectionOf name members).at? (next :: rest) := by
  rw [at?_object, sectionOf]
  cases Entries.get? name members <;> rfl

theorem arrayBefore_sectionOf (members : List (String × Json)) (name next : String) (rest : List String) :
    (Json.object members).arrayBefore (name :: next :: rest) = (sectionOf name members).arrayBefore (next :: rest) := by
  rw [arrayBefore, sectionOf]
  cases Entries.get? name members <;> rfl

/-- A path that ends in an object leads through no array. -/
theorem arrayBefore_member (members : List (String × Json)) (name : String) :
    (Json.object members).arrayBefore [name] = false := by
  rw [arrayBefore]
  cases Entries.get? name members with
  | none => rfl
  | some value => cases value <;> rfl

/-- Every way through the objects of a value leads on towards one of some paths. -/
def Within (value : Json) (paths : List (List String)) : Prop :=
  ∀ path, (value.at? path).isSome → ∃ full ∈ paths, path <+: full

private theorem within_of_not_object {value : Json} (h : ∀ members, value ≠ .object members) {full : List String}
    {paths : List (List String)} (hm : full ∈ paths) : value.Within paths := by
  intro path hp
  cases path with
  | nil => exact ⟨full, hm, List.nil_prefix⟩
  | cons name rest => rw [at?_not_object h] at hp; cases hp

theorem within_object {members : List (String × Json)} {full : List String} {paths : List (List String)}
    (hm : full ∈ paths)
    (h : ∀ name value, Entries.get? name members = some value →
      ∃ rests, value.Within rests ∧ ∀ rest ∈ rests, name :: rest ∈ paths) : (Json.object members).Within paths := by
  intro path hp
  cases path with
  | nil => exact ⟨full, hm, List.nil_prefix⟩
  | cons name rest =>
    rw [at?_object] at hp
    obtain ⟨found, hfound⟩ := Option.isSome_iff_exists.1 hp
    obtain ⟨value, hvalue, hfound⟩ := Option.bind_eq_some_iff.1 hfound
    obtain ⟨rests, hwithin, hall⟩ := h name value hvalue
    obtain ⟨own, hown, hprefix⟩ := hwithin rest (Option.isSome_iff_exists.2 ⟨found, hfound⟩)
    exact ⟨name :: own, hall own hown, List.cons_prefix_cons.2 ⟨rfl, hprefix⟩⟩

end Sections

section Leaves

variable {α : Type} {shape : Shape Unit α} {old new : α}

/-- A new value is read from what is given, and is the old one if nothing is given. -/
def Takes (shape : Shape Unit α) (given : Option Json) (old new : α) : Prop :=
  match given with
  | some value => Json.as shape value = .ok new
  | none => new = old

/-- What a document gives at a path is taken, unless an array stands on the way to it. -/
def Gives (given : Json) (shape : Shape Unit α) (path : List String) (old new : α) : Prop :=
  given.arrayBefore path = false → Takes shape (given.at? path) old new

theorem Takes.gives {members : List (String × Json)} {name : String} (h : Takes shape (Entries.get? name members) old new) :
    (Json.object members).Gives shape [name] old new := by
  intro _
  have hlast : (Json.object members).at? [name] = Entries.get? name members := by
    rw [at?_object]
    cases Entries.get? name members with
    | none => rfl
    | some value => cases value <;> rfl
  rwa [hlast]

/-- What is taken later counts, and else what was taken before. -/
theorem Takes.later {first second : Option Json} {between : α} (h : Takes shape first old between)
    (hlater : Takes shape second between new) : Takes shape (second.or first) old new := by
  cases second with
  | none => exact (show new = between from hlater) ▸ h
  | some value => exact hlater

theorem gives_array {items : List Json} {name : String} {rest : List String} :
    (Json.array items).Gives shape (name :: rest) old new :=
  fun h => by cases h

theorem Gives.inSection {members : List (String × Json)} {name next : String} {rest : List String}
    (h : (sectionOf name members).Gives shape (next :: rest) old new) :
    (Json.object members).Gives shape (name :: next :: rest) old new := by
  intro hbefore
  rw [at?_sectionOf]
  exact h (by rwa [← arrayBefore_sectionOf])

/-- A value that is written as no object, and is read as what was written. -/
structure Leaf (shape : Shape Unit α) (written : Json) (value : α) : Prop where
  same : written.sorted = written
  plain : ∀ members, written ≠ .object members
  back : ∀ found, Json.as shape written = .ok found → found = value

theorem Leaf.takes {written : Json} {given : Option Json} (h : Leaf shape written old)
    (hr : Json.as shape (written.sorted.under given) = .ok new) : Takes shape given old new := by
  rw [h.same] at hr
  cases given with
  | none => exact h.back new hr
  | some value =>
    rw [under, overlay_replaces h.plain] at hr
    exact hr

private theorem ofInt_eq (n : Int) :
    ofInt n = .null ∨ ∃ whole : Whole, ofInt n = .number (.whole whole) ∧ whole.value = n := by
  unfold ofInt Number.ofInt?
  split
  · next number hn =>
    split at hn
    · exact .inr ⟨_, congrArg Json.number (Option.some.inj hn).symm, rfl⟩
    · cases hn
  · exact .inl rfl

private theorem boundedWhole_value {low high value : Int} {expected : String} {n : Whole}
    (h : boundedWhole low high expected (.whole n) = .ok value) : value = n.value := by
  unfold boundedWhole at h
  dsimp only at h
  split at h
  · exact (Except.ok.inj h).symm
  · cases h

theorem leaf_size (n : Nat) : Leaf .size (.ofInt n) n := by
  rcases ofInt_eq n with hnull | ⟨whole, hwhole, hvalue⟩
  · rw [hnull]
    exact ⟨rfl, nofun, nofun⟩
  · rw [hwhole]
    refine ⟨rfl, nofun, fun found h => ?_⟩
    obtain ⟨value, hbounded, rfl⟩ := map_eq_ok.1 h
    rw [boundedWhole_value hbounded, hvalue, Int.toNat_natCast]

theorem leaf_bool (b : Bool) : Leaf .bool (.bool b) b := ⟨rfl, nofun, fun _ h => (Except.ok.inj h).symm⟩

theorem leaf_string (s : String) : Leaf .string (.string s) s := ⟨rfl, nofun, fun _ h => (Except.ok.inj h).symm⟩

end Leaves

section Records

variable {α β : Type}

/-- A new record is read from what was written for an old one with a document laid over it. -/
def Record.Laid (description : Record Unit α) (old given : Json) (new : α) : Prop :=
  Json.as (.record description) (old.sorted.overlay given) = .ok new

/-- In an array nothing is left of the old record. -/
theorem Record.Laid.array {description : Record Unit α} {old old' : Json} {items : List Json} {new new' : α}
    (h : description.Laid old (.array items) new) (h' : description.Laid old' (.array items) new') : new = new' :=
  Except.ok.inj (h.symm.trans h')

/-- Each field is read from its old value with what stands for it in the document laid over it. -/
theorem Record.Laid.cases {name : String} {fields : Fields Unit β} {build : β → α} {old : List (String × Json)}
    {given : Json} {new : α} (h : (Record.mk name true fields build).Laid (.object old) given new)
    (hnames : old.map Prod.fst = fields.names) (hnodup : fields.names.Nodup) (hfresh : fields.Fresh)
    (hs : given.Sorted) :
    (∃ items, given = .array items) ∨
      ∃ members, given = .object members ∧ (∀ name value, Entries.get? name members = some value → name ∈ fields.names) ∧
        ∃ values, build values = new ∧
          fields.Reads Record.trivial
            (fun name => (Entries.get? name old).map fun below => below.sorted.under (Entries.get? name members))
            values := by
  have hold : (old.map Prod.fst).Nodup := hnames ▸ hnodup
  unfold Record.Laid Json.as at h
  obtain ⟨found, hfound, ⟨values, hreads, hbuild⟩, hstrict⟩ := readAs_record hnodup hfresh h
  rw [sorted] at hfound hstrict
  cases given with
  | array items => exact .inl ⟨items, rfl⟩
  | object members =>
    rw [overlay_object] at hfound hstrict
    obtain rfl := Option.some.inj hfound
    have hget (name : String) := get?_overlayMembers name (Entries.sorted (sortedMembers old)) hs.members.1.nodup
    refine .inr ⟨members, rfl, fun name value hv => ?_, values, hbuild, hreads.congr fun name hm => ?_⟩
    · have hlaid := hget name
      rw [hv] at hlaid
      exact hstrict rfl _ rfl _ (Entries.mem_of_get? hlaid)
    · obtain ⟨below, hbelow⟩ := Option.ne_none_iff_exists'.1
        (mt (Entries.get?_eq_none_iff name old).1 (not_not.2 (hnames ▸ hm)))
      rw [hget, get?_sortedMembers name hold, hbelow]
      cases Entries.get? name members <;> rfl
  | null => cases hfound
  | bool b => cases hfound
  | number n => cases hfound
  | string s => cases hfound

/-- A section is read like any record, with the part of the document for it laid over it. -/
theorem Record.Laid.ofSection {description : Record Unit α} {old members : List (String × Json)} {name : String} {new : α}
    (h : Json.as (.record description) ((Json.object old).sorted.under (Entries.get? name members)) = .ok new) :
    description.Laid (.object old) (sectionOf name members) new := by
  rw [Record.Laid, sorted, sectionOf, ← under_object]
  exact h

end Records

section Names

variable {α : Type} {shape : Shape Unit α} {old new : α} {members : List (String × Json)} {name : String} {value : Json}

private theorem Takes.of_some (h : Takes shape (Entries.get? name members) old new)
    (hv : Entries.get? name members = some value) :
    Json.as shape value = .ok new := by
  rwa [hv] at h

/-- What is taken by a shape that no object has leads nowhere. -/
theorem Takes.within (h : Takes shape (Entries.get? name members) old new) (hv : Entries.get? name members = some value)
    (hshape : ∀ inner, Json.as shape (.object inner) ≠ .ok new) : value.Within [[]] := by
  refine within_of_not_object (fun inner he => hshape inner ?_) (List.mem_singleton_self [])
  rw [← he]
  exact h.of_some hv

private theorem nothing_of_ok {content : Json} {nothing : Unit} (h : Json.as .nothing content = .ok nothing) :
    content = .null := by
  cases content with
  | null => rfl
  | _ => cases h

private theorem choice_object {variants : List (String × α)} {inner : List (String × Json)}
    (h : Json.as (.choice variants) (.object inner) = .ok new) :
    ∃ own, inner = [(own, .null)] ∧ Entries.get? own variants = some new := by
  match inner with
  | [] => cases h
  | _ :: _ :: _ => cases h
  | [(own, content)] =>
    obtain ⟨variant, hvariant, h⟩ := bind_eq_ok.1 h
    obtain ⟨nothing, hcontent, h⟩ := bind_eq_ok.1 h
    cases h
    refine ⟨own, by rw [nothing_of_ok hcontent], ?_⟩
    unfold variantOf at hvariant
    split at hvariant
    · next found hfound => rw [hfound, Except.ok.inj hvariant]
    · cases hvariant

theorem Takes.choice_within {variants : List (String × α)} {full : List String} {paths : List (List String)}
    (h : Takes (.choice variants) (Entries.get? name members) old new) (hv : Entries.get? name members = some value)
    (hfull : full ∈ paths) (hpaths : ∀ entry ∈ variants, [entry.1] ∈ paths) : value.Within paths := by
  have hr := h.of_some hv
  by_cases hobject : ∃ inner, value = .object inner
  · obtain ⟨inner, rfl⟩ := hobject
    obtain ⟨own, rfl, hvariant⟩ := choice_object hr
    refine within_object hfull fun key found hfound => ⟨[[]], ?_, ?_⟩
    · obtain ⟨-, rfl⟩ := Prod.mk.inj (List.mem_singleton.1 (Entries.mem_of_get? hfound))
      exact within_of_not_object (fun _ he => by cases he) (List.mem_singleton_self [])
    · obtain ⟨rfl, -⟩ := Prod.mk.inj (List.mem_singleton.1 (Entries.mem_of_get? hfound))
      exact List.forall_mem_singleton.2 (hpaths _ (Entries.mem_of_get? hvariant))
  · exact within_of_not_object (fun inner he => hobject ⟨inner, he⟩) hfull

theorem within_array {items : List Json} {full : List String} {paths : List (List String)} (h : full ∈ paths) :
    (Json.array items).Within paths :=
  within_of_not_object (fun _ he => by cases he) h

end Names

end Json

end RequestBinding
