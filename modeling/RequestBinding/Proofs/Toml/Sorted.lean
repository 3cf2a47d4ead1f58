import RequestBinding.Proofs.Entries
import RequestBinding.Proofs.Json.Sorted
import RequestBinding.Toml.Reader

/-! Documents that are read from TOML have their members in ascending order, whatever the order of their lines. -/

namespace RequestBinding.Toml

/-- The complete values under an item have their members in order. -/
inductive Item.Sorted : Item → Prop
  | value {v : Json} : v.Sorted → Sorted (.value v)
  | table {origin : Origin} {entries : List (String × Item)} : (∀ entry ∈ entries, Sorted entry.2) →
      Sorted (.table origin entries)
  | tables {elements : List (List (String × Item))} : (∀ entries ∈ elements, ∀ entry ∈ entries, Sorted entry.2) →
      Sorted (.tables elements)

/-- Entries of a table with all the items under them in order. -/
def Tidy (entries : List (String × Item)) : Prop := ∀ entry ∈ entries, entry.2.Sorted

namespace Item

private theorem entriesToJson_eq_map (entries : List (String × Item)) :
    entriesToJson entries = entries.map fun (name, item) => (name, item.toJson) := by
  induction entries with
  | nil => rfl
  | cons entry rest ih =>
    obtain ⟨name, item⟩ := entry
    rw [entriesToJson, ih, List.map_cons]

private theorem elementsToJson_eq_map (elements : List (List (String × Item))) :
    elementsToJson elements = elements.map fun entries => .object (Entries.sorted (entriesToJson entries)) := by
  induction elements with
  | nil => rfl
  | cons entries rest ih => rw [elementsToJson, ih, List.map_cons]

private theorem object_sorted {entries : List (String × Item)} (h : ∀ entry ∈ entries, entry.2.toJson.Sorted) :
    (Json.object (Entries.sorted (entriesToJson entries))).Sorted := by
  refine .object (Entries.ascending_sorted _) fun member hm => ?_
  have hm := Entries.mem_of_mem_sorted hm
  rw [entriesToJson_eq_map] at hm
  obtain ⟨entry, he, rfl⟩ := List.mem_map.1 hm
  exact h entry he

theorem Sorted.toJson {item : Item} (h : item.Sorted) : item.toJson.Sorted := by
  induction h with
  | value hv => rwa [Item.toJson]
  | table _ ih =>
    rw [Item.toJson]
    exact object_sorted ih
  | tables _ ih =>
    rw [Item.toJson, elementsToJson_eq_map]
    refine .array fun element hm => ?_
    obtain ⟨entries, he, rfl⟩ := List.mem_map.1 hm
    exact object_sorted (ih entries he)

theorem Sorted.entries {origin : Origin} {entries : List (String × Item)} (h : (Item.table origin entries).Sorted) :
    Tidy entries := by
  cases h with
  | table hentries => exact hentries

theorem Sorted.elements {elements : List (List (String × Item))} (h : (Item.tables elements).Sorted) :
    ∀ entries ∈ elements, Tidy entries := by
  cases h with
  | tables helements => exact helements

end Item

section Tables

variable {entries changed : List (String × Item)}

theorem Tidy.put (h : Tidy entries) {item : Item} (hi : item.Sorted) (name : String) :
    Tidy (Entries.put name item entries) := by
  intro entry hm
  rcases Entries.mem_of_mem_put hm with rfl | hm
  · exact hi
  · exact h entry hm

theorem Tidy.get? (h : Tidy entries) {name : String} {item : Item} (hg : Entries.get? name entries = some item) :
    item.Sorted :=
  h _ (Entries.mem_of_get? hg)

private theorem tidy_nil : Tidy [] := fun _ hm => absurd hm List.not_mem_nil

/-- A change to a table within keeps the order if it does so where it is made. -/
private theorem within_tidy {made : Origin} {change : Origin → List (String × Item) → Option (List (String × Item))}
    (hchange : ∀ {origin : Origin} {start done : List (String × Item)}, change origin start = some done →
      Tidy start → Tidy done) {path : List String} {origin : Origin}
    (h : within made change origin entries path = some changed) (ht : Tidy entries) : Tidy changed := by
  induction path generalizing origin entries changed with
  | nil => exact hchange h ht
  | cons key path ih =>
    have hfound : ((Entries.get? key entries).getD (.table made [])).Sorted := by
      cases hg : Entries.get? key entries with
      | none => exact .table tidy_nil
      | some item => exact ht.get? hg
    rw [within] at h
    split at h
    · cases h
    · next elements he =>
      rw [he] at hfound
      have helements := hfound.elements
      split at h
      · cases h
      · next last before hr =>
        have hmem {entries : List (String × Item)} (hm : entries ∈ last :: before) : Tidy entries :=
          helements _ (List.mem_reverse.1 (hr ▸ hm))
        obtain ⟨inner, hinner, rfl⟩ := Option.map_eq_some_iff.1 h
        refine ht.put (.tables fun entries hm => ?_) key
        rcases List.mem_cons.1 (List.mem_reverse.1 hm) with rfl | hm
        · exact ih hinner (hmem (List.mem_cons_self ..))
        · exact hmem (List.mem_cons_of_mem _ hm)
    · next own inner he =>
      rw [he] at hfound
      split at h
      · cases h
      · obtain ⟨done, hdone, rfl⟩ := Option.map_eq_some_iff.1 h
        exact ht.put (.table (ih hdone hfound.entries)) key

private theorem addValue_tidy {key : String} {item : Item} {throughDots : Bool} {origin : Origin} (hi : item.Sorted)
    (h : addValue key item throughDots origin entries = some changed) (ht : Tidy entries) : Tidy changed := by
  unfold addValue at h
  split at h
  · cases h
  · split at h
    · cases h
    · cases h
      exact ht.put hi key

private theorem assign_tidy {keys : List String} {item : Item} {origin : Origin} (hi : item.Sorted)
    (h : assign keys item origin entries = some changed) (ht : Tidy entries) : Tidy changed := by
  obtain ⟨⟨path, key⟩, -, h⟩ := Option.bind_eq_some_iff.1 h
  exact within_tidy (addValue_tidy hi) h ht

private theorem assignUnder_tidy {header keys : List String} {item : Item} (hi : item.Sorted)
    (h : assignUnder header keys item entries = some changed) (ht : Tidy entries) : Tidy changed :=
  within_tidy (assign_tidy hi) h ht

private theorem openTable_tidy {path : List String} (h : openTable path entries = some changed) (ht : Tidy entries) :
    Tidy changed := by
  obtain ⟨⟨parent, key⟩, -, h⟩ := Option.bind_eq_some_iff.1 h
  refine within_tidy (fun {_ start done} hd hs => ?_) h ht
  split at hd
  · cases hd
    exact hs.put (.table tidy_nil) key
  · next inner hg =>
    cases hd
    exact hs.put (.table (hs.get? hg).entries) key
  · cases hd

private theorem openElement_tidy {path : List String} (h : openElement path entries = some changed)
    (ht : Tidy entries) :
    Tidy changed := by
  obtain ⟨⟨parent, key⟩, -, h⟩ := Option.bind_eq_some_iff.1 h
  refine within_tidy (fun {_ start done} hd hs => ?_) h ht
  split at hd
  · cases hd
    refine hs.put (.tables fun entries hm => ?_) key
    obtain rfl := List.mem_singleton.1 hm
    exact tidy_nil
  · next elements hg =>
    cases hd
    refine hs.put (.tables fun entries hm => ?_) key
    rcases List.mem_append.1 hm with hm | hm
    · exact (hs.get? hg).elements entries hm
    · obtain rfl := List.mem_singleton.1 hm
      exact tidy_nil
  · cases hd

end Tables

section Values

variable {text rest : List Char} {v : Json}

private theorem ofInt_sorted (n : Int) : (Json.ofInt n).Sorted := by
  unfold Json.ofInt
  split
  · exact .number _
  · exact .null

private theorem float?_sorted (h : float? text = some v) : v.Sorted := by
  unfold float? at h
  dsimp only at h
  split at h
  · cases h
    exact .null
  · obtain ⟨digits, -, h⟩ := Option.bind_eq_some_iff.1 h
    split at h
    · cases h
    · split at h
      · cases h
        exact .number _
      · split at h
        · cases h
          exact .null
        · cases h

private theorem scalarOf_sorted (h : scalarOf text = some v) : v.Sorted := by
  unfold scalarOf at h
  split at h
  · cases h
    exact .bool true
  · split at h
    · cases h
      exact .bool false
    · split at h
      · cases h
        refine .object (List.pairwise_singleton ..) fun member hm => ?_
        obtain rfl := List.mem_singleton.1 hm
        exact .string _
      · split at h
        · cases h
          exact ofInt_sorted _
        · exact float?_sorted h

private theorem scalar_sorted (h : scalar text = some (v, rest)) : v.Sorted := by
  have hmap {token rest' : List Char} (h : (scalarOf token).map (fun v => (v, rest')) = some (v, rest)) : v.Sorted := by
    obtain ⟨found, hf, he⟩ := Option.map_eq_some_iff.1 h
    cases he
    exact scalarOf_sorted hf
  unfold scalar at h
  dsimp only at h
  split at h
  · split at h
    · exact hmap h
    · exact hmap h
  · exact hmap h

mutual

private theorem value_sorted : {fuel depth : Nat} → {text rest : List Char} → {v : Json} →
    value fuel depth text = some (v, rest) → v.Sorted
  | 0, _, _, _, _, h => by cases h
  | fuel + 1, depth, text, rest, v, h => by
    unfold value at h
    split at h
    · obtain ⟨found, -, he⟩ := Option.map_eq_some_iff.1 h
      cases he
      exact .string _
    · obtain ⟨found, -, he⟩ := Option.map_eq_some_iff.1 h
      cases he
      exact .string _
    · split at h
      · cases h
      · obtain ⟨⟨values, after⟩, hitems, he⟩ := Option.map_eq_some_iff.1 h
        cases he
        exact .array (items_sorted hitems)
    · split at h
      · cases h
      · split at h
        · cases h
          exact .object List.Pairwise.nil fun _ hm => absurd hm List.not_mem_nil
        · obtain ⟨⟨entries, after⟩, hpairs, he⟩ := Option.map_eq_some_iff.1 h
          cases he
          exact (Item.Sorted.table (pairs_tidy hpairs tidy_nil)).toJson
    · exact scalar_sorted h

private theorem items_sorted : {fuel depth : Nat} → {text rest : List Char} → {values : List Json} →
    items fuel depth text = some (values, rest) → ∀ v ∈ values, v.Sorted
  | 0, _, _, _, _, h => by cases h
  | fuel + 1, depth, text, rest, values, h => by
    unfold items at h
    split at h
    · cases h
      exact fun _ hm => absurd hm List.not_mem_nil
    · obtain ⟨⟨first, after⟩, hfirst, h⟩ := Option.bind_eq_some_iff.1 h
      have hsorted := value_sorted hfirst
      dsimp only at h
      split at h
      · obtain ⟨⟨others, last⟩, hothers, he⟩ := Option.map_eq_some_iff.1 h
        cases he
        exact List.forall_mem_cons.2 ⟨hsorted, items_sorted hothers⟩
      · cases h
        exact List.forall_mem_singleton.2 hsorted
      · cases h

private theorem pairs_tidy : {fuel depth : Nat} → {entries done : List (String × Item)} → {text rest : List Char} →
    pairs fuel depth entries text = some (done, rest) → Tidy entries → Tidy done
  | 0, _, _, _, _, _, h, _ => by cases h
  | fuel + 1, depth, entries, done, text, rest, h, ht => by
    rw [pairs] at h
    obtain ⟨⟨names, after⟩, -, h⟩ := Option.bind_eq_some_iff.1 h
    obtain ⟨start, -, h⟩ := Option.bind_eq_some_iff.1 h
    obtain ⟨⟨v, behind⟩, hv, h⟩ := Option.bind_eq_some_iff.1 h
    obtain ⟨changed, hchanged, h⟩ := Option.bind_eq_some_iff.1 h
    have htidy : Tidy changed := assign_tidy (.value (value_sorted hv)) hchanged ht
    split at h
    · exact pairs_tidy h htidy
    · cases h
      exact htidy
    · cases h

end

end Values

section Documents

/-- The value of a line, if it has one, has its members in order. -/
def Line.Sorted : Line → Prop
  | pair _ v => v.Sorted
  | table _ => True
  | element _ => True

private theorem line_sorted {text rest : List Char} {found : Line} (h : line text = some (found, rest)) :
    found.Sorted := by
  unfold line at h
  split at h
  · obtain ⟨_, -, h⟩ := Option.bind_eq_some_iff.1 h
    obtain ⟨_, -, h⟩ := Option.bind_eq_some_iff.1 h
    obtain ⟨_, -, h⟩ := Option.bind_eq_some_iff.1 h
    obtain ⟨_, -, he⟩ := Option.map_eq_some_iff.1 h
    cases he
    trivial
  · obtain ⟨_, -, h⟩ := Option.bind_eq_some_iff.1 h
    obtain ⟨_, -, h⟩ := Option.bind_eq_some_iff.1 h
    obtain ⟨_, -, he⟩ := Option.map_eq_some_iff.1 h
    cases he
    trivial
  · obtain ⟨⟨names, start⟩, -, h⟩ := Option.bind_eq_some_iff.1 h
    obtain ⟨behind, -, h⟩ := Option.bind_eq_some_iff.1 h
    obtain ⟨⟨v, after⟩, hv, h⟩ := Option.bind_eq_some_iff.1 h
    obtain ⟨_, -, he⟩ := Option.map_eq_some_iff.1 h
    cases he
    exact value_sorted hv

private theorem Line.addTo_tidy {found : Line} {root changed : List (String × Item)} {path opened : List String}
    (hl : found.Sorted) (h : found.addTo root path = some (changed, opened)) (ht : Tidy root) : Tidy changed := by
  cases found with
  | pair keys v =>
    obtain ⟨done, hdone, he⟩ := Option.map_eq_some_iff.1 h
    cases he
    exact assignUnder_tidy (.value hl) hdone ht
  | table own =>
    obtain ⟨done, hdone, he⟩ := Option.map_eq_some_iff.1 h
    cases he
    exact openTable_tidy hdone ht
  | element own =>
    obtain ⟨done, hdone, he⟩ := Option.map_eq_some_iff.1 h
    cases he
    exact openElement_tidy hdone ht

private theorem lines_tidy {fuel : Nat} {root done : List (String × Item)} {path : List String} {text : List Char}
    (h : lines fuel root path text = some done) (ht : Tidy root) : Tidy done := by
  induction fuel generalizing root path text with
  | zero => cases h
  | succ fuel ih =>
    rw [lines] at h
    split at h
    · cases h
      exact ht
    · obtain ⟨⟨found, rest⟩, hline, h⟩ := Option.bind_eq_some_iff.1 h
      obtain ⟨⟨changed, opened⟩, hadd, h⟩ := Option.bind_eq_some_iff.1 h
      exact ih h (Line.addTo_tidy (line_sorted hline) hadd ht)

theorem read_sorted {text : String} {document : Json} (h : read text = some document) : document.Sorted := by
  obtain ⟨root, hroot, rfl⟩ := Option.map_eq_some_iff.1 h
  exact (Item.Sorted.table (lines_tidy hroot tidy_nil)).toJson

end Documents
end RequestBinding.Toml
