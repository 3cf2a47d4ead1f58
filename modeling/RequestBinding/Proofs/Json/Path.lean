import RequestBinding.Proofs.Json.Sorted
import RequestBinding.Settings.Overlay

/-! Values at paths through the members of JSON objects. A value laid over another is found at every path that it has,
and a text that repeats names has at a path what stands there last. -/

namespace RequestBinding

namespace Entries

variable {α : Type}

private theorem get?_sorted_reverse (name : String) (entries : List (String × α)) :
    get? name (sorted entries) = get? name entries.reverse := by
  have hfold (done : List (String × α)) :
      get? name (entries.foldl (fun done entry => insert entry.1 entry.2 done) done) =
        (get? name entries.reverse).or (get? name done) := by
    induction entries generalizing done with
    | nil => rfl
    | cons entry rest ih =>
      obtain ⟨own, value⟩ := entry
      rw [List.foldl_cons, ih, get?_insert, List.reverse_cons, get?_append, Option.or_assoc, get?_cons, get?_nil]
      split <;> rfl
  have hsorted : sorted entries = entries.foldl (fun done entry => insert entry.1 entry.2 done) [] := rfl
  rw [hsorted, hfold, get?_nil, Option.or_none]

end Entries

namespace Json

/-- The value at a path through the members of objects. -/
def at? : Json → List String → Option Json
  | value, [] => some value
  | .object members, name :: rest => (Entries.get? name members).bind fun value => at? value rest
  | _, _ :: _ => none

/-- An array stands on the way to a path, where an object would lead on. -/
def arrayBefore : Json → List String → Bool
  | .array _, _ :: _ => true
  | .object members, name :: rest =>
    match Entries.get? name members with
    | some value => arrayBefore value rest
    | none => false
  | _, _ => false

@[simp] theorem at?_object (members : List (String × Json)) (name : String) (rest : List String) :
    (Json.object members).at? (name :: rest) = (Entries.get? name members).bind (·.at? rest) := by
  rw [at?]

theorem at?_not_object {value : Json} (h : ∀ members, value ≠ .object members) (name : String) (rest : List String) :
    value.at? (name :: rest) = none := by
  cases value with
  | object members => exact absurd rfl (h members)
  | _ => rfl

section Overlay

/-- Each member is laid over the one of its name, or stands by itself where there is none. -/
theorem get?_overlayMembers (name : String) (below : List (String × Json)) {members : List (String × Json)}
    (hd : (members.map Prod.fst).Nodup) :
    Entries.get? name (overlayMembers below members) =
      match Entries.get? name members with
      | none => Entries.get? name below
      | some value => some (match Entries.get? name below with
        | some old => old.overlay value
        | none => value) := by
  induction members generalizing below with
  | nil => rfl
  | cons member rest ih =>
    obtain ⟨own, value⟩ := member
    obtain ⟨hown, hrest⟩ := List.nodup_cons.1 hd
    have hnone : Entries.get? own rest = none := (Entries.get?_eq_none_iff ..).2 hown
    -- What is laid over the entries first changes the look up of its own name only.
    cases hold : Entries.get? own below with
    | some old =>
      simp only [overlayMembers, hold, ih _ hrest, Entries.get?_put, Entries.get?_cons]
      by_cases he : name = own
      · subst he
        simp only [hnone, if_true, hold]
      · simp only [if_neg he]
    | none =>
      simp only [overlayMembers, hold, ih _ hrest, Entries.get?_insert, Entries.get?_cons]
      by_cases he : name = own
      · subst he
        simp only [hnone, if_true, hold]
      · simp only [if_neg he]

theorem overlay_object (start members : List (String × Json)) :
    (Json.object start).overlay (.object members) = .object (overlayMembers start members) := by
  rw [overlay]

/-- A value that is no object is replaced as a whole. -/
theorem overlay_replaces {below : Json} (h : ∀ members, below ≠ .object members) (value : Json) :
    below.overlay value = value := by
  cases value with
  | object members =>
    cases below with
    | object start => exact absurd rfl (h start)
    | _ => rfl
  | _ => rfl

end Overlay

section Sorting

private theorem sortedMembers_eq_map (members : List (String × Json)) :
    sortedMembers members = members.map fun (name, value) => (name, value.sorted) := by
  induction members with
  | nil => rfl
  | cons member rest ih =>
    obtain ⟨name, value⟩ := member
    rw [sortedMembers, ih, List.map_cons]

/-- Sorting an object changes no look up as long as no name stands twice in it. -/
theorem get?_sortedMembers (name : String) {members : List (String × Json)} (hd : (members.map Prod.fst).Nodup) :
    Entries.get? name (Entries.sorted (sortedMembers members)) = (Entries.get? name members).map sorted := by
  have hnames : (sortedMembers members).map Prod.fst = members.map Prod.fst := by
    rw [sortedMembers_eq_map, List.map_map]
    rfl
  rw [Entries.get?_sorted name (hnames ▸ hd), sortedMembers_eq_map, Entries.get?_map]

theorem Sorted.members {members : List (String × Json)} (h : (Json.object members).Sorted) :
    Entries.Ascending members ∧ ∀ member ∈ members, member.2.Sorted := by
  cases h with
  | object ha hm => exact ⟨ha, hm⟩

theorem Sorted.at? {value found : Json} {path : List String} (h : value.Sorted) (hf : value.at? path = some found) :
    found.Sorted := by
  induction path generalizing value with
  | nil =>
    cases value <;> (obtain rfl := Option.some.inj hf; exact h)
  | cons name rest ih =>
    cases value with
    | object members =>
      rw [at?_object] at hf
      obtain ⟨inner, hi, hf⟩ := Option.bind_eq_some_iff.1 hf
      exact ih (h.members.2 _ (Entries.mem_of_get? hi)) hf
    | _ => cases hf

end Sorting

section Text

/-- The name of a member as it is written. -/
def Key.isNamed (key : Key) (name : String) : Bool :=
  match readString key.start with
  | .ok (found, _) => found == name
  | .error _ => false

/-- What is laid out at a path, in the last member of each name on the way. -/
def Outline.at? : Outline → List String → Option Outline
  | outline, [] => some outline
  | .object _ members _, name :: rest =>
    (members.reverse.find? fun (key, _) => key.isNamed name).bind fun (_, member) => Outline.at? member rest
  | _, _ :: _ => none

/-- The values of members, each from the last member of its name. -/
private theorem get?_memberValues {depth : Nat} {members : List (Key × Outline)} {values : List (String × Json)}
    (h : memberValues depth members = .ok values) (name : String) :
    (match members.reverse.find? fun (key, _) => key.isNamed name with
      | some (_, member) => ∃ value, Entries.get? name values.reverse = some value ∧ member.value depth = .ok value
      | none => Entries.get? name values.reverse = none) := by
  induction members generalizing values with
  | nil =>
    cases h
    rfl
  | cons head rest ih =>
    obtain ⟨key, member⟩ := head
    rw [memberValues] at h
    obtain ⟨⟨own, stop⟩, hkey, h⟩ := bind_eq_ok.1 h
    obtain ⟨value, hvalue, h⟩ := bind_eq_ok.1 h
    obtain ⟨others, hothers, h⟩ := bind_eq_ok.1 h
    cases h
    have hlater := ih hothers
    rw [List.reverse_cons, List.find?_append, List.reverse_cons, Entries.get?_append]
    cases hfind : rest.reverse.find? fun (key, _) => key.isNamed name with
    | some found =>
      rw [hfind] at hlater
      obtain ⟨found', hget, hread⟩ := hlater
      exact ⟨found', by rw [hget, Option.some_or], hread⟩
    | none =>
      rw [hfind] at hlater
      rw [hlater, Option.none_or, Option.none_or, Entries.get?_cons, Entries.get?_nil]
      have hnamed : key.isNamed name = (own == name) := by
        unfold Key.isNamed
        rw [hkey]
      by_cases he : own = name
      · rw [List.find?_cons_of_pos (by simpa [hnamed] using he)]
        exact ⟨value, if_pos he.symm, hvalue⟩
      · rw [List.find?_cons_of_neg (by simpa [hnamed] using he)]
        exact if_neg (Ne.symm he)

/-- A value that is read has at each path what is laid out there last. -/
theorem Outline.at?_value {outline : Outline} {depth : Nat} {value : Json} (h : outline.value depth = .ok value)
    (path : List String) :
    match outline.at? path with
    | some inner => ∃ found, value.at? path = some found ∧ inner.value (depth - path.length) = .ok found
    | none => value.at? path = none := by
  induction path generalizing outline depth value with
  | nil =>
    have hself : outline.at? [] = some outline := by cases outline <;> rfl
    have hfound : value.at? [] = some value := by cases value <;> rfl
    rw [hself]
    exact ⟨value, hfound, h⟩
  | cons name rest ih =>
    cases outline with
    | object start members finish =>
      rw [Outline.value] at h
      split at h
      · cases h
      · obtain ⟨values, hvalues, h⟩ := bind_eq_ok.1 h
        obtain ⟨-, -, h⟩ := bind_eq_ok.1 h
        cases h
        have hmember := get?_memberValues hvalues name
        rw [Outline.at?, Json.at?_object, Entries.get?_sorted_reverse, List.length_cons, Nat.sub_add_eq,
          Nat.sub_right_comm]
        cases hfind : members.reverse.find? fun (key, _) => key.isNamed name with
        | none =>
          rw [hfind] at hmember
          rw [hmember]
          rfl
        | some found =>
          rw [hfind] at hmember
          obtain ⟨inner, hget, hread⟩ := hmember
          rw [hget]
          exact ih hread
    | null start => cases h; rfl
    | bool b start => cases h; rfl
    | number start literal stop =>
      obtain ⟨n, -, rfl⟩ := map_eq_ok.1 h
      rfl
    | string start passed =>
      obtain ⟨s, -, rfl⟩ := map_eq_ok.1 h
      rfl
    | array start items finish =>
      rw [Outline.value] at h
      split at h
      · cases h
      · obtain ⟨values, -, h⟩ := bind_eq_ok.1 h
        obtain ⟨-, -, h⟩ := bind_eq_ok.1 h
        cases h
        rfl
    | broken b => cases h

end Text

end Json
end RequestBinding
