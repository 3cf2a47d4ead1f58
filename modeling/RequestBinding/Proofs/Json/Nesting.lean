import RequestBinding.Json.Outline
import RequestBinding.Json.ShapeText
import RequestBinding.Proofs.Entries
import RequestBinding.Proofs.Except

/-! JSON values as they are read from text: they nest no deeper than their reader allows, and the members of objects
stand in ascending order of their names. A document is read where its root is and nothing but space follows. -/

namespace RequestBinding.Json

/-- A document is read when its root is read and nothing but space follows. -/
theorem Document.readWith_eq_ok {α : Type} {read : Outline → Except Fault α} {text : List UInt8} {value : α} :
    Document.readWith read text = .ok value ↔
      read (Document.ofBytes text).root = .ok value ∧ (Document.ofBytes text).trailing = none := by
  rw [Document.readWith, mapError_eq_ok]
  cases ht : (Document.ofBytes text).trailing with
  | none =>
    constructor
    · intro h
      obtain ⟨found, hf, h⟩ := bind_eq_ok.1 h
      cases h
      exact ⟨hf, rfl⟩
    · rintro ⟨hr, -⟩
      exact bind_eq_ok.2 ⟨value, hr, rfl⟩
  | some fault =>
    constructor
    · intro h
      obtain ⟨found, hf, h⟩ := bind_eq_ok.1 h
      cases h
    · rintro ⟨-, ht⟩
      cases ht

/-- Arrays and objects nest no deeper than this, and the members of every object stand in ascending order. -/
inductive Fits : Nat → Json → Prop
  | null (depth : Nat) : Fits depth .null
  | bool (depth : Nat) (b : Bool) : Fits depth (.bool b)
  | number (depth : Nat) (n : Number) : Fits depth (.number n)
  | string (depth : Nat) (s : String) : Fits depth (.string s)
  | array {depth : Nat} {items : List Json} : (∀ item ∈ items, Fits depth item) → Fits (depth + 1) (.array items)
  | object {depth : Nat} {members : List (String × Json)} : Entries.Ascending members →
      (∀ member ∈ members, Fits depth member.2) → Fits (depth + 1) (.object members)

/-- A container can be entered where there is a level left for it. -/
theorem nest_eq_ok {depth start inner : Nat} : nest depth start = .ok inner ↔ depth = inner + 1 := by
  unfold nest
  split
  · next h => simp [h]
  · rw [Except.ok.injEq]
    omega

mutual

/-- What an outline stands for has room where it is read. -/
theorem Outline.value_fits : ∀ (outline : Outline) {depth : Nat} {value : Json},
    outline.value depth = .ok value → value.Fits depth
  | .null _, depth, _, h => by
    cases h
    exact .null depth
  | .bool b _, depth, _, h => by
    cases h
    exact .bool depth b
  | .number _ _ _, depth, _, h => by
    rw [Outline.value] at h
    obtain ⟨n, -, rfl⟩ := map_eq_ok.1 h
    exact .number depth n
  | .string _ _, depth, _, h => by
    rw [Outline.value] at h
    obtain ⟨⟨s, stop⟩, -, rfl⟩ := map_eq_ok.1 h
    exact .string depth s
  | .array _ items _, 0, _, h => by cases h
  | .array _ items _, depth + 1, _, h => by
    rw [Outline.value, if_neg (Nat.succ_ne_zero depth)] at h
    obtain ⟨values, hvalues, h⟩ := bind_eq_ok.1 h
    obtain ⟨-, -, h⟩ := bind_eq_ok.1 h
    cases h
    exact .array (itemValues_fits items hvalues)
  | .object _ members _, 0, _, h => by cases h
  | .object _ members _, depth + 1, _, h => by
    rw [Outline.value, if_neg (Nat.succ_ne_zero depth)] at h
    obtain ⟨values, hvalues, h⟩ := bind_eq_ok.1 h
    obtain ⟨-, -, h⟩ := bind_eq_ok.1 h
    cases h
    exact .object (Entries.ascending_sorted values) fun member hm =>
      memberValues_fits members hvalues member (Entries.mem_of_mem_sorted hm)
  | .broken _, _, _, h => by cases h

private theorem itemValues_fits : ∀ (items : List (Nat × Outline)) {depth : Nat} {values : List Json},
    itemValues depth items = .ok values → ∀ value ∈ values, value.Fits depth
  | [], _, _, h => by
    cases h
    simp
  | (_, item) :: rest, _, _, h => by
    rw [itemValues] at h
    obtain ⟨value, hvalue, h⟩ := bind_eq_ok.1 h
    obtain ⟨values, hvalues, h⟩ := bind_eq_ok.1 h
    cases h
    exact List.forall_mem_cons.2 ⟨item.value_fits hvalue, itemValues_fits rest hvalues⟩

private theorem memberValues_fits : ∀ (members : List (Key × Outline)) {depth : Nat} {values : List (String × Json)},
    memberValues depth members = .ok values → ∀ value ∈ values, value.2.Fits depth
  | [], _, _, h => by
    cases h
    simp
  | (_, member) :: rest, _, _, h => by
    rw [memberValues] at h
    obtain ⟨⟨name, stop⟩, -, h⟩ := bind_eq_ok.1 h
    obtain ⟨value, hvalue, h⟩ := bind_eq_ok.1 h
    obtain ⟨values, hvalues, h⟩ := bind_eq_ok.1 h
    cases h
    exact List.forall_mem_cons.2 ⟨member.value_fits hvalue, memberValues_fits rest hvalues⟩

end

section Containers

variable {start depth : Nat} {finish : Finish} {value : Json}

theorem Outline.value_array_ne_null {items : List (Nat × Outline)}
    (h : Outline.value depth (.array start items finish) = .ok value) : value ≠ .null := by
  rw [Outline.value] at h
  split at h
  · cases h
  · obtain ⟨values, -, h⟩ := bind_eq_ok.1 h
    obtain ⟨-, -, h⟩ := bind_eq_ok.1 h
    cases h
    nofun

theorem Outline.value_object_ne_null {members : List (Key × Outline)}
    (h : Outline.value depth (.object start members finish) = .ok value) : value ≠ .null := by
  rw [Outline.value] at h
  split at h
  · cases h
  · obtain ⟨values, -, h⟩ := bind_eq_ok.1 h
    obtain ⟨-, -, h⟩ := bind_eq_ok.1 h
    cases h
    nofun

end Containers

end RequestBinding.Json
