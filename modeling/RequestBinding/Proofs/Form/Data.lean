import RequestBinding.Form.Data
import RequestBinding.Proofs.NamedValues
import RequestBinding.Text.Utf8

/-! The data of a form, known by its lookups, the texts of a name and the file of a name, and by how much there is of
it. -/

namespace RequestBinding

/-- The bytes of a file, none of one that was handed out. -/
def FormFile.size : FormFile → Nat
  | .ready file => file.size
  | .claimed => 0

namespace FormData

/-- How many bytes each text and each file has. -/
def sizes (d : FormData) : List Nat :=
  d.values.texts.map (fun text => (Utf8.encode text).length) ++ d.files.map (·.2.size)

variable (d : FormData) (name : String)

theorem all?_append (own text : String) : (d.append own text).values.all? name =
    if name = own then some ((d.values.all? own).getD [] ++ [text]) else d.values.all? name :=
  d.values.all?_append name own text

@[simp] theorem values_insertFile (file : Upload) : (d.insertFile file).values = d.values := by
  unfold insertFile
  split <;> rfl

/-- Of the files of one name the first one stays. -/
@[simp] theorem get?_insertFile (file : Upload) : Entries.get? name (d.insertFile file).files =
    (Entries.get? name d.files).or (if name = file.field then some (.ready file) else none) := by
  unfold insertFile
  split
  · next hhas =>
    by_cases hn : name = file.field
    · subst hn
      obtain ⟨found, hfound⟩ := Option.isSome_iff_exists.1 hhas
      rw [hfound, Option.some_or]
    · rw [if_neg hn, Option.or_none]
  · next hnone =>
    rw [Entries.get?_put]
    by_cases hn : name = file.field
    · subst hn
      have hfresh : Entries.get? file.field d.files = none := by simpa [Entries.has] using hnone
      rw [if_pos rfl, if_pos rfl, hfresh, Option.none_or]
    · rw [if_neg hn, if_neg hn, Option.or_none]

theorem sizes_append (text : String) : (d.append name text).sizes.Perm ((Utf8.encode text).length :: d.sizes) :=
  ((d.values.texts_append name text).map _).append_right _

/-- A file adds its bytes, unless there was one of its name. -/
theorem sizes_insertFile (file : Upload) :
    (d.insertFile file).sizes = d.sizes ∨ (d.insertFile file).sizes = d.sizes ++ [file.size] := by
  unfold insertFile
  split
  · exact .inl rfl
  · next hfresh =>
    right
    unfold sizes
    rw [Entries.put_fresh (by simpa using hfresh), List.map_append, ← List.append_assoc]
    rfl

section Lookups

variable {d : FormData} {name : String} {file : Upload}

theorem takeFile_ready (h : Entries.get? name d.files = some (.ready file)) :
    d.takeFile name = (.found file, { d with files := Entries.put name .claimed d.files }) := by
  unfold takeFile
  rw [h]

theorem takeFile_claimed (h : Entries.get? name d.files = some .claimed) : d.takeFile name = (.alreadyClaimed, d) := by
  unfold takeFile
  rw [h]

theorem takeFile_none (h : Entries.get? name d.files = none) :
    d.takeFile name = (if d.values.contains name then .textField else .missing, d) := by
  unfold takeFile
  rw [h]

/-- Where no file is there to be handed out, nothing changes. -/
theorem takeFile_idle (h : ∀ file, Entries.get? name d.files ≠ some (.ready file)) : (d.takeFile name).2 = d := by
  cases hget : Entries.get? name d.files with
  | none => rw [takeFile_none hget]
  | some found =>
    cases found with
    | ready file => exact absurd hget (h file)
    | claimed => rw [takeFile_claimed hget]

/-- Handing out a file leaves the texts and the files of other names. -/
theorem takeFile_frame (name : String) (d : FormData) :
    (d.takeFile name).2.values = d.values ∧
      ∀ other, other ≠ name → Entries.get? other (d.takeFile name).2.files = Entries.get? other d.files := by
  unfold takeFile
  split
  · refine ⟨rfl, ?_⟩
    intro other hne
    rw [Entries.get?_put, if_neg hne]
  · exact ⟨rfl, fun _ _ => rfl⟩
  · exact ⟨rfl, fun _ _ => rfl⟩

/-- A look for a file claims its place, whatever it finds there. -/
theorem get?_takeFile (name : String) (d : FormData) : Entries.get? name (d.takeFile name).2.files =
    (Entries.get? name d.files).map fun _ => .claimed := by
  cases hget : Entries.get? name d.files with
  | none =>
    rw [takeFile_none hget, hget]
    rfl
  | some found =>
    cases found with
    | ready file =>
      rw [takeFile_ready hget, Entries.get?_put, if_pos rfl]
      rfl
    | claimed =>
      rw [takeFile_claimed hget, hget]
      rfl

/-- What a look for a file finds depends on the file of that name and on whether it is the name of a text. -/
theorem takeFile_congr {d' : FormData} (hv : d.values.contains name = d'.values.contains name)
    (hf : Entries.get? name d.files = Entries.get? name d'.files) : (d.takeFile name).1 = (d'.takeFile name).1 := by
  unfold takeFile
  rw [hv, hf]
  split <;> rfl

end Lookups

end FormData
end RequestBinding
