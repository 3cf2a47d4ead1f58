import RequestBinding.Entries
import Mathlib.Data.List.Nodup
import Mathlib.Data.String.Basic

/-! Named entries as finite maps. Each operation is known by the entries that it leaves, and entries in ascending
order of their names are known by their lookups alone. -/

namespace RequestBinding.Entries

variable {α β : Type}

@[simp] theorem get?_nil (name : String) : get? name ([] : List (String × α)) = none := rfl

@[simp] theorem get?_cons (name other : String) (value : α) (entries : List (String × α)) :
    get? name ((other, value) :: entries) = if name = other then some value else get? name entries := rfl

@[simp] theorem get?_put (name other : String) (value : α) (entries : List (String × α)) :
    get? other (put name value entries) = if other = name then some value else get? other entries := by
  induction entries with
  | nil => simp [put]
  | cons entry rest ih =>
    obtain ⟨own, old⟩ := entry
    by_cases h : name = own
    · subst h
      simp only [put, if_pos, get?_cons]
      split <;> rfl
    · rw [put, if_neg h, get?_cons, get?_cons, ih]
      by_cases ho : other = own
      · subst ho
        simp [Ne.symm h]
      · simp [ho]

@[simp] theorem get?_insert (name other : String) (value : α) (entries : List (String × α)) :
    get? other (insert name value entries) = if other = name then some value else get? other entries := by
  induction entries with
  | nil => simp [insert]
  | cons entry rest ih =>
    obtain ⟨own, old⟩ := entry
    by_cases h : name = own
    · subst h
      simp only [insert, if_pos, get?_cons]
      split <;> rfl
    · rw [insert, if_neg h]
      split
      · simp only [get?_cons]
      · rw [get?_cons, get?_cons, ih]
        by_cases ho : other = own
        · subst ho
          simp [Ne.symm h]
        · simp [ho]

@[simp] theorem get?_update (name other : String) (start : α) (change : α → α) (entries : List (String × α)) :
    get? other (update name start change entries) =
      if other = name then some (change ((get? name entries).getD start)) else get? other entries := by
  induction entries with
  | nil => simp [update]
  | cons entry rest ih =>
    obtain ⟨own, old⟩ := entry
    by_cases h : name = own
    · subst h
      simp only [update, if_pos, get?_cons]
      split <;> simp
    · rw [update, if_neg h, get?_cons, get?_cons, get?_cons, if_neg h, ih]
      by_cases ho : other = own
      · subst ho
        simp [Ne.symm h]
      · simp [ho]

@[simp] theorem get?_append (name : String) (first second : List (String × α)) :
    get? name (first ++ second) = (get? name first).or (get? name second) := by
  induction first with
  | nil => rfl
  | cons entry rest ih =>
    obtain ⟨own, value⟩ := entry
    rw [List.cons_append, get?_cons, get?_cons, ih]
    split <;> rfl

@[simp] theorem get?_map (f : α → β) (name : String) (entries : List (String × α)) :
    get? name (entries.map fun (own, value) => (own, f value)) = (get? name entries).map f := by
  induction entries with
  | nil => rfl
  | cons entry rest ih =>
    obtain ⟨own, value⟩ := entry
    rw [List.map_cons, get?_cons, get?_cons, ih]
    split <;> rfl

/-- A filter on names keeps or drops the entry of a name as a whole. -/
theorem get?_filter (keep : String → Bool) (name : String) (entries : List (String × α)) :
    get? name (entries.filter fun (own, _) => keep own) = if keep name then get? name entries else none := by
  induction entries with
  | nil => simp
  | cons entry rest ih =>
    obtain ⟨own, value⟩ := entry
    rw [List.filter_cons]
    by_cases hn : name = own
    · subst hn
      by_cases h : keep name
      · simp [h]
      · simp [h, ih]
    · rw [get?_cons, if_neg hn, ← ih]
      by_cases h : keep own
      · rw [if_pos h, get?_cons, if_neg hn]
      · rw [if_neg h]

theorem get?_eq_none_iff (name : String) (entries : List (String × α)) :
    get? name entries = none ↔ name ∉ entries.map Prod.fst := by
  induction entries with
  | nil => simp
  | cons entry rest ih =>
    obtain ⟨own, value⟩ := entry
    rw [get?_cons, List.map_cons, List.mem_cons, not_or, ← ih]
    split <;> simp_all

theorem has_iff (name : String) (entries : List (String × α)) : has name entries = true ↔ name ∈ entries.map Prod.fst := by
  rw [has, ← not_iff_not, ← get?_eq_none_iff]
  simp

theorem mem_of_get? {name : String} {value : α} {entries : List (String × α)} (h : get? name entries = some value) :
    (name, value) ∈ entries := by
  induction entries with
  | nil => simp at h
  | cons entry rest ih =>
    obtain ⟨own, found⟩ := entry
    rw [get?_cons] at h
    split at h
    · next hn =>
      obtain rfl := Option.some.inj h
      simp [hn]
    · exact List.mem_cons_of_mem _ (ih h)

theorem mem_of_mem_put {name : String} {value : α} {entries : List (String × α)} {entry : String × α}
    (h : entry ∈ put name value entries) : entry = (name, value) ∨ entry ∈ entries := by
  induction entries with
  | nil => exact .inl (List.mem_singleton.1 h)
  | cons head rest ih =>
    obtain ⟨own, old⟩ := head
    rw [put] at h
    split at h
    · exact (List.mem_cons.1 h).imp_right (List.mem_cons_of_mem _)
    · rcases List.mem_cons.1 h with rfl | h
      · exact .inr (List.mem_cons_self ..)
      · exact (ih h).imp_right (List.mem_cons_of_mem _)

theorem nodup_put {entries : List (String × α)} (h : (entries.map Prod.fst).Nodup) (name : String) (value : α) :
    ((put name value entries).map Prod.fst).Nodup := by
  induction entries with
  | nil => exact List.nodup_singleton name
  | cons head rest ih =>
    obtain ⟨own, old⟩ := head
    obtain ⟨hown, hrest⟩ := List.nodup_cons.1 h
    rw [put]
    split
    · next he => exact he ▸ h
    · next hne =>
      refine List.nodup_cons.2 ⟨?_, ih hrest⟩
      intro hm
      obtain ⟨entry, hm, he⟩ := List.mem_map.1 hm
      rcases mem_of_mem_put hm with rfl | hm
      · exact hne he
      · exact hown (List.mem_map.2 ⟨entry, hm, he⟩)

/-- An entry of a new name is put at the end. -/
theorem put_fresh {name : String} {entries : List (String × α)} (h : has name entries = false) (value : α) :
    put name value entries = entries ++ [(name, value)] := by
  induction entries with
  | nil => rfl
  | cons head rest ih =>
    obtain ⟨own, old⟩ := head
    rw [has, get?_cons] at h
    split at h
    · cases h
    · next hne => rw [put, if_neg hne, ih h, List.cons_append]

/-- Names stand in ascending order, none of them twice. -/
def Ascending (entries : List (String × α)) : Prop := entries.Pairwise fun a b => a.1 < b.1

theorem Ascending.nodup {entries : List (String × α)} (h : Ascending entries) : (entries.map Prod.fst).Nodup := by
  rw [List.Nodup, List.pairwise_map]
  exact h.imp fun hab => hab.ne

theorem Ascending.filter {entries : List (String × α)} (keep : String × α → Bool) (h : Ascending entries) :
    Ascending (entries.filter keep) := List.Pairwise.filter keep h

theorem Ascending.map {entries : List (String × α)} (f : α → β) (h : Ascending entries) :
    Ascending (entries.map fun (own, value) => (own, f value)) := List.pairwise_map.2 h

private theorem mem_insert_iff {name : String} {value : α} {entries : List (String × α)} {entry : String × α} :
    entry ∈ insert name value entries → entry = (name, value) ∨ entry ∈ entries := by
  induction entries with
  | nil => simp [insert]
  | cons head rest ih =>
    obtain ⟨own, old⟩ := head
    rw [insert]
    split
    · intro h
      rcases List.mem_cons.1 h with h | h
      · exact .inl h
      · exact .inr (List.mem_cons_of_mem _ h)
    · split
      · exact List.mem_cons.1
      · intro h
        rcases List.mem_cons.1 h with h | h
        · exact .inr (h ▸ List.mem_cons_self ..)
        · exact (ih h).imp_right (List.mem_cons_of_mem _)

theorem Ascending.insert {entries : List (String × α)} (name : String) (value : α) (h : Ascending entries) :
    Ascending (insert name value entries) := by
  induction entries with
  | nil => simp [Ascending, Entries.insert]
  | cons head rest ih =>
    obtain ⟨own, old⟩ := head
    obtain ⟨hhead, hrest⟩ := List.pairwise_cons.1 h
    rw [Entries.insert]
    split
    · next he =>
      subst he
      exact List.pairwise_cons.2 ⟨hhead, hrest⟩
    · next hne =>
      split
      · next hlt =>
        refine List.pairwise_cons.2 ⟨?_, h⟩
        intro entry hm
        rcases List.mem_cons.1 hm with rfl | hm
        · exact hlt
        · exact hlt.trans (hhead entry hm)
      · next hlt =>
        have hgt : own < name := lt_of_le_of_ne (not_lt.1 hlt) (Ne.symm hne)
        refine List.pairwise_cons.2 ⟨?_, ih hrest⟩
        intro entry hm
        rcases mem_insert_iff hm with rfl | hm
        · exact hgt
        · exact hhead entry hm

private theorem ascending_foldl (entries done : List (String × α)) (h : Ascending done) :
    Ascending (entries.foldl (fun done (name, value) => insert name value done) done) := by
  induction entries generalizing done with
  | nil => exact h
  | cons entry rest ih => exact ih _ (h.insert entry.1 entry.2)

theorem ascending_sorted (entries : List (String × α)) : Ascending (sorted entries) :=
  ascending_foldl entries [] List.Pairwise.nil

private theorem get?_foldl (name : String) (entries done : List (String × α)) (hd : (entries.map Prod.fst).Nodup) :
    get? name (entries.foldl (fun done (own, value) => insert own value done) done) =
      (get? name entries).or (get? name done) := by
  induction entries generalizing done with
  | nil => rfl
  | cons entry rest ih =>
    obtain ⟨own, value⟩ := entry
    rw [List.map_cons, List.nodup_cons] at hd
    rw [List.foldl_cons, ih _ hd.2, get?_insert, get?_cons]
    split
    · next he =>
      have hn : get? name rest = none := (get?_eq_none_iff ..).2 (he ▸ hd.1)
      rw [hn]
      rfl
    · rfl

/-- Sorting changes no lookup as long as no name stands twice. -/
theorem get?_sorted (name : String) {entries : List (String × α)} (hd : (entries.map Prod.fst).Nodup) :
    get? name (sorted entries) = get? name entries := by
  rw [sorted, get?_foldl name entries [] hd, get?_nil, Option.or_none]

theorem mem_of_mem_sorted {entries : List (String × α)} {entry : String × α} (h : entry ∈ sorted entries) :
    entry ∈ entries := by
  have step (entries done : List (String × α)) :
      entry ∈ entries.foldl (fun done (name, value) => insert name value done) done → entry ∈ entries ∨ entry ∈ done := by
    induction entries generalizing done with
    | nil => exact .inr
    | cons head rest ih =>
      intro hm
      rcases ih _ hm with hm | hm
      · exact .inl (List.mem_cons_of_mem _ hm)
      · rcases mem_insert_iff hm with rfl | hm
        · exact .inl (List.mem_cons_self ..)
        · exact .inr hm
  exact (step entries [] h).resolve_right (by simp)

private theorem get?_eq_none_of_lt {name : String} {entries : List (String × α)} (h : ∀ entry ∈ entries, name < entry.1) :
    get? name entries = none := by
  rw [get?_eq_none_iff, List.mem_map]
  rintro ⟨entry, hm, rfl⟩
  exact lt_irrefl _ (h entry hm)

/-- Entries in ascending order are equal once their lookups are. -/
theorem Ascending.ext {first second : List (String × α)} (hf : Ascending first) (hs : Ascending second)
    (h : ∀ name, get? name first = get? name second) : first = second := by
  induction first generalizing second with
  | nil =>
    cases second with
    | nil => rfl
    | cons entry rest =>
      obtain ⟨own, found⟩ := entry
      simpa [get?_cons] using h own
  | cons entry rest ih =>
    obtain ⟨name, value⟩ := entry
    cases second with
    | nil => simpa [get?_cons] using h name
    | cons other more =>
      obtain ⟨own, found⟩ := other
      obtain ⟨hhead, hrest⟩ := List.pairwise_cons.1 hf
      obtain ⟨hown, hmore⟩ := List.pairwise_cons.1 hs
      -- The smaller of two different first names would be found on one side alone.
      have hname : name = own := by
        by_contra hne
        rcases lt_or_gt_of_ne hne with hlt | hlt
        · have hn : get? name more = none := get?_eq_none_of_lt fun e he => hlt.trans (hown e he)
          simpa [get?_cons, hne, hn] using h name
        · have hn : get? own rest = none := get?_eq_none_of_lt fun e he => hlt.trans (hhead e he)
          simpa [get?_cons, Ne.symm hne, hn] using h own
      subst hname
      have hvalue : value = found := by simpa [get?_cons] using h name
      have hlater (other : String) : get? other rest = get? other more := by
        by_cases he : other = name
        · subst he
          rw [get?_eq_none_of_lt hhead, get?_eq_none_of_lt hown]
        · simpa [get?_cons, he] using h other
      rw [hvalue, ih hrest hmore hlater]

/-- Entries that are in order already stay as they are. -/
theorem Ascending.sorted_eq {entries : List (String × α)} (h : Ascending entries) : sorted entries = entries :=
  (ascending_sorted entries).ext h fun name => get?_sorted name h.nodup

end RequestBinding.Entries
