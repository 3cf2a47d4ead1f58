import RequestBinding.Collection

/-! Lists cut at separators, and collections in texts and out of them. The stretches between separators are those of the
standard library. Cutting undoes joining, but that the only item of a collection cannot be empty, and joining undoes
cutting. -/

namespace RequestBinding

section Stretches

variable {α : Type}

private theorem modifyHead_nil_append (stretches : List (List α)) : stretches.modifyHead ([].reverse ++ ·) = stretches :=
  congrFun List.modifyHead_id stretches

variable [DecidableEq α]

private theorem stretchesFrom_eq (separator : α) (begun items : List α) :
    stretchesFrom separator begun items = (items.splitOn separator).modifyHead (begun.reverse ++ ·) := by
  induction items generalizing begun with
  | nil => simp [stretchesFrom]
  | cons a rest ih =>
    have hcons : (a :: rest).splitOn separator =
        if a = separator then [] :: rest.splitOn separator else (rest.splitOn separator).modifyHead (a :: ·) := by
      simp only [List.splitOn_eq_splitOnP, List.splitOnP_cons_eq_if_modifyHead, beq_iff_eq]
    rw [stretchesFrom, hcons]
    split
    · rw [ih, modifyHead_nil_append, List.modifyHead_cons, List.append_nil]
    · simp [ih, Function.comp_def]

theorem stretches_eq_splitOn (separator : α) (items : List α) : stretches separator items = items.splitOn separator := by
  rw [stretches, stretchesFrom_eq, modifyHead_nil_append]

/-- Joined stretches are found again, as long as there is one and no separator is in any. -/
theorem stretches_intercalate {separator : α} {parts : List (List α)} (hne : parts ≠ [])
    (h : ∀ part ∈ parts, separator ∉ part) : stretches separator ([separator].intercalate parts) = parts := by
  rw [stretches_eq_splitOn, List.splitOn_intercalate separator h hne]

private theorem intercalate_stretches (separator : α) (items : List α) :
    [separator].intercalate (stretches separator items) = items := by
  rw [stretches_eq_splitOn, List.intercalate_splitOn]

private theorem not_mem_stretchesFrom {separator : α} {begun items part : List α} (hb : separator ∉ begun)
    (h : part ∈ stretchesFrom separator begun items) : separator ∉ part := by
  induction items generalizing begun with
  | nil =>
    obtain rfl := List.mem_singleton.1 h
    rwa [List.mem_reverse]
  | cons a rest ih =>
    rw [stretchesFrom] at h
    split at h
    · rcases List.mem_cons.1 h with rfl | h
      · rwa [List.mem_reverse]
      · exact ih List.not_mem_nil h
    · next ha => exact ih (List.not_mem_cons_of_ne_of_not_mem (Ne.symm ha) hb) h

private theorem not_mem_stretches {separator : α} {items part : List α} (h : part ∈ stretches separator items) :
    separator ∉ part :=
  not_mem_stretchesFrom List.not_mem_nil h

end Stretches

namespace CollectionFormat

/-- The texts that items are given in: one where the items are joined, or a text for each of them. -/
def join (format : CollectionFormat) (items : List String) : List String :=
  match format.separator? with
  | some separator => [(String.singleton separator).intercalate items]
  | none => items

private theorem stretches_joined {separator : Char} {items : List String} (hne : items ≠ [])
    (h : ∀ item ∈ items, separator ∉ item.toList) :
    stretches separator ((String.singleton separator).intercalate items).toList = items.map String.toList := by
  rw [String.toList_intercalate, String.toList_singleton, stretches_intercalate (by simpa using hne)]
  intro part hpart
  obtain ⟨item, hitem, rfl⟩ := List.mem_map.1 hpart
  exact h item hitem

private theorem joined_eq_empty_iff {separator : Char} {items : List String} (hne : items ≠ [])
    (h : ∀ item ∈ items, separator ∉ item.toList) :
    (String.singleton separator).intercalate items = "" ↔ items = [""] := by
  constructor
  · intro hempty
    have hparts := stretches_joined hne h
    rw [hempty] at hparts
    have hone : items.map String.toList = [""].map String.toList := hparts.symm
    exact (List.map_inj_right fun _ _ => String.toList_inj.1).1 hone
  · rintro rfl
    rfl

/-- Items are found again in the texts that they were given in, unless there is one alone that is empty. -/
theorem split_join (format : CollectionFormat) {items : List String} (hne : items ≠ [])
    (h : ∀ separator ∈ format.separator?, ∀ item ∈ items, separator ∉ item.toList) :
    format.split (format.join items) = if items = [""] then [] else items := by
  unfold split join
  cases hs : format.separator? with
  | none =>
    match items, hne with
    | [text], _ => simp only [List.cons.injEq, and_true]
    | first :: second :: rest, _ => rw [if_neg (by simp)]
  | some separator =>
    have hplain := h separator hs
    have hsame : String.ofList ∘ String.toList = id := funext fun _ => String.ofList_toList
    simp only [joined_eq_empty_iff hne hplain, stretches_joined hne hplain, List.map_map, hsame, List.map_id]

section Separator

variable {format : CollectionFormat} {separator : Char} (hs : format.separator? = some separator)
include hs

private theorem split_cons (text : String) (rest : List String) : format.split (text :: rest) =
    if text = "" then [] else (stretches separator text.toList).map String.ofList := by
  simp only [split, hs]

private theorem not_mem_of_mem_split {text item : String} (h : item ∈ format.split [text]) :
    separator ∉ item.toList := by
  rw [split_cons hs] at h
  split at h
  · exact absurd h List.not_mem_nil
  · obtain ⟨part, hpart, rfl⟩ := List.mem_map.1 h
    rw [String.toList_ofList]
    exact not_mem_stretches hpart

private theorem intercalate_split (text : String) :
    (String.singleton separator).intercalate (format.split [text]) = text := by
  rw [split_cons hs]
  split
  · next h => exact h.symm
  · have hsame : String.toList ∘ String.ofList = id := funext fun _ => String.toList_ofList
    rw [← String.toList_inj, String.toList_intercalate, String.toList_singleton, List.map_map, hsame, List.map_id,
      intercalate_stretches]

private theorem join_eq (items : List String) : format.join items =
    [(String.singleton separator).intercalate items] := by
  simp only [join, hs]

end Separator

private theorem separator?_of_ne_multi {format : CollectionFormat} (h : format ≠ .multi) :
    ∃ separator, format.separator? = some separator := by
  cases format with
  | multi => exact absurd rfl h
  | _ => exact ⟨_, rfl⟩

private theorem split_multi {texts : List String} (h : texts ≠ [""]) : multi.split texts = texts := by
  match texts, h with
  | [], _ => rfl
  | [text], h => exact if_neg fun he => h (by rw [he])
  | first :: second :: rest, _ => rfl

/-- In a format with a separator the items of a text are free of it and make the text when they are joined with it, and
items that are free of it are those of the text that they make, but for a lone one that is empty; texts behind the first
never matter. In the format without separator the items are the texts. In no format does a lone empty text have an item,
nor does no text at all. -/
theorem split_inverts_join (format : CollectionFormat) :
    (format ≠ .multi → ∃ separator, format.separator? = some separator ∧
      (∀ text, text ≠ "" → (∀ item ∈ format.split [text], separator ∉ item.toList) ∧
        (String.singleton separator).intercalate (format.split [text]) = text) ∧
      (∀ items, items ≠ [] → items ≠ [""] → (∀ item ∈ items, separator ∉ item.toList) →
        format.split [(String.singleton separator).intercalate items] = items) ∧
      ∀ text rest, format.split (text :: rest) = format.split [text]) ∧
    (format = .multi → ∀ texts, texts ≠ [""] → format.split texts = texts) ∧
    format.split [""] = [] ∧ format.split [] = [] := by
  refine ⟨fun hne => ?_, ?_, ?_⟩
  · obtain ⟨separator, hs⟩ := separator?_of_ne_multi hne
    refine ⟨separator, hs, fun text _ => ⟨fun item => not_mem_of_mem_split hs, intercalate_split hs text⟩, ?_, ?_⟩
    · intro items hitems hlone hplain
      have hfree : ∀ c ∈ format.separator?, ∀ item ∈ items, c ∉ item.toList := by
        rw [hs]
        rintro _ ⟨⟩
        exact hplain
      rw [← join_eq hs, split_join format hitems hfree, if_neg hlone]
    · intro text rest
      rw [split_cons hs, split_cons hs]
  · rintro rfl texts
    exact split_multi
  · cases format <;> exact ⟨rfl, rfl⟩

-- Separators at both ends and side by side, beside a text that does not count.
example : CollectionFormat.pipes.split ["|a||é|", "b"] = ["", "a", "", "é", ""] := by decide

end CollectionFormat
end RequestBinding
