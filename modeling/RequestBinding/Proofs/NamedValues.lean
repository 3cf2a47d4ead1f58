import RequestBinding.NamedValues
import RequestBinding.Proofs.Entries

/-! Named values as a map from names to texts. Under each name stand the texts that came with it, in their order. -/

namespace RequestBinding.NamedValues

theorem all?_append (v : NamedValues) (name own text : String) : (v.append own text).all? name =
    if name = own then some ((v.all? own).getD [] ++ [text]) else v.all? name :=
  Entries.get?_update own name [] (· ++ [text]) v.entries

/-- All texts, whatever their names. -/
def texts (v : NamedValues) : List String := v.entries.flatMap Prod.snd

theorem texts_append (v : NamedValues) (name text : String) : (v.append name text).texts.Perm (text :: v.texts) := by
  obtain ⟨entries⟩ := v
  unfold append texts
  induction entries with
  | nil => rfl
  | cons entry rest ih =>
    obtain ⟨own, texts⟩ := entry
    rw [Entries.update]
    split
    · rw [List.flatMap_cons, List.flatMap_cons, List.append_assoc]
      exact List.perm_middle
    · rw [List.flatMap_cons, List.flatMap_cons]
      exact (ih.append_left texts).trans List.perm_middle

/-- The texts that came with a name. -/
def textsOf (name : String) (pairs : List (String × String)) : List String :=
  (pairs.filter fun pair => pair.1 == name).map Prod.snd

private theorem textsOf_cons (name own text : String) (pairs : List (String × String)) :
    textsOf name ((own, text) :: pairs) = if name = own then text :: textsOf name pairs else textsOf name pairs := by
  by_cases h : name = own
  · simp [textsOf, h]
  · simp [textsOf, h, Ne.symm h]

private theorem all?_foldl (name : String) (pairs : List (String × String)) (v : NamedValues) :
    (pairs.foldl (fun v (own, text) => v.append own text) v).all? name =
      if textsOf name pairs = [] then v.all? name else some ((v.all? name).getD [] ++ textsOf name pairs) := by
  induction pairs generalizing v with
  | nil => rfl
  | cons pair rest ih =>
    obtain ⟨own, text⟩ := pair
    rw [List.foldl_cons, ih, all?_append, textsOf_cons]
    by_cases h : name = own
    · subst h
      by_cases hr : textsOf name rest = []
      · simp [hr]
      · simp [hr]
    · simp only [if_neg h]

/-- A name has the texts that came with it, and none that did not come has any. -/
theorem all?_ofPairs (name : String) (pairs : List (String × String)) :
    (ofPairs pairs).all? name = if textsOf name pairs = [] then none else some (textsOf name pairs) := by
  have hempty : empty.all? name = none := rfl
  rw [ofPairs, all?_foldl, hempty]
  rfl

end RequestBinding.NamedValues
