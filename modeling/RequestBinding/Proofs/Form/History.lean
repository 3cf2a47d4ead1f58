import RequestBinding.Proofs.Form.Data

/-! The data of a form along a history of texts and files that are added and of looks for files. Under each name the first
file that was added is handed out, by the first look for it that follows and by no other; other names play no part in
this, and files none in the texts. What stands under a name is followed step by step. -/

namespace RequestBinding

def FileLookup.isFound : FileLookup → Bool
  | .found _ => true
  | _ => false

/-- What is done with the data of a form. -/
inductive FormStep
  | append (name text : String)
  | insertFile (file : Upload)
  | takeFile (name : String)

namespace FormStep

/-- The name that a step is about. -/
def name : FormStep → String
  | append name _ => name
  | insertFile file => file.field
  | takeFile name => name

def isAppend : FormStep → Bool
  | append .. => true
  | _ => false

def addsText (name : String) : FormStep → Bool
  | append own _ => own == name
  | _ => false

def addsFile (name : String) : FormStep → Bool
  | insertFile file => file.field == name
  | _ => false

def looks (name : String) : FormStep → Bool
  | takeFile own => own == name
  | _ => false

def apply (d : FormData) : FormStep → FormData
  | append name text => d.append name text
  | insertFile file => d.insertFile file
  | takeFile name => (d.takeFile name).2

end FormStep

namespace FormData

def run (d : FormData) (steps : List FormStep) : FormData := steps.foldl FormStep.apply d

/-- What the looks for the file of a name find in a history, one after the other. -/
def lookups (name : String) (d : FormData) : List FormStep → List FileLookup
  | [] => []
  | step :: rest =>
    if step.looks name then (d.takeFile name).1 :: lookups name (step.apply d) rest else lookups name (step.apply d) rest

end FormData

namespace FormStep

/-- What becomes of the place for the file of a name: the first file takes it, and a look claims it for good. -/
def placeAfter (name : String) (place : Option FormFile) : FormStep → Option FormFile
  | append .. => place
  | insertFile file => place.or (if name = file.field then some (.ready file) else none)
  | takeFile own => if name = own then place.map fun _ => .claimed else place

def textsAfter (name : String) (texts : Option (List String)) : FormStep → Option (List String)
  | append own text => if name = own then some (texts.getD [] ++ [text]) else texts
  | insertFile _ => texts
  | takeFile _ => texts

section Places

variable (d : FormData) (name : String) (step : FormStep)

@[simp] private theorem place_apply :
    Entries.get? name (step.apply d).files = step.placeAfter name (Entries.get? name d.files) := by
  cases step with
  | append own text => rfl
  | insertFile file => exact d.get?_insertFile name file
  | takeFile own =>
    rw [placeAfter]
    split
    · next hown =>
      subst hown
      exact d.get?_takeFile name
    · next hother => exact (d.takeFile_frame own).2 name hother

@[simp] private theorem texts_apply : (step.apply d).values.all? name = step.textsAfter name (d.values.all? name) := by
  cases step with
  | append own text =>
    rw [apply, d.all?_append, textsAfter]
    split
    · next hown => rw [hown]
    · rfl
  | insertFile file => rw [apply, d.values_insertFile, textsAfter]
  | takeFile own => rw [apply, (d.takeFile_frame own).1, textsAfter]

variable {name step}

private theorem placeAfter_other (h : step.name ≠ name) (place : Option FormFile) :
    step.placeAfter name place = place := by
  cases step with
  | append own text => rfl
  | insertFile file =>
    have hother : name ≠ file.field := Ne.symm h
    rw [placeAfter, if_neg hother, Option.or_none]
  | takeFile own =>
    have hother : name ≠ own := Ne.symm h
    rw [placeAfter, if_neg hother]

private theorem textsAfter_other (h : step.name ≠ name) (texts : Option (List String)) :
    step.textsAfter name texts = texts := by
  cases step with
  | append own text =>
    have hother : name ≠ own := Ne.symm h
    rw [textsAfter, if_neg hother]
  | insertFile file => rfl
  | takeFile own => rfl

private theorem looks_other (h : step.name ≠ name) : step.looks name = false := by
  cases step with
  | append own text => rfl
  | insertFile file => rfl
  | takeFile own => exact beq_eq_false_iff_ne.2 h

private theorem placeAfter_none (h : step.addsFile name = false) : step.placeAfter name none = none := by
  cases step with
  | append own text => rfl
  | insertFile file =>
    rw [placeAfter, Option.none_or, if_neg]
    rintro rfl
    simp [addsFile] at h
  | takeFile own => exact ite_self _

private theorem placeAfter_ready (h : step.looks name = false) (file : Upload) :
    step.placeAfter name (some (.ready file)) = some (.ready file) := by
  cases step with
  | append own text => rfl
  | insertFile own => rfl
  | takeFile own =>
    rw [placeAfter, if_neg]
    rintro rfl
    simp [looks] at h

private theorem placeAfter_look (h : step.looks name = true) (file : FormFile) :
    step.placeAfter name (some file) = some .claimed := by
  cases step with
  | append own text => cases h
  | insertFile own => cases h
  | takeFile own =>
    obtain rfl := beq_iff_eq.1 h
    exact if_pos rfl

private theorem placeAfter_claimed : step.placeAfter name (some .claimed) = some .claimed := by
  cases hlook : step.looks name with
  | true => exact placeAfter_look hlook .claimed
  | false =>
    cases step with
    | append own text => rfl
    | insertFile own => rfl
    | takeFile own => exact ite_self _

private theorem isSome_textsAfter (texts : Option (List String)) :
    (step.textsAfter name texts).isSome = (texts.isSome || step.addsText name) := by
  cases step with
  | append own text =>
    rw [textsAfter, addsText]
    by_cases h : name = own
    · simp [h]
    · simp [h, Ne.symm h]
  | insertFile file => exact (Bool.or_false _).symm
  | takeFile own => exact (Bool.or_false _).symm

end Places
end FormStep

namespace FormData

/-- The same file and the same texts stand under a name. -/
structure Agrees (name : String) (d d' : FormData) : Prop where
  file : Entries.get? name d.files = Entries.get? name d'.files
  texts : d.values.all? name = d'.values.all? name

section Frames

variable {name : String} {d d' : FormData}

theorem Agrees.takeFile (h : Agrees name d d') : (d.takeFile name).1 = (d'.takeFile name).1 :=
  takeFile_congr (congrArg Option.isSome h.texts) h.file

theorem Agrees.apply (h : Agrees name d d') (step : FormStep) : Agrees name (step.apply d) (step.apply d') :=
  ⟨by rw [FormStep.place_apply, FormStep.place_apply, h.file], by rw [FormStep.texts_apply, FormStep.texts_apply, h.texts]⟩

private theorem agrees_apply_other {step : FormStep} (h : step.name ≠ name) : Agrees name (step.apply d) d :=
  ⟨by rw [FormStep.place_apply, FormStep.placeAfter_other h], by rw [FormStep.texts_apply, FormStep.textsAfter_other h]⟩

private theorem lookups_filter (h : Agrees name d d') (steps : List FormStep) :
    d.lookups name (steps.filter (·.name == name)) = d'.lookups name steps := by
  induction steps generalizing d d' with
  | nil => rfl
  | cons step rest ih =>
    by_cases hname : step.name = name
    · rw [List.filter_cons_of_pos (by simpa using hname), lookups, lookups, h.takeFile, ih (h.apply step)]
    · rw [List.filter_cons_of_neg (by simpa using hname), lookups, FormStep.looks_other hname]
      have hother : Agrees name (step.apply d') d' := agrees_apply_other hname
      exact ih ⟨h.file.trans hother.file.symm, h.texts.trans hother.texts.symm⟩

end Frames

section Runs

variable {name : String} {d : FormData} {steps : List FormStep}

private theorem run_append (before after : List FormStep) : d.run (before ++ after) = (d.run before).run after :=
  List.foldl_append

private theorem place_run_none (hplace : Entries.get? name d.files = none) (h : steps.any (·.addsFile name) = false) :
    Entries.get? name (d.run steps).files = none := by
  induction steps generalizing d with
  | nil => exact hplace
  | cons step rest ih =>
    rw [List.any_cons, Bool.or_eq_false_iff] at h
    apply ih _ h.2
    rw [FormStep.place_apply, hplace, FormStep.placeAfter_none h.1]

private theorem place_run_claimed (hplace : Entries.get? name d.files = some .claimed) (steps : List FormStep) :
    Entries.get? name (d.run steps).files = some .claimed := by
  induction steps generalizing d with
  | nil => exact hplace
  | cons step rest ih =>
    apply ih
    rw [FormStep.place_apply, hplace, FormStep.placeAfter_claimed]

private theorem place_run_ready {file : Upload} (hplace : Entries.get? name d.files = some (.ready file))
    (steps : List FormStep) :
    Entries.get? name (d.run steps).files =
      some (if steps.any (·.looks name) then .claimed else .ready file) := by
  induction steps generalizing d with
  | nil => exact hplace
  | cons step rest ih =>
    rw [List.any_cons]
    cases hlook : step.looks name with
    | true =>
      have hclaimed : Entries.get? name (step.apply d).files = some .claimed := by
        rw [FormStep.place_apply, hplace, FormStep.placeAfter_look hlook]
      exact place_run_claimed hclaimed rest
    | false =>
      apply ih
      rw [FormStep.place_apply, hplace, FormStep.placeAfter_ready hlook]

private theorem contains_run (d : FormData) (steps : List FormStep) :
    (d.run steps).values.contains name = (d.values.contains name || steps.any (·.addsText name)) := by
  induction steps generalizing d with
  | nil => exact (Bool.or_false _).symm
  | cons step rest ih =>
    have hstep : (step.apply d).values.contains name = (d.values.contains name || step.addsText name) := by
      have htexts := congrArg Option.isSome (step.texts_apply d name)
      rwa [FormStep.isSome_textsAfter] at htexts
    rw [List.any_cons, ← Bool.or_assoc, ← hstep]
    exact ih (step.apply d)

private theorem values_run (steps : List FormStep) {d d' : FormData} (h : d.values = d'.values) :
    (d.run steps).values = (d'.run (steps.filter FormStep.isAppend)).values := by
  induction steps generalizing d d' with
  | nil => exact h
  | cons step rest ih =>
    cases step with
    | append own text => exact ih (congrArg (·.append own text) h)
    | insertFile file => exact ih ((d.values_insertFile file).trans h)
    | takeFile own => exact ih ((d.takeFile_frame own).1.trans h)

private theorem found_claimed (hplace : Entries.get? name d.files = some .claimed) (steps : List FormStep) :
    (d.lookups name steps).filter FileLookup.isFound = [] := by
  induction steps generalizing d with
  | nil => rfl
  | cons step rest ih =>
    have hafter : Entries.get? name (step.apply d).files = some .claimed := by
      rw [FormStep.place_apply, hplace, FormStep.placeAfter_claimed]
    rw [lookups]
    split
    · rw [takeFile_claimed hplace]
      exact ih hafter
    · exact ih hafter

private theorem length_found_le (name : String) (d : FormData) (steps : List FormStep) :
    ((d.lookups name steps).filter FileLookup.isFound).length ≤ 1 := by
  induction steps generalizing d with
  | nil => exact Nat.zero_le 1
  | cons step rest ih =>
    rw [lookups]
    split
    · next hlook =>
      cases hplace : Entries.get? name d.files with
      | none =>
        have hmiss : (d.takeFile name).1.isFound = false := by
          rw [takeFile_none hplace]
          dsimp only
          split <;> rfl
        rw [List.filter_cons_of_neg (by simp [hmiss])]
        exact ih _
      | some found =>
        have hafter : Entries.get? name (step.apply d).files = some .claimed := by
          rw [FormStep.place_apply, hplace, FormStep.placeAfter_look hlook]
        rw [List.filter_cons, found_claimed hafter]
        split
        · exact Nat.le_refl 1
        · exact Nat.zero_le 1
    · exact ih _

private theorem place_first_file {file : Upload} (hplace : Entries.get? file.field d.files = none)
    (h : steps.any (·.addsFile file.field) = false) :
    Entries.get? file.field (d.run (steps ++ [.insertFile file])).files = some (.ready file) := by
  rw [run_append]
  change Entries.get? file.field ((FormStep.insertFile file).apply (d.run steps)).files = _
  rw [FormStep.place_apply, place_run_none hplace h, FormStep.placeAfter, if_pos rfl, Option.none_or]

end Runs

/-- Each name hands out a file once at most over a whole history: the first look behind the first file of the name finds
this file, and every later look finds that it was claimed, whatever else is done between. Before a file is added under
the name, a look tells whether there is a text of the name and changes nothing. What is done with other names is nothing
to a name, and what is done with files is nothing to the texts. -/
theorem history_hands_out_first_file_once (values : NamedValues) (name : String) :
    let start := ofValues values
    (∀ steps, ((start.lookups name steps).filter FileLookup.isFound).length ≤ 1) ∧
    (∀ before (file : Upload) between, file.field = name → before.any (·.addsFile name) = false →
      let d := start.run (before ++ .insertFile file :: between)
      (between.any (·.looks name) = false → (d.takeFile name).1 = .found file) ∧
      (between.any (·.looks name) = true → d.takeFile name = (.alreadyClaimed, d))) ∧
    (∀ steps, steps.any (·.addsFile name) = false → (start.run steps).takeFile name =
      (if values.contains name || steps.any (·.addsText name) then .textField else .missing, start.run steps)) ∧
    (∀ steps, start.lookups name (steps.filter (·.name == name)) = start.lookups name steps) ∧
    (∀ steps (step : FormStep), step.name ≠ name →
      let d := start.run steps
      ((step.apply d).takeFile name).1 = (d.takeFile name).1 ∧ (step.apply d).hasFile name = d.hasFile name ∧
        (step.apply d).values.all? name = d.values.all? name) ∧
    ∀ steps, (start.run steps).values = (start.run (steps.filter FormStep.isAppend)).values := by
  intro start
  have hstart : Entries.get? name start.files = none := rfl
  refine ⟨length_found_le name start, ?_, ?_, lookups_filter ⟨rfl, rfl⟩, ?_, fun steps => values_run steps rfl⟩
  · rintro before file between rfl hbefore
    have hsplit : start.run (before ++ .insertFile file :: between) =
        (start.run (before ++ [.insertFile file])).run between := by
      rw [← run_append, List.append_assoc, List.singleton_append]
    have hplace := place_run_ready (place_first_file hstart hbefore) between
    rw [hsplit]
    constructor
    · intro hunclaimed
      rw [hunclaimed] at hplace
      rw [takeFile_ready hplace]
    · intro hclaimed
      rw [hclaimed] at hplace
      exact takeFile_claimed hplace
  · intro steps hnone
    rw [takeFile_none (place_run_none hstart hnone), contains_run]
    rfl
  · intro steps step hname
    have hagrees : Agrees name (step.apply (start.run steps)) (start.run steps) := agrees_apply_other hname
    exact ⟨hagrees.takeFile, congrArg Option.isSome hagrees.file, hagrees.texts⟩

/-- Two files of one name that is also the name of a text, looked for before and between. -/
theorem history_hands_out_first_file_once_of_two_files :
    let start := ofValues (.ofPairs [("f", "text")])
    let first := Upload.ofBytes "f" none none [1]
    let second := Upload.ofBytes "f" none none [2]
    let added := start.run [.takeFile "f", .insertFile first, .insertFile second]
    let claimed := start.run [.takeFile "f", .insertFile first, .takeFile "f", .insertFile second]
    start.takeFile "f" = (.textField, start) ∧ (added.takeFile "f").1 = .found first ∧
      claimed.takeFile "f" = (.alreadyClaimed, claimed) := by
  intro start first second added claimed
  obtain ⟨-, hfiles, htexts, -⟩ := history_hands_out_first_file_once (.ofPairs [("f", "text")]) "f"
  refine ⟨htexts [] rfl, ?_, ?_⟩
  · exact (hfiles [.takeFile "f"] first [.insertFile second] rfl rfl).1 rfl
  · exact (hfiles [.takeFile "f"] first [.takeFile "f", .insertFile second] rfl rfl).2 rfl

end FormData

end RequestBinding
