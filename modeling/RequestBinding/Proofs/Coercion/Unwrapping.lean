import RequestBinding.Proofs.Coercion.Cases
import RequestBinding.Proofs.Json.Standing
import RequestBinding.Proofs.Json.StringLength
import Mathlib.Logic.Relation

/-! JSON strings in JSON strings. A text unwraps step by step, each time to a shorter text, until it holds no JSON
string any more; an object is read from the text at the end. -/

namespace RequestBinding

/-- The text of a value is read as the value, if nothing in it is rounded and it does not nest too deep. -/
theorem Json.read_text {value : Json} (he : value.Exact) (hf : value.Fits nestingLimit) :
    read (Utf8.encode value.text) = .ok value := by
  obtain ⟨hshow, htrailing⟩ := Document.ofBytes_text he
  exact Document.readWith_eq_ok.2 ⟨Outline.value_of_shows _ hshow hf, htrailing⟩

namespace Coercion

/-- A text is the JSON text of another one. -/
def Wraps (outer inner : String) : Prop := Json.read (Utf8.encode outer) = .ok (.string inner)

/-- The text at the end of the texts that are wrapped in a text, which wraps none itself. -/
structure Unwraps (text last : String) : Prop where
  chain : Relation.ReflTransGen Wraps text last
  wraps_none : ∀ inner, ¬ Wraps last inner

variable {outer inner text last : String}

/-- Every text can be wrapped, so that there are texts of all depths. -/
theorem wraps_text (inner : String) : Wraps (Json.string inner).text inner :=
  Json.read_text (.string inner) (.string _ inner)

theorem Wraps.shorter (h : Wraps outer inner) : inner.utf8ByteSize < outer.utf8ByteSize := Json.read_string_shorter h

theorem Wraps.unique (h : Wraps outer inner) {other : String} (h' : Wraps outer other) : other = inner := by
  cases h.symm.trans h'
  rfl

private theorem unwrap_of_wraps (h : Wraps outer inner) : unwrap outer = unwrap inner := by
  rw [unwrap, h]
  exact if_pos h.shorter

private theorem unwrap_of_wraps_none (h : ∀ inner, ¬ Wraps last inner) :
    unwrap last = Json.read (Utf8.encode last) := by
  rw [unwrap]
  split
  · next hr => exact hr.symm
  · next inner hr => exact absurd hr (h inner)
  · next hr => exact hr.symm

theorem exists_unwraps (text : String) : ∃ last, Unwraps text last := by
  induction hn : text.utf8ByteSize using Nat.strong_induction_on generalizing text with
  | _ n ih =>
    subst hn
    by_cases hw : ∃ inner, Wraps text inner
    · obtain ⟨inner, hw⟩ := hw
      obtain ⟨last, hchain, hnone⟩ := ih _ hw.shorter inner rfl
      exact ⟨last, hchain.head hw, hnone⟩
    · exact ⟨text, .refl, fun inner h => hw ⟨inner, h⟩⟩

private theorem unwrap_of_unwraps (h : Unwraps text last) : unwrap text = Json.read (Utf8.encode last) := by
  obtain ⟨hchain, hnone⟩ := h
  induction hchain using Relation.ReflTransGen.head_induction_on with
  | refl => exact unwrap_of_wraps_none hnone
  | head hw _ ih => exact (unwrap_of_wraps hw).trans ih

/-- However a text is unwrapped, it is to the same end. -/
theorem Unwraps.unique (h : Unwraps text last) {other : String} (h' : Unwraps text other) : other = last := by
  obtain ⟨hchain, hnone⟩ := h
  induction hchain using Relation.ReflTransGen.head_induction_on with
  | refl =>
    -- The other chain goes on where this one is at its end.
    rcases h'.chain.cases_head with rfl | ⟨inner, hw, -⟩
    · rfl
    · exact absurd hw (hnone inner)
  | head hw _ ih =>
    rcases h'.chain.cases_head with rfl | ⟨inner, hw', hrest⟩
    · exact absurd hw (h'.wraps_none _)
    · obtain rfl := hw.unique hw'
      exact ih ⟨hrest, h'.wraps_none⟩

/-- The members in a text are those of the JSON value in it, a string or not. -/
theorem membersOf_text (label text : String) : membersOf label (.text text) = match Json.read (Utf8.encode text) with
    | .error message => .error (.notJson message)
    | .ok value => membersOf label (.json value) := by
  by_cases hw : ∃ inner, Wraps text inner
  · obtain ⟨inner, hw⟩ := hw
    have hr : Json.read (Utf8.encode text) = .ok (.string inner) := hw
    simp only [hr, membersOf, unwrap_of_wraps hw]
  · have hunwrap := unwrap_of_wraps_none fun inner h => hw ⟨inner, h⟩
    simp only [membersOf, hunwrap]
    cases hr : Json.read (Utf8.encode text) with
    | error message => rfl
    | ok value =>
      cases value with
      | string inner => exact absurd ⟨inner, hr⟩ hw
      | object members => rfl
      | null => rfl
      | bool b => rfl
      | number n => rfl
      | array items => rfl

/-- What is read from a text for a schema of an object is what the text at its end holds. -/
theorem ofText_object {s : Schema} (ho : s.type = .object) (h : Unwraps text last) :
    ofText s text = match Json.read (Utf8.encode last) with
      | .error message => .error [.here (.notJson message)]
      | .ok (.object members) => ofJson s (.object members)
      | .ok other => .error [.here (.mismatch s.label other.kind)] := by
  rw [ofText, coerce_object ho, membersOf]
  simp only [unwrap_of_unwraps h]
  cases Json.read (Utf8.encode last) with
  | error message => rfl
  | ok value =>
    cases value with
    | object members => exact (coerce_object ho (.json (.object members))).symm
    | null => rfl
    | bool b => rfl
    | number n => rfl
    | string s => rfl
    | array items => rfl

end Coercion
end RequestBinding
