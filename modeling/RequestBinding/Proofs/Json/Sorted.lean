import RequestBinding.Coercion.Basic
import RequestBinding.Proofs.Json.Nesting

/-! JSON values whose objects have their members in ascending order, as those have that are read from text. -/

namespace RequestBinding

/-- The members of every object stand in ascending order of their names. -/
inductive Json.Sorted : Json → Prop
  | null : Sorted .null
  | bool (b : Bool) : Sorted (.bool b)
  | number (n : Json.Number) : Sorted (.number n)
  | string (s : String) : Sorted (.string s)
  | array {items : List Json} : (∀ item ∈ items, Sorted item) → Sorted (.array items)
  | object {members : List (String × Json)} : Entries.Ascending members → (∀ member ∈ members, Sorted member.2) →
      Sorted (.object members)

namespace Json

theorem Fits.sorted {depth : Nat} {value : Json} (h : value.Fits depth) : value.Sorted := by
  induction h with
  | null depth => exact .null
  | bool depth b => exact .bool b
  | number depth n => exact .number n
  | string depth s => exact .string s
  | array _ ih => exact .array ih
  | object ha _ ih => exact .object ha ih

theorem read_sorted {text : List UInt8} {value : Json} (h : read text = .ok value) : value.Sorted := by
  obtain ⟨hroot, -⟩ := Document.readWith_eq_ok.1 h
  exact (Outline.value_fits _ hroot).sorted

end Json

namespace Coercion

theorem unwrap_sorted {text : String} {value : Json} (h : unwrap text = .ok value) : value.Sorted := by
  fun_induction unwrap text with
  | case1 text message hr => cases h
  | case2 text inner hr hlt ih => exact ih h
  | case3 text inner hr hle =>
    cases h
    exact .string inner
  | case4 text found hs hr =>
    cases h
    exact Json.read_sorted hr

end Coercion
end RequestBinding
