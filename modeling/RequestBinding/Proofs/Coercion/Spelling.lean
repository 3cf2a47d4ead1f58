import RequestBinding.Proofs.Coercion.Cases
import RequestBinding.Proofs.Json.Literal
import RequestBinding.Proofs.Number.IntegerText

/-! Values in JSON and as text. A string counts as the text in it, and an integer or a truth value is the same value in
JSON and in its text. -/

namespace RequestBinding

/-- Integers of 64 bits and truth values, which have one text. -/
inductive Json.Plain : Json → Prop
  | whole (n : Json.Whole) : Plain (.number (.whole n))
  | bool (b : Bool) : Plain (.bool b)

namespace Coercion

/-- A string is read as the text in it, by every schema but that of a file. -/
theorem coerce_string {s : Schema} (hfile : s.type ≠ .file) (text : String) :
    coerce (.json (.string text)) s = coerce (.text text) s := by
  by_cases ha : s.type = .array
  · rw [coerce_array ha, coerce_array ha]
    rfl
  · by_cases ho : s.type = .object
    · rw [coerce_object ho, coerce_object ho]
      rfl
    · rw [coerce_scalar ha ho, coerce_scalar ha ho]
      simp only [scalar]
      cases ht : s.type <;> first | exact absurd ht hfile | rfl

section Integers

/-- The value of an integer under a format, if it is within the bounds of its width. -/
def integerOf? (format : Option Format) (n : Int) : Option Value :=
  if format = some .int32 then
    if -0x80000000 ≤ n ∧ n ≤ 0x7FFFFFFF then some (.int32 (Int32.ofInt n)) else none
  else if -0x8000000000000000 ≤ n ∧ n ≤ 0x7FFFFFFFFFFFFFFF then some (.int64 (Int64.ofInt n)) else none

variable {format : Option Format} (n : Json.Whole)

@[simp] private theorem toOption_mapError {ε ε' α : Type} (f : ε → ε') (result : Except ε α) :
    (result.mapError f).toOption = result.toOption := by
  cases result <;> rfl

@[simp] private theorem toOption_map {ε α β : Type} (f : α → β) (result : Except ε α) :
    (result.map f).toOption = result.toOption.map f := by
  cases result <;> rfl

private theorem toOption_read_writeInt {low high : Int} (hl : low < 0) (hh : 0 ≤ high) (n : Int) :
    (IntegerText.read low high (Json.writeInt n)).toOption = if low ≤ n ∧ n ≤ high then some n else none := by
  rw [IntegerText.read_writeInt hl hh]
  split_ifs with hsmall hlarge hin hin hin
  all_goals first | omega | rfl

theorem toOption_integerOfText :
    (integerOfText format (Json.Number.whole n).text).toOption = integerOf? format n.value := by
  have htext : (Json.Number.whole n).text.toList = Json.writeInt n.value := String.toList_ofList
  unfold integerOfText integerOf?
  split
  · simp only [toOption_mapError, toOption_map, IntegerText.readInt32, htext, if_true,
      toOption_read_writeInt (show (-0x80000000 : Int) < 0 by decide) (show (0 : Int) ≤ 0x7FFFFFFF by decide)]
    split <;> rfl
  · next hf =>
    simp only [toOption_mapError, toOption_map, IntegerText.readInt64, htext, if_neg hf,
      toOption_read_writeInt (show (-0x8000000000000000 : Int) < 0 by decide)
        (show (0 : Int) ≤ 0x7FFFFFFFFFFFFFFF by decide)]
    split <;> rfl

theorem toOption_integerOfNumber : (integerOfNumber format (.whole n)).toOption = integerOf? format n.value := by
  have hleast := n.least
  unfold integerOf?
  by_cases hn : n.value < 0x8000000000000000
  · have hvalue : (Int64.ofInt n.value).toInt = n.value := Int64.toInt_ofInt_of_le (by omega) (by omega)
    have hsmall : (Json.Number.whole n).toInt64? = some (Int64.ofInt n.value) := if_pos hn
    unfold integerOfNumber
    by_cases hf : format = some .int32
    · subst hf
      rw [hsmall]
      simp only [hvalue, if_true]
      split <;> split <;> first | omega | rfl
    · rw [hsmall, if_neg hf, if_pos (by omega)]
      split <;> simp_all [Except.toOption]
  · have hlarge : (Json.Number.whole n).toInt64? = none := if_neg hn
    unfold integerOfNumber
    rw [hlarge]
    split_ifs <;> first | omega | rfl

private theorem toNat_of_mem_writeInt {n : Int} {c : Char} (h : c ∈ Json.writeInt n) : c.toNat ≤ 57 := by
  unfold Json.writeInt at h
  split at h
  · rcases List.mem_cons.1 h with rfl | h
    · decide
    · exact (Json.toNat_of_mem_digits h).2
  · exact (Json.toNat_of_mem_digits h).2

end Integers

/-- A plain value in JSON and its text are one and the same value of an integer or a truth value, or neither is any. -/
theorem toOption_scalarOfText {type : ValueType} (htype : type = .integer ∨ type = .boolean) {value : Json}
    (hv : value.Plain) (format : Option Format) :
    (scalarOfText type format value.text).toOption = (scalarOfJson type format value).toOption := by
  rcases htype with rfl | rfl
  · simp only [scalarOfText, toOption_mapError]
    cases hv with
    | whole n => exact (toOption_integerOfText n).trans (toOption_integerOfNumber n).symm
    | bool b =>
      unfold integerOfText
      cases b <;> split <;> rfl
  · simp only [scalarOfText, toOption_mapError, toOption_map]
    cases hv with
    | whole n =>
      have hword {word : String} (hw : 'e' ∈ word.toList) : (Json.number (.whole n)).text ≠ word := by
        rintro rfl
        rw [Json.text, String.toList_ofList] at hw
        exact absurd (toNat_of_mem_writeInt hw) (by decide)
      rw [boolOfText, if_neg (hword (by decide)), if_neg (hword (by decide))]
      rfl
    | bool b => cases b <;> rfl

end Coercion
end RequestBinding
