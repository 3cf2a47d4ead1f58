import RequestBinding.Proofs.Coercion.Spelling

/-! Integers of both widths, from texts and from numbers in JSON. Texts are read that denote an integer within the
bounds of the width, and a number in JSON is read as its text is. -/

namespace RequestBinding

namespace Json

private theorem point_mem_positional (text : List Char) (power : Int) : '.' ∈ positional text power := by
  simp only [positional]
  split_ifs <;> simp

private theorem mark_mem_scientific (text : List Char) (power : Int) : 'e' ∈ scientific text power := by
  simp only [scientific]
  exact List.mem_append_left _ (List.mem_append_right _ (List.mem_cons_self ..))

private theorem mem_writeDouble (x : Double) : '.' ∈ writeDouble x ∨ 'e' ∈ writeDouble x := by
  simp only [writeDouble]
  split_ifs <;> simp only [List.mem_append, point_mem_positional, mark_mem_scientific, or_true, true_or]
  all_goals decide

end Json

namespace Coercion

open IntegerText (Denotes)

variable {format : Option Format} {value : Value}

private theorem integerOfText_eq_ok_iff {text : String} :
    integerOfText format text = .ok value ↔ ∃ n, Denotes text.toList n ∧ integerOf? format n = some value := by
  unfold integerOfText integerOf?
  split
  · simp only [mapError_eq_ok, map_map_eq_ok, IntegerText.readInt32, if_true, Option.ite_none_right_eq_some,
      Option.some.injEq, and_assoc,
      IntegerText.read_eq_ok_iff (show (-0x80000000 : Int) < 0 by decide) (show (0 : Int) ≤ 0x7FFFFFFF by decide)]
  · next hf =>
    simp only [mapError_eq_ok, map_map_eq_ok, IntegerText.readInt64, if_neg hf, Option.ite_none_right_eq_some,
      Option.some.injEq, and_assoc,
      IntegerText.read_eq_ok_iff (show (-0x8000000000000000 : Int) < 0 by decide)
        (show (0 : Int) ≤ 0x7FFFFFFFFFFFFFFF by decide)]

private theorem not_denotes_writeDouble (x : Double) (n : Int) : ¬ Denotes (Json.writeDouble x) n := by
  intro h
  rcases Json.mem_writeDouble x with hc | hc
  · exact absurd (h.isDigit hc) (by decide)
  · exact absurd (h.isDigit hc) (by decide)

private theorem integerOfNumber_eq_ok_iff {number : Json.Number} :
    integerOfNumber format number = .ok value ↔ integerOfText format number.text = .ok value := by
  cases number with
  | whole n =>
    rw [← toOption_eq_some, toOption_integerOfNumber, ← toOption_integerOfText, toOption_eq_some]
  | fractional x =>
    have htext : (Json.Number.fractional x).text.toList = Json.writeDouble x.value := String.toList_ofList
    rw [integerOfText_eq_ok_iff, htext]
    constructor
    · intro h
      cases h
    · rintro ⟨n, hn, -⟩
      exact absurd hn (not_denotes_writeDouble x.value n)

section Schema

variable {s : Schema} (ht : s.type = .integer)
include ht

private theorem ofText_integer (text : String) : ofText s text =
    atPlace ((integerOfText s.format text).mapError (.notText text (labelOf .integer s.format))) := by
  rw [ofText, coerce_scalar (by rw [ht]; decide) (by rw [ht]; decide), ht]
  rfl

private theorem ofJson_integer (number : Json.Number) :
    ofJson s (.number number) = atPlace (integerOfNumber s.format number) := by
  rw [ofJson, coerce_scalar (by rw [ht]; decide) (by rw [ht]; decide), ht]
  rfl

private theorem ofText_integer_eq_ok_iff {text : String} :
    ofText s text = .ok value ↔ integerOfText s.format text = .ok value := by
  rw [ofText_integer ht, atPlace_eq_ok, mapError_eq_ok]

/-- Under a schema of an integer exactly those texts are read that are digits behind an optional sign and denote an
integer within the bounds of 32 or, without the format of these, of 64 bits, as this integer; for any other text the one
failure is a malformed value at the place itself. A number in JSON is read exactly if its text is, as the same. -/
theorem ofText_reads_integers :
    (s.format = some .int32 → ∀ text value, ofText s text = .ok value ↔ ∃ n, Denotes text.toList n ∧
      -0x80000000 ≤ n ∧ n < 0x80000000 ∧ value = .int32 (.ofInt n)) ∧
    (s.format ≠ some .int32 → ∀ text value, ofText s text = .ok value ↔ ∃ n, Denotes text.toList n ∧
      -0x8000000000000000 ≤ n ∧ n < 0x8000000000000000 ∧ value = .int64 (.ofInt n)) ∧
    (∀ text, (∀ value, ofText s text ≠ .ok value) → ∃ failure, ofText s text = .error [failure] ∧
      failure.kind = .malformedValue ∧ failure.path = "") ∧
    ∀ number value, ofJson s (.number number) = .ok value ↔ ofText s number.text = .ok value := by
  refine ⟨fun hf text value => ?_, fun hf text value => ?_, fun text h => ?_, fun number value => ?_⟩
  · rw [ofText_integer_eq_ok_iff ht, integerOfText_eq_ok_iff]
    refine exists_congr fun n => and_congr_right fun _ => ?_
    rw [integerOf?, if_pos hf, Option.ite_none_right_eq_some, Option.some.injEq, eq_comm, and_assoc]
    exact and_congr_right fun _ => and_congr_left fun _ => by omega
  · rw [ofText_integer_eq_ok_iff ht, integerOfText_eq_ok_iff]
    refine exists_congr fun n => and_congr_right fun _ => ?_
    rw [integerOf?, if_neg hf, Option.ite_none_right_eq_some, Option.some.injEq, eq_comm, and_assoc]
    exact and_congr_right fun _ => and_congr_left fun _ => by omega
  · rw [ofText_integer ht] at h ⊢
    cases hread : integerOfText s.format text with
    | ok value => exact absurd (by rw [hread]; rfl) (h value)
    | error fault => exact ⟨_, rfl, rfl, rfl⟩
  · rw [ofJson_integer ht, atPlace_eq_ok, integerOfNumber_eq_ok_iff, ofText_integer_eq_ok_iff ht]

end Schema

/-- The least integer of 32 bits behind leading zeros. -/
theorem ofText_reads_integers_of_least :
    let s := (Schema.ofType .integer).withFormat .int32
    let text := "-002147483648"
    s.type = .integer ∧ s.format = some .int32 ∧ Denotes text.toList (-0x80000000) ∧
      ofText s text = .ok (.int32 (.ofInt (-0x80000000))) := by
  intro s text
  have hdigits : IntegerText.AllDigits "002147483648".toList := ⟨by decide, List.all_eq_true.1 (by decide)⟩
  have hvalue : Nat.ofDigitChars 10 "002147483648".toList 0 = 0x80000000 := by decide
  have htext : text.toList = '-' :: "002147483648".toList := by decide
  have hdenotes : Denotes text.toList (-0x80000000) := by
    have hminus := Denotes.minus hdigits
    rwa [hvalue, ← htext] at hminus
  refine ⟨rfl, rfl, hdenotes, ((ofText_reads_integers rfl).1 rfl text _).2 ⟨-0x80000000, hdenotes, ?_, ?_, rfl⟩⟩
  · decide
  · decide

end Coercion
end RequestBinding
